import TreeEditor.Selection.Basic

/-!
# Modes

The editor has in focus either a subtree (a cursor) or a range (a selection). What is taken from
the one is a tree, from the other a context, and a `Clipping` is either.
-/

namespace TreeEditor

/-- The two kinds of focus. -/
inductive ModeKind where
  | cursor
  | select
deriving DecidableEq

/-- The name of a kind of focus. -/
def ModeKind.name : ModeKind → String
  | cursor => "cursor"
  | select => "select"

/-- What is in focus. -/
inductive Mode (A : Alphabet) where
  | cursor (c : Cursor A)
  | select (s : Selection A)

/-- What was copied or cut. -/
inductive Clipping (A : Alphabet) where
  | tree (t : Tree A)
  | context (c : Context A)

/-- Whether two clippings are the same. -/
def Clipping.same {A : Alphabet} (known : Sharing A) : Clipping A → Clipping A → Bool
  | tree t, tree u => t.same known u
  | context c, context d => c.same known d
  | _, _ => false

namespace Mode

variable {A : Alphabet}

/-- Whether the same is in focus. -/
def same (known : Sharing A) : Mode A → Mode A → Bool
  | cursor c, cursor d => c.same known d
  | select s, select t => s.same known t
  | _, _ => false

def kind : Mode A → ModeKind
  | cursor _ => .cursor
  | select _ => .select

/-- The subtree in focus; for a selection, the tree below the range. -/
def focus : Mode A → Tree A
  | cursor c => c.focus
  | select s => s.focus

/-- The whole document. -/
def document : Mode A → Tree A
  | cursor c => c.document
  | select s => s.document

/-- What copying takes. -/
def clipping : Mode A → Clipping A
  | cursor c => .tree c.focus
  | select s => .context s.range

end Mode

end TreeEditor
