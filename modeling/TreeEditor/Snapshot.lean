import TreeEditor.Command
import TreeEditor.Grammar.Movement
import TreeEditor.Refusal

/-!
# Snapshots

A `Snapshot` is all that a command can change apart from the history: what is in focus, and the
clipboard. `apply` carries out one command, and either gives the next snapshot or says why there is
none.

An edit is checked where it happens and nowhere else. What the command brings is checked on its own
first, under the fault policy (`Check.enforce`); then only the categories on both sides of the seam
are compared (`Check.fit`).
-/

namespace TreeEditor

variable {A : Alphabet}

/-- What is in focus, and the clipboard. -/
@[ext]
structure Snapshot (A : Alphabet) where
  mode : Mode A
  clipboard : Option (Clipping A)

/-- What a command comes to. -/
abbrev Outcome (A : Alphabet) (α : Type) := Except (Stop A) α

namespace Check

/-- Refuses a command whose tree or frames do not belong at the focus. -/
def fit (check : Check A) : Outcome A Unit :=
  check.mapError fun fault => .refused (.misfit fault)

/-- Stops a command that brings something malformed. -/
def enforce (policy : FaultPolicy) (check : Check A) : Outcome A Unit :=
  check.mapError policy.stop

end Check

namespace Context

/-- Checks that a tree of category `found` and rule `rule` may take the place of one of category
`current` in the gap. At the root there is no slot to name, so its rule is the one at fault. -/
def checkSwap (c : Context A) (current found : A.Cat) (rule : A.Rule) : Check A :=
  if found = current then .ok ()
  else
    match c.innermost? with
    | some parent => .error (.wrongCategory parent.rule parent.index current found)
    | none => .error (.unknownRule current rule)

/-- Checks that the frames of `c` belong around a tree of category `inner`, and then in the gap of
`above` in place of a tree of category `outer`. -/
def checkWrap (S : Signature A) (c : Context A) (inner : A.Cat) (above : Context A)
    (outer : A.Cat) : Check A := do
  S.checkAround c inner
  match c.outermost? with
  | some f => above.checkSwap outer f.cat f.rule
  | none => .ok ()

end Context

/-- The end that is movable when a selection opens with a move. -/
def Direction.opens : Direction → Boundary
  | .up | .prev => .outer
  | .down | .left | .right | .next => .inner

/-- The selection with more frames at its movable end. -/
def Selection.grow (s : Selection A) (c : Context A) : Selection A :=
  match s.movable with
  | .inner => .ofRange s.above (c ++ s.range) s.focus .inner
  | .outer => .ofRange s.above (s.range ++ c) s.focus .outer

namespace Snapshot

/-- The root of a document in focus, and nothing on the clipboard. -/
def ofDocument (t : Tree A) : Snapshot A := ⟨.cursor (.root t), none⟩

/-- Whether two snapshots are the same. -/
def same (known : Sharing A) (s t : Snapshot A) : Bool :=
  s.mode.same known t.mode &&
    match s.clipboard, t.clipboard with
    | some x, some y => x.same known y
    | none, none => true
    | _, _ => false

/-- The whole document. -/
def document (s : Snapshot A) : Tree A := s.mode.document

/-- The same clipboard with a cursor. -/
def withCursor (s : Snapshot A) (c : Cursor A) : Snapshot A := { s with mode := .cursor c }

/-- The same clipboard with a selection. -/
def withSelection (s : Snapshot A) (r : Selection A) : Snapshot A := { s with mode := .select r }

variable (g : Grammar A) (policy : FaultPolicy)

/-! ## Moving -/

/-- Moves the cursor. A selection collapses, and stays collapsed if the move then fails. -/
def moveCursor (s : Snapshot A) (d : Direction) : Outcome A (Snapshot A) :=
  match s.mode with
  | .cursor c =>
    match g.moveCursor? c d with
    | some moved => .ok (s.withCursor moved)
    | none => .error (.refused .boundary)
  | .select r =>
    let collapsed := g.collapse r
    .ok (s.withCursor ((g.moveCursor? collapsed d).getD collapsed))

/-- Moves the movable end of the selection, opened at the cursor if there is none. When the ends
meet, the selection closes to a cursor at the fixed end. -/
def moveSelection (s : Snapshot A) (d : Direction) : Outcome A (Snapshot A) :=
  let r := match s.mode with
    | .cursor c => Selection.ofCursor c d.opens
    | .select r => r
  match g.moveSelection? r d with
  | some (.range moved) => .ok (s.withSelection moved)
  | some .empty => .ok (s.withCursor r.fixedCursor)
  | none => .error (.refused .boundary)

/-- Goes to a position that the grammar admits. -/
def setCursor (s : Snapshot A) (c : Cursor A) : Outcome A (Snapshot A) :=
  if g.admitsCursor c then .ok (s.withCursor c) else .error (.refused .invalidPosition)

/-- Selects a range that the grammar admits. -/
def setSelection (s : Snapshot A) (r : Selection A) : Outcome A (Snapshot A) :=
  if g.admitsSelection r then .ok (s.withSelection r) else .error (.refused .invalidPosition)

/-- Collapses the selection. -/
def escape (s : Snapshot A) : Outcome A (Snapshot A) :=
  match s.mode with
  | .cursor _ => .error (.refused (.wrongMode .cursor))
  | .select r => .ok (s.withCursor (g.collapse r))

/-! ## Editing -/

/-- Puts a tree in place of the focus. -/
def replace (s : Snapshot A) (t : Tree A) : Outcome A (Snapshot A) :=
  match s.mode with
  | .select _ => .error (.refused (.wrongMode .select))
  | .cursor c => do
    (g.validate t).enforce policy
    (c.context.checkSwap c.focus.cat t.cat t.rule).fit
    return s.withCursor (c.withFocus t)

/-- Puts frames around the focus, or at the movable end of the selection. -/
def insert (s : Snapshot A) (frames : Context A) : Outcome A (Snapshot A) := do
  (g.checkEach frames).enforce policy
  match s.mode with
  | .cursor c =>
    (frames.checkWrap g.toSignature c.focus.cat c.context c.focus.cat).fit
    return s.withCursor ⟨frames ++ c.context, c.focus⟩
  | .select r =>
    let grown := r.grow frames
    (grown.range.checkWrap g.toSignature r.focus.cat r.above r.outerCat).fit
    if g.admitsSelection grown then return s.withSelection grown
    throw (.refused .invalidPosition)

/-- The cursor after the focus is taken out: a hole in place of the subtree, or the tree below the
range in place of the range. -/
def remove (mode : Mode A) : Outcome A (Cursor A) :=
  match mode with
  | .cursor c => do
    let hole := g.hole c.focus.cat
    (g.validate hole).enforce policy
    return c.withFocus hole
  | .select r => do
    r.checkRemoval.fit
    return ⟨r.above, r.focus⟩

/-- Takes out the focus. -/
def delete (s : Snapshot A) : Outcome A (Snapshot A) := do
  return s.withCursor (← remove g policy s.mode)

/-- Puts the focus on the clipboard. -/
def copy (s : Snapshot A) : Snapshot A := { s with clipboard := some s.mode.clipping }

/-- Takes out the focus and puts it on the clipboard. -/
def cut (s : Snapshot A) : Outcome A (Snapshot A) := do
  return s.copy.withCursor (← remove g policy s.mode)

/-- Puts what is on the clipboard in place of the focus if it is a tree, around it if it is a
context. -/
def paste (s : Snapshot A) : Outcome A (Snapshot A) :=
  match s.clipboard with
  | none => .error (.refused .emptyClipboard)
  | some (.tree t) => s.replace g policy t
  | some (.context frames) => s.insert g policy frames

/-- Carries out a command. A snapshot on its own has no history to go through. -/
def apply (s : Snapshot A) : Command A → Outcome A (Snapshot A)
  | .moveCursor d => s.moveCursor g d
  | .moveSelection d => s.moveSelection g d
  | .setCursor c => s.setCursor g c
  | .setSelection r => s.setSelection g r
  | .replace t => s.replace g policy t
  | .insert frames => s.insert g policy frames
  | .undo => .error (.refused .nothingToUndo)
  | .redo => .error (.refused .nothingToRedo)
  | .copy => .ok s.copy
  | .cut => s.cut g policy
  | .paste => s.paste g policy
  | .delete => s.delete g policy
  | .escape => s.escape g

end Snapshot

end TreeEditor
