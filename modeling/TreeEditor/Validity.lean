import TreeEditor.Context
import TreeEditor.Fault
import TreeEditor.Signature

/-!
# Validity

A node is checked against the signature on its own (`checkNode`); a tree by checking its nodes one
after another from a list of subtrees still to be visited (`validateAll`), in reading order, until
one fails; a frame like a node whose gap is filled with whatever fits; and a context frame by frame,
each gap against the category that comes up from below (`checkAround`).
-/

namespace TreeEditor

variable {A : Alphabet}

/-- The outcome of a check: nothing, or the first fault. -/
abbrev Check (A : Alphabet) := Except (Fault A) Unit

/-- The categories of the children, none for the gap. -/
def Frame.contents (f : Frame A) : List (Option A.Cat) :=
  (f.left.reverse.map fun k => some k.cat) ++ none :: f.right.map fun k => some k.cat

namespace Signature

variable (S : Signature A)

/-- Compares the contents of the slots from `index` on with the categories that belong there. A
gap fits everywhere. -/
def checkSlots (rule : A.Rule) (index : Nat) : List A.Cat → List (Option A.Cat) → Check A
  | expected :: slots, some found :: contents =>
    if found = expected then checkSlots rule (index + 1) slots contents
    else .error (.wrongCategory rule index expected found)
  | _ :: slots, none :: contents => checkSlots rule (index + 1) slots contents
  | _, _ => .ok ()

/-- Checks one node, given by its label and the categories of its children: first its rule, then
the number of children, then their categories from left to right. -/
def checkNode (l : Label A) (contents : List (Option A.Cat)) : Check A :=
  let slots := S.slots l.rule
  if l.rule ∉ S.rules l.cat then .error (.unknownRule l.cat l.rule)
  else if slots.length ≠ contents.length then
    .error (.wrongArity l.rule slots.length contents.length)
  else checkSlots l.rule 0 slots contents

/-- Checks the root of a tree. -/
def checkRoot (t : Tree A) : Check A := S.checkNode t.label (t.kids.map fun k => some k.cat)

/-- Checks every node of the pending trees, those of the first tree first. -/
def validateAll : List (Tree A) → Check A
  | [] => .ok ()
  | t :: pending => do
    S.checkRoot t
    validateAll (t.kids ++ pending)
termination_by pending => Tree.sizeAll pending
decreasing_by
  simp only [Tree.sizeAll_append, Tree.sizeAll_cons, Tree.size_eq t]
  omega

/-- Checks every node of a tree. -/
def validate (t : Tree A) : Check A := S.validateAll [t]

/-- Checks a frame on its own: that its rule has a slot for the gap, its node, then the trees beside
the gap, those on the left (nearest first) before those on the right. -/
def checkFrame (f : Frame A) : Check A := do
  let slots := S.slots f.rule
  if slots.length ≤ f.index then
    throw (.gapOutOfRange f.rule f.index slots.length)
  S.checkNode f.label f.contents
  S.validateAll (f.left ++ f.right)

/-- Checks each frame of a context on its own, innermost first. -/
def checkEach (c : Context A) : Check A := c.frames.forM S.checkFrame

/-- Checks that a tree of category `below` belongs into the gap of a frame. -/
def checkGap (f : Frame A) (below : A.Cat) : Check A :=
  match S.gapCat? f with
  | some expected =>
    if expected = below then .ok () else .error (.wrongCategory f.rule f.index expected below)
  | none => .ok ()

/-- Checks frames from the inside out, around a tree of category `below`. -/
def checkFrames : List (Frame A) → A.Cat → Check A
  | [], _ => .ok ()
  | f :: outer, below => do
    S.checkFrame f
    S.checkGap f below
    checkFrames outer f.cat

/-- Checks a context around a tree of category `below`. -/
def checkAround (c : Context A) (below : A.Cat) : Check A := S.checkFrames c.frames below

end Signature

end TreeEditor
