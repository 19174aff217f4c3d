import TreeEditor.Frame

/-!
# Signatures

A `Signature` says which nodes are legal: the rules of each category, and the categories of the
children of each rule. It also names the placeholder of each category, a *hole*, and the value of a
node built without one. From these come the templates: a node, or a frame, whose children are holes.
-/

namespace TreeEditor

/-- Which nodes are legal, and how unfinished ones are made. -/
structure Signature (A : Alphabet) where
  /-- The rules of a category. -/
  rules : A.Cat → List A.Rule
  /-- The categories of the children of a rule, in order. -/
  slots : A.Rule → List A.Cat
  /-- The value of a node that is made without one. -/
  defaultValue : A.Rule → A.Value
  /-- The rule of the placeholder for a category. -/
  holeRule : A.Cat → A.Rule

namespace Signature

variable {A : Alphabet} (S : Signature A)

/-- The placeholder for a category, always a leaf. -/
def hole (c : A.Cat) : Tree A :=
  .node ⟨c, S.holeRule c, S.defaultValue (S.holeRule c)⟩ []

/-- Whether a tree has the placeholder's rule at its root. -/
def isHole (t : Tree A) : Bool := t.rule = S.holeRule t.cat

/-- The node with the given label and a hole in each slot. -/
def template (l : Label A) : Tree A := .node l ((S.slots l.rule).map S.hole)

/-- The template of a rule with its default value. -/
def defaultTemplate (c : A.Cat) (r : A.Rule) : Tree A := S.template ⟨c, r, S.defaultValue r⟩

/-- The frame with the given label, its gap at slot `i` and a hole in each other slot. There is
none if the rule has no slot `i`. -/
def templateFrame? (l : Label A) (i : Nat) : Option (Frame A) :=
  let slots := S.slots l.rule
  if i < slots.length then
    some ⟨l, ((slots.take i).map S.hole).reverse, (slots.drop (i + 1)).map S.hole⟩
  else
    none

/-- The category that belongs into the gap of a frame. -/
def gapCat? (f : Frame A) : Option A.Cat := (S.slots f.rule)[f.index]?

end Signature

end TreeEditor
