import TreeEditor.Alphabet

/-!
# Faults

What can be wrong with a tree or a frame, and how each fault is worded.
-/

namespace TreeEditor

/-- A way in which a node breaks the signature. -/
inductive Fault (A : Alphabet) where
  /-- The rule is not one of the category's. -/
  | unknownRule (cat : A.Cat) (rule : A.Rule)
  /-- The number of children is not the number of slots. -/
  | wrongArity (rule : A.Rule) (expected found : Nat)
  /-- The child in a slot has another category. -/
  | wrongCategory (rule : A.Rule) (index : Nat) (expected found : A.Cat)
  /-- The gap of a frame lies beyond the slots of its rule. -/
  | gapOutOfRange (rule : A.Rule) (index arity : Nat)
deriving DecidableEq

/-- The wording of a fault. -/
def Fault.message {A : Alphabet} : Fault A → String
  | .unknownRule cat rule => s!"rule {A.showRule rule} is not legal for {A.showCat cat}"
  | .wrongArity rule expected found =>
    s!"rule {A.showRule rule} expects {expected} children, found {found}"
  | .wrongCategory rule index expected found =>
    s!"slot {index} of {A.showRule rule} expects {A.showCat expected}, found {A.showCat found}"
  | .gapOutOfRange rule index arity =>
    s!"hole index {index} out of range for {A.showRule rule} with arity {arity}"

end TreeEditor
