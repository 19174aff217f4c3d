import TreeEditor.Grammar.Basic

/-!
# A grammar for sums of numbers

A small language whose values are numbers, among them one that is not a number and differs from
itself, as it does in floating-point arithmetic. Terms are numbers, sums, holes, and terms scaled by
a factor. Its values have no lawful comparison, not even a reflexive one.
-/

namespace TreeEditor

namespace Numeric

/-- The rules of the language. -/
inductive Rule where
  | number
  | sum
  | scaled
  | hole
deriving DecidableEq

/-- The printed form of a rule. -/
def Rule.text : Rule → String
  | number => "Number"
  | sum => "Sum"
  | scaled => "Scaled"
  | hole => "Hole"

/-- Whether two numbers are the same, where `none` is not a number and not the same as any, itself
included. -/
def sameNumber : Option Nat → Option Nat → Bool
  | some m, some n => m = n
  | _, _ => false

/-- The labels of the language. There is one category. -/
abbrev alphabet : Alphabet where
  Cat := Unit
  Rule := Rule
  Value := Option Nat
  sameValue := sameNumber
  showCat _ := "Term"
  showRule := Rule.text
  showValue n := (n.map toString).getD "NaN"

/-- The nodes of the language. -/
def signature : Signature alphabet where
  rules _ := [.number, .sum, .scaled, .hole]
  slots
    | .sum => [(), ()]
    | .scaled => [()]
    | .number | .hole => []
  defaultValue _ := some 0
  holeRule _ := .hole

/-- The grammar of the language, in which every position and range may be in focus. -/
def grammar (known : Sharing alphabet) : Grammar alphabet where
  toSignature := signature
  known := known

/-! ## Terms -/

/-- A number. -/
def number (n : Nat) : Tree alphabet := .node ⟨(), .number, some n⟩ []

/-- A sum with a gap for its first term. -/
def firstFrame (second : Tree alphabet) : Frame alphabet := ⟨⟨(), .sum, some 0⟩, [], [second]⟩

/-- A gap scaled by what is not a number. -/
def nanFrame : Frame alphabet := ⟨⟨(), .scaled, none⟩, [], []⟩

theorem nanFrame_not_same (known : Sharing alphabet) : nanFrame.same known nanFrame = false := rfl

end Numeric

end TreeEditor
