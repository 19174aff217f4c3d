/-!
# Labels

An `Alphabet` fixes what the nodes of a document are labelled with: categories, rules and values,
each with a printed form. All of the library is parametric in it. A `Label` is what one node
carries, one letter of each kind.

Categories and rules have decidable equality. Values are opaque, and all that can be done with them
is to compare them by `sameValue`. Nothing is asked of this comparison: as with floating-point
numbers, a value may differ from itself. Where a result needs more, it says so: `Reflexive` and
`Lawful` are the two laws a comparison of values may have.
-/

namespace TreeEditor

/-- The labels of a language, and how each is printed in messages. -/
structure Alphabet where
  /-- Syntactic categories, such as expression or binder. -/
  Cat : Type
  /-- Productions. -/
  Rule : Type
  /-- Payloads, opaque to the editor. -/
  Value : Type
  [decEqCat : DecidableEq Cat]
  [decEqRule : DecidableEq Rule]
  /-- Whether two values count as the same, which a value and itself need not. -/
  sameValue : Value → Value → Bool
  /-- The printed form of a category. -/
  showCat : Cat → String
  /-- The printed form of a rule. -/
  showRule : Rule → String
  /-- The printed form of a value. -/
  showValue : Value → String

attribute [instance] Alphabet.decEqCat Alphabet.decEqRule

namespace Alphabet

/-- Every value is the same as itself. -/
def Reflexive (A : Alphabet) : Prop := ∀ v, A.sameValue v v = true

/-- The comparison of values decides their equality. -/
def Lawful (A : Alphabet) : Prop := ∀ v w, A.sameValue v w = true ↔ v = w

theorem Lawful.reflexive {A : Alphabet} (h : A.Lawful) : A.Reflexive := fun v => (h v v).2 rfl

end Alphabet

/-- What a node carries besides its children. -/
@[ext]
structure Label (A : Alphabet) where
  cat : A.Cat
  rule : A.Rule
  value : A.Value

namespace Label

variable {A : Alphabet}

instance [DecidableEq A.Value] : DecidableEq (Label A) :=
  fun _ _ => decidable_of_iff _ Label.ext_iff.symm

/-- Whether two labels count as the same. -/
def same (l m : Label A) : Bool :=
  l.cat = m.cat && l.rule = m.rule && A.sameValue l.value m.value

end Label

end TreeEditor
