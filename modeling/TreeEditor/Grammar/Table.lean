import TreeEditor.Grammar.Basic
import TreeEditor.Text.Quoted

/-!
# Grammars given by tables

A grammar whose categories, rules and values are all texts, described by data: what each category
and each rule is, which positions and ranges are refused, what typed texts mean, and where a
selection collapses to. A name without an entry is a category without rules, or a rule without
slots.
-/

namespace TreeEditor

namespace Table

/-- Texts as labels, quoted in messages. -/
abbrev alphabet : Alphabet where
  Cat := String
  Rule := String
  Value := String
  sameValue v w := v = w
  showCat := Text.quoted
  showRule := Text.quoted
  showValue := Text.quoted

/-- What a table says about a category. -/
structure CatEntry where
  rules : List String := []
  hole : String := "Hole"

/-- What a table says about a rule. -/
structure RuleEntry where
  slots : List String := []
  defaultValue : String := ""

/-- The meaning of one text. -/
structure QueryEntry where
  /-- The category at which the text has this meaning; every one if absent. -/
  cat? : Option String
  text : String
  rule : String
  value : String

/-- Where a selection collapses to. -/
inductive Collapse where
  | outer
  | inner
  | fixed
  | movable
deriving DecidableEq

/-- The editing conventions of a table. -/
structure Conventions where
  /-- The categories that are never in focus. -/
  hiddenCats : List String := []
  /-- The rules that are never in focus. -/
  hiddenRules : List String := []
  /-- How deep a focus may be. -/
  maxDepth? : Option Nat := none
  /-- How many frames a range may have. -/
  maxRange? : Option Nat := none
  /-- Whether a range must have one category at both ends. -/
  sameCategory : Bool := false
  /-- What texts mean; the first match counts. -/
  queries : List QueryEntry := []
  collapse : Collapse := .movable

end Table

/-- A grammar as data. -/
structure Table where
  cats : List (String × Table.CatEntry)
  rules : List (String × Table.RuleEntry)
  conventions : Table.Conventions := {}

namespace Table

/-- The entry of a category. -/
def cat (t : Table) (name : String) : CatEntry := (t.cats.lookup name).getD {}

/-- The entry of a rule. -/
def rule (t : Table) (name : String) : RuleEntry := (t.rules.lookup name).getD {}

/-- The nodes of a table. -/
def signature (t : Table) : Signature alphabet where
  rules name := (t.cat name).rules
  slots name := (t.rule name).slots
  defaultValue name := (t.rule name).defaultValue
  holeRule name := (t.cat name).hole

namespace Conventions

/-- Whether a position may be in focus. -/
def admitsCursor (k : Conventions) (c : Cursor alphabet) : Bool :=
  !k.hiddenCats.contains c.focus.cat && !k.hiddenRules.contains c.focus.rule &&
    k.maxDepth?.all fun limit => c.depth ≤ limit

/-- Whether a range may be in focus. -/
def admitsSelection (k : Conventions) (s : Selection alphabet) : Bool :=
  k.maxRange?.all (fun limit => s.range.depth ≤ limit) && (!k.sameCategory || s.keepsCategory)

/-- The meaning of a text typed at a category. -/
def readQuery (k : Conventions) (cat text : String) : Option (String × String) :=
  let entry? := k.queries.find? fun q => q.cat?.all (· = cat) && q.text = text
  entry?.map fun q => (q.rule, q.value)

/-- The cursor to which a selection collapses. -/
def cursorOf (k : Conventions) (s : Selection alphabet) : Cursor alphabet :=
  match k.collapse with
  | .outer => s.cursorAt .outer
  | .inner => s.cursorAt .inner
  | .fixed => s.fixedCursor
  | .movable => s.movableCursor

end Conventions

/-- The grammar that a table describes. -/
def grammar (t : Table) : Grammar alphabet where
  toSignature := t.signature
  admitsCursor := t.conventions.admitsCursor
  admitsSelection := t.conventions.admitsSelection
  readQuery := t.conventions.readQuery
  collapse := t.conventions.cursorOf

end Table

end TreeEditor
