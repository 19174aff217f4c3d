/-!
# Outlines

The shape of a printed value: a text, or items between brackets behind a head. An outline is
written on one line (`line`) or with one item to a line (`block`).
-/

namespace TreeEditor

/-- The brackets around the items of an outline. -/
inductive Brackets where
  /-- A sequence, in square brackets. -/
  | list
  /-- The arguments of a constructor, in parentheses. -/
  | tuple
  /-- Named fields, in braces set off by blanks. -/
  | record
deriving DecidableEq

/-- The shape of a printed value. -/
inductive Outline where
  /-- A text, never broken. -/
  | text (s : String)
  /-- Items in brackets, behind a head. -/
  | group (head : String) (brackets : Brackets) (items : List Outline)
  /-- A named item. -/
  | field (name : String) (value : Outline)

namespace Brackets

/-- The opening bracket, without the blank that follows it on one line. -/
def opening : Brackets → String
  | list => "["
  | tuple => "("
  | record => " \x7b"

def closing : Brackets → String
  | list => "]"
  | tuple => ")"
  | record => "\x7d"

/-- What separates the brackets from the items on one line. -/
def padding : Brackets → String
  | list | tuple => ""
  | record => " "

end Brackets

namespace Outline

mutual

/-- The outline on one line. -/
def line : Outline → String
  | .text s => s
  | .group head b items =>
    head ++ b.opening ++ b.padding ++ ", ".intercalate (lines items) ++ b.padding ++ b.closing
  | .field name value => name ++ ": " ++ line value

/-- Each outline on one line. -/
def lines : List Outline → List String
  | [] => []
  | x :: xs => line x :: lines xs

end

/-- The blanks before a line at a level of nesting. -/
def indent (level : Nat) : String := "".pushn ' ' (4 * level)

mutual

/-- The outline with one item to a line, from the given level of nesting on. A group without items
stays on one line. -/
def block (level : Nat) : Outline → String
  | .text s => s
  | .group head b [] => head ++ b.opening ++ b.closing
  | .group head b (x :: xs) =>
    head ++ b.opening ++ "\n" ++ blocks (level + 1) (x :: xs) ++ indent level ++ b.closing
  | .field name value => name ++ ": " ++ block level value

/-- Each outline on lines of its own, followed by a comma. -/
def blocks (level : Nat) : List Outline → String
  | [] => ""
  | x :: xs => indent level ++ block level x ++ ",\n" ++ blocks level xs

end

end Outline

end TreeEditor
