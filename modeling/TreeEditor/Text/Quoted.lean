import TreeEditor.Text.Combining
import TreeEditor.Text.Unprintable

/-!
# Quoted text

How a text is written inside a message: between double quotes, on one line, with every character
that could be overlooked or misread written as an escape.
-/

namespace TreeEditor.Text

/-- A character by its number, in hexadecimal. -/
def numbered (c : Char) : String :=
  "\\u\x7b" ++ String.ofList (Nat.toDigits 16 c.toNat) ++ "\x7d"

/-- A character as it is written between double quotes. -/
def escaped (c : Char) : String :=
  match c with
  | '\x00' => "\\0"
  | '\t' => "\\t"
  | '\n' => "\\n"
  | '\r' => "\\r"
  | '"' => "\\\""
  | '\\' => "\\\\"
  | c => if isCombining c || isUnprintable c then numbered c else c.toString

/-- A text between double quotes. -/
def quoted (s : String) : String :=
  "\"" ++ String.join (s.toList.map escaped) ++ "\""

end TreeEditor.Text
