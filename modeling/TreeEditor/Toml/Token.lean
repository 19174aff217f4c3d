import TreeEditor.Toml.Quoted

/-!
# Tokens of TOML

A text is cut into words, quoted texts, marks and line ends; blanks and comments leave no token. A
carriage return counts as part of the line feed behind it and is refused elsewhere. A byte order
mark at the start is passed over.
-/

namespace TreeEditor.Toml

/-- The pieces of a text. -/
inductive Token where
  /-- A run of letters, digits, dashes, underscores and signs. -/
  | word (chars : List Char)
  /-- A quoted text, and whether its quotes allow several lines. -/
  | text (s : String) (multi : Bool)
  | dot
  | comma
  | equals
  | openBracket
  | closeBracket
  | openBrace
  | closeBrace
  | newline
deriving DecidableEq

/-- Drops the carriage returns before line feeds. There may be no others. -/
def unixLines : List Char → Option (List Char)
  | [] => some []
  | '\r' :: '\n' :: cs => (unixLines cs).map ('\n' :: ·)
  | c :: cs => if c = '\r' then none else (unixLines cs).map (c :: ·)

/-- Drops a byte order mark at the start. -/
def dropMark : List Char → List Char
  | '\ufeff' :: cs => cs
  | cs => cs

/-- Whether a character may stand in a word. -/
def isWordChar (c : Char) : Bool := c.isAlphanum || c = '_' || c = '-' || c = '+'

/-- The token of a mark. -/
def mark? : Char → Option Token
  | '.' => some .dot
  | ',' => some .comma
  | '=' => some .equals
  | '[' => some .openBracket
  | ']' => some .closeBracket
  | '\x7b' => some .openBrace
  | '\x7d' => some .closeBrace
  | '\n' => some .newline
  | _ => none

/-- Cuts characters into tokens. Each token, blank or comment takes one unit of fuel and at least
one character. -/
def tokensFrom : Nat → List Char → Option (List Token)
  | _, [] => some []
  | 0, _ :: _ => none
  | fuel + 1, c :: cs =>
    if c = ' ' || c = '\t' then tokensFrom fuel cs
    else if c = '#' then
      if (cs.takeWhile (· ≠ '\n')).all isTextChar then tokensFrom fuel (cs.dropWhile (· ≠ '\n'))
      else none
    else if c = '"' || c = '\x27' then do
      let (s, multi, rest) ← quotedText c cs
      return .text s multi :: (← tokensFrom fuel rest)
    else if isWordChar c then do
      let rest ← tokensFrom fuel (cs.dropWhile isWordChar)
      return .word (c :: cs.takeWhile isWordChar) :: rest
    else do
      let token ← mark? c
      return token :: (← tokensFrom fuel cs)

/-- The tokens of a text. -/
def tokens? (s : String) : Option (List Token) := do
  let cs ← unixLines (dropMark s.toList)
  tokensFrom cs.length cs

end TreeEditor.Toml
