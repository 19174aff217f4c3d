/-!
# Quoted texts in TOML

Four kinds of quotes hold texts: single or double, once or three times. A text in single quotes
stands for itself. In double quotes a backslash starts an escape. Three quotes hold a text of
several lines. Line ends are single line feeds throughout; `Toml.Token` sees to that.
-/

namespace TreeEditor.Toml

/-- Whether a character may stand in a text or comment by itself: a tab, or no control
character. -/
def isTextChar (c : Char) : Bool := c = '\t' || (0x20 ≤ c.toNat && c.toNat ≠ 0x7F)

/-- The value of a digit in bases up to sixteen. -/
def digit? (base : Nat) (c : Char) : Option Nat :=
  let value? :=
    if c.isDigit then some (c.toNat - '0'.toNat)
    else if 'a' ≤ c && c ≤ 'f' then some (c.toNat - 'a'.toNat + 10)
    else if 'A' ≤ c && c ≤ 'F' then some (c.toNat - 'A'.toNat + 10)
    else none
  value?.filter (· < base)

/-- The character with a number, if there is one. -/
def char? (n : Nat) : Option Char := if n.isValidChar then some (Char.ofNat n) else none

/-! ## Finding the end -/

/-- Splits a text behind its closing quote: what is inside, and what follows. The quote must come on
the same line. With `escapes`, a character behind a backslash does not count as a quote. -/
def splitLine (quote : Char) (escapes : Bool) : List Char → Option (List Char × List Char)
  | [] => none
  | c :: cs =>
    if c = quote then some ([], cs)
    else if c = '\n' then none
    else if escapes && c = '\\' then
      match cs with
      | [] => none
      | d :: cs => (splitLine quote escapes cs).map fun (body, rest) => (c :: d :: body, rest)
    else (splitLine quote escapes cs).map fun (body, rest) => (c :: body, rest)

/-- Splits a text behind its three closing quotes. One or two quotes right before them belong to the
text. -/
def splitLines (quote : Char) (escapes : Bool) : List Char → Option (List Char × List Char)
  | [] => none
  | c :: cs =>
    let run := min 5 ((c :: cs).takeWhile (· = quote)).length
    if 3 ≤ run then some (List.replicate (run - 3) quote, (c :: cs).drop run)
    else if escapes && c = '\\' then
      match cs with
      | [] => none
      | d :: cs => (splitLines quote escapes cs).map fun (body, rest) => (c :: d :: body, rest)
    else (splitLines quote escapes cs).map fun (body, rest) => (c :: body, rest)

/-! ## Escapes -/

/-- How far the reading of an escape has come. -/
inductive Escape where
  /-- Outside of escapes. -/
  | none
  /-- Behind a backslash. -/
  | opened
  /-- Within a character number, with some more digits to come. -/
  | number (digits value : Nat)
  /-- Among the blanks that join two lines, before or behind the line end. -/
  | joint (crossed : Bool)

/-- Reads a character outside of escapes. -/
def plainStep (multi : Bool) (c : Char) : Option (Escape × List Char) :=
  if c = '\\' then some (.opened, [])
  else if isTextChar c || (multi && c = '\n') then some (.none, [c])
  else none

/-- Reads the character behind a backslash. -/
def openedStep (multi : Bool) (c : Char) : Option (Escape × List Char) :=
  match c with
  | 'b' => some (.none, ['\x08'])
  | 't' => some (.none, ['\t'])
  | 'n' => some (.none, ['\n'])
  | 'f' => some (.none, ['\x0c'])
  | 'r' => some (.none, ['\r'])
  | 'e' => some (.none, ['\x1b'])
  | '"' => some (.none, ['"'])
  | '\\' => some (.none, ['\\'])
  | 'x' => some (.number 2 0, [])
  | 'u' => some (.number 4 0, [])
  | 'U' => some (.number 8 0, [])
  | ' ' | '\t' => if multi then some (.joint false, []) else none
  | '\n' => if multi then some (.joint true, []) else none
  | _ => none

/-- Reads one character of a text in double quotes: how far the escape has come after it, and the
characters it completes. -/
def escapeStep (multi : Bool) : Escape → Char → Option (Escape × List Char)
  | .none, c => plainStep multi c
  | .opened, c => openedStep multi c
  | .number digits value, c => do
    let value := 16 * value + (← digit? 16 c)
    if digits ≤ 1 then return (.none, [← char? value])
    return (.number (digits - 1) value, [])
  | .joint crossed, c =>
    if c = '\n' then some (.joint true, [])
    else if c = ' ' || c = '\t' then some (.joint crossed, [])
    else if crossed then plainStep multi c
    else none

/-- Reads the escapes of a text in double quotes. -/
def unescape (multi : Bool) : Escape → List Char → Option (List Char)
  | .none, [] | .joint true, [] => some []
  | _, [] => none
  | state, c :: cs => do
    let (state, read) ← escapeStep multi state c
    return read ++ (← unescape multi state cs)

/-! ## Reading a text -/

/-- The text of the characters between single quotes. -/
def literal (multi : Bool) (body : List Char) : Option (List Char) :=
  if body.all fun c => isTextChar c || (multi && c = '\n') then some body else none

/-- The text of the characters between quotes of a kind. -/
def bodyText (quote : Char) (multi : Bool) (body : List Char) : Option String :=
  let read? := if quote = '"' then unescape multi .none body else literal multi body
  read?.map String.ofList

/-- Reads a text from behind its first quote on. A line end right behind three quotes does not
count. Returns the text, whether it may have several lines, and what follows it. -/
def quotedText (quote : Char) (cs : List Char) : Option (String × Bool × List Char) :=
  let escapes := quote = '"'
  if [quote, quote].isPrefixOf cs then do
    let cs := cs.drop 2
    let cs := if cs.head? = some '\n' then cs.tail else cs
    let (body, rest) ← splitLines quote escapes cs
    return (← bodyText quote true body, true, rest)
  else do
    let (body, rest) ← splitLine quote escapes cs
    return (← bodyText quote false body, false, rest)

end TreeEditor.Toml
