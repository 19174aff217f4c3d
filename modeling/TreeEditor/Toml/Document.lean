import TreeEditor.Toml.Token
import TreeEditor.Toml.Value

/-!
# Documents of TOML

The tokens of a text are read as statements, each on its own line: a header, which says where the
following keys belong, or a key with its value. `read?` carries the statements out one after another
and gives the table they describe.

Only the kinds of values that settings have are read. Floats, booleans, dates and arrays of tables
are refused like any other text that is no value.
-/

namespace TreeEditor.Toml

/-! ## Integers -/

/-- Reads the digits behind a first one; an underscore may stand between two digits. -/
def moreDigits (base value : Nat) : List Char → Option Nat
  | [] => some value
  | '_' :: c :: cs => do moreDigits base (base * value + (← digit? base c)) cs
  | c :: cs => do moreDigits base (base * value + (← digit? base c)) cs

/-- Reads digits, at least one. -/
def digits? (base : Nat) : List Char → Option Nat
  | [] => none
  | c :: cs => do moreDigits base (← digit? base c) cs

/-- Reads a decimal number, which has no zero before its other digits. -/
def decimal? : List Char → Option Nat
  | '0' :: _ :: _ => none
  | cs => digits? 10 cs

/-- Reads an integer. Only a decimal number may have a sign. -/
def integer? : List Char → Option Int
  | '0' :: 'x' :: cs => (digits? 16 cs).map Int.ofNat
  | '0' :: 'o' :: cs => (digits? 8 cs).map Int.ofNat
  | '0' :: 'b' :: cs => (digits? 2 cs).map Int.ofNat
  | '+' :: cs => (decimal? cs).map Int.ofNat
  | '-' :: cs => (decimal? cs).map fun n => -Int.ofNat n
  | cs => (decimal? cs).map Int.ofNat

/-! ## Keys and values -/

/-- The key that a token is: a word without a sign in it, or a text on one line. -/
def key? : Token → Option String
  | .word chars => if chars.contains '+' then none else some (String.ofList chars)
  | .text s false => some s
  | _ => none

/-- Reads a dotted key. -/
def path? : List Token → Option (List String × List Token)
  | token :: .dot :: ts => do
    let key ← key? token
    let (path, ts) ← path? ts
    return (key :: path, ts)
  | token :: ts => do return ([← key? token], ts)
  | [] => none

/-- Drops line ends. -/
def dropNewlines (ts : List Token) : List Token := ts.dropWhile (· = .newline)

mutual

/-- Reads a value. Each call takes one unit of fuel, and of two calls within one another at least
one takes a token. -/
def value? : Nat → List Token → Option (Value × List Token)
  | 0, _ => none
  | fuel + 1, ts =>
    match ts with
    | .word chars :: ts => (integer? chars).map fun n => (.integer n, ts)
    | .text s _ :: ts => some (.text s, ts)
    | .openBracket :: ts => do
      let (items, ts) ← items? fuel ts
      return (.array items, ts)
    | .openBrace :: ts => do
      let (entries, ts) ← fields? fuel [] ts
      return (.table .inline entries, ts)
    | _ => none

/-- Reads the items of an array up to its closing bracket. Line ends may stand between them, and a
comma behind the last. -/
def items? : Nat → List Token → Option (List Value × List Token)
  | 0, _ => none
  | fuel + 1, ts =>
    match dropNewlines ts with
    | .closeBracket :: ts => some ([], ts)
    | ts => do
      let (item, ts) ← value? fuel ts
      match dropNewlines ts with
      | .closeBracket :: ts => return ([item], ts)
      | .comma :: ts =>
        let (items, ts) ← items? fuel ts
        return (item :: items, ts)
      | _ => none

/-- Reads the fields of a table in braces up to the closing brace, behind those already there. Line
ends may stand before and behind each key, each value and the marks between them, and a comma behind
the last field. -/
def fields? : Nat → Entries → List Token → Option (Entries × List Token)
  | 0, _, _ => none
  | fuel + 1, entries, ts =>
    match dropNewlines ts with
    | .closeBrace :: ts => some (entries, ts)
    | ts => do
      let (path, ts) ← path? ts
      let .equals :: ts := dropNewlines ts | none
      let (v, ts) ← value? fuel (dropNewlines ts)
      let entries ← entries.assign? path v
      match dropNewlines ts with
      | .closeBrace :: ts => return (entries, ts)
      | .comma :: ts => fields? fuel entries ts
      | _ => none

end

/-! ## Statements -/

/-- One line of a document. -/
inductive Statement where
  /-- Where the following keys belong. -/
  | header (path : List String)
  /-- A value for a key. -/
  | assign (path : List String) (v : Value)

/-- Reads one statement. -/
def statement? : List Token → Option (Statement × List Token)
  | .openBracket :: ts => do
    let (path, ts) ← path? ts
    let .closeBracket :: ts := ts | none
    return (.header path, ts)
  | ts => do
    let (path, ts) ← path? ts
    let .equals :: ts := ts | none
    let (v, ts) ← value? (2 * ts.length + 1) ts
    return (.assign path v, ts)

/-- Drops the line end behind a statement. Nothing else may follow it on its line. -/
def endLine? : List Token → Option (List Token)
  | [] => some []
  | .newline :: ts => some ts
  | _ => none

/-- Reads statements. Each takes one unit of fuel. -/
def statementsFrom : Nat → List Token → Option (List Statement)
  | 0, ts => if (dropNewlines ts).isEmpty then some [] else none
  | fuel + 1, ts =>
    match dropNewlines ts with
    | [] => some []
    | ts => do
      let (statement, ts) ← statement? ts
      return statement :: (← statementsFrom fuel (← endLine? ts))

/-- The statements of a text. -/
def statements? (s : String) : Option (List Statement) := do
  let ts ← tokens? s
  statementsFrom ts.length ts

/-- Carries out statements, the keys below the given header. -/
def execute? (header : List String) (entries : Entries) : List Statement → Option Entries
  | [] => some entries
  | .header path :: statements => do
    execute? path (← entries.openHeader? path) statements
  | .assign path v :: statements => do
    execute? header (← entries.assignUnder? header path v) statements

/-- The table that a text describes. -/
def read? (s : String) : Option Entries := do execute? [] [] (← statements? s)

end TreeEditor.Toml
