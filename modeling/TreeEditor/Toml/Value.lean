import TreeEditor.Toml.Quoted

/-!
# Values of TOML

The values that settings are made of: texts, integers, arrays and tables. A table remembers how it
came about, because that decides what may still be added to it: one written in braces is complete,
one that only a longer header implies may still get a header of its own, and no key is given twice.
-/

namespace TreeEditor.Toml

/-- How a table came about. -/
inductive Origin where
  /-- Written in braces. -/
  | inline
  /-- Implied by a dotted key. -/
  | dotted
  /-- Implied by the header of a table inside it. -/
  | implied
  /-- Given by its own header. -/
  | header
deriving DecidableEq

/-- A value. -/
inductive Value where
  | text (s : String)
  | integer (n : Int)
  | array (items : List Value)
  | table (origin : Origin) (entries : List (String × Value))

/-- The keys of a table with their values, in order. -/
abbrev Entries := List (String × Value)

namespace Entries

/-- Puts a value in place of the one that a key has, or behind the others if it has none. -/
def put (entries : Entries) (key : String) (v : Value) : Entries :=
  match entries with
  | [] => [(key, v)]
  | (k, w) :: rest => if k = key then (k, v) :: rest else (k, w) :: put rest key v

/-- Gives a value to a dotted key. Fails if the key has one, or leads through something other than
tables that dotted keys imply. -/
def assign? (entries : Entries) (path : List String) (v : Value) : Option Entries :=
  match path with
  | [] => none
  | [key] => if (entries.lookup key).isSome then none else some (entries.put key v)
  | key :: path =>
    match entries.lookup key with
    | none => (assign? [] path v).map fun sub => entries.put key (.table .dotted sub)
    | some (.table .dotted sub) =>
      (assign? sub path v).map fun sub => entries.put key (.table .dotted sub)
    | some _ => none

/-- Changes the table to which a header leads. Tables on the way are implied if they are missing;
those in braces, and other values, bar the way. -/
def underHeader? (change : Option Value → Option Value) : List String → Entries → Option Entries
  | [], _ => none
  | [key], entries => (change (entries.lookup key)).map (entries.put key)
  | key :: path, entries =>
    match entries.lookup key with
    | none => (underHeader? change path []).map fun sub => entries.put key (.table .implied sub)
    | some (.table .inline _) => none
    | some (.table origin sub) =>
      (underHeader? change path sub).map fun sub => entries.put key (.table origin sub)
    | some _ => none

/-- Gives a table its header. It may be implied already, and no more than that. -/
def openHeader? (entries : Entries) (path : List String) : Option Entries :=
  underHeader? (fun
    | none => some (.table .header [])
    | some (.table .implied sub) => some (.table .header sub)
    | some _ => none) path entries

/-- Gives a value to a dotted key below a header. The empty header stands for the top of the
text. -/
def assignUnder? (entries : Entries) (header path : List String) (v : Value) : Option Entries :=
  if header.isEmpty then assign? entries path v
  else
    underHeader? (fun
      | some (.table origin sub) => (assign? sub path v).map (.table origin)
      | _ => none) header entries

end Entries

end TreeEditor.Toml
