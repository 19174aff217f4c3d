import TreeEditor.Grammar.Basic
import TreeEditor.Text.Alphanumeric
import TreeEditor.Text.Quoted

/-!
# A grammar for the lambda calculus

A small language to edit: expressions are variables, applications, abstractions and holes; binders
are names and holes. The value of a node is its name, empty where it has none.
-/

namespace TreeEditor

namespace Lambda

/-- The categories of the lambda calculus. -/
inductive Cat where
  | exp
  | bind
deriving DecidableEq

/-- The rules of the lambda calculus. -/
inductive Rule where
  | var
  | app
  | lam
  | hole
  | name
  | bindHole
deriving DecidableEq

/-- The printed form of a category. -/
def Cat.text : Cat → String
  | exp => "Exp"
  | bind => "Bind"

/-- The printed form of a rule. -/
def Rule.text : Rule → String
  | var => "Var"
  | app => "App"
  | lam => "Lam"
  | hole => "Hole"
  | name => "Name"
  | bindHole => "BindHole"

/-- The labels of the lambda calculus. -/
abbrev alphabet : Alphabet where
  Cat := Cat
  Rule := Rule
  Value := String
  sameValue v w := v = w
  showCat := Cat.text
  showRule := Rule.text
  showValue := Text.quoted

theorem lawful : alphabet.Lawful := fun _ _ => decide_eq_true_iff

/-- The nodes of the lambda calculus. -/
def signature : Signature alphabet where
  rules
    | .exp => [.var, .app, .lam, .hole]
    | .bind => [.name, .bindHole]
  slots
    | .app => [.exp, .exp]
    | .lam => [.bind, .exp]
    | .var | .hole | .name | .bindHole => []
  defaultValue _ := ""
  holeRule
    | .exp => .hole
    | .bind => .bindHole

/-- Whether a text can be the name of a variable. -/
def isName (text : String) : Bool :=
  !text.isEmpty && text.toList.all fun c => Text.isAlphanumeric c || c = '_'

/-- The meaning of a typed text: a blank is an application, a backslash an abstraction, and a name
is itself. -/
def readQuery (cat : Cat) (text : String) : Option (Rule × String) :=
  match cat with
  | .exp =>
    if text = " " then some (.app, "")
    else if text = "\\" then some (.lam, "")
    else if isName text then some (.var, text)
    else none
  | .bind => if isName text then some (.name, text) else none

/-- The grammar of the lambda calculus. With `hideBinders` no binder can be in focus. -/
def grammar (hideBinders : Bool) : Grammar alphabet where
  toSignature := signature
  admitsCursor c := !(hideBinders && c.focus.cat = .bind)
  readQuery := readQuery

/-! ## Terms -/

/-- A variable. -/
def var (name : String) : Tree alphabet := .node ⟨.exp, .var, name⟩ []

/-- An application. -/
def app (function argument : Tree alphabet) : Tree alphabet :=
  .node ⟨.exp, .app, ""⟩ [function, argument]

/-- An abstraction. -/
def lam (binder : String) (body : Tree alphabet) : Tree alphabet :=
  .node ⟨.exp, .lam, ""⟩ [.node ⟨.bind, .name, binder⟩ [], body]

/-- A missing expression. -/
def hole : Tree alphabet := signature.hole .exp

/-- Three nested applications, `((a b) c) d`. -/
def spine : Tree alphabet := app (app (app (var "a") (var "b")) (var "c")) (var "d")

/-- An application with a gap for its function. -/
def functionFrame (argument : Tree alphabet) : Frame alphabet := ⟨⟨.exp, .app, ""⟩, [], [argument]⟩

/-- An application with a gap for its argument. -/
def argumentFrame (function : Tree alphabet) : Frame alphabet := ⟨⟨.exp, .app, ""⟩, [function], []⟩

end Lambda

end TreeEditor
