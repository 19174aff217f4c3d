import TreeEditor.History
import TreeEditor.Query
import TreeEditor.Settings.Basic
import TreeEditor.Snapshot

/-!
# The editor

An `Editor` is a grammar, settings, the current snapshot and the history of earlier ones. A request
is answered with a report, and with the editor as it is afterwards. `perform` answers one request,
and `run` a sequence of them.
-/

namespace TreeEditor

variable {A : Alphabet}

/-- What can be asked of the editor: a command, or the candidate at an index for a typed text. -/
inductive Request (A : Alphabet) where
  | command (c : Command A)
  | query (text : String) (index : Nat)

/-- An editing session. -/
structure Editor (A : Alphabet) where
  grammar : Grammar A
  settings : Settings
  current : Snapshot A
  history : History (Snapshot A)

/-- Whether a request had an effect, and if not, why. -/
abbrev Report (A : Alphabet) := Outcome A Unit

namespace Editor

/-- Opens a document, with its root in focus. -/
def start (grammar : Grammar A) (settings : Settings) (t : Tree A) : Editor A :=
  ⟨grammar, settings, .ofDocument t, .empty settings.historyLimit⟩

/-- Opens a document, if the settings are acceptable. -/
def start? (grammar : Grammar A) (settings : Settings) (t : Tree A) :
    Except SettingsError (Editor A) :=
  return start grammar (← settings.check) t

/-- The whole document. -/
def document (e : Editor A) : Tree A := e.current.document

/-- The commands that a text may mean at the focus. -/
def candidates (e : Editor A) (text : String) : List (Command A) :=
  e.grammar.candidates e.current.mode.focus.cat text

/-- Goes back to the snapshot before the current one. -/
def undo (e : Editor A) : Report A × Editor A :=
  match e.history.undo? e.current with
  | some (prior, history) => (.ok (), { e with current := prior, history })
  | none => (.error (.refused .nothingToUndo), e)

/-- Returns to the snapshot after the current one. -/
def redo (e : Editor A) : Report A × Editor A :=
  match e.history.redo? e.current with
  | some (next, history) => (.ok (), { e with current := next, history })
  | none => (.error (.refused .nothingToRedo), e)

/-- Carries out a command on the current snapshot, and remembers the snapshot it replaces. -/
def commit (e : Editor A) (c : Command A) : Report A × Editor A :=
  match e.current.apply e.grammar e.settings.faults c with
  | .ok next => (.ok (), { e with current := next, history := e.history.record e.current })
  | .error stop => (.error stop, e)

/-- Carries out a command. -/
def execute (e : Editor A) : Command A → Report A × Editor A
  | .undo => e.undo
  | .redo => e.redo
  | c => e.commit c

/-- Carries out the candidate at an index for a text. -/
def submit (e : Editor A) (text : String) (index : Nat) : Report A × Editor A :=
  match pick? (e.candidates text) index with
  | some c => e.execute c
  | none => (.error (.refused (.unrecognizedQuery text)), e)

/-- Answers a request. -/
def perform (e : Editor A) : Request A → Report A × Editor A
  | .command c => e.execute c
  | .query text index => e.submit text index

/-- The editor after a sequence of requests. -/
def run (e : Editor A) (requests : List (Request A)) : Editor A :=
  requests.foldl (fun e r => (e.perform r).2) e

end Editor

end TreeEditor
