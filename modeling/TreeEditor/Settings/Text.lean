import TreeEditor.Settings.Basic
import TreeEditor.Toml.Document

/-!
# Settings as text

Settings are written in TOML. `history-limit` is an integer that fits 64 bits. `invariants` is the
name of a fault policy, or a table with that name as its only key and nothing for a value. What is
not written keeps its default, and any other key is refused.
-/

namespace TreeEditor

/-- The fault policy of a name. -/
def FaultPolicy.ofName? : String → Option FaultPolicy
  | "panic" => some .abort
  | "reject" => some .refuse
  | _ => none

namespace Toml.Value

/-- Whether a value is an array or a table with nothing in it. -/
def isNothing : Value → Bool
  | .array items => items.isEmpty
  | .table _ entries => entries.isEmpty
  | _ => false

/-- The number of snapshots that a value stands for. -/
def limit? : Value → Option Nat
  | .integer (.ofNat n) => if n < UInt64.size then some n else none
  | _ => none

/-- The fault policy that a value stands for. -/
def policy? : Value → Option FaultPolicy
  | .text s => FaultPolicy.ofName? s
  | .table _ [(name, v)] => if v.isNothing then FaultPolicy.ofName? name else none
  | _ => none

end Toml.Value

namespace Settings

/-- Changes settings by one key. -/
def set? (s : Settings) (key : String) (v : Toml.Value) : Option Settings :=
  match key with
  | "history-limit" => v.limit?.map fun historyLimit => { s with historyLimit }
  | "invariants" => v.policy?.map fun faults => { s with faults }
  | _ => none

/-- The settings that a table describes. -/
def ofEntries? (entries : Toml.Entries) : Option Settings :=
  entries.foldlM (fun s (key, v) => s.set? key v) {}

/-- The settings that a text describes. -/
def read (text : String) : Except SettingsError Settings :=
  match Toml.read? text >>= ofEntries? with
  | some s => s.check
  | none => .error .unreadable

end Settings

end TreeEditor
