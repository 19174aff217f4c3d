import TreeEditor.Refusal

/-!
# Settings

How much history the editor keeps, and what it does about malformed trees.
-/

namespace TreeEditor

/-- The settings of an editor. -/
@[ext]
structure Settings where
  /-- How many snapshots can be gone back to. -/
  historyLimit : Nat := 500
  /-- What to do about malformed trees. -/
  faults : FaultPolicy := .abort
deriving DecidableEq

/-- A reason not to accept settings. -/
inductive SettingsError where
  /-- The text is not a description of settings. -/
  | unreadable
  /-- No history at all is asked for. -/
  | zeroHistoryLimit
deriving DecidableEq

/-- The wording of a reason not to accept settings. -/
def SettingsError.message : SettingsError → String
  | unreadable => "settings cannot be read"
  | zeroHistoryLimit => "history_limit must be at least 1"

/-- Accepts settings that leave room for at least one snapshot. -/
def Settings.check (s : Settings) : Except SettingsError Settings :=
  if s.historyLimit = 0 then .error .zeroHistoryLimit else .ok s

end TreeEditor
