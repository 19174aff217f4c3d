import TreeEditor.Fault
import TreeEditor.Mode
import TreeEditor.Text.Quoted

/-!
# Refusals

Why a command has no effect, and how each reason is worded. A `FaultPolicy` decides what happens
when a command brings a malformed tree: the command is refused like any other, or it is aborted,
which a caller is meant to notice.
-/

namespace TreeEditor

/-- A reason to leave the document as it is. -/
inductive Refusal (A : Alphabet) where
  /-- There is nothing in that direction. -/
  | boundary
  /-- The command has no meaning for what is in focus. -/
  | wrongMode (kind : ModeKind)
  | emptyClipboard
  | nothingToUndo
  | nothingToRedo
  /-- The grammar does not admit the position or range. -/
  | invalidPosition
  /-- The typed text means nothing at the focus. -/
  | unrecognizedQuery (text : String)
  /-- What the command brings is well formed and does not belong at the focus. -/
  | misfit (fault : Fault A)
  /-- What the command brings is malformed. -/
  | malformed (fault : Fault A)
deriving DecidableEq

/-- The wording for a malformed tree. -/
def Fault.violation {A : Alphabet} (fault : Fault A) : String :=
  "grammar invariant violated: " ++ fault.message

/-- The wording of a refusal. -/
def Refusal.message {A : Alphabet} : Refusal A → String
  | boundary => "movement hit a boundary"
  | wrongMode kind => "action is not available in " ++ kind.name ++ " mode"
  | emptyClipboard => "clipboard is empty"
  | nothingToUndo => "nothing to undo"
  | nothingToRedo => "nothing to redo"
  | invalidPosition => "position rejected by the grammar"
  | unrecognizedQuery text => "query " ++ Text.quoted text ++ " has no interpretation here"
  | misfit fault => "does not fit here: " ++ fault.message
  | malformed fault => fault.violation

/-- How a command ends that has no effect. -/
inductive Stop (A : Alphabet) where
  | refused (reason : Refusal A)
  | aborted (fault : Fault A)
deriving DecidableEq

/-- What to do about malformed trees. -/
inductive FaultPolicy where
  | abort
  | refuse
deriving DecidableEq

/-- How a command ends that brings a malformed tree. -/
def FaultPolicy.stop {A : Alphabet} : FaultPolicy → Fault A → Stop A
  | abort, fault => .aborted fault
  | refuse, fault => .refused (.malformed fault)

end TreeEditor
