/-!
# History

Two stacks of values, those that were replaced (`past`) and those that were taken back (`future`),
newest first. Each holds at most `limit` values, and a value that is put on a full stack drives out
the oldest.
-/

namespace TreeEditor

/-- Bounded stacks for going back and forth. -/
@[ext]
structure History (α : Type) where
  limit : Nat
  /-- The values to go back to, newest first. -/
  past : List α
  /-- The values to return to, newest first. -/
  future : List α
deriving DecidableEq

namespace History

variable {α : Type}

/-- Empty stacks. They hold at least one value, whatever limit is asked for. -/
def empty (limit : Nat) : History α := ⟨max limit 1, [], []⟩

/-- Puts a value on a stack. -/
def keep (h : History α) (x : α) (stack : List α) : List α := (x :: stack).take h.limit

/-- Remembers a value that is being replaced. There is nothing to return to after that. -/
def record (h : History α) (prior : α) : History α :=
  { h with past := h.keep prior h.past, future := [] }

/-- Goes back from the current value to the one before it. -/
def undo? (h : History α) (current : α) : Option (α × History α) :=
  match h.past with
  | [] => none
  | prior :: past => some (prior, { h with past, future := h.keep current h.future })

/-- Returns from the current value to the one after it. -/
def redo? (h : History α) (current : α) : Option (α × History α) :=
  match h.future with
  | [] => none
  | next :: future => some (next, { h with past := h.keep current h.past, future })

/-- Whether there is a value to go back to. -/
def canUndo (h : History α) : Bool := !h.past.isEmpty

/-- Whether there is a value to return to. -/
def canRedo (h : History α) : Bool := !h.future.isEmpty

end History

end TreeEditor
