import TreeEditor.History

/-!
# Two stacks within one limit

Going back takes a value from one stack and puts the current one on the other. Returning is the same
step with the stacks exchanged (`History.redo?_eq_some_iff_flip`), so what holds of the one holds of
the other.

Each stack is cut to the limit on its own. What makes the two steps inverse is more than that: both
stacks *together* are within the limit (`History.Fits`). Nothing but `record` adds a value, and it
leaves no future, so this is so after any calls (`History.fits_run`). Then there is room for
whatever a step puts on a stack, and nothing is driven out by going back and forth.
-/

namespace TreeEditor

namespace History

variable {α : Type} {h h' : History α} {current prior next : α}

theorem mem_of_mem_keep {x y : α} {stack : List α} (hy : y ∈ h.keep x stack) :
    y = x ∨ y ∈ stack :=
  List.mem_cons.1 (List.mem_of_mem_take hy)

theorem keep_eq_cons {x : α} {stack : List α} (hlt : stack.length < h.limit) :
    h.keep x stack = x :: stack := by
  unfold keep
  exact List.take_of_length_le hlt

/-- What a full stack drives out does not matter once more is put on it. -/
theorem take_append_keep (newer : List α) (x : α) (stack : List α) :
    (newer ++ h.keep x stack).take h.limit = (newer ++ x :: stack).take h.limit := by
  unfold keep
  rw [List.take_append, List.take_append, List.take_take]
  congr 2
  omega

/-! ## One step -/

theorem undo?_eq_some_iff :
    h.undo? current = some (prior, h') ↔
      h.past = prior :: h'.past ∧ h'.future = h.keep current h.future ∧ h'.limit = h.limit := by
  unfold undo?
  cases h.past with
  | nil => exact iff_of_false nofun nofun
  | cons top rest =>
    constructor
    · rintro ⟨⟩
      exact ⟨rfl, rfl, rfl⟩
    · rintro ⟨hpast, hfuture, hlimit⟩
      obtain ⟨rfl, rfl⟩ := List.cons.inj hpast
      rw [← hfuture, ← hlimit]

theorem exists_undo? {past : List α} (hpast : h.past = prior :: past) (current : α) :
    ∃ h', h.undo? current = some (prior, h') :=
  ⟨{ h with past, future := h.keep current h.future },
    undo?_eq_some_iff.2 ⟨hpast, rfl, rfl⟩⟩

/-- The same stacks with past and future exchanged. -/
def flip (h : History α) : History α := ⟨h.limit, h.future, h.past⟩

/-- Returning is going back with past and future exchanged. -/
theorem redo?_eq_some_iff_flip :
    h.redo? current = some (next, h') ↔ h.flip.undo? current = some (next, h'.flip) := by
  rw [undo?_eq_some_iff]
  unfold redo? flip
  cases h.future with
  | nil => exact iff_of_false nofun nofun
  | cons top rest =>
    constructor
    · rintro ⟨⟩
      exact ⟨rfl, rfl, rfl⟩
    · rintro ⟨hfuture, hpast, hlimit⟩
      obtain ⟨rfl, rfl⟩ := List.cons.inj hfuture
      have hpast : h'.past = h.keep current h.past := hpast
      rw [← hpast, ← hlimit]

theorem redo?_eq_some_iff :
    h.redo? current = some (next, h') ↔
      h.future = next :: h'.future ∧ h'.past = h.keep current h.past ∧ h'.limit = h.limit :=
  redo?_eq_some_iff_flip.trans undo?_eq_some_iff

/-! ## Room for both stacks -/

/-- Both stacks together are within the limit. -/
def Fits (h : History α) : Prop := h.past.length + h.future.length ≤ h.limit

theorem fits_record (h : History α) (prior : α) : (h.record prior).Fits := by
  unfold Fits record keep
  simp only [List.length_take, List.length_nil]
  omega

namespace Fits

theorem flip (hfits : h.Fits) : h.flip.Fits := by
  unfold Fits History.flip at *
  simp only
  omega

/-- With a value to go back to, there is room for one more to return to. -/
theorem keep_future (hfits : h.Fits) {past : List α} (hpast : h.past = prior :: past) (x : α) :
    h.keep x h.future = x :: h.future := by
  unfold Fits at hfits
  rw [hpast, List.length_cons] at hfits
  exact keep_eq_cons (by omega)

theorem undo (hfits : h.Fits) (hundo : h.undo? current = some (prior, h')) : h'.Fits := by
  obtain ⟨hpast, hfuture, hlimit⟩ := undo?_eq_some_iff.1 hundo
  rw [hfits.keep_future hpast] at hfuture
  unfold Fits at *
  rw [hpast, List.length_cons] at hfits
  rw [hfuture, hlimit, List.length_cons]
  omega

theorem redo (hfits : h.Fits) (hredo : h.redo? current = some (next, h')) : h'.Fits :=
  (hfits.flip.undo (redo?_eq_some_iff_flip.1 hredo)).flip

/-- A step back is taken back by a return to where it started. -/
theorem redo?_of_undo? (hfits : h.Fits) (hundo : h.undo? current = some (prior, h')) :
    h'.redo? prior = some (current, h) := by
  obtain ⟨hpast, hfuture, hlimit⟩ := undo?_eq_some_iff.1 hundo
  have hnext : h'.future = current :: h.future := by
    rw [hfuture, hfits.keep_future hpast]
  -- The step leaves a value to return to, so seen from the other side there is room again.
  have hroom : h'.keep prior h'.past = prior :: h'.past :=
    (hfits.undo hundo).flip.keep_future hnext prior
  refine redo?_eq_some_iff.2 ⟨hnext, ?_, hlimit.symm⟩
  rw [hroom, hpast]

theorem undo?_of_redo? (hfits : h.Fits) (hredo : h.redo? current = some (next, h')) :
    h'.undo? next = some (current, h) :=
  redo?_eq_some_iff_flip.1 (hfits.flip.redo?_of_undo? (redo?_eq_some_iff_flip.1 hredo))

end Fits

/-! ## Any calls -/

/-- A call to the stacks, with the value it hands over. -/
inductive Call (α : Type) where
  | record (prior : α)
  | undo (current : α)
  | redo (current : α)

/-- The stacks after a call. A step that is not possible leaves them as they are. -/
def call (h : History α) : Call α → History α
  | .record prior => h.record prior
  | .undo current => ((h.undo? current).map Prod.snd).getD h
  | .redo current => ((h.redo? current).map Prod.snd).getD h

/-- The stacks after a sequence of calls. -/
def run (h : History α) (calls : List (Call α)) : History α := calls.foldl call h

theorem fits_call (hfits : h.Fits) (c : Call α) : (h.call c).Fits ∧ (h.call c).limit = h.limit := by
  cases c with
  | record prior => exact ⟨h.fits_record prior, rfl⟩
  | undo current =>
    simp only [call]
    cases hundo : h.undo? current with
    | none => exact ⟨hfits, rfl⟩
    | some step => exact ⟨hfits.undo hundo, (undo?_eq_some_iff.1 hundo).2.2⟩
  | redo current =>
    simp only [call]
    cases hredo : h.redo? current with
    | none => exact ⟨hfits, rfl⟩
    | some step => exact ⟨hfits.redo hredo, (redo?_eq_some_iff.1 hredo).2.2⟩

theorem fits_run (hfits : h.Fits) (calls : List (Call α)) :
    (h.run calls).Fits ∧ (h.run calls).limit = h.limit := by
  induction calls generalizing h with
  | nil => exact ⟨hfits, rfl⟩
  | cons c calls ih =>
    obtain ⟨hfits', hlimit'⟩ := fits_call hfits c
    obtain ⟨hrun, hlimit⟩ := ih hfits'
    exact ⟨hrun, hlimit.trans hlimit'⟩

/-- **Going back and forth drives nothing out.** After any calls on empty stacks, whatever values
they hand over, both stacks together hold no more than the limit, and a limit of zero counts as one.
So each step back is taken back by a return, and each return by a step back: the other step, from
where the first one led, leads to where that one started, with both stacks as they were. -/
theorem steps_drive_nothing_out (limit : Nat) (calls : List (Call α)) :
    let h : History α := (empty limit).run calls
    h.past.length + h.future.length ≤ max limit 1 ∧
      (∀ current prior h', h.undo? current = some (prior, h') →
        h'.redo? prior = some (current, h)) ∧
      ∀ current next h', h.redo? current = some (next, h') →
        h'.undo? next = some (current, h) := by
  intro h
  have hempty : (empty limit : History α).Fits := Nat.zero_le _
  obtain ⟨hfits, hlimit⟩ : h.Fits ∧ h.limit = max limit 1 := fits_run hempty calls
  refine ⟨?_, ?_, ?_⟩
  · rw [← hlimit]
    exact hfits
  · intro current prior h' hundo
    exact hfits.redo?_of_undo? hundo
  · intro current next h' hredo
    exact hfits.undo?_of_redo? hredo

/-- With room for two values the first of three is driven out; after one step back the stacks are
full, and a further step either way is taken back. -/
theorem steps_drive_nothing_out_full :
    let h : History Nat := (empty 2).run [.record 1, .record 2, .record 3, .undo 4]
    h = ⟨2, [2], [4]⟩ ∧
      h.undo? 5 = some (2, ⟨2, [], [5, 4]⟩) ∧ redo? ⟨2, [], [5, 4]⟩ 2 = some (5, h) ∧
      h.redo? 6 = some (4, ⟨2, [6, 2], []⟩) ∧ undo? ⟨2, [6, 2], []⟩ 4 = some (6, h) := by
  intro h
  obtain ⟨-, hback, hforth⟩ :=
    steps_drive_nothing_out 2 [.record 1, .record 2, .record 3, .undo (4 : Nat)]
  exact ⟨rfl, rfl, hback 5 2 _ rfl, rfl, hforth 6 4 _ rfl⟩

end History

end TreeEditor
