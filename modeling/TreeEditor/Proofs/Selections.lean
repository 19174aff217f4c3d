import TreeEditor.Proofs.Positions
import TreeEditor.Proofs.Validity
import TreeEditor.Selection.Basic

/-!
# Selections and their documents

A selection is seen through its range, innermost first, and through the cursors at its two ends;
none of them depends on which end is movable, nor does whether the range can be taken out
(`Selection.independent_of_storage`). A document is valid iff its pieces at a cursor or a selection
are (`Signature.validates_by_pieces`).
-/

namespace TreeEditor

variable {A : Alphabet}

namespace Selection

/-! ## The view of a selection -/

@[simp] theorem range_ofRange (above range : Context A) (focus : Tree A) (b : Boundary) :
    (ofRange above range focus b).range = range := by
  cases b with
  | inner => rfl
  | outer => exact range.reverse_reverse

@[simp] theorem above_ofRange (above range : Context A) (focus : Tree A) (b : Boundary) :
    (ofRange above range focus b).above = above := by
  cases b <;> rfl

@[simp] theorem focus_ofRange (above range : Context A) (focus : Tree A) (b : Boundary) :
    (ofRange above range focus b).focus = focus := by
  cases b <;> rfl

theorem document_eq (r : Selection A) : r.document = r.above.plug (r.range.plug r.focus) := rfl

theorem document_cursorAt (r : Selection A) (b : Boundary) :
    (r.cursorAt b).document = r.document := by
  cases b with
  | outer => rfl
  | inner => exact Context.plug_append ..

theorem document_ofCursor (c : Cursor A) (b : Boundary) :
    (ofCursor c b).document = c.document := by
  cases b <;> rfl

theorem outermost?_eq (r : Selection A) : r.outermost? = r.range.outermost? := by
  unfold outermost? range
  cases r.movable with
  | inner => rfl
  | outer => simp [Context.innermost?, Context.outermost?]

/-- The category at the outer end is that of the tree that the range makes of the focus. -/
theorem outerCat_eq (r : Selection A) : r.outerCat = (r.range.plug r.focus).cat := by
  rw [Context.cat_plug]
  unfold outerCat
  rw [outermost?_eq]
  rfl

theorem isEmpty_iff {r : Selection A} : r.isEmpty = true ↔ r.range = .empty := by
  unfold isEmpty range
  rw [Context.isEmpty_iff]
  cases r.movable with
  | inner => rfl
  | outer =>
    constructor
    · intro h
      rw [h]
      rfl
    · intro h
      have htwice := congrArg Context.reverse h
      rwa [Context.reverse_reverse] at htwice

@[simp] theorem ofRange_range (r : Selection A) :
    ofRange r.above r.range r.focus r.movable = r := by
  obtain ⟨above, stored, focus, movable⟩ := r
  cases movable <;> simp [ofRange, range]

@[simp] theorem movable_ofRange (above range : Context A) (focus : Tree A) (b : Boundary) :
    (ofRange above range focus b).movable = b := by
  cases b <;> rfl

theorem withMovable_eq (r : Selection A) (b : Boundary) :
    r.withMovable b = ofRange r.above r.range r.focus b := by
  obtain ⟨above, stored, focus, movable⟩ := r
  cases movable <;> cases b <;> simp [withMovable, ofRange, range]

@[simp] theorem movable_withMovable (r : Selection A) (b : Boundary) :
    (r.withMovable b).movable = b := by
  rw [withMovable_eq, movable_ofRange]

theorem withMovable_self (s : Selection A) : s.withMovable s.movable = s := if_pos rfl

theorem withMovable_withMovable (r : Selection A) (b b' : Boundary) :
    (r.withMovable b).withMovable b' = r.withMovable b' := by
  simp only [withMovable_eq, above_ofRange, range_ofRange, focus_ofRange]

/-- The same range of the same document, whichever end of it is movable. -/
structure SameRange (r s : Selection A) : Prop where
  above : r.above = s.above
  range : r.range = s.range
  focus : r.focus = s.focus

theorem sameRange_withMovable (s : Selection A) (b : Boundary) : (s.withMovable b).SameRange s := by
  rw [withMovable_eq]
  exact ⟨above_ofRange .., range_ofRange .., focus_ofRange ..⟩

namespace SameRange

variable {r s : Selection A} (h : r.SameRange s)
include h

theorem cursorAt_eq (b : Boundary) : r.cursorAt b = s.cursorAt b := by
  unfold cursorAt
  rw [h.above, h.range, h.focus]

theorem document_eq : r.document = s.document := by
  unfold document
  rw [h.cursorAt_eq]

theorem outermost?_eq : r.outermost? = s.outermost? := by
  rw [Selection.outermost?_eq, Selection.outermost?_eq, h.range]

theorem outerCat_eq : r.outerCat = s.outerCat := by
  unfold outerCat
  rw [h.outermost?_eq, h.focus]

theorem keepsCategory_eq : r.keepsCategory = s.keepsCategory := by
  unfold keepsCategory
  rw [h.outerCat_eq, h.focus]

theorem checkRemoval_eq : r.checkRemoval = s.checkRemoval := by
  unfold checkRemoval
  rw [h.outermost?_eq, h.keepsCategory_eq, h.focus]

end SameRange

/-! ## The two ends -/

@[simp] theorem cursorAt_outer_ofRange (above range : Context A) (focus : Tree A) (b : Boundary) :
    (ofRange above range focus b).cursorAt .outer = ⟨above, range.plug focus⟩ := by
  simp [cursorAt]

@[simp] theorem cursorAt_inner_ofRange (above range : Context A) (focus : Tree A) (b : Boundary) :
    (ofRange above range focus b).cursorAt .inner = ⟨range ++ above, focus⟩ := by
  simp [cursorAt]

theorem cursorAt_of_isEmpty {r : Selection A} (h : r.isEmpty = true) (b : Boundary) :
    r.cursorAt b = ⟨r.above, r.focus⟩ := by
  rw [isEmpty_iff] at h
  unfold cursorAt
  rw [h]
  cases b <;> rfl

theorem path_cursorAt_inner (r : Selection A) :
    (r.cursorAt .inner).path = (r.cursorAt .outer).path ++ r.range.path :=
  Context.path_append ..

theorem depth_lt_iff (r : Selection A) :
    (r.cursorAt .outer).depth < (r.cursorAt .inner).depth ↔ r.isEmpty = false := by
  have hlength := congrArg List.length r.path_cursorAt_inner
  rw [List.length_append] at hlength
  unfold Cursor.path at hlength
  rw [Context.length_path, Context.length_path, Context.length_path] at hlength
  unfold Cursor.depth
  rw [← Bool.not_eq_true, isEmpty_iff, ← Context.isEmpty_iff]
  unfold Context.isEmpty
  rw [decide_eq_true_iff]
  omega

theorem fixedCursor_eq_movableCursor_iff {r : Selection A} :
    r.fixedCursor = r.movableCursor ↔ r.isEmpty = true := by
  constructor
  · intro hmeet
    have hdepth : r.fixedCursor.depth = r.movableCursor.depth := by rw [hmeet]
    unfold fixedCursor movableCursor at hdepth
    cases hempty : r.isEmpty with
    | true => rfl
    | false =>
      have hlt := r.depth_lt_iff.2 hempty
      cases hmovable : r.movable <;> simp only [hmovable, Boundary.flip] at hdepth <;> omega
  · intro hempty
    unfold fixedCursor movableCursor
    rw [cursorAt_of_isEmpty hempty, cursorAt_of_isEmpty hempty]

theorem document_eq_of_fixedCursor {r r' : Selection A} (h : r'.fixedCursor = r.fixedCursor) :
    r'.document = r.document := by
  calc r'.document = r'.fixedCursor.document := (r'.document_cursorAt _).symm
    _ = r.fixedCursor.document := by rw [h]
    _ = r.document := r.document_cursorAt _

/-- **What a selection means does not depend on how its range is stored.** With the other end
movable it is the same range: between the same cursors of the same document, with the same category
at the outer end, and it can be taken out iff it could before, else for the same fault. With the
first end movable again it is the selection it was. A selection is built from its range, innermost
first, and a range can be read off the selection built from it, whichever end is movable. The
category at the outer end is that of the tree there, and both ends are in one document. -/
theorem independent_of_storage (s : Selection A) :
    (∀ b, (s.withMovable b).movable = b ∧ (s.withMovable b).SameRange s ∧
      (s.withMovable b).cursorAt .outer = s.cursorAt .outer ∧
      (s.withMovable b).cursorAt .inner = s.cursorAt .inner ∧
      (s.withMovable b).document = s.document ∧ (s.withMovable b).outerCat = s.outerCat ∧
      (s.withMovable b).keepsCategory = s.keepsCategory ∧
      (s.withMovable b).checkRemoval = s.checkRemoval ∧
      (s.withMovable b).withMovable s.movable = s) ∧
    ofRange s.above s.range s.focus s.movable = s ∧
    (∀ (above range : Context A) (focus : Tree A) (b : Boundary),
      (ofRange above range focus b).range = range) ∧
    s.outerCat = (s.cursorAt .outer).focus.cat ∧
    (s.cursorAt .outer).document = (s.cursorAt .inner).document := by
  refine ⟨?_, s.ofRange_range, range_ofRange, s.outerCat_eq, ?_⟩
  · intro b
    have hsame := s.sameRange_withMovable b
    refine ⟨s.movable_withMovable b, hsame, hsame.cursorAt_eq .outer, hsame.cursorAt_eq .inner,
      hsame.document_eq, hsame.outerCat_eq, hsame.keepsCategory_eq, hsame.checkRemoval_eq, ?_⟩
    rw [withMovable_withMovable, withMovable_self]
  · rw [document_cursorAt, document_cursorAt]

end Selection

/-! ## Validity by pieces -/

/-- **Validity by pieces.** A document passes iff the subtree at a position passes, and the context
around it passes around a tree of that category. At a selection, the context is the range within
what is above it. -/
theorem Signature.validates_by_pieces (S : Signature A) :
    (∀ (c : Context A) (t : Tree A), S.validate (c.plug t) = .ok () ↔
      S.validate t = .ok () ∧ S.checkAround c t.cat = .ok ()) ∧
    (∀ c : Cursor A, S.validate c.document = .ok () ↔
      S.validate c.focus = .ok () ∧ S.checkAround c.context c.focus.cat = .ok ()) ∧
    ∀ r : Selection A, S.validate r.document = .ok () ↔
      S.validate r.focus = .ok () ∧ S.checkAround (r.range ++ r.above) r.focus.cat = .ok () := by
  have hplug : ∀ (c : Context A) (t : Tree A), S.validate (c.plug t) = .ok () ↔
      S.validate t = .ok () ∧ S.checkAround c t.cat = .ok () := by
    intro c t
    rw [S.validate_eq_ok_iff, S.validate_eq_ok_iff, S.valid_plug]
  refine ⟨hplug, fun c => hplug c.context c.focus, fun r => ?_⟩
  rw [← r.document_cursorAt .inner]
  exact hplug (r.range ++ r.above) r.focus

end TreeEditor
