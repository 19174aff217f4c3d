import TreeEditor.Proofs.Integrity

/-!
# Why an edit is refused

What an edit brings is checked on its own; then the categories at the seams are compared; and a
range that grows must be one that the grammar admits. So beside the specification of its success
each edit has one of the stops it comes to (`Snapshot.replace_eq_error_iff` and so on). Only the
first check finds something malformed. The second looks at whole frames again, but in a valid
document all of them have passed: the new ones a moment ago, those of a range with the document. It
is left with categories that differ.
-/

namespace TreeEditor

variable {A : Alphabet}

/-! ## Checks that fail -/

theorem mapError_eq_error_iff {ε ε' α : Type} {f : ε → ε'} {x : Except ε α} {e' : ε'} :
    x.mapError f = .error e' ↔ ∃ e, x = .error e ∧ f e = e' := by
  cases x with
  | ok a =>
    constructor
    · intro h
      cases h
    · rintro ⟨e, h, -⟩
      cases h
  | error e =>
    constructor
    · intro h
      exact ⟨e, rfl, Except.error.inj h⟩
    · rintro ⟨_, ⟨⟩, rfl⟩
      rfl

theorem Check.enforce_eq_error_iff {policy : FaultPolicy} {check : Check A} {stop : Stop A} :
    check.enforce policy = .error stop ↔ ∃ fault, check = .error fault ∧ policy.stop fault = stop :=
  mapError_eq_error_iff

theorem Check.fit_eq_error_iff {check : Check A} {stop : Stop A} :
    check.fit = .error stop ↔ ∃ fault, check = .error fault ∧ .refused (.misfit fault) = stop :=
  mapError_eq_error_iff

/-- Frames fail with the fault of the first of them that does, from the inside out. -/
theorem Signature.checkEach_eq_error_iff {S : Signature A} {frames : Context A} {fault : Fault A} :
    S.checkEach frames = .error fault ↔ ∃ inner f outer, frames.frames = inner ++ f :: outer ∧
      (∀ f' ∈ inner, S.checkFrame f' = .ok ()) ∧ S.checkFrame f = .error fault :=
  Check.forM_eq_error_iff

/-! ## Misplaced things -/

/-- The fault of something well formed that stands in the wrong place: two categories differ, in a
slot or, where there is no slot to name, at the root. -/
def Fault.Misplaced (atRoot : Bool) : Fault A → Prop
  | .wrongCategory _ _ expected found => expected ≠ found
  | .unknownRule _ _ => atRoot = true
  | .wrongArity _ _ _ | .gapOutOfRange _ _ _ => False

section Misplaced

variable {S : Signature A} {fault : Fault A}

theorem Context.misplaced_of_checkSwap {c : Context A} {current found : A.Cat} {rule : A.Rule}
    (h : c.checkSwap current found rule = .error fault) : fault.Misplaced c.isEmpty := by
  unfold checkSwap at h
  by_cases hcat : found = current
  · rw [if_pos hcat] at h
    cases h
  · rw [if_neg hcat] at h
    cases hinner : c.innermost? with
    | some parent =>
      rw [hinner] at h
      cases h
      exact Ne.symm hcat
    | none =>
      rw [hinner] at h
      cases h
      have hnil : c.frames = [] := List.head?_eq_none_iff.1 hinner
      simp [Fault.Misplaced, isEmpty, c.depth_eq, hnil]

theorem Signature.misplaced_of_checkGap {f : Frame A} {below : A.Cat} (atRoot : Bool)
    (h : S.checkGap f below = .error fault) : fault.Misplaced atRoot := by
  unfold checkGap at h
  cases hgap : S.gapCat? f with
  | none =>
    rw [hgap] at h
    cases h
  | some expected =>
    rw [hgap] at h
    by_cases hcat : expected = below
    · simp [hcat] at h
    · simp only [hcat, ↓reduceIte] at h
      cases h
      exact hcat

/-- Frames that pass on their own can fail around a tree at their gaps only. -/
theorem Signature.misplaced_of_checkAround {c : Context A} {below : A.Cat} (atRoot : Bool)
    (heach : S.checkEach c = .ok ()) (h : S.checkAround c below = .error fault) :
    fault.Misplaced atRoot := by
  unfold checkEach at heach
  rw [Check.forM_eq_ok_iff] at heach
  induction c generalizing below with
  | empty => cases h
  | push c f ih =>
    rw [Context.frames_push, List.forall_mem_cons] at heach
    obtain ⟨hf, hc⟩ := heach
    unfold checkAround at h
    rw [Context.frames_push, checkFrames, seq_eq_error_iff, seq_eq_error_iff] at h
    rcases h with hframe | ⟨-, hgap | ⟨-, houter⟩⟩
    · rw [hf] at hframe
      cases hframe
    · exact misplaced_of_checkGap atRoot hgap
    · exact ih hc houter

theorem Context.misplaced_of_checkWrap {c above : Context A} {inner outer : A.Cat}
    (heach : S.checkEach c = .ok ()) (h : c.checkWrap S inner above outer = .error fault) :
    fault.Misplaced above.isEmpty := by
  unfold checkWrap at h
  rcases seq_eq_error_iff.1 h with haround | ⟨-, hswap⟩
  · exact S.misplaced_of_checkAround above.isEmpty heach haround
  · cases hlast : c.outermost? with
    | none =>
      rw [hlast] at hswap
      cases hswap
    | some f =>
      rw [hlast] at hswap
      exact misplaced_of_checkSwap hswap

theorem Selection.misplaced_of_checkRemoval {r : Selection A} (atRoot : Bool)
    (h : r.checkRemoval = .error fault) : fault.Misplaced atRoot := by
  unfold checkRemoval at h
  cases hlast : r.outermost? with
  | none =>
    rw [hlast] at h
    cases h
  | some f =>
    have hcat : r.outerCat = f.cat := by
      unfold outerCat
      rw [hlast]
      rfl
    rw [hlast] at h
    by_cases hkeeps : r.keepsCategory = true
    · simp [hkeeps] at h
    · simp only [hkeeps] at h
      cases h
      unfold keepsCategory at hkeeps
      rw [hcat, decide_eq_true_iff] at hkeeps
      exact hkeeps

end Misplaced

/-! ## One specification of its stops for each edit -/

/-- Whether nothing lies above what is in focus. -/
def Mode.atRoot : Mode A → Bool
  | .cursor c => c.isRoot
  | .select r => r.above.isEmpty

/-- The check at the seams of frames put around the focus, or at the movable end of the range. -/
def Mode.checkFrames (S : Signature A) (m : Mode A) (frames : Context A) : Check A :=
  match m with
  | .cursor c => frames.checkWrap S c.focus.cat c.context c.focus.cat
  | .select r => (r.extended frames).checkWrap S r.focus.cat r.above r.outerCat

namespace Snapshot

variable {g : Grammar A} {policy : FaultPolicy} {s : Snapshot A} {stop : Stop A}

theorem replace_eq_error_iff {c : Cursor A} {t : Tree A} (hmode : s.mode = .cursor c) :
    s.replace g policy t = .error stop ↔
      (∃ fault, g.validate t = .error fault ∧ policy.stop fault = stop) ∨
        g.validate t = .ok () ∧ ∃ fault,
          c.context.checkSwap c.focus.cat t.cat t.rule = .error fault ∧
            .refused (.misfit fault) = stop := by
  unfold replace
  rw [hmode]
  simp only [seq_eq_error_iff, Check.enforce_eq_error_iff, Check.enforce_eq_ok_iff,
    Check.fit_eq_error_iff, pure, Except.pure, reduceCtorEq, and_false, or_false]

theorem insert_eq_error_iff {frames : Context A} :
    s.insert g policy frames = .error stop ↔
      (∃ fault, g.checkEach frames = .error fault ∧ policy.stop fault = stop) ∨
        g.checkEach frames = .ok () ∧
          ((∃ fault, s.mode.checkFrames g.toSignature frames = .error fault ∧
              .refused (.misfit fault) = stop) ∨
            s.mode.checkFrames g.toSignature frames = .ok () ∧
              s.mode.admitsFrames g frames = false ∧ .refused .invalidPosition = stop) := by
  unfold insert
  rw [seq_eq_error_iff, Check.enforce_eq_error_iff, Check.enforce_eq_ok_iff]
  refine or_congr_right (and_congr_right fun _ => ?_)
  cases s.mode with
  | cursor c =>
    simp only [seq_eq_error_iff, Check.fit_eq_error_iff, pure, Except.pure, reduceCtorEq, and_false,
      or_false, Mode.checkFrames, Mode.admitsFrames, Bool.true_eq_false, false_and]
  | select r =>
    have hrange : (r.lengthened frames).range = r.extended frames := Selection.range_ofRange ..
    simp only [seq_eq_error_iff, Check.fit_eq_error_iff, Check.fit_eq_ok_iff, r.grow_eq_lengthened,
      hrange, Mode.checkFrames, Mode.admitsFrames]
    refine or_congr_right (and_congr_right fun _ => ?_)
    cases g.admitsSelection (r.lengthened frames) with
    | true => simp [pure, Except.pure]
    | false => simp [throw, throwThe, MonadExceptOf.throw]

theorem remove_cursor_eq_error_iff {c : Cursor A} :
    remove g policy (.cursor c) = .error stop ↔
      ∃ fault, g.validate (g.hole c.focus.cat) = .error fault ∧ policy.stop fault = stop := by
  unfold remove
  simp only [seq_eq_error_iff, Check.enforce_eq_error_iff, pure, Except.pure, reduceCtorEq,
    and_false, or_false]

theorem remove_select_eq_error_iff {r : Selection A} :
    remove g policy (.select r) = .error stop ↔
      ∃ fault, r.checkRemoval = .error fault ∧ .refused (.misfit fault) = stop := by
  unfold remove
  simp only [seq_eq_error_iff, Check.fit_eq_error_iff, pure, Except.pure, reduceCtorEq, and_false,
    or_false]

theorem delete_eq_error_iff :
    s.delete g policy = .error stop ↔ remove g policy s.mode = .error stop := by
  unfold delete
  cases remove g policy s.mode with
  | ok c => exact iff_of_false nofun nofun
  | error stop' =>
    constructor
    · rintro ⟨⟩
      rfl
    · rintro ⟨⟩
      rfl

/-- A cut stops like the deletion of what was copied. -/
theorem cut_eq_error_iff : s.cut g policy = .error stop ↔ remove g policy s.mode = .error stop :=
  delete_eq_error_iff (s := s.copy)

/-! ## Malformed or misplaced -/

/-- What a command brings to the focus. -/
def brought? (s : Snapshot A) : Command A → Option (Clipping A)
  | .replace t => some (.tree t)
  | .insert frames => some (.context frames)
  | .paste => s.clipboard
  | _ => none

theorem apply_of_brought_tree {command : Command A} {t : Tree A}
    (h : s.brought? command = some (.tree t)) :
    s.apply g policy command = s.replace g policy t := by
  cases command with
  | replace t' =>
    cases h
    rfl
  | paste => exact paste_of_tree h
  | _ => cases h

theorem apply_of_brought_context {command : Command A} {frames : Context A}
    (h : s.brought? command = some (.context frames)) :
    s.apply g policy command = s.insert g policy frames := by
  cases command with
  | insert frames' =>
    cases h
    rfl
  | paste => exact paste_of_context h
  | _ => cases h

theorem replace_malformed_iff {c : Cursor A} {t : Tree A} {fault : Fault A}
    (hmode : s.mode = .cursor c) :
    s.replace g .refuse t = .error (.refused (.malformed fault)) ↔ g.validate t = .error fault := by
  rw [replace_eq_error_iff hmode]
  simp [FaultPolicy.stop]

theorem insert_malformed_iff {frames : Context A} {fault : Fault A} :
    s.insert g .refuse frames = .error (.refused (.malformed fault)) ↔
      g.checkEach frames = .error fault := by
  rw [insert_eq_error_iff]
  simp [FaultPolicy.stop]

theorem misplaced_of_replace {t : Tree A} {fault : Fault A}
    (h : s.replace g .refuse t = .error (.refused (.misfit fault))) :
    fault.Misplaced s.mode.atRoot := by
  cases hmode : s.mode with
  | select r =>
    unfold replace at h
    rw [hmode] at h
    cases h
  | cursor c =>
    rw [replace_eq_error_iff hmode] at h
    rcases h with ⟨_, -, ⟨⟩⟩ | ⟨-, _, hswap, ⟨⟩⟩
    exact Context.misplaced_of_checkSwap hswap

theorem misplaced_of_insert {frames : Context A} {fault : Fault A} (hs : g.Valid s.document)
    (h : s.insert g .refuse frames = .error (.refused (.misfit fault))) :
    fault.Misplaced s.mode.atRoot := by
  rw [insert_eq_error_iff] at h
  rcases h with ⟨_, -, ⟨⟩⟩ | ⟨heach, ⟨_, hseams, ⟨⟩⟩ | ⟨-, -, ⟨⟩⟩⟩
  cases hmode : s.mode with
  | cursor c =>
    rw [hmode] at hseams
    exact Context.misplaced_of_checkWrap heach hseams
  | select r =>
    rw [hmode] at hseams
    rw [document_of_mode hmode] at hs
    -- The old frames of the range are checked again, but in a valid document they have passed.
    have hrange := g.checkEach_of_checkAround (g.valid_plug.1 (g.valid_plug.1 hs).1).2
    exact Context.misplaced_of_checkWrap (Selection.checkEach_extended.2 ⟨hrange, heach⟩) hseams

theorem misplaced_of_remove {m : Mode A} {fault : Fault A}
    (h : remove g .refuse m = .error (.refused (.misfit fault))) : fault.Misplaced m.atRoot := by
  cases m with
  | cursor c =>
    obtain ⟨_, -, hstop⟩ := remove_cursor_eq_error_iff.1 h
    cases hstop
  | select r =>
    obtain ⟨_, hremoval, ⟨⟩⟩ := remove_select_eq_error_iff.1 h
    exact Selection.misplaced_of_checkRemoval _ hremoval

theorem misplaced_of_apply {command : Command A} {fault : Fault A} (hs : g.Valid s.document)
    (hedits : command.edits = true)
    (h : s.apply g .refuse command = .error (.refused (.misfit fault))) :
    fault.Misplaced s.mode.atRoot := by
  cases command with
  | replace t => exact misplaced_of_replace h
  | insert frames => exact misplaced_of_insert hs h
  | delete => exact misplaced_of_remove (delete_eq_error_iff.1 h)
  | cut => exact misplaced_of_remove (cut_eq_error_iff.1 h)
  | paste =>
    unfold apply paste at h
    cases hclip : s.clipboard with
    | none =>
      rw [hclip] at h
      cases h
    | some clip =>
      rw [hclip] at h
      cases clip with
      | tree t => exact misplaced_of_replace h
      | context frames => exact misplaced_of_insert hs h
  | _ => cases hedits

/-- **Refusals are told apart.** In a valid document, and where faults are refused:
- a tree brought to a cursor is malformed exactly if it is not valid, with its fault;
- frames brought to a cursor or a range are malformed exactly if one of them fails on its own, with
  the fault of the innermost that does;
- taking out the subtree at a cursor stops exactly if the hole is not valid, and as malformed;
- an edit is a misfit only where two categories differ, and names a rule only at the root. -/
theorem refusals_told_apart (g : Grammar A) (s : Snapshot A)
    (hs : g.validate s.document = .ok ()) :
    (∀ c command t fault, s.mode = .cursor c → s.brought? command = some (.tree t) →
      (s.apply g .refuse command = .error (.refused (.malformed fault)) ↔
        g.validate t = .error fault)) ∧
    (∀ command frames fault, s.brought? command = some (.context frames) →
      (s.apply g .refuse command = .error (.refused (.malformed fault)) ↔
        ∃ inner f outer, frames.frames = inner ++ f :: outer ∧
          (∀ f' ∈ inner, g.checkFrame f' = .ok ()) ∧ g.checkFrame f = .error fault)) ∧
    (∀ c command stop, s.mode = .cursor c → command = .delete ∨ command = .cut →
      (s.apply g .refuse command = .error stop ↔
        ∃ fault, g.validate (g.hole c.focus.cat) = .error fault ∧
          .refused (.malformed fault) = stop)) ∧
    ∀ command fault, command.edits = true →
      s.apply g .refuse command = .error (.refused (.misfit fault)) →
        fault.Misplaced s.mode.atRoot := by
  refine ⟨?_, ?_, ?_, ?_⟩
  · intro c command t fault hmode hbrought
    rw [apply_of_brought_tree hbrought]
    exact replace_malformed_iff hmode
  · intro command frames fault hbrought
    rw [apply_of_brought_context hbrought, insert_malformed_iff]
    exact Signature.checkEach_eq_error_iff
  · intro c command stop hmode hcommand
    have hremove : s.apply g .refuse command = .error stop ↔
        remove g .refuse s.mode = .error stop := by
      rcases hcommand with rfl | rfl
      · exact delete_eq_error_iff
      · exact cut_eq_error_iff
    rw [hremove, hmode]
    exact remove_cursor_eq_error_iff
  · intro command fault hedits h
    exact misplaced_of_apply (g.validate_eq_ok_iff.1 hs) hedits h

/-- Two frames are pasted at a range above a binder. The inner one on its own is a misfit there, but
the outer one is malformed. -/
theorem refusals_told_apart_paste :
    let binder : Tree Lambda.alphabet := .node ⟨.bind, .name, "x"⟩ []
    let abstraction : Frame Lambda.alphabet := ⟨⟨.exp, .lam, ""⟩, [], [Lambda.var "x"]⟩
    let inner := Lambda.functionFrame (Lambda.var "a")
    let outer : Frame Lambda.alphabet := ⟨⟨.exp, .var, "y"⟩, [], []⟩
    let s : Snapshot Lambda.alphabet :=
      ⟨.select (.ofRange .empty (.ofFrames [abstraction]) binder .inner),
        some (.context (.ofFrames [inner, outer]))⟩
    let misfit : Fault Lambda.alphabet := .wrongCategory .app 0 .exp .bind
    (Lambda.grammar false).validate s.document = .ok () ∧
      s.apply (Lambda.grammar false) .refuse .paste =
        .error (.refused (.malformed (.gapOutOfRange .var 0 0))) ∧
      s.apply (Lambda.grammar false) .refuse (.insert (.ofFrames [inner])) =
        .error (.refused (.misfit misfit)) ∧
      misfit.Misplaced s.mode.atRoot := by
  intro binder abstraction inner outer s misfit
  have hs : (Lambda.grammar false).validate s.document = .ok () :=
    Lambda.signature.validate_eq_ok_iff.2 (by decide)
  have hinner : Lambda.signature.checkFrame inner = .ok () :=
    Lambda.signature.checkFrame_eq_ok_iff.2 (by decide)
  have heach : Lambda.signature.checkEach (.ofFrames [inner]) = .ok () :=
    Check.forM_eq_ok_iff.2 (List.forall_mem_singleton.2 hinner)
  have hseams : s.mode.checkFrames Lambda.signature (.ofFrames [inner]) = .error misfit := by
    cbv
  have hmisfit : s.apply (Lambda.grammar false) .refuse (.insert (.ofFrames [inner])) =
      .error (.refused (.misfit misfit)) := by
    show s.insert (Lambda.grammar false) .refuse (.ofFrames [inner]) = _
    rw [insert_eq_error_iff]
    exact .inr ⟨heach, .inl ⟨misfit, hseams, rfl⟩⟩
  obtain ⟨-, hframes, -, hmisplaced⟩ := refusals_told_apart (Lambda.grammar false) s hs
  refine ⟨hs, ?_, hmisfit, hmisplaced _ _ rfl hmisfit⟩
  rw [hframes .paste _ _ rfl]
  exact ⟨[inner], outer, [], rfl, List.forall_mem_singleton.2 hinner, rfl⟩

end Snapshot

end TreeEditor
