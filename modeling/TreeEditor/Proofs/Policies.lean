import TreeEditor.Proofs.Safety

/-!
# The two fault policies

The policy is asked only when a command is stopped by a fault, after which nothing happens any more.
So for every command the two policies give the same outcome, or both stop at the same fault, the one
with an abort and the other with a refusal (`Alike`). An editor keeps nothing of how a command was
stopped, so two editors that differ only in their policy stay in step throughout every run
(`Editor.run_withPolicy`).
-/

namespace TreeEditor

variable {A : Alphabet}

/-! ## Outcomes under the two policies -/

/-- An outcome of aborting at faults and one of refusing them: they are the same and show no fault,
or both report the same one. -/
inductive Alike {α : Type} : Outcome A α → Outcome A α → Prop
  | same {x : Outcome A α} (h : Faultless x) : Alike x x
  | fault (fault : Fault A) :
    Alike (.error (.aborted fault)) (.error (.refused (.malformed fault)))

namespace Alike

variable {α β : Type} {x y : Outcome A α}

theorem bind {f f' : α → Outcome A β} (h : Alike x y) (hf : ∀ a, Alike (f a) (f' a)) :
    Alike (x >>= f) (y >>= f') := by
  cases h with
  | fault fault => exact .fault fault
  | same hx =>
    cases x with
    | ok a => exact hf a
    | error stop => exact .same hx.error

theorem enforce (check : Check A) : Alike (check.enforce .abort) (check.enforce .refuse) := by
  cases check with
  | ok u => exact .same (.ok u)
  | error fault => exact .fault fault

theorem fit (check : Check A) : Alike check.fit check.fit := .same (.fit check)

theorem ok (a : α) : Alike (.ok a : Outcome A α) (.ok a) := .same (.ok a)

/-- The one is aborted at a fault iff the other is refused for it. -/
theorem aborted_iff (h : Alike x y) (fault : Fault A) :
    x = .error (.aborted fault) ↔ y = .error (.refused (.malformed fault)) := by
  cases h with
  | same hx => exact iff_of_false (hx fault).1 (hx fault).2
  | fault fault' =>
    constructor
    · rintro ⟨⟩
      rfl
    · rintro ⟨⟩
      rfl

theorem eq_of_not_aborted (h : Alike x y) (hx : ∀ fault, x ≠ .error (.aborted fault)) : x = y := by
  cases h with
  | same _ => rfl
  | fault fault => exact absurd rfl (hx fault)

end Alike

/-! ## Commands -/

namespace Snapshot

variable (g : Grammar A) (s : Snapshot A)

theorem alike_replace (t : Tree A) : Alike (s.replace g .abort t) (s.replace g .refuse t) := by
  unfold replace
  cases s.mode with
  | select r => exact .same (.refused nofun)
  | cursor c => exact .bind (.enforce _) fun _ => .bind (.fit _) fun _ => .ok _

theorem alike_insert (frames : Context A) :
    Alike (s.insert g .abort frames) (s.insert g .refuse frames) := by
  unfold insert
  refine .bind (.enforce _) fun _ => ?_
  cases s.mode with
  | cursor c => exact .bind (.fit _) fun _ => .ok _
  | select r => exact .bind (.fit _) fun _ => .same (.ite (.ok _) (.refused nofun))

theorem alike_remove (m : Mode A) : Alike (remove g .abort m) (remove g .refuse m) := by
  cases m with
  | cursor c => exact .bind (.enforce _) fun _ => .ok _
  | select r => exact .bind (.fit _) fun _ => .ok _

theorem alike_paste : Alike (s.paste g .abort) (s.paste g .refuse) := by
  unfold paste
  split
  · exact .same (.refused nofun)
  · exact s.alike_replace g _
  · exact s.alike_insert g _

theorem alike_apply (command : Command A) :
    Alike (s.apply g .abort command) (s.apply g .refuse command) := by
  cases command with
  | moveCursor d => exact .same (s.faultless_moveCursor d)
  | moveSelection d => exact .same (s.faultless_moveSelection d)
  | setCursor c => exact .same (s.faultless_setCursor c)
  | setSelection r => exact .same (s.faultless_setSelection r)
  | replace t => exact s.alike_replace g t
  | insert frames => exact s.alike_insert g frames
  | undo => exact .same (.refused nofun)
  | redo => exact .same (.refused nofun)
  | copy => exact .ok _
  | cut => exact .bind (alike_remove g _) fun _ => .ok _
  | paste => exact s.alike_paste g
  | delete => exact .bind (alike_remove g _) fun _ => .ok _
  | escape => exact .same s.faultless_escape

end Snapshot

/-! ## Editors -/

namespace Editor

/-- The same editor with another policy. -/
def withPolicy (e : Editor A) (policy : FaultPolicy) : Editor A :=
  { e with settings := { e.settings with faults := policy } }

@[simp] theorem grammar_withPolicy (e : Editor A) (policy : FaultPolicy) :
    (e.withPolicy policy).grammar = e.grammar := rfl

@[simp] theorem faults_withPolicy (e : Editor A) (policy : FaultPolicy) :
    (e.withPolicy policy).settings.faults = policy := rfl

@[simp] theorem current_withPolicy (e : Editor A) (policy : FaultPolicy) :
    (e.withPolicy policy).current = e.current := rfl

@[simp] theorem history_withPolicy (e : Editor A) (policy : FaultPolicy) :
    (e.withPolicy policy).history = e.history := rfl

theorem withPolicy_of_faults {e : Editor A} {policy : FaultPolicy}
    (h : e.settings.faults = policy) : e.withPolicy policy = e := by
  subst h
  rfl

/-- Two answers that are alike and leave editors that differ only in their policy. -/
structure InStep (x y : Report A × Editor A) : Prop where
  reports : Alike x.1 y.1
  editors : x.2 = y.2.withPolicy .abort

theorem inStep_undo (e : Editor A) :
    InStep (e.withPolicy .abort).undo (e.withPolicy .refuse).undo := by
  unfold undo
  simp only [current_withPolicy, history_withPolicy]
  cases e.history.undo? e.current with
  | none => exact ⟨.same (.refused nofun), rfl⟩
  | some step => exact ⟨.ok (), rfl⟩

theorem inStep_redo (e : Editor A) :
    InStep (e.withPolicy .abort).redo (e.withPolicy .refuse).redo := by
  unfold redo
  simp only [current_withPolicy, history_withPolicy]
  cases e.history.redo? e.current with
  | none => exact ⟨.same (.refused nofun), rfl⟩
  | some step => exact ⟨.ok (), rfl⟩

theorem inStep_commit (e : Editor A) (c : Command A) :
    InStep ((e.withPolicy .abort).commit c) ((e.withPolicy .refuse).commit c) := by
  unfold commit
  simp only [current_withPolicy, grammar_withPolicy, faults_withPolicy]
  have happly := e.current.alike_apply e.grammar c
  cases hx : e.current.apply e.grammar .abort c with
  | ok next =>
    rw [hx] at happly
    rw [← happly.eq_of_not_aborted nofun]
    exact ⟨.ok (), rfl⟩
  | error stop =>
    rw [hx] at happly
    generalize e.current.apply e.grammar .refuse c = y at happly
    cases happly with
    | same h => exact ⟨.same h.error, rfl⟩
    | fault fault => exact ⟨.fault fault, rfl⟩

theorem inStep_execute (e : Editor A) (c : Command A) :
    InStep ((e.withPolicy .abort).execute c) ((e.withPolicy .refuse).execute c) := by
  by_cases hundo : c = .undo
  · subst hundo
    exact e.inStep_undo
  by_cases hredo : c = .redo
  · subst hredo
    exact e.inStep_redo
  rw [execute_eq_commit hundo hredo, execute_eq_commit hundo hredo]
  exact e.inStep_commit c

/-- One request keeps the two editors in step. A typed text is read the same way by both. -/
theorem inStep_perform (e : Editor A) (r : Request A) :
    InStep ((e.withPolicy .abort).perform r) ((e.withPolicy .refuse).perform r) := by
  cases r with
  | command c => exact e.inStep_execute c
  | query text index =>
    show InStep ((e.withPolicy .abort).submit text index) ((e.withPolicy .refuse).submit text index)
    unfold submit candidates
    simp only [current_withPolicy, grammar_withPolicy]
    cases pick? (e.grammar.candidates e.current.mode.focus.cat text) index with
    | none => exact ⟨.same (.refused nofun), rfl⟩
    | some c => exact e.inStep_execute c

/-- A run with one policy is the run with the other, but for the policy. -/
theorem run_withPolicy (e : Editor A) (rs : List (Request A)) :
    (e.withPolicy .abort).run rs = ((e.withPolicy .refuse).run rs).withPolicy .abort := by
  induction rs generalizing e with
  | nil => rfl
  | cons r rs ih =>
    -- The refusing editor still refuses after the request, so it is the one to go on with.
    have hrefuses : ((e.withPolicy .refuse).perform r).2.settings.faults = .refuse := by
      rw [((e.withPolicy .refuse).perform_frame r).2.1]
      rfl
    rw [run_cons, run_cons, (e.inStep_perform r).editors, ih, withPolicy_of_faults hrefuses]

/-- **The policy shows only in reports.** Open two editors on the same document with the same limit,
one that aborts at faults and one that refuses them, and make the same requests. They have the same
snapshots, current, past and future. The next request is aborted at a fault in the one iff it is
refused for this fault in the other, and is otherwise answered alike; and one that is not carried
out leaves each editor as it is. -/
theorem policy_shows_only_in_reports (g : Grammar A) (limit : Nat) (t : Tree A)
    (requests : List (Request A)) (r : Request A) :
    let aborting := (start g ⟨limit, .abort⟩ t).run requests
    let refusing := (start g ⟨limit, .refuse⟩ t).run requests
    (aborting.current = refusing.current ∧ aborting.history = refusing.history) ∧
      (∀ fault, (aborting.perform r).1 = .error (.aborted fault) ↔
        (refusing.perform r).1 = .error (.refused (.malformed fault))) ∧
      ((∀ fault, (aborting.perform r).1 ≠ .error (.aborted fault)) →
        (aborting.perform r).1 = (refusing.perform r).1) ∧
      ((aborting.perform r).1 ≠ .ok () → (aborting.perform r).2 = aborting) ∧
      ((refusing.perform r).1 ≠ .ok () → (refusing.perform r).2 = refusing) := by
  intro aborting refusing
  have hrun : aborting = refusing.withPolicy .abort :=
    (start g ⟨limit, .refuse⟩ t).run_withPolicy requests
  have hrefusing : refusing.withPolicy .refuse = refusing := by
    apply withPolicy_of_faults
    rw [(run_frame _ requests).2.1]
    rfl
  have hreports : Alike (aborting.perform r).1 (refusing.perform r).1 := by
    have hstep := (refusing.inStep_perform r).reports
    rwa [← hrun, hrefusing] at hstep
  refine ⟨?_, hreports.aborted_iff, hreports.eq_of_not_aborted, ?_, ?_⟩
  · rw [hrun]
    exact ⟨rfl, rfl⟩
  · exact perform_of_ne_ok
  · exact perform_of_ne_ok

end Editor

end TreeEditor
