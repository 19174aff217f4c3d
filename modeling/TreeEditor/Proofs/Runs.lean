import TreeEditor.Editor
import TreeEditor.Proofs.Stacks

/-!
# Runs of the editor

What one request can do is said once (`Editor.execute_cases`): nothing, a step back or forward in
the history, or a command on the current snapshot, which is then recorded. So a property that each
command preserves holds of every snapshot the editor has, the current one and all it could go back
or return to, throughout every run (`Editor.Holds.run`).
-/

namespace TreeEditor

variable {A : Alphabet}

/-- The commands that a request may lead to. -/
def Request.Issues (g : Grammar A) (c : Command A) : Request A → Prop
  | .command c' => c' = c
  | .query text _ => ∃ cat, c ∈ g.candidates cat text

/-- A typed text only ever replaces the focus or puts frames around it. -/
theorem Grammar.of_mem_candidates {g : Grammar A} {cat : A.Cat} {text : String} {c : Command A}
    (h : c ∈ g.candidates cat text) : (∃ t, c = .replace t) ∨ ∃ frames, c = .insert frames := by
  unfold candidates at h
  cases hread : g.readQuery cat text with
  | none =>
    rw [hread] at h
    cases h
  | some meant =>
    simp only [hread] at h
    split at h
    · exact .inl ⟨_, List.mem_singleton.1 h⟩
    · obtain ⟨f, -, rfl⟩ := List.mem_map.1 h
      exact .inr ⟨_, rfl⟩

/-- All other commands are requested as such. -/
theorem Request.Issues.eq_command {g : Grammar A} {c : Command A} {r : Request A}
    (h : r.Issues g c) (hreplace : ∀ t, c ≠ .replace t) (hinsert : ∀ frames, c ≠ .insert frames) :
    r = .command c := by
  cases r with
  | command c' => exact congrArg Request.command h
  | query text index =>
    obtain ⟨cat, hmem⟩ := h
    rcases Grammar.of_mem_candidates hmem with ⟨t, rfl⟩ | ⟨frames, rfl⟩
    · exact absurd rfl (hreplace t)
    · exact absurd rfl (hinsert frames)

namespace Editor

/-! ## One request -/

theorem execute_eq_commit {e : Editor A} {c : Command A} (hundo : c ≠ .undo) (hredo : c ≠ .redo) :
    e.execute c = e.commit c := by
  unfold execute
  split
  · exact absurd rfl hundo
  · exact absurd rfl hredo
  · rfl

theorem commit_of_ok {e : Editor A} {c : Command A} {next : Snapshot A}
    (h : e.current.apply e.grammar e.settings.faults c = .ok next) :
    e.commit c = (.ok (), { e with current := next, history := e.history.record e.current }) := by
  unfold commit
  rw [h]

theorem commit_of_error {e : Editor A} {c : Command A} {stop : Stop A}
    (h : e.current.apply e.grammar e.settings.faults c = .error stop) :
    e.commit c = (.error stop, e) := by
  unfold commit
  rw [h]

/-- Everything that a command can do to an editor. -/
theorem execute_cases (e : Editor A) (c : Command A) :
    (∃ stop, e.execute c = (.error stop, e)) ∨
    (c = .undo ∧ ∃ prior history, e.history.undo? e.current = some (prior, history) ∧
      e.execute c = (.ok (), { e with current := prior, history })) ∨
    (c = .redo ∧ ∃ next history, e.history.redo? e.current = some (next, history) ∧
      e.execute c = (.ok (), { e with current := next, history })) ∨
    ∃ next, e.current.apply e.grammar e.settings.faults c = .ok next ∧
      e.execute c = (.ok (), { e with current := next, history := e.history.record e.current }) := by
  unfold execute
  split
  · unfold undo
    cases hundo : e.history.undo? e.current with
    | none => exact .inl ⟨_, rfl⟩
    | some step => exact .inr (.inl ⟨rfl, step.1, step.2, rfl, rfl⟩)
  · unfold redo
    cases hredo : e.history.redo? e.current with
    | none => exact .inl ⟨_, rfl⟩
    | some step => exact .inr (.inr (.inl ⟨rfl, step.1, step.2, rfl, rfl⟩))
  · cases happly : e.current.apply e.grammar e.settings.faults c with
    | error stop => exact .inl ⟨stop, commit_of_error happly⟩
    | ok next => exact .inr (.inr (.inr ⟨next, rfl, commit_of_ok happly⟩))

/-- A command that succeeds on the current snapshot leads to the snapshot it gives. -/
theorem execute_of_apply {e : Editor A} {c : Command A} {next : Snapshot A}
    (h : e.current.apply e.grammar e.settings.faults c = .ok next) :
    e.execute c = (.ok (), { e with current := next, history := e.history.record e.current }) := by
  have hundo : c ≠ .undo := by
    rintro rfl
    cases h
  have hredo : c ≠ .redo := by
    rintro rfl
    cases h
  rw [execute_eq_commit hundo hredo, commit_of_ok h]

theorem current_of_apply {e : Editor A} {c : Command A} {next : Snapshot A}
    (h : e.current.apply e.grammar e.settings.faults c = .ok next) :
    (e.perform (.command c)).2.current = next := by
  show (e.execute c).2.current = next
  rw [execute_of_apply h]

/-- A request is refused, or it carries out a command that it issues. -/
theorem perform_cases (e : Editor A) (r : Request A) :
    (∃ stop, e.perform r = (.error stop, e)) ∨
      ∃ c, r.Issues e.grammar c ∧ e.perform r = e.execute c := by
  cases r with
  | command c => exact .inr ⟨c, rfl, rfl⟩
  | query text index =>
    show (∃ stop, e.submit text index = (.error stop, e)) ∨
      ∃ c, (∃ cat, c ∈ e.grammar.candidates cat text) ∧ e.submit text index = e.execute c
    unfold submit
    cases hpick : pick? (e.candidates text) index with
    | none => exact .inl ⟨_, rfl⟩
    | some c => exact .inr ⟨c, ⟨_, List.mem_of_getElem? hpick⟩, rfl⟩

/-- A request that is not carried out leaves the editor as it is. -/
theorem perform_of_ne_ok {e : Editor A} {r : Request A} (h : (e.perform r).1 ≠ .ok ()) :
    (e.perform r).2 = e := by
  rcases e.perform_cases r with ⟨stop, hstop⟩ | ⟨c, -, hc⟩
  · rw [hstop]
  rw [hc] at h ⊢
  rcases e.execute_cases c with ⟨stop, hstop⟩ | ⟨-, prior, history, -, hnext⟩ |
    ⟨-, next, history, -, hnext⟩ | ⟨next, -, hnext⟩
  · rw [hstop]
  · exact absurd (by rw [hnext]) h
  · exact absurd (by rw [hnext]) h
  · exact absurd (by rw [hnext]) h

/-- A request leaves the grammar, the settings and the limit of the history alone. -/
theorem perform_frame (e : Editor A) (r : Request A) :
    (e.perform r).2.grammar = e.grammar ∧ (e.perform r).2.settings = e.settings ∧
      (e.perform r).2.history.limit = e.history.limit := by
  rcases e.perform_cases r with ⟨stop, hstop⟩ | ⟨c, -, hc⟩
  · rw [hstop]
    exact ⟨rfl, rfl, rfl⟩
  rw [hc]
  rcases e.execute_cases c with ⟨stop, hstop⟩ | ⟨-, prior, history, hundo, hnext⟩ |
    ⟨-, next, history, hredo, hnext⟩ | ⟨next, -, hnext⟩
  · rw [hstop]
    exact ⟨rfl, rfl, rfl⟩
  · rw [hnext]
    exact ⟨rfl, rfl, (History.undo?_eq_some_iff.1 hundo).2.2⟩
  · rw [hnext]
    exact ⟨rfl, rfl, (History.redo?_eq_some_iff.1 hredo).2.2⟩
  · rw [hnext]
    exact ⟨rfl, rfl, rfl⟩

/-! ## Runs -/

@[simp] theorem run_nil (e : Editor A) : e.run [] = e := rfl

@[simp] theorem run_cons (e : Editor A) (r : Request A) (rs : List (Request A)) :
    e.run (r :: rs) = (e.perform r).2.run rs := rfl

theorem run_append (e : Editor A) (rs rs' : List (Request A)) :
    e.run (rs ++ rs') = (e.run rs).run rs' :=
  List.foldl_append

theorem run_frame (e : Editor A) (rs : List (Request A)) :
    (e.run rs).grammar = e.grammar ∧ (e.run rs).settings = e.settings ∧
      (e.run rs).history.limit = e.history.limit := by
  induction rs generalizing e with
  | nil => exact ⟨rfl, rfl, rfl⟩
  | cons r rs ih =>
    obtain ⟨hgrammar, hsettings, hlimit⟩ := ih (e.perform r).2
    obtain ⟨hgrammar', hsettings', hlimit'⟩ := e.perform_frame r
    exact ⟨hgrammar.trans hgrammar', hsettings.trans hsettings', hlimit.trans hlimit'⟩

/-! ## Properties of all snapshots -/

/-- Every snapshot that the editor has or could come back to has the property. -/
structure Holds (P : Snapshot A → Prop) (e : Editor A) : Prop where
  current : P e.current
  past : ∀ s ∈ e.history.past, P s
  future : ∀ s ∈ e.history.future, P s

namespace Holds

variable {P : Snapshot A → Prop} {e : Editor A}

theorem start {g : Grammar A} {settings : Settings} {t : Tree A} (h : P (.ofDocument t)) :
    (Editor.start g settings t).Holds P where
  current := h
  past := fun _ hs => by cases hs
  future := fun _ hs => by cases hs

theorem undo (h : e.Holds P) {prior : Snapshot A} {history : History (Snapshot A)}
    (hundo : e.history.undo? e.current = some (prior, history)) :
    Holds P { e with current := prior, history } := by
  obtain ⟨hpast, hfuture, -⟩ := History.undo?_eq_some_iff.1 hundo
  have hall := h.past
  rw [hpast, List.forall_mem_cons] at hall
  refine ⟨hall.1, hall.2, fun s hs => ?_⟩
  rw [hfuture] at hs
  rcases History.mem_of_mem_keep hs with rfl | hs
  · exact h.current
  · exact h.future s hs

theorem redo (h : e.Holds P) {next : Snapshot A} {history : History (Snapshot A)}
    (hredo : e.history.redo? e.current = some (next, history)) :
    Holds P { e with current := next, history } := by
  obtain ⟨hfuture, hpast, -⟩ := History.redo?_eq_some_iff.1 hredo
  have hall := h.future
  rw [hfuture, List.forall_mem_cons] at hall
  refine ⟨hall.1, fun s hs => ?_, hall.2⟩
  rw [hpast] at hs
  rcases History.mem_of_mem_keep hs with rfl | hs
  · exact h.current
  · exact h.past s hs

theorem record (h : e.Holds P) {next : Snapshot A} (hnext : P next) :
    Holds P { e with current := next, history := e.history.record e.current } := by
  refine ⟨hnext, fun s hs => ?_, fun s hs => by cases hs⟩
  rcases History.mem_of_mem_keep hs with rfl | hs
  · exact h.current
  · exact h.past s hs

theorem mono {Q : Snapshot A → Prop} (h : e.Holds P) (himp : ∀ s, P s → Q s) : e.Holds Q :=
  ⟨himp _ h.current, fun s hs => himp s (h.past s hs), fun s hs => himp s (h.future s hs)⟩

theorem perform (h : e.Holds P) {r : Request A}
    (hstep : ∀ c, r.Issues e.grammar c → ∀ next,
      e.current.apply e.grammar e.settings.faults c = .ok next → P next) :
    (e.perform r).2.Holds P := by
  rcases e.perform_cases r with ⟨stop, hstop⟩ | ⟨c, hissues, hc⟩
  · rw [hstop]
    exact h
  rw [hc]
  rcases e.execute_cases c with ⟨stop, hstop⟩ | ⟨-, prior, history, hundo, hnext⟩ |
    ⟨-, next, history, hredo, hnext⟩ | ⟨next, happly, hnext⟩
  · rw [hstop]
    exact h
  · rw [hnext]
    exact h.undo hundo
  · rw [hnext]
    exact h.redo hredo
  · rw [hnext]
    exact h.record (hstep c hissues next happly)

/-- What every command that the requests issue preserves holds throughout the run. -/
theorem run (h : e.Holds P) {rs : List (Request A)}
    (hstep : ∀ r ∈ rs, ∀ c, r.Issues e.grammar c → ∀ s next, P s →
      s.apply e.grammar e.settings.faults c = .ok next → P next) :
    (e.run rs).Holds P := by
  induction rs generalizing e with
  | nil => exact h
  | cons r rs ih =>
    rw [List.forall_mem_cons] at hstep
    obtain ⟨hgrammar, hsettings, -⟩ := e.perform_frame r
    refine ih (h.perform fun c hissues next => hstep.1 c hissues e.current next h.current) ?_
    rw [hgrammar, hsettings]
    exact hstep.2

end Holds

end Editor

end TreeEditor
