import TreeEditor.Grammar.Lambda
import TreeEditor.Proofs.Runs

/-!
# The timeline

Each command that succeeds puts the snapshot it replaces on the stack of past ones, so after a
series of them this stack is their snapshots, newest first, as far as the limit goes
(`Editor.history_run`). Going back moves snapshots over to the other stack. As both stacks together
fit into the limit (`History.Fits`) nothing is driven out by this, so going back and returning are
inverse steps along one timeline (`Editor.redo_undo`).
-/

namespace TreeEditor

variable {A : Alphabet}

/-! ## Accepted requests -/

namespace Editor

/-- Each of the requests is carried out, one after another. -/
def Accepts (e : Editor A) : List (Request A) → Prop
  | [] => True
  | r :: rs => (e.perform r).1 = .ok () ∧ (e.perform r).2.Accepts rs

theorem accepts_append {e : Editor A} {rs rs' : List (Request A)} :
    e.Accepts (rs ++ rs') ↔ e.Accepts rs ∧ (e.run rs).Accepts rs' := by
  induction rs generalizing e with
  | nil => simp [Accepts]
  | cons r rs ih => simp [Accepts, ih, and_assoc]

/-- A request that does not step through the history records the snapshot it replaces. -/
theorem history_perform {e : Editor A} {r : Request A} (hundo : r ≠ .command .undo)
    (hredo : r ≠ .command .redo) (h : (e.perform r).1 = .ok ()) :
    (e.perform r).2.history = e.history.record e.current := by
  rcases e.perform_cases r with ⟨stop, hstop⟩ | ⟨c, hissues, hc⟩
  · rw [hstop] at h
    cases h
  rw [hc] at h ⊢
  rcases e.execute_cases c with ⟨stop, hstop⟩ | ⟨rfl, -⟩ | ⟨rfl, -⟩ | ⟨next, -, hnext⟩
  · rw [hstop] at h
    cases h
  · exact absurd (hissues.eq_command nofun nofun) hundo
  · exact absurd (hissues.eq_command nofun nofun) hredo
  · rw [hnext]

/-- The snapshot after the first `k` of the requests. -/
def snapshotAt (e : Editor A) (rs : List (Request A)) (k : Nat) : Snapshot A :=
  (e.run (rs.take k)).current

theorem snapshotAt_length (e : Editor A) (rs : List (Request A)) :
    e.snapshotAt rs rs.length = (e.run rs).current := by
  unfold snapshotAt
  rw [List.take_length]

/-- The snapshots that a series of requests replaces, newest first. -/
def replaced (e : Editor A) (rs : List (Request A)) : List (Snapshot A) :=
  ((List.range rs.length).map (e.snapshotAt rs)).reverse

theorem replaced_cons (e : Editor A) (r : Request A) (rs : List (Request A)) :
    e.replaced (r :: rs) = (e.perform r).2.replaced rs ++ [e.current] := by
  unfold replaced
  rw [List.length_cons, List.range_succ_eq_map, List.map_cons, List.reverse_cons, List.map_map]
  rfl

theorem length_replaced (e : Editor A) (rs : List (Request A)) :
    (e.replaced rs).length = rs.length := by
  simp [replaced]

theorem getElem?_replaced (e : Editor A) {rs : List (Request A)} {i : Nat} (hi : i < rs.length) :
    (e.replaced rs)[i]? = some (e.snapshotAt rs (rs.length - (i + 1))) := by
  unfold replaced
  rw [List.getElem?_reverse (by simpa using hi)]
  simp only [List.length_map, List.length_range, List.getElem?_map]
  rw [List.getElem?_range (by omega)]
  simp [Nat.sub_sub, Nat.add_comm]

/-- After a series of accepted commands the past is what they replaced, and then what was there
before, as far as the limit goes, and there is no future. -/
theorem history_run {e : Editor A} {rs : List (Request A)} (hne : rs ≠ [])
    (hedits : ∀ r ∈ rs, r ≠ .command .undo ∧ r ≠ .command .redo) (hok : e.Accepts rs) :
    (e.run rs).history.past = (e.replaced rs ++ e.history.past).take e.history.limit ∧
      (e.run rs).history.future = [] := by
  induction rs generalizing e with
  | nil => exact absurd rfl hne
  | cons r rs ih =>
    rw [List.forall_mem_cons] at hedits
    obtain ⟨hfirst, hrest⟩ := hok
    have hrecord := history_perform hedits.1.1 hedits.1.2 hfirst
    have hpast : (e.perform r).2.history.past = e.history.keep e.current e.history.past := by
      rw [hrecord]
      rfl
    have hlimit : (e.perform r).2.history.limit = e.history.limit := (e.perform_frame r).2.2
    rw [run_cons, replaced_cons, List.append_assoc, List.singleton_append]
    cases rs with
    | nil =>
      -- Only the last request tells that there is no future: each one clears it.
      refine ⟨?_, ?_⟩
      · exact hpast
      · rw [run_nil, hrecord]
        rfl
    | cons r' rs =>
      obtain ⟨hpast', hfuture'⟩ := ih (List.cons_ne_nil _ _) hedits.2 hrest
      refine ⟨?_, hfuture'⟩
      rw [hpast', hlimit, hpast, History.take_append_keep]

/-! ## Going back and returning -/

theorem perform_undo {e : Editor A} {prior : Snapshot A} {history : History (Snapshot A)}
    (hundo : e.history.undo? e.current = some (prior, history)) :
    e.perform (.command .undo) = (.ok (), { e with current := prior, history }) := by
  show e.undo = _
  unfold undo
  rw [hundo]

theorem perform_undo_nil {e : Editor A} (hpast : e.history.past = []) :
    e.perform (.command .undo) = (.error (.refused .nothingToUndo), e) := by
  show e.undo = _
  unfold undo History.undo?
  rw [hpast]

theorem perform_redo {e : Editor A} {next : Snapshot A} {history : History (Snapshot A)}
    (hredo : e.history.redo? e.current = some (next, history)) :
    e.perform (.command .redo) = (.ok (), { e with current := next, history }) := by
  show e.redo = _
  unfold redo
  rw [hredo]

/-- Returning right after going back changes nothing at all. -/
theorem redo_undo {e : Editor A} (hfits : e.history.Fits) (hpast : e.history.past ≠ []) :
    (e.perform (.command .undo)).2.perform (.command .redo) = (.ok (), e) := by
  obtain ⟨prior, past, hcons⟩ := List.exists_cons_of_ne_nil hpast
  obtain ⟨history, hundo⟩ := History.exists_undo? hcons e.current
  have hredo : history.redo? prior = some (e.current, e.history) := hfits.redo?_of_undo? hundo
  rw [perform_undo hundo, perform_redo hredo]

/-- The requests to go back `n` times. -/
def undos (n : Nat) : List (Request A) := List.replicate n (.command .undo)

/-- The requests to return `n` times. -/
def redos (n : Nat) : List (Request A) := List.replicate n (.command .redo)

theorem undos_succ (n : Nat) : (undos (n + 1) : List (Request A)) = undos n ++ [.command .undo] :=
  List.replicate_succ'

theorem redos_succ (n : Nat) : (redos (n + 1) : List (Request A)) = redos n ++ [.command .redo] :=
  List.replicate_succ'

/-- Going back as often as there are past snapshots is accepted, and leads down the timeline. -/
theorem run_undos {e : Editor A} (hfits : e.history.Fits) {n : Nat}
    (hn : n ≤ e.history.past.length) :
    e.Accepts (undos n) ∧ (e.run (undos n)).history.Fits ∧
      (e.current :: e.history.past).drop n =
        (e.run (undos n)).current :: (e.run (undos n)).history.past := by
  induction n with
  | zero => exact ⟨trivial, hfits, rfl⟩
  | succ n ih =>
    obtain ⟨hok, hfits', hline⟩ := ih (by omega)
    rw [undos_succ, accepts_append, run_append]
    generalize e.run (undos n) = e' at hok hfits' hline ⊢
    have hlen : 0 < e'.history.past.length := by
      have := congrArg List.length hline
      simp only [List.length_drop, List.length_cons] at this
      omega
    obtain ⟨prior, past, hpast⟩ := List.exists_cons_of_length_pos hlen
    obtain ⟨history, hundo⟩ := History.exists_undo? hpast e'.current
    have hstep := perform_undo hundo
    refine ⟨⟨hok, ?_, trivial⟩, ?_, ?_⟩
    · rw [hstep]
    · rw [run_cons, hstep]
      exact hfits'.undo hundo
    · rw [← List.drop_drop, hline, run_cons, hstep, (History.undo?_eq_some_iff.1 hundo).1]
      rfl

theorem past_run_undos {e : Editor A} (hfits : e.history.Fits) {n : Nat}
    (hn : n ≤ e.history.past.length) :
    (e.run (undos n)).history.past = e.history.past.drop n := by
  have htail := congrArg List.tail (run_undos hfits hn).2.2
  rw [List.tail_drop, List.drop_succ_cons, List.tail_cons] at htail
  exact htail.symm

/-- Returning `i` times after going back `n` times is going back `n - i` times. -/
theorem run_redos {e : Editor A} (hfits : e.history.Fits) {n : Nat}
    (hn : n ≤ e.history.past.length) {i : Nat} (hi : i ≤ n) :
    (e.run (undos n)).Accepts (redos i) ∧
      (e.run (undos n)).run (redos i) = e.run (undos (n - i)) := by
  induction i with
  | zero => exact ⟨trivial, rfl⟩
  | succ i ih =>
    obtain ⟨hok, hrun⟩ := ih (by omega)
    -- The next return takes back the last of the `n - i` steps that are left.
    have hlast : n - i = n - (i + 1) + 1 := by omega
    have hle : n - (i + 1) ≤ e.history.past.length := by omega
    obtain ⟨-, hfits', -⟩ := run_undos hfits hle
    have hpast : (e.run (undos (n - (i + 1)))).history.past ≠ [] := by
      rw [past_run_undos hfits hle, Ne, List.drop_eq_nil_iff]
      omega
    rw [redos_succ, accepts_append, run_append, hrun, hlast, undos_succ, run_append]
    have hback := redo_undo hfits' hpast
    refine ⟨⟨hok, ?_, trivial⟩, ?_⟩
    · exact congrArg Prod.fst hback
    · exact congrArg Prod.snd hback

/-- Going back over a series of requests leads to the snapshots between them. -/
theorem current_run_undos {e : Editor A} {rs : List (Request A)} {older : List (Snapshot A)}
    {limit : Nat} (hfits : (e.run rs).history.Fits)
    (hpast : (e.run rs).history.past = (e.replaced rs ++ older).take limit) {j : Nat}
    (hj : j ≤ min limit rs.length) :
    ((e.run rs).run (undos j)).current = e.snapshotAt rs (rs.length - j) := by
  have hlen : j ≤ (e.run rs).history.past.length := by
    rw [hpast, List.length_take, List.length_append, length_replaced]
    omega
  obtain ⟨-, -, hline⟩ := run_undos hfits hlen
  have hhead := congrArg List.head? hline
  rw [List.head?_drop, List.head?_cons] at hhead
  cases j with
  | zero => exact (e.snapshotAt_length rs).symm
  | succ j =>
    rw [List.getElem?_cons_succ, hpast, List.getElem?_take_of_lt (by omega),
      List.getElem?_append_left (by rw [length_replaced]; omega),
      getElem?_replaced e (by omega)] at hhead
    exact (Option.some.inj hhead).symm

/-- **Undo and redo walk the exact timeline.** Take an editor after any requests, and `m > 0`
commands more that are all accepted. The past is then as long as the limit `L` allows and the
future empty, going back and returning leads along the snapshots of these commands, after
returning all the way the whole editor is as it was, and beyond the oldest snapshot there is
nothing to go back to. -/
theorem undo_redo_walk_timeline (g : Grammar A) (settings : Settings) (t : Tree A)
    (before edits : List (Request A)) (hne : edits ≠ [])
    (hedits : ∀ r ∈ edits, r ≠ .command .undo ∧ r ≠ .command .redo)
    (hok : ((start g settings t).run before).Accepts edits) :
    let e := (start g settings t).run before
    let top := e.run edits
    let L := max settings.historyLimit 1
    let m := edits.length
    let n := min L (e.history.past.length + m)
    (top.history.past.length = n ∧ top.history.future.length = 0) ∧
    (∀ j ≤ min L m,
      (top.Accepts (undos j) ∧ (top.run (undos j)).current = e.snapshotAt edits (m - j)) ∧
      (∀ i ≤ j, (top.run (undos j)).Accepts (redos i) ∧
        ((top.run (undos j)).run (redos i)).current = e.snapshotAt edits (m - j + i)) ∧
      (top.run (undos j)).run (redos j) = top) ∧
    top.Accepts (undos n) ∧
      (top.run (undos n)).perform (.command .undo) =
        (.error (.refused .nothingToUndo), top.run (undos n)) := by
  intro e top L m n
  have hlimit : e.history.limit = L := (run_frame _ before).2.2
  obtain ⟨hpast, hfuture⟩ : top.history.past = _ ∧ top.history.future = [] :=
    history_run hne hedits hok
  rw [hlimit] at hpast
  have hlength : top.history.past.length = n := by
    rw [hpast, List.length_take, List.length_append, length_replaced, Nat.add_comm]
  -- All of the limit may be taken up by the past, so it matters that the future is empty.
  have hfits : top.history.Fits := by
    unfold History.Fits
    rw [(run_frame e edits).2.2, hlimit, hlength, hfuture]
    exact Nat.min_le_left ..
  have hback : ∀ j ≤ min L m, (top.run (undos j)).current = e.snapshotAt edits (m - j) :=
    fun j hj => current_run_undos hfits hpast hj
  refine ⟨⟨hlength, by rw [hfuture]; rfl⟩, ?_, ?_⟩
  · intro j hj
    have hjn : j ≤ top.history.past.length := by omega
    refine ⟨⟨(run_undos hfits hjn).1, hback j hj⟩, ?_, ?_⟩
    · intro i hi
      obtain ⟨hredo, hrun⟩ := run_redos hfits hjn hi
      refine ⟨hredo, ?_⟩
      rw [hrun, hback (j - i) (by omega)]
      congr 1
      omega
    · obtain ⟨-, hrun⟩ := run_redos hfits hjn (Nat.le_refl j)
      rw [hrun, Nat.sub_self]
      rfl
  · have hn : n ≤ top.history.past.length := Nat.le_of_eq hlength.symm
    have hempty : (top.run (undos n)).history.past = [] := by
      rw [past_run_undos hfits hn, List.drop_eq_nil_iff]
      exact Nat.le_of_eq hlength
    exact ⟨(run_undos hfits hn).1, perform_undo_nil hempty⟩

/-- Four commands with room for two snapshots: the third step back is refused. -/
theorem undo_redo_walk_timeline_spine :
    let e := (start (Lambda.grammar false) { historyLimit := 2 } Lambda.spine).run [.command .copy]
    let edits := [.command (.moveCursor .down), .command .copy, .command (.moveCursor .down)]
    e.Accepts edits ∧
      ((e.run edits).run (undos 2)).current = e.snapshotAt edits 1 ∧
      ((e.run edits).run (undos 2)).run (redos 2) = e.run edits ∧
      ((e.run edits).run (undos 2)).perform (.command .undo) =
        (.error (.refused .nothingToUndo), (e.run edits).run (undos 2)) := by
  intro e edits
  have hok : e.Accepts edits := ⟨rfl, rfl, rfl, trivial⟩
  obtain ⟨-, hwalk, -, hend⟩ := undo_redo_walk_timeline (Lambda.grammar false)
    { historyLimit := 2 } Lambda.spine [.command .copy] edits (by decide) (by simp [edits]) hok
  obtain ⟨⟨-, hback⟩, -, hreturn⟩ := hwalk 2 (by decide)
  exact ⟨hok, hback, hreturn, hend⟩

end Editor

end TreeEditor
