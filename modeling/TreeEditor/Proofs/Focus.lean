import TreeEditor.Proofs.Integrity
import TreeEditor.Proofs.Timeline

/-!
# What may be in focus

A grammar admits some positions and some ranges. Every way to a range asks it: a range that is set,
one whose end is moved, and one that grows by an edit. So the ranges that can be in focus are
exactly those that it admits (`Editor.selections_in_focus`).

Positions are different. A cursor that is set or moved is asked about, and so is, in effect, the one
at which a selection closes when its ends meet. But a selection collapses to a cursor without a
question, and its end was moved as the end of a range. So in a run without edits the cursor is at an
admitted position or where a selection collapsed, and the second is harmless only in a grammar
whose ranges collapse to admitted positions (`Editor.hidden_focus_by_collapse`).
-/

namespace TreeEditor

variable {A : Alphabet}

/-! ## Moves lead to what is admitted -/

namespace Grammar

variable {g : Grammar A}

theorem admits_of_moveCursor? {c c' : Cursor A} {d : Direction} (h : g.moveCursor? c d = some c') :
    g.admitsCursor c' = true := by
  unfold moveCursor? at h
  cases d with
  | up => exact (Option.filter_eq_some_iff.1 h).2
  | down => exact (Option.filter_eq_some_iff.1 h).2
  | left => exact (Option.filter_eq_some_iff.1 h).2
  | right => exact (Option.filter_eq_some_iff.1 h).2
  | next => exact Cursor.admits_of_next? h
  | prev => exact Cursor.admits_of_prev? h

theorem admits_of_moveSelection? {r r' : Selection A} {d : Direction}
    (h : g.moveSelection? r d = some (.range r')) : g.admitsSelection r' = true := by
  rcases moveSelection?_cases h with ⟨moved, -, hadmits, hspan⟩ | ⟨moved, -, hstretch⟩
  · cases hspan
    exact hadmits
  · exact (stretch?_eq_some_iff.1 hstretch).2 r' rfl

/-- Where the ends of a selection meet, the movable one has come as a cursor does. -/
theorem admits_fixedCursor_of_moveSelection? {r : Selection A} {d : Direction}
    (h : g.moveSelection? r d = some .empty) : g.admitsCursor r.fixedCursor = true := by
  rcases moveSelection?_cases h with ⟨moved, -, -, hspan⟩ | ⟨moved, hmove, hstretch⟩
  · cases hspan
  · have hdocument := document_fixedCursor_of_moveCursor? hmove
    have hmeet : r.fixedCursor = moved :=
      ((Cursor.between?_eq_empty_iff hdocument).1 (stretch?_eq_some_iff.1 hstretch).1).1
    rw [hmeet]
    exact admits_of_moveCursor? hmove

end Grammar

/-! ## Ranges -/

/-- The range in focus, if there is one, is admitted. -/
def Snapshot.RangeAdmitted (g : Grammar A) (s : Snapshot A) : Prop :=
  ∀ r, s.mode = .select r → g.admitsSelection r = true

namespace Snapshot.RangeAdmitted

variable {g : Grammar A} {policy : FaultPolicy} {s next : Snapshot A}

theorem withCursor (s : Snapshot A) (c : Cursor A) : (s.withCursor c).RangeAdmitted g := by
  intro r hr
  cases hr

theorem withSelection (s : Snapshot A) {r : Selection A} (h : g.admitsSelection r = true) :
    (s.withSelection r).RangeAdmitted g := by
  intro r' hr'
  cases hr'
  exact h

theorem insert {frames : Context A} (h : s.insert g policy frames = .ok next) :
    next.RangeAdmitted g := by
  rcases of_insert h with ⟨c, -, rfl⟩ | ⟨r, -, hadmits, rfl⟩
  · exact .withCursor s _
  · exact .withSelection s hadmits

theorem replace {t : Tree A} (h : s.replace g policy t = .ok next) : next.RangeAdmitted g := by
  obtain ⟨c, rfl⟩ := withCursor_of_replace h
  exact .withCursor s c

theorem delete (h : s.delete g policy = .ok next) : next.RangeAdmitted g := by
  obtain ⟨c, rfl⟩ := withCursor_of_delete h
  exact .withCursor s c

theorem paste (h : s.paste g policy = .ok next) : next.RangeAdmitted g := by
  unfold Snapshot.paste at h
  split at h
  · cases h
  · exact replace h
  · exact insert h

theorem moveSelection {d : Direction} (h : s.moveSelection g d = .ok next) :
    next.RangeAdmitted g := by
  rcases moveSelection_eq_ok_iff.1 h with ⟨moved, hmove, rfl⟩ | ⟨-, rfl⟩
  · exact .withSelection s (Grammar.admits_of_moveSelection? hmove)
  · exact .withCursor s _

theorem moveCursor {d : Direction} (h : s.moveCursor g d = .ok next) : next.RangeAdmitted g := by
  rcases moveCursor_eq_ok_iff.1 h with ⟨c, moved, -, -, rfl⟩ | ⟨r, -, rfl⟩
  · exact .withCursor s _
  · exact .withCursor s _

theorem apply {command : Command A} (hs : s.RangeAdmitted g)
    (h : s.apply g policy command = .ok next) : next.RangeAdmitted g := by
  cases command with
  | moveCursor d => exact moveCursor h
  | moveSelection d => exact moveSelection h
  | setCursor c =>
    obtain ⟨-, rfl⟩ := setCursor_eq_ok_iff.1 h
    exact .withCursor s c
  | setSelection r =>
    obtain ⟨hadmits, rfl⟩ := setSelection_eq_ok_iff.1 h
    exact .withSelection s hadmits
  | replace t => exact replace h
  | insert frames => exact insert h
  | undo => cases h
  | redo => cases h
  | copy =>
    cases h
    exact hs
  | cut => exact delete (s := s.copy) h
  | paste => exact paste h
  | delete => exact delete h
  | escape =>
    obtain ⟨r, -, rfl⟩ := escape_eq_ok_iff.1 h
    exact .withCursor s _

end Snapshot.RangeAdmitted

namespace Editor

theorem run_rangeAdmitted (g : Grammar A) (settings : Settings) (t : Tree A)
    (requests : List (Request A)) :
    ((start g settings t).run requests).Holds (Snapshot.RangeAdmitted g) :=
  Holds.run (.start (.withCursor (.ofDocument t) (.root t)))
    fun _ _ _ _ _ _ hs h => hs.apply h

theorem mode_setSelection {e : Editor A} {r : Selection A}
    (h : e.grammar.admitsSelection r = true) :
    (e.perform (.command (.setSelection r))).2.current.mode = .select r := by
  have hset : e.current.apply e.grammar e.settings.faults (.setSelection r) =
      .ok (e.current.withSelection r) := Snapshot.setSelection_eq_ok_iff.2 ⟨h, rfl⟩
  rw [current_of_apply hset]
  rfl

theorem mode_escape {e : Editor A} {r : Selection A} (h : e.current.mode = .select r) :
    (e.perform (.command .escape)).2.current.mode = .cursor (e.grammar.collapse r) := by
  have hescape : e.current.apply e.grammar e.settings.faults .escape =
      .ok (e.current.withCursor (e.grammar.collapse r)) :=
    Snapshot.escape_eq_ok_iff.2 ⟨r, h, rfl⟩
  rw [current_of_apply hescape]
  rfl

/-- **Ranges in focus.** In an editor opened on any document, every range that is in focus in a
snapshot, current, past or future, is admitted by the grammar, whatever was requested; and every
range that it admits can be brought into focus. -/
theorem selections_in_focus (g : Grammar A) (settings : Settings) (t : Tree A) :
    (∀ requests, ((start g settings t).run requests).Holds fun s =>
      ∀ r, s.mode = .select r → g.admitsSelection r = true) ∧
    ∀ r, g.admitsSelection r = true →
      ∃ requests, ((start g settings t).run requests).current.mode = .select r := by
  refine ⟨run_rangeAdmitted g settings t, fun r hadmits => ?_⟩
  exact ⟨[.command (.setSelection r)], mode_setSelection hadmits⟩

end Editor

/-! ## Positions -/

/-- Whether a command does no more to a selection that collapses to `c` than to collapse it. -/
def Command.stopsAt (g : Grammar A) (c : Cursor A) : Command A → Bool
  | .escape => true
  | .moveCursor d => (g.moveCursor? c d).isNone
  | _ => false

/-- A command that is no edit leaves the cursor where it was, brings it to an admitted position, or
leaves it where a selection collapses. -/
theorem Snapshot.cursor_of_apply {g : Grammar A} {policy : FaultPolicy} {s next : Snapshot A}
    {command : Command A} (hedits : command.edits = false)
    (h : s.apply g policy command = .ok next) {c : Cursor A} (hc : next.mode = .cursor c) :
    s.mode = .cursor c ∨ g.admitsCursor c = true ∨
      ∃ r, s.mode = .select r ∧ c = g.collapse r ∧ command.stopsAt g c = true := by
  cases command with
  | moveCursor d =>
    rcases moveCursor_eq_ok_iff.1 h with ⟨c₀, moved, -, hmove, rfl⟩ | ⟨r, hmode, rfl⟩
    · cases hc
      exact .inr (.inl (Grammar.admits_of_moveCursor? hmove))
    · cases hmove : g.moveCursor? (g.collapse r) d with
      | some moved =>
        rw [hmove] at hc
        cases hc
        exact .inr (.inl (Grammar.admits_of_moveCursor? hmove))
      | none =>
        rw [hmove] at hc
        obtain rfl : g.collapse r = c := Mode.cursor.inj hc
        exact .inr (.inr ⟨r, hmode, rfl, Option.isNone_iff_eq_none.2 hmove⟩)
  | moveSelection d =>
    rcases moveSelection_eq_ok_iff.1 h with ⟨moved, -, rfl⟩ | ⟨hmeet, rfl⟩
    · cases hc
    · cases hc
      exact .inr (.inl (Grammar.admits_fixedCursor_of_moveSelection? hmeet))
  | setCursor c₀ =>
    obtain ⟨hadmits, rfl⟩ := setCursor_eq_ok_iff.1 h
    cases hc
    exact .inr (.inl hadmits)
  | setSelection r =>
    obtain ⟨-, rfl⟩ := setSelection_eq_ok_iff.1 h
    cases hc
  | copy =>
    cases h
    exact .inl hc
  | escape =>
    obtain ⟨r, hmode, rfl⟩ := escape_eq_ok_iff.1 h
    cases hc
    exact .inr (.inr ⟨r, hmode, rfl, rfl⟩)
  | undo => cases h
  | redo => cases h
  | replace t => cases hedits
  | insert frames => cases hedits
  | cut => cases hedits
  | paste => cases hedits
  | delete => cases hedits

namespace Editor

/-- One of the commands found a selection that collapses to `c`, and left the cursor there. -/
def CollapsedTo (e : Editor A) (commands : List (Command A)) (c : Cursor A) : Prop :=
  ∃ (k : Nat) (command : Command A) (r : Selection A), commands[k]? = some command ∧
    (e.snapshotAt (commands.map .command) k).mode = .select r ∧ c = e.grammar.collapse r ∧
    command.stopsAt e.grammar c = true

theorem CollapsedTo.cons {e : Editor A} {command : Command A} {commands : List (Command A)}
    {c : Cursor A} (h : (e.perform (.command command)).2.CollapsedTo commands c) :
    e.CollapsedTo (command :: commands) c := by
  obtain ⟨k, command', r, hk, hmode, hc, hstops⟩ := h
  rw [(e.perform_frame (.command command)).1] at hc hstops
  exact ⟨k + 1, command', r, hk, hmode, hc, hstops⟩

/-- Where the cursors of a run without edits are, if those at its start satisfy `Q`. -/
theorem run_cursors {e : Editor A} {Q : Cursor A → Prop} {commands : List (Command A)}
    (hedits : ∀ command ∈ commands, command.edits = false)
    (h : e.Holds fun s => ∀ c, s.mode = .cursor c → Q c) :
    (e.run (commands.map .command)).Holds fun s => ∀ c, s.mode = .cursor c →
      Q c ∨ e.grammar.admitsCursor c = true ∨ e.CollapsedTo commands c := by
  induction commands generalizing e Q with
  | nil => exact h.mono fun s hs c hc => .inl (hs c hc)
  | cons command commands ih =>
    rw [List.forall_mem_cons] at hedits
    have hfirst : (e.perform (.command command)).2.Holds fun s => ∀ c, s.mode = .cursor c →
        Q c ∨ e.grammar.admitsCursor c = true ∨ e.CollapsedTo (command :: commands) c := by
      refine (h.mono fun s hs c hc => .inl (hs c hc)).perform fun command' hissues next happly => ?_
      obtain rfl : command = command' := hissues
      intro c hc
      rcases Snapshot.cursor_of_apply hedits.1 happly hc with hsame | hadmits |
        ⟨r, hmode, hcollapse⟩
      · exact .inl (h.current c hsame)
      · exact .inr (.inl hadmits)
      · exact .inr (.inr ⟨0, command, r, rfl, hmode, hcollapse⟩)
    refine (ih hedits.2 hfirst).mono fun s hs c hc => ?_
    rw [(e.perform_frame (.command command)).1] at hs
    rcases hs c hc with hQ | hadmits | hcollapsed
    · exact hQ
    · exact .inr (.inl hadmits)
    · exact .inr (.inr hcollapsed.cons)

/-- **Hidden positions in focus.** Open an editor at an admitted root, and carry out commands that
are no edits. A cursor is then at an admitted position, or it was left where a selection collapsed.
So no run leads to a hidden position iff every range that the grammar admits collapses to an
admitted position. -/
theorem hidden_focus_by_collapse (g : Grammar A) (settings : Settings) (t : Tree A)
    (hroot : g.admitsCursor (.root t) = true) :
    (∀ commands : List (Command A), (∀ command ∈ commands, command.edits = false) →
      ∀ c, ((start g settings t).run (commands.map .command)).current.mode = .cursor c →
        g.admitsCursor c = true ∨ (start g settings t).CollapsedTo commands c) ∧
    ((∀ commands : List (Command A), (∀ command ∈ commands, command.edits = false) →
      ∀ c, ((start g settings t).run (commands.map .command)).current.mode = .cursor c →
        g.admitsCursor c = true) ↔
      ∀ r, g.admitsSelection r = true → g.admitsCursor (g.collapse r) = true) := by
  have hcursors : ∀ commands : List (Command A), (∀ command ∈ commands, command.edits = false) →
      ∀ c, ((start g settings t).run (commands.map .command)).current.mode = .cursor c →
        g.admitsCursor c = true ∨ (start g settings t).CollapsedTo commands c := by
    intro commands hedits c hc
    have hstart : (start g settings t).Holds fun s =>
        ∀ c, s.mode = .cursor c → g.admitsCursor c = true := by
      refine .start fun c hc => ?_
      cases hc
      exact hroot
    rcases (run_cursors hedits hstart).current c hc with hadmits | hrest
    · exact .inl hadmits
    · exact hrest
  refine ⟨hcursors, fun hvisible r hadmits => ?_, fun hcollapse commands hedits c hc => ?_⟩
  · -- A caller may set any range that is admitted, and collapse it.
    refine hvisible [.setSelection r, .escape] (by simp [Command.edits]) _ ?_
    rw [List.map_cons, List.map_cons, List.map_nil, run_cons, run_cons, run_nil,
      mode_escape (mode_setSelection hadmits)]
    rw [(perform_frame _ _).1]
    rfl
  · rcases hcursors commands hedits c hc with hadmits | ⟨k, command, r, -, hmode, rfl, -⟩
    · exact hadmits
    · exact hcollapse r ((run_rangeAdmitted g settings t _).current r hmode)

/-- With binders hidden and all ranges admitted, the end of a range moves on a binder and collapses
there. -/
theorem hidden_binder_in_focus :
    let g := Lambda.grammar true
    let t := Lambda.lam "x" (Lambda.var "x")
    let e := (start g {} t).run [.command (.moveSelection .down), .command .escape]
    g.admitsCursor (.root t) = true ∧
      ∃ c, e.current.mode = .cursor c ∧ g.admitsCursor c = false :=
  ⟨rfl, _, rfl, rfl⟩

/-- If only the ranges are admitted that end outside binders, no run comes to a binder. -/
theorem hidden_focus_by_collapse_guarded :
    let g : Grammar Lambda.alphabet := { Lambda.grammar true with
      admitsSelection := fun r => (Lambda.grammar true).admitsCursor r.movableCursor }
    let t := Lambda.lam "x" (Lambda.var "x")
    g.admitsCursor (.root t) = true ∧
      ∀ commands : List (Command Lambda.alphabet), (∀ command ∈ commands, command.edits = false) →
        ∀ c, ((start g {} t).run (commands.map .command)).current.mode = .cursor c →
          g.admitsCursor c = true := by
  intro g t
  have hroot : g.admitsCursor (.root t) = true := rfl
  exact ⟨hroot, (hidden_focus_by_collapse g {} t hroot).2.2 fun r hadmits => hadmits⟩

end Editor

end TreeEditor
