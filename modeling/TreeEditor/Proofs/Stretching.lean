import TreeEditor.Grammar.Lambda
import TreeEditor.Grammar.Numeric
import TreeEditor.Proofs.Integrity

/-!
# Stretching a selection along the linear order

In the linear directions the movable end of a selection goes to the next or the previous stop like
any cursor, and the range is then whatever lies between there and the fixed end. So there is an
answer exactly if the two positions are nested, each frame above both is the same as itself, and the
grammar admits the range. Going back, the search leaves the way from the root to where it starts and
never returns to it. So from an outer end, or from an end that is alone, no previous stop is nested
with the fixed end, and a selection cannot be opened backwards at all.
-/

namespace TreeEditor

variable {A : Alphabet}

/-- The fixed end is below the movable one, or at it. -/
theorem Selection.path_fixedCursor {s : Selection A} (h : s.movable = .outer ∨ s.isEmpty = true) :
    ∃ x, s.fixedCursor.path = s.movableCursor.path ++ x := by
  by_cases hempty : s.isEmpty = true
  · rw [fixedCursor_eq_movableCursor_iff.2 hempty]
    exact ⟨[], (List.append_nil _).symm⟩
  · have houter := h.resolve_right hempty
    unfold fixedCursor movableCursor
    rw [houter]
    exact ⟨s.range.path, s.path_cursorAt_inner⟩

namespace Grammar

variable {g : Grammar A} {s : Selection A} {moved : Cursor A}

section Stretch

variable (hdocument : s.fixedCursor.document = moved.document)
include hdocument

theorem stretch?_eq_empty_iff :
    g.stretch? s moved = some .empty ↔
      s.fixedCursor = moved ∧ s.fixedCursor.context.selfSame g.known = true := by
  rw [stretch?_eq_some_iff, Cursor.between?_eq_empty_iff hdocument]
  simp

theorem stretch?_eq_range_iff {t : Selection A} :
    g.stretch? s moved = some (.range t) ↔
      ((t.fixedCursor = s.fixedCursor ∧ t.movableCursor = moved ∧ t.isEmpty = false) ∧
        t.above.selfSame g.known = true) ∧ g.admitsSelection t = true := by
  rw [stretch?_eq_some_iff, Cursor.between?_eq_range_iff hdocument]
  simp

theorem stretch?_eq_none_iff :
    g.stretch? s moved = none ↔
      (¬s.fixedCursor.path <+: moved.path ∧ ¬moved.path <+: s.fixedCursor.path) ∨
        (∃ f ∈ s.fixedCursor.context.frames, f ∈ moved.context.frames ∧
          f.same g.known f = false) ∨
        ∃ t, (t.fixedCursor = s.fixedCursor ∧ t.movableCursor = moved ∧ t.isEmpty = false) ∧
          g.admitsSelection t = false := by
  rw [← or_assoc, ← Cursor.between?_eq_none_iff hdocument]
  unfold stretch?
  cases hbetween : s.fixedCursor.between? g.known moved with
  | none => simp
  | some span =>
    cases span with
    | empty =>
      have hmeet := ((Cursor.between?_eq_empty_iff hdocument).1 hbetween).1
      refine iff_of_false nofun ?_
      rintro (hnone | ⟨t, ⟨hfixed, hmovable, hempty⟩, -⟩)
      · cases hnone
      · rw [← hmeet, ← hfixed, eq_comm, Selection.fixedCursor_eq_movableCursor_iff] at hmovable
        simp [hmovable] at hempty
    | range r =>
      -- The only range with these ends is the one that was found.
      have hunique : ∀ t, t.fixedCursor = s.fixedCursor ∧ t.movableCursor = moved ∧
          t.isEmpty = false ↔ r = t := by
        intro t
        constructor
        · rintro ⟨hfixed, hmovable, hempty⟩
          have hspan := Cursor.between?_ends g.known t
          rw [hfixed, hmovable, hbetween, hempty] at hspan
          obtain ⟨-, hrange⟩ := Option.ite_none_right_eq_some.1 hspan.symm
          exact (Span.range.inj (Option.some.inj hrange)).symm
        · rintro rfl
          exact ((Cursor.between?_eq_range_iff hdocument).1 hbetween).1
      by_cases hadmits : g.admitsSelection r = true <;> simp [hunique, hadmits]

end Stretch

/-- The previous stop has left the way from the root to the movable end. -/
theorem moveSelection?_prev_eq_none (g : Grammar A)
    (h : s.movable = .outer ∨ s.isEmpty = true) : g.moveSelection? s .prev = none := by
  obtain ⟨x, hpath⟩ := s.path_fixedCursor h
  show (s.movableCursor.prev? g.admitsCursor).bind (g.stretch? s) = none
  cases hprev : s.movableCursor.prev? g.admitsCursor with
  | none => rfl
  | some moved =>
    have hmove : g.moveCursor? s.movableCursor .prev = some moved := hprev
    have hbeyond : Side.left.Beyond s.movableCursor.path moved.path :=
      (Cursor.advance?_spec hprev).2
    rw [Option.bind_some, stretch?_eq_none_iff (document_fixedCursor_of_moveCursor? hmove), hpath]
    exact .inl (hbeyond.apart x)

end Grammar

theorem Snapshot.moveSelection_eq_error_iff {g : Grammar A} {s : Snapshot A} {d : Direction}
    {stop : Stop A} :
    s.moveSelection g d = .error stop ↔
      g.moveSelection? (s.mode.opened d) d = none ∧ .refused .boundary = stop := by
  unfold moveSelection Mode.opened
  cases s.mode with
  | cursor c =>
    dsimp only
    split <;> simp_all
  | select r =>
    dsimp only
    split <;> simp_all

/-- **Linear moves of a selection.** Let `m` be where the movable end comes to as a cursor, by the
next or the previous stop. The selection has no such move exactly if `m` does not exist, is not
nested with the fixed end, has a frame above both that is not the same as itself, or makes a range
that the grammar does not admit. The move closes the selection exactly if `m` is the fixed end and
each frame above is the same as itself, and otherwise it leads to the range from the fixed end to
`m`. If all values are the same as themselves, then so are all frames. If the outer end is movable
or the range is empty, there is never a previous range, so at a cursor no selection can be opened
backwards. -/
theorem Grammar.linear_moves_stretch_selection (g : Grammar A) (s : Selection A) :
    (A.Reflexive → ∀ f : Frame A, f.same g.known f = true) ∧
    (∀ d m, d = .next ∧ m = s.movableCursor.next? g.admitsCursor ∨
        d = .prev ∧ m = s.movableCursor.prev? g.admitsCursor →
      (g.moveSelection? s d = none ↔ m = none ∨ ∃ moved, m = some moved ∧
        ((¬s.fixedCursor.path <+: moved.path ∧ ¬moved.path <+: s.fixedCursor.path) ∨
          (∃ f ∈ s.fixedCursor.context.frames, f ∈ moved.context.frames ∧
            f.same g.known f = false) ∨
          ∃ t, (t.fixedCursor = s.fixedCursor ∧ t.movableCursor = moved ∧ t.isEmpty = false) ∧
            g.admitsSelection t = false)) ∧
      (g.moveSelection? s d = some .empty ↔
        m = some s.fixedCursor ∧ s.fixedCursor.context.selfSame g.known = true) ∧
      ∀ t, g.moveSelection? s d = some (.range t) ↔
        ((t.fixedCursor = s.fixedCursor ∧ m = some t.movableCursor ∧ t.isEmpty = false) ∧
          t.above.selfSame g.known = true) ∧ g.admitsSelection t = true) ∧
    (s.movable = .outer ∨ s.isEmpty = true → g.moveSelection? s .prev = none) ∧
    ∀ (policy : FaultPolicy) (state : Snapshot A) (c : Cursor A), state.mode = .cursor c →
      state.apply g policy (.moveSelection .prev) = .error (.refused .boundary) := by
  refine ⟨fun hvalues f => f.same_self hvalues, ?_, g.moveSelection?_prev_eq_none, ?_⟩
  · intro d m hlinear
    have hmove : g.moveCursor? s.movableCursor d = m ∧
        g.moveSelection? s d = m.bind (g.stretch? s) := by
      rcases hlinear with ⟨rfl, rfl⟩ | ⟨rfl, rfl⟩
      · exact ⟨rfl, rfl⟩
      · exact ⟨rfl, rfl⟩
    obtain ⟨hcursor, hselection⟩ := hmove
    rw [hselection]
    cases m with
    | none => simp
    | some moved =>
      have hdocument := document_fixedCursor_of_moveCursor? hcursor
      refine ⟨?_, ?_, ?_⟩
      · simp [stretch?_eq_none_iff hdocument]
      · rw [Option.bind_some, stretch?_eq_empty_iff hdocument, Option.some.injEq, eq_comm]
      · intro t
        rw [Option.bind_some, stretch?_eq_range_iff hdocument, Option.some.injEq,
          eq_comm (a := moved)]
  · intro policy state c hmode
    have hopened : state.mode.opened .prev = .ofCursor c .outer := by
      rw [hmode]
      rfl
    refine Snapshot.moveSelection_eq_error_iff.2 ⟨?_, rfl⟩
    rw [hopened]
    exact g.moveSelection?_prev_eq_none (.inl rfl)

/-- In `((a b) c) d`, the range from the function `(a b) c` down to `a` is stretched to `b`. With its
outer end movable it has no previous range, and at `b` no selection can be opened backwards. -/
theorem Grammar.linear_moves_stretch_selection_spine :
    let g := Lambda.grammar true
    let function := Lambda.functionFrame (Lambda.var "b")
    let argument := Lambda.argumentFrame (Lambda.var "a")
    let above : Context Lambda.alphabet := .ofFrames [Lambda.functionFrame (Lambda.var "d")]
    let outer := Lambda.functionFrame (Lambda.var "c")
    let s : Selection Lambda.alphabet :=
      .ofRange above (.ofFrames [function, outer]) (Lambda.var "a") .inner
    let t : Selection Lambda.alphabet :=
      .ofRange above (.ofFrames [argument, outer]) (Lambda.var "b") .inner
    s.document = Lambda.spine ∧ s.movableCursor.next? g.admitsCursor = some t.movableCursor ∧
      g.moveSelection? s .next = some (.range t) ∧
      g.moveSelection? (t.withMovable .outer) .prev = none ∧
      (⟨.cursor t.movableCursor, none⟩ : Snapshot Lambda.alphabet).apply g .abort
        (.moveSelection .prev) = .error (.refused .boundary) := by
  intro g function argument above outer s t
  have hnext : s.movableCursor.next? g.admitsCursor = some t.movableCursor := by decide +kernel
  obtain ⟨hreflexive, hlinear, -⟩ := linear_moves_stretch_selection g s
  obtain ⟨-, -, hbackwards, hopen⟩ := linear_moves_stretch_selection g (t.withMovable .outer)
  refine ⟨rfl, hnext, ?_, hbackwards (.inl rfl), hopen _ _ _ rfl⟩
  have hself : t.above.selfSame g.known = true :=
    Context.selfSame_iff.2 fun f _ => hreflexive Lambda.lawful.reflexive f
  exact ((hlinear .next _ (.inl ⟨rfl, rfl⟩)).2.2 t).2 ⟨⟨⟨rfl, hnext, rfl⟩, hself⟩, rfl⟩

/-- At a sum scaled by what is not a number, the next stop is the first term of the sum. It is below
the sum and every range is admitted, and yet no selection can be opened towards it. -/
theorem Grammar.linear_moves_not_a_number :
    let first := Numeric.firstFrame (Numeric.number 2)
    let c : Cursor Numeric.alphabet :=
      ⟨.ofFrames [Numeric.nanFrame], first.plug (Numeric.number 1)⟩
    let moved : Cursor Numeric.alphabet :=
      ⟨.ofFrames [first, Numeric.nanFrame], Numeric.number 1⟩
    let s := Selection.ofCursor c .inner
    s.fixedCursor.path <+: moved.path ∧ ∀ known,
      let g := Numeric.grammar known
      s.movableCursor.next? g.admitsCursor = some moved ∧ (∀ t, g.admitsSelection t = true) ∧
        g.moveSelection? s .next = none := by
  intro first c moved s
  refine ⟨⟨[0], rfl⟩, ?_⟩
  intro known g
  have hnext : s.movableCursor.next? (fun _ => true) = some moved := by decide +kernel
  refine ⟨hnext, fun _ => rfl, ?_⟩
  show (s.movableCursor.next? fun _ => true).bind (g.stretch? s) = none
  have hdocument : s.fixedCursor.document = moved.document := rfl
  rw [hnext, Option.bind_some, stretch?_eq_none_iff hdocument]
  have hc : Numeric.nanFrame ∈ c.context.frames := List.mem_singleton_self _
  have hmoved : Numeric.nanFrame ∈ moved.context.frames := List.mem_cons_of_mem _ hc
  exact .inr (.inl ⟨_, hc, hmoved, Numeric.nanFrame_not_same known⟩)

end TreeEditor
