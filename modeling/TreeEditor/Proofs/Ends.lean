import TreeEditor.Grammar.Lambda
import TreeEditor.Grammar.Numeric
import TreeEditor.Proofs.Comparison
import TreeEditor.Proofs.Selections
import TreeEditor.Selection.Between
import TreeEditor.Selection.Boundary

/-!
# The ends of a selection

A selection is known by its two ends: the cursor that stays and the cursor that moves. They are
nested positions of one document, and any two nested positions are the ends of a range, which
`Cursor.between?` finds if each frame above both is the same as itself
(`Cursor.between_inverts_ends`). A structural move of a selection is the same move of its movable
cursor, with the other cursor kept as it is, also when the ends change roles
(`Selection.boundary_moves_as_cursor`). That neither leaves the document follows. A move up takes
back a move down (`Selection.moveBoundary?_up_of_down`). A move down takes back a move up, except
where an inner end shrank its range: that forgets from which child the end came
(`Selection.exists_up_down_of_inner`).
-/

namespace TreeEditor

variable {A : Alphabet}

/-- The direction of a move to a side. -/
def Side.direction : Side → Direction
  | left => .left
  | right => .right

namespace Selection

/-! ## Moving an end -/

/-- `t` is a range from `fixed` to `moved`, where its movable end `b` is. -/
structure Joins (fixed : Cursor A) (b : Boundary) (t : Selection A) (moved : Cursor A) : Prop where
  fixed : t.fixedCursor = fixed
  moved : t.movableCursor = moved
  movable : t.movable = b

section Rel

variable {fixed : Cursor A} {b : Boundary} {x : Option (Selection A)} {y : Option (Cursor A)}

theorem eq_none_iff_of_rel (h : Option.Rel (Joins fixed b) x y) : x = none ↔ y = none := by
  cases h with
  | none => exact iff_of_true rfl rfl
  | some hjoins => exact iff_of_false nofun nofun

theorem ends_of_rel {t : Selection A} (h : Option.Rel (Joins fixed b) x y) (hx : x = some t) :
    t.fixedCursor = fixed ∧ y = some t.movableCursor ∧ t.movable = b := by
  subst hx
  cases h with
  | some hjoins => exact ⟨hjoins.fixed, congrArg some hjoins.moved.symm, hjoins.movable⟩

end Rel

/-! ### The steps one by one

Beside each step of a selection stands the step that its movable cursor makes. -/

theorem lowerInner?_rel (above stored : Context A) (focus : Tree A) :
    Option.Rel (Joins ⟨above, stored.plug focus⟩ .inner)
      (lowerInner? ⟨above, stored, focus, .inner⟩)
      ((⟨stored ++ above, focus⟩ : Cursor A).down? 0) := by
  unfold lowerInner? Cursor.down?
  cases hsplit : focus.split? 0 with
  | none => exact .none
  | some taken =>
    obtain ⟨f, k⟩ := taken
    have hplug : f.plug k = focus := (Tree.split?_eq_some_iff.1 hsplit).1
    refine .some ⟨?_, rfl, rfl⟩
    show (⟨above, (stored.push f).plug k⟩ : Cursor A) = ⟨above, stored.plug focus⟩
    rw [Context.plug_push, hplug]

theorem raiseOuter?_rel (above stored : Context A) (focus : Tree A) :
    Option.Rel (Joins ⟨stored.reverse ++ above, focus⟩ .outer)
      (raiseOuter? ⟨above, stored, focus, .outer⟩)
      (⟨above, stored.reverse.plug focus⟩ : Cursor A).up? := by
  cases above with
  | empty => exact .none
  | push above f =>
    refine .some ⟨?_, ?_, rfl⟩
    · exact Cursor.ext (Context.reverse_push_append stored above f) rfl
    · exact Cursor.ext rfl (Context.plug_reverse_push stored f focus)

theorem slideInner?_rel (above stored : Context A) (f : Frame A) (focus : Tree A) (side : Side) :
    Option.Rel (Joins ⟨above, (stored.push f).plug focus⟩ .inner)
      (slideInner? ⟨above, stored.push f, focus, .inner⟩ side)
      ((⟨stored.push f ++ above, focus⟩ : Cursor A).slide? side) := by
  have hpop : (stored.push f ++ above).pop? = some (f, stored ++ above) := rfl
  unfold slideInner? Cursor.slide?
  rw [Context.pop?_push, hpop]
  simp only [Option.bind_eq_bind, Option.bind_some]
  cases hslide : f.slide? focus side with
  | none => exact .none
  | some slid =>
    obtain ⟨f', k⟩ := slid
    have hplug : f'.plug k = f.plug focus := (Frame.plug_of_slide? hslide).1
    refine .some ⟨?_, rfl, rfl⟩
    show (⟨above, (stored.push f').plug k⟩ : Cursor A) = ⟨above, (stored.push f).plug focus⟩
    rw [Context.plug_push, Context.plug_push, hplug]

/-- The child to which the movable end goes down: the one on the way to the inner end if that is
another, and else the first. -/
def downIndex (s : Selection A) : Nat :=
  match s.movable with
  | .inner => 0
  | .outer => (s.outermost?.map Frame.index).getD 0

/-- The structural step of a cursor that moving an end in a direction amounts to. -/
def endStep? (s : Selection A) : Direction → Option (Cursor A)
  | .up => s.movableCursor.up?
  | .down => s.movableCursor.down? s.downIndex
  | .left => s.movableCursor.slide? .left
  | .right => s.movableCursor.slide? .right
  | .next | .prev => none

theorem moveBoundary?_up_rel (s : Selection A) :
    Option.Rel (Joins s.fixedCursor (if s.isEmpty then .outer else s.movable))
      (s.moveBoundary? .up) s.movableCursor.up? := by
  obtain ⟨above, stored, focus, movable⟩ := s
  cases movable with
  | outer =>
    have hmovable : (if stored.isEmpty then Boundary.outer else .outer) = .outer := ite_self _
    rw [isEmpty, hmovable]
    exact raiseOuter?_rel above stored focus
  | inner =>
    -- With no frames between them the ends are in one place, and the outer one goes on.
    cases stored with
    | empty => exact raiseOuter?_rel above .empty focus
    | push stored f => exact .some ⟨rfl, rfl, rfl⟩

theorem moveBoundary?_down_rel (s : Selection A) :
    Option.Rel (Joins s.fixedCursor (if s.isEmpty then .inner else s.movable))
      (s.moveBoundary? .down) (s.movableCursor.down? s.downIndex) := by
  obtain ⟨above, stored, focus, movable⟩ := s
  cases movable with
  | inner =>
    have hmovable : (if stored.isEmpty then Boundary.inner else .inner) = .inner := ite_self _
    rw [isEmpty, hmovable]
    exact lowerInner?_rel above stored focus
  | outer =>
    -- Here it is the inner one that goes on.
    cases stored with
    | empty => exact lowerInner?_rel above .empty focus
    | push stored f =>
      have hdown : (⟨above, (stored.push f).reverse.plug focus⟩ : Cursor A).down? f.index =
          some ⟨above.push f, stored.reverse.plug focus⟩ :=
        Cursor.down?_eq_some_iff.2 ⟨f, rfl, (Context.plug_reverse_push stored f focus).symm, rfl⟩
      show Option.Rel _ _ ((⟨above, (stored.push f).reverse.plug focus⟩ : Cursor A).down? f.index)
      rw [hdown]
      refine .some ⟨?_, rfl, rfl⟩
      exact Cursor.ext (Context.reverse_push_append stored above f).symm rfl

theorem moveBoundary?_slide_eq_none {s : Selection A} (side : Side)
    (h : s.movable = .outer ∨ s.isEmpty = true) : s.moveBoundary? side.direction = none := by
  obtain ⟨above, stored, focus, movable⟩ := s
  cases movable with
  | outer => cases side <;> rfl
  | inner =>
    have hstored : stored = .empty := Context.isEmpty_iff.1 (h.resolve_left nofun)
    subst hstored
    cases side <;> rfl

theorem moveBoundary?_slide_rel {s : Selection A} (side : Side)
    (h : ¬(s.movable = .outer ∨ s.isEmpty = true)) :
    Option.Rel (Joins s.fixedCursor s.movable) (s.moveBoundary? side.direction)
      (s.movableCursor.slide? side) := by
  obtain ⟨above, stored, focus, movable⟩ := s
  cases movable with
  | outer => exact absurd (.inl rfl) h
  | inner =>
    cases stored with
    | empty => exact absurd (.inr rfl) h
    | push stored f =>
      cases side with
      | left => exact slideInner?_rel above stored f focus .left
      | right => exact slideInner?_rel above stored f focus .right

/-! ### Where no move is possible -/

theorem moveBoundary?_up_eq_none_iff {s : Selection A} :
    s.moveBoundary? .up = none ↔ s.movableCursor.isRoot = true := by
  rw [eq_none_iff_of_rel s.moveBoundary?_up_rel, Cursor.up?_eq_none_iff]

theorem downIndex_lt_or (s : Selection A) :
    s.downIndex < s.movableCursor.focus.arity ∨ s.downIndex = 0 := by
  obtain ⟨above, stored, focus, movable⟩ := s
  cases movable with
  | inner => exact .inr rfl
  | outer =>
    cases stored with
    | empty => exact .inr rfl
    | push stored f =>
      left
      show f.index < ((stored.push f).reverse.plug focus).arity
      rw [Context.plug_reverse_push, Frame.arity_plug]
      unfold Frame.index Frame.arity
      omega

theorem moveBoundary?_down_eq_none_iff {s : Selection A} :
    s.moveBoundary? .down = none ↔ s.movableCursor.focus.kids = [] := by
  rw [eq_none_iff_of_rel s.moveBoundary?_down_rel, Cursor.down?_eq_none_iff,
    ← List.length_eq_zero_iff]
  have hindex := s.downIndex_lt_or
  unfold Tree.arity at hindex ⊢
  omega

theorem moveBoundary?_slide_eq_none_iff {s : Selection A} {side : Side} :
    s.moveBoundary? side.direction = none ↔
      s.movable = .outer ∨ s.isEmpty = true ∨ s.movableCursor.siblings side = [] := by
  rw [← Cursor.slide?_eq_none_iff, ← or_assoc]
  by_cases h : s.movable = .outer ∨ s.isEmpty = true
  · simp only [h, true_or, iff_true]
    exact moveBoundary?_slide_eq_none side h
  · simp only [h, false_or]
    exact eq_none_iff_of_rel (moveBoundary?_slide_rel side h)

/-! ### Where a move leads -/

theorem ends_of_slide {s t : Selection A} (side : Side)
    (h : s.moveBoundary? side.direction = some t) :
    t.fixedCursor = s.fixedCursor ∧ s.movableCursor.slide? side = some t.movableCursor ∧
      t.movable = s.movable := by
  by_cases hstuck : s.movable = .outer ∨ s.isEmpty = true
  · rw [moveBoundary?_slide_eq_none side hstuck] at h
    cases h
  · exact ends_of_rel (moveBoundary?_slide_rel side hstuck) h

theorem of_moveBoundary? {s t : Selection A} {d : Direction} (h : s.moveBoundary? d = some t) :
    t.fixedCursor = s.fixedCursor ∧ s.endStep? d = some t.movableCursor ∧
      (t.movable ≠ s.movable ↔ s.isEmpty = true ∧
        (d = .up ∧ s.movable = .inner ∨ d = .down ∧ s.movable = .outer)) := by
  cases d with
  | up =>
    obtain ⟨hfixed, hstep, hmovable⟩ := ends_of_rel s.moveBoundary?_up_rel h
    refine ⟨hfixed, hstep, ?_⟩
    rw [hmovable]
    cases s.isEmpty <;> cases s.movable <;> simp
  | down =>
    obtain ⟨hfixed, hstep, hmovable⟩ := ends_of_rel s.moveBoundary?_down_rel h
    refine ⟨hfixed, hstep, ?_⟩
    rw [hmovable]
    cases s.isEmpty <;> cases s.movable <;> simp
  | left =>
    obtain ⟨hfixed, hstep, hmovable⟩ := ends_of_slide .left h
    exact ⟨hfixed, hstep, by simp [hmovable]⟩
  | right =>
    obtain ⟨hfixed, hstep, hmovable⟩ := ends_of_slide .right h
    exact ⟨hfixed, hstep, by simp [hmovable]⟩
  | next =>
    unfold moveBoundary? at h
    cases hmovable : s.movable <;> simp [hmovable] at h
  | prev =>
    unfold moveBoundary? at h
    cases hmovable : s.movable <;> simp [hmovable] at h

/-- **An end moves as a cursor.** If a selection can be moved one structural step, its fixed end
stays, its movable end makes that step as a cursor, and the ends change roles exactly where they
meet and the outer one would go down or the inner one up. It cannot be moved
- up exactly if the movable end is the root,
- down exactly if the movable end has no children,
- to a side exactly if the outer end is movable, the range is empty, or there is no sibling. -/
theorem boundary_moves_as_cursor (s : Selection A) :
    (∀ d t, s.moveBoundary? d = some t →
      t.fixedCursor = s.fixedCursor ∧ s.endStep? d = some t.movableCursor ∧
        (t.movable ≠ s.movable ↔ s.isEmpty = true ∧
          (d = .up ∧ s.movable = .inner ∨ d = .down ∧ s.movable = .outer))) ∧
    (s.moveBoundary? .up = none ↔ s.movableCursor.isRoot = true) ∧
    (s.moveBoundary? .down = none ↔ s.movableCursor.focus.kids = []) ∧
    ∀ side : Side, s.moveBoundary? side.direction = none ↔
      s.movable = .outer ∨ s.isEmpty = true ∨ s.movableCursor.siblings side = [] := by
  refine ⟨?_, moveBoundary?_up_eq_none_iff, moveBoundary?_down_eq_none_iff, ?_⟩
  · intro d t h
    exact of_moveBoundary? h
  · intro side
    exact moveBoundary?_slide_eq_none_iff

/-- Moving the inner end of an empty range up, from the variable `b` of `((a b) c) d`. -/
theorem boundary_moves_as_cursor_flip :
    let above : Context Lambda.alphabet := .ofFrames [Lambda.argumentFrame (Lambda.var "a"),
      Lambda.functionFrame (Lambda.var "c"), Lambda.functionFrame (Lambda.var "d")]
    let s : Selection Lambda.alphabet := .ofCursor ⟨above, Lambda.var "b"⟩ .inner
    ∃ t, s.moveBoundary? .up = some t ∧ t.fixedCursor = s.fixedCursor ∧
      s.movableCursor.up? = some t.movableCursor ∧ t.movable ≠ s.movable := by
  intro above s
  obtain ⟨t, hmove⟩ : ∃ t, s.moveBoundary? .up = some t := ⟨_, rfl⟩
  obtain ⟨hfixed, hstep, hflip⟩ := (boundary_moves_as_cursor s).1 .up t hmove
  exact ⟨t, hmove, hfixed, hstep, hflip.2 ⟨rfl, .inl ⟨rfl, rfl⟩⟩⟩

/-! ### Moves that take each other back -/

theorem moveBoundary?_up_of_lowerInner? {s t : Selection A} (h : s.lowerInner? = some t) :
    t.moveBoundary? .up = some ⟨s.above, s.stored, s.focus, .inner⟩ := by
  obtain ⟨⟨f, k⟩, hsplit, rfl⟩ := Option.map_eq_some_iff.1 h
  have hplug : f.plug k = s.focus := (Tree.split?_eq_some_iff.1 hsplit).1
  rw [← hplug]
  rfl

theorem moveBoundary?_down_of_raiseOuter? {s t : Selection A} (h : s.raiseOuter? = some t) :
    t.moveBoundary? .down = some ⟨s.above, s.stored, s.focus, .outer⟩ := by
  obtain ⟨⟨f, above⟩, hpop, rfl⟩ := Option.map_eq_some_iff.1 h
  rw [Context.pop?_eq_some_iff.1 hpop]
  rfl

/-- A move down is taken back by a move up. If the range was empty, the inner end is the movable one
after that. -/
theorem moveBoundary?_up_of_down {s t : Selection A} (h : s.moveBoundary? .down = some t) :
    t.moveBoundary? .up = some (s.withMovable (if s.isEmpty then .inner else s.movable)) := by
  obtain ⟨above, stored, focus, movable⟩ := s
  cases movable with
  | inner =>
    have hmovable : (if stored.isEmpty then Boundary.inner else .inner) = .inner := ite_self _
    rw [isEmpty, hmovable, withMovable_self ⟨above, stored, focus, .inner⟩]
    exact moveBoundary?_up_of_lowerInner? h
  | outer =>
    cases stored with
    | empty => exact moveBoundary?_up_of_lowerInner? h
    | push stored f =>
      cases h
      rfl

/-- A move of the outer end up is taken back by a move down. -/
theorem moveBoundary?_down_of_up {s t : Selection A}
    (houter : s.movable = .outer ∨ s.isEmpty = true) (h : s.moveBoundary? .up = some t) :
    t.moveBoundary? .down = some (s.withMovable .outer) := by
  obtain ⟨above, stored, focus, movable⟩ := s
  cases movable with
  | outer => exact moveBoundary?_down_of_raiseOuter? h
  | inner =>
    obtain rfl : stored = .empty := Context.isEmpty_iff.1 (houter.resolve_left nofun)
    exact moveBoundary?_down_of_raiseOuter? h

/-- A move of the inner end up and down again leads to the first child of the same parent, which is
where it started iff the innermost frame has its gap first. -/
theorem exists_up_down_of_inner {s : Selection A} (hinner : s.movable = .inner)
    (hrange : s.isEmpty = false) :
    ∃ f t u, s.range.innermost? = some f ∧ s.moveBoundary? .up = some t ∧
      t.moveBoundary? .down = some u ∧ (t.movable = .inner ∧ u.movable = .inner) ∧
      (u = s ↔ f.index = 0) := by
  obtain ⟨above, stored, focus, movable⟩ := s
  obtain rfl : movable = .inner := hinner
  cases stored with
  | empty => cases hrange
  | push stored f =>
    obtain ⟨⟨f', k⟩, hsplit, hfirst⟩ := f.split?_plug_zero focus
    have hlower : lowerInner? ⟨above, stored, f.plug focus, .inner⟩ =
        some ⟨above, stored.push f', k, .inner⟩ := by
      unfold lowerInner?
      rw [hsplit]
      rfl
    refine ⟨f, _, _, rfl, rfl, hlower, ⟨rfl, rfl⟩, ?_⟩
    rw [← hfirst]
    constructor
    · intro heq
      injection heq with _ hstored hfocus
      have hframe : f' = f := (List.cons.inj (congrArg Context.frames hstored)).1
      rw [hframe, hfocus]
    · rintro ⟨⟩
      rfl

/-- **Moves that take each other back.** After a move down, a move up leads back to the same range,
with the same end movable unless the range was empty and its outer end was. After a move of the
outer end up, which the end of an empty range counts as, a move down leads back to the same range,
with the outer end movable. A move of the inner end of a range up and down again leads to the first
child of the same parent, and hence back exactly if the innermost frame has its gap first. -/
theorem boundary_moves_taken_back (s : Selection A) :
    (∀ t, s.moveBoundary? .down = some t →
      ∃ u, t.moveBoundary? .up = some u ∧ u.SameRange s ∧
        (u.movable = s.movable ↔ ¬(s.isEmpty = true ∧ s.movable = .outer))) ∧
    (s.movable = .outer ∨ s.isEmpty = true → ∀ t, s.moveBoundary? .up = some t →
      ∃ u, t.moveBoundary? .down = some u ∧ u.SameRange s ∧
        (u.movable = s.movable ↔ s.movable = .outer)) ∧
    (s.movable = .inner → s.isEmpty = false →
      ∃ f t u, s.range.innermost? = some f ∧ s.moveBoundary? .up = some t ∧
        t.moveBoundary? .down = some u ∧ (u = s ↔ f.index = 0) ∧
        u.movable = .inner ∧ u.fixedCursor = s.fixedCursor ∧
        s.movableCursor.up? = some t.movableCursor ∧
        t.movableCursor.down? 0 = some u.movableCursor) := by
  refine ⟨?_, ?_, ?_⟩
  · intro t hdown
    refine ⟨_, moveBoundary?_up_of_down hdown, s.sameRange_withMovable _, ?_⟩
    rw [movable_withMovable]
    cases s.isEmpty <;> cases s.movable <;> simp
  · intro houter t hup
    refine ⟨_, moveBoundary?_down_of_up houter hup, s.sameRange_withMovable _, ?_⟩
    rw [movable_withMovable]
    exact eq_comm
  · intro hinner hrange
    obtain ⟨f, t, u, hf, hup, hdown, ⟨ht, hu⟩, hback⟩ := exists_up_down_of_inner hinner hrange
    obtain ⟨hfixed, hstep, -⟩ := of_moveBoundary? hup
    obtain ⟨hfixed', hstep', -⟩ := of_moveBoundary? hdown
    have hindex : t.downIndex = 0 := by
      unfold downIndex
      rw [ht]
    refine ⟨f, t, u, hf, hup, hdown, hback, hu, hfixed'.trans hfixed, hstep, ?_⟩
    rw [← hindex]
    exact hstep'

/-- In `c (a b)`, with the range from the root to `a b`: its inner end goes down to `a` and back,
but up and down it ends on `c`. At `a b` alone, the end goes up to the root and back. -/
theorem boundary_moves_taken_back_argument :
    let ab := Lambda.app (Lambda.var "a") (Lambda.var "b")
    let frames : Context Lambda.alphabet := .ofFrames [Lambda.argumentFrame (Lambda.var "c")]
    let s : Selection Lambda.alphabet := .ofRange .empty frames ab .inner
    let e : Selection Lambda.alphabet := .ofCursor ⟨frames, ab⟩ .inner
    (∃ t u, s.moveBoundary? .down = some t ∧ t.moveBoundary? .up = some u ∧ u.SameRange s ∧
      u.movable = .inner) ∧
    (∃ t u, s.moveBoundary? .up = some t ∧ t.moveBoundary? .down = some u ∧ u ≠ s) ∧
    ∃ t u, e.moveBoundary? .up = some t ∧ t.moveBoundary? .down = some u ∧ u.SameRange e ∧
      u.movable ≠ .inner := by
  intro ab frames s e
  obtain ⟨hdown, -, hinner⟩ := boundary_moves_taken_back s
  obtain ⟨-, hup, -⟩ := boundary_moves_taken_back e
  refine ⟨?_, ?_, ?_⟩
  · obtain ⟨t, ht⟩ : ∃ t, s.moveBoundary? .down = some t := ⟨_, rfl⟩
    obtain ⟨u, hu, hsame, hmovable⟩ := hdown t ht
    exact ⟨t, u, ht, hu, hsame, hmovable.2 (by decide)⟩
  · obtain ⟨f, t, u, hf, ht, hu, hback, -⟩ := hinner rfl rfl
    cases hf
    exact ⟨t, u, ht, hu, fun heq => absurd (hback.1 heq) (by decide)⟩
  · obtain ⟨t, ht⟩ : ∃ t, e.moveBoundary? .up = some t := ⟨_, rfl⟩
    obtain ⟨u, hu, hsame, hmovable⟩ := hup (.inr rfl) t ht
    exact ⟨t, u, ht, hu, hsame, fun heq => absurd (hmovable.1 heq) (by decide)⟩

end Selection

/-! ## The range between two positions -/

namespace Selection

theorem exists_context_cursorAt (r : Selection A) (b : Boundary) :
    ∃ inner : Context A, (r.cursorAt b).context = inner ++ r.above := by
  cases b with
  | outer => exact ⟨.empty, rfl⟩
  | inner => exact ⟨r.range, rfl⟩

/-- The frames above both ends are those above the range. -/
theorem mem_frames_ends_iff (r : Selection A) {f : Frame A} :
    f ∈ r.fixedCursor.context.frames ∧ f ∈ r.movableCursor.context.frames ↔ f ∈ r.above.frames := by
  unfold fixedCursor movableCursor
  cases r.movable with
  | inner => simp +contextual [cursorAt, Boundary.flip]
  | outer => simp +contextual [cursorAt, Boundary.flip]

end Selection

namespace Fork

variable {known : Sharing A} {fs gs : List (Frame A)}

theorem of_append_right (gs : List (Frame A)) (hself : ∀ f ∈ fs, f.same known f = true) :
    of known fs (fs ++ gs) = ⟨fs, [], gs⟩ := by
  induction fs with
  | nil => cases gs <;> rfl
  | cons f fs ih =>
    obtain ⟨hf, hfs⟩ := List.forall_mem_cons.1 hself
    simp [of, hf, ih hfs]

theorem of_append_left (gs : List (Frame A)) (hself : ∀ f ∈ fs, f.same known f = true) :
    of known (fs ++ gs) fs = ⟨fs, gs, []⟩ := by
  induction fs with
  | nil => cases gs <;> rfl
  | cons f fs ih =>
    obtain ⟨hf, hfs⟩ := List.forall_mem_cons.1 hself
    simp [of, hf, ih hfs]

/-- A common frame that is not the same as itself is in neither chain passed. -/
theorem ne_nil_of_not_same (fs gs : List (Frame A)) {f : Frame A} {outer : List (Frame A)}
    (hmem : f ∈ outer) (hf : f.same known f = false) :
    (of known (outer ++ fs) (outer ++ gs)).left ≠ [] ∧
      (of known (outer ++ fs) (outer ++ gs)).right ≠ [] := by
  induction outer with
  | nil => cases hmem
  | cons h outer ih =>
    simp only [List.cons_append, of]
    split
    · next hsame =>
      refine ih ((List.mem_cons.1 hmem).resolve_left ?_)
      rintro rfl
      simp [hf] at hsame
    · exact ⟨nofun, nofun⟩

/-- A chain that is used up has its gaps where the other one begins. -/
theorem map_index_of_nil :
    ((of known fs gs).left = [] → fs.map Frame.index <+: gs.map Frame.index) ∧
      ((of known fs gs).right = [] → gs.map Frame.index <+: fs.map Frame.index) := by
  fun_induction of known fs gs with
  | case1 f fs g gs hsame fork ih =>
    simp only [List.map_cons, Frame.index_eq_of_same hsame, List.cons_prefix_cons, true_and]
    exact ih
  | case2 f fs g gs hdiffer => exact ⟨nofun, nofun⟩
  | case3 fs gs hcons =>
    refine ⟨?_, ?_⟩
    · rintro rfl
      exact List.nil_prefix
    · rintro rfl
      exact List.nil_prefix

end Fork

theorem Context.ofRootFirst_reverse (c : Context A) : ofRootFirst c.frames.reverse = c :=
  Context.ext (by simp)

namespace Cursor

variable {known : Sharing A}

/-- A frame above both that is not the same as itself hides what lies between. -/
theorem between?_eq_none_of_not_same {start stop : Cursor A} {inner inner' outer : Context A}
    {f : Frame A} (hstart : start.context = inner ++ outer) (hstop : stop.context = inner' ++ outer)
    (hmem : f ∈ outer.frames) (hf : f.same known f = false) :
    start.between? known stop = none := by
  obtain ⟨hleft, hright⟩ := Fork.ne_nil_of_not_same inner.frames.reverse inner'.frames.reverse
    (List.mem_reverse.2 hmem) hf
  unfold between?
  simp only [hstart, hstop, Context.frames_append, List.reverse_append]
  split
  · next hnil _ => exact absurd hnil hleft
  · next hnil _ => exact absurd hnil hleft
  · next _ hnil => exact absurd hnil hright
  · rfl

section SelfSame

variable {above : Context A} (hself : above.selfSame known = true)
include hself

theorem between?_below (range : Context A) (focus : Tree A) :
    (⟨above, range.plug focus⟩ : Cursor A).between? known ⟨range ++ above, focus⟩ =
      some (if range.isEmpty then .empty else .range (.ofRange above range focus .inner)) := by
  have hfork := Fork.of_append_right range.frames.reverse fun f hf =>
    Context.selfSame_iff.1 hself f (List.mem_reverse.1 hf)
  unfold between?
  simp only [Context.frames_append, List.reverse_append, hfork, Context.ofRootFirst_reverse]
  cases range with
  | empty => rfl
  | push range f =>
    cases hframes : (range.push f).frames.reverse with
    | nil => simp at hframes
    | cons g gs => rfl

theorem between?_above (range : Context A) (focus : Tree A) :
    (⟨range ++ above, focus⟩ : Cursor A).between? known ⟨above, range.plug focus⟩ =
      some (if range.isEmpty then .empty else .range (.ofRange above range focus .outer)) := by
  have hfork := Fork.of_append_left range.frames.reverse fun f hf =>
    Context.selfSame_iff.1 hself f (List.mem_reverse.1 hf)
  unfold between?
  simp only [Context.frames_append, List.reverse_append, hfork, Context.ofRootFirst_reverse]
  cases range with
  | empty => rfl
  | push range f =>
    cases hframes : (range.push f).frames.reverse with
    | nil => simp at hframes
    | cons g gs => rfl

end SelfSame

/-- Between the ends of a selection lies the selection, unless a frame above it is not the same as
itself. -/
theorem between?_ends (known : Sharing A) (r : Selection A) :
    r.fixedCursor.between? known r.movableCursor =
      if r.above.selfSame known then some (if r.isEmpty then .empty else .range r) else none := by
  split
  · next hself =>
    have hempty : r.isEmpty = r.range.isEmpty := by
      rw [Bool.eq_iff_iff, Selection.isEmpty_iff, Context.isEmpty_iff]
    have hrange := r.ofRange_range
    unfold Selection.fixedCursor Selection.movableCursor
    cases hmovable : r.movable with
    | inner =>
      rw [hmovable] at hrange
      exact (between?_below hself r.range r.focus).trans (by rw [hrange, hempty])
    | outer =>
      rw [hmovable] at hrange
      exact (between?_above hself r.range r.focus).trans (by rw [hrange, hempty])
  · next hself =>
    simp only [Context.selfSame, List.all_eq_true, not_forall, Bool.not_eq_true] at hself
    obtain ⟨f, hmem, hf⟩ := hself
    obtain ⟨inner, hstart⟩ := r.exists_context_cursorAt r.movable.flip
    obtain ⟨inner', hstop⟩ := r.exists_context_cursorAt r.movable
    exact between?_eq_none_of_not_same hstart hstop hmem hf

theorem exists_range_of_prefix {c d : Cursor A} (hdocument : c.document = d.document)
    (hpath : c.path <+: d.path) :
    ∃ range : Context A, d.context = range ++ c.context ∧ range.plug d.focus = c.focus := by
  obtain ⟨q, hq⟩ := hpath
  obtain ⟨range, outer, hcontext, houter, -⟩ := Context.exists_append_of_path hq.symm
  -- The position at the cut has the document and the path of `c`, so it is `c`.
  have hcut : (⟨outer, range.plug d.focus⟩ : Cursor A).document = c.document := by
    rw [hdocument]
    unfold document
    rw [hcontext, Context.plug_append]
  obtain rfl : _ = c := ext_of_document_path hcut houter
  exact ⟨range, hcontext, rfl⟩

/-- Nested positions of one document are the ends of a selection. -/
theorem exists_selection {start stop : Cursor A} (hdocument : start.document = stop.document)
    (hnested : start.path <+: stop.path ∨ stop.path <+: start.path) :
    ∃ r : Selection A, r.fixedCursor = start ∧ r.movableCursor = stop := by
  rcases hnested with hpath | hpath
  · obtain ⟨range, hcontext, hfocus⟩ := exists_range_of_prefix hdocument hpath
    refine ⟨.ofRange start.context range stop.focus .inner, ?_, ?_⟩
    · exact Cursor.ext rfl hfocus
    · exact Cursor.ext hcontext.symm rfl
  · obtain ⟨range, hcontext, hfocus⟩ := exists_range_of_prefix hdocument.symm hpath
    refine ⟨.ofRange stop.context range start.focus .outer, ?_, ?_⟩
    · have hinner := Selection.cursorAt_inner_ofRange stop.context range start.focus .outer
      exact hinner.trans (Cursor.ext hcontext.symm rfl)
    · have houter := Selection.cursorAt_outer_ofRange stop.context range start.focus .outer
      exact houter.trans (Cursor.ext rfl hfocus)

theorem nested_of_between? {start stop : Cursor A} {span : Span A}
    (h : start.between? known stop = some span) :
    start.path <+: stop.path ∨ stop.path <+: start.path := by
  have hpath : ∀ c : Cursor A, c.path = c.context.frames.reverse.map Frame.index := by
    intro c
    exact List.map_reverse.symm
  simp only [hpath]
  unfold between? at h
  simp only at h
  split at h
  · next hnil _ => exact .inl (Fork.map_index_of_nil.1 hnil)
  · next hnil _ => exact .inl (Fork.map_index_of_nil.1 hnil)
  · next _ hnil => exact .inr (Fork.map_index_of_nil.2 hnil)
  · cases h

section SameDocument

variable {start stop : Cursor A} (hdocument : start.document = stop.document)
include hdocument

theorem between?_eq_none_iff :
    start.between? known stop = none ↔
      (¬start.path <+: stop.path ∧ ¬stop.path <+: start.path) ∨
        ∃ f ∈ start.context.frames, f ∈ stop.context.frames ∧ f.same known f = false := by
  rw [← not_or]
  by_cases hnested : start.path <+: stop.path ∨ stop.path <+: start.path
  · obtain ⟨r, rfl, rfl⟩ := exists_selection hdocument hnested
    simp only [hnested, not_true, false_or, between?_ends, ← and_assoc, r.mem_frames_ends_iff]
    simp [Context.selfSame]
  · refine iff_of_true ?_ (.inl hnested)
    cases h : start.between? known stop with
    | none => rfl
    | some span => exact absurd (nested_of_between? h) hnested

theorem between?_eq_range_iff {r : Selection A} :
    start.between? known stop = some (.range r) ↔
      (r.fixedCursor = start ∧ r.movableCursor = stop ∧ r.isEmpty = false) ∧
        r.above.selfSame known = true := by
  constructor
  · intro h
    obtain ⟨r', rfl, rfl⟩ := exists_selection hdocument (nested_of_between? h)
    rw [between?_ends] at h
    by_cases hempty : r'.isEmpty = true
    · simp [hempty] at h
    · simp only [hempty] at h
      obtain ⟨hself, hspan⟩ := Option.ite_none_right_eq_some.1 h
      cases hspan
      exact ⟨⟨rfl, rfl, Bool.not_eq_true _ ▸ hempty⟩, hself⟩
  · rintro ⟨⟨rfl, rfl, hempty⟩, hself⟩
    rw [between?_ends, if_pos hself, hempty]
    rfl

theorem between?_eq_empty_iff :
    start.between? known stop = some .empty ↔
      start = stop ∧ start.context.selfSame known = true := by
  constructor
  · intro h
    obtain ⟨r, rfl, rfl⟩ := exists_selection hdocument (nested_of_between? h)
    rw [between?_ends] at h
    obtain ⟨hself, hspan⟩ := Option.ite_none_right_eq_some.1 h
    have hempty : r.isEmpty = true := by
      by_contra hempty
      simp [hempty] at hspan
    refine ⟨Selection.fixedCursor_eq_movableCursor_iff.2 hempty, ?_⟩
    unfold Selection.fixedCursor
    rw [Selection.cursorAt_of_isEmpty hempty]
    exact hself
  · rintro ⟨rfl, hself⟩
    exact (between?_ends known (.ofCursor start .inner)).trans (if_pos hself)

end SameDocument

end Cursor

end TreeEditor
