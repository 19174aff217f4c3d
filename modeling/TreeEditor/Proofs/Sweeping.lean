import TreeEditor.Proofs.ReadingOrder
import TreeEditor.Proofs.Stretching

/-!
# Selecting leaf after leaf

A selection that is opened forwards at a position, and stretched forwards again and again, goes
through the leaves below that position from left to right. The movable end follows the linear order
of the whole document. It is stopped at the edge of the subtree by the fixed end alone: the first
leaf beyond the subtree is not nested with it, so there is no range to it. Where the sweep has come
to is described by the leaves still to come (`Snapshot.Sweeping`); a step takes the first of them,
and is refused if there is none. If a frame above the position is not the same as itself, then no
range is ever found below it, and already the first step is refused.
-/

namespace TreeEditor

variable {A : Alphabet}

/-! ## Paths below a path -/

theorem le_of_below {p q : List Nat} (h : p <+: q) : p ≤ q := by
  obtain ⟨x, rfl⟩ := h
  cases x with
  | nil => rw [List.append_nil]
  | cons i x => exact (Side.lt_iff_beyond.2 (.inl ⟨i :: x, List.cons_ne_nil i x, rfl⟩)).le

/-- What comes after a path and not below it comes after all that is below it. -/
theorem lt_of_below_of_not_below {u p q : List Nat} (hp : u <+: p) (hlt : u < q)
    (hq : ¬u <+: q) : p < q := by
  rcases Side.lt_iff_beyond.1 hlt with ⟨x, -, rfl⟩ | hbeyond
  · exact absurd (List.prefix_append u x) hq
  · obtain ⟨y, rfl⟩ := hp
    have hpast := hbeyond.append y []
    rw [List.append_nil] at hpast
    exact hpast.lt

namespace Cursor

/-- The paths of the leaves strictly below a position, from left to right. -/
def leavesBelow (c : Cursor A) : List (List Nat) :=
  c.document.leafPaths.filter fun p => c.path <+: p ∧ p ≠ c.path

theorem mem_leavesBelow {c : Cursor A} {p : List Nat} :
    p ∈ c.leavesBelow ↔ c.document.LeafAt p ∧ c.path <+: p ∧ p ≠ c.path := by
  simp [leavesBelow, Tree.mem_leafPaths]

theorem pairwise_leavesBelow (c : Cursor A) : c.leavesBelow.Pairwise (· < ·) :=
  c.document.pairwise_leafPaths.filter _

end Cursor

/-! ## One step of the sweep -/

/-- The outcome of a command that is carried out a number of times. -/
def Snapshot.applyTimes (g : Grammar A) (policy : FaultPolicy) (command : Command A) :
    Nat → Snapshot A → Outcome A (Snapshot A)
  | 0, s => .ok s
  | n + 1, s => do
    let next ← s.apply g policy command
    next.applyTimes g policy command n

/-- A range is open from `c` downwards, perhaps an empty one, and `rest` are the leaves below `c`
that its movable end has not come to yet. -/
structure Snapshot.Sweeping (c : Cursor A) (s : Snapshot A) (rest : List (List Nat)) : Prop where
  fixed : (s.mode.opened .next).fixedCursor = c
  inner : (s.mode.opened .next).movable = .inner
  ascending : rest.Pairwise (· < ·)
  mem_rest : ∀ p, p ∈ rest ↔ p ∈ c.leavesBelow ∧ (s.mode.opened .next).movableCursor.path < p

namespace Snapshot.Sweeping

variable {g : Grammar A} {c : Cursor A} {s : Snapshot A} {rest : List (List Nat)} {p : List Nat}

theorem start (hmode : s.mode = .cursor c) : s.Sweeping c c.leavesBelow := by
  have hopened : s.mode.opened .next = .ofCursor c .inner := by
    rw [hmode]
    rfl
  refine ⟨?_, ?_, c.pairwise_leavesBelow, ?_⟩
  · rw [hopened]
    rfl
  · rw [hopened]
    rfl
  · intro p
    rw [hopened]
    show p ∈ c.leavesBelow ↔ p ∈ c.leavesBelow ∧ c.path < p
    refine ⟨fun hp => ⟨hp, ?_⟩, And.left⟩
    obtain ⟨-, hbelow, hne⟩ := Cursor.mem_leavesBelow.1 hp
    exact lt_of_le_of_ne (le_of_below hbelow) hne.symm

theorem document_movableCursor (h : s.Sweeping c rest) :
    (s.mode.opened .next).movableCursor.document = c.document := by
  rw [← h.fixed]
  exact ((s.mode.opened .next).document_cursorAt _).trans
    ((s.mode.opened .next).document_cursorAt _).symm

/-- The movable end is at the anchor or below it. -/
theorem below_movableCursor (h : s.Sweeping c rest) :
    c.path <+: (s.mode.opened .next).movableCursor.path := by
  have hfixed := h.fixed
  unfold Selection.fixedCursor at hfixed
  unfold Selection.movableCursor
  rw [h.inner] at hfixed ⊢
  rw [← hfixed, Selection.path_cursorAt_inner]
  exact List.prefix_append ..

/-- Leaves after the movable end are still to come, or are beyond all that is below the anchor. -/
theorem mem_rest_or_not_below (h : s.Sweeping c rest) {q : List Nat}
    (hq : q ∈ c.document.leavesAfter (s.mode.opened .next).movableCursor.path) :
    c.path < q ∧ (q ∈ rest ∨ ¬c.path <+: q) := by
  obtain ⟨hleaf, hafter⟩ := hq
  have hlt : c.path < q := (le_of_below h.below_movableCursor).trans_lt hafter
  refine ⟨hlt, ?_⟩
  by_cases hbelow : c.path <+: q
  · exact .inl ((h.mem_rest q).2 ⟨Cursor.mem_leavesBelow.2 ⟨hleaf, hbelow, hlt.ne'⟩, hafter⟩)
  · exact .inr hbelow

theorem isLeast_head (h : s.Sweeping c (p :: rest)) :
    IsLeast (c.document.leavesAfter (s.mode.opened .next).movableCursor.path) p := by
  obtain ⟨hp, hafter⟩ := (h.mem_rest p).1 List.mem_cons_self
  obtain ⟨hleaf, hbelow, -⟩ := Cursor.mem_leavesBelow.1 hp
  refine ⟨⟨hleaf, hafter⟩, ?_⟩
  intro q hq
  obtain ⟨hlt, hcome | hbeyond⟩ := h.mem_rest_or_not_below hq
  · rcases List.mem_cons.1 hcome with rfl | hcome
    · exact le_rfl
    · exact (List.rel_of_pairwise_cons h.ascending hcome).le
  · exact (lt_of_below_of_not_below hbelow hlt hbeyond).le

/-- Once the movable end is at the first of the leaves to come, the others are still to come. -/
theorem tail (h : s.Sweeping c (p :: rest)) {r : Selection A} (hfixed : r.fixedCursor = c)
    (hinner : r.movable = .inner) (hpath : r.movableCursor.path = p) :
    (s.withSelection r).Sweeping c rest := by
  refine ⟨hfixed, hinner, h.ascending.of_cons, ?_⟩
  intro q
  show q ∈ rest ↔ q ∈ c.leavesBelow ∧ r.movableCursor.path < q
  rw [hpath]
  have hmem := h.mem_rest q
  rw [List.mem_cons] at hmem
  constructor
  · intro hq
    exact ⟨(hmem.1 (.inr hq)).1, List.rel_of_pairwise_cons h.ascending hq⟩
  · rintro ⟨hq, hlt⟩
    have hafter := ((h.mem_rest p).1 List.mem_cons_self).2.trans hlt
    exact (hmem.2 ⟨hq, hafter⟩).resolve_left hlt.ne'

section AllAdmitted

variable (policy : FaultPolicy) (hcursor : ∀ d, g.admitsCursor d = true)
include hcursor

/-- The next step is refused if no leaf is to come, and also if there are leaves to come but a frame
above the anchor is not the same as itself. -/
theorem apply_refused (h : s.Sweeping c rest)
    (hstop : rest = [] ∨ c.context.selfSame g.known = false) :
    s.apply g policy (.moveSelection .next) = .error (.refused .boundary) := by
  refine moveSelection_eq_error_iff.2 ⟨?_, rfl⟩
  show ((s.mode.opened .next).movableCursor.next? g.admitsCursor).bind _ = none
  cases hnext : (s.mode.opened .next).movableCursor.next? g.admitsCursor with
  | none => rfl
  | some e =>
    have hmove : g.moveCursor? (s.mode.opened .next).movableCursor .next = some e := hnext
    have hdocument := Grammar.document_fixedCursor_of_moveCursor? hmove
    have hleaf := (Cursor.isLeast_of_next? hcursor hnext).1
    rw [h.document_movableCursor] at hleaf
    rw [Option.bind_some, Grammar.stretch?_eq_none_iff hdocument, h.fixed]
    obtain ⟨hlt, hcome | hbeyond⟩ := h.mem_rest_or_not_below hleaf
    · -- The leaf is below the anchor, so the frames above the anchor are above both.
      have hself := hstop.resolve_left (List.ne_nil_of_mem hcome)
      simp only [Context.selfSame, List.all_eq_false, Bool.not_eq_true] at hself
      obtain ⟨f, hf, hdiffers⟩ := hself
      have hbelow := (Cursor.mem_leavesBelow.1 ((h.mem_rest _).1 hcome).1).2.1
      obtain ⟨range, hcontext, -⟩ :=
        Cursor.exists_range_of_prefix (by rwa [h.fixed] at hdocument) hbelow
      refine .inr (.inl ⟨f, hf, ?_, hdiffers⟩)
      rw [hcontext, Context.frames_append]
      exact List.mem_append_right _ hf
    · exact .inl ⟨hbeyond, fun habove => (le_of_below habove).not_gt hlt⟩

theorem apply_cons (hselection : ∀ r, g.admitsSelection r = true)
    (hself : c.context.selfSame g.known = true) (h : s.Sweeping c (p :: rest)) :
    ∃ r : Selection A, s.apply g policy (.moveSelection .next) = .ok (s.withSelection r) ∧
      r.fixedCursor = c ∧ r.movableCursor.path = p ∧ r.movable = .inner := by
  have hleast := h.isLeast_head
  rw [← h.document_movableCursor] at hleast
  obtain ⟨e, hnext⟩ := Cursor.exists_next? hcursor hleast.1
  obtain rfl : e.path = p := (Cursor.isLeast_of_next? hcursor hnext).unique hleast
  obtain ⟨-, hbelow, hne⟩ := Cursor.mem_leavesBelow.1 ((h.mem_rest _).1 List.mem_cons_self).1
  have hmove : g.moveCursor? (s.mode.opened .next).movableCursor .next = some e := hnext
  have hdocument := Grammar.document_fixedCursor_of_moveCursor? hmove
  -- The leaf is below the anchor, so the frames between the two make a range.
  obtain ⟨range, hcontext, hfocus⟩ :=
    Cursor.exists_range_of_prefix (by rwa [h.fixed] at hdocument) hbelow
  have hfixed : (Selection.ofRange c.context range e.focus .inner).fixedCursor = c :=
    Cursor.ext rfl hfocus
  have hmovable : (Selection.ofRange c.context range e.focus .inner).movableCursor = e :=
    Cursor.ext hcontext.symm rfl
  have hpath := congrArg Cursor.path hmovable
  refine ⟨_, moveSelection_eq_ok_iff.2 (.inl ⟨_, ?_, rfl⟩), hfixed, hpath, rfl⟩
  show ((s.mode.opened .next).movableCursor.next? g.admitsCursor).bind _ = _
  rw [hnext, Option.bind_some, Grammar.stretch?_eq_range_iff hdocument, h.fixed]
  refine ⟨⟨⟨hfixed, hmovable, ?_⟩, hself⟩, hselection _⟩
  rw [← Bool.not_eq_true, ← Selection.fixedCursor_eq_movableCursor_iff, hfixed, hmovable]
  rintro rfl
  exact hne rfl

/-! ## The whole sweep -/

/-- The leaves to come are reached one after another, and after the last the next step is
refused. -/
theorem reaches_rest (hselection : ∀ r, g.admitsSelection r = true)
    (hself : c.context.selfSame g.known = true) (h : s.Sweeping c rest) :
    (∀ k p, rest[k]? = some p → ∃ r : Selection A,
      s.applyTimes g policy (.moveSelection .next) (k + 1) = .ok (s.withSelection r) ∧
        r.fixedCursor = c ∧ r.movableCursor.path = p ∧ r.movable = .inner) ∧
    ∃ last, s.applyTimes g policy (.moveSelection .next) rest.length = .ok last ∧
      last.apply g policy (.moveSelection .next) = .error (.refused .boundary) := by
  induction rest generalizing s with
  | nil =>
    refine ⟨?_, s, rfl, h.apply_refused policy hcursor (.inl rfl)⟩
    intro k p hk
    simp at hk
  | cons q rest ih =>
    obtain ⟨r, happly, hfixed, hpath, hinner⟩ := h.apply_cons policy hcursor hselection hself
    obtain ⟨hlater, last, hlast, hstop⟩ := ih (h.tail hfixed hinner hpath)
    have hfirst : ∀ n, s.applyTimes g policy (.moveSelection .next) (n + 1) =
        (s.withSelection r).applyTimes g policy (.moveSelection .next) n := by
      intro n
      rw [Snapshot.applyTimes, happly]
      rfl
    refine ⟨?_, last, (hfirst _).trans hlast, hstop⟩
    intro k p hk
    rw [hfirst]
    cases k with
    | zero =>
      obtain rfl : q = p := Option.some.inj hk
      exact ⟨r, rfl, hfixed, hpath, hinner⟩
    | succ k => exact hlater k p hk

end AllAdmitted

end Snapshot.Sweeping

/-- **Selecting forwards sweeps the leaves below the cursor.** Let every position and range be
admitted, and each frame above a cursor be the same as itself, as all frames are if all values are.
Then selecting on to the next stop leads from the cursor to the leaves strictly below it, one after
another and from left to right: each time the range from the cursor down to the leaf is selected,
with its inner end movable and the clipboard as before. After the last of them there is nothing in
that direction, whatever comes after the subtree in the document. If some frame above the cursor is
not the same as itself, there is nothing in that direction from the start. -/
theorem Snapshot.next_sweeps_leaves_below (g : Grammar A) (policy : FaultPolicy) (s : Snapshot A)
    (c : Cursor A) (hcursor : ∀ d, g.admitsCursor d = true)
    (hselection : ∀ r, g.admitsSelection r = true) (hmode : s.mode = .cursor c) :
    (A.Reflexive → c.context.selfSame g.known = true) ∧
    (c.leavesBelow.Pairwise (· < ·) ∧ ∀ p, p ∈ c.leavesBelow ↔
      c.document.LeafAt p ∧ c.path <+: p ∧ p ≠ c.path) ∧
    (c.context.selfSame g.known = true →
      (∀ k p, c.leavesBelow[k]? = some p → ∃ r : Selection A,
        s.applyTimes g policy (.moveSelection .next) (k + 1) = .ok ⟨.select r, s.clipboard⟩ ∧
          r.cursorAt .outer = c ∧ (r.cursorAt .inner).path = p ∧ r.movable = .inner) ∧
      ∃ last, s.applyTimes g policy (.moveSelection .next) c.leavesBelow.length = .ok last ∧
        last.apply g policy (.moveSelection .next) = .error (.refused .boundary)) ∧
    (c.context.selfSame g.known = false →
      s.apply g policy (.moveSelection .next) = .error (.refused .boundary)) := by
  have hstart := Sweeping.start hmode
  refine ⟨?_, ⟨c.pairwise_leavesBelow, fun p => Cursor.mem_leavesBelow⟩, ?_, ?_⟩
  · intro hvalues
    exact Context.selfSame_iff.2 fun f _ => f.same_self hvalues
  · intro hself
    obtain ⟨hsweep, hstop⟩ := hstart.reaches_rest policy hcursor hselection hself
    refine ⟨?_, hstop⟩
    intro k p hk
    obtain ⟨r, happly, hfixed, hpath, hinner⟩ := hsweep k p hk
    unfold Selection.fixedCursor at hfixed
    unfold Selection.movableCursor at hpath
    rw [hinner] at hfixed hpath
    exact ⟨r, happly, hfixed, hpath, hinner⟩
  · intro hself
    exact hstart.apply_refused policy hcursor (.inr hself)

/-- Selecting forwards from the function `(a b) c` of `((a b) c) d` goes to `a`, `b` and `c`, and
not on to `d`. -/
theorem Snapshot.next_sweeps_leaves_below_spine :
    let g := Lambda.grammar false
    let function := Lambda.app (Lambda.app (Lambda.var "a") (Lambda.var "b")) (Lambda.var "c")
    let c : Cursor Lambda.alphabet :=
      ⟨.ofFrames [Lambda.functionFrame (Lambda.var "d")], function⟩
    let s : Snapshot Lambda.alphabet := ⟨.cursor c, some (.tree (Lambda.var "x"))⟩
    (c.document = Lambda.spine ∧ c.leavesBelow = [[0, 0, 0], [0, 0, 1], [0, 1]]) ∧
    (∃ r : Selection Lambda.alphabet,
      s.applyTimes g .abort (.moveSelection .next) 3 = .ok ⟨.select r, s.clipboard⟩ ∧
        r.cursorAt .outer = c ∧ (r.cursorAt .inner).path = [0, 1] ∧ r.movable = .inner) ∧
    ∃ last, s.applyTimes g .abort (.moveSelection .next) 3 = .ok last ∧
      last.apply g .abort (.moveSelection .next) = .error (.refused .boundary) := by
  intro g function c s
  have hleaves : c.leavesBelow = [[0, 0, 0], [0, 0, 1], [0, 1]] := by decide
  obtain ⟨hreflexive, -, hsweeps, -⟩ :=
    next_sweeps_leaves_below g .abort s c (fun _ => rfl) (fun _ => rfl) rfl
  obtain ⟨hsweep, hstop⟩ := hsweeps (hreflexive Lambda.lawful.reflexive)
  rw [hleaves] at hsweep hstop
  exact ⟨⟨rfl, hleaves⟩, hsweep 2 [0, 1] rfl, hstop⟩

/-- Selecting forwards from a sum of two numbers scaled by what is not a number is refused, although
there are leaves below the sum. -/
theorem Snapshot.next_sweeps_not_a_number :
    let sum := (Numeric.firstFrame (Numeric.number 2)).plug (Numeric.number 1)
    let c : Cursor Numeric.alphabet := ⟨.ofFrames [Numeric.nanFrame], sum⟩
    let s : Snapshot Numeric.alphabet := ⟨.cursor c, none⟩
    c.leavesBelow = [[0, 0], [0, 1]] ∧ ∀ known policy,
      s.apply (Numeric.grammar known) policy (.moveSelection .next) =
        .error (.refused .boundary) := by
  intro sum c s
  refine ⟨by decide, ?_⟩
  intro known policy
  exact (Sweeping.start rfl).apply_refused policy (fun _ => rfl) (.inr rfl)

end TreeEditor
