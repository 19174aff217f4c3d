import Mathlib.Data.List.Lex
import Mathlib.Data.List.Sort
import Mathlib.Order.Bounds.Basic
import TreeEditor.Grammar.Lambda
import TreeEditor.Grammar.Movement
import TreeEditor.Proofs.Traversal

/-!
# Leaves in reading order

Paths are compared index by index, with a path before those that go on from it. If every position
is admitted, the search passes over no leaf: a descent ends at the outermost leaf on its side, and
the landing of `Cursor.advance?` is the nearest leaf beyond the start. So the stops are the leaves,
and moving on goes through them in the order of their paths.
-/

namespace TreeEditor

variable {A : Alphabet}

/-! ## Leaves -/

namespace Tree

/-- There is a node at the path, and it has no children. -/
def LeafAt (t : Tree A) (p : List Nat) : Prop := ∃ k, t.subtree? p = some k ∧ k.kids = []

theorem leafAt_nil {t : Tree A} : t.LeafAt [] ↔ t.kids = [] := by
  simp [LeafAt]

theorem leafAt_append {t k : Tree A} {p : List Nat} (h : t.subtree? p = some k) (q : List Nat) :
    t.LeafAt (p ++ q) ↔ k.LeafAt q := by
  unfold LeafAt
  rw [subtree?_append, h, Option.bind_some]

theorem leafAt_cons {t : Tree A} {i : Nat} {p : List Nat} :
    t.LeafAt (i :: p) ↔ ∃ k, t.kids[i]? = some k ∧ k.LeafAt p := by
  unfold LeafAt
  rw [subtree?_cons]
  cases t.kids[i]? <;> simp

/-- A tree without children has no other leaf than itself. -/
theorem LeafAt.eq_nil {t : Tree A} {p : List Nat} (h : t.LeafAt p) (hkids : t.kids = []) :
    p = [] := by
  cases p with
  | nil => rfl
  | cons i p =>
    obtain ⟨k, hk, -⟩ := leafAt_cons.1 h
    simp [hkids] at hk

end Tree

namespace Cursor

variable {admits : Cursor A → Bool} {side : Side}

theorem leafAt_path_append (c : Cursor A) (q : List Nat) :
    c.document.LeafAt (c.path ++ q) ↔ c.focus.LeafAt q :=
  Tree.leafAt_append c.subtree?_path q

theorem leafAt_path (c : Cursor A) : c.document.LeafAt c.path ↔ c.focus.kids = [] := by
  rw [← Tree.leafAt_nil, ← c.leafAt_path_append, List.append_nil]

/-- The outermost child on a side: every other child is on the other side of it. -/
theorem path_of_edge? {c d : Cursor A} (h : c.edge? side = some d) :
    ∃ i, d.path = c.path ++ [i] ∧ ∀ j < c.focus.arity, i = j ∨ side.flip.Past i j := by
  cases side with
  | left =>
    refine ⟨0, (of_down? h).2, fun j _ => ?_⟩
    exact (Nat.eq_zero_or_pos j).imp_left Eq.symm
  | right =>
    refine ⟨c.focus.arity - 1, (of_down? h).2, fun j hj => ?_⟩
    simp only [Side.flip, Side.Past]
    omega

theorem kids_of_edge?_none {c : Cursor A} (h : c.edge? side = none) : c.focus.kids = [] := by
  apply List.length_eq_zero_iff.1
  cases side with
  | left => exact Nat.le_zero.1 (down?_eq_none_iff.1 h)
  | right =>
    have hlast : c.focus.arity ≤ c.focus.arity - 1 := down?_eq_none_iff.1 h
    unfold Tree.arity at hlast
    omega

/-- Without a neighbour on a side, a position is the last child of its parent on that side. -/
theorem path_of_slide?_none {c d : Cursor A} (hslide : c.slide? side = none)
    (hup : c.up? = some d) :
    ∃ i, c.path = d.path ++ [i] ∧ ∀ j < d.focus.arity, ¬side.Past i j := by
  obtain ⟨i, hpath, hedgemost⟩ := path_of_edge? ((edge?_eq_some_iff hup).2 hslide)
  refine ⟨i, hpath, fun j hj hpast => ?_⟩
  rcases hedgemost j hj with rfl | hback
  · exact Side.past_irrefl i hpast
  · exact Side.past_irrefl i (hpast.trans (Side.past_flip.1 hback))

theorem path_of_up?_none {c : Cursor A} (h : c.up? = none) : c.path = [] := by
  obtain ⟨context, focus⟩ := c
  cases context with
  | empty => rfl
  | push outer f => cases h

/-! ## The search passes over no leaf -/

section AllAdmitted

variable (hall : ∀ c, admits c = true)
include hall

/-- A descent ends at a leaf. -/
theorem kids_descend (side : Side) (c : Cursor A) : (c.descend admits side).focus.kids = [] := by
  fun_induction descend admits side c with
  | case1 c d hedge hadmits ih => exact ih
  | case2 c d hedge hadmits => exact absurd (hall d) hadmits
  | case3 c hedge => exact kids_of_edge?_none hedge

/-- A descent ends at the outermost leaf: all others are on the other side of it. -/
theorem descend_nearest (side : Side) (c : Cursor A) {q : List Nat} (hq : c.focus.LeafAt q) :
    (c.descend admits side).path = c.path ++ q ∨
      side.flip.Beyond (c.descend admits side).path (c.path ++ q) := by
  fun_induction descend admits side c generalizing q with
  | case1 c d hedge hadmits ih =>
    obtain ⟨i, hpath, hedgemost⟩ := path_of_edge? hedge
    obtain ⟨-, q', hpath'⟩ := d.descend_spec admits side
    have hkids : c.focus.kids ≠ [] := by
      intro hnil
      have hsize := size_focus_lt_of_edge? hedge
      rw [c.focus.size_eq, hnil, Tree.sizeAll_nil] at hsize
      have := d.focus.size_pos
      omega
    cases q with
    | nil => exact absurd (Tree.leafAt_nil.1 hq) hkids
    | cons j q =>
      obtain ⟨k, hk, hleaf⟩ := Tree.leafAt_cons.1 hq
      rcases hedgemost j (List.getElem?_eq_some_iff.1 hk).1 with rfl | hpast
      · -- The leaf is below the same child, so the rest of the descent decides.
        have hfocus : d.focus = k := by
          have hd := d.subtree?_path
          rw [hpath, (of_edge? hedge).1, Tree.subtree?_append, c.subtree?_path] at hd
          simpa [Tree.subtree?_cons, hk, eq_comm] using hd
        have hnear := ih (hfocus ▸ hleaf)
        rwa [hpath, List.append_assoc, List.singleton_append] at hnear
      · right
        rw [hpath', hpath, List.append_assoc, List.singleton_append]
        exact .of_past hpast c.path q' q
  | case2 c d hedge hadmits => exact absurd (hall d) hadmits
  | case3 c hedge =>
    left
    rw [hq.eq_nil (kids_of_edge?_none hedge), List.append_nil]

theorem kids_of_advance? {c d : Cursor A} (h : c.advance? admits side = some d) :
    d.focus.kids = [] := by
  fun_induction advance? admits side c with
  | case1 c e hslide landing hadmits =>
    obtain rfl : landing = d := Option.some.inj h
    exact kids_descend hall side.flip e
  | case2 c e hslide landing hadmits ih => exact ih h
  | case3 c hslide e hup ih => exact ih h
  | case4 c hslide hup => cases h

/-- The search finds the nearest leaf beyond the start, if there is one. -/
theorem advance?_nearest (c : Cursor A) {p : List Nat} (hleaf : c.document.LeafAt p)
    (hbeyond : side.Beyond c.path p) :
    ∃ d, c.advance? admits side = some d ∧ (d.path = p ∨ side.Beyond d.path p) := by
  fun_induction advance? admits side c with
  | case1 c d hslide landing hadmits =>
    refine ⟨landing, rfl, ?_⟩
    obtain ⟨hdocument, u, i, j, hc, hd, hadjacent⟩ := of_slide? hslide
    obtain ⟨-, q, hlanding⟩ := d.descend_spec admits side.flip
    rw [hd, List.append_assoc, List.singleton_append] at hlanding
    rw [hc] at hbeyond
    -- The leaf is below the sibling, below one further on, or beside a node above both.
    rcases hbeyond.of_concat with ⟨k, x, rfl, hpast⟩ | hbeyond
    · rcases hpast.eq_or_past hadjacent with rfl | hpast
      · have hx : d.focus.LeafAt x := by
          rw [← d.leafAt_path_append, hdocument, hd, List.append_assoc]
          exact hleaf
        have hnear := descend_nearest hall side.flip d hx
        rwa [Side.flip_flip, hd, List.append_assoc] at hnear
      · right
        rw [hlanding]
        exact .of_past hpast u q x
    · right
      rw [hlanding, ← List.append_nil p]
      exact hbeyond.append _ []
  | case2 c d hslide landing hadmits ih => exact absurd (hall landing) hadmits
  | case3 c hslide d hup ih =>
    obtain ⟨i, hc, hlast⟩ := path_of_slide?_none hslide hup
    have hdocument := (of_up? hup).1
    rw [hc] at hbeyond
    rcases hbeyond.of_concat with ⟨k, x, rfl, hpast⟩ | hbeyond
    · rw [← hdocument, d.leafAt_path_append] at hleaf
      obtain ⟨_, hk, -⟩ := Tree.leafAt_cons.1 hleaf
      exact absurd hpast (hlast k (List.getElem?_eq_some_iff.1 hk).1)
    · exact ih (hdocument ▸ hleaf) hbeyond
  | case4 c hslide hup =>
    rw [path_of_up?_none hup] at hbeyond
    exact hbeyond.elim

/-- The landing is a leaf beyond the start, and no leaf lies between. -/
theorem advance?_landing {c d : Cursor A} (h : c.advance? admits side = some d) :
    c.document.LeafAt d.path ∧ side.Beyond c.path d.path ∧
      ∀ p, c.document.LeafAt p → side.Beyond c.path p → d.path = p ∨ side.Beyond d.path p := by
  obtain ⟨hdocument, hbeyond⟩ := advance?_spec h
  refine ⟨?_, hbeyond, fun p hleaf hp => ?_⟩
  · rw [← hdocument]
    exact d.leafAt_path.2 (kids_of_advance? hall h)
  · obtain ⟨e, he, hnear⟩ := advance?_nearest hall c hleaf hp
    obtain rfl : d = e := Option.some.inj (h.symm.trans he)
    exact hnear

end AllAdmitted

end Cursor

/-! ## The order of paths -/

/-- A path comes before the paths that go on from it and those that part from it to the right. -/
theorem Side.lt_iff_beyond {p q : List Nat} :
    p < q ↔ (∃ x, x ≠ [] ∧ q = p ++ x) ∨ Side.right.Beyond p q := by
  induction p generalizing q with
  | nil => cases q <;> simp [Beyond]
  | cons i p ih =>
    cases q with
    | nil => simp [Beyond]
    | cons j q =>
      rw [List.cons_lt_cons_iff, ih]
      simp only [Beyond, Past, List.cons_append, List.cons.injEq]
      constructor
      · rintro (hlt | ⟨rfl, ⟨x, hx, rfl⟩ | hbeyond⟩)
        · exact .inr (.inl hlt)
        · exact .inl ⟨x, hx, rfl, rfl⟩
        · exact .inr (.inr ⟨rfl, hbeyond⟩)
      · rintro (⟨x, hx, rfl, rfl⟩ | hlt | ⟨rfl, hbeyond⟩)
        · exact .inr ⟨rfl, .inl ⟨x, hx, rfl⟩⟩
        · exact .inl hlt
        · exact .inr ⟨rfl, .inr hbeyond⟩

theorem Side.Beyond.lt {p q : List Nat} (h : Side.right.Beyond p q) : p < q :=
  Side.lt_iff_beyond.2 (.inr h)

/-- The leaves of a tree after a path. -/
def Tree.leavesAfter (t : Tree A) (p : List Nat) : Set (List Nat) := {q | t.LeafAt q ∧ p < q}

/-- The leaves of a tree before a path. -/
def Tree.leavesBefore (t : Tree A) (p : List Nat) : Set (List Nat) := {q | t.LeafAt q ∧ q < p}

/-- A leaf is the next one after another iff that one is the last before it. -/
theorem Tree.isLeast_leavesAfter_iff {t : Tree A} {p q : List Nat} (hp : t.LeafAt p)
    (hq : t.LeafAt q) : IsLeast (t.leavesAfter p) q ↔ IsGreatest (t.leavesBefore q) p := by
  constructor
  · rintro ⟨⟨-, hlt⟩, hleast⟩
    refine ⟨⟨hp, hlt⟩, fun r hr => le_of_not_gt fun hpr => ?_⟩
    exact (hleast ⟨hr.1, hpr⟩).not_gt hr.2
  · rintro ⟨⟨-, hlt⟩, hgreatest⟩
    refine ⟨⟨hq, hlt⟩, fun r hr => le_of_not_gt fun hrq => ?_⟩
    exact (hgreatest ⟨hr.1, hrq⟩).not_gt hr.2

namespace Cursor

/-- A leaf before a position is to the left of it, as nothing is below a leaf. -/
theorem beyond_of_mem_leavesBefore {c : Cursor A} {p : List Nat}
    (h : p ∈ c.document.leavesBefore c.path) : Side.left.Beyond c.path p := by
  obtain ⟨⟨k, hk, hkids⟩, hlt⟩ := h
  rcases Side.lt_iff_beyond.1 hlt with ⟨x, hx, hpath⟩ | hbeyond
  · have hfocus := c.subtree?_path
    rw [hpath, Tree.subtree?_append, hk, Option.bind_some] at hfocus
    cases x with
    | nil => exact absurd rfl hx
    | cons i x => simp [Tree.subtree?_cons, hkids] at hfocus
  · have hflip : Side.right.flip.Beyond c.path p := Side.beyond_flip.2 hbeyond
    exact hflip

/-- A leaf after a leaf is to the right of it. -/
theorem beyond_of_mem_leavesAfter {c : Cursor A} {p : List Nat} (hkids : c.focus.kids = [])
    (h : p ∈ c.document.leavesAfter c.path) : Side.right.Beyond c.path p := by
  obtain ⟨hleaf, hlt⟩ := h
  rcases Side.lt_iff_beyond.1 hlt with ⟨x, hx, rfl⟩ | hbeyond
  · rw [leafAt_path_append] at hleaf
    exact absurd (hleaf.eq_nil hkids) hx
  · exact hbeyond

/-- An answer is determined by its document and a property that only one path has. -/
theorem eq_some_iff_of_unique {answer : Option (Cursor A)} {t : Tree A} {P : List Nat → Prop}
    (hunique : ∀ p q, P p → P q → p = q)
    (hsound : ∀ d, answer = some d → d.document = t ∧ P d.path)
    (hfound : ∀ p, P p → ∃ d, answer = some d) (d : Cursor A) :
    answer = some d ↔ d.document = t ∧ P d.path := by
  refine ⟨hsound d, ?_⟩
  rintro ⟨hdocument, hpath⟩
  obtain ⟨e, he⟩ := hfound d.path hpath
  obtain ⟨hdocument', hpath'⟩ := hsound e he
  rw [he, ext_of_document_path (hdocument'.trans hdocument.symm) (hunique _ _ hpath' hpath)]

theorem eq_none_iff_of_found {answer : Option (Cursor A)} {paths : Set (List Nat)}
    (hsound : ∀ d, answer = some d → d.path ∈ paths)
    (hfound : ∀ p ∈ paths, ∃ d, answer = some d) : answer = none ↔ paths = ∅ := by
  rw [Set.eq_empty_iff_forall_notMem]
  constructor
  · intro hnone p hp
    obtain ⟨d, hd⟩ := hfound p hp
    rw [hnone] at hd
    cases hd
  · intro hempty
    cases answer with
    | none => rfl
    | some d => exact absurd (hsound d rfl) (hempty d.path)

section AllAdmitted

variable {admits : Cursor A → Bool} (hall : ∀ c, admits c = true)
include hall

theorem isGreatest_of_prev? {c d : Cursor A} (h : c.prev? admits = some d) :
    IsGreatest (c.document.leavesBefore c.path) d.path := by
  obtain ⟨hleaf, hbeyond, hnear⟩ := advance?_landing hall h
  refine ⟨⟨hleaf, Side.Beyond.lt (Side.beyond_flip.2 hbeyond)⟩, fun p hp => ?_⟩
  rcases hnear p hp.1 (beyond_of_mem_leavesBefore hp) with rfl | hbeyond
  · exact le_rfl
  · exact (Side.Beyond.lt (Side.beyond_flip.2 hbeyond)).le

theorem exists_prev? {c : Cursor A} {p : List Nat} (h : p ∈ c.document.leavesBefore c.path) :
    ∃ d, c.prev? admits = some d := by
  obtain ⟨d, hd, -⟩ := advance?_nearest hall c h.1 (beyond_of_mem_leavesBefore h)
  exact ⟨d, hd⟩

/-- The next stop is found below the position, or beyond it if it is a leaf. -/
theorem next?_cases (c : Cursor A) :
    (∃ x, x ≠ [] ∧ (c.descend admits .left).path = c.path ++ x ∧
      c.next? admits = some (c.descend admits .left)) ∨
    c.focus.kids = [] ∧ c.next? admits = c.advance? admits .right := by
  obtain ⟨hdocument, x, hpath⟩ := c.descend_spec admits .left
  have hdepth : (c.descend admits .left).depth = c.depth + x.length := by
    unfold depth
    rw [← Context.length_path, ← Context.length_path, ← List.length_append]
    exact congrArg List.length hpath
  unfold next?
  cases x with
  | nil =>
    right
    have hsame : c.descend admits .left = c :=
      ext_of_document_path hdocument (hpath.trans (List.append_nil _))
    refine ⟨?_, ?_⟩
    · rw [← hsame]
      exact kids_descend hall .left c
    · simp [hsame]
  | cons i x =>
    left
    refine ⟨i :: x, List.cons_ne_nil i x, hpath, if_pos ?_⟩
    rw [hdepth, List.length_cons]
    omega

theorem isLeast_of_next? {c d : Cursor A} (h : c.next? admits = some d) :
    IsLeast (c.document.leavesAfter c.path) d.path := by
  rcases next?_cases hall c with ⟨x, hx, hpath, hnext⟩ | ⟨hkids, hnext⟩
  · obtain rfl : _ = d := Option.some.inj (hnext.symm.trans h)
    refine ⟨⟨?_, Side.lt_iff_beyond.2 (.inl ⟨x, hx, hpath⟩)⟩, fun p hp => ?_⟩
    · rw [← (c.descend_spec admits .left).1]
      exact (leafAt_path _).2 (kids_descend hall .left c)
    · obtain ⟨hleaf, hlt⟩ := hp
      rcases Side.lt_iff_beyond.1 hlt with ⟨y, -, rfl⟩ | hbeyond
      · rcases descend_nearest hall .left c ((c.leafAt_path_append y).1 hleaf) with heq | hbeyond
        · exact heq.le
        · exact (Side.Beyond.lt hbeyond).le
      · rw [hpath, ← List.append_nil p]
        exact (Side.Beyond.lt (hbeyond.append x [])).le
  · rw [hnext] at h
    obtain ⟨hleaf, hbeyond, hnear⟩ := advance?_landing hall h
    refine ⟨⟨hleaf, hbeyond.lt⟩, fun p hp => ?_⟩
    rcases hnear p hp.1 (beyond_of_mem_leavesAfter hkids hp) with rfl | hbeyond
    · exact le_rfl
    · exact hbeyond.lt.le

theorem exists_next? {c : Cursor A} {p : List Nat} (h : p ∈ c.document.leavesAfter c.path) :
    ∃ d, c.next? admits = some d := by
  rcases next?_cases hall c with ⟨-, -, -, hnext⟩ | ⟨hkids, hnext⟩
  · exact ⟨_, hnext⟩
  · obtain ⟨d, hd, -⟩ := advance?_nearest hall c h.1 (beyond_of_mem_leavesAfter hkids h)
    exact ⟨d, hnext.trans hd⟩

theorem next?_eq_some_iff (c d : Cursor A) : c.next? admits = some d ↔
    d.document = c.document ∧ IsLeast (c.document.leavesAfter c.path) d.path :=
  eq_some_iff_of_unique (fun _ _ => IsLeast.unique)
    (fun _ h => ⟨document_of_next? h, isLeast_of_next? hall h⟩) (fun _ h => exists_next? hall h.1) d

theorem prev?_eq_some_iff (c d : Cursor A) : c.prev? admits = some d ↔
    d.document = c.document ∧ IsGreatest (c.document.leavesBefore c.path) d.path :=
  eq_some_iff_of_unique (fun _ _ => IsGreatest.unique)
    (fun _ h => ⟨document_of_prev? h, isGreatest_of_prev? hall h⟩)
    (fun _ h => exists_prev? hall h.1) d

theorem next?_eq_none_iff (c : Cursor A) :
    c.next? admits = none ↔ c.document.leavesAfter c.path = ∅ :=
  eq_none_iff_of_found (fun _ h => (isLeast_of_next? hall h).1) fun _ h => exists_next? hall h

theorem prev?_eq_none_iff (c : Cursor A) :
    c.prev? admits = none ↔ c.document.leavesBefore c.path = ∅ :=
  eq_none_iff_of_found (fun _ h => (isGreatest_of_prev? hall h).1) fun _ h => exists_prev? hall h

end AllAdmitted

end Cursor

/-! ## All leaves of a tree -/

namespace Tree

mutual

/-- The paths of the leaves, from left to right. -/
def leafPaths : Tree A → List (List Nat)
  | .node _ kids => if kids.isEmpty then [[]] else leafPathsFrom 0 kids

/-- The paths of the leaves of siblings, the first of which has index `i`. -/
def leafPathsFrom (i : Nat) : List (Tree A) → List (List Nat)
  | [] => []
  | t :: ts => (leafPaths t).map (i :: ·) ++ leafPathsFrom (i + 1) ts

end

theorem mem_leafPathsFrom {ts : List (Tree A)} {i : Nat} {p : List Nat} :
    p ∈ leafPathsFrom i ts ↔ ∃ j k q, ts[j]? = some k ∧ q ∈ k.leafPaths ∧ p = (i + j) :: q := by
  induction ts generalizing i with
  | nil => simp [leafPathsFrom]
  | cons t ts ih =>
    rw [leafPathsFrom, List.mem_append, List.mem_map, ih]
    constructor
    · rintro (⟨q, hq, rfl⟩ | ⟨j, k, q, hk, hq, rfl⟩)
      · exact ⟨0, t, q, rfl, hq, rfl⟩
      · refine ⟨j + 1, k, q, hk, hq, ?_⟩
        rw [Nat.add_right_comm, Nat.add_assoc]
    · rintro ⟨_ | j, k, q, hk, hq, rfl⟩
      · obtain rfl : t = k := Option.some.inj hk
        exact .inl ⟨q, hq, rfl⟩
      · refine .inr ⟨j, k, q, hk, hq, ?_⟩
        rw [Nat.add_right_comm, Nat.add_assoc]

theorem mem_leafPaths {t : Tree A} {p : List Nat} : p ∈ t.leafPaths ↔ t.LeafAt p := by
  induction t generalizing p with
  | node l kids ih =>
    rw [leafPaths]
    cases hkids : kids.isEmpty with
    | true =>
      have hnil : (node l kids).kids = [] := List.isEmpty_iff.1 hkids
      refine ⟨fun h => ?_, fun h => ?_⟩
      · obtain rfl : p = [] := by simpa using h
        exact leafAt_nil.2 hnil
      · simp [h.eq_nil hnil]
    | false =>
      have hne : kids ≠ [] := by simpa using hkids
      simp only [Bool.false_eq_true, if_false, mem_leafPathsFrom, Nat.zero_add]
      cases p with
      | nil => simpa [leafAt_nil] using hne
      | cons i p =>
        rw [leafAt_cons]
        constructor
        · rintro ⟨j, k, q, hk, hq, heq⟩
          cases heq
          exact ⟨k, hk, (ih k (List.mem_of_getElem? hk)).1 hq⟩
        · rintro ⟨k, hk, hp⟩
          exact ⟨i, k, p, hk, (ih k (List.mem_of_getElem? hk)).2 hp, rfl⟩

theorem pairwise_leafPathsFrom {ts : List (Tree A)}
    (h : ∀ t ∈ ts, t.leafPaths.Pairwise (· < ·)) (i : Nat) :
    (leafPathsFrom i ts).Pairwise (· < ·) := by
  induction ts generalizing i with
  | nil => exact .nil
  | cons t ts ih =>
    rw [List.forall_mem_cons] at h
    rw [leafPathsFrom, List.pairwise_append, List.pairwise_map]
    refine ⟨?_, ih h.2 (i + 1), ?_⟩
    · exact h.1.imp fun hlt => List.cons_lt_cons_iff.2 (.inr ⟨rfl, hlt⟩)
    · intro p hp q hq
      obtain ⟨p, -, rfl⟩ := List.mem_map.1 hp
      obtain ⟨j, -, q, -, -, rfl⟩ := mem_leafPathsFrom.1 hq
      exact List.cons_lt_cons_iff.2 (.inl (by omega))

theorem pairwise_leafPaths (t : Tree A) : t.leafPaths.Pairwise (· < ·) := by
  induction t with
  | node l kids ih =>
    rw [leafPaths]
    split
    · exact List.pairwise_singleton _ _
    · exact pairwise_leafPathsFrom ih 0

theorem length_leafPaths_le (t : Tree A) : t.leafPaths.length ≤ t.size := by
  have hall : ∀ (ts : List (Tree A)) (i : Nat), (∀ t ∈ ts, t.leafPaths.length ≤ t.size) →
      (leafPathsFrom i ts).length ≤ sizeAll ts := by
    intro ts
    induction ts with
    | nil => exact fun _ _ => Nat.le_refl 0
    | cons t ts ih =>
      intro i h
      rw [List.forall_mem_cons] at h
      have hrest := ih (i + 1) h.2
      rw [leafPathsFrom, List.length_append, List.length_map, sizeAll_cons]
      exact Nat.add_le_add h.1 hrest
  induction t with
  | node l kids ih =>
    rw [leafPaths, size]
    split
    · exact Nat.le_add_right 1 _
    · exact Nat.le_add_left_of_le (hall kids 0 ih)

end Tree

/-! ## Going through the leaves -/

namespace Grammar

variable (g : Grammar A)

/-- Each stop is reached by a move from a position that has what all moves keep. -/
theorem exists_of_mem_stops {P : Cursor A → Prop} {dir : Direction}
    (hstep : ∀ b d, P b → g.moveCursor? b dir = some d → P d) {limit : Nat} {c d : Cursor A}
    (hc : P c) (h : d ∈ g.stops dir limit c) : ∃ b, P b ∧ g.moveCursor? b dir = some d := by
  induction limit generalizing c with
  | zero => cases h
  | succ limit ih =>
    unfold stops at h
    split at h
    · next next hnext =>
      rcases List.mem_cons.1 h with rfl | h
      · exact ⟨c, hc, hnext⟩
      · exact ih (hstep c next hc hnext) h
    · cases h

theorem document_of_mem_stops {limit : Nat} {c d : Cursor A} (h : d ∈ g.stops .next limit c) :
    d.document = c.document := by
  have hstep : ∀ b d : Cursor A, b.document = c.document → g.moveCursor? b .next = some d →
      d.document = c.document := by
    intro b d hb hnext
    exact (Cursor.document_of_next? hnext).trans hb
  obtain ⟨b, hb, hnext⟩ := g.exists_of_mem_stops hstep rfl h
  exact hstep b d hb hnext

/-- Moving on from a position goes through the leaves after it. -/
theorem map_path_stops (hall : ∀ c, g.admitsCursor c = true) (limit : Nat) (c : Cursor A) :
    (g.stops .next limit c).map Cursor.path =
      (c.document.leafPaths.filter fun p => c.path < p).take limit := by
  have hmem : ∀ (e : Cursor A) (p : List Nat),
      p ∈ (e.document.leafPaths.filter fun p => e.path < p) ↔
        p ∈ e.document.leavesAfter e.path := by
    intro e p
    simp [Tree.mem_leafPaths, Tree.leavesAfter]
  induction limit generalizing c with
  | zero => rfl
  | succ limit ih =>
    unfold stops
    cases hnext : g.moveCursor? c .next with
    | none =>
      have hempty := (Cursor.next?_eq_none_iff hall c).1 hnext
      have hnil : (c.document.leafPaths.filter fun p => c.path < p) = [] := by
        refine List.eq_nil_iff_forall_not_mem.2 fun p hp => ?_
        exact Set.eq_empty_iff_forall_notMem.1 hempty p ((hmem c p).1 hp)
      rw [hnil]
      rfl
    | some d =>
      obtain ⟨hdocument, hleast⟩ := (Cursor.next?_eq_some_iff hall c d).1 hnext
      -- Both lists ascend, so it is enough to compare their members.
      have hcons : (c.document.leafPaths.filter fun p => c.path < p) =
          d.path :: d.document.leafPaths.filter fun p => d.path < p := by
        refine List.Pairwise.eq_of_mem_iff ((Tree.pairwise_leafPaths _).filter _)
          (.cons (fun p hp => ((hmem d p).1 hp).2) ((Tree.pairwise_leafPaths _).filter _)) ?_
        intro p
        rw [List.mem_cons, hmem, hmem, hdocument]
        constructor
        · intro hp
          rcases (hleast.2 hp).eq_or_lt with heq | hlt
          · exact .inl heq.symm
          · exact .inr ⟨hp.1, hlt⟩
        · rintro (rfl | hp)
          · exact hleast.1
          · exact ⟨hp.1, hleast.1.2.trans hp.2⟩
      rw [hcons, List.take_succ_cons, ← ih d]
      rfl

/-- From the root of a tree that is not a leaf, moving on goes through all leaves. -/
theorem map_path_stops_root (hall : ∀ c, g.admitsCursor c = true) {t : Tree A}
    (hkids : t.kids ≠ []) {limit : Nat} (hlimit : t.size ≤ limit) :
    (g.stops .next limit (.root t)).map Cursor.path = t.leafPaths := by
  have hafter : (t.leafPaths.filter fun p => [] < p) = t.leafPaths := by
    refine List.filter_eq_self.2 fun p hp => ?_
    cases p with
    | nil => exact absurd (Tree.leafAt_nil.1 (Tree.mem_leafPaths.1 hp)) hkids
    | cons i p => simp
  rw [map_path_stops g hall, Cursor.document_root, Cursor.path_root, hafter]
  exact List.take_of_length_le (t.length_leafPaths_le.trans hlimit)

/-- The stops from the root of a tree that is not a leaf are the positions of its leaves. -/
theorem mem_stops_root_iff (hall : ∀ c, g.admitsCursor c = true) {t : Tree A}
    (hkids : t.kids ≠ []) {limit : Nat} (hlimit : t.size ≤ limit) (c : Cursor A) :
    c ∈ g.stops .next limit (.root t) ↔ c.document = t ∧ c.focus.kids = [] := by
  have hpaths := map_path_stops_root g hall hkids hlimit
  constructor
  · intro hc
    have hdocument : c.document = t := document_of_mem_stops g hc
    refine ⟨hdocument, ?_⟩
    rw [← c.leafAt_path, hdocument, ← Tree.mem_leafPaths, ← hpaths]
    exact List.mem_map_of_mem hc
  · rintro ⟨hdocument, hleaf⟩
    rw [← c.leafAt_path, hdocument, ← Tree.mem_leafPaths, ← hpaths] at hleaf
    obtain ⟨d, hd, hpath⟩ := List.mem_map.1 hleaf
    have hdocument' : d.document = t := document_of_mem_stops g hd
    rwa [← Cursor.ext_of_document_path (hdocument'.trans hdocument.symm) hpath]

/-- **Linear moves follow the reading order.** If every position is admitted, the next stop is the
least leaf after the position and the previous one the greatest leaf before it, and there is none
only if there is no such leaf. So moving on from the root visits each leaf once, from left to
right, and on leaves the two moves are inverse. -/
theorem linear_moves_follow_reading_order (hall : ∀ c, g.admitsCursor c = true) :
    (∀ c d, g.moveCursor? c .next = some d ↔
      d.document = c.document ∧ IsLeast (c.document.leavesAfter c.path) d.path) ∧
    (∀ c, g.moveCursor? c .next = none ↔ c.document.leavesAfter c.path = ∅) ∧
    (∀ c d, g.moveCursor? c .prev = some d ↔
      d.document = c.document ∧ IsGreatest (c.document.leavesBefore c.path) d.path) ∧
    (∀ c, g.moveCursor? c .prev = none ↔ c.document.leavesBefore c.path = ∅) ∧
    (∀ t : Tree A, t.kids ≠ [] → ∀ limit ≥ t.size,
      ((g.stops .next limit (.root t)).map Cursor.path).Pairwise (· < ·) ∧
      ∀ c, c ∈ g.stops .next limit (.root t) ↔ c.document = t ∧ c.focus.kids = []) ∧
    (∀ c d : Cursor A, c.focus.kids = [] → d.focus.kids = [] →
      (g.moveCursor? c .next = some d ↔ g.moveCursor? d .prev = some c)) := by
  have hnext : ∀ c d, g.moveCursor? c .next = some d ↔ _ := Cursor.next?_eq_some_iff hall
  have hprev : ∀ c d, g.moveCursor? c .prev = some d ↔ _ := Cursor.prev?_eq_some_iff hall
  refine ⟨hnext, Cursor.next?_eq_none_iff hall, hprev, Cursor.prev?_eq_none_iff hall, ?_, ?_⟩
  · intro t hkids limit hlimit
    refine ⟨?_, mem_stops_root_iff g hall hkids hlimit⟩
    rw [map_path_stops_root g hall hkids hlimit]
    exact t.pairwise_leafPaths
  · intro c d hc hd
    rw [hnext, hprev, eq_comm]
    refine and_congr_right fun hdocument => ?_
    rw [← c.leafAt_path] at hc
    rw [← d.leafAt_path, ← hdocument] at hd
    rw [← hdocument]
    exact Tree.isLeast_leavesAfter_iff hc hd

/-- The stops from the root of `((a b) c) d` are its four variables. -/
theorem linear_moves_follow_reading_order_spine :
    let g := Lambda.grammar false
    (∀ c, g.admitsCursor c = true) ∧
      (g.stops .next 7 (.root Lambda.spine)).map Cursor.path = [[0, 0, 0], [0, 0, 1], [0, 1], [1]] ∧
      ∀ c, c ∈ g.stops .next 7 (.root Lambda.spine) ↔
        c.document = Lambda.spine ∧ c.focus.kids = [] := by
  intro g
  have hall : ∀ c, g.admitsCursor c = true := fun _ => rfl
  have hkids : Lambda.spine.kids ≠ [] := List.cons_ne_nil _ _
  obtain ⟨-, -, -, -, hstops, -⟩ := linear_moves_follow_reading_order g hall
  exact ⟨hall, map_path_stops_root g hall hkids (Nat.le_refl 7),
    (hstops Lambda.spine hkids 7 (Nat.le_refl 7)).2⟩

end Grammar

end TreeEditor
