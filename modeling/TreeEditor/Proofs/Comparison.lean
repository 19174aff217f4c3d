import Mathlib.Data.List.Chain
import TreeEditor.Comparison
import TreeEditor.Grammar.Lambda

/-!
# Comparing documents pair by pair

Two trees are compared by way of the pairs that are still to be compared. A round takes some pair
off: it may be known to be one tree twice, and then it is dropped; else the roots are compared, and
the pairs of children take its place. No round changes what the comparison of all pending pairs
comes to (`Tree.Round.sameAll_eq`), and each lowers the number of nodes that are pending. So the
answer depends neither on the order in which pairs are taken nor on which of them are dropped, and
wherever two trees differ, the difference is found.

Pairing children cuts the longer list short. Nothing is lost by it, since the arities are compared
before; the depth plays the same part where two contexts are compared frame by frame.

All of this is for values whose comparison decides their equality. If each value is at least the
same as itself, then so is each tree and each frame. Without any law, frames that are found to be
the same still have their gap at the same child.
-/

namespace TreeEditor

variable {A : Alphabet} {known : Sharing A}

/-- Two lists of one length are equal iff they are pair by pair. -/
theorem eq_iff_forall_mem_zip {α : Type} {xs ys : List α} (hlength : xs.length = ys.length) :
    xs = ys ↔ ∀ p ∈ xs.zip ys, p.1 = p.2 := by
  induction xs generalizing ys with
  | nil => simp [List.length_eq_zero_iff.1 hlength.symm]
  | cons x xs ih =>
    cases ys with
    | nil => simp at hlength
    | cons y ys => simp [ih (by simpa using hlength)]

/-! ## Values that are the same as themselves -/

section Reflexive

variable (hvalues : A.Reflexive)
include hvalues

theorem Label.same_self (l : Label A) : l.same l = true := by
  simp [same, hvalues l.value]

theorem Tree.sameAll_of_forall_eq {pairs : List (Tree A × Tree A)} (h : ∀ p ∈ pairs, p.1 = p.2) :
    sameAll known pairs = true := by
  fun_induction sameAll known pairs with
  | case1 => rfl
  | case2 a b pending hshared ih => exact ih fun p hp => h p (List.mem_cons_of_mem _ hp)
  | case3 a b pending hshared ih =>
    obtain rfl : a = b := h (a, b) List.mem_cons_self
    have hpending : ∀ p ∈ a.kids.zip a.kids ++ pending, p.1 = p.2 := by
      intro p hp
      rcases List.mem_append.1 hp with hp | hp
      · exact (eq_iff_forall_mem_zip rfl).1 rfl p hp
      · exact h p (List.mem_cons_of_mem _ hp)
    simp [a.label.same_self hvalues, ih hpending]

theorem Tree.sameEach_self (ts : List (Tree A)) : sameEach known ts ts = true := by
  simp only [sameEach, decide_true, Bool.true_and, List.all_eq_true]
  intro p hp
  refine sameAll_of_forall_eq hvalues ?_
  simpa using (eq_iff_forall_mem_zip rfl).1 rfl p hp

/-- A frame is the same as itself if each value is. -/
theorem Frame.same_self (f : Frame A) : f.same known f = true := by
  simp [same, f.label.same_self hvalues, Tree.sameEach_self hvalues]

end Reflexive

/-- The gap is at the same child, whatever the values. -/
theorem Frame.index_eq_of_same {f g : Frame A} (h : f.same known g = true) : f.index = g.index := by
  simp only [same, Tree.sameEach, Bool.and_eq_true, decide_eq_true_eq] at h
  exact h.1.2.1

theorem Label.eq_of_same (hvalues : A.Lawful) {l m : Label A} (h : l.same m = true) : l = m := by
  simp only [same, Bool.and_eq_true, decide_eq_true_eq] at h
  exact Label.ext h.1.1 h.1.2 ((hvalues _ _).1 h.2)

namespace Context

/-- Whether each frame is the same as itself. -/
def selfSame (known : Sharing A) (c : Context A) : Bool := c.frames.all fun f => f.same known f

theorem selfSame_iff {c : Context A} :
    c.selfSame known = true ↔ ∀ f ∈ c.frames, f.same known f = true := by
  simp [selfSame]

end Context

namespace Tree

/-- Where the roots agree, two trees are equal iff their children are, pair by pair. -/
theorem eq_iff_kids_eq {a b : Tree A} (hlabel : a.label = b.label) (harity : a.arity = b.arity) :
    a = b ↔ ∀ p ∈ a.kids.zip b.kids, p.1 = p.2 := by
  rw [← eq_iff_forall_mem_zip harity]
  constructor
  · exact congrArg kids
  · intro hkids
    rw [← node_label_kids a, hlabel, hkids, node_label_kids]

/-! ## Where two trees differ -/

/-- The roots have the same label and the same number of children. -/
def SameRoot (a b : Tree A) : Prop := a.label = b.label ∧ a.arity = b.arity

/-- At a path both trees have a node, and the two nodes differ in label or arity. -/
def DiffersAt (a b : Tree A) (path : List Nat) : Prop :=
  ∃ u v, a.subtree? path = some u ∧ b.subtree? path = some v ∧ ¬SameRoot u v

theorem DiffersAt.cons {a b k l : Tree A} {i : Nat} {path : List Nat} (ha : a.kids[i]? = some k)
    (hb : b.kids[i]? = some l) (h : k.DiffersAt l path) : a.DiffersAt b (i :: path) := by
  obtain ⟨u, v, hu, hv, hroot⟩ := h
  exact ⟨u, v, subtree?_cons_eq_some_iff.2 ⟨k, ha, hu⟩, subtree?_cons_eq_some_iff.2 ⟨l, hb, hv⟩,
    hroot⟩

theorem DiffersAt.ne {a b : Tree A} {path : List Nat} (h : a.DiffersAt b path) : a ≠ b := by
  rintro rfl
  obtain ⟨u, v, hu, hv, hroot⟩ := h
  obtain rfl : u = v := Option.some.inj (hu.symm.trans hv)
  exact hroot ⟨rfl, rfl⟩

/-- Trees that are not equal differ at a path that leads to a node in both. -/
theorem exists_differsAt {a b : Tree A} (h : a ≠ b) : ∃ path, a.DiffersAt b path := by
  induction a generalizing b with
  | node l kids ih =>
    by_cases hroot : SameRoot (.node l kids) b
    · -- Some pair of children differs, and no child is without a partner.
      have hkids : ¬∀ p ∈ kids.zip b.kids, p.1 = p.2 := by
        intro hall
        exact h ((eq_iff_kids_eq hroot.1 hroot.2).2 hall)
      simp only [not_forall] at hkids
      obtain ⟨⟨k, k'⟩, hmem, hne⟩ := hkids
      obtain ⟨i, hi⟩ := List.mem_iff_getElem?.1 hmem
      obtain ⟨hk, hk'⟩ := List.getElem?_zip_eq_some.1 hi
      obtain ⟨path, hpath⟩ := ih k (List.mem_of_getElem? hk) hne
      exact ⟨i :: path, hpath.cons hk hk'⟩
    · exact ⟨[], _, b, rfl, rfl, hroot⟩

theorem ne_iff_exists_differsAt {a b : Tree A} : a ≠ b ↔ ∃ path, a.DiffersAt b path :=
  ⟨exists_differsAt, fun ⟨_, h⟩ => h.ne⟩

/-! ## Values whose comparison decides equality -/

section Lawful

variable (hvalues : A.Lawful)
include hvalues

theorem eq_of_sameAll {pairs : List (Tree A × Tree A)} (h : sameAll known pairs = true) :
    ∀ p ∈ pairs, p.1 = p.2 := by
  fun_induction sameAll known pairs with
  | case1 => simp
  | case2 a b pending hshared ih =>
    rw [List.forall_mem_cons]
    exact ⟨known.eq_of_tree hshared, ih h⟩
  | case3 a b pending hshared ih =>
    simp only [Bool.and_eq_true, decide_eq_true_eq] at h
    obtain ⟨⟨hlabel, harity⟩, hrest⟩ := h
    have hpairs := List.forall_mem_append.1 (ih hrest)
    rw [List.forall_mem_cons]
    exact ⟨(eq_iff_kids_eq (Label.eq_of_same hvalues hlabel) harity).2 hpairs.1, hpairs.2⟩

/-- The pending pairs are all equal iff the comparison succeeds. -/
theorem sameAll_iff (pairs : List (Tree A × Tree A)) :
    sameAll known pairs = true ↔ ∀ p ∈ pairs, p.1 = p.2 :=
  ⟨eq_of_sameAll hvalues, sameAll_of_forall_eq hvalues.reflexive⟩

theorem same_iff_eq (a b : Tree A) : a.same known b = true ↔ a = b := by
  simp [same, sameAll_iff hvalues]

theorem eq_of_sameEach {ts us : List (Tree A)} (h : sameEach known ts us = true) : ts = us := by
  simp only [sameEach, Bool.and_eq_true, decide_eq_true_eq, List.all_eq_true] at h
  exact (eq_iff_forall_mem_zip h.1).2 fun p hp => (same_iff_eq hvalues _ _).1 (h.2 p hp)

end Lawful

/-! ## Rounds -/

/-- One round of a comparison, on the pairs that are still to be compared, whichever of them it
takes off. -/
inductive Round : List (Tree A × Tree A) → List (Tree A × Tree A) → Prop where
  /-- One tree twice need not be looked into. -/
  | drop (before after : List (Tree A × Tree A)) (t : Tree A) :
      Round (before ++ (t, t) :: after) (before ++ after)
  /-- The pairs of children take the place of their parents. -/
  | expand (before after : List (Tree A × Tree A)) {a b : Tree A} (hroot : SameRoot a b) :
      Round (before ++ (a, b) :: after) (before ++ a.kids.zip b.kids ++ after)

variable {pending next : List (Tree A × Tree A)}

/-- A round does not change what the comparison comes to. -/
theorem Round.sameAll_eq (hvalues : A.Lawful) (h : Round pending next) :
    sameAll known next = sameAll known pending := by
  rw [Bool.eq_iff_iff, sameAll_iff hvalues, sameAll_iff hvalues]
  cases h with
  | drop before after t =>
    simp only [List.forall_mem_append, List.forall_mem_cons, true_and]
  | expand before after hroot =>
    simp only [List.forall_mem_append, List.forall_mem_cons, and_assoc]
    rw [eq_iff_kids_eq hroot.1 hroot.2]

/-- A round leaves fewer nodes pending. -/
theorem Round.sizeAll_lt (h : Round pending next) :
    sizeAll (next.map (·.1)) < sizeAll (pending.map (·.1)) := by
  cases h with
  | drop before after t =>
    have := t.size_pos
    simp only [List.map_append, List.map_cons, sizeAll_append, sizeAll_cons]
    omega
  | @expand before after a b hroot =>
    have := sizeAll_fst_zip_le a.kids b.kids
    simp only [List.map_append, List.map_cons, sizeAll_append, sizeAll_cons, size_eq a]
    omega

/-- So there are no more rounds than nodes, and all that is ever pending comes to the same. -/
theorem rounds_spec (hvalues : A.Lawful) (known : Sharing A) {run : List (List (Tree A × Tree A))}
    (hrun : List.IsChain Round (pending :: run)) :
    run.length ≤ sizeAll (pending.map (·.1)) ∧
      ∀ later ∈ pending :: run, sameAll known later = sameAll known pending := by
  induction run generalizing pending with
  | nil => simp
  | cons next run ih =>
    obtain ⟨hround, hrest⟩ := List.isChain_cons_cons.1 hrun
    obtain ⟨hlength, hsame⟩ := ih hrest
    refine ⟨?_, ?_⟩
    · have := hround.sizeAll_lt
      rw [List.length_cons]
      omega
    · intro later hlater
      rcases List.mem_cons.1 hlater with rfl | hlater
      · rfl
      · rw [hsame later hlater, hround.sameAll_eq hvalues]

theorem sameAll_eq_false_of_mem (hvalues : A.Lawful) {p : Tree A × Tree A} (hp : p ∈ pending)
    (hroot : ¬SameRoot p.1 p.2) : sameAll known pending = false := by
  rw [← Bool.not_eq_true, sameAll_iff hvalues]
  intro hall
  apply hroot
  rw [hall p hp]
  exact ⟨rfl, rfl⟩

end Tree

/-! ## Frames and contexts -/

section Lawful

variable (hvalues : A.Lawful)
include hvalues

theorem Frame.same_iff_eq (f g : Frame A) : f.same known g = true ↔ f = g := by
  constructor
  · intro h
    simp only [same, Bool.and_eq_true] at h
    obtain ⟨⟨hlabel, hleft⟩, hright⟩ := h
    exact Frame.ext (Label.eq_of_same hvalues hlabel) (Tree.eq_of_sameEach hvalues hleft)
      (Tree.eq_of_sameEach hvalues hright)
  · rintro rfl
    exact f.same_self hvalues.reflexive

namespace Context

theorem sameChain_iff_eq {fs gs : List (Frame A)} (hlength : fs.length = gs.length) :
    sameChain known fs gs = true ↔ fs = gs := by
  fun_induction sameChain known fs gs with
  | case1 f fs g gs ih =>
    simp only [Bool.or_eq_true, Bool.and_eq_true, Frame.same_iff_eq hvalues,
      ih (by simpa using hlength), List.cons.injEq]
    constructor
    · rintro (hshared | heq)
      · exact List.cons.inj (known.eq_of_chain hshared)
      · exact heq
    · exact .inr
  | case2 fs gs hcons =>
    cases fs with
    | nil => simp [List.length_eq_zero_iff.1 hlength.symm]
    | cons f fs =>
      cases gs with
      | nil => simp at hlength
      | cons g gs => exact absurd rfl (hcons f fs g gs rfl)

theorem same_iff_frames_eq {c d : Context A} : c.same known d = true ↔ c.frames = d.frames := by
  simp only [same, c.depth_eq, d.depth_eq, Bool.and_eq_true, decide_eq_true_eq]
  constructor
  · rintro ⟨hlength, hchain⟩
    exact (sameChain_iff_eq hvalues hlength).1 hchain
  · intro h
    have hlength := congrArg List.length h
    exact ⟨hlength, (sameChain_iff_eq hvalues hlength).2 h⟩

/-- Where two contexts run into the same outer frames after equally many, those before decide. -/
theorem same_iff_of_common_outer {c d : Context A} {fs gs outer : List (Frame A)}
    (hc : c.frames = fs ++ outer) (hd : d.frames = gs ++ outer) (hlength : fs.length = gs.length) :
    c.same known d = true ↔ ∀ p ∈ fs.zip gs, p.1 = p.2 := by
  rw [same_iff_frames_eq hvalues, hc, hd, List.append_left_inj, eq_iff_forall_mem_zip hlength]

end Context

end Lawful

/-- **The comparisons decide equality.** Let the comparison of values decide their equality. Two
trees are found to be the same iff they are equal, and not to be the same iff they differ in label
or arity at some path that leads to a node in both. Rounds that take the pairs in another order, and
drop some that are one tree twice, are no more than the nodes of the tree and come to the same
answer: if nothing is pending any more, the trees are the same, and if the roots of a pending pair
differ, they are not. Two contexts are found to be the same iff they have the same frames, one by
one, of which those before a common outer part decide. None of this depends on what is known to be
shared. -/
theorem comparisons_decide_equality (A : Alphabet) (hvalues : A.Lawful) (known : Sharing A) :
    (∀ a b : Tree A,
      (a.same known b = true ↔ a = b) ∧
      (a.same known b = false ↔ ∃ path, a.DiffersAt b path) ∧
      ∀ run, List.IsChain Tree.Round ([(a, b)] :: run) →
        run.length ≤ a.size ∧ ∀ pending ∈ [(a, b)] :: run,
          (pending = [] → a.same known b = true) ∧
          ∀ p ∈ pending, ¬p.1.SameRoot p.2 → a.same known b = false) ∧
    ∀ c d : Context A,
      (c.same known d = true ↔ ∀ i : Nat, c.frames[i]? = d.frames[i]?) ∧
      ∀ fs gs outer, c.frames = fs ++ outer → d.frames = gs ++ outer → fs.length = gs.length →
        (c.same known d = true ↔ ∀ p ∈ fs.zip gs, p.1 = p.2) := by
  refine ⟨?_, ?_⟩
  · intro a b
    refine ⟨Tree.same_iff_eq hvalues a b, ?_, ?_⟩
    · rw [← Tree.ne_iff_exists_differsAt, ← Bool.not_eq_true, Tree.same_iff_eq hvalues]
    · intro run hrun
      obtain ⟨hlength, hsame⟩ := Tree.rounds_spec hvalues known hrun
      refine ⟨by simpa using hlength, ?_⟩
      intro pending hpending
      have hanswer : a.same known b = Tree.sameAll known pending := (hsame pending hpending).symm
      refine ⟨?_, ?_⟩
      · rintro rfl
        rw [hanswer, Tree.sameAll]
      · intro p hp hroot
        rw [hanswer]
        exact Tree.sameAll_eq_false_of_mem hvalues hp hroot
  · intro c d
    refine ⟨?_, ?_⟩
    · rw [Context.same_iff_frames_eq hvalues, List.ext_getElem?_iff]
    · intro fs gs outer hc hd hlength
      exact Context.same_iff_of_common_outer hvalues hc hd hlength

/-- Two applications of one function: the argument is compared first and the function is dropped
unopened, which is enough where the arguments are the same, and not reached where they differ. A
variable with a child too many differs from the variable although no children are paired. -/
theorem comparisons_decide_equality_shared :
    let x := Lambda.var "x"
    let y := Lambda.var "y"
    let wide : Tree Lambda.alphabet := .node x.label [Lambda.hole]
    let f := Lambda.spine
    let a := Lambda.app f x
    let b := Lambda.app f y
    let outer := [Lambda.argumentFrame a]
    let c : Context Lambda.alphabet := .ofFrames (Lambda.functionFrame x :: outer)
    let d : Context Lambda.alphabet := .ofFrames (Lambda.functionFrame y :: outer)
    a.same .nothing a = true ∧ a.same .nothing b = false ∧ x.same .nothing wide = false ∧
      c.same .nothing d = false := by
  intro x y wide f a b outer c d
  obtain ⟨htrees, hcontexts⟩ :=
    comparisons_decide_equality Lambda.alphabet Lambda.lawful .nothing
  have hne : ¬x.SameRoot y := by
    rintro ⟨hlabel, -⟩
    exact absurd hlabel (by decide)
  refine ⟨?_, ?_, ?_, ?_⟩
  · have hroots : Tree.Round [(a, a)] [(f, f), (x, x)] := .expand [] [] ⟨rfl, rfl⟩
    have hargument : Tree.Round [(f, f), (x, x)] [(f, f)] := .expand [(f, f)] [] ⟨rfl, rfl⟩
    have hfunction : Tree.Round [(f, f)] [] := .drop [] [] f
    have hrun : List.IsChain Tree.Round [[(a, a)], [(f, f), (x, x)], [(f, f)], []] :=
      .cons_cons hroots (.cons_cons hargument (.cons_cons hfunction (.singleton _)))
    exact (((htrees a a).2.2 _ hrun).2 [] (by simp)).1 rfl
  · have hroots : Tree.Round [(a, b)] [(f, f), (x, y)] := .expand [] [] ⟨rfl, rfl⟩
    have hrun : List.IsChain Tree.Round [[(a, b)], [(f, f), (x, y)]] :=
      .cons_cons hroots (.singleton _)
    exact (((htrees a b).2.2 _ hrun).2 [(f, f), (x, y)] (by simp)).2 (x, y) (by simp) hne
  · refine (htrees x wide).2.1.2 ⟨[], x, wide, rfl, rfl, ?_⟩
    rintro ⟨-, harity⟩
    exact absurd harity (by decide)
  · have hframes := (hcontexts c d).2 [Lambda.functionFrame x] [Lambda.functionFrame y] outer
      (by simp [c]) (by simp [d]) rfl
    rw [← Bool.not_eq_true, hframes]
    intro hall
    have hright := congrArg Frame.right (hall _ (List.mem_singleton_self _))
    obtain ⟨hxy, -⟩ := List.cons.inj hright
    exact hne ⟨congrArg Tree.label hxy, rfl⟩

end TreeEditor
