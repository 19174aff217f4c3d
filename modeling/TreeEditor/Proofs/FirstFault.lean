import Mathlib.Data.List.Lex
import TreeEditor.Grammar.Lambda
import TreeEditor.Proofs.Validity

/-!
# The first fault of a document

Validation works through a list of pending trees, with the children of a node put in front of what
is still pending. This is the recursion on the tree: first the root, then one child after another
(`Signature.validate_eq`). So the fault that is reported is that of the first node to fail in
reading order, in which paths are compared index by index and a path comes before those that go on
from it. What is reported about this node is `Signature.RootFault`, where a fault of one kind
supposes that there is none of the kinds before it.
-/

namespace TreeEditor

variable {A : Alphabet}

/-- A check of each item of a list fails with the fault of the item at the first index that fails. -/
theorem Check.forM_eq_error_iff_getElem? {α : Type} {check : α → Check A} {items : List α}
    {fault : Fault A} :
    items.forM check = .error fault ↔ ∃ (i : Nat) (x : α), items[i]? = some x ∧
      check x = .error fault ∧ ∀ j < i, ∀ y, items[j]? = some y → check y = .ok () := by
  rw [forM_eq_error_iff]
  constructor
  · rintro ⟨before, x, after, rfl, hbefore, hx⟩
    refine ⟨before.length, x, by simp, hx, ?_⟩
    intro j hj y hy
    rw [List.getElem?_append_left hj] at hy
    exact hbefore y (List.mem_of_getElem? hy)
  · rintro ⟨i, x, hget, hx, hbefore⟩
    obtain ⟨hlt, rfl⟩ := List.getElem?_eq_some_iff.1 hget
    refine ⟨items.take i, items[i], items.drop (i + 1), ?_, ?_, hx⟩
    · rw [List.getElem_cons_drop, List.take_append_drop]
    · intro y hy
      obtain ⟨j, hj, rfl⟩ := List.mem_take_iff_getElem.1 hy
      exact hbefore j (by omega) _ (List.getElem?_eq_getElem _)

/-- The subtrees are what is found at the paths. -/
theorem Tree.mem_subtrees_iff {t u : Tree A} : u ∈ t.subtrees ↔ ∃ p, t.subtree? p = some u := by
  induction t with
  | node l kids ih =>
    rw [subtrees, List.mem_cons, mem_subtreesAll]
    constructor
    · rintro (rfl | ⟨k, hk, hu⟩)
      · exact ⟨[], rfl⟩
      · obtain ⟨i, hi⟩ := List.mem_iff_getElem?.1 hk
        obtain ⟨p, hp⟩ := (ih k hk).1 hu
        exact ⟨i :: p, subtree?_cons_eq_some_iff.2 ⟨k, hi, hp⟩⟩
    · rintro ⟨p, hp⟩
      cases p with
      | nil => exact .inl (Option.some.inj hp).symm
      | cons i p =>
        obtain ⟨k, hi, hp⟩ := subtree?_cons_eq_some_iff.1 hp
        have hk : k ∈ kids := List.mem_of_getElem? hi
        exact .inr ⟨k, hk, (ih k hk).2 ⟨p, hp⟩⟩

namespace Signature

variable (S : Signature A)

theorem valid_iff_subtree? {t : Tree A} :
    S.Valid t ↔ ∀ p u, t.subtree? p = some u → S.checkRoot u = .ok () := by
  unfold Valid
  constructor
  · intro h p u hp
    exact h u (Tree.mem_subtrees_iff.2 ⟨p, hp⟩)
  · intro h u hu
    obtain ⟨p, hp⟩ := Tree.mem_subtrees_iff.1 hu
    exact h p u hp

/-! ## The pending trees and the recursion -/

/-- Trees that are pending wait until those before them are done. -/
theorem validateAll_append (ts us : List (Tree A)) :
    S.validateAll (ts ++ us) = (do S.validateAll ts; S.validateAll us) := by
  fun_induction validateAll S ts with
  | case1 => rfl
  | case2 t pending ih =>
    rw [List.cons_append, validateAll, ← List.append_assoc, ih, bind_assoc]

theorem validateAll_eq_forM (ts : List (Tree A)) : S.validateAll ts = ts.forM S.validate := by
  induction ts with
  | nil =>
    rw [validateAll]
    rfl
  | cons t ts ih =>
    rw [← List.singleton_append, validateAll_append, ih]
    rfl

/-- Validation is a recursion on the tree. -/
theorem validate_eq (t : Tree A) :
    S.validate t = (do S.checkRoot t; t.kids.forM S.validate) := by
  rw [← validateAll_eq_forM]
  unfold validate
  rw [validateAll, List.append_nil]

/-! ## The first node that fails -/

/-- The node at a path fails, and no node before it in reading order does. -/
structure FailsFirstAt (t : Tree A) (p : List Nat) (fault : Fault A) : Prop where
  fails : ∃ u, t.subtree? p = some u ∧ S.checkRoot u = .error fault
  before : ∀ q < p, ∀ u, t.subtree? q = some u → S.checkRoot u = .ok ()

theorem failsFirstAt_nil {t : Tree A} {fault : Fault A} :
    S.FailsFirstAt t [] fault ↔ S.checkRoot t = .error fault := by
  constructor
  · rintro ⟨⟨u, hu, hfails⟩, -⟩
    cases hu
    exact hfails
  · intro h
    exact ⟨⟨t, rfl, h⟩, fun q hq => absurd hq (List.not_lt_nil q)⟩

/-- Below the root, the first node that fails is in the first child that is not valid. -/
theorem failsFirstAt_cons {t : Tree A} {i : Nat} {p : List Nat} {fault : Fault A} :
    S.FailsFirstAt t (i :: p) fault ↔ S.checkRoot t = .ok () ∧
      ∃ k, t.kids[i]? = some k ∧ S.FailsFirstAt k p fault ∧
        ∀ j < i, ∀ k', t.kids[j]? = some k' → S.Valid k' := by
  constructor
  · rintro ⟨⟨u, hu, hfails⟩, hbefore⟩
    obtain ⟨k, hi, hu⟩ := Tree.subtree?_cons_eq_some_iff.1 hu
    refine ⟨hbefore [] (List.nil_lt_cons i p) t rfl, k, hi, ⟨⟨u, hu, hfails⟩, ?_⟩, ?_⟩
    · intro q hq v hv
      have hlt : i :: q < i :: p := List.cons_lt_cons_iff.2 (.inr ⟨rfl, hq⟩)
      exact hbefore (i :: q) hlt v (Tree.subtree?_cons_eq_some_iff.2 ⟨k, hi, hv⟩)
    · intro j hj k' hk'
      rw [valid_iff_subtree?]
      intro q v hv
      have hlt : j :: q < i :: p := List.cons_lt_cons_iff.2 (.inl hj)
      exact hbefore (j :: q) hlt v (Tree.subtree?_cons_eq_some_iff.2 ⟨k', hk', hv⟩)
  · rintro ⟨hroot, k, hi, ⟨⟨u, hu, hfails⟩, hbefore⟩, hvalid⟩
    refine ⟨⟨u, Tree.subtree?_cons_eq_some_iff.2 ⟨k, hi, hu⟩, hfails⟩, ?_⟩
    intro q hq v hv
    cases q with
    | nil =>
      cases hv
      exact hroot
    | cons j q =>
      obtain ⟨k', hj, hv⟩ := Tree.subtree?_cons_eq_some_iff.1 hv
      -- An earlier child comes first with all that is below it, the same child up to the path.
      rcases List.cons_lt_cons_iff.1 hq with hlt | ⟨rfl, hlt⟩
      · exact S.valid_iff_subtree?.1 (hvalid j hlt k' hj) q v hv
      · cases hi.symm.trans hj
        exact hbefore q hlt v hv

/-- Validation fails with the fault of the first node that fails. -/
theorem validate_eq_error_iff {t : Tree A} {fault : Fault A} :
    S.validate t = .error fault ↔ ∃ p, S.FailsFirstAt t p fault := by
  induction t with
  | node l kids ih =>
    rw [validate_eq, seq_eq_error_iff, Check.forM_eq_error_iff_getElem?]
    constructor
    · rintro (hroot | ⟨hroot, i, k, hi, hk, hbefore⟩)
      · exact ⟨[], S.failsFirstAt_nil.2 hroot⟩
      · obtain ⟨p, hp⟩ := (ih k (List.mem_of_getElem? hi)).1 hk
        refine ⟨i :: p, S.failsFirstAt_cons.2 ⟨hroot, k, hi, hp, ?_⟩⟩
        intro j hj k' hk'
        exact S.validate_eq_ok_iff.1 (hbefore j hj k' hk')
    · rintro ⟨p, hp⟩
      cases p with
      | nil => exact .inl (S.failsFirstAt_nil.1 hp)
      | cons i p =>
        obtain ⟨hroot, k, hi, hp, hvalid⟩ := S.failsFirstAt_cons.1 hp
        refine .inr ⟨hroot, i, k, hi, (ih k (List.mem_of_getElem? hi)).2 ⟨p, hp⟩, ?_⟩
        intro j hj k' hk'
        exact S.validate_eq_ok_iff.2 (hvalid j hj k' hk')

/-! ## What is wrong with a node -/

/-- Of the children that are not of the category of their slot, the leftmost. -/
structure LeftmostMisfit (slots : List A.Cat) (kids : List (Tree A)) (i : Nat) (expected : A.Cat)
    (k : Tree A) : Prop where
  slot : slots[i]? = some expected
  kid : kids[i]? = some k
  differs : k.cat ≠ expected
  before : ∀ j < i, ∀ k', kids[j]? = some k' → slots[j]? = some k'.cat

theorem leftmostMisfit_zero {slots : List A.Cat} {kids : List (Tree A)} {slot expected : A.Cat}
    {kid k : Tree A} :
    LeftmostMisfit (slot :: slots) (kid :: kids) 0 expected k ↔
      slot = expected ∧ kid = k ∧ k.cat ≠ expected := by
  constructor
  · rintro ⟨hslot, hkid, hdiffers, -⟩
    exact ⟨Option.some.inj hslot, Option.some.inj hkid, hdiffers⟩
  · rintro ⟨rfl, rfl, hdiffers⟩
    exact ⟨rfl, rfl, hdiffers, fun j hj => absurd hj (Nat.not_lt_zero j)⟩

theorem leftmostMisfit_succ {slots : List A.Cat} {kids : List (Tree A)} {i : Nat}
    {slot expected : A.Cat} {kid k : Tree A} :
    LeftmostMisfit (slot :: slots) (kid :: kids) (i + 1) expected k ↔
      slot = kid.cat ∧ LeftmostMisfit slots kids i expected k := by
  constructor
  · rintro ⟨hslot, hkid, hdiffers, hbefore⟩
    refine ⟨Option.some.inj (hbefore 0 (Nat.succ_pos i) kid rfl), hslot, hkid, hdiffers, ?_⟩
    intro j hj
    exact hbefore (j + 1) (Nat.succ_lt_succ hj)
  · rintro ⟨rfl, hslot, hkid, hdiffers, hbefore⟩
    refine ⟨hslot, hkid, hdiffers, ?_⟩
    intro j hj k' hk'
    cases j with
    | zero =>
      cases hk'
      rfl
    | succ j => exact hbefore j (Nat.lt_of_succ_lt_succ hj) k' hk'

theorem checkSlots_eq_error_iff {rule : A.Rule} {index : Nat} {slots : List A.Cat}
    {kids : List (Tree A)} {fault : Fault A} :
    checkSlots rule index slots (kids.map fun k => some k.cat) = .error fault ↔
      ∃ i expected k, LeftmostMisfit slots kids i expected k ∧
        fault = .wrongCategory rule (index + i) expected k.cat := by
  induction slots generalizing index kids with
  | nil =>
    refine iff_of_false (by simp [checkSlots]) ?_
    rintro ⟨i, expected, k, hmisfit, -⟩
    cases hmisfit.slot
  | cons slot slots ih =>
    cases kids with
    | nil =>
      refine iff_of_false (by simp [checkSlots]) ?_
      rintro ⟨i, expected, k, hmisfit, -⟩
      cases hmisfit.kid
    | cons kid kids =>
      rw [List.map_cons, checkSlots]
      -- The check goes on exactly where the misfit is further to the right.
      by_cases hcat : kid.cat = slot
      · rw [if_pos hcat, ih]
        constructor
        · rintro ⟨i, expected, k, hmisfit, rfl⟩
          refine ⟨i + 1, expected, k, leftmostMisfit_succ.2 ⟨hcat.symm, hmisfit⟩, ?_⟩
          rw [Nat.add_assoc, Nat.add_comm 1]
        · rintro ⟨i, expected, k, hmisfit, rfl⟩
          cases i with
          | zero =>
            obtain ⟨rfl, rfl, hdiffers⟩ := leftmostMisfit_zero.1 hmisfit
            exact absurd hcat hdiffers
          | succ i =>
            refine ⟨i, expected, k, (leftmostMisfit_succ.1 hmisfit).2, ?_⟩
            rw [Nat.add_assoc, Nat.add_comm 1]
      · rw [if_neg hcat]
        constructor
        · intro h
          cases h
          exact ⟨0, slot, kid, leftmostMisfit_zero.2 ⟨rfl, rfl, hcat⟩, rfl⟩
        · rintro ⟨i, expected, k, hmisfit, rfl⟩
          cases i with
          | zero =>
            obtain ⟨rfl, rfl, -⟩ := leftmostMisfit_zero.1 hmisfit
            rfl
          | succ i => exact absurd (leftmostMisfit_succ.1 hmisfit).1.symm hcat

/-- What is wrong with the root of a tree. Its rule comes before the number of its children, and
that before their categories. -/
inductive RootFault (t : Tree A) : Fault A → Prop where
  | unknownRule (hrule : t.rule ∉ S.rules t.cat) : RootFault t (.unknownRule t.cat t.rule)
  | wrongArity (hrule : t.rule ∈ S.rules t.cat) (harity : (S.slots t.rule).length ≠ t.arity) :
      RootFault t (.wrongArity t.rule (S.slots t.rule).length t.arity)
  | wrongCategory {i : Nat} {expected : A.Cat} {k : Tree A} (hrule : t.rule ∈ S.rules t.cat)
      (harity : (S.slots t.rule).length = t.arity)
      (hmisfit : LeftmostMisfit (S.slots t.rule) t.kids i expected k) :
      RootFault t (.wrongCategory t.rule i expected k.cat)

theorem checkRoot_eq_ok_iff {t : Tree A} :
    S.checkRoot t = .ok () ↔ t.rule ∈ S.rules t.cat ∧ (S.slots t.rule).length = t.arity ∧
      ∀ (i : Nat) (k : Tree A), t.kids[i]? = some k → (S.slots t.rule)[i]? = some k.cat := by
  unfold checkRoot
  rw [checkNode_eq_ok_iff, List.length_map]
  refine and_congr_right fun _ => and_congr_right fun _ => ?_
  constructor
  · intro h i k hk
    exact h i k.cat (by rw [List.getElem?_map, hk]; rfl)
  · intro h i c hc
    rw [List.getElem?_map, Option.map_eq_some_iff] at hc
    obtain ⟨k, hk, hcat⟩ := hc
    cases hcat
    exact h i k hk

theorem checkRoot_eq_error_iff {t : Tree A} {fault : Fault A} :
    S.checkRoot t = .error fault ↔ S.RootFault t fault := by
  have hcheck : S.checkRoot t =
      if t.rule ∉ S.rules t.cat then .error (.unknownRule t.cat t.rule)
      else if (S.slots t.rule).length ≠ t.arity then
        .error (.wrongArity t.rule (S.slots t.rule).length t.arity)
      else checkSlots t.rule 0 (S.slots t.rule) (t.kids.map fun k => some k.cat) := by
    unfold checkRoot checkNode
    rw [List.length_map]
    rfl
  rw [hcheck]
  constructor
  · intro h
    by_cases hrule : t.rule ∈ S.rules t.cat
    · rw [if_neg (not_not_intro hrule)] at h
      by_cases harity : (S.slots t.rule).length = t.arity
      · rw [if_neg (not_not_intro harity), checkSlots_eq_error_iff] at h
        obtain ⟨i, expected, k, hmisfit, rfl⟩ := h
        rw [Nat.zero_add]
        exact .wrongCategory hrule harity hmisfit
      · rw [if_pos harity] at h
        cases h
        exact .wrongArity hrule harity
    · rw [if_pos hrule] at h
      cases h
      exact .unknownRule hrule
  · intro h
    cases h with
    | unknownRule hrule => rw [if_pos hrule]
    | wrongArity hrule harity => rw [if_neg (not_not_intro hrule), if_pos harity]
    | @wrongCategory i expected k hrule harity hmisfit =>
      rw [if_neg (not_not_intro hrule), if_neg (not_not_intro harity), checkSlots_eq_error_iff]
      exact ⟨i, expected, k, hmisfit, by rw [Nat.zero_add]⟩

/-- **The first fault is reported.** A document passes iff each of its nodes does. Otherwise the
fault is that of the first node to fail in reading order. A node passes iff its rule is one of its
category, it has a child for each slot, and each child is of the category of its slot; else the first
of these three that does not hold is reported, the last one at the leftmost slot. -/
theorem validate_reports_first_fault (t : Tree A) :
    (S.validate t = .ok () ↔ ∀ p u, t.subtree? p = some u → S.checkRoot u = .ok ()) ∧
    (∀ fault, S.validate t = .error fault ↔ ∃ p, S.FailsFirstAt t p fault) ∧
    ∀ u : Tree A,
      (S.checkRoot u = .ok () ↔
        u.rule ∈ S.rules u.cat ∧ (S.slots u.rule).length = u.arity ∧
          ∀ (i : Nat) (k : Tree A), u.kids[i]? = some k → (S.slots u.rule)[i]? = some k.cat) ∧
      ∀ fault, S.checkRoot u = .error fault ↔ S.RootFault u fault := by
  refine ⟨?_, ?_, ?_⟩
  · rw [S.validate_eq_ok_iff, S.valid_iff_subtree?]
  · intro fault
    exact S.validate_eq_error_iff
  · intro u
    exact ⟨S.checkRoot_eq_ok_iff, fun fault => S.checkRoot_eq_error_iff⟩

/-- In an application, the argument of the function lacks a child, and the argument itself has a rule
that is no rule of expressions. The first of them is deeper, and it is reported. -/
theorem validate_reports_first_fault_deeper :
    let lacking : Tree Lambda.alphabet := .node ⟨.exp, .app, ""⟩ [Lambda.var "b"]
    let misnamed : Tree Lambda.alphabet := .node ⟨.exp, .name, "x"⟩ []
    let function := Lambda.app (Lambda.var "a") lacking
    let t := Lambda.app function misnamed
    Lambda.signature.validate t = .error (.wrongArity .app 2 1) ∧
      Lambda.signature.RootFault misnamed (.unknownRule .exp .name) := by
  intro lacking misnamed function t
  obtain ⟨-, herror, hnode⟩ := validate_reports_first_fault Lambda.signature t
  have hlacking : Lambda.signature.checkRoot lacking = .error (.wrongArity .app 2 1) :=
    ((hnode lacking).2 _).2 (.wrongArity (by decide) (by decide))
  have hfunction : Lambda.signature.FailsFirstAt function [1] (.wrongArity .app 2 1) := by
    refine (failsFirstAt_cons _).2 ⟨by decide, lacking, rfl, (failsFirstAt_nil _).2 hlacking, ?_⟩
    intro j hj k hk
    obtain rfl : j = 0 := Nat.lt_one_iff.1 hj
    cases hk
    decide
  refine ⟨(herror _).2 ⟨[0, 1], ?_⟩, .unknownRule (by decide)⟩
  refine (failsFirstAt_cons _).2 ⟨by decide, function, rfl, hfunction, ?_⟩
  intro j hj
  exact absurd hj (Nat.not_lt_zero j)

end Signature

end TreeEditor
