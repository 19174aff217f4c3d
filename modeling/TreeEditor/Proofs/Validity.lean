import TreeEditor.Validity

/-!
# Validity of a document and of its pieces

A tree is `Valid` if each of its nodes passes the check of a node on its own. The worklist decides
this (`validate_eq_ok_iff`), and it can be read off the pieces into which a cut takes a document:
the subtree below the cut and the frames around it (`valid_plug`). So an edit need not look at the
whole document. In a valid document a subtree can be exchanged exactly for the valid trees of its
category (`valid_exchange`): each slot names one category, and so does the root if its category is
to stay.
-/

namespace TreeEditor

variable {A : Alphabet}

/-! ## Checks one after another -/

/-- A check and what comes after it succeed iff both do. -/
theorem seq_eq_ok_iff {ε α : Type} {x : Except ε Unit} {y : Except ε α} {a : α} :
    (do x; y) = .ok a ↔ x = .ok () ∧ y = .ok a := by
  cases x with
  | error e =>
    constructor
    · intro h
      cases h
    · rintro ⟨h, -⟩
      cases h
  | ok u =>
    constructor
    · intro h
      exact ⟨rfl, h⟩
    · rintro ⟨-, h⟩
      exact h

/-- They fail with what the first of them to fail does. -/
theorem seq_eq_error_iff {ε α : Type} {x : Except ε Unit} {y : Except ε α} {e : ε} :
    (do x; y) = .error e ↔ x = .error e ∨ x = .ok () ∧ y = .error e := by
  cases x with
  | error e' =>
    constructor
    · rintro ⟨⟩
      exact .inl rfl
    · rintro (⟨⟨⟩⟩ | ⟨⟨⟩, -⟩)
      rfl
  | ok u =>
    constructor
    · intro h
      exact .inr ⟨rfl, h⟩
    · rintro (⟨⟨⟩⟩ | ⟨-, h⟩)
      exact h

instance (check : Check A) : Decidable (check = .ok ()) :=
  match check with
  | .ok () => isTrue rfl
  | .error _ => isFalse nofun

/-- A check of each item of a list succeeds iff it succeeds on every item. -/
theorem Check.forM_eq_ok_iff {α : Type} {check : α → Check A} {items : List α} :
    items.forM check = .ok () ↔ ∀ x ∈ items, check x = .ok () := by
  induction items with
  | nil =>
    constructor
    · intro _ x hx
      cases hx
    · intro _
      rfl
  | cons x items ih =>
    rw [List.forall_mem_cons, ← ih]
    exact seq_eq_ok_iff

/-- It fails with the fault of the first item that fails. -/
theorem Check.forM_eq_error_iff {α : Type} {check : α → Check A} {items : List α}
    {fault : Fault A} :
    items.forM check = .error fault ↔ ∃ before x after, items = before ++ x :: after ∧
      (∀ y ∈ before, check y = .ok ()) ∧ check x = .error fault := by
  induction items with
  | nil =>
    constructor
    · intro h
      cases h
    · rintro ⟨before, x, after, hitems, -⟩
      simp at hitems
  | cons x items ih =>
    have hseq : (x :: items).forM check = .error fault ↔
        check x = .error fault ∨ check x = .ok () ∧ items.forM check = .error fault :=
      seq_eq_error_iff
    rw [hseq, ih]
    constructor
    · rintro (hx | ⟨hx, before, y, after, rfl, hbefore, hy⟩)
      · exact ⟨[], x, items, rfl, by simp, hx⟩
      · exact ⟨x :: before, y, after, rfl, List.forall_mem_cons.2 ⟨hx, hbefore⟩, hy⟩
    · rintro ⟨before, y, after, hitems, hbefore, hy⟩
      cases before with
      | nil =>
        cases hitems
        exact .inl hy
      | cons z before =>
        cases hitems
        rw [List.forall_mem_cons] at hbefore
        exact .inr ⟨hbefore.1, before, y, after, rfl, hbefore.2, hy⟩

theorem Tree.mem_subtreesAll {u : Tree A} {ts : List (Tree A)} :
    u ∈ subtreesAll ts ↔ ∃ t ∈ ts, u ∈ t.subtrees := by
  induction ts with
  | nil => simp [subtreesAll]
  | cons t ts ih => simp [subtreesAll, ih]

namespace Signature

variable (S : Signature A)

/-! ## One node -/

/-- The contents of the slots from some index on are those that belong there. -/
theorem checkSlots_eq_ok_iff {rule : A.Rule} {index : Nat} {slots : List A.Cat}
    {contents : List (Option A.Cat)} (hlen : slots.length = contents.length) :
    checkSlots rule index slots contents = .ok () ↔
      ∀ (i : Nat) (c : A.Cat), contents[i]? = some (some c) → slots[i]? = some c := by
  induction slots generalizing index contents with
  | nil =>
    obtain rfl : contents = [] := List.length_eq_zero_iff.1 hlen.symm
    simp [checkSlots]
  | cons expected slots ih =>
    cases contents with
    | nil => cases hlen
    | cons content contents =>
      have hrest : slots.length = contents.length := Nat.succ.inj hlen
      -- The first slot speaks of index 0, the rest of the successors.
      have hsplit : (∀ (i : Nat) (c : A.Cat), (content :: contents)[i]? = some (some c) →
            (expected :: slots)[i]? = some c) ↔
          (∀ c, content = some c → expected = c) ∧
            ∀ (i : Nat) (c : A.Cat), contents[i]? = some (some c) → slots[i]? = some c := by
        constructor
        · intro h
          refine ⟨fun c hc => ?_, fun i c hc => ?_⟩
          · exact Option.some.inj (h 0 c (by rw [hc]; rfl))
          · exact h (i + 1) c hc
        · rintro ⟨hhead, htail⟩ i c hc
          cases i with
          | zero => exact congrArg some (hhead c (Option.some.inj hc))
          | succ i => exact htail i c hc
      rw [hsplit]
      cases content with
      | none => simp [checkSlots, ih hrest]
      | some found =>
        unfold checkSlots
        by_cases hfound : found = expected
        · simp [hfound, ih hrest]
        · rw [if_neg hfound]
          constructor
          · intro h
            cases h
          · rintro ⟨hhead, -⟩
            exact absurd (hhead found rfl).symm hfound

/-- A node passes iff its rule is one of its category, it has a child for each slot, and each child
is of the category of its slot. -/
theorem checkNode_eq_ok_iff {l : Label A} {contents : List (Option A.Cat)} :
    S.checkNode l contents = .ok () ↔
      l.rule ∈ S.rules l.cat ∧ (S.slots l.rule).length = contents.length ∧
        ∀ (i : Nat) (c : A.Cat), contents[i]? = some (some c) →
          (S.slots l.rule)[i]? = some c := by
  unfold checkNode
  by_cases hrule : l.rule ∈ S.rules l.cat
  · by_cases hlen : (S.slots l.rule).length = contents.length
    · simp [hrule, hlen, checkSlots_eq_ok_iff hlen]
    · simp [hrule, hlen]
  · simp [hrule]

/-! ## Whole trees -/

/-- Every node of the tree passes the check of a node. -/
def Valid (t : Tree A) : Prop := ∀ u ∈ t.subtrees, S.checkRoot u = .ok ()

instance (t : Tree A) : Decidable (S.Valid t) :=
  inferInstanceAs (Decidable (∀ u ∈ t.subtrees, S.checkRoot u = .ok ()))

/-- A tree is valid iff its root passes and its children are valid. -/
theorem valid_iff {t : Tree A} :
    S.Valid t ↔ S.checkRoot t = .ok () ∧ ∀ k ∈ t.kids, S.Valid k := by
  cases t with
  | node l kids =>
    unfold Valid
    rw [Tree.subtrees, List.forall_mem_cons]
    refine and_congr_right fun _ => ?_
    constructor
    · intro h k hk u hu
      exact h u (Tree.mem_subtreesAll.2 ⟨k, hk, hu⟩)
    · intro h u hu
      obtain ⟨k, hk, hu⟩ := Tree.mem_subtreesAll.1 hu
      exact h k hk u hu

/-- The worklist succeeds iff all pending trees are valid. -/
theorem validateAll_eq_ok_iff {pending : List (Tree A)} :
    S.validateAll pending = .ok () ↔ ∀ t ∈ pending, S.Valid t := by
  fun_induction validateAll S pending with
  | case1 => simp
  | case2 t pending ih =>
    rw [seq_eq_ok_iff, ih, List.forall_mem_cons, S.valid_iff, List.forall_mem_append,
      and_assoc]

/-- Validation succeeds iff the tree is valid. -/
theorem validate_eq_ok_iff {t : Tree A} : S.validate t = .ok () ↔ S.Valid t := by
  unfold validate
  rw [validateAll_eq_ok_iff, List.forall_mem_singleton]

end Signature

/-! ## Frames -/

namespace Frame

/-- Plugging a tree fills the gap in the contents and changes nothing beside it. -/
theorem contents_plug (f : Frame A) (t : Tree A) :
    ((f.plug t).kids.map fun k => some k.cat) = f.contents.set f.index (some t.cat) := by
  simp [contents, index]

theorem getElem?_contents_index (f : Frame A) : f.contents[f.index]? = some none := by
  simp [contents, index]

end Frame

namespace Signature

variable (S : Signature A)

theorem checkFrame_eq_ok_iff {f : Frame A} :
    S.checkFrame f = .ok () ↔
      f.index < (S.slots f.rule).length ∧ S.checkNode f.label f.contents = .ok () ∧
        ∀ k ∈ f.left ++ f.right, S.Valid k := by
  unfold checkFrame
  by_cases hindex : (S.slots f.rule).length ≤ f.index
  · have hnot : ¬f.index < (S.slots f.rule).length := Nat.not_lt.2 hindex
    simp only [hindex, hnot, ↓reduceIte, false_and, iff_false]
    intro h
    cases h
  · have hlt : f.index < (S.slots f.rule).length := Nat.not_le.1 hindex
    simp only [hindex, hlt, ↓reduceIte, true_and]
    rw [← S.validateAll_eq_ok_iff, ← seq_eq_ok_iff]

/-- A tree belongs into a gap iff it has the category of the slot. -/
theorem checkGap_eq_ok_iff {f : Frame A} {below : A.Cat}
    (hindex : f.index < (S.slots f.rule).length) :
    S.checkGap f below = .ok () ↔ S.gapCat? f = some below := by
  obtain ⟨expected, hgap⟩ : ∃ expected, S.gapCat? f = some expected :=
    ⟨_, List.getElem?_eq_getElem hindex⟩
  unfold checkGap
  rw [hgap]
  by_cases hcat : expected = below
  · simp [hcat]
  · simp [hcat]

/-- A node with its gap filled passes iff it does with the gap and the gap takes the filling. -/
theorem checkRoot_plug {f : Frame A} {t : Tree A} :
    S.checkRoot (f.plug t) = .ok () ↔
      S.checkNode f.label f.contents = .ok () ∧ S.gapCat? f = some t.cat := by
  unfold checkRoot
  rw [f.contents_plug, f.label_plug, checkNode_eq_ok_iff, checkNode_eq_ok_iff, List.length_set]
  have hlt : f.index < f.contents.length := (List.getElem?_eq_some_iff.1 f.getElem?_contents_index).1
  constructor
  · rintro ⟨hrule, hlen, hslots⟩
    refine ⟨⟨hrule, hlen, fun i c hc => hslots i c ?_⟩, ?_⟩
    · have hne : f.index ≠ i := by
        rintro rfl
        rw [f.getElem?_contents_index] at hc
        cases hc
      rw [List.getElem?_set_ne hne]
      exact hc
    · exact hslots f.index t.cat (List.getElem?_set_self hlt)
  · rintro ⟨⟨hrule, hlen, hslots⟩, hgap⟩
    refine ⟨hrule, hlen, fun i c hc => ?_⟩
    by_cases hi : f.index = i
    · subst hi
      rw [List.getElem?_set_self hlt] at hc
      obtain rfl : t.cat = c := Option.some.inj (Option.some.inj hc)
      exact hgap
    · rw [List.getElem?_set_ne hi] at hc
      exact hslots i c hc

/-- A plugged frame is valid iff its filling is, and the frame passes around it. -/
theorem valid_plug_frame {f : Frame A} {t : Tree A} :
    S.Valid (f.plug t) ↔
      S.Valid t ∧ S.checkFrame f = .ok () ∧ S.checkGap f t.cat = .ok () := by
  have hkids : (∀ k ∈ (f.plug t).kids, S.Valid k) ↔
      S.Valid t ∧ ∀ k ∈ f.left ++ f.right, S.Valid k := by
    simp only [Frame.kids_plug, List.mem_append, List.mem_reverse, List.mem_cons]
    constructor
    · intro h
      exact ⟨h t (.inr (.inl rfl)), fun k hk => h k (hk.imp_right .inr)⟩
    · rintro ⟨ht, h⟩ k (hk | rfl | hk)
      · exact h k (.inl hk)
      · exact ht
      · exact h k (.inr hk)
  rw [S.valid_iff, hkids, checkRoot_plug, checkFrame_eq_ok_iff]
  constructor
  · rintro ⟨⟨hnode, hgap⟩, ht, hbeside⟩
    have hindex : f.index < (S.slots f.rule).length := (List.getElem?_eq_some_iff.1 hgap).1
    exact ⟨ht, ⟨hindex, hnode, hbeside⟩, (S.checkGap_eq_ok_iff hindex).2 hgap⟩
  · rintro ⟨ht, ⟨hindex, hnode, hbeside⟩, hgap⟩
    exact ⟨⟨hnode, (S.checkGap_eq_ok_iff hindex).1 hgap⟩, ht, hbeside⟩

end Signature

/-! ## Contexts -/

namespace Context

/-- The category of a plugged context is that of its outermost frame, if it has one. -/
theorem cat_plug (c : Context A) (t : Tree A) : (c.plug t).cat = c.outerCat?.getD t.cat := by
  unfold plug outerCat? outermost?
  rcases List.eq_nil_or_concat c.frames with hnil | ⟨inner, f, hconcat⟩
  · rw [hnil]
    rfl
  · rw [hconcat]
    simp

end Context

namespace Signature

variable (S : Signature A)

theorem checkAround_push_eq (c : Context A) (f : Frame A) (below : A.Cat) :
    S.checkAround (c.push f) below =
      (do S.checkFrame f; S.checkGap f below; S.checkAround c f.cat) := rfl

theorem checkAround_push {c : Context A} {f : Frame A} {below : A.Cat} :
    S.checkAround (c.push f) below = .ok () ↔
      (S.checkFrame f = .ok () ∧ S.checkGap f below = .ok ()) ∧ S.checkAround c f.cat = .ok () := by
  rw [checkAround_push_eq, seq_eq_ok_iff, seq_eq_ok_iff, and_assoc]

/-- **Validity is local.** A document is valid iff the subtree at a position is, and the frames
around it pass from the inside out. -/
theorem valid_plug {c : Context A} {t : Tree A} :
    S.Valid (c.plug t) ↔ S.Valid t ∧ S.checkAround c t.cat = .ok () := by
  induction c generalizing t with
  | empty =>
    rw [Context.plug_empty]
    exact ⟨fun h => ⟨h, rfl⟩, fun h => h.1⟩
  | push c f ih =>
    rw [Context.plug_push, ih, valid_plug_frame, checkAround_push, Frame.cat_plug, and_assoc]

theorem checkEach_append {c d : Context A} :
    S.checkEach (c ++ d) = .ok () ↔ S.checkEach c = .ok () ∧ S.checkEach d = .ok () := by
  unfold checkEach
  rw [Context.frames_append, Check.forM_eq_ok_iff, Check.forM_eq_ok_iff, Check.forM_eq_ok_iff,
    List.forall_mem_append]

/-- The frames of a context that passes around something pass on their own. -/
theorem checkEach_of_checkAround {c : Context A} {below : A.Cat}
    (h : S.checkAround c below = .ok ()) : S.checkEach c = .ok () := by
  unfold checkEach
  rw [Check.forM_eq_ok_iff]
  induction c generalizing below with
  | empty =>
    intro f hf
    cases hf
  | push c g ih =>
    obtain ⟨⟨hg, -⟩, hc⟩ := S.checkAround_push.1 h
    rw [Context.frames_push, List.forall_mem_cons]
    exact ⟨hg, ih hc⟩

/-- **Exchange.** In a valid document the subtree at a position can be exchanged, with the category
of the root kept, exactly for the valid trees of the same category. -/
theorem valid_exchange {c : Context A} {t u : Tree A} (h : S.Valid (c.plug t)) :
    S.Valid (c.plug u) ∧ (c.plug u).cat = (c.plug t).cat ↔ S.Valid u ∧ u.cat = t.cat := by
  cases c with
  | empty =>
    rw [Context.plug_empty, Context.plug_empty]
  | push c f =>
    -- Below a frame the category of the root cannot change, and the slot names the other one.
    have hcat : ((c.push f).plug u).cat = ((c.push f).plug t).cat := by
      rw [Context.plug_push, Context.plug_push, Context.cat_plug, Context.cat_plug, Frame.cat_plug,
        Frame.cat_plug]
    obtain ⟨-, haround⟩ := S.valid_plug.1 h
    obtain ⟨⟨hframe, hgap⟩, hc⟩ := S.checkAround_push.1 haround
    have hindex := (S.checkFrame_eq_ok_iff.1 hframe).1
    have hslot : S.gapCat? f = some t.cat := (S.checkGap_eq_ok_iff hindex).1 hgap
    rw [valid_plug, checkAround_push, S.checkGap_eq_ok_iff hindex, hslot]
    constructor
    · rintro ⟨⟨hu, ⟨-, heq⟩, -⟩, -⟩
      exact ⟨hu, (Option.some.inj heq).symm⟩
    · rintro ⟨hu, heq⟩
      exact ⟨⟨hu, ⟨hframe, congrArg some heq.symm⟩, hc⟩, hcat⟩

end Signature

end TreeEditor
