import TreeEditor.Grammar.Lambda
import TreeEditor.Proofs.Frames
import TreeEditor.Proofs.Validity

/-!
# Templates

The template of a node has a hole in each slot, and the template of a frame is made from the slots
as well, without the node around it. A frame made in this way is what is left of the node when a
slot is emptied (`Signature.templateFrame?_eq_some_iff`). So what is known about the node also holds
of its frames: if the rule is one of its category and the holes are valid, the node is valid
(`Signature.valid_template`), and each frame passes on its own and around a hole.
-/

namespace TreeEditor

variable {A : Alphabet}

namespace Signature

variable (S : Signature A)

/-! ## The node -/

theorem arity_template (l : Label A) : (S.template l).arity = (S.slots l.rule).length :=
  List.length_map ..

theorem valid_template {l : Label A} (hrule : l.rule ∈ S.rules l.cat)
    (hhole : ∀ cat ∈ S.slots l.rule, S.Valid (S.hole cat)) : S.Valid (S.template l) := by
  rw [valid_iff]
  constructor
  · unfold checkRoot
    rw [checkNode_eq_ok_iff]
    refine ⟨hrule, ?_, ?_⟩
    · simp [template]
    · intro i cat hcat
      have hslots : ((S.template l).kids.map fun k => some k.cat) = (S.slots l.rule).map some := by
        simp [template, hole, Tree.cat]
      rw [hslots, List.getElem?_map, Option.map_eq_some_iff] at hcat
      obtain ⟨cat', hslot, heq⟩ := hcat
      exact hslot.trans heq
  · intro k hk
    obtain ⟨cat, hcat, rfl⟩ := List.mem_map.1 hk
    exact hhole cat hcat

/-! ## Its frames -/

theorem templateFrame?_eq_none_iff {l : Label A} {i : Nat} :
    S.templateFrame? l i = none ↔ (S.slots l.rule).length ≤ i := by
  unfold templateFrame?
  simp

/-- The frame of a template is what is left when a slot is emptied. -/
theorem templateFrame?_eq_some_iff {l : Label A} {i : Nat} {cat : A.Cat} {f : Frame A}
    (hslot : (S.slots l.rule)[i]? = some cat) :
    S.templateFrame? l i = some f ↔ f.plug (S.hole cat) = S.template l ∧ f.index = i := by
  obtain ⟨hlt, rfl⟩ := List.getElem?_eq_some_iff.1 hslot
  rw [← Tree.split?_eq_some_iff]
  unfold templateFrame? template Tree.split?
  simp [hlt]

theorem exists_templateFrame? {l : Label A} {i : Nat} {cat : A.Cat}
    (hslot : (S.slots l.rule)[i]? = some cat) :
    ∃ f, S.templateFrame? l i = some f ∧ f.plug (S.hole cat) = S.template l ∧ f.index = i := by
  obtain ⟨f, hf⟩ : ∃ f, S.templateFrame? l i = some f :=
    ⟨_, if_pos (List.getElem?_eq_some_iff.1 hslot).1⟩
  exact ⟨f, hf, (S.templateFrame?_eq_some_iff hslot).1 hf⟩

theorem of_templateFrame? {l : Label A} {i : Nat} {f : Frame A}
    (h : S.templateFrame? l i = some f) :
    ∃ cat, (S.slots l.rule)[i]? = some cat ∧ f.plug (S.hole cat) = S.template l := by
  cases hslot : (S.slots l.rule)[i]? with
  | none =>
    rw [S.templateFrame?_eq_none_iff.2 (List.getElem?_eq_none_iff.1 hslot)] at h
    cases h
  | some cat => exact ⟨cat, rfl, ((S.templateFrame?_eq_some_iff hslot).1 h).1⟩

theorem gapCat?_of_plug_hole {l : Label A} {cat : A.Cat} {f : Frame A}
    (hplug : f.plug (S.hole cat) = S.template l) : S.gapCat? f = (S.slots l.rule)[f.index]? := by
  obtain rfl : f.label = l := congrArg Tree.label hplug
  rfl

/-- A frame that makes a valid template of a hole passes on its own, and its gap takes whatever is
of the category of the hole. -/
theorem checks_of_plug_hole {l : Label A} {cat : A.Cat} {f : Frame A}
    (hvalid : S.Valid (S.template l)) (hplug : f.plug (S.hole cat) = S.template l) :
    S.checkFrame f = .ok () ∧ S.checkGap f cat = .ok () := by
  rw [← hplug, valid_plug_frame] at hvalid
  exact hvalid.2

/-- **The templates of a node and of its frames agree.** Both exist at the same indices, those of
the slots. There the frame is what is left when the node is opened, a hole of the category of the
slot is what is taken out, and the gap of the frame asks for this category. If the rule is one of its
category and the holes of its slots pass, then the node passes and so do all of its frames. -/
theorem templates_agree (l : Label A) :
    (∀ i, (S.template l).split? i = none ↔ (S.slots l.rule).length ≤ i) ∧
    (∀ i, S.templateFrame? l i = none ↔ (S.slots l.rule).length ≤ i) ∧
    (∀ (i : Nat) (cat : A.Cat), (S.slots l.rule)[i]? = some cat →
      ∃ f, S.templateFrame? l i = some f ∧
        (S.template l).split? i = some (f, S.hole cat) ∧ S.gapCat? f = some cat) ∧
    (l.rule ∈ S.rules l.cat → (∀ cat ∈ S.slots l.rule, S.validate (S.hole cat) = .ok ()) →
      S.validate (S.template l) = .ok () ∧
        ∀ i f, S.templateFrame? l i = some f → S.checkFrame f = .ok ()) := by
  refine ⟨?_, fun i => S.templateFrame?_eq_none_iff, ?_, ?_⟩
  · intro i
    rw [Tree.split?_eq_none_iff, arity_template]
  · intro i cat hslot
    obtain ⟨f, hf, hplug, hindex⟩ := S.exists_templateFrame? hslot
    refine ⟨f, hf, Tree.split?_eq_some_iff.2 ⟨hplug, hindex⟩, ?_⟩
    rw [S.gapCat?_of_plug_hole hplug, hindex, hslot]
  · intro hrule hhole
    have hvalid : S.Valid (S.template l) :=
      S.valid_template hrule fun cat hcat => S.validate_eq_ok_iff.1 (hhole cat hcat)
    refine ⟨S.validate_eq_ok_iff.2 hvalid, ?_⟩
    intro i f hf
    obtain ⟨cat, -, hplug⟩ := S.of_templateFrame? hf
    exact (S.checks_of_plug_hole hvalid hplug).1

/-- A rule with four slots of mixed categories, emptied at the third: the holes left of the gap are
stored nearest first. -/
theorem templates_agree_mixed :
    let S : Signature Lambda.alphabet := { Lambda.signature with
      slots := fun rule => if rule = .lam then [.bind, .exp, .exp, .bind] else [] }
    let l : Label Lambda.alphabet := ⟨.exp, .lam, "x"⟩
    let f : Frame Lambda.alphabet := ⟨l, [S.hole .exp, S.hole .bind], [S.hole .bind]⟩
    S.templateFrame? l 2 = some f ∧ (S.template l).split? 2 = some (f, S.hole .exp) ∧
      S.gapCat? f = some .exp ∧ (S.template l).split? 4 = none ∧
      S.validate (S.template l) = .ok () ∧ S.checkFrame f = .ok () := by
  intro S l f
  obtain ⟨hopen, -, hslot, hchecks⟩ := S.templates_agree l
  obtain ⟨f', hframe, hsplit, hgap⟩ := hslot 2 .exp rfl
  obtain rfl : f = f' := Option.some.inj hframe
  obtain ⟨hnode, hframes⟩ := hchecks (by decide) (by
    intro cat _
    refine S.validate_eq_ok_iff.2 ?_
    cases cat <;> decide)
  exact ⟨hframe, hsplit, hgap, (hopen 4).2 (Nat.le_refl 4), hnode, hframes 2 f hframe⟩

end Signature

end TreeEditor
