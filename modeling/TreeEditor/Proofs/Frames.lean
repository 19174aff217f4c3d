import TreeEditor.Frame
import TreeEditor.Grammar.Lambda

/-!
# The laws of one node

A node is opened by taking out a child and closed by plugging one in. The two are inverse to each
other (`Tree.split?_eq_some_iff`), so a node is opened at an index in one way only
(`Frame.eq_of_plug_eq`). A slide keeps the node and takes its gap to the next index on a side, hence
it is determined by the node (`Frame.slide?_eq_some_iff`): it does what closing the node and opening
it again next to the old gap does. None of this asks whether the node is well formed.
-/

namespace TreeEditor

variable {A : Alphabet}

namespace Side

/-- Index `j` is next to index `i` on a side. -/
def Adjacent : Side → Nat → Nat → Prop
  | left, i, j => i = j + 1
  | right, i, j => j = i + 1

theorem adjacent_flip {side : Side} {i j : Nat} :
    side.flip.Adjacent j i ↔ side.Adjacent i j := by
  cases side <;> exact Iff.rfl

theorem Adjacent.eq {side : Side} {i j k : Nat} (hj : side.Adjacent i j)
    (hk : side.Adjacent i k) : j = k := by
  cases side with
  | left => exact Nat.succ.inj (hj.symm.trans hk)
  | right => exact hj.trans hk.symm

end Side

/-! ## Opening and closing -/

namespace Tree

/-- A frame and a child are taken out of a node at an index iff plugging them together gives the
node, with the gap at that index. -/
theorem split?_eq_some_iff {t k : Tree A} {i : Nat} {f : Frame A} :
    t.split? i = some (f, k) ↔ f.plug k = t ∧ f.index = i := by
  unfold split?
  constructor
  · intro h
    obtain ⟨k', hk, heq⟩ := Option.map_eq_some_iff.1 h
    cases heq
    obtain ⟨hlt, hget⟩ := List.getElem?_eq_some_iff.1 hk
    refine ⟨?_, ?_⟩
    · unfold Frame.plug
      rw [List.reverse_reverse, ← hget, List.getElem_cons_drop, List.take_append_drop,
        node_label_kids]
    · unfold Frame.index
      rw [List.length_reverse, List.length_take]
      omega
  · rintro ⟨rfl, rfl⟩
    have hdrop : (f.left.reverse ++ k :: f.right).drop (f.left.length + 1) = f.right := by
      rw [List.append_cons]
      exact List.drop_left' (by simp)
    simp [Frame.index, hdrop]

theorem split?_eq_none_iff {t : Tree A} {i : Nat} : t.split? i = none ↔ t.arity ≤ i := by
  unfold split?
  rw [Option.map_eq_none_iff]
  exact List.getElem?_eq_none_iff

end Tree

namespace Frame

theorem split?_plug (f : Frame A) (t : Tree A) : (f.plug t).split? f.index = some (f, t) :=
  Tree.split?_eq_some_iff.2 ⟨rfl, rfl⟩

theorem eq_of_plug_eq {f g : Frame A} {t u : Tree A} (hplug : f.plug t = g.plug u)
    (hindex : f.index = g.index) : (f, t) = (g, u) := by
  have hopen := g.split?_plug u
  rw [← hplug, ← hindex, split?_plug] at hopen
  exact Option.some.inj hopen

/-- What is plugged into a gap is the first child of the node iff the gap comes first. -/
theorem split?_plug_zero (f : Frame A) (t : Tree A) :
    ∃ first, (f.plug t).split? 0 = some first ∧ (first = (f, t) ↔ f.index = 0) := by
  cases hsplit : (f.plug t).split? 0 with
  | none =>
    have hkids : (f.plug t).arity ≤ 0 := Tree.split?_eq_none_iff.1 hsplit
    rw [arity_plug] at hkids
    unfold arity at hkids
    omega
  | some first =>
    refine ⟨first, rfl, ?_, ?_⟩
    · rintro rfl
      exact (Tree.split?_eq_some_iff.1 hsplit).2
    · intro hindex
      have hgap := f.split?_plug t
      rw [hindex, hsplit] at hgap
      exact Option.some.inj hgap

/-! ## Sliding the gap -/

theorem slide?_eq_none_iff {f : Frame A} {t : Tree A} {side : Side} :
    f.slide? t side = none ↔ f.siblings side = [] := by
  cases side with
  | left => cases hleft : f.left <;> simp [slide?, siblings, hleft]
  | right => cases hright : f.right <;> simp [slide?, siblings, hright]

theorem plug_of_slide? {f g : Frame A} {t u : Tree A} {side : Side}
    (h : f.slide? t side = some (g, u)) :
    g.plug u = f.plug t ∧ side.Adjacent f.index g.index := by
  cases side with
  | left =>
    cases hleft : f.left with
    | nil => simp [slide?, hleft] at h
    | cons v rest =>
      simp only [slide?, hleft, Option.some.injEq, Prod.mk.injEq] at h
      obtain ⟨rfl, rfl⟩ := h
      simp [plug, index, hleft, Side.Adjacent]
  | right =>
    cases hright : f.right with
    | nil => simp [slide?, hright] at h
    | cons v rest =>
      simp only [slide?, hright, Option.some.injEq, Prod.mk.injEq] at h
      obtain ⟨rfl, rfl⟩ := h
      simp [plug, index, hright, Side.Adjacent]

/-- Where a node can be opened next to a gap, the gap has a neighbour on that side. -/
theorem siblings_ne_nil {f g : Frame A} {t u : Tree A} {side : Side}
    (hplug : g.plug u = f.plug t) (hadjacent : side.Adjacent f.index g.index) :
    f.siblings side ≠ [] := by
  have harity : g.arity = f.arity := by
    rw [← g.arity_plug u, hplug, f.arity_plug]
  intro hnil
  have hlength : (f.siblings side).length = 0 := by rw [hnil, List.length_nil]
  unfold arity at harity
  unfold Side.Adjacent index at hadjacent
  unfold siblings at hlength
  cases side <;> simp only at hadjacent hlength <;> omega

/-- A slide leads to the only way to open the same node next to the gap. -/
theorem slide?_eq_some_iff {f g : Frame A} {t u : Tree A} {side : Side} :
    f.slide? t side = some (g, u) ↔ g.plug u = f.plug t ∧ side.Adjacent f.index g.index := by
  constructor
  · exact plug_of_slide?
  · rintro ⟨hplug, hadjacent⟩
    cases hslide : f.slide? t side with
    | none => exact absurd (slide?_eq_none_iff.1 hslide) (siblings_ne_nil hplug hadjacent)
    | some next =>
      -- The slide opens the same node at the same index, so it cannot lead anywhere else.
      obtain ⟨g', u'⟩ := next
      obtain ⟨hplug', hadjacent'⟩ := plug_of_slide? hslide
      rw [eq_of_plug_eq (hplug'.trans hplug.symm) (hadjacent'.eq hadjacent)]

theorem slide?_flip {f f' : Frame A} {t t' : Tree A} {side : Side}
    (h : f.slide? t side = some (f', t')) : f'.slide? t' side.flip = some (f, t) := by
  obtain ⟨hplug, hadjacent⟩ := slide?_eq_some_iff.1 h
  exact slide?_eq_some_iff.2 ⟨hplug.symm, Side.adjacent_flip.2 hadjacent⟩

theorem slide?_right (f : Frame A) (t : Tree A) :
    f.slide? t .right = (f.plug t).split? (f.index + 1) := by
  refine Option.ext fun ⟨g, u⟩ => ?_
  rw [slide?_eq_some_iff, Tree.split?_eq_some_iff]
  exact Iff.rfl

theorem slide?_left (f : Frame A) (t : Tree A) :
    f.slide? t .left = if 0 < f.index then (f.plug t).split? (f.index - 1) else none := by
  by_cases hpos : 0 < f.index
  · rw [if_pos hpos]
    refine Option.ext fun ⟨g, u⟩ => ?_
    rw [slide?_eq_some_iff, Tree.split?_eq_some_iff]
    refine and_congr_right fun _ => ?_
    unfold Side.Adjacent
    simp only
    omega
  · rw [if_neg hpos, slide?_eq_none_iff]
    exact List.length_eq_zero_iff.1 (Nat.eq_zero_of_not_pos hpos)

/-- **Slides close and reopen a node.** A node is opened at an index iff it has a child there, and
closing it again gives it back; a frame that is plugged is opened again as it was. A slide does what
plugging the frame and opening the node next to the gap does, at the index before or after it. So it
keeps the node, and the slide to the other side takes it back. -/
theorem slides_close_and_reopen (A : Alphabet) :
    (∀ (t : Tree A) (i : Nat), (t.split? i = none ↔ t.arity ≤ i) ∧
      ∀ f k, t.split? i = some (f, k) → f.plug k = t ∧ f.index = i ∧ f.arity = t.arity) ∧
    ∀ (f : Frame A) (t : Tree A), (f.plug t).split? f.index = some (f, t) ∧
      f.slide? t .right = (f.plug t).split? (f.index + 1) ∧
      f.slide? t .left = (if 0 < f.index then (f.plug t).split? (f.index - 1) else none) ∧
      ∀ side g u, f.slide? t side = some (g, u) →
        g.plug u = f.plug t ∧ g.slide? u side.flip = some (f, t) := by
  refine ⟨?_, ?_⟩
  · intro t i
    refine ⟨Tree.split?_eq_none_iff, ?_⟩
    intro f k hsplit
    obtain ⟨hplug, hindex⟩ := Tree.split?_eq_some_iff.1 hsplit
    refine ⟨hplug, hindex, ?_⟩
    rw [← hplug, arity_plug]
  · intro f t
    refine ⟨f.split?_plug t, f.slide?_right t, f.slide?_left t, ?_⟩
    intro side g u hslide
    exact ⟨(plug_of_slide? hslide).1, slide?_flip hslide⟩

/-- An application with three children, one too many: it is opened in the middle, and the gap goes to
the end and back. -/
theorem slides_close_and_reopen_malformed :
    let label : Label Lambda.alphabet := ⟨.exp, .app, ""⟩
    let a := Lambda.var "a"
    let b := Lambda.var "b"
    let c := Lambda.var "c"
    let t : Tree Lambda.alphabet := .node label [a, b, c]
    let middle : Frame Lambda.alphabet := ⟨label, [a], [c]⟩
    let last : Frame Lambda.alphabet := ⟨label, [b, a], []⟩
    t.split? 1 = some (middle, b) ∧ middle.plug b = t ∧ middle.index = 1 ∧ middle.arity = 3 ∧
      middle.slide? b .right = some (last, c) ∧ last.plug c = t ∧
      last.slide? c .left = some (middle, b) ∧ last.slide? c .right = t.split? 3 := by
  intro label a b c t middle last
  obtain ⟨hopen, hslide⟩ := slides_close_and_reopen Lambda.alphabet
  obtain ⟨hclose, hindex, harity⟩ := (hopen t 1).2 middle b rfl
  obtain ⟨hsplit, -, -, hback⟩ := hslide middle b
  obtain ⟨hplug, hflip⟩ := hback .right last c rfl
  exact ⟨hsplit, hclose, hindex, harity, rfl, hplug, hflip, (hslide last c).2.1⟩

end Frame

end TreeEditor
