import TreeEditor.Grammar.Lambda
import TreeEditor.Proofs.ReadingOrder

/-!
# Steps that are taken back

Moving on descends along first children, and moving back along last children. Where every position
is admitted both end at leaves, and the one undoes the other (`TreeEditor.Proofs.ReadingOrder`).
Where some are hidden, a node can be open to a descent on one side and closed on the other, and the
way back need not come to the stop that the way out started from.

It depends on the positions that the step passes over: the stop itself, the nodes above it that the
search leaves, and the siblings that it slides over (`Side.Between`). `Cursor.retreat?` is what the
way back finds once it comes to one of them. The stops from the root lie below nodes that are open
on the left (`Cursor.Exposed`). So with each position passed over the answer stays the same if that
position is balanced, that is open on both sides or on neither, and is lost otherwise; the step is
taken back iff all of them are balanced.
-/

namespace TreeEditor

variable {A : Alphabet}

/-! ## Paths between a position and a later one -/

namespace Side

variable {side : Side}

/-- The position `x` is `p`, a node above it, or a sibling of one of these on the given side. -/
def Beside (side : Side) (p x : List Nat) : Prop :=
  ∃ u i v j, p = u ++ i :: v ∧ x = u ++ [j] ∧ ¬side.Past j i

/-- The position `x` is beside `p`, and `q` is still beyond it. -/
def Between (side : Side) (p q x : List Nat) : Prop := side.Beside p x ∧ side.Beyond x q

theorem beside_concat_right {p u : List Nat} {j : Nat} :
    side.Beside p (u ++ [j]) ↔ ∃ i v, p = u ++ i :: v ∧ ¬side.Past j i := by
  constructor
  · rintro ⟨u', i, v, j', hp, hx, hpast⟩
    obtain ⟨rfl, hj⟩ := List.append_inj' hx rfl
    cases hj
    exact ⟨i, v, hp, hpast⟩
  · rintro ⟨i, v, hp, hpast⟩
    exact ⟨u, i, v, j, hp, rfl, hpast⟩

theorem beside_concat_left {u x : List Nat} {i : Nat} :
    side.Beside (u ++ [i]) x ↔ (∃ j, x = u ++ [j] ∧ ¬side.Past j i) ∨ side.Beside u x := by
  constructor
  · rintro ⟨u', i', v, j, hp, hx, hpast⟩
    rcases List.eq_nil_or_concat v with rfl | ⟨w, k, rfl⟩
    · obtain ⟨rfl, hi⟩ := List.append_inj' hp rfl
      cases hi
      exact .inl ⟨j, hx, hpast⟩
    · rw [List.concat_eq_append, ← List.cons_append, ← List.append_assoc] at hp
      obtain ⟨hu, -⟩ := List.append_inj' hp rfl
      exact .inr ⟨u', i', w, j, hu, hx, hpast⟩
  · rintro (⟨j, hx, hpast⟩ | ⟨u', i', v, j, rfl, hx, hpast⟩)
    · exact ⟨u, i, [], j, rfl, hx, hpast⟩
    · refine ⟨u', i', v ++ [i], j, ?_, hx, hpast⟩
      rw [List.append_assoc, List.cons_append]

namespace Beside

/-- A position that something is beyond is beside all that is below it. -/
theorem of_beyond {p q : List Nat} (h : side.Beyond p q) (x : List Nat) :
    side.Beside (p ++ x) p := by
  rcases List.eq_nil_or_concat p with rfl | ⟨u, i, rfl⟩
  · cases h
  · rw [List.concat_eq_append, List.append_assoc, List.singleton_append]
    exact ⟨u, i, x, i, rfl, rfl, past_irrefl i⟩

theorem slide {p u : List Nat} {i j : Nat} (h : side.Beside p (u ++ [i]))
    (hadjacent : side.Adjacent i j) : side.Beside p (u ++ [j]) := by
  obtain ⟨k, v, hp, hpast⟩ := beside_concat_right.1 h
  refine beside_concat_right.2 ⟨k, v, hp, ?_⟩
  cases side <;> simp only [Past, Adjacent] at hpast hadjacent ⊢ <;> omega

/-- Nothing below a position is beyond what is beside it. -/
theorem not_beyond {p x : List Nat} (h : side.Beside p x) (y : List Nat) :
    ¬side.Beyond x (p ++ y) := by
  obtain ⟨u, i, v, j, rfl, rfl, hpast⟩ := h
  rw [List.append_assoc, List.cons_append, Beyond.append_iff]
  rintro (hji | ⟨-, hnil⟩)
  · exact hpast hji
  · exact hnil

end Beside

theorem Between.self {p q : List Nat} (h : side.Beyond p q) : side.Between p q p := by
  have hbeside : side.Beside (p ++ []) p := .of_beyond h []
  rw [List.append_nil] at hbeside
  exact ⟨hbeside, h⟩

/-! The three ways in which the search goes on from a position. -/

theorem between_landing {u q x : List Nat} {i j : Nat} (hadjacent : side.Adjacent i j) :
    side.Between (u ++ [i]) (u ++ j :: q) x → x = u ++ [i] := by
  rintro ⟨hbeside, hbeyond⟩
  rcases beside_concat_left.1 hbeside with ⟨k, rfl, hki⟩ | hbeside
  · rw [Beyond.append_iff] at hbeyond
    rcases hbeyond with hkj | ⟨-, hnil⟩
    · have hk : k = i := by
        cases side <;> simp only [Past, Adjacent] at hki hkj hadjacent <;> omega
      rw [hk]
    · exact hnil.elim
  · exact absurd hbeyond (hbeside.not_beyond _)

theorem between_slide {u q x : List Nat} {i j : Nat} (hadjacent : side.Adjacent i j)
    (hbeyond : side.Beyond (u ++ [i]) q) :
    side.Between (u ++ [i]) q x ↔ x = u ++ [i] ∨ side.Between (u ++ [j]) q x := by
  have hindex : ∀ k, ¬side.Past k i ↔ k = i ∨ ¬side.Past k j := by
    intro k
    cases side <;> simp only [Past, Adjacent] at hadjacent ⊢ <;> omega
  unfold Between
  rw [beside_concat_left, beside_concat_left]
  constructor
  · rintro ⟨⟨k, hx, hk⟩ | hu, hq⟩
    · rcases (hindex k).1 hk with rfl | hk
      · exact .inl hx
      · exact .inr ⟨.inl ⟨k, hx, hk⟩, hq⟩
    · exact .inr ⟨.inr hu, hq⟩
  · rintro (rfl | ⟨⟨k, hx, hk⟩ | hu, hq⟩)
    · exact ⟨.inl ⟨i, rfl, past_irrefl i⟩, hbeyond⟩
    · exact ⟨.inl ⟨k, hx, (hindex k).2 (.inr hk)⟩, hq⟩
    · exact ⟨.inr hu, hq⟩

theorem between_up {u q x : List Nat} {i : Nat} (hbeyond : side.Beyond (u ++ [i]) q)
    (hlast : ∀ j, x = u ++ [j] → ¬side.Past i j) :
    side.Between (u ++ [i]) q x ↔ x = u ++ [i] ∨ side.Between u q x := by
  unfold Between
  rw [beside_concat_left]
  constructor
  · rintro ⟨⟨j, rfl, hji⟩ | hu, hq⟩
    · have hij := hlast j rfl
      have hj : j = i := by
        cases side <;> simp only [Past] at hji hij <;> omega
      exact .inl (by rw [hj])
    · exact .inr ⟨hu, hq⟩
  · rintro (rfl | ⟨hu, hq⟩)
    · exact ⟨.inl ⟨i, rfl, past_irrefl i⟩, hbeyond⟩
    · exact ⟨.inr hu, hq⟩

end Side

namespace Cursor

variable {admits : Cursor A → Bool} {side : Side}

/-! ## Open edges -/

/-- Whether a descent along a side leaves the position. -/
def opens (admits : Cursor A → Bool) (side : Side) (c : Cursor A) : Bool :=
  (c.edge? side).any admits

/-- The position is open on both sides or on neither. -/
def Balanced (admits : Cursor A → Bool) (c : Cursor A) : Prop :=
  c.opens admits .left = c.opens admits .right

instance (c : Cursor A) : Decidable (c.Balanced admits) :=
  inferInstanceAs (Decidable (c.opens admits .left = c.opens admits .right))

theorem opens_iff {c : Cursor A} :
    c.opens admits side = true ↔ ∃ d, c.edge? side = some d ∧ admits d = true :=
  Option.any_eq_true ..

theorem balanced_iff (side : Side) {c : Cursor A} :
    c.Balanced admits ↔ c.opens admits side.flip = c.opens admits side := by
  cases side with
  | left => exact eq_comm
  | right => exact Iff.rfl

theorem descend_of_closed {c : Cursor A} (h : c.opens admits side = false) :
    c.descend admits side = c := by
  rw [descend]
  split
  · next d hedge =>
    by_cases hadmits : admits d = true
    · rw [opens_iff.2 ⟨d, hedge, hadmits⟩] at h
      cases h
    · rw [if_neg hadmits]
  · rfl

theorem descend_of_edge? {c d : Cursor A} (hedge : c.edge? side = some d)
    (hadmits : admits d = true) : c.descend admits side = d.descend admits side := by
  rw [descend]
  split
  · next d' hedge' =>
    obtain rfl : d = d' := Option.some.inj (hedge.symm.trans hedge')
    rw [if_pos hadmits]
  · next hnone =>
    rw [hedge] at hnone
    cases hnone

theorem admits_descend (admits : Cursor A → Bool) (side : Side) (c : Cursor A) :
    admits (c.descend admits side) = (admits c || c.opens admits side) := by
  fun_induction descend admits side c with
  | case1 c d hedge hadmits ih => simp [opens, hedge, hadmits, ih]
  | case2 c d hedge hadmits => simp [opens, hedge, hadmits]
  | case3 c hedge => simp [opens, hedge]

theorem opens_descend (admits : Cursor A → Bool) (side : Side) (c : Cursor A) :
    (c.descend admits side).opens admits side = false := by
  fun_induction descend admits side c with
  | case1 c d hedge hadmits ih => exact ih
  | case2 c d hedge hadmits => simpa [opens, hedge] using hadmits
  | case3 c hedge => simp [opens, hedge]

theorem path_descend_of_opens {c : Cursor A} (h : c.opens admits side = true) :
    ∃ i q, (c.descend admits side).path = c.path ++ i :: q := by
  obtain ⟨d, hedge, hadmits⟩ := opens_iff.1 h
  obtain ⟨-, i, hd⟩ := of_edge? hedge
  obtain ⟨-, q, hdescend⟩ := d.descend_spec admits side
  refine ⟨i, q, ?_⟩
  rw [descend_of_edge? hedge hadmits, hdescend, hd, List.append_assoc, List.singleton_append]

/-! ## Where the stops are -/

/-- Every node above the position is open on a side. -/
inductive Exposed (admits : Cursor A → Bool) (side : Side) : Cursor A → Prop
  | root (t : Tree A) : Exposed admits side (root t)
  | down {p c : Cursor A} {i : Nat} (hp : Exposed admits side p)
      (hopen : p.opens admits side = true) (h : p.down? i = some c) : Exposed admits side c

/-- The way to the position is open on a side, and a descent along that side ends there. -/
structure Landed (admits : Cursor A → Bool) (side : Side) (c : Cursor A) : Prop where
  exposed : c.Exposed admits side
  admitted : admits c = true
  closed : c.opens admits side = false

namespace Exposed

theorem up {c p : Cursor A} (hc : c.Exposed admits side) (hup : c.up? = some p) :
    p.Exposed admits side ∧ p.opens admits side = true := by
  cases hc with
  | root t => cases hup
  | down hp hopen h =>
    rw [up?_of_down? h] at hup
    cases hup
    exact ⟨hp, hopen⟩

theorem slide {c d : Cursor A} {side' : Side} (hc : c.Exposed admits side)
    (h : c.slide? side' = some d) : d.Exposed admits side := by
  obtain ⟨p, hup, hup'⟩ := up?_of_slide? h
  obtain ⟨hp, hopen⟩ := hc.up hup
  obtain ⟨i, hdown⟩ := down?_of_up? hup'
  exact hp.down hopen hdown

theorem descend {c : Cursor A} (hc : c.Exposed admits side) :
    (c.descend admits side).Exposed admits side := by
  fun_induction Cursor.descend admits side c with
  | case1 c d hedge hadmits ih =>
    obtain ⟨i, hdown⟩ := down?_of_up? (up?_of_edge? hedge)
    exact ih (hc.down (opens_iff.2 ⟨d, hedge, hadmits⟩) hdown)
  | case2 c d hedge hadmits => exact hc
  | case3 c hedge => exact hc

theorem landed {c : Cursor A} (hc : c.Exposed admits side)
    (hadmits : admits (c.descend admits side) = true) :
    (c.descend admits side).Landed admits side :=
  ⟨hc.descend, hadmits, opens_descend admits side c⟩

end Exposed

theorem landed_of_advance? {c d : Cursor A} (hc : c.Exposed admits side.flip)
    (h : c.advance? admits side = some d) : d.Landed admits side.flip := by
  fun_induction advance? admits side c with
  | case1 c e hslide landing hadmits =>
    obtain rfl : landing = d := Option.some.inj h
    exact (hc.slide hslide).landed hadmits
  | case2 c e hslide landing hadmits ih => exact ih (hc.slide hslide) h
  | case3 c hslide e hup ih => exact ih (hc.up hup).1 h
  | case4 c hslide hup => cases h

theorem landed_of_next? {c d : Cursor A} (hc : c.Exposed admits .left)
    (h : c.next? admits = some d) : d.Landed admits .left := by
  rcases of_next? h with ⟨rfl, hne⟩ | hadvance
  · exact hc.landed ((c.descend_eq_or_admits admits .left).resolve_left hne)
  · exact landed_of_advance? hc hadvance

theorem Landed.next?_eq {c : Cursor A} (hc : c.Landed admits .left) :
    c.next? admits = c.advance? admits .right := by
  unfold next?
  rw [descend_of_closed hc.closed]
  exact if_neg (Nat.lt_irrefl _)

/-! ## The way back -/

theorem advance?_of_slide? {c d : Cursor A} (h : c.slide? side = some d) :
    c.advance? admits side =
      if admits (d.descend admits side.flip) then some (d.descend admits side.flip)
      else d.advance? admits side := by
  rw [advance?]
  split
  · next d' hslide =>
    obtain rfl : d = d' := Option.some.inj (h.symm.trans hslide)
    rfl
  · next hnone =>
    rw [h] at hnone
    cases hnone

theorem advance?_of_up? {c p : Cursor A} (hslide : c.slide? side = none) (hup : c.up? = some p) :
    c.advance? admits side = p.advance? admits side := by
  rw [advance?]
  split
  · next d hsome =>
    rw [hslide] at hsome
    cases hsome
  · split
    · next p' hup' =>
      obtain rfl : p = p' := Option.some.inj (hup.symm.trans hup')
      rfl
    · next hnone =>
      rw [hup] at hnone
      cases hnone

theorem advance?_of_root {c : Cursor A} (hslide : c.slide? side = none) (hup : c.up? = none) :
    c.advance? admits side = none := by
  rw [advance?]
  split
  · next d hsome =>
    rw [hslide] at hsome
    cases hsome
  · split
    · next p hsome =>
      rw [hup] at hsome
      cases hsome
    · rfl

/-- A descent along a side passes nothing on that side. -/
theorem advance?_descend (side : Side) (c : Cursor A) :
    (c.descend admits side).advance? admits side = c.advance? admits side := by
  fun_induction descend admits side c with
  | case1 c d hedge hadmits ih =>
    have hup : d.up? = some c := up?_of_edge? hedge
    rw [ih, advance?_of_up? ((edge?_eq_some_iff hup).1 hedge) hup]
  | case2 c d hedge hadmits => rfl
  | case3 c hedge => rfl

/-- What the search for the other side finds once it has come to a position from beyond. -/
def retreat? (admits : Cursor A → Bool) (side : Side) (c : Cursor A) : Option (Cursor A) :=
  if admits (c.descend admits side) then some (c.descend admits side)
  else c.advance? admits side.flip

theorem advance?_flip_of_slide? {c d : Cursor A} (h : c.slide? side = some d) :
    d.advance? admits side.flip = c.retreat? admits side := by
  rw [advance?_of_slide? (slide?_flip h), Side.flip_flip]
  rfl

theorem retreat?_of_opens {c : Cursor A} (h : c.opens admits side = true) :
    c.retreat? admits side = some (c.descend admits side) := by
  unfold retreat?
  rw [admits_descend admits, h, Bool.or_true, if_pos rfl]

theorem retreat?_of_closed {c : Cursor A} (h : c.opens admits side = false) :
    c.retreat? admits side = if admits c then some c else c.advance? admits side.flip := by
  unfold retreat?
  rw [descend_of_closed h]

theorem Landed.retreat?_eq_some_self_iff {c : Cursor A} (hc : c.Landed admits side.flip) :
    c.retreat? admits side = some c ↔ c.Balanced admits := by
  rw [balanced_iff side, hc.closed]
  cases hopen : c.opens admits side with
  | false =>
    rw [retreat?_of_closed hopen, if_pos hc.admitted]
    exact iff_of_true rfl rfl
  | true =>
    rw [retreat?_of_opens hopen]
    refine iff_of_false (fun heq => ?_) Bool.false_ne_true
    obtain ⟨i, q, hpath⟩ := path_descend_of_opens hopen
    rw [Option.some.inj heq] at hpath
    exact absurd hpath (by simp)

/-- From a sibling that is passed over on the way out, the way back goes on iff it is balanced. -/
theorem retreat?_of_slide? {b c e : Cursor A} (hslide : b.slide? side = some e)
    (hrejected : admits (e.descend admits side.flip) = false)
    (hbeside : side.Beside c.path b.path) :
    e.retreat? admits side = some c ↔ e.Balanced admits ∧ b.retreat? admits side = some c := by
  rw [admits_descend admits, Bool.or_eq_false_iff] at hrejected
  obtain ⟨hhidden, hclosed⟩ := hrejected
  rw [balanced_iff side, hclosed]
  cases hopen : e.opens admits side with
  | false =>
    rw [retreat?_of_closed hopen, hhidden, advance?_flip_of_slide? hslide]
    simp
  | true =>
    -- The way back ends below the sibling, and `c` is not there.
    refine iff_of_false (fun heq => ?_) (fun h => by cases h.1)
    rw [retreat?_of_opens hopen] at heq
    obtain ⟨-, u, i, j, hb, he, hadjacent⟩ := of_slide? hslide
    rw [hb] at hbeside
    obtain ⟨i', v, hc, hpast⟩ := Side.beside_concat_right.1 hbeside
    obtain ⟨k, q, hbelow⟩ := path_descend_of_opens hopen
    rw [Option.some.inj heq, hc, he, List.append_assoc] at hbelow
    obtain ⟨rfl, -⟩ := List.cons.inj (List.append_cancel_left hbelow)
    exact hpast (.of_adjacent hadjacent)

/-- A node that is left upwards on the way out is entered on the way back iff it is balanced. -/
theorem retreat?_of_up? {b c p : Cursor A} (hslide : b.slide? side = none) (hup : b.up? = some p)
    (hopen : p.opens admits side.flip = true) (hbelow : ∃ i v, c.path = p.path ++ i :: v) :
    p.retreat? admits side = some c ↔ p.Balanced admits ∧ b.retreat? admits side = some c := by
  rw [balanced_iff side, hopen]
  cases hfar : p.opens admits side with
  | true =>
    have hedge : p.edge? side = some b := (edge?_eq_some_iff hup).2 hslide
    have hadmits : admits b = true := by
      obtain ⟨d, hd, hadmits⟩ := opens_iff.1 hfar
      rwa [Option.some.inj (hedge.symm.trans hd)]
    have hb : b.retreat? admits side = some (b.descend admits side) := by
      unfold retreat?
      rw [admits_descend admits, hadmits, Bool.true_or, if_pos rfl]
    rw [retreat?_of_opens hfar, descend_of_edge? hedge hadmits, hb]
    simp
  | false =>
    -- The way back ends at the node or passes it by, and `c` is below it.
    refine iff_of_false (fun heq => ?_) (fun h => by cases h.1)
    obtain ⟨i, v, hc⟩ := hbelow
    rw [retreat?_of_closed hfar] at heq
    split at heq
    · rw [Option.some.inj heq] at hc
      exact absurd hc (by simp)
    · have hbeyond := (advance?_spec heq).2
      rw [hc] at hbeyond
      exact Side.Beyond.not_append p.path _ hbeyond

/-! ## Which steps are taken back -/

/-- The way back leads from `b` to `c`, and the positions from `b` to `d` are balanced. -/
def Retraces (admits : Cursor A → Bool) (side : Side) (c d b : Cursor A) : Prop :=
  b.retreat? admits side = some c ∧ ∀ x : Cursor A, x.document = c.document →
    side.Between b.path d.path x.path → x.Balanced admits

/-- The search goes on from `b` to `e`, and finds `d` in the end. -/
theorem retraces_iff_of_step {b c d e : Cursor A} (hdocument : b.document = c.document)
    (hdocument' : e.document = c.document)
    (hb : b.retreat? admits side = some c → b.Balanced admits)
    (he : e.retreat? admits side = some c ↔ e.Balanced admits ∧ b.retreat? admits side = some c)
    (hbeyond : side.Beyond e.path d.path)
    (hbetween : ∀ x : Cursor A, x.document = c.document →
      (side.Between b.path d.path x.path ↔ x.path = b.path ∨ side.Between e.path d.path x.path)) :
    Retraces admits side c d e ↔ Retraces admits side c d b := by
  unfold Retraces
  rw [he]
  constructor
  · rintro ⟨⟨-, hretreat⟩, hall⟩
    refine ⟨hretreat, fun x hx hxpath => ?_⟩
    rcases (hbetween x hx).1 hxpath with hpath | hxpath
    · rw [ext_of_document_path (hx.trans hdocument.symm) hpath]
      exact hb hretreat
    · exact hall x hx hxpath
  · rintro ⟨hretreat, hall⟩
    have hall' : ∀ x : Cursor A, x.document = c.document →
        side.Between e.path d.path x.path → x.Balanced admits := by
      intro x hx hxpath
      exact hall x hx ((hbetween x hx).2 (.inr hxpath))
    exact ⟨⟨hall' e hdocument' (.self hbeyond), hretreat⟩, hall'⟩

/-- The search from `b`, on its way from the landing `c`, is taken back to `c` iff the way back from
`b` leads there and all positions that are still passed over are balanced. -/
theorem advance?_flip_eq_some_iff {b c d : Cursor A} (hexposed : b.Exposed admits side.flip)
    (hdocument : b.document = c.document) (hbeside : side.Beside c.path b.path)
    (hb : b.retreat? admits side = some c → b.Balanced admits)
    (h : b.advance? admits side = some d) :
    d.advance? admits side.flip = some c ↔ Retraces admits side c d b := by
  fun_induction advance? admits side b with
  | case1 b e hslide landing hadmits =>
    obtain rfl : landing = d := Option.some.inj h
    obtain ⟨-, u, i, j, hbpath, hepath, hadjacent⟩ := of_slide? hslide
    obtain ⟨-, q, hlanding⟩ := e.descend_spec admits side.flip
    rw [hepath, List.append_assoc, List.singleton_append] at hlanding
    rw [advance?_descend, advance?_flip_of_slide? hslide]
    refine ⟨fun hretreat => ⟨hretreat, fun x hx hxpath => ?_⟩, fun hretraces => hretraces.1⟩
    rw [hlanding, hbpath] at hxpath
    have hpath : x.path = b.path := (Side.between_landing hadjacent hxpath).trans hbpath.symm
    rw [ext_of_document_path (hx.trans hdocument.symm) hpath]
    exact hb hretreat
  | case2 b e hslide landing hadmits ih =>
    obtain ⟨hdocument', u, i, j, hbpath, hepath, hadjacent⟩ := of_slide? hslide
    have hbeyond := (advance?_spec h).2
    have he := retreat?_of_slide? hslide (Bool.eq_false_iff.2 hadmits) hbeside
    have hbeside' : side.Beside c.path e.path := by
      rw [hbpath] at hbeside
      rw [hepath]
      exact hbeside.slide hadjacent
    rw [ih (hexposed.slide hslide) (hdocument'.trans hdocument) hbeside' (fun h => (he.1 h).1) h]
    refine retraces_iff_of_step hdocument (hdocument'.trans hdocument) hb he hbeyond ?_
    intro x hx
    rw [hepath] at hbeyond ⊢
    rw [hbpath]
    have hij : side.Beyond (u ++ [i]) (u ++ [j]) := .of_past (.of_adjacent hadjacent) u [] []
    exact Side.between_slide hadjacent (hij.trans hbeyond)
  | case3 b hslide p hup ih =>
    obtain ⟨hexposed', hopen⟩ := hexposed.up hup
    have hdocument' : p.document = c.document := (of_up? hup).1.trans hdocument
    have hbeyond := (advance?_spec h).2
    obtain ⟨i, hbpath, hlast⟩ := path_of_slide?_none hslide hup
    rw [hbpath] at hbeside
    obtain ⟨j, v, hc, -⟩ := Side.beside_concat_right.1 hbeside
    have he := retreat?_of_up? hslide hup hopen ⟨j, v, hc⟩
    have hbeside' : side.Beside c.path p.path := hc ▸ .of_beyond hbeyond _
    rw [ih hexposed' hdocument' hbeside' (fun h => (he.1 h).1) h]
    refine retraces_iff_of_step hdocument hdocument' hb he hbeyond ?_
    intro x hx
    rw [hbpath]
    refine Side.between_up ?_ fun k hk => hlast k ?_
    · rw [← List.append_nil d.path]
      exact hbeyond.append [i] []
    · -- A position right below the node has one of its children in focus.
      have hfocus := x.subtree?_path
      rw [hx, ← hdocument', hk, Tree.subtree?_append, p.subtree?_path, Option.bind_some,
        Tree.subtree?_cons] at hfocus
      obtain ⟨t, ht, -⟩ := Option.bind_eq_some_iff.1 hfocus
      exact (List.getElem?_eq_some_iff.1 ht).1
  | case4 b hslide hup => cases h

theorem Landed.prev?_eq_some_iff {c d : Cursor A} (hc : c.Landed admits .left)
    (h : c.next? admits = some d) :
    d.prev? admits = some c ↔ ∀ x : Cursor A, x.document = c.document →
      Side.right.Between c.path d.path x.path → x.Balanced admits := by
  rw [hc.next?_eq] at h
  have hself : Side.right.Between c.path d.path c.path := .self (advance?_spec h).2
  have hretreat : c.retreat? admits .right = some c ↔ c.Balanced admits :=
    hc.retreat?_eq_some_self_iff
  have hprev : d.prev? admits = some c ↔ Retraces admits .right c d c :=
    advance?_flip_eq_some_iff hc.exposed rfl hself.1 hretreat.1 h
  rw [hprev]
  constructor
  · intro hretraces
    exact hretraces.2
  · intro hall
    exact ⟨hretreat.2 (hall c rfl hself), hall⟩

end Cursor

namespace Grammar

theorem landed_of_mem_stops {g : Grammar A} {limit : Nat} {c d : Cursor A}
    (hc : c.Exposed g.admitsCursor .left) (h : d ∈ g.stops .next limit c) :
    d.Landed g.admitsCursor .left := by
  have hstep : ∀ b d : Cursor A, b.Exposed g.admitsCursor .left →
      g.moveCursor? b .next = some d → d.Landed g.admitsCursor .left := by
    intro b d hb hnext
    exact Cursor.landed_of_next? hb hnext
  obtain ⟨b, hb, hnext⟩ := g.exists_of_mem_stops (fun b d hb hd => (hstep b d hb hd).exposed) hc h
  exact hstep b d hb hnext

/-- **Steps that are taken back.** Whatever positions are hidden, moving back from the next stop
leads to the stop before it exactly if each position between the two has both its first and its
last child admitted, or neither. -/
theorem prev_retraces_next_iff (g : Grammar A) (t : Tree A) (limit : Nat) (c d : Cursor A)
    (hc : c ∈ g.stops .next limit (.root t)) (hd : g.moveCursor? c .next = some d) :
    g.moveCursor? d .prev = some c ↔ ∀ x : Cursor A, x.document = t →
      Side.right.Between c.path d.path x.path → x.Balanced g.admitsCursor := by
  have hlanded : c.Landed g.admitsCursor .left := landed_of_mem_stops (.root t) hc
  have hdocument : c.document = t := document_of_mem_stops g hc
  rw [← hdocument]
  exact hlanded.prev?_eq_some_iff hd

/-- From `b` to the abstraction in `(a b) (λx. x)`, with binders hidden. The abstraction itself is
closed on the left only, and it is not passed over. -/
theorem prev_retraces_next_iff_hidden_binder :
    let g := Lambda.grammar true
    let function := Lambda.app (Lambda.var "a") (Lambda.var "b")
    let argument := Lambda.lam "x" (Lambda.var "x")
    let c : Cursor Lambda.alphabet :=
      ⟨.ofFrames [Lambda.argumentFrame (Lambda.var "a"), Lambda.functionFrame argument],
        Lambda.var "b"⟩
    let d : Cursor Lambda.alphabet := ⟨.ofFrames [Lambda.argumentFrame function], argument⟩
    (c ∈ g.stops .next 2 (.root (Lambda.app function argument)) ∧
      g.moveCursor? c .next = some d) ∧
    (g.moveCursor? d .prev = some c ∧ ¬d.Balanced g.admitsCursor) ∧
      ∀ x : Cursor Lambda.alphabet, x.document = Lambda.app function argument →
        Side.right.Between c.path d.path x.path → x.Balanced g.admitsCursor := by
  intro g function argument c d
  have hc : c ∈ g.stops .next 2 (.root (Lambda.app function argument)) := by decide +kernel
  have hd : g.moveCursor? c .next = some d := by decide +kernel
  have hprev : g.moveCursor? d .prev = some c := by decide +kernel
  have hiff := prev_retraces_next_iff g (Lambda.app function argument) 2 c d hc hd
  exact ⟨⟨hc, hd⟩, ⟨hprev, by decide +kernel⟩, hiff.1 hprev⟩

/-- With binders hidden, moving on goes from the abstraction in `(λx. x) y` to `y`, and moving back
from there goes into the body of the abstraction. -/
theorem next_not_retraced_from_abstraction :
    let g := Lambda.grammar true
    let function := Lambda.lam "x" (Lambda.var "x")
    let c : Cursor Lambda.alphabet :=
      ⟨.ofFrames [Lambda.functionFrame (Lambda.var "y")], function⟩
    let d : Cursor Lambda.alphabet := ⟨.ofFrames [Lambda.argumentFrame function], Lambda.var "y"⟩
    c ∈ g.stops .next 1 (.root (Lambda.app function (Lambda.var "y"))) ∧
      g.moveCursor? c .next = some d ∧
      (g.moveCursor? d .prev).map Cursor.path = some [0, 1] ∧
      g.moveCursor? d .prev ≠ some c := by
  decide +kernel

end Grammar

end TreeEditor
