import TreeEditor.Cursor.Traversal
import TreeEditor.Proofs.Positions

/-!
# The search for the next stop

Whatever positions are admitted, a descent only lengthens the path, and the search for a landing
ends at a path that parts from the path it started at and runs on its far side from there
(`Side.Beyond`). Neither leaves the document.
-/

namespace TreeEditor

variable {A : Alphabet}

/-! ## Paths beside each other -/

namespace Side

/-- Index `j` comes after index `i` on a side. -/
def Past : Side → Nat → Nat → Prop
  | left, i, j => j < i
  | right, i, j => i < j

/-- The paths part at some node, and the second goes on to the given side of the first. -/
def Beyond (side : Side) : List Nat → List Nat → Prop
  | i :: p, j :: q => side.Past i j ∨ i = j ∧ Beyond side p q
  | _, _ => False

theorem Past.of_adjacent {side : Side} {i j : Nat} (h : side.Adjacent i j) : side.Past i j := by
  cases side <;> simp only [Adjacent] at h <;> simp only [Past] <;> omega

theorem Past.trans {side : Side} {i j k : Nat} (h₁ : side.Past i j) (h₂ : side.Past j k) :
    side.Past i k := by
  cases side <;> simp only [Past] at h₁ h₂ ⊢ <;> omega

theorem past_irrefl {side : Side} (i : Nat) : ¬side.Past i i := by
  cases side <;> simp [Past]

/-- Nothing is between neighbours. -/
theorem Past.eq_or_past {side : Side} {i j k : Nat} (hadjacent : side.Adjacent i j)
    (h : side.Past i k) : j = k ∨ side.Past j k := by
  cases side <;> simp only [Past, Adjacent] at hadjacent h ⊢ <;> omega

theorem past_flip {side : Side} {i j : Nat} : side.flip.Past i j ↔ side.Past j i := by
  cases side <;> rfl

theorem beyond_flip {side : Side} {p q : List Nat} : side.flip.Beyond p q ↔ side.Beyond q p := by
  induction p generalizing q with
  | nil => cases q <;> simp [Beyond]
  | cons i p ih =>
    cases q with
    | nil => simp [Beyond]
    | cons j q => simp only [Beyond, past_flip, ih, eq_comm]

namespace Beyond

variable {side : Side}

theorem append_iff (u : List Nat) {p q : List Nat} :
    side.Beyond (u ++ p) (u ++ q) ↔ side.Beyond p q := by
  induction u with
  | nil => rfl
  | cons i u ih => simp [Beyond, past_irrefl, ih]

/-- Once parted, paths stay parted however they go on. -/
theorem append {p q : List Nat} (h : side.Beyond p q) (x y : List Nat) :
    side.Beyond (p ++ x) (q ++ y) := by
  induction p generalizing q with
  | nil => cases h
  | cons i p ih =>
    cases q with
    | nil => cases h
    | cons j q =>
      rcases h with hpast | ⟨hij, hrest⟩
      · exact .inl hpast
      · exact .inr ⟨hij, ih hrest⟩

theorem trans {p q r : List Nat} (h₁ : side.Beyond p q) (h₂ : side.Beyond q r) :
    side.Beyond p r := by
  induction p generalizing q r with
  | nil => cases h₁
  | cons i p ih =>
    cases q with
    | nil => cases h₁
    | cons j q =>
      cases r with
      | nil => cases h₂
      | cons k r =>
        rcases h₁ with hij | ⟨rfl, hpq⟩
        · rcases h₂ with hjk | ⟨rfl, -⟩
          · exact .inl (hij.trans hjk)
          · exact .inl hij
        · rcases h₂ with hik | ⟨rfl, hqr⟩
          · exact .inl hik
          · exact .inr ⟨rfl, ih hpq hqr⟩

theorem of_past {i j : Nat} (h : side.Past i j) (u x y : List Nat) :
    side.Beyond (u ++ i :: x) (u ++ j :: y) :=
  (append_iff u).2 (.inl h)

/-- A path that goes on from another does not part from it. -/
theorem not_append (p x : List Nat) : ¬side.Beyond p (p ++ x) := by
  intro h
  rw [← List.append_nil p, List.append_assoc, append_iff] at h
  exact h

theorem apart {p q : List Nat} (h : side.Beyond p q) (x : List Nat) :
    ¬p ++ x <+: q ∧ ¬q <+: p ++ x := by
  constructor
  · rintro ⟨y, rfl⟩
    have hself := h.append (x ++ y) []
    rw [List.append_nil, List.append_assoc] at hself
    exact not_append _ [] (by rwa [List.append_nil])
  · rintro ⟨y, hy⟩
    have hself := h.append x y
    rw [hy] at hself
    exact not_append _ [] (by rwa [List.append_nil])

/-- A path beyond one that ends in the index `i` turns off there, or at an earlier index. -/
theorem of_concat {u : List Nat} {i : Nat} {q : List Nat} (h : side.Beyond (u ++ [i]) q) :
    (∃ j x, q = u ++ j :: x ∧ side.Past i j) ∨ side.Beyond u q := by
  induction u generalizing q with
  | nil =>
    cases q with
    | nil => cases h
    | cons j q =>
      rcases h with hpast | ⟨-, hrest⟩
      · exact .inl ⟨j, q, rfl, hpast⟩
      · cases hrest
  | cons k u ih =>
    cases q with
    | nil => cases h
    | cons j q =>
      rcases h with hpast | ⟨rfl, hrest⟩
      · exact .inr (.inl hpast)
      · rcases ih hrest with ⟨j, x, rfl, hpast⟩ | hbeyond
        · exact .inl ⟨j, x, rfl, hpast⟩
        · exact .inr (.inr ⟨rfl, hbeyond⟩)

end Beyond

end Side

/-! ## Where the search ends -/

namespace Cursor

variable {admits : Cursor A → Bool} {side : Side}

theorem descend_spec (admits : Cursor A → Bool) (side : Side) (c : Cursor A) :
    (c.descend admits side).document = c.document ∧
      ∃ q, (c.descend admits side).path = c.path ++ q := by
  fun_induction descend admits side c with
  | case1 c d hedge hadmits ih =>
    obtain ⟨hdocument, i, hpath⟩ := of_edge? hedge
    obtain ⟨hdocument', q, hpath'⟩ := ih
    refine ⟨hdocument'.trans hdocument, i :: q, ?_⟩
    rw [hpath', hpath, List.append_assoc, List.singleton_append]
  | case2 c d hedge hadmits => exact ⟨rfl, [], (List.append_nil _).symm⟩
  | case3 c hedge => exact ⟨rfl, [], (List.append_nil _).symm⟩

theorem advance?_spec {c e : Cursor A} (h : c.advance? admits side = some e) :
    e.document = c.document ∧ side.Beyond c.path e.path := by
  fun_induction advance? admits side c with
  | case1 c d hslide landing hadmits =>
    obtain rfl : landing = e := Option.some.inj h
    obtain ⟨hdocument, p, i, j, hc, hd, hadjacent⟩ := of_slide? hslide
    obtain ⟨hdocument', q, hlanding⟩ := d.descend_spec admits side.flip
    refine ⟨hdocument'.trans hdocument, ?_⟩
    rw [hc, hlanding, hd, List.append_assoc, List.singleton_append]
    exact .of_past (.of_adjacent hadjacent) p [] q
  | case2 c d hslide landing hadmits ih =>
    -- The landing is passed over, and the search goes on from the sibling above it.
    obtain ⟨hdocument, p, i, j, hc, hd, hadjacent⟩ := of_slide? hslide
    obtain ⟨hdocument', hbeyond⟩ := ih h
    refine ⟨hdocument'.trans hdocument, ?_⟩
    rw [hd] at hbeyond
    rw [hc]
    exact (Side.Beyond.of_past (.of_adjacent hadjacent) p [] []).trans hbeyond
  | case3 c hslide d hup ih =>
    obtain ⟨hdocument, i, hc⟩ := of_up? hup
    obtain ⟨hdocument', hbeyond⟩ := ih h
    refine ⟨hdocument'.trans hdocument, ?_⟩
    rw [hc, ← List.append_nil e.path]
    exact hbeyond.append [i] []
  | case4 c hslide hup => cases h

/-- A descent stays where it starts or ends at an admitted position. -/
theorem descend_eq_or_admits (admits : Cursor A → Bool) (side : Side) (c : Cursor A) :
    c.descend admits side = c ∨ admits (c.descend admits side) = true := by
  fun_induction descend admits side c with
  | case1 c d hedge hadmits ih =>
    right
    rcases ih with hsame | hend
    · rw [hsame]
      exact hadmits
    · exact hend
  | case2 c d hedge hadmits => exact .inl rfl
  | case3 c hedge => exact .inl rfl

theorem admits_of_advance? {c e : Cursor A} (h : c.advance? admits side = some e) :
    admits e = true := by
  fun_induction advance? admits side c with
  | case1 c d hslide landing hadmits =>
    obtain rfl : landing = e := Option.some.inj h
    exact hadmits
  | case2 c d hslide landing hadmits ih => exact ih h
  | case3 c hslide d hup ih => exact ih h
  | case4 c hslide hup => cases h

/-- The next stop is below the position, or else it is what the search to the right finds. -/
theorem of_next? {c d : Cursor A} (h : c.next? admits = some d) :
    c.descend admits .left = d ∧ d ≠ c ∨ c.advance? admits .right = some d := by
  unfold next? at h
  simp only at h
  split at h
  · next hdeeper =>
    left
    obtain rfl := Option.some.inj h
    refine ⟨rfl, fun hsame => ?_⟩
    rw [hsame] at hdeeper
    exact Nat.lt_irrefl _ hdeeper
  · exact .inr h

theorem admits_of_next? {c d : Cursor A} (h : c.next? admits = some d) : admits d = true := by
  rcases of_next? h with ⟨rfl, hne⟩ | hadvance
  · exact (c.descend_eq_or_admits admits .left).resolve_left hne
  · exact admits_of_advance? hadvance

theorem admits_of_prev? {c d : Cursor A} (h : c.prev? admits = some d) : admits d = true :=
  admits_of_advance? h

theorem document_of_next? {c d : Cursor A} (h : c.next? admits = some d) :
    d.document = c.document := by
  rcases of_next? h with ⟨rfl, -⟩ | hadvance
  · exact (c.descend_spec admits .left).1
  · exact (advance?_spec hadvance).1

theorem document_of_prev? {c d : Cursor A} (h : c.prev? admits = some d) :
    d.document = c.document :=
  (advance?_spec h).1

end Cursor

end TreeEditor
