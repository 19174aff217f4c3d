import TreeEditor.Proofs.ReadingOrder

/-!
# Linear moves make progress

Whichever positions are hidden, a linear move goes on in the order of paths, so no position is
visited twice. How long it can go on is counted in nodes: those of the focus and those beside the
way to it, on the side of the move (`Cursor.remaining`). Every step of the search is a step into
fewer of them: a child is a part of the focus, a sibling is one of the subtrees beside the way, and
from a parent the same subtrees are beside the way, or fewer. At the start there are no more than
the document has.
-/

namespace TreeEditor

variable {A : Alphabet}

/-! ## Nodes beside the way -/

theorem Frame.size_plug (f : Frame A) (t : Tree A) :
    (f.plug t).size = 1 + Tree.sizeAll f.left + t.size + Tree.sizeAll f.right := by
  rw [Tree.size_eq, Frame.kids_plug]
  simp only [Tree.sizeAll_append, Tree.sizeAll_reverse, Tree.sizeAll_cons]
  omega

/-- What is beside the gap on one side is part of the node. -/
theorem Frame.sizeAll_siblings_lt (f : Frame A) (t : Tree A) (side : Side) :
    t.size + Tree.sizeAll (f.siblings side) < (f.plug t).size := by
  rw [f.size_plug]
  cases side with
  | left =>
    simp only [siblings]
    omega
  | right =>
    simp only [siblings]
    omega

/-- The number of nodes beside the way from the root to the gap, on a side. -/
def Context.sizeBeside (c : Context A) (side : Side) : Nat :=
  c.frames.foldr (fun f n => Tree.sizeAll (f.siblings side) + n) 0

theorem Context.sizeBeside_push (c : Context A) (f : Frame A) (side : Side) :
    (c.push f).sizeBeside side = Tree.sizeAll (f.siblings side) + c.sizeBeside side := rfl

namespace Cursor

variable {admits : Cursor A → Bool} {side : Side}

/-- The number of nodes in the focus and beside the way to it, on a side. -/
def remaining (c : Cursor A) (side : Side) : Nat := c.focus.size + c.context.sizeBeside side

theorem sizeBeside_lt_remaining (c : Cursor A) (side : Side) :
    c.context.sizeBeside side < c.remaining side := by
  have := c.focus.size_pos
  unfold remaining
  omega

theorem remaining_pos (c : Cursor A) (side : Side) : 0 < c.remaining side :=
  Nat.zero_lt_of_lt (c.sizeBeside_lt_remaining side)

/-- There are no more of them than the document has nodes. -/
theorem remaining_le_size (c : Cursor A) (side : Side) : c.remaining side ≤ c.document.size := by
  obtain ⟨context, focus⟩ := c
  induction context generalizing focus with
  | empty => exact Nat.le_refl _
  | push outer f ih =>
    have hplug := f.sizeAll_siblings_lt focus side
    have hup := ih (f.plug focus)
    unfold remaining document at hup ⊢
    rw [Context.sizeBeside_push, Context.plug_push]
    simp only at hup ⊢
    omega

/-! ## The steps of the search -/

theorem remaining_lt_of_down? {c d : Cursor A} {i : Nat} (h : c.down? i = some d) (side : Side) :
    d.remaining side < c.remaining side := by
  obtain ⟨f, hcontext, hplug, -⟩ := down?_eq_some_iff.1 h
  have hpart := f.sizeAll_siblings_lt d.focus side
  unfold remaining
  rw [hcontext, Context.sizeBeside_push, ← hplug]
  omega

theorem remaining_lt_of_edge? {c d : Cursor A} {side' : Side} (h : c.edge? side' = some d)
    (side : Side) : d.remaining side < c.remaining side := by
  cases side' with
  | left => exact remaining_lt_of_down? h side
  | right => exact remaining_lt_of_down? h side

/-- A sibling was beside the way before, with all that is beside it now. -/
theorem remaining_of_slide? {c d : Cursor A} (h : c.slide? side = some d) :
    d.remaining side = c.context.sizeBeside side := by
  obtain ⟨outer, f, f', hc, hd, hslide⟩ := slide?_eq_some_iff.1 h
  unfold remaining
  rw [hc, hd, Context.sizeBeside_push, Context.sizeBeside_push, Frame.siblings_of_slide? hslide,
    Tree.sizeAll_cons, Nat.add_assoc]

theorem sizeBeside_le_of_up? {c d : Cursor A} (h : c.up? = some d) (side : Side) :
    d.context.sizeBeside side ≤ c.context.sizeBeside side := by
  obtain ⟨f, hcontext, -⟩ := up?_eq_some_iff.1 h
  rw [hcontext, Context.sizeBeside_push]
  omega

theorem descend_eq_or_remaining_lt (admits : Cursor A → Bool) (side' : Side) (c : Cursor A)
    (side : Side) : c.descend admits side' = c ∨
      (c.descend admits side').remaining side < c.remaining side := by
  fun_induction descend admits side' c with
  | case1 c d hedge hadmits ih =>
    right
    have hchild := remaining_lt_of_edge? hedge side
    rcases ih with hsame | hlt
    · rw [hsame]
      exact hchild
    · omega
  | case2 c d hedge hadmits => exact .inl rfl
  | case3 c hedge => exact .inl rfl

/-- The landing and all that is beyond it were beside the way to the start. -/
theorem remaining_le_of_advance? {c e : Cursor A} (h : c.advance? admits side = some e) :
    e.remaining side ≤ c.context.sizeBeside side := by
  fun_induction advance? admits side c with
  | case1 c d hslide landing hadmits =>
    obtain rfl : landing = e := Option.some.inj h
    rw [← remaining_of_slide? hslide]
    rcases d.descend_eq_or_remaining_lt admits side.flip side with hsame | hlt
    · exact Nat.le_of_eq (congrArg (remaining · side) hsame)
    · exact Nat.le_of_lt hlt
  | case2 c d hslide landing hadmits ih =>
    have hrest := ih h
    have hsibling := remaining_of_slide? hslide
    have hfocus := d.sizeBeside_lt_remaining side
    omega
  | case3 c hslide d hup ih =>
    have hrest := ih h
    have hparent := sizeBeside_le_of_up? hup side
    omega
  | case4 c hslide hup => cases h

theorem remaining_lt_of_next? {c d : Cursor A} (h : c.next? admits = some d) :
    d.remaining .right < c.remaining .right := by
  rcases of_next? h with ⟨rfl, hne⟩ | hadvance
  · exact (c.descend_eq_or_remaining_lt admits .left .right).resolve_left hne
  · exact Nat.lt_of_le_of_lt (remaining_le_of_advance? hadvance) (c.sizeBeside_lt_remaining .right)

theorem remaining_lt_of_prev? {c d : Cursor A} (h : c.prev? admits = some d) :
    d.remaining .left < c.remaining .left :=
  Nat.lt_of_le_of_lt (remaining_le_of_advance? h) (c.sizeBeside_lt_remaining .left)

/-! ## The order of the stops -/

theorem path_lt_of_next? {c d : Cursor A} (h : c.next? admits = some d) : c.path < d.path := by
  rcases of_next? h with ⟨rfl, hne⟩ | hadvance
  · obtain ⟨hdocument, x, hpath⟩ := c.descend_spec admits .left
    refine Side.lt_iff_beyond.2 (.inl ⟨x, ?_, hpath⟩)
    rintro rfl
    exact hne (ext_of_document_path hdocument (hpath.trans (List.append_nil _)))
  · exact (advance?_spec hadvance).2.lt

theorem beyond_of_prev? {c d : Cursor A} (h : c.prev? admits = some d) :
    Side.right.Beyond d.path c.path :=
  Side.beyond_flip.1 (advance?_spec h).2

end Cursor

/-! ## Moving on and on -/

namespace Grammar

variable {g : Grammar A} {dir : Direction}

section Decreasing

variable {side : Side}
  (hstep : ∀ b d : Cursor A, g.moveCursor? b dir = some d → d.remaining side < b.remaining side)
include hstep

theorem pairwise_stops (limit : Nat) (c : Cursor A) :
    (c :: g.stops dir limit c).Pairwise fun b d => d.remaining side < b.remaining side := by
  induction limit generalizing c with
  | zero => exact List.pairwise_singleton _ c
  | succ limit ih =>
    unfold stops
    split
    · next d hmove =>
      have hless := hstep c d hmove
      refine .cons ?_ (ih d)
      intro e he
      rcases List.mem_cons.1 he with rfl | he
      · exact hless
      · exact (List.rel_of_pairwise_cons (ih d) he).trans hless
    · exact List.pairwise_singleton _ c

theorem nodup_stops (limit : Nat) (c : Cursor A) : (c :: g.stops dir limit c).Nodup := by
  refine (pairwise_stops hstep limit c).imp ?_
  rintro b d hless rfl
  exact Nat.lt_irrefl _ hless

theorem length_stops_lt (limit : Nat) (c : Cursor A) :
    (g.stops dir limit c).length < c.remaining side := by
  induction limit generalizing c with
  | zero => exact c.remaining_pos side
  | succ limit ih =>
    unfold stops
    split
    · next d hmove =>
      have hless := hstep c d hmove
      have hrest := ih d
      rw [List.length_cons]
      omega
    · exact c.remaining_pos side

end Decreasing

/-- If there are fewer stops than asked for, no move is possible at the last. -/
theorem exists_last_of_length_lt {limit : Nat} {c : Cursor A}
    (h : (g.stops dir limit c).length < limit) :
    ∃ last, (c :: g.stops dir limit c).getLast? = some last ∧ g.moveCursor? last dir = none := by
  induction limit generalizing c with
  | zero => exact absurd h (Nat.not_lt_zero _)
  | succ limit ih =>
    unfold stops at h ⊢
    cases hmove : g.moveCursor? c dir with
    | none => exact ⟨c, rfl, hmove⟩
    | some d =>
      simp only [hmove, List.length_cons, Nat.add_lt_add_iff_right] at h ⊢
      obtain ⟨last, hlast, hnone⟩ := ih h
      refine ⟨last, ?_, hnone⟩
      rw [List.getLast?_cons_cons]
      exact hlast

/-- **Linear moves make progress.** Whatever the grammar hides, the next stop is an admitted
position of the same document and comes later in the order of paths; the previous stop comes
earlier, and is not above the position. So whoever moves on and on in one of these directions
visits no position twice, and can go no further before there are as many stops as the document has
nodes. -/
theorem linear_moves_make_progress (g : Grammar A) (c : Cursor A) :
    (∀ d, g.moveCursor? c .next = some d →
      g.admitsCursor d = true ∧ d.document = c.document ∧ c.path < d.path) ∧
    (∀ d, g.moveCursor? c .prev = some d →
      g.admitsCursor d = true ∧ d.document = c.document ∧ d.path < c.path ∧
        ¬d.path <+: c.path) ∧
    ∀ dir, dir = .next ∨ dir = .prev → ∀ limit,
      (c :: g.stops dir limit c).Nodup ∧
      (g.stops dir limit c).length < c.document.size ∧
      (c.document.size ≤ limit → ∃ last, (c :: g.stops dir limit c).getLast? = some last ∧
        g.moveCursor? last dir = none) := by
  refine ⟨?_, ?_, ?_⟩
  · intro d h
    exact ⟨Cursor.admits_of_next? h, Cursor.document_of_next? h, Cursor.path_lt_of_next? h⟩
  · intro d h
    have hbeyond := Cursor.beyond_of_prev? h
    refine ⟨Cursor.admits_of_prev? h, Cursor.document_of_prev? h, hbeyond.lt, ?_⟩
    have hapart := (hbeyond.apart []).1
    rwa [List.append_nil] at hapart
  · intro dir hlinear limit
    obtain ⟨side, hstep⟩ : ∃ side, ∀ b d : Cursor A, g.moveCursor? b dir = some d →
        d.remaining side < b.remaining side := by
      rcases hlinear with rfl | rfl
      · exact ⟨.right, fun b d h => Cursor.remaining_lt_of_next? h⟩
      · exact ⟨.left, fun b d h => Cursor.remaining_lt_of_prev? h⟩
    have hfewer : (g.stops dir limit c).length < c.document.size :=
      (length_stops_lt hstep limit c).trans_le (c.remaining_le_size side)
    refine ⟨nodup_stops hstep limit c, hfewer, ?_⟩
    intro hlimit
    exact exists_last_of_length_lt (hfewer.trans_le hlimit)

/-- In `(λx. x) y` with binders hidden, the next stop after the abstraction is `y`. Back from there
the first stop is the body, and the last. -/
theorem linear_moves_make_progress_hidden_binder :
    let g := Lambda.grammar true
    let binder : Tree Lambda.alphabet := .node ⟨.bind, .name, "x"⟩ []
    let function := Lambda.lam "x" (Lambda.var "x")
    let outer := Lambda.functionFrame (Lambda.var "y")
    let c : Cursor Lambda.alphabet := ⟨.ofFrames [outer], function⟩
    let d : Cursor Lambda.alphabet := ⟨.ofFrames [Lambda.argumentFrame function], Lambda.var "y"⟩
    let body : Cursor Lambda.alphabet :=
      ⟨.ofFrames [⟨⟨.exp, .lam, ""⟩, [binder], []⟩, outer], Lambda.var "x"⟩
    (g.moveCursor? c .next = some d ∧ c.path < d.path) ∧
    (g.moveCursor? d .prev = some body ∧ body.path < d.path ∧ ¬body.path <+: d.path) ∧
      (d :: g.stops .prev 5 d).Nodup ∧ (g.stops .prev 5 d).length < 5 ∧
      ∃ last, (d :: g.stops .prev 5 d).getLast? = some last ∧ g.moveCursor? last .prev = none := by
  intro g binder function outer c d body
  have hnext : g.moveCursor? c .next = some d := by decide +kernel
  have hprev : g.moveCursor? d .prev = some body := by decide +kernel
  obtain ⟨hforth, -, -⟩ := linear_moves_make_progress g c
  obtain ⟨-, hback, hstops⟩ := linear_moves_make_progress g d
  obtain ⟨hnodup, hfewer, hend⟩ := hstops .prev (.inr rfl) 5
  refine ⟨⟨hnext, (hforth d hnext).2.2⟩, ⟨hprev, (hback body hprev).2.2⟩, hnodup, hfewer, ?_⟩
  exact hend (Nat.le_refl 5)

end Grammar

end TreeEditor
