import TreeEditor.Cursor.Basic
import TreeEditor.Proofs.Frames

/-!
# Positions

A cursor is its document and a path (`Cursor.follow?_root_eq_some_iff`): the frames above a position
and the subtree at it can be read off the document. The structural moves are moves of the path in
one document, which is how everything else refers to them: `up?` drops the last index, `down?` adds
one, and `slide?` changes the last index by one. Each of them is taken back by another. All of it
comes from a single fact about one node: taking a child out and plugging it back in are inverse
(`Tree.split?_eq_some_iff`).
-/

namespace TreeEditor

variable {A : Alphabet}

/-! ## Contexts -/

namespace Context

@[simp] theorem plug_append (inner outer : Context A) (t : Tree A) :
    (inner ++ outer).plug t = outer.plug (inner.plug t) := by
  unfold plug
  rw [frames_append, List.foldl_append]

@[simp] theorem path_empty : (empty : Context A).path = [] := rfl

@[simp] theorem path_push (c : Context A) (f : Frame A) :
    (c.push f).path = c.path ++ [f.index] := by
  simp [path, indices]

theorem length_path (c : Context A) : c.path.length = c.depth := by
  rw [c.depth_eq]
  simp [path, indices]

@[simp] theorem path_append (inner outer : Context A) :
    (inner ++ outer).path = outer.path ++ inner.path := by
  simp [path, indices]

/-- What is in the gap is the subtree at the path. -/
theorem subtree?_path (c : Context A) (t : Tree A) : (c.plug t).subtree? c.path = some t := by
  induction c generalizing t with
  | empty => rfl
  | push outer f ih =>
    rw [path_push, plug_push, Tree.subtree?_append, ih]
    simp [Tree.subtree?_cons, Frame.index]

theorem subtree?_path_append (c : Context A) (t : Tree A) (q : List Nat) :
    (c.plug t).subtree? (c.path ++ q) = t.subtree? q := by
  rw [Tree.subtree?_append, subtree?_path]
  rfl

/-- A context can be cut wherever its path is. -/
theorem exists_append_of_path {c : Context A} {p q : List Nat} (h : c.path = p ++ q) :
    ∃ inner outer : Context A, c = inner ++ outer ∧ outer.path = p ∧ inner.path = q := by
  have hindices : c.frames.map Frame.index = q.reverse ++ p.reverse := by
    have hreverse := congrArg List.reverse h
    unfold path indices at hreverse
    rwa [List.reverse_reverse, List.reverse_append] at hreverse
  obtain ⟨inner, outer, hframes, hinner, houter⟩ := List.map_eq_append_iff.1 hindices
  refine ⟨.ofFrames inner, .ofFrames outer, Context.ext (by simp [hframes]), ?_, ?_⟩
  · simp [path, indices, houter]
  · simp [path, indices, hinner]

@[simp] theorem reverse_reverse (c : Context A) : c.reverse.reverse = c := by
  ext1
  simp

theorem reverse_push_append (c d : Context A) (f : Frame A) :
    (c.push f).reverse ++ d = c.reverse ++ d.push f := by
  ext1
  simp

theorem plug_reverse_push (c : Context A) (f : Frame A) (t : Tree A) :
    (c.push f).reverse.plug t = f.plug (c.reverse.plug t) := by
  unfold plug
  simp

theorem isEmpty_iff {c : Context A} : c.isEmpty = true ↔ c = empty := by
  unfold isEmpty
  rw [decide_eq_true_iff, c.depth_eq, List.length_eq_zero_iff]
  constructor
  · intro h
    exact Context.ext h
  · intro h
    rw [h, frames_empty]

theorem pop?_eq_none_iff {c : Context A} : c.pop? = none ↔ c = empty := by
  cases c with
  | empty => simp
  | push c f =>
    refine iff_of_false nofun ?_
    intro h
    cases congrArg frames h

end Context

/-! ## Moves of the path -/

namespace Cursor

@[simp] theorem document_root (t : Tree A) : (root t).document = t := rfl

@[simp] theorem path_root (t : Tree A) : (root t).path = [] := rfl

theorem up?_eq_some_iff {c d : Cursor A} :
    c.up? = some d ↔ ∃ f, c.context = d.context.push f ∧ f.plug c.focus = d.focus := by
  unfold up?
  rw [Option.map_eq_some_iff]
  constructor
  · rintro ⟨⟨f, outer⟩, hpop, rfl⟩
    exact ⟨f, Context.pop?_eq_some_iff.1 hpop, rfl⟩
  · rintro ⟨f, hcontext, hfocus⟩
    exact ⟨(f, d.context), Context.pop?_eq_some_iff.2 hcontext, Cursor.ext rfl hfocus⟩

theorem down?_eq_some_iff {c d : Cursor A} {i : Nat} :
    c.down? i = some d ↔
      ∃ f, d.context = c.context.push f ∧ f.plug d.focus = c.focus ∧ f.index = i := by
  unfold down?
  rw [Option.map_eq_some_iff]
  constructor
  · rintro ⟨⟨f, k⟩, hsplit, rfl⟩
    exact ⟨f, rfl, Tree.split?_eq_some_iff.1 hsplit⟩
  · rintro ⟨f, hcontext, hplug⟩
    exact ⟨(f, d.focus), Tree.split?_eq_some_iff.2 hplug, Cursor.ext hcontext.symm rfl⟩

theorem slide?_eq_some_iff {c d : Cursor A} {side : Side} :
    c.slide? side = some d ↔ ∃ (outer : Context A) (f f' : Frame A), c.context = outer.push f ∧
      d.context = outer.push f' ∧ f.slide? c.focus side = some (f', d.focus) := by
  simp only [slide?, Option.bind_eq_bind, Option.bind_eq_some_iff]
  constructor
  · rintro ⟨⟨f, outer⟩, hpop, ⟨f', t⟩, hslide, hd⟩
    cases hd
    exact ⟨outer, f, f', Context.pop?_eq_some_iff.1 hpop, rfl, hslide⟩
  · rintro ⟨outer, f, f', hc, hd, hslide⟩
    refine ⟨(f, outer), Context.pop?_eq_some_iff.2 hc, (f', d.focus), hslide, ?_⟩
    rw [← hd]
    rfl

/-- The parent of a position. -/
theorem of_up? {c d : Cursor A} (h : c.up? = some d) :
    d.document = c.document ∧ ∃ i, c.path = d.path ++ [i] := by
  obtain ⟨f, hcontext, hfocus⟩ := up?_eq_some_iff.1 h
  refine ⟨?_, f.index, ?_⟩
  · unfold document
    rw [hcontext, Context.plug_push, hfocus]
  · unfold path
    rw [hcontext, Context.path_push]

/-- A child of a position. -/
theorem of_down? {c d : Cursor A} {i : Nat} (h : c.down? i = some d) :
    d.document = c.document ∧ d.path = c.path ++ [i] := by
  obtain ⟨f, hcontext, hplug, rfl⟩ := down?_eq_some_iff.1 h
  refine ⟨?_, ?_⟩
  · unfold document
    rw [hcontext, Context.plug_push, hplug]
  · unfold path
    rw [hcontext, Context.path_push]

/-- A neighbour of a position. -/
theorem of_slide? {c d : Cursor A} {side : Side} (h : c.slide? side = some d) :
    d.document = c.document ∧
      ∃ p i j, c.path = p ++ [i] ∧ d.path = p ++ [j] ∧ side.Adjacent i j := by
  obtain ⟨outer, f, f', hc, hd, hslide⟩ := slide?_eq_some_iff.1 h
  obtain ⟨hplug, hadjacent⟩ := Frame.plug_of_slide? hslide
  refine ⟨?_, outer.path, f.index, f'.index, ?_, ?_, hadjacent⟩
  · unfold document
    rw [hc, hd, Context.plug_push, Context.plug_push, hplug]
  · unfold path
    rw [hc, Context.path_push]
  · unfold path
    rw [hd, Context.path_push]

theorem of_edge? {c d : Cursor A} {side : Side} (h : c.edge? side = some d) :
    d.document = c.document ∧ ∃ i, d.path = c.path ++ [i] := by
  cases side with
  | left =>
    obtain ⟨hdocument, hpath⟩ := of_down? h
    exact ⟨hdocument, 0, hpath⟩
  | right =>
    obtain ⟨hdocument, hpath⟩ := of_down? h
    exact ⟨hdocument, c.focus.arity - 1, hpath⟩

/-! ## Moves that fail -/

/-- The children of the parent on a side of the focus, nearest first. -/
def siblings (c : Cursor A) (side : Side) : List (Tree A) :=
  (c.context.innermost?.map fun f => f.siblings side).getD []

theorem up?_eq_none_iff {c : Cursor A} : c.up? = none ↔ c.isRoot = true := by
  unfold up? isRoot
  rw [Option.map_eq_none_iff, Context.pop?_eq_none_iff, Context.isEmpty_iff]

theorem down?_eq_none_iff {c : Cursor A} {i : Nat} : c.down? i = none ↔ c.focus.arity ≤ i := by
  unfold down?
  rw [Option.map_eq_none_iff, Tree.split?_eq_none_iff]

theorem slide?_eq_none_iff {c : Cursor A} {side : Side} :
    c.slide? side = none ↔ c.siblings side = [] := by
  obtain ⟨context, focus⟩ := c
  cases context with
  | empty => exact iff_of_true rfl rfl
  | push outer f =>
    have hslide : slide? ⟨outer.push f, focus⟩ side =
        (f.slide? focus side).map fun next => ⟨outer.push next.1, next.2⟩ := by
      cases hframe : f.slide? focus side <;> simp [slide?, hframe]
    rw [hslide, Option.map_eq_none_iff]
    exact Frame.slide?_eq_none_iff

/-! ## Moves that take each other back -/

theorem slide?_flip {c d : Cursor A} {side : Side} (h : c.slide? side = some d) :
    d.slide? side.flip = some c := by
  obtain ⟨outer, f, f', hc, hd, hslide⟩ := slide?_eq_some_iff.1 h
  exact slide?_eq_some_iff.2 ⟨outer, f', f, hd, hc, Frame.slide?_flip hslide⟩

/-- Siblings have the same parent. -/
theorem up?_of_slide? {c d : Cursor A} {side : Side} (h : c.slide? side = some d) :
    ∃ p, c.up? = some p ∧ d.up? = some p := by
  obtain ⟨outer, f, f', hc, hd, hslide⟩ := slide?_eq_some_iff.1 h
  refine ⟨⟨outer, f.plug c.focus⟩, ?_, ?_⟩
  · exact up?_eq_some_iff.2 ⟨f, hc, rfl⟩
  · exact up?_eq_some_iff.2 ⟨f', hd, (Frame.plug_of_slide? hslide).1⟩

theorem up?_of_down? {c d : Cursor A} {i : Nat} (h : c.down? i = some d) : d.up? = some c := by
  obtain ⟨f, hcontext, hplug, -⟩ := down?_eq_some_iff.1 h
  exact up?_eq_some_iff.2 ⟨f, hcontext, hplug⟩

theorem up?_of_edge? {c d : Cursor A} {side : Side} (h : c.edge? side = some d) :
    d.up? = some c := by
  cases side with
  | left => exact up?_of_down? h
  | right => exact up?_of_down? h

theorem down?_of_up? {c p : Cursor A} (h : c.up? = some p) : ∃ i, p.down? i = some c := by
  obtain ⟨f, hcontext, hplug⟩ := up?_eq_some_iff.1 h
  exact ⟨f.index, down?_eq_some_iff.2 ⟨f, hcontext, hplug, rfl⟩⟩

/-- The outermost child on a side is the one with no sibling further on. -/
theorem edge?_eq_some_iff {c p : Cursor A} {side : Side} (hup : c.up? = some p) :
    p.edge? side = some c ↔ c.slide? side = none := by
  obtain ⟨f, hcontext, hplug⟩ := up?_eq_some_iff.1 hup
  have hdown : ∀ i, p.down? i = some c ↔ f.index = i := by
    intro i
    rw [down?_eq_some_iff]
    constructor
    · rintro ⟨f', hcontext', -, rfl⟩
      have hframes := congrArg Context.frames (hcontext.symm.trans hcontext')
      rw [(List.cons.inj hframes).1]
    · intro hi
      exact ⟨f, hcontext, hplug, hi⟩
  have hsiblings : c.siblings side = f.siblings side := by
    unfold siblings
    rw [hcontext]
    rfl
  rw [slide?_eq_none_iff, hsiblings]
  cases side with
  | left =>
    have hedge : p.edge? .left = p.down? 0 := rfl
    rw [hedge, hdown]
    exact List.length_eq_zero_iff
  | right =>
    have hedge : p.edge? .right = p.down? (p.focus.arity - 1) := rfl
    rw [hedge, hdown, ← hplug, Frame.arity_plug, Frame.siblings, ← List.length_eq_zero_iff]
    unfold Frame.index Frame.arity
    omega

/-! ## A cursor is its document and its path -/

theorem follow?_append (c : Cursor A) (p q : List Nat) :
    c.follow? (p ++ q) = (c.follow? p).bind fun d => d.follow? q := by
  induction p generalizing c with
  | nil => rfl
  | cons i p ih =>
    simp only [List.cons_append, follow?]
    cases c.down? i with
    | none => rfl
    | some d => exact ih d

/-- A position further down. -/
theorem of_follow? {c d : Cursor A} {p : List Nat} (h : c.follow? p = some d) :
    d.document = c.document ∧ d.path = c.path ++ p := by
  induction p generalizing c with
  | nil =>
    obtain rfl : c = d := Option.some.inj h
    exact ⟨rfl, (List.append_nil _).symm⟩
  | cons i p ih =>
    obtain ⟨e, hdown, hrest⟩ := Option.bind_eq_some_iff.1 h
    obtain ⟨hdocument, hpath⟩ := of_down? hdown
    obtain ⟨hdocument', hpath'⟩ := ih hrest
    refine ⟨hdocument'.trans hdocument, ?_⟩
    rw [hpath', hpath, List.append_assoc, List.singleton_append]

/-- Following the path of a cursor from the root of its document leads to the cursor. -/
theorem follow?_root_path (c : Cursor A) : (root c.document).follow? c.path = some c := by
  obtain ⟨context, focus⟩ := c
  -- The context is taken off from the inside, so the last index of the path comes first.
  induction context generalizing focus with
  | empty => rfl
  | push outer f ih =>
    have hup := ih (f.plug focus)
    have hdown : (⟨outer, f.plug focus⟩ : Cursor A).down? f.index = some ⟨outer.push f, focus⟩ :=
      down?_eq_some_iff.2 ⟨f, rfl, rfl, rfl⟩
    unfold path document at hup ⊢
    rw [Context.path_push, follow?_append, Context.plug_push, hup]
    simp only [Option.bind_some, follow?, hdown]

theorem follow?_root_eq_some_iff {t : Tree A} {p : List Nat} {c : Cursor A} :
    (root t).follow? p = some c ↔ c.document = t ∧ c.path = p := by
  constructor
  · exact of_follow?
  · rintro ⟨rfl, rfl⟩
    exact follow?_root_path c

theorem ext_of_document_path {c d : Cursor A} (hdocument : c.document = d.document)
    (hpath : c.path = d.path) : c = d := by
  have hc : (root d.document).follow? d.path = some c :=
    follow?_root_eq_some_iff.2 ⟨hdocument, hpath⟩
  rw [follow?_root_path d] at hc
  exact (Option.some.inj hc).symm

/-- **A cursor is its document and its path.** From the root of the document of a cursor, well
formed or not, all steps down along its path can be made, and they lead to the cursor itself.
Conversely, where steps down from the root of a document lead is a cursor in this document, as deep
as there were steps, and the steps are its path. So cursors in one document are equal iff their
paths are. -/
theorem known_by_document_and_path (A : Alphabet) :
    (∀ c : Cursor A, (root c.document).follow? c.path = some c) ∧
    (∀ (t : Tree A) (p : List Nat) (c : Cursor A), (root t).follow? p = some c →
      c.document = t ∧ c.depth = p.length ∧ c.path = p) ∧
    ∀ c d : Cursor A, c.document = d.document → (c = d ↔ c.path = d.path) := by
  refine ⟨follow?_root_path, ?_, ?_⟩
  · intro t p c h
    obtain ⟨hdocument, hpath⟩ := follow?_root_eq_some_iff.1 h
    have hdepth : c.path.length = c.depth := c.context.length_path
    refine ⟨hdocument, ?_, hpath⟩
    rw [← hdepth, hpath]
  · intro c d hdocument
    constructor
    · exact congrArg path
    · exact ext_of_document_path hdocument

/-- In a malformed document, a variable `f` with the three children `a`, `b` and `a b`: the way to
the `b` in the last of them, and that it is not the `b` in the middle. -/
theorem known_by_document_and_path_malformed :
    let label : Label Lambda.alphabet := ⟨.exp, .var, "f"⟩
    let a := Lambda.var "a"
    let b := Lambda.var "b"
    let t : Tree Lambda.alphabet := .node label [a, b, Lambda.app a b]
    let c : Cursor Lambda.alphabet :=
      ⟨.ofFrames [Lambda.argumentFrame a, ⟨label, [b, a], []⟩], b⟩
    let d : Cursor Lambda.alphabet := ⟨.ofFrames [⟨label, [a], [Lambda.app a b]⟩], b⟩
    (root t).follow? [2, 1] = some c ∧ c.document = t ∧ c.depth = 2 ∧ c.path = [2, 1] ∧
      c.document = d.document ∧ c ≠ d := by
  intro label a b t c d
  obtain ⟨hpath, hfollow, hext⟩ := known_by_document_and_path Lambda.alphabet
  have hc : (root t).follow? [2, 1] = some c := hpath c
  obtain ⟨hdocument, hdepth, hindices⟩ := hfollow t [2, 1] c hc
  have hsame : c.document = d.document := rfl
  refine ⟨hc, hdocument, hdepth, hindices, hsame, ?_⟩
  rw [Ne, hext c d hsame]
  decide

/-- The subtree of the document at the path of a cursor is its focus. -/
theorem subtree?_path (c : Cursor A) : c.document.subtree? c.path = some c.focus :=
  c.context.subtree?_path c.focus

end Cursor

end TreeEditor
