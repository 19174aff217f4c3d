import TreeEditor.Proofs.Retracing

/-!
# Left and right exchanged

Reflecting a document reverses the children of each of its nodes, and with them the two sides of
every position. The structural moves know no other difference between the sides: up stays up, and a
slide or an edge is the one on the other side (`Cursor.slide?_reflect`, `Cursor.edge?_reflect`). So
a search to one side is the reflection of the search to the other side in the reflected document,
whatever is hidden. The previous stop is thus the reflection of a next one, except where the latter
is found below the position, for which moving back has no counterpart.
-/

namespace TreeEditor

variable {A : Alphabet}

/-! ## Trees and contexts -/

theorem map_map_of_involutive {α : Type} {f : α → α} {xs : List α} (h : ∀ x ∈ xs, f (f x) = x) :
    (xs.map f).map f = xs := by
  rw [List.map_map]
  calc xs.map (f ∘ f) = xs.map id := List.map_congr_left h
    _ = xs := List.map_id xs

namespace Tree

mutual

/-- The tree with the children of every node in the opposite order. -/
def reflect : Tree A → Tree A
  | .node l kids => .node l (reflectEach kids).reverse

def reflectEach : List (Tree A) → List (Tree A)
  | [] => []
  | t :: ts => reflect t :: reflectEach ts

end

theorem reflectEach_eq_map (ts : List (Tree A)) : reflectEach ts = ts.map reflect := by
  induction ts with
  | nil => rfl
  | cons t ts ih => rw [reflectEach, ih, List.map_cons]

theorem reflect_node (l : Label A) (kids : List (Tree A)) :
    (node l kids).reflect = node l (kids.map reflect).reverse := by
  rw [reflect, reflectEach_eq_map]

@[simp] theorem reflect_reflect (t : Tree A) : t.reflect.reflect = t := by
  induction t with
  | node l kids ih =>
    rw [reflect_node, reflect_node, List.map_reverse, List.reverse_reverse,
      map_map_of_involutive ih]

end Tree

namespace Frame

/-- The frame with its two sides exchanged and everything beside the gap reflected. -/
def reflect (f : Frame A) : Frame A := ⟨f.label, f.right.map Tree.reflect, f.left.map Tree.reflect⟩

@[simp] theorem reflect_reflect (f : Frame A) : f.reflect.reflect = f := by
  unfold reflect
  rw [map_map_of_involutive fun t _ => t.reflect_reflect,
    map_map_of_involutive fun t _ => t.reflect_reflect]

theorem plug_reflect (f : Frame A) (t : Tree A) :
    f.reflect.plug t.reflect = (f.plug t).reflect := by
  unfold plug
  rw [Tree.reflect_node]
  simp [reflect]

theorem slide?_reflect (f : Frame A) (t : Tree A) (side : Side) :
    f.reflect.slide? t.reflect side =
      (f.slide? t side.flip).map fun p => (p.1.reflect, p.2.reflect) := by
  obtain ⟨label, left, right⟩ := f
  cases side with
  | left =>
    cases right with
    | nil => rfl
    | cons u right => rfl
  | right =>
    cases left with
    | nil => rfl
    | cons u left => rfl

end Frame

namespace Context

/-- The context with every frame reflected. -/
def reflect (c : Context A) : Context A := .ofFrames (c.frames.map Frame.reflect)

@[simp] theorem reflect_push (c : Context A) (f : Frame A) :
    (c.push f).reflect = c.reflect.push f.reflect := rfl

@[simp] theorem reflect_reflect (c : Context A) : c.reflect.reflect = c := by
  unfold reflect
  rw [frames_ofFrames, map_map_of_involutive fun f _ => f.reflect_reflect, ofFrames_frames]

end Context

/-! ## Positions -/

namespace Cursor

/-- The focus and the context around it reflected. -/
def reflect (c : Cursor A) : Cursor A := ⟨c.context.reflect, c.focus.reflect⟩

@[simp] theorem reflect_reflect (c : Cursor A) : c.reflect.reflect = c := by
  simp [reflect]

theorem map_reflect_eq_some_iff {x : Option (Cursor A)} {d : Cursor A} :
    x.map reflect = some d ↔ x = some d.reflect := by
  rw [Option.map_eq_some_iff]
  constructor
  · rintro ⟨e, rfl, rfl⟩
    rw [reflect_reflect]
  · intro h
    exact ⟨d.reflect, h, d.reflect_reflect⟩

theorem up?_reflect (c : Cursor A) : c.reflect.up? = c.up?.map reflect := by
  obtain ⟨context, focus⟩ := c
  cases context with
  | empty => rfl
  | push outer f =>
    have hup : (⟨outer.push f, focus⟩ : Cursor A).up? = some ⟨outer, f.plug focus⟩ := rfl
    rw [hup]
    exact up?_eq_some_iff.2 ⟨f.reflect, rfl, f.plug_reflect focus⟩

theorem slide?_reflect (c : Cursor A) (side : Side) :
    c.reflect.slide? side = (c.slide? side.flip).map reflect := by
  obtain ⟨context, focus⟩ := c
  cases context with
  | empty => rfl
  | push outer f =>
    unfold slide? reflect
    simp only [Context.reflect_push, Context.pop?_push, Option.bind_eq_bind, Option.bind_some,
      f.slide?_reflect]
    cases f.slide? focus side.flip with
    | none => rfl
    | some slid => rfl

/-- An outermost child is one that has the position as its parent and no sibling further on, so it
is settled by the other two moves. -/
theorem edge?_reflect (c : Cursor A) (side : Side) :
    c.reflect.edge? side = (c.edge? side.flip).map reflect := by
  have hiff : ∀ (p d : Cursor A) (s : Side),
      p.edge? s = some d ↔ d.up? = some p ∧ d.slide? s = none := by
    intro p d s
    constructor
    · intro h
      have hup := up?_of_edge? h
      exact ⟨hup, (edge?_eq_some_iff hup).1 h⟩
    · rintro ⟨hup, hslide⟩
      exact (edge?_eq_some_iff hup).2 hslide
  refine Option.ext fun d => ?_
  rw [map_reflect_eq_some_iff, hiff, hiff, up?_reflect, slide?_reflect, map_reflect_eq_some_iff,
    Option.map_eq_none_iff, Side.flip_flip]

/-! ## Searches -/

section Search

variable (admits : Cursor A → Bool) (side : Side) (c : Cursor A)

theorem opens_reflect :
    c.reflect.opens (fun d => admits d.reflect) side = c.opens admits side.flip := by
  unfold opens
  rw [edge?_reflect]
  cases c.edge? side.flip with
  | none => rfl
  | some d => simp

theorem descend_reflect :
    c.reflect.descend (fun d => admits d.reflect) side.flip = (c.descend admits side).reflect := by
  fun_induction descend admits side c with
  | case1 c d hedge hadmits ih =>
    have hedge' : c.reflect.edge? side.flip = some d.reflect := by
      rw [edge?_reflect, Side.flip_flip, hedge]
      rfl
    rw [descend_of_edge? hedge' (by rwa [reflect_reflect]), ih]
  | case2 c d hedge hadmits =>
    refine descend_of_closed ?_
    rw [opens_reflect, Side.flip_flip]
    simpa [opens, hedge] using hadmits
  | case3 c hedge =>
    refine descend_of_closed ?_
    rw [opens_reflect, Side.flip_flip]
    simp [opens, hedge]

theorem advance?_reflect :
    c.reflect.advance? (fun d => admits d.reflect) side.flip =
      (c.advance? admits side).map reflect := by
  have hslides : ∀ {b : Cursor A} {x : Option (Cursor A)}, b.slide? side = x →
      b.reflect.slide? side.flip = x.map reflect := by
    intro b x h
    rw [slide?_reflect, Side.flip_flip, h]
  fun_induction advance? admits side c with
  | case1 c d hslide landing hadmits =>
    rw [advance?_of_slide? (hslides hslide), descend_reflect admits side.flip d, reflect_reflect]
    rw [if_pos hadmits]
    rfl
  | case2 c d hslide landing hadmits ih =>
    rw [advance?_of_slide? (hslides hslide), descend_reflect admits side.flip d, reflect_reflect]
    rw [if_neg hadmits, ih]
  | case3 c hslide d hup ih =>
    have hup' : c.reflect.up? = some d.reflect := by
      rw [up?_reflect, hup]
      rfl
    rw [advance?_of_up? (hslides hslide) hup', ih]
  | case4 c hslide hup =>
    have hup' : c.reflect.up? = none := by
      rw [up?_reflect, hup]
      rfl
    exact advance?_of_root (hslides hslide) hup'

end Search

/-- **Moving back is moving on, reflected.** A descent along last children is the reflection of the
descent along first children in the reflected document, under the reflected hook. Where the latter
does not leave the position, the previous stop is the reflection of the next one there, and there is
none exactly if there is none there. -/
theorem prev_reflects_next (admits : Cursor A → Bool) (c : Cursor A) :
    let reflected : Cursor A → Bool := fun d => admits d.reflect
    c.descend admits .right = (c.reflect.descend reflected .left).reflect ∧
      (c.reflect.descend reflected .left = c.reflect →
        c.prev? admits = (c.reflect.next? reflected).map reflect) := by
  intro reflected
  have hdescend : c.reflect.descend reflected .left = (c.descend admits .right).reflect :=
    descend_reflect admits .right c
  refine ⟨by rw [hdescend, reflect_reflect], ?_⟩
  intro hstays
  have hnext : c.reflect.next? reflected = c.reflect.advance? reflected .right := by
    unfold next?
    rw [hstays]
    exact if_neg (Nat.lt_irrefl _)
  have hadvance : c.reflect.advance? reflected .right = (c.advance? admits .left).map reflect :=
    advance?_reflect admits .left c
  rw [hnext, hadvance, Option.map_map]
  have hid : (reflect ∘ reflect : Cursor A → Cursor A) = id := funext reflect_reflect
  rw [hid, Option.map_id_apply]
  rfl

/-- Back from `y` in `(λx. x) y` with binders hidden, and on from it in the reflected document. -/
theorem prev_reflects_next_hidden_binder :
    let admits := (Lambda.grammar true).admitsCursor
    let reflected : Cursor Lambda.alphabet → Bool := fun d => admits d.reflect
    let binder : Tree Lambda.alphabet := .node ⟨.bind, .name, "x"⟩ []
    let function := Lambda.lam "x" (Lambda.var "x")
    let c : Cursor Lambda.alphabet := ⟨.ofFrames [Lambda.argumentFrame function], Lambda.var "y"⟩
    let body : Cursor Lambda.alphabet :=
      ⟨.ofFrames [⟨⟨.exp, .lam, ""⟩, [binder], []⟩, Lambda.functionFrame (Lambda.var "y")],
        Lambda.var "x"⟩
    c.reflect.descend reflected .left = c.reflect ∧ c.prev? admits = some body ∧
      (c.reflect.next? reflected).map reflect = some body := by
  intro admits reflected binder function c body
  have hstays : c.reflect.descend reflected .left = c.reflect := by decide +kernel
  have hprev : c.prev? admits = some body := by decide +kernel
  refine ⟨hstays, hprev, ?_⟩
  rw [← (prev_reflects_next admits c).2 hstays]
  exact hprev

end Cursor

end TreeEditor
