import TreeEditor.Cursor.Basic

/-!
# Linear traversal

The stops of the linear order are the positions at which a descent along one edge of the tree ends.
A predicate says which positions may be in focus; a descent goes no deeper than it allows, and
stops it rejects are passed over.

`next?` looks below the position first and then to its right, nearest siblings first and level by
level upwards; `prev?` only looks to the left. Both are `advance?`, which is the same search for
both sides: slide to a sibling, land at its near edge, and go on from there if the landing is
rejected.
-/

namespace TreeEditor

namespace Cursor

variable {A : Alphabet}

/-- Down along the edge on a side, as deep as is admitted. -/
def descend (admits : Cursor A → Bool) (side : Side) (c : Cursor A) : Cursor A :=
  match _h : c.edge? side with
  | some d => if admits d then descend admits side d else c
  | none => c
termination_by c.focus.size
decreasing_by exact size_focus_lt_of_edge? _h

/-- How many slides and climbs are left on the way to the root, with all siblings on a side
visited. -/
def ahead (c : Cursor A) (side : Side) : Nat :=
  c.context.frames.foldr (fun f n => 1 + (f.siblings side).length + n) 0

theorem ahead_lt_of_up? {c d : Cursor A} (side : Side) (h : c.up? = some d) :
    d.ahead side < c.ahead side := by
  simp only [up?, Option.map_eq_some_iff] at h
  obtain ⟨⟨f, outer⟩, hpop, rfl⟩ := h
  simp only [ahead, Context.pop?_eq_some_iff.1 hpop, Context.frames_push, List.foldr_cons]
  omega

theorem ahead_lt_of_slide? {c d : Cursor A} {side : Side} (h : c.slide? side = some d) :
    d.ahead side < c.ahead side := by
  simp only [slide?, Option.bind_eq_bind, Option.bind_eq_some_iff] at h
  obtain ⟨⟨f, outer⟩, hpop, ⟨g, t⟩, hslide, hd⟩ := h
  obtain rfl : _ = d := Option.some.inj hd
  have hsiblings : f.siblings side = t :: g.siblings side := Frame.siblings_of_slide? hslide
  simp only [ahead, Context.pop?_eq_some_iff.1 hpop, Context.frames_push, List.foldr_cons,
    hsiblings, List.length_cons]
  omega

/-- The nearest admitted landing beyond the focus on a side. -/
def advance? (admits : Cursor A → Bool) (side : Side) (c : Cursor A) : Option (Cursor A) :=
  match _hslide : c.slide? side with
  | some d =>
    let landing := d.descend admits side.flip
    if admits landing then some landing else advance? admits side d
  | none =>
    match _hup : c.up? with
    | some d => advance? admits side d
    | none => none
termination_by c.ahead side
decreasing_by
  · exact ahead_lt_of_slide? _hslide
  · exact ahead_lt_of_up? side _hup

/-- The next stop. -/
def next? (admits : Cursor A → Bool) (c : Cursor A) : Option (Cursor A) :=
  let below := c.descend admits .left
  if c.depth < below.depth then some below else c.advance? admits .right

/-- The previous stop. -/
def prev? (admits : Cursor A → Bool) (c : Cursor A) : Option (Cursor A) :=
  c.advance? admits .left

end Cursor

end TreeEditor
