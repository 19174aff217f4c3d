/-!
# Directions

The words for where a focus moves: a `Direction` is what the user asks for, a `Side` is one of the
two sides of a position among its siblings, and a `Boundary` is one of the two ends of a range.
-/

namespace TreeEditor

/-- A side of a position among its siblings. -/
inductive Side where
  | left
  | right
deriving DecidableEq

namespace Side

/-- The other side. -/
def flip : Side → Side
  | left => right
  | right => left

@[simp] theorem flip_flip (s : Side) : s.flip.flip = s := by cases s <;> rfl

end Side

/-- The end of a range, nearest the root or nearest the leaves. -/
inductive Boundary where
  | outer
  | inner
deriving DecidableEq

namespace Boundary

/-- The other end. -/
def flip : Boundary → Boundary
  | outer => inner
  | inner => outer

@[simp] theorem flip_flip (b : Boundary) : b.flip.flip = b := by cases b <;> rfl

end Boundary

/-- A requested movement. The first four follow the shape of the tree, the last two follow the
linear order of its stops. -/
inductive Direction where
  | up
  | down
  | left
  | right
  | next
  | prev
deriving DecidableEq

end TreeEditor
