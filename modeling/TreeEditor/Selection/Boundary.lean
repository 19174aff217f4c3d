import TreeEditor.Selection.Basic

/-!
# Moving an end of a selection

The movable end moves like a cursor. When it would pass the other end, the two change roles: the
range is empty at that moment, and the other end moves on in the same direction.
-/

namespace TreeEditor

namespace Selection

variable {A : Alphabet}

/-- Lowers the inner end to the first child. The stored frames must start at the inner end, or be
none. -/
def lowerInner? (s : Selection A) : Option (Selection A) :=
  (s.focus.split? 0).map fun (f, k) =>
    { s with stored := s.stored.push f, focus := k, movable := .inner }

/-- Raises the outer end to the parent. The stored frames must start at the outer end, or be
none. -/
def raiseOuter? (s : Selection A) : Option (Selection A) :=
  s.above.pop?.map fun (f, above) =>
    { s with above, stored := s.stored.push f, movable := .outer }

/-- Moves the inner end to the next sibling on a side. -/
def slideInner? (s : Selection A) (side : Side) : Option (Selection A) := do
  let (f, stored) ← s.stored.pop?
  let (f, focus) ← f.slide? s.focus side
  return { s with stored := stored.push f, focus }

/-- Moves the movable end one structural step. -/
def moveBoundary? (s : Selection A) (d : Direction) : Option (Selection A) :=
  match s.movable, d with
  | .inner, .down => s.lowerInner?
  | .inner, .up =>
    match s.stored.pop? with
    | some (f, stored) => some { s with stored, focus := f.plug s.focus }
    | none => s.raiseOuter?
  | .inner, .left => s.slideInner? .left
  | .inner, .right => s.slideInner? .right
  | .outer, .up => s.raiseOuter?
  | .outer, .down =>
    match s.stored.pop? with
    | some (f, stored) => some { s with above := s.above.push f, stored }
    | none => s.lowerInner?
  | .outer, .left | .outer, .right => none
  | _, .next | _, .prev => none

end Selection

end TreeEditor
