import TreeEditor.Cursor.Traversal
import TreeEditor.Grammar.Basic
import TreeEditor.Selection.Between
import TreeEditor.Selection.Boundary

/-!
# Movement within a grammar

Structural moves are those of the tree, kept only if the grammar admits where they lead. Linear
moves go from stop to stop; on a selection they move the movable end as a cursor, and the new range
is what lies between the two ends.
-/

namespace TreeEditor

namespace Grammar

variable {A : Alphabet} (g : Grammar A)

/-- Moves a cursor. -/
def moveCursor? (c : Cursor A) : Direction → Option (Cursor A)
  | .up => c.up?.filter g.admitsCursor
  | .down => (c.down? 0).filter g.admitsCursor
  | .left => (c.slide? .left).filter g.admitsCursor
  | .right => (c.slide? .right).filter g.admitsCursor
  | .next => c.next? g.admitsCursor
  | .prev => c.prev? g.admitsCursor

/-- The range from the fixed end of a selection to a new position of its movable end. -/
def stretch? (s : Selection A) (moved : Cursor A) : Option (Span A) :=
  match s.fixedCursor.between? g.known moved with
  | some (.range r) => if g.admitsSelection r then some (.range r) else none
  | span => span

/-- Moves the movable end of a selection. -/
def moveSelection? (s : Selection A) : Direction → Option (Span A)
  | .next => (s.movableCursor.next? g.admitsCursor).bind (g.stretch? s)
  | .prev => (s.movableCursor.prev? g.admitsCursor).bind (g.stretch? s)
  | d => ((s.moveBoundary? d).filter g.admitsSelection).map .range

end Grammar

/-- The stops reached by moving on in one direction, at most `limit` of them. -/
def Grammar.stops {A : Alphabet} (g : Grammar A) (d : Direction) : Nat → Cursor A → List (Cursor A)
  | 0, _ => []
  | limit + 1, c =>
    match g.moveCursor? c d with
    | some next => next :: g.stops d limit next
    | none => []

end TreeEditor
