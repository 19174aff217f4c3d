import TreeEditor.Cursor.Basic
import TreeEditor.Validity

/-!
# Selections

A `Selection` is a range of a document: the frames between two positions, one above the other. One
of its ends is movable. The frames are stored from the movable end on, so that moving this end
costs one step whichever it is; `range` lists them innermost first.
-/

namespace TreeEditor

/-- A document with a range of frames in focus. -/
@[ext]
structure Selection (A : Alphabet) where
  /-- The context above the range. -/
  above : Context A
  /-- The frames of the range, from the movable end on. -/
  stored : Context A
  /-- The tree below the range. -/
  focus : Tree A
  /-- The end that moves. -/
  movable : Boundary

namespace Selection

variable {A : Alphabet}

/-- Whether two selections are the same and have the same end movable. -/
def same (known : Sharing A) (s t : Selection A) : Bool :=
  s.movable = t.movable && s.focus.same known t.focus && s.stored.same known t.stored &&
    s.above.same known t.above

/-- The selection of a range given innermost first. -/
def ofRange (above range : Context A) (focus : Tree A) : Boundary → Selection A
  | .inner => ⟨above, range, focus, .inner⟩
  | .outer => ⟨above, range.reverse, focus, .outer⟩

/-- The selection of nothing at a cursor. -/
def ofCursor (c : Cursor A) (movable : Boundary) : Selection A :=
  ⟨c.context, .empty, c.focus, movable⟩

/-- The frames of the range, innermost first. -/
def range (s : Selection A) : Context A :=
  match s.movable with
  | .inner => s.stored
  | .outer => s.stored.reverse

/-- Whether the range has no frames. -/
def isEmpty (s : Selection A) : Bool := s.stored.isEmpty

/-- The same range with the given end movable. -/
def withMovable (s : Selection A) (movable : Boundary) : Selection A :=
  if movable = s.movable then s else { s with stored := s.stored.reverse, movable }

/-- The outermost frame of the range. -/
def outermost? (s : Selection A) : Option (Frame A) :=
  match s.movable with
  | .outer => s.stored.innermost?
  | .inner => s.stored.outermost?

/-- The category at the outer end. -/
def outerCat (s : Selection A) : A.Cat := (s.outermost?.map Frame.cat).getD s.focus.cat

/-- Whether both ends have the same category, so that the range can be taken out. -/
def keepsCategory (s : Selection A) : Bool := s.outerCat = s.focus.cat

/-- Checks that the range can be taken out. -/
def checkRemoval (s : Selection A) : Check A :=
  match s.outermost? with
  | some f =>
    if s.keepsCategory then .ok ()
    else .error (.wrongCategory f.rule f.index f.cat s.focus.cat)
  | none => .ok ()

/-! ## Cursors at the ends -/

/-- The cursor at an end of the range. -/
def cursorAt (s : Selection A) : Boundary → Cursor A
  | .outer => ⟨s.above, s.range.plug s.focus⟩
  | .inner => ⟨s.range ++ s.above, s.focus⟩

/-- The cursor at the end that stays. -/
def fixedCursor (s : Selection A) : Cursor A := s.cursorAt s.movable.flip

/-- The cursor at the end that moves. -/
def movableCursor (s : Selection A) : Cursor A := s.cursorAt s.movable

/-- The whole document. -/
def document (s : Selection A) : Tree A := (s.cursorAt .outer).document

end Selection

end TreeEditor
