import TreeEditor.Selection.Basic

/-!
# The range between two cursors

Two cursors span a range when one is above the other, that is when the frames above one of them
continue those above the other. The paths are compared from the root on, frame by frame, and end
where two frames are not the same. So a frame that is not the same as itself ends them as well.
-/

namespace TreeEditor

variable {A : Alphabet}

/-- What lies between two cursors: nothing, or a range. -/
inductive Span (A : Alphabet) where
  | empty
  | range (s : Selection A)

/-- Whether what lies between is the same. -/
def Span.same (known : Sharing A) : Span A → Span A → Bool
  | empty, empty => true
  | range s, range t => s.same known t
  | _, _ => false

/-- Two chains of frames, outermost first, cut after their common part. -/
structure Fork (A : Alphabet) where
  shared : List (Frame A)
  left : List (Frame A)
  right : List (Frame A)

/-- Cuts two chains of frames, outermost first, where they are first not the same. -/
def Fork.of (known : Sharing A) : List (Frame A) → List (Frame A) → Fork A
  | f :: fs, g :: gs =>
    if f.same known g then
      let fork := Fork.of known fs gs
      { fork with shared := f :: fork.shared }
    else ⟨[], f :: fs, g :: gs⟩
  | fs, gs => ⟨[], fs, gs⟩

/-- The range between two cursors, with its movable end at the second. There is none if neither is
above the other, or if a frame above both is not the same as itself. -/
def Cursor.between? (known : Sharing A) (start stop : Cursor A) : Option (Span A) :=
  let fork := Fork.of known start.context.frames.reverse stop.context.frames.reverse
  let above := Context.ofRootFirst fork.shared
  match fork.left, fork.right with
  | [], [] => some .empty
  | [], _ :: _ => some (.range (.ofRange above (.ofRootFirst fork.right) stop.focus .inner))
  | _ :: _, [] => some (.range (.ofRange above (.ofRootFirst fork.left) start.focus .outer))
  | _ :: _, _ :: _ => none

end TreeEditor
