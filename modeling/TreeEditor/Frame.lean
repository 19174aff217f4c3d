import TreeEditor.Direction
import TreeEditor.Tree.Basic

/-!
# Frames

A `Frame` is a node with one child taken out, the *gap*. Plugging a tree into the gap (`plug`) and
taking a child out of a node (`Tree.split?`) are inverse to each other, and `slide?` moves the gap
to a neighbouring child.
-/

namespace TreeEditor

/-- A node with a gap in place of one child. -/
@[ext]
structure Frame (A : Alphabet) where
  label : Label A
  /-- The children left of the gap, nearest first. -/
  left : List (Tree A)
  /-- The children right of the gap, nearest first. -/
  right : List (Tree A)

variable {A : Alphabet}

namespace Frame

instance [DecidableEq A.Value] : DecidableEq (Frame A) :=
  fun _ _ => decidable_of_iff _ Frame.ext_iff.symm

/-- The category of the node. -/
def cat (f : Frame A) : A.Cat := f.label.cat

/-- The rule of the node. -/
def rule (f : Frame A) : A.Rule := f.label.rule

/-- The child index of the gap. -/
def index (f : Frame A) : Nat := f.left.length

/-- The number of children, the gap included. -/
def arity (f : Frame A) : Nat := f.left.length + 1 + f.right.length

/-- The children on one side of the gap, nearest first. -/
def siblings (f : Frame A) : Side → List (Tree A)
  | .left => f.left
  | .right => f.right

/-- The node with `t` in the gap. -/
def plug (f : Frame A) (t : Tree A) : Tree A :=
  .node f.label (f.left.reverse ++ t :: f.right)

/-- Moves the gap to the next child on a side, with `t` put into the old gap. Returns the child
that was there, and nothing if there was none. -/
def slide? (f : Frame A) (t : Tree A) : Side → Option (Frame A × Tree A)
  | .left =>
    match f.left with
    | [] => none
    | u :: left => some ({ f with left, right := t :: f.right }, u)
  | .right =>
    match f.right with
    | [] => none
    | u :: right => some ({ f with left := t :: f.left, right }, u)

@[simp] theorem label_plug (f : Frame A) (t : Tree A) : (f.plug t).label = f.label := rfl

@[simp] theorem kids_plug (f : Frame A) (t : Tree A) :
    (f.plug t).kids = f.left.reverse ++ t :: f.right := rfl

@[simp] theorem cat_plug (f : Frame A) (t : Tree A) : (f.plug t).cat = f.cat := rfl

@[simp] theorem arity_plug (f : Frame A) (t : Tree A) : (f.plug t).arity = f.arity := by
  simp [Tree.arity, arity]
  omega

/-- A slide takes the nearest of the siblings on its side. -/
theorem siblings_of_slide? {f g : Frame A} {t u : Tree A} {side : Side}
    (h : f.slide? t side = some (g, u)) : f.siblings side = u :: g.siblings side := by
  cases side with
  | left =>
    simp only [slide?] at h
    split at h
    · cases h
    · next v left hleft =>
      cases h
      exact hleft
  | right =>
    simp only [slide?] at h
    split at h
    · cases h
    · next v right hright =>
      cases h
      exact hright

end Frame

/-- Takes out the child at an index: the frame it leaves, and the child. -/
def Tree.split? (t : Tree A) (i : Nat) : Option (Frame A × Tree A) :=
  t.kids[i]?.map fun k => (⟨t.label, (t.kids.take i).reverse, t.kids.drop (i + 1)⟩, k)

end TreeEditor
