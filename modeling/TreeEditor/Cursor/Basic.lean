import TreeEditor.Comparison

/-!
# Cursors

A `Cursor` is a position in a document: the subtree in focus and the context around it. The four
structural moves change the position and keep the document.
-/

namespace TreeEditor

/-- A document with one subtree in focus. -/
@[ext]
structure Cursor (A : Alphabet) where
  context : Context A
  focus : Tree A

namespace Cursor

variable {A : Alphabet}

instance [DecidableEq A.Value] : DecidableEq (Cursor A) :=
  fun _ _ => decidable_of_iff _ Cursor.ext_iff.symm

/-- Whether two cursors are the same. -/
def same (known : Sharing A) (c d : Cursor A) : Bool :=
  c.focus.same known d.focus && c.context.same known d.context

/-- The cursor on the root of a document. -/
def root (t : Tree A) : Cursor A := ⟨.empty, t⟩

/-- The whole document. -/
def document (c : Cursor A) : Tree A := c.context.plug c.focus

/-- How many nodes are above the focus. -/
def depth (c : Cursor A) : Nat := c.context.depth

/-- Whether the focus is the root. -/
def isRoot (c : Cursor A) : Bool := c.context.isEmpty

/-- The child index of the focus in its parent. -/
def index? (c : Cursor A) : Option Nat := c.context.innermost?.map Frame.index

/-- The child indices that lead from the root to the focus. -/
def path (c : Cursor A) : List Nat := c.context.path

/-- The same position with another subtree. -/
def withFocus (c : Cursor A) (t : Tree A) : Cursor A := { c with focus := t }

/-! ## Structural moves -/

/-- To the parent. -/
def up? (c : Cursor A) : Option (Cursor A) :=
  c.context.pop?.map fun (f, outer) => ⟨outer, f.plug c.focus⟩

/-- To the child at an index. -/
def down? (c : Cursor A) (i : Nat) : Option (Cursor A) :=
  (c.focus.split? i).map fun (f, k) => ⟨c.context.push f, k⟩

/-- To the outermost child on a side. -/
def edge? (c : Cursor A) : Side → Option (Cursor A)
  | .left => c.down? 0
  | .right => c.down? (c.focus.arity - 1)

/-- To the next sibling on a side. -/
def slide? (c : Cursor A) (side : Side) : Option (Cursor A) := do
  let (f, outer) ← c.context.pop?
  let (f, t) ← f.slide? c.focus side
  return ⟨outer.push f, t⟩

/-- Down along child indices. -/
def follow? (c : Cursor A) : List Nat → Option (Cursor A)
  | [] => some c
  | i :: path => (c.down? i).bind fun d => d.follow? path

/-- The child at an index is smaller than the focus it was taken from. -/
theorem size_focus_lt_of_down? {c d : Cursor A} {i : Nat} (h : c.down? i = some d) :
    d.focus.size < c.focus.size := by
  simp only [down?, Tree.split?, Option.map_map, Option.map_eq_some_iff] at h
  obtain ⟨k, hk, rfl⟩ := h
  exact Tree.size_lt_of_mem_kids (List.mem_of_getElem? hk)

/-- The outermost child is smaller than the focus it was taken from. -/
theorem size_focus_lt_of_edge? {c d : Cursor A} {side : Side} (h : c.edge? side = some d) :
    d.focus.size < c.focus.size := by
  cases side with
  | left => exact size_focus_lt_of_down? h
  | right => exact size_focus_lt_of_down? h

end Cursor

end TreeEditor
