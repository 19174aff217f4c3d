import TreeEditor.Context

/-!
# Comparing documents

Documents are compared by what can be seen of them: categories, rules, and values as far as
`Alphabet.sameValue` tells them apart. Two trees are compared with a list of pairs still to be
compared: a pair is taken off, its labels and arities are compared, and the pairs of children are
put back on. No call depth grows with the depth of the trees.

A comparison may know beforehand that two trees, or the chains of two contexts, are one and the same
in memory. It then does not look into them. `Sharing` is such knowledge. It makes a difference only
where a value differs from itself, since a tree with such a value is the same as itself if it is
known to be one tree, and not otherwise.
-/

namespace TreeEditor

variable {A : Alphabet}

/-- Which trees and which chains of frames are known to be one and the same. -/
structure Sharing (A : Alphabet) where
  tree : Tree A → Tree A → Bool
  chain : List (Frame A) → List (Frame A) → Bool
  eq_of_tree : ∀ {a b}, tree a b = true → a = b
  eq_of_chain : ∀ {fs gs}, chain fs gs = true → fs = gs

/-- Nothing is known. -/
def Sharing.nothing : Sharing A where
  tree _ _ := false
  chain _ _ := false
  eq_of_tree := nofun
  eq_of_chain := nofun

namespace Tree

theorem sizeAll_fst_zip_le (ts us : List (Tree A)) :
    sizeAll ((ts.zip us).map (·.1)) ≤ sizeAll ts := by
  induction ts generalizing us with
  | nil => simp
  | cons t ts ih =>
    cases us with
    | nil => simp
    | cons u us =>
      have := ih us
      simp only [List.zip_cons_cons, List.map_cons, sizeAll_cons]
      omega

/-- Whether in each pair both trees are the same. -/
def sameAll (known : Sharing A) : List (Tree A × Tree A) → Bool
  | [] => true
  | (a, b) :: pending =>
    if known.tree a b then sameAll known pending
    else
      a.label.same b.label && a.arity = b.arity && sameAll known (a.kids.zip b.kids ++ pending)
termination_by pairs => sizeAll (pairs.map (·.1))
decreasing_by
  · have := a.size_pos
    simp only [List.map_cons, sizeAll_cons]
    omega
  · have := sizeAll_fst_zip_le a.kids b.kids
    simp only [List.map_append, List.map_cons, sizeAll_append, sizeAll_cons, size_eq a]
    omega

/-- Whether two trees are the same. -/
def same (known : Sharing A) (a b : Tree A) : Bool := sameAll known [(a, b)]

/-- Whether two lists of trees are the same, one by one. -/
def sameEach (known : Sharing A) (ts us : List (Tree A)) : Bool :=
  ts.length = us.length && (ts.zip us).all fun p => p.1.same known p.2

end Tree

/-- Whether two frames are the same. Of frames nothing is known beforehand, so their values are
always compared, also those of a frame and itself. -/
def Frame.same (known : Sharing A) (f g : Frame A) : Bool :=
  f.label.same g.label && Tree.sameEach known f.left g.left && Tree.sameEach known f.right g.right

namespace Context

/-- Whether two chains of frames are the same, as far as the shorter one goes. -/
def sameChain (known : Sharing A) : List (Frame A) → List (Frame A) → Bool
  | f :: fs, g :: gs => known.chain (f :: fs) (g :: gs) || f.same known g && sameChain known fs gs
  | _, _ => true

/-- Whether two contexts are the same. The depths are compared first, so that a frame by frame
comparison only happens between contexts of one depth. -/
def same (known : Sharing A) (c d : Context A) : Bool :=
  c.depth = d.depth && sameChain known c.frames d.frames

end Context

end TreeEditor
