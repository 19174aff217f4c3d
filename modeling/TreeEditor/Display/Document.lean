import TreeEditor.Context
import TreeEditor.Display.Outline

/-!
# Printed form of documents

A node is printed as its rule and value followed by its children, the gap of a frame as a box, and
a context as the list of its frames, innermost first.
-/

namespace TreeEditor

variable {A : Alphabet}

/-- The rule of a node with its value in parentheses. -/
def Label.head (l : Label A) : String := A.showRule l.rule ++ "(" ++ A.showValue l.value ++ ")"

namespace Tree

mutual

/-- The printed form of a tree; a leaf has no brackets. -/
def outline : Tree A → Outline
  | .node l [] => .text l.head
  | .node l (k :: ks) => .group l.head .list (outlines (k :: ks))

/-- The printed forms of trees. -/
def outlines : List (Tree A) → List Outline
  | [] => []
  | t :: ts => outline t :: outlines ts

end

end Tree

/-- The printed form of a frame. -/
def Frame.outline (f : Frame A) : Outline :=
  .group f.label.head .list
    (Tree.outlines f.left.reverse ++ .text "□" :: Tree.outlines f.right)

/-- The printed form of a context. -/
def Context.outline (c : Context A) : Outline := .group "" .list (c.frames.map Frame.outline)

end TreeEditor
