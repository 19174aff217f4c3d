import TreeEditor.Selection.Basic

/-!
# Commands

What the user can ask the editor to do.
-/

namespace TreeEditor

/-- A request to move, edit or step through the history. -/
inductive Command (A : Alphabet) where
  /-- Moves the cursor; a selection collapses first. -/
  | moveCursor (d : Direction)
  /-- Moves the movable end of the selection; a cursor opens one first. -/
  | moveSelection (d : Direction)
  | setCursor (c : Cursor A)
  | setSelection (s : Selection A)
  /-- Puts a tree in place of the focus. -/
  | replace (t : Tree A)
  /-- Puts frames around the focus. -/
  | insert (c : Context A)
  | undo
  | redo
  | copy
  | cut
  | paste
  | delete
  /-- Collapses the selection to a cursor. -/
  | escape

namespace Command

variable {A : Alphabet}

/-- Whether two commands are the same. -/
def same (known : Sharing A) : Command A → Command A → Bool
  | moveCursor d, moveCursor e => d = e
  | moveSelection d, moveSelection e => d = e
  | setCursor c, setCursor d => c.same known d
  | setSelection s, setSelection t => s.same known t
  | replace t, replace u => t.same known u
  | insert c, insert d => c.same known d
  | undo, undo | redo, redo | copy, copy | cut, cut | paste, paste | delete, delete => true
  | escape, escape => true
  | _, _ => false

/-- The name of a command. -/
def name : Command A → String
  | moveCursor _ => "move_cursor"
  | moveSelection _ => "move_select"
  | setCursor _ => "set_cursor"
  | setSelection _ => "set_select"
  | replace _ => "replace"
  | insert _ => "insert"
  | undo => "undo"
  | redo => "redo"
  | copy => "copy"
  | cut => "cut"
  | paste => "paste"
  | delete => "delete"
  | escape => "escape"

end Command

end TreeEditor
