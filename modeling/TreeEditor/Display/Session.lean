import TreeEditor.Display.Document
import TreeEditor.Selection.Between
import TreeEditor.Settings.Basic
import TreeEditor.Snapshot

/-!
# Printed form of an editing session

Cursors, selections, commands, snapshots and settings, each as a constructor with its arguments or
as a record with its fields.
-/

namespace TreeEditor

variable {A : Alphabet}

/-- A constructor with one argument. -/
def Outline.apply (name : String) (argument : Outline) : Outline := .group name .tuple [argument]

/-- A record. -/
def Outline.record (name : String) (fields : List (String × Outline)) : Outline :=
  .group name .record (fields.map fun (name, value) => .field name value)

/-- The name of a direction. -/
def Direction.text : Direction → String
  | up => "Up"
  | down => "Down"
  | left => "Left"
  | right => "Right"
  | next => "Next"
  | prev => "Prev"

/-- The name of an end of a range. -/
def Boundary.text : Boundary → String
  | outer => "Top"
  | inner => "Bot"

/-- The name of a fault policy. -/
def FaultPolicy.text : FaultPolicy → String
  | abort => "Panic"
  | refuse => "Reject"

/-- The printed form of a cursor. -/
def Cursor.outline (c : Cursor A) : Outline :=
  .record "Cursor" [("zipper", c.context.outline), ("exp", c.focus.outline)]

/-- The printed form of a selection. -/
def Selection.outline (s : Selection A) : Outline :=
  .record "Select" [("top", s.above.outline), ("bot", s.range.outline), ("exp", s.focus.outline),
    ("orient", .text s.movable.text)]

/-- The printed form of a span. -/
def Span.outline : Span A → Outline
  | empty => .text "Empty"
  | range s => .apply "Select" s.outline

/-- The printed form of what is in focus. -/
def Mode.outline : Mode A → Outline
  | cursor c => .apply "Cursor" c.outline
  | select s => .apply "Select" s.outline

/-- The printed form of a clipping. -/
def Clipping.outline : Clipping A → Outline
  | tree t => .apply "Exp" t.outline
  | context c => .apply "Steps" c.outline

/-- The printed form of a snapshot. -/
def Snapshot.outline (s : Snapshot A) : Outline :=
  let clipboard := match s.clipboard with
    | none => .text "None"
    | some clipping => .apply "Some" clipping.outline
  .record "EditorState" [("mode", s.mode.outline), ("clipboard", clipboard)]

/-- The printed form of a command. -/
def Command.outline : Command A → Outline
  | moveCursor d => .apply "MoveCursor" (.text d.text)
  | moveSelection d => .apply "MoveSelect" (.text d.text)
  | setCursor c => .apply "SetCursor" c.outline
  | setSelection s => .apply "SetSelect" s.outline
  | replace t => .apply "Replace" t.outline
  | insert c => .apply "Insert" c.outline
  | undo => .text "Undo"
  | redo => .text "Redo"
  | copy => .text "Copy"
  | cut => .text "Cut"
  | paste => .text "Paste"
  | delete => .text "Delete"
  | escape => .text "Escape"

/-- The printed form of settings. -/
def Settings.outline (s : Settings) : Outline :=
  .record "EditorConfig"
    [("history_limit", .text (toString s.historyLimit)), ("invariants", .text s.faults.text)]

end TreeEditor
