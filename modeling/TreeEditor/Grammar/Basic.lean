import TreeEditor.Selection.Basic

/-!
# Grammars

A `Grammar` is a signature together with the choices an editor for the language leaves open: which
positions and ranges may be in focus, what typed text means, and where a selection collapses to.
Each choice has a default, under which nothing is hidden and no text means anything. Comparisons of
documents may use what the editor knows of them in memory, by default nothing.
-/

namespace TreeEditor

/-- A signature with the editing conventions of its language. -/
structure Grammar (A : Alphabet) extends Signature A where
  /-- Whether a position may be in focus. -/
  admitsCursor : Cursor A → Bool := fun _ => true
  /-- Whether a range may be in focus. -/
  admitsSelection : Selection A → Bool := fun _ => true
  /-- The node meant by a text that is typed at a focus of a category. -/
  readQuery : A.Cat → String → Option (A.Rule × A.Value) := fun _ _ => none
  /-- The cursor to which a selection collapses. -/
  collapse : Selection A → Cursor A := Selection.movableCursor
  /-- What is known of documents in memory when they are compared. -/
  known : Sharing A := .nothing

end TreeEditor
