import TreeEditor.Alphabet
import TreeEditor.Command
import TreeEditor.Comparison
import TreeEditor.Context
import TreeEditor.Cursor.Basic
import TreeEditor.Cursor.Traversal
import TreeEditor.Direction
import TreeEditor.Display.Document
import TreeEditor.Display.Outline
import TreeEditor.Display.Session
import TreeEditor.Editor
import TreeEditor.Fault
import TreeEditor.Frame
import TreeEditor.Grammar.Basic
import TreeEditor.Grammar.Lambda
import TreeEditor.Grammar.Movement
import TreeEditor.Grammar.Numeric
import TreeEditor.Grammar.Table
import TreeEditor.History
import TreeEditor.Mode
import TreeEditor.Query
import TreeEditor.Refusal
import TreeEditor.Selection.Basic
import TreeEditor.Selection.Between
import TreeEditor.Selection.Boundary
import TreeEditor.Settings.Basic
import TreeEditor.Settings.Text
import TreeEditor.Signature
import TreeEditor.Snapshot
import TreeEditor.Text.Alphanumeric
import TreeEditor.Text.Combining
import TreeEditor.Text.Quoted
import TreeEditor.Text.Ranges
import TreeEditor.Text.Unprintable
import TreeEditor.Toml.Document
import TreeEditor.Toml.Quoted
import TreeEditor.Toml.Token
import TreeEditor.Toml.Value
import TreeEditor.Tree.Basic
import TreeEditor.Validity
import TreeEditor.Proofs.Comparison
import TreeEditor.Proofs.Composition
import TreeEditor.Proofs.Edits
import TreeEditor.Proofs.Ends
import TreeEditor.Proofs.FirstFault
import TreeEditor.Proofs.Focus
import TreeEditor.Proofs.Frames
import TreeEditor.Proofs.Integrity
import TreeEditor.Proofs.Locality
import TreeEditor.Proofs.Policies
import TreeEditor.Proofs.Positions
import TreeEditor.Proofs.Progress
import TreeEditor.Proofs.Queries
import TreeEditor.Proofs.ReadingOrder
import TreeEditor.Proofs.Reflection
import TreeEditor.Proofs.Refusals
import TreeEditor.Proofs.Retracing
import TreeEditor.Proofs.Runs
import TreeEditor.Proofs.Safety
import TreeEditor.Proofs.Selections
import TreeEditor.Proofs.Stacks
import TreeEditor.Proofs.Stretching
import TreeEditor.Proofs.Sweeping
import TreeEditor.Proofs.Templates
import TreeEditor.Proofs.Timeline
import TreeEditor.Proofs.Traversal
import TreeEditor.Proofs.Validity
