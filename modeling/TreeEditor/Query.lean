import TreeEditor.Command
import TreeEditor.Grammar.Basic

/-!
# Queries

A text typed at the focus means at most one node, as the grammar reads it. A leaf replaces the
focus. A node with children goes around the focus, once for each slot that the focus fits, with
holes in its other slots; so one text may have several candidates, and an index chooses among them.
-/

namespace TreeEditor

/-- The commands that a text typed at a focus of category `cat` may mean. -/
def Grammar.candidates {A : Alphabet} (g : Grammar A) (cat : A.Cat) (text : String) :
    List (Command A) :=
  match g.readQuery cat text with
  | none => []
  | some (rule, value) =>
    let label : Label A := ⟨cat, rule, value⟩
    let slots := g.slots rule
    if slots.isEmpty then [.replace (g.template label)]
    else
      (List.range slots.length).filter (fun i => slots[i]? = some cat)
        |>.filterMap (g.templateFrame? label)
        |>.map fun f => .insert (Context.empty.push f)

/-- The item at an index that wraps around the end of the list. -/
def pick? {α : Type} (items : List α) (index : Nat) : Option α := items[index % items.length]?

end TreeEditor
