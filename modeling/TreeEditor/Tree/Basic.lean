import TreeEditor.Alphabet

/-!
# Documents

A document is a finite tree of labels. Children are a list, so a node may have any number of them,
whatever its rule: being well formed is a property (see `TreeEditor.Validity`), not part of the
type.

Positions are addressed by child indices from the root (`subtree?`). `subtrees` lists the nodes in
reading order, that is parent before children and left before right, and `size` counts them.
-/

namespace TreeEditor

/-- A labelled tree. -/
inductive Tree (A : Alphabet) where
  | node (label : Label A) (kids : List (Tree A))

namespace Tree

variable {A : Alphabet}

/-- Induction on a tree: a node has the property if its children have. -/
@[elab_as_elim, induction_eliminator]
theorem induct {motive : Tree A → Prop}
    (node : ∀ label kids, (∀ k ∈ kids, motive k) → motive (.node label kids)) (t : Tree A) :
    motive t := by
  refine @Tree.rec A motive (fun ts => ∀ k ∈ ts, motive k) node ?_ ?_ t
  · intro k hk
    cases hk
  · intro t ts ht hts k hk
    rcases List.mem_cons.1 hk with rfl | hk
    · exact ht
    · exact hts k hk

def label : Tree A → Label A
  | .node l _ => l

def kids : Tree A → List (Tree A)
  | .node _ ks => ks

@[simp] theorem label_node (l : Label A) (ks : List (Tree A)) : (node l ks).label = l := rfl

@[simp] theorem kids_node (l : Label A) (ks : List (Tree A)) : (node l ks).kids = ks := rfl

@[simp] theorem node_label_kids (t : Tree A) : node t.label t.kids = t := by cases t; rfl

/-- The category of the root. -/
def cat (t : Tree A) : A.Cat := t.label.cat

/-- The rule of the root. -/
def rule (t : Tree A) : A.Rule := t.label.rule

/-- The number of children the root has. -/
def arity (t : Tree A) : Nat := t.kids.length

mutual

/-- Equality of trees is decidable if equality of values is. -/
def decEq [DecidableEq A.Value] : (a b : Tree A) → Decidable (a = b)
  | .node l ks, .node m ls =>
    match decEqAll ks ls with
    | isTrue hkids => decidable_of_iff (l = m) (by simp [hkids])
    | isFalse hkids => isFalse (by simp [hkids])

/-- Equality of lists of trees is decidable if equality of values is. -/
def decEqAll [DecidableEq A.Value] : (ts us : List (Tree A)) → Decidable (ts = us)
  | [], [] => isTrue rfl
  | [], _ :: _ => isFalse nofun
  | _ :: _, [] => isFalse nofun
  | t :: ts, u :: us =>
    match decEq t u, decEqAll ts us with
    | isTrue ht, isTrue hts => isTrue (by rw [ht, hts])
    | isFalse ht, _ => isFalse (by simp [ht])
    | _, isFalse hts => isFalse (by simp [hts])

end

instance [DecidableEq A.Value] : DecidableEq (Tree A) := decEq

/-! ## Counting and listing nodes -/

mutual

/-- The number of nodes. -/
def size : Tree A → Nat
  | .node _ kids => 1 + sizeAll kids

/-- The number of nodes of a list of trees. -/
def sizeAll : List (Tree A) → Nat
  | [] => 0
  | t :: ts => size t + sizeAll ts

end

mutual

/-- All subtrees, the tree itself first, in reading order. -/
def subtrees : Tree A → List (Tree A)
  | .node l kids => .node l kids :: subtreesAll kids

/-- The subtrees of each tree of a list, one after another. -/
def subtreesAll : List (Tree A) → List (Tree A)
  | [] => []
  | t :: ts => subtrees t ++ subtreesAll ts

end

theorem size_eq (t : Tree A) : t.size = 1 + sizeAll t.kids := by
  cases t
  rfl

theorem size_pos (t : Tree A) : 0 < t.size := by
  rw [size_eq]
  omega

@[simp] theorem sizeAll_nil : sizeAll ([] : List (Tree A)) = 0 := rfl

@[simp] theorem sizeAll_cons (t : Tree A) (ts : List (Tree A)) :
    sizeAll (t :: ts) = t.size + sizeAll ts := rfl

@[simp] theorem sizeAll_append (ts us : List (Tree A)) :
    sizeAll (ts ++ us) = sizeAll ts + sizeAll us := by
  induction ts with
  | nil => simp
  | cons t ts ih => simp [ih, Nat.add_assoc]

@[simp] theorem sizeAll_reverse (ts : List (Tree A)) : sizeAll ts.reverse = sizeAll ts := by
  induction ts with
  | nil => rfl
  | cons t ts ih => simp [ih, Nat.add_comm]

theorem size_le_sizeAll {t : Tree A} {ts : List (Tree A)} (h : t ∈ ts) : t.size ≤ sizeAll ts := by
  induction ts with
  | nil => cases h
  | cons u us ih =>
    rcases List.mem_cons.1 h with rfl | h
    · simp
    · have := ih h
      simp only [sizeAll_cons]
      omega

/-- A child is smaller than its parent. -/
theorem size_lt_of_mem_kids {t k : Tree A} (h : k ∈ t.kids) : k.size < t.size := by
  have := size_le_sizeAll h
  rw [size_eq t]
  omega

/-! ## Addresses -/

/-- The subtree reached from the root by child indices, if there is one. -/
def subtree? (t : Tree A) : List Nat → Option (Tree A)
  | [] => some t
  | i :: path => t.kids[i]?.bind fun k => k.subtree? path

@[simp] theorem subtree?_nil (t : Tree A) : t.subtree? [] = some t := rfl

theorem subtree?_cons (t : Tree A) (i : Nat) (path : List Nat) :
    t.subtree? (i :: path) = t.kids[i]?.bind fun k => k.subtree? path := rfl

theorem subtree?_cons_eq_some_iff {t u : Tree A} {i : Nat} {path : List Nat} :
    t.subtree? (i :: path) = some u ↔ ∃ k, t.kids[i]? = some k ∧ k.subtree? path = some u :=
  Option.bind_eq_some_iff

/-- Following `p ++ q` is following `p` and then `q`. -/
theorem subtree?_append (t : Tree A) (p q : List Nat) :
    t.subtree? (p ++ q) = (t.subtree? p).bind fun k => k.subtree? q := by
  induction p generalizing t with
  | nil => rfl
  | cons i p ih =>
    simp only [List.cons_append, subtree?_cons]
    cases t.kids[i]? with
    | none => rfl
    | some k => exact ih k

end Tree

end TreeEditor
