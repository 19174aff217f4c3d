import TreeEditor.Proofs.Refusals

/-!
# Edits are local

An edit rearranges the frames around what is in focus, and what becomes of the rest of the document
is not said anywhere in it. But in all cases the document before and the one after are the same
context with two trees in its gap: one tree is exchanged for another, or frames are put around a
tree, or taken away from around it. So only the position of the gap matters. A path that parts from
the way to it leads to the same subtree as before, and the nodes on the way to it keep their labels
and the number of their children (`Context.agreeAround_plug`).
-/

namespace TreeEditor

variable {A : Alphabet}

namespace Tree

/-- Around position `p` the two trees agree: where the path to a node parts from `p`, both have the
same subtree, or both none, and the nodes above `p` have the same labels and as many children. -/
structure AgreeAround (p : List Nat) (t u : Tree A) : Prop where
  apart : ∀ q, ¬p <+: q → ¬q <+: p → u.subtree? q = t.subtree? q
  above : ∀ q, q <+: p → q ≠ p → ∃ k l, t.subtree? q = some k ∧ u.subtree? q = some l ∧
    l.label = k.label ∧ l.arity = k.arity

/-- What `t` has at `p`, `u` has at `q`. -/
def SameAt (t : Tree A) (p : List Nat) (u : Tree A) (q : List Nat) : Prop :=
  ∃ k, t.subtree? p = some k ∧ u.subtree? q = some k

theorem SameAt.symm {t u : Tree A} {p q : List Nat} (h : t.SameAt p u q) : u.SameAt q t p := by
  obtain ⟨k, ht, hu⟩ := h
  exact ⟨k, hu, ht⟩

end Tree

/-! ## One context, two trees -/

/-- What is in the gap does not matter for the other children. -/
theorem Frame.getElem?_kids_plug_of_ne (f : Frame A) (t u : Tree A) {i : Nat} (h : i ≠ f.index) :
    (f.plug u).kids[i]? = (f.plug t).kids[i]? := by
  unfold index at h
  rw [kids_plug, kids_plug]
  by_cases hleft : i < f.left.length
  · have hlt : i < f.left.reverse.length := by
      rw [List.length_reverse]
      exact hleft
    rw [List.getElem?_append_left hlt, List.getElem?_append_left hlt]
  · have hge : f.left.reverse.length ≤ i := by
      rw [List.length_reverse]
      omega
    obtain ⟨j, hj⟩ : ∃ j, i - f.left.reverse.length = j + 1 := by
      rw [List.length_reverse]
      exact ⟨i - f.left.length - 1, by omega⟩
    rw [List.getElem?_append_right hge, List.getElem?_append_right hge, hj,
      List.getElem?_cons_succ, List.getElem?_cons_succ]

namespace Context

theorem agreeAround_plug (c : Context A) (t u : Tree A) :
    (c.plug t).AgreeAround c.path (c.plug u) := by
  induction c generalizing t u with
  | empty =>
    refine ⟨?_, ?_⟩
    · intro q hpq _
      exact absurd List.nil_prefix hpq
    · intro q hprefix hne
      exact absurd (List.prefix_nil.1 hprefix) hne
  | push outer f ih =>
    have hup := ih (f.plug t) (f.plug u)
    rw [path_push, plug_push, plug_push]
    refine ⟨?_, ?_⟩
    · intro q hpq hqp
      -- Either `q` parts from the way to the node of `f`, or it goes to another child of this node.
      by_cases hbelow : outer.path <+: q
      · obtain ⟨x, rfl⟩ := hbelow
        rw [subtree?_path_append, subtree?_path_append]
        cases x with
        | nil =>
          rw [List.append_nil] at hqp
          exact absurd (List.prefix_append ..) hqp
        | cons i x =>
          have hne : i ≠ f.index := by
            rintro rfl
            exact hpq ⟨x, by simp⟩
          rw [Tree.subtree?_cons, Tree.subtree?_cons, f.getElem?_kids_plug_of_ne t u hne]
      · refine hup.apart q hbelow fun hle => hqp ?_
        exact hle.trans (List.prefix_append ..)
    · intro q hprefix hne
      have hle : q <+: outer.path := (List.prefix_concat_iff.1 hprefix).resolve_left hne
      by_cases hnode : q = outer.path
      · subst hnode
        refine ⟨f.plug t, f.plug u, outer.subtree?_path _, outer.subtree?_path _, rfl, ?_⟩
        rw [Frame.arity_plug, Frame.arity_plug]
      · exact hup.above q hle hnode

/-- Frames put around a tree take it further down, and do nothing else to it. -/
theorem sameAt_wrap (c frames : Context A) (t : Tree A) :
    (c.plug t).SameAt c.path (c.plug (frames.plug t)) (c.path ++ frames.path) := by
  refine ⟨t, c.subtree?_path t, ?_⟩
  rw [subtree?_path_append, subtree?_path]

end Context

/-! ## Edits -/

namespace Snapshot

variable {g : Grammar A} {policy : FaultPolicy} {s next : Snapshot A} {command : Command A}

section Document

variable (h : s.apply g policy command = .ok next)
include h

theorem document_of_brought_tree {c : Cursor A} {t : Tree A} (hmode : s.mode = .cursor c)
    (hbrought : s.brought? command = some (.tree t)) : next.document = c.context.plug t := by
  rw [apply_of_brought_tree hbrought] at h
  have hreplaced := replaced?_of_replace h
  rw [hmode] at hreplaced
  exact (Option.some.inj hreplaced).symm

theorem document_of_brought_context {frames : Context A}
    (hbrought : s.brought? command = some (.context frames)) :
    next.document = s.mode.wrapped frames := by
  rw [apply_of_brought_context hbrought] at h
  exact document_of_insert h

theorem document_of_removal (hremoves : command = .delete ∨ command = .cut) :
    next.document = s.mode.removed g.toSignature := by
  rcases hremoves with rfl | rfl
  · exact document_of_delete h
  · -- A cut is a copy, and then a deletion of what was copied.
    exact document_of_delete (s := s.copy) h

end Document

/-- **Edits are local.** Whatever the document is, an edit that succeeds has its effect at one
position.
- At a cursor this is its position. A tree that is brought is there afterwards, or a hole if the
  focus was removed. If frames are brought, the focus is inside them.
- At a selection it is the movable end if frames are brought; what was at this end is then inside
  them. If the range is removed it is the outer end, and what was at the inner end is there.

Everywhere else, the document is as it was. -/
theorem edits_are_local (g : Grammar A) (policy : FaultPolicy) (s next : Snapshot A)
    (command : Command A) (h : s.apply g policy command = .ok next) :
    (∀ c, s.mode = .cursor c →
      (∀ t, s.brought? command = some (.tree t) →
        next.document.subtree? c.path = some t ∧
          s.document.AgreeAround c.path next.document) ∧
      (command = .delete ∨ command = .cut →
        next.document.subtree? c.path = some (g.hole c.focus.cat) ∧
          s.document.AgreeAround c.path next.document) ∧
      ∀ frames, s.brought? command = some (.context frames) →
        s.document.SameAt c.path next.document (c.path ++ frames.path) ∧
          s.document.AgreeAround c.path next.document) ∧
    ∀ r, s.mode = .select r →
      let a := r.above.path
      let b := r.range.path
      (∀ frames, s.brought? command = some (.context frames) →
        (r.movable = .inner →
          s.document.SameAt (a ++ b) next.document (a ++ b ++ frames.path) ∧
            s.document.AgreeAround (a ++ b) next.document) ∧
        (r.movable = .outer →
          s.document.SameAt a next.document (a ++ frames.path) ∧
            s.document.AgreeAround a next.document)) ∧
      (command = .delete ∨ command = .cut →
        s.document.SameAt (a ++ b) next.document a ∧
          s.document.AgreeAround a next.document) := by
  refine ⟨?_, ?_⟩
  · intro c hmode
    have hold : s.document = c.context.plug c.focus := document_of_mode hmode
    refine ⟨?_, ?_, ?_⟩
    · intro t hbrought
      rw [hold, document_of_brought_tree h hmode hbrought]
      exact ⟨c.context.subtree?_path _, c.context.agreeAround_plug _ _⟩
    · intro hremoves
      have hnew : next.document = c.context.plug (g.hole c.focus.cat) := by
        rw [document_of_removal h hremoves, hmode]
        rfl
      rw [hold, hnew]
      exact ⟨c.context.subtree?_path _, c.context.agreeAround_plug _ _⟩
    · intro frames hbrought
      have hnew : next.document = c.context.plug (frames.plug c.focus) := by
        rw [document_of_brought_context h hbrought, hmode]
        exact Context.plug_append ..
      rw [hold, hnew]
      exact ⟨c.context.sameAt_wrap frames _, c.context.agreeAround_plug _ _⟩
  · intro r hmode a b
    have hold : s.document = r.above.plug (r.range.plug r.focus) := document_of_mode hmode
    refine ⟨?_, ?_⟩
    · intro frames hbrought
      have hnew : next.document = r.above.plug ((r.extended frames).plug r.focus) := by
        rw [document_of_brought_context h hbrought, hmode]
        rfl
      unfold Selection.extended at hnew
      refine ⟨?_, ?_⟩
      · intro hinner
        -- The gap is at the inner end, so all of the range belongs to the context.
        have hpath : a ++ b = (r.range ++ r.above).path := (Context.path_append ..).symm
        have hold' : s.document = (r.range ++ r.above).plug r.focus := by
          rw [hold, Context.plug_append]
        have hnew' : next.document = (r.range ++ r.above).plug (frames.plug r.focus) := by
          rw [hnew, hinner, Context.plug_append, Context.plug_append]
        rw [hold', hnew', hpath]
        exact ⟨Context.sameAt_wrap _ frames _, Context.agreeAround_plug _ _ _⟩
      · intro houter
        rw [houter, Context.plug_append] at hnew
        rw [hold, hnew]
        exact ⟨r.above.sameAt_wrap frames _, r.above.agreeAround_plug _ _⟩
    · intro hremoves
      have hnew : next.document = r.above.plug r.focus := by
        rw [document_of_removal h hremoves, hmode]
        rfl
      rw [hold, hnew]
      exact ⟨(r.above.sameAt_wrap r.range _).symm, r.above.agreeAround_plug _ _⟩

/-- In `((a b) c) d`, with the range from `(a b) c` to `a` and its outer end movable, the frame of
`e _` is inserted: `(a b) c` is then the argument of `e`, and `d` stays where it is. -/
theorem edits_are_local_outer_end :
    let above : Context Lambda.alphabet := .ofFrames [Lambda.functionFrame (Lambda.var "d")]
    let range : Context Lambda.alphabet := .ofFrames
      [Lambda.functionFrame (Lambda.var "b"), Lambda.functionFrame (Lambda.var "c")]
    let frames : Context Lambda.alphabet := .ofFrames [Lambda.argumentFrame (Lambda.var "e")]
    let s : Snapshot Lambda.alphabet :=
      ⟨.select (.ofRange above range (Lambda.var "a") .outer), none⟩
    ∃ next, s.apply (Lambda.grammar true) .abort (.insert frames) = .ok next ∧
      s.document.SameAt [0] next.document [0, 1] ∧
      next.document.subtree? [1] = s.document.subtree? [1] ∧ s.document = Lambda.spine := by
  intro above range frames s
  let r : Selection Lambda.alphabet := .ofRange above range (Lambda.var "a") .outer
  have hwrap : (Lambda.grammar true).Valid ((r.extended frames).plug r.focus) := by decide
  obtain ⟨next, hnext⟩ : ∃ next, s.insert (Lambda.grammar true) .abort frames = .ok next :=
    ⟨s.withSelection (r.lengthened frames),
      (insert_select_eq_ok_iff (r := r) rfl (by decide)).2 ⟨⟨⟨hwrap, rfl⟩, rfl⟩, rfl⟩⟩
  obtain ⟨-, hselect⟩ := edits_are_local (Lambda.grammar true) .abort s next (.insert frames) hnext
  obtain ⟨hsame, hagree⟩ := ((hselect r rfl).1 frames rfl).2 rfl
  exact ⟨next, hnext, hsame, hagree.apart [1] (by decide) (by decide), rfl⟩

end Snapshot

end TreeEditor
