import Mathlib.Logic.Relation
import TreeEditor.Grammar.Lambda
import TreeEditor.Proofs.Positions
import TreeEditor.Proofs.Validity

/-!
# Composition of contexts

The operations on contexts are operations on lists: whatever is made by them has the frames that the
same operations on lists give (`Context.Recipe.frames_context`). The depth is kept beside the frames
and counted up and down on its own, and so is the number of frames that are left in a walk. Neither
is ever counted down from zero: a walk begins with an exact count, and each frame that it yields
takes one off (`Context.Walk.Exact.next`).

Filling the gap of one context with another is associative, and reversing exchanges the parts. What
is plugged into the composition, and what is checked around a tree, goes through the inner part and
then through the outer one. The outer part sees the category that the inner one presents to it.
-/

namespace TreeEditor

variable {A : Alphabet}

namespace Context

/-! ## Walks -/

namespace Walk

variable {w w' : Walk A} {f : Frame A}

theorem next?_eq_some_iff :
    w.next? = some (f, w') ↔ w.frames = f :: w'.frames ∧ w'.remaining = w.remaining - 1 := by
  obtain ⟨frames', remaining'⟩ := w'
  unfold next?
  cases w.frames with
  | nil => simp
  | cons g outer =>
    simp only [Option.some.injEq, Prod.mk.injEq, mk.injEq, List.cons.injEq]
    constructor
    · rintro ⟨rfl, rfl, rfl⟩
      exact ⟨⟨rfl, rfl⟩, rfl⟩
    · rintro ⟨⟨rfl, rfl⟩, rfl⟩
      exact ⟨rfl, rfl, rfl⟩

/-- The frames that a walk yields, one after another. -/
def toList (w : Walk A) : List (Frame A) :=
  match _h : w.next? with
  | none => []
  | some (f, w') => f :: w'.toList
termination_by w.frames.length
decreasing_by
  rw [(next?_eq_some_iff.1 _h).1, List.length_cons]
  omega

theorem toList_eq (w : Walk A) : w.toList = w.frames := by
  fun_induction toList w with
  | case1 w h =>
    unfold next? at h
    cases hframes : w.frames with
    | nil => rfl
    | cons g outer => simp [hframes] at h
  | case2 w f w' h ih => rw [ih, (next?_eq_some_iff.1 h).1]

/-- The count is that of the frames still to come. -/
def Exact (w : Walk A) : Prop := w.remaining = w.toList.length

/-- One step further. -/
def Leads (w w' : Walk A) : Prop := ∃ f, w.next? = some (f, w')

/-- A step takes one off an exact count, which leaves it exact. -/
theorem Exact.next (h : w.Exact) (hnext : w.next? = some (f, w')) :
    w.remaining = w'.remaining + 1 ∧ w'.Exact := by
  obtain ⟨hframes, hremaining⟩ := next?_eq_some_iff.1 hnext
  unfold Exact at *
  rw [toList_eq, hframes, List.length_cons] at h
  rw [toList_eq]
  omega

theorem Exact.of_reaches (h : w.Exact) (hreaches : Relation.ReflTransGen Leads w w') :
    w'.Exact := by
  induction hreaches with
  | refl => exact h
  | tail _ hleads ih =>
    obtain ⟨f, hnext⟩ := hleads
    exact (ih.next hnext).2

end Walk

theorem exact_walk (c : Context A) : c.walk.Exact := by
  unfold Walk.Exact walk
  rw [Walk.toList_eq]
  exact c.depth_eq

/-! ## What the operations make -/

/-- A way to make a context with the operations. -/
inductive Recipe (A : Alphabet) where
  | empty
  | push (r : Recipe A) (f : Frame A)
  | pop (r : Recipe A)
  | ofRootFirst (fs : List (Frame A))
  | ofFrames (fs : List (Frame A))
  | reverse (r : Recipe A)
  | append (inner outer : Recipe A)

namespace Recipe

/-- The context that is made. Popping leaves the context of a root as it is. -/
def context : Recipe A → Context A
  | empty => .empty
  | push r f => r.context.push f
  | pop r => (r.context.pop?.map Prod.snd).getD r.context
  | ofRootFirst fs => .ofRootFirst fs
  | ofFrames fs => .ofFrames fs
  | reverse r => r.context.reverse
  | append inner outer => inner.context ++ outer.context

/-- The frames it is to have, innermost first. -/
def frames : Recipe A → List (Frame A)
  | empty => []
  | push r f => f :: r.frames
  | pop r => r.frames.tail
  | ofRootFirst fs => fs.reverse
  | ofFrames fs => fs
  | reverse r => r.frames.reverse
  | append inner outer => inner.frames ++ outer.frames

theorem frames_context (r : Recipe A) : r.context.frames = r.frames := by
  induction r with
  | empty => rfl
  | push r f ih => simp [context, frames, ih]
  | pop r ih =>
    -- With nothing to pop, the context stays, as the tail of the empty list does.
    simp only [context, frames, ← ih]
    cases r.context with
    | empty => rfl
    | push c f => rfl
  | ofRootFirst fs => simp [context, frames]
  | ofFrames fs => simp [context, frames]
  | reverse r ih => simp [context, frames, ih]
  | append inner outer ihInner ihOuter => simp [context, frames, ihInner, ihOuter]

end Recipe

theorem depth_of_pop? {c d : Context A} {f : Frame A} (h : c.pop? = some (f, d)) :
    c.depth = d.depth + 1 := by
  rw [pop?_eq_some_iff.1 h, depth_push]

theorem isEmpty_iff_innermost? {c : Context A} : c.isEmpty = true ↔ c.innermost? = none := by
  unfold innermost?
  rw [isEmpty_iff, List.head?_eq_none_iff]
  exact ⟨congrArg frames, fun h => Context.ext h⟩

/-! ## Laws of composition -/

theorem push_append (c d : Context A) (f : Frame A) : c.push f ++ d = (c ++ d).push f := rfl

theorem append_assoc (c d e : Context A) : (c ++ d) ++ e = c ++ (d ++ e) := by
  ext1
  simp only [frames_append, List.append_assoc]

theorem reverse_append (c d : Context A) : (c ++ d).reverse = d.reverse ++ c.reverse := by
  ext1
  simp only [frames_reverse, frames_append, List.reverse_append]

theorem outerCat?_push (c : Context A) (f : Frame A) :
    (c.push f).outerCat? = some (c.outerCat?.getD f.cat) := by
  unfold outerCat? outermost?
  rw [frames_push, List.getLast?_cons]
  cases c.frames.getLast? <;> rfl

end Context

/-- The check around a tree goes on, after the inner part, with the category that this part
presents. -/
theorem Signature.checkAround_append (S : Signature A) (c d : Context A) (below : A.Cat) :
    S.checkAround (c ++ d) below =
      (do S.checkAround c below; S.checkAround d (c.outerCat?.getD below)) := by
  induction c generalizing below with
  | empty => rfl
  | push c f ih =>
    -- Above `f` both sides go on with its category, which `c` passes on if it has no frame.
    rw [Context.push_append, checkAround_push_eq, checkAround_push_eq, ih, Context.outerCat?_push,
      Option.getD_some, bind_assoc, bind_assoc]

namespace Context

/-- **Contexts compose, with their depth exact.** Whatever is made with the operations yields, frame
by frame, what the same operations on lists give, and its depth is the number of these frames. So it
counts as empty iff it has no innermost frame, and popping and walking take one off a count that is
not zero. Composition is associative, reversing exchanges its parts and is its own inverse, and
plugging goes through the inner part first. A composition passes around a category iff the inner
part does, and the outer one does around the category that the inner one presents. -/
theorem composes_with_exact_depth (A : Alphabet) :
    (∀ r : Recipe A,
      r.context.walk.toList = r.frames ∧ r.context.depth = r.context.walk.toList.length ∧
      (r.context.isEmpty = true ↔ r.context.innermost? = none) ∧
      (∀ f d, r.context.pop? = some (f, d) → r.context.depth = d.depth + 1) ∧
      ∀ w, Relation.ReflTransGen Walk.Leads r.context.walk w →
        w.remaining = w.toList.length ∧
        ∀ f w', w.next? = some (f, w') → w.remaining = w'.remaining + 1) ∧
    ∀ a b c : Context A,
      (∀ t, (a ++ b).plug t = b.plug (a.plug t)) ∧
      (a ++ b) ++ c = a ++ (b ++ c) ∧
      (a ++ b).reverse = b.reverse ++ a.reverse ∧
      a.reverse.reverse = a ∧
      ∀ (S : Signature A) (below : A.Cat),
        S.checkAround (a ++ b) below = .ok () ↔
          S.checkAround a below = .ok () ∧ S.checkAround b (a.outerCat?.getD below) = .ok () := by
  refine ⟨?_, ?_⟩
  · intro r
    have hexact : r.context.walk.Exact := r.context.exact_walk
    refine ⟨?_, hexact, isEmpty_iff_innermost?, fun f d => depth_of_pop?, ?_⟩
    · rw [Walk.toList_eq]
      exact r.frames_context
    · intro w hreaches
      have hw : w.Exact := hexact.of_reaches hreaches
      exact ⟨hw, fun f w' hnext => (hw.next hnext).1⟩
  · intro a b c
    refine ⟨a.plug_append b, a.append_assoc b c, a.reverse_append b, a.reverse_reverse, ?_⟩
    intro S below
    rw [S.checkAround_append, seq_eq_ok_iff]

/-- Three frames put together with each of the operations, walked to the last of them, and checked
around a binder: what is seen above it is the abstraction, an expression. -/
theorem composes_with_exact_depth_binder :
    let binder : Frame Lambda.alphabet := ⟨⟨.exp, .lam, ""⟩, [], [Lambda.var "x"]⟩
    let function := Lambda.functionFrame (Lambda.var "c")
    let argument := Lambda.argumentFrame (Lambda.var "d")
    let r : Recipe Lambda.alphabet :=
      .append (.reverse (.ofRootFirst [binder, function]))
        (.pop (.push (.ofFrames [argument]) binder))
    let inner : Context Lambda.alphabet := .ofFrames [binder]
    let outer : Context Lambda.alphabet := .ofFrames [function, argument]
    let last : Walk Lambda.alphabet := ⟨[argument], 1⟩
    let ended : Walk Lambda.alphabet := ⟨[], 0⟩
    r.context.walk.toList = [binder, function, argument] ∧ r.context.depth = 3 ∧
      r.context.pop? = some (binder, outer) ∧ r.context.depth = outer.depth + 1 ∧
      Relation.ReflTransGen Walk.Leads r.context.walk last ∧
      last.next? = some (argument, ended) ∧ last.remaining = ended.remaining + 1 ∧
      Lambda.signature.checkAround (inner ++ outer) .bind = .ok () := by
  intro binder function argument r inner outer last ended
  obtain ⟨hmade, hlaws⟩ := composes_with_exact_depth Lambda.alphabet
  obtain ⟨hlist, hdepth, -, hpop, hwalk⟩ := hmade r
  have hthree : r.context.depth = 3 := by
    rw [hdepth, hlist]
    rfl
  have hfirst : r.context.walk.Leads ⟨[function, argument], 2⟩ := ⟨binder, rfl⟩
  have hsecond : Walk.Leads ⟨[function, argument], 2⟩ last := ⟨function, rfl⟩
  have hreaches : Relation.ReflTransGen Walk.Leads r.context.walk last :=
    .tail (.single hfirst) hsecond
  have hchecks := (hlaws inner outer .empty).2.2.2.2 Lambda.signature .bind
  exact ⟨hlist, hthree, rfl, hpop binder outer rfl, hreaches, rfl,
    (hwalk last hreaches).2 argument ended rfl, hchecks.2 ⟨by cbv, by cbv⟩⟩

end Context

end TreeEditor
