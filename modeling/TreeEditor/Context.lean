import TreeEditor.Frame

/-!
# Contexts

A `Context` is a document with one subtree taken out: the frames on the way from the gap up to the
root, innermost first. Its `depth` is kept beside the frames, so that it is read in constant time,
and the type says that it is their number. A `Walk` goes along the frames, with a count of its own.

`frames` is the view through which every operation is described: `frames_push`, `frames_append` and
so on, and two contexts with the same frames are equal (`Context.ext`).
-/

namespace TreeEditor

/-- A chain of frames, innermost first, with its length. -/
structure Context (A : Alphabet) where
  frames : List (Frame A)
  depth : Nat
  depth_eq : depth = frames.length

namespace Context

variable {A : Alphabet}

@[ext]
theorem ext {c d : Context A} (h : c.frames = d.frames) : c = d := by
  obtain ⟨fs, n, hn⟩ := c
  obtain ⟨gs, m, hm⟩ := d
  obtain rfl : fs = gs := h
  obtain rfl : n = m := hn.trans hm.symm
  rfl

instance [DecidableEq A.Value] : DecidableEq (Context A) :=
  fun _ _ => decidable_of_iff _ Context.ext_iff.symm

/-- The context of a root. -/
def empty : Context A := ⟨[], 0, rfl⟩

/-- Puts one more frame around the gap. -/
def push (c : Context A) (f : Frame A) : Context A :=
  ⟨f :: c.frames, c.depth + 1, by simp [c.depth_eq]⟩

/-- Splits off the innermost frame. -/
def pop? (c : Context A) : Option (Frame A × Context A) :=
  match c with
  | ⟨[], _, _⟩ => none
  | ⟨f :: outer, depth, h⟩ => some (f, ⟨outer, depth - 1, by simp [h]⟩)

/-- The innermost frame. -/
def innermost? (c : Context A) : Option (Frame A) := c.frames.head?

/-- The outermost frame. -/
def outermost? (c : Context A) : Option (Frame A) := c.frames.getLast?

/-- The category that the context presents to what is around it. -/
def outerCat? (c : Context A) : Option A.Cat := c.outermost?.map Frame.cat

/-- Whether the gap is the root. -/
def isEmpty (c : Context A) : Bool := c.depth = 0

/-- The context with the given frames, innermost first. -/
def ofFrames (fs : List (Frame A)) : Context A := fs.foldr (fun f c => c.push f) empty

/-- The context with the given frames, outermost first. -/
def ofRootFirst (fs : List (Frame A)) : Context A := fs.foldl push empty

/-- The same frames in the opposite order. -/
def reverse (c : Context A) : Context A := c.frames.foldl push empty

/-- Composition: the gap of `outer` filled with `inner`. Only `inner` is traversed. -/
def append (inner outer : Context A) : Context A :=
  inner.frames.foldr (fun f c => c.push f) outer

instance : Append (Context A) := ⟨append⟩

/-- The document with `t` in the gap. -/
def plug (c : Context A) (t : Tree A) : Tree A := c.frames.foldl (fun t f => f.plug t) t

/-- The child indices of the gaps, innermost first. -/
def indices (c : Context A) : List Nat := c.frames.map Frame.index

/-- The child indices that lead from the root to the gap. -/
def path (c : Context A) : List Nat := c.indices.reverse

/-- A walk along frames, innermost first: those that are still to come, and how many are left. -/
structure Walk (A : Alphabet) where
  frames : List (Frame A)
  remaining : Nat

/-- The walk along the frames of a context. -/
def walk (c : Context A) : Walk A := ⟨c.frames, c.depth⟩

/-- The next frame of a walk, and the walk after it. -/
def Walk.next? (w : Walk A) : Option (Frame A × Walk A) :=
  match w.frames with
  | [] => none
  | f :: outer => some (f, ⟨outer, w.remaining - 1⟩)

/-! ## Operations through the view -/

@[simp] theorem frames_empty : (empty : Context A).frames = [] := rfl

@[simp] theorem frames_push (c : Context A) (f : Frame A) : (c.push f).frames = f :: c.frames :=
  rfl

@[simp] theorem frames_ofFrames (fs : List (Frame A)) : (ofFrames fs).frames = fs := by
  induction fs with
  | nil => rfl
  | cons f fs ih => exact congrArg (f :: ·) ih

theorem frames_foldl_push (fs : List (Frame A)) (c : Context A) :
    (fs.foldl push c).frames = fs.reverse ++ c.frames := by
  induction fs generalizing c with
  | nil => rfl
  | cons f fs ih => simp [ih]

@[simp] theorem frames_ofRootFirst (fs : List (Frame A)) :
    (ofRootFirst fs).frames = fs.reverse := by
  simp [ofRootFirst, frames_foldl_push]

@[simp] theorem frames_reverse (c : Context A) : c.reverse.frames = c.frames.reverse := by
  simp [reverse, frames_foldl_push]

@[simp] theorem frames_append (inner outer : Context A) :
    (inner ++ outer).frames = inner.frames ++ outer.frames := by
  show (inner.frames.foldr (fun f c => c.push f) outer).frames = _
  induction inner.frames with
  | nil => rfl
  | cons f fs ih => exact congrArg (f :: ·) ih

theorem ofFrames_frames (c : Context A) : ofFrames c.frames = c := by
  ext1
  simp

@[simp] theorem depth_empty : (empty : Context A).depth = 0 := rfl

@[simp] theorem depth_push (c : Context A) (f : Frame A) : (c.push f).depth = c.depth + 1 := rfl

@[simp] theorem pop?_empty : (empty : Context A).pop? = none := rfl

@[simp] theorem pop?_push (c : Context A) (f : Frame A) : (c.push f).pop? = some (f, c) := rfl

@[simp] theorem plug_empty (t : Tree A) : (empty : Context A).plug t = t := rfl

@[simp] theorem plug_push (c : Context A) (f : Frame A) (t : Tree A) :
    (c.push f).plug t = c.plug (f.plug t) := rfl

/-- A context is empty or pushed onto a context. -/
@[elab_as_elim, cases_eliminator]
theorem casesPush {motive : Context A → Prop} (empty : motive empty)
    (push : ∀ c f, motive (push c f)) (c : Context A) : motive c := by
  obtain ⟨fs, n, h⟩ := c
  subst h
  match fs with
  | [] => exact empty
  | f :: fs => exact push ⟨fs, fs.length, rfl⟩ f

/-- Induction on a context from the root inwards. -/
@[elab_as_elim, induction_eliminator]
theorem inductPush {motive : Context A → Prop} (empty : motive empty)
    (push : ∀ c f, motive c → motive (push c f)) (c : Context A) : motive c := by
  obtain ⟨fs, n, h⟩ := c
  subst h
  induction fs with
  | nil => exact empty
  | cons f fs ih => exact push ⟨fs, fs.length, rfl⟩ f ih

/-- Popping gives back what was pushed. -/
theorem pop?_eq_some_iff {c d : Context A} {f : Frame A} :
    c.pop? = some (f, d) ↔ c = d.push f := by
  cases c with
  | empty =>
    simp only [pop?_empty, reduceCtorEq, false_iff]
    intro h
    cases congrArg frames h
  | push c g =>
    simp only [pop?_push, Option.some.injEq, Prod.mk.injEq]
    constructor
    · rintro ⟨rfl, rfl⟩
      rfl
    · intro h
      have := congrArg frames h
      simp only [frames_push, List.cons.injEq] at this
      exact ⟨this.1, Context.ext this.2⟩

end Context

end TreeEditor
