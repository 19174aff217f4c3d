import TreeEditor.Grammar.Lambda
import TreeEditor.Proofs.Selections
import TreeEditor.Snapshot

/-!
# What an edit builds, and when

Each edit has one specification: the snapshot it gives, and the exact condition under which it
gives it (`Snapshot.replace_eq_ok_iff`, `Snapshot.insert_cursor_eq_ok_iff` and so on). The
conditions are local, as the checks are. By `Signature.valid_exchange` each says of a valid document
that the edited document is valid and keeps the category of its root (`Snapshot.apply_builds`). What
was cut out of a valid document meets the condition of a paste in its old place, so it can be put
back (`Snapshot.paste_restores_cut`).
-/

namespace TreeEditor

variable {A : Alphabet}

/-! ## Growing ranges -/

namespace Selection

/-- The range with more frames at its movable end. -/
def extended (r : Selection A) (frames : Context A) : Context A :=
  match r.movable with
  | .inner => frames ++ r.range
  | .outer => r.range ++ frames

/-- The selection of the longer range, with the same end movable. -/
def lengthened (r : Selection A) (frames : Context A) : Selection A :=
  .ofRange r.above (r.extended frames) r.focus r.movable

theorem grow_eq_lengthened (r : Selection A) (frames : Context A) :
    r.grow frames = r.lengthened frames := by
  unfold grow lengthened extended
  cases r.movable <;> rfl

theorem document_lengthened (r : Selection A) (frames : Context A) :
    (r.lengthened frames).document = r.above.plug ((r.extended frames).plug r.focus) := by
  rw [document_eq]
  unfold lengthened
  rw [above_ofRange, range_ofRange, focus_ofRange]

/-- A range that is empty after growing was empty before. -/
theorem outerCat_of_extended_empty {r : Selection A} {frames : Context A}
    (h : (r.extended frames).frames = []) : r.outerCat = r.focus.cat := by
  have hrange : r.range.frames = [] := by
    unfold extended at h
    cases hmovable : r.movable with
    | inner =>
      rw [hmovable, Context.frames_append] at h
      exact (List.append_eq_nil_iff.1 h).2
    | outer =>
      rw [hmovable, Context.frames_append] at h
      exact (List.append_eq_nil_iff.1 h).1
  rw [outerCat_eq]
  unfold Context.plug
  rw [hrange]
  rfl

theorem checkEach_extended {S : Signature A} {r : Selection A} {frames : Context A} :
    S.checkEach (r.extended frames) = .ok () ↔
      S.checkEach r.range = .ok () ∧ S.checkEach frames = .ok () := by
  unfold extended
  cases r.movable with
  | inner => rw [S.checkEach_append, and_comm]
  | outer => exact S.checkEach_append

end Selection

/-! ## The local checks -/

theorem mapError_eq_ok_iff {ε ε' α : Type} {f : ε → ε'} {x : Except ε α} {a : α} :
    x.mapError f = .ok a ↔ x = .ok a := by
  cases x with
  | ok b =>
    constructor
    · rintro ⟨⟩
      rfl
    · rintro ⟨⟩
      rfl
  | error e => exact iff_of_false nofun nofun

theorem Check.enforce_eq_ok_iff {policy : FaultPolicy} {check : Check A} :
    check.enforce policy = .ok () ↔ check = .ok () :=
  mapError_eq_ok_iff

theorem Check.fit_eq_ok_iff {check : Check A} : check.fit = .ok () ↔ check = .ok () :=
  mapError_eq_ok_iff

theorem Context.checkSwap_eq_ok_iff {c : Context A} {current found : A.Cat} {rule : A.Rule} :
    c.checkSwap current found rule = .ok () ↔ found = current := by
  unfold checkSwap
  by_cases hcat : found = current
  · simp [hcat]
  · rw [if_neg hcat]
    cases c.innermost? with
    | none => simp [hcat]
    | some parent => simp [hcat]

/-- Frames can go around a valid tree, in the place of something of category `outer`, iff the tree
they make is valid and of that category. For no frames at all, nothing is compared. -/
theorem Context.checkWrap_eq_ok_iff {S : Signature A} {c above : Context A} {t : Tree A}
    {outer : A.Cat} (ht : S.Valid t) (hempty : c.frames = [] → outer = t.cat) :
    c.checkWrap S t.cat above outer = .ok () ↔
      S.Valid (c.plug t) ∧ (c.plug t).cat = outer := by
  unfold checkWrap
  rw [seq_eq_ok_iff, S.valid_plug, c.cat_plug]
  refine and_congr (by simp [ht]) ?_
  unfold outerCat?
  cases hlast : c.outermost? with
  | none =>
    have hnil : c.frames = [] := List.getLast?_eq_none_iff.1 hlast
    simp [hempty hnil]
  | some f => exact checkSwap_eq_ok_iff

theorem Selection.checkRemoval_eq_ok_iff {r : Selection A} :
    r.checkRemoval = .ok () ↔ r.focus.cat = r.outerCat := by
  unfold checkRemoval keepsCategory
  cases hlast : r.outermost? with
  | none =>
    have hcat : r.outerCat = r.focus.cat := by
      unfold outerCat
      rw [hlast]
      rfl
    simp [hcat]
  | some f =>
    by_cases hcat : r.outerCat = r.focus.cat
    · simp [hcat]
    · simp [hcat, Ne.symm hcat]

/-! ## One specification for each edit -/

namespace Snapshot

variable {g : Grammar A} {policy : FaultPolicy} {s next : Snapshot A}

theorem replace_eq_ok_iff {c : Cursor A} {t : Tree A} (hmode : s.mode = .cursor c) :
    s.replace g policy t = .ok next ↔
      (g.Valid t ∧ t.cat = c.focus.cat) ∧ s.withCursor (c.withFocus t) = next := by
  unfold replace
  rw [hmode]
  simp only [seq_eq_ok_iff, Check.enforce_eq_ok_iff, Check.fit_eq_ok_iff,
    Context.checkSwap_eq_ok_iff, Signature.validate_eq_ok_iff, pure, Except.pure, Except.ok.injEq,
    and_assoc]

theorem insert_cursor_eq_ok_iff {c : Cursor A} {frames : Context A} (hmode : s.mode = .cursor c)
    (hfocus : g.Valid c.focus) :
    s.insert g policy frames = .ok next ↔
      (g.Valid (frames.plug c.focus) ∧ (frames.plug c.focus).cat = c.focus.cat) ∧
        s.withCursor ⟨frames ++ c.context, c.focus⟩ = next := by
  unfold insert
  rw [hmode]
  simp only [seq_eq_ok_iff, Check.enforce_eq_ok_iff, Check.fit_eq_ok_iff,
    Context.checkWrap_eq_ok_iff hfocus fun _ => rfl, pure, Except.pure, Except.ok.injEq]
  constructor
  · rintro ⟨-, hwrap, hnext⟩
    exact ⟨hwrap, hnext⟩
  · rintro ⟨hwrap, hnext⟩
    have haround := (g.valid_plug.1 hwrap.1).2
    exact ⟨g.checkEach_of_checkAround haround, hwrap, hnext⟩

theorem insert_select_eq_ok_iff {r : Selection A} {frames : Context A} (hmode : s.mode = .select r)
    (hfocus : g.Valid r.focus) :
    s.insert g policy frames = .ok next ↔
      ((g.Valid ((r.extended frames).plug r.focus) ∧
        ((r.extended frames).plug r.focus).cat = r.outerCat) ∧
        g.admitsSelection (r.lengthened frames) = true) ∧
        s.withSelection (r.lengthened frames) = next := by
  unfold insert
  rw [hmode]
  simp only [r.grow_eq_lengthened, seq_eq_ok_iff, Check.enforce_eq_ok_iff, Check.fit_eq_ok_iff]
  have hrange : (r.lengthened frames).range = r.extended frames := Selection.range_ofRange ..
  rw [hrange, Context.checkWrap_eq_ok_iff hfocus Selection.outerCat_of_extended_empty]
  constructor
  · rintro ⟨-, hwrap, hlast⟩
    by_cases hadmits : g.admitsSelection (r.lengthened frames) = true
    · rw [if_pos hadmits] at hlast
      exact ⟨⟨hwrap, hadmits⟩, Except.ok.inj hlast⟩
    · rw [if_neg hadmits] at hlast
      cases hlast
  · rintro ⟨⟨hwrap, hadmits⟩, hnext⟩
    refine ⟨?_, hwrap, ?_⟩
    · -- The inserted frames are among those of the longer range, which pass around the focus.
      have hall := g.checkEach_of_checkAround (g.valid_plug.1 hwrap.1).2
      exact (Selection.checkEach_extended.1 hall).2
    · rw [if_pos hadmits, hnext]
      rfl

/-- What an insertion leaves in focus, whatever the document is. -/
theorem of_insert {frames : Context A} (h : s.insert g policy frames = .ok next) :
    (∃ c, s.mode = .cursor c ∧ s.withCursor ⟨frames ++ c.context, c.focus⟩ = next) ∨
      ∃ r, s.mode = .select r ∧ g.admitsSelection (r.lengthened frames) = true ∧
        s.withSelection (r.lengthened frames) = next := by
  unfold insert at h
  obtain ⟨-, h⟩ := seq_eq_ok_iff.1 h
  cases hmode : s.mode with
  | cursor c =>
    rw [hmode] at h
    obtain ⟨-, h⟩ := seq_eq_ok_iff.1 h
    exact .inl ⟨c, rfl, Except.ok.inj h⟩
  | select r =>
    rw [hmode] at h
    simp only [r.grow_eq_lengthened] at h
    obtain ⟨-, h⟩ := seq_eq_ok_iff.1 h
    split at h
    · next hadmits => exact .inr ⟨r, rfl, hadmits, Except.ok.inj h⟩
    · cases h

theorem remove_cursor_eq_ok_iff {c d : Cursor A} :
    remove g policy (.cursor c) = .ok d ↔
      g.Valid (g.hole c.focus.cat) ∧ c.withFocus (g.hole c.focus.cat) = d := by
  unfold remove
  simp only [seq_eq_ok_iff, Check.enforce_eq_ok_iff, Signature.validate_eq_ok_iff, pure,
    Except.pure, Except.ok.injEq]

theorem remove_select_eq_ok_iff {r : Selection A} {d : Cursor A} :
    remove g policy (.select r) = .ok d ↔ r.focus.cat = r.outerCat ∧ ⟨r.above, r.focus⟩ = d := by
  unfold remove
  simp only [seq_eq_ok_iff, Check.fit_eq_ok_iff, Selection.checkRemoval_eq_ok_iff, pure,
    Except.pure, Except.ok.injEq]

theorem delete_eq_ok_iff {d : Cursor A} {legal : Prop}
    (hremove : ∀ d', remove g policy s.mode = .ok d' ↔ legal ∧ d = d') :
    s.delete g policy = .ok next ↔ legal ∧ s.withCursor d = next := by
  unfold delete
  cases hout : remove g policy s.mode with
  | error stop =>
    constructor
    · intro h
      cases h
    · rintro ⟨hlegal, -⟩
      have hok := (hremove d).2 ⟨hlegal, rfl⟩
      rw [hout] at hok
      cases hok
  | ok d' =>
    obtain ⟨hlegal, rfl⟩ := (hremove d').1 hout
    constructor
    · intro h
      exact ⟨hlegal, Except.ok.inj h⟩
    · rintro ⟨-, hnext⟩
      exact congrArg Except.ok hnext

theorem paste_of_tree {t : Tree A} (h : s.clipboard = some (.tree t)) :
    s.paste g policy = s.replace g policy t := by
  unfold paste
  rw [h]

theorem paste_of_context {frames : Context A} (h : s.clipboard = some (.context frames)) :
    s.paste g policy = s.insert g policy frames := by
  unfold paste
  rw [h]

/-- A cut is a copy, and then a deletion of what was copied. -/
theorem cut_eq_ok_iff {d : Cursor A} {legal : Prop}
    (hremove : ∀ d', remove g policy s.mode = .ok d' ↔ legal ∧ d = d') :
    s.cut g policy = .ok next ↔ legal ∧ s.copy.withCursor d = next :=
  delete_eq_ok_iff (s := s.copy) hremove

end Snapshot

/-! ## The document that an edit builds -/

namespace Mode

/-- The document with a tree in place of the focus. For a range there is none. -/
def replaced? (m : Mode A) (t : Tree A) : Option (Tree A) :=
  match m with
  | .cursor c => some (c.context.plug t)
  | .select _ => none

/-- The document with frames around the focus, or at the movable end of the range. -/
def wrapped (m : Mode A) (frames : Context A) : Tree A :=
  match m with
  | .cursor c => (frames ++ c.context).plug c.focus
  | .select r => r.above.plug ((r.extended frames).plug r.focus)

/-- The document with a hole in place of the focus, or without the range. -/
def removed (S : Signature A) : Mode A → Tree A
  | .cursor c => c.context.plug (S.hole c.focus.cat)
  | .select r => r.above.plug r.focus

/-- Whether what is in focus once frames are put there may be in focus. -/
def admitsFrames (g : Grammar A) (m : Mode A) (frames : Context A) : Bool :=
  match m with
  | .cursor _ => true
  | .select r => g.admitsSelection (r.lengthened frames)

end Mode

namespace Snapshot

/-- The document that a command builds if it is an edit of what is in focus. -/
def edited? (S : Signature A) (s : Snapshot A) : Command A → Option (Tree A)
  | .replace t => s.mode.replaced? t
  | .insert frames => some (s.mode.wrapped frames)
  | .paste =>
    match s.clipboard with
    | none => none
    | some (.tree t) => s.mode.replaced? t
    | some (.context frames) => some (s.mode.wrapped frames)
  | .delete | .cut => some (s.mode.removed S)
  | _ => none

/-- Whether the grammar admits what an edit would leave in focus. Only a range that grows is
asked about. -/
def admitsEdit (g : Grammar A) (s : Snapshot A) : Command A → Bool
  | .insert frames => s.mode.admitsFrames g frames
  | .paste =>
    match s.clipboard with
    | some (.context frames) => s.mode.admitsFrames g frames
    | _ => true
  | _ => true

/-- An outcome that is a snapshot of `t` if `legal` holds, and a refusal otherwise. -/
def Builds (x : Outcome A (Snapshot A)) (t : Tree A) (legal : Prop) : Prop :=
  ∃ next : Snapshot A, next.document = t ∧ ∀ s', x = .ok s' ↔ legal ∧ next = s'

variable {g : Grammar A} {policy : FaultPolicy} {s : Snapshot A} {doc : Tree A}

theorem document_of_mode {m : Mode A} (hmode : s.mode = m) : s.document = m.document := by
  unfold document
  rw [hmode]

/-! ### Edits that succeed

What they build does not depend on whether the document is valid. -/

section Document

variable {next : Snapshot A}

/-- Only at a cursor is a tree put in place of the focus. -/
theorem replaced?_of_replace {t : Tree A} (h : s.replace g policy t = .ok next) :
    s.mode.replaced? t = some next.document := by
  cases hmode : s.mode with
  | cursor c =>
    obtain ⟨-, rfl⟩ := (replace_eq_ok_iff hmode).1 h
    rfl
  | select r =>
    unfold replace at h
    rw [hmode] at h
    cases h

theorem document_of_insert {frames : Context A} (h : s.insert g policy frames = .ok next) :
    next.document = s.mode.wrapped frames := by
  rcases of_insert h with ⟨c, hmode, rfl⟩ | ⟨r, hmode, -, rfl⟩
  · rw [hmode]
    rfl
  · rw [hmode]
    exact r.document_lengthened frames

theorem document_of_delete (h : s.delete g policy = .ok next) :
    next.document = s.mode.removed g.toSignature := by
  cases hmode : s.mode with
  | cursor c =>
    obtain ⟨-, rfl⟩ := (delete_eq_ok_iff fun d => by rw [hmode, remove_cursor_eq_ok_iff]).1 h
    rfl
  | select r =>
    obtain ⟨-, rfl⟩ := (delete_eq_ok_iff fun d => by rw [hmode, remove_select_eq_ok_iff]).1 h
    rfl

end Document

/-! ### Edits of a valid document -/

theorem replace_builds {t : Tree A} (hs : g.Valid s.document)
    (hdoc : s.mode.replaced? t = some doc) :
    Builds (s.replace g policy t) doc (g.Valid doc ∧ doc.cat = s.document.cat) := by
  cases hmode : s.mode with
  | select r =>
    rw [hmode] at hdoc
    cases hdoc
  | cursor c =>
    rw [hmode] at hdoc
    obtain rfl : c.context.plug t = doc := Option.some.inj hdoc
    rw [document_of_mode hmode] at hs ⊢
    refine ⟨s.withCursor (c.withFocus t), rfl, fun s' => ?_⟩
    rw [replace_eq_ok_iff hmode]
    exact and_congr_left' (g.valid_exchange hs).symm

theorem insert_builds {frames : Context A} (hs : g.Valid s.document) :
    Builds (s.insert g policy frames) (s.mode.wrapped frames)
      ((g.Valid (s.mode.wrapped frames) ∧ (s.mode.wrapped frames).cat = s.document.cat) ∧
        s.mode.admitsFrames g frames = true) := by
  cases hmode : s.mode with
  | cursor c =>
    rw [document_of_mode hmode] at hs ⊢
    refine ⟨s.withCursor ⟨frames ++ c.context, c.focus⟩, rfl, fun s' => ?_⟩
    have hplug : (Mode.cursor c).wrapped frames = c.context.plug (frames.plug c.focus) :=
      Context.plug_append ..
    rw [insert_cursor_eq_ok_iff hmode (g.valid_plug.1 hs).1, hplug]
    refine and_congr_left' ?_
    rw [← g.valid_exchange hs]
    exact (and_iff_left rfl).symm
  | select r =>
    rw [document_of_mode hmode] at hs ⊢
    have hfocus : g.Valid r.focus := (g.valid_plug.1 (g.valid_plug.1 hs).1).1
    refine ⟨s.withSelection (r.lengthened frames), ?_, fun s' => ?_⟩
    · exact r.document_lengthened frames
    · rw [insert_select_eq_ok_iff hmode hfocus, r.outerCat_eq]
      exact and_congr_left' (and_congr_left' (g.valid_exchange hs).symm)

theorem delete_builds (hs : g.Valid s.document) :
    Builds (s.delete g policy) (s.mode.removed g.toSignature)
      (g.Valid (s.mode.removed g.toSignature) ∧
        (s.mode.removed g.toSignature).cat = s.document.cat) := by
  cases hmode : s.mode with
  | cursor c =>
    rw [document_of_mode hmode] at hs ⊢
    refine ⟨s.withCursor (c.withFocus (g.hole c.focus.cat)), rfl, fun s' => ?_⟩
    rw [delete_eq_ok_iff fun d => by rw [hmode, remove_cursor_eq_ok_iff]]
    refine and_congr_left' ?_
    -- The hole has the category of the focus, so only its own validity is at stake.
    have hexchange := g.valid_exchange hs (u := g.hole c.focus.cat)
    exact (and_iff_left rfl).symm.trans hexchange.symm
  | select r =>
    rw [document_of_mode hmode] at hs ⊢
    have hfocus : g.Valid r.focus := (g.valid_plug.1 (g.valid_plug.1 hs).1).1
    refine ⟨s.withCursor ⟨r.above, r.focus⟩, rfl, fun s' => ?_⟩
    rw [delete_eq_ok_iff fun d => by rw [hmode, remove_select_eq_ok_iff], r.outerCat_eq]
    refine and_congr_left' ?_
    have hexchange := g.valid_exchange hs (u := r.focus)
    exact (and_iff_right hfocus).symm.trans hexchange.symm

theorem cut_builds (hs : g.Valid s.document) :
    Builds (s.cut g policy) (s.mode.removed g.toSignature)
      (g.Valid (s.mode.removed g.toSignature) ∧
        (s.mode.removed g.toSignature).cat = s.document.cat) :=
  -- A cut is a copy, and then a deletion of what was copied.
  delete_builds (s := s.copy) hs

/-- Every edit of a valid document builds what `edited?` says, exactly when that is legal. -/
theorem apply_builds {command : Command A} (hs : g.Valid s.document)
    (hedit : s.edited? g.toSignature command = some doc) :
    Builds (s.apply g policy command) doc
      ((g.Valid doc ∧ doc.cat = s.document.cat) ∧ s.admitsEdit g command = true) := by
  -- Where no range grows the last condition says nothing.
  have hplain : ∀ {x : Outcome A (Snapshot A)} {t : Tree A} {legal : Prop},
      Builds x t legal → Builds x t (legal ∧ true = true) := by
    intro x t legal h
    simpa using h
  cases command with
  | replace t => exact hplain (replace_builds hs hedit)
  | insert frames =>
    obtain rfl : s.mode.wrapped frames = doc := Option.some.inj hedit
    exact insert_builds hs
  | delete =>
    obtain rfl : s.mode.removed g.toSignature = doc := Option.some.inj hedit
    exact hplain (delete_builds hs)
  | cut =>
    obtain rfl : s.mode.removed g.toSignature = doc := Option.some.inj hedit
    exact hplain (cut_builds hs)
  | paste =>
    unfold edited? at hedit
    unfold apply paste admitsEdit
    cases hclip : s.clipboard with
    | none =>
      rw [hclip] at hedit
      cases hedit
    | some clip =>
      rw [hclip] at hedit
      cases clip with
      | tree t => exact hplain (replace_builds hs hedit)
      | context frames =>
        obtain rfl : s.mode.wrapped frames = doc := Option.some.inj hedit
        exact insert_builds hs
  | moveCursor d => cases hedit
  | moveSelection d => cases hedit
  | setCursor c => cases hedit
  | setSelection r => cases hedit
  | undo => cases hedit
  | redo => cases hedit
  | copy => cases hedit
  | escape => cases hedit

theorem legal_of_edit {command : Command A} {next : Snapshot A} (hs : g.Valid s.document)
    (hedit : s.edited? g.toSignature command = some doc)
    (h : s.apply g policy command = .ok next) :
    g.Valid next.document ∧ next.document.cat = s.document.cat := by
  obtain ⟨built, rfl, hiff⟩ : Builds (s.apply g policy command) doc _ := apply_builds hs hedit
  obtain ⟨⟨hlegal, -⟩, rfl⟩ := (hiff next).1 h
  exact hlegal

/-- **The local checks accept exactly the legal edits.** An edit of a valid document succeeds iff
the document it builds is valid, has the category of the old one at its root and, if a range grows,
leaves a range in focus that the grammar admits. -/
theorem edit_succeeds_iff_legal (g : Grammar A) (policy : FaultPolicy) (s : Snapshot A)
    (command : Command A) (t : Tree A) (hs : g.validate s.document = .ok ())
    (hedit : s.edited? g.toSignature command = some t) :
    ((∃ next, s.apply g policy command = .ok next) ↔
      g.validate t = .ok () ∧ t.cat = s.document.cat ∧ s.admitsEdit g command = true) ∧
      ∀ next, s.apply g policy command = .ok next → next.document = t := by
  rw [Signature.validate_eq_ok_iff] at hs ⊢
  obtain ⟨built, hbuilt, hiff⟩ : Builds (s.apply g policy command) t _ := apply_builds hs hedit
  refine ⟨⟨?_, ?_⟩, ?_⟩
  · rintro ⟨next, hnext⟩
    exact and_assoc.1 ((hiff next).1 hnext).1
  · intro hlegal
    exact ⟨built, (hiff built).2 ⟨and_assoc.2 hlegal, rfl⟩⟩
  · intro next hnext
    rw [← ((hiff next).1 hnext).2]
    exact hbuilt

/-- Pasting the frame of `c _` above the selected frame of `_ b`, around `a`. -/
theorem edit_succeeds_iff_legal_paste :
    let range : Selection Lambda.alphabet :=
      .ofRange .empty (.ofFrames [Lambda.functionFrame (Lambda.var "b")]) (Lambda.var "a") .outer
    let s : Snapshot Lambda.alphabet :=
      ⟨.select range, some (.context (.ofFrames [Lambda.argumentFrame (Lambda.var "c")]))⟩
    s.edited? Lambda.signature .paste =
        some (Lambda.app (Lambda.var "c") (Lambda.app (Lambda.var "a") (Lambda.var "b"))) ∧
      ∃ next, s.apply (Lambda.grammar false) .abort .paste = .ok next := by
  intro range s
  have hedit : s.edited? Lambda.signature .paste =
      some (Lambda.app (Lambda.var "c") (Lambda.app (Lambda.var "a") (Lambda.var "b"))) := rfl
  have hs : (Lambda.grammar false).validate s.document = .ok () :=
    Lambda.signature.validate_eq_ok_iff.2 (by decide)
  refine ⟨hedit, ?_⟩
  refine (edit_succeeds_iff_legal (Lambda.grammar false) .abort s .paste _ hs hedit).1.2 ?_
  exact ⟨Lambda.signature.validate_eq_ok_iff.2 (by decide), rfl, rfl⟩

/-! ## Putting back what was cut -/

theorem of_cut {next : Snapshot A} {d : Cursor A} {legal : Prop}
    (hremove : ∀ d', remove g policy s.mode = .ok d' ↔ legal ∧ d = d')
    (hcut : s.cut g policy = .ok next) :
    legal ∧ next.mode = .cursor d ∧ next.clipboard = some s.mode.clipping := by
  obtain ⟨hlegal, rfl⟩ := (cut_eq_ok_iff hremove).1 hcut
  exact ⟨hlegal, rfl, rfl⟩

theorem paste_of_cut_cursor {next : Snapshot A} {c : Cursor A} (hs : g.Valid s.document)
    (hmode : s.mode = .cursor c) (hcut : s.cut g policy = .ok next) :
    next.paste g policy = .ok (next.withCursor c) ∧ next.clipboard = some s.mode.clipping := by
  have hfocus : g.Valid c.focus := by
    rw [document_of_mode hmode] at hs
    exact (g.valid_plug.1 hs).1
  obtain ⟨-, hhole, hclip⟩ := of_cut (fun d => by rw [hmode, remove_cursor_eq_ok_iff]) hcut
  refine ⟨?_, hclip⟩
  rw [hmode] at hclip
  -- The hole has the category of the subtree whose place it took.
  rw [paste_of_tree hclip, replace_eq_ok_iff hhole]
  exact ⟨⟨hfocus, rfl⟩, rfl⟩

theorem paste_of_cut_select {next : Snapshot A} {r : Selection A} (hs : g.Valid s.document)
    (hmode : s.mode = .select r) (hcut : s.cut g policy = .ok next) :
    next.paste g policy = .ok (next.withCursor (r.cursorAt .inner)) ∧
      next.clipboard = some s.mode.clipping := by
  have hrange : g.Valid (r.range.plug r.focus) := by
    rw [document_of_mode hmode] at hs
    exact (g.valid_plug.1 hs).1
  have hfocus : g.Valid r.focus := (g.valid_plug.1 hrange).1
  obtain ⟨hcat, hclosed, hclip⟩ := of_cut (fun d => by rw [hmode, remove_select_eq_ok_iff]) hcut
  refine ⟨?_, hclip⟩
  rw [hmode] at hclip
  -- The frames passed around the focus in the old document, and the cut compared the categories.
  rw [paste_of_context hclip, insert_cursor_eq_ok_iff hclosed hfocus]
  refine ⟨⟨hrange, ?_⟩, rfl⟩
  rw [← r.outerCat_eq]
  exact hcat.symm

/-- **A cut is taken back by a paste.** If what is in focus in a valid document can be cut out, it
can be pasted again right after that. A cursor is then where it was, and in place of a selection
there is the cursor at its inner end, so the document and the subtree in focus are the old ones. On
the clipboard is still what was cut. -/
theorem paste_restores_cut (g : Grammar A) (policy : FaultPolicy) (s next : Snapshot A)
    (hs : g.validate s.document = .ok ()) (hcut : s.apply g policy .cut = .ok next) :
    ∃ pasted, next.apply g policy .paste = .ok pasted ∧
      (∀ c, s.mode = .cursor c → pasted.mode = .cursor c) ∧
      (∀ r, s.mode = .select r → pasted.mode = .cursor (r.cursorAt .inner)) ∧
      pasted.document = s.document ∧ pasted.mode.focus = s.mode.focus ∧
      pasted.clipboard = next.clipboard ∧ next.clipboard = some s.mode.clipping := by
  rw [Signature.validate_eq_ok_iff] at hs
  cases hmode : s.mode with
  | cursor c =>
    obtain ⟨hpaste, hclip⟩ := paste_of_cut_cursor hs hmode hcut
    refine ⟨next.withCursor c, hpaste, ?_, nofun, ?_, rfl, rfl, ?_⟩
    · rintro _ ⟨⟩
      rfl
    · rw [document_of_mode hmode]
      rfl
    · rw [hclip, hmode]
  | select r =>
    obtain ⟨hpaste, hclip⟩ := paste_of_cut_select hs hmode hcut
    refine ⟨next.withCursor (r.cursorAt .inner), hpaste, nofun, ?_, ?_, rfl, rfl, ?_⟩
    · rintro _ ⟨⟩
      rfl
    · rw [document_of_mode hmode]
      exact r.document_cursorAt .inner
    · rw [hclip, hmode]

/-- Two frames are cut out of `((a b) c) d` around `a`, with the outer end movable, and pasted. -/
theorem paste_restores_cut_spine :
    let g := Lambda.grammar true
    let above : Context Lambda.alphabet := .ofFrames [Lambda.functionFrame (Lambda.var "d")]
    let range : Context Lambda.alphabet := .ofFrames
      [Lambda.functionFrame (Lambda.var "b"), Lambda.functionFrame (Lambda.var "c")]
    let r : Selection Lambda.alphabet := .ofRange above range (Lambda.var "a") .outer
    let s : Snapshot Lambda.alphabet := ⟨.select r, none⟩
    s.document = Lambda.spine ∧ ∃ next pasted, s.apply g .abort .cut = .ok next ∧
      next.document = Lambda.app (Lambda.var "a") (Lambda.var "d") ∧
      next.apply g .abort .paste = .ok pasted ∧ pasted.mode = .cursor (r.cursorAt .inner) ∧
      pasted.document = Lambda.spine ∧ pasted.clipboard = some (.context range) := by
  intro g above range r s
  have hs : g.validate s.document = .ok () := Lambda.signature.validate_eq_ok_iff.2 (by decide)
  obtain ⟨next, hnext, hcut⟩ : ∃ next : Snapshot Lambda.alphabet,
      next = s.copy.withCursor ⟨above, Lambda.var "a"⟩ ∧ s.apply g .abort .cut = .ok next :=
    ⟨_, rfl, (cut_eq_ok_iff fun d => remove_select_eq_ok_iff).2 ⟨rfl, rfl⟩⟩
  obtain ⟨pasted, hpaste, -, hselect, hdocument, -, hkept, hclip⟩ :=
    paste_restores_cut g .abort s next hs hcut
  refine ⟨rfl, next, pasted, hcut, ?_, hpaste, hselect r rfl, hdocument, hkept.trans hclip⟩
  rw [hnext]
  rfl

end Snapshot

end TreeEditor
