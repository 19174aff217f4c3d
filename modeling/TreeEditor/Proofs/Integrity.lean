import TreeEditor.Grammar.Lambda
import TreeEditor.Proofs.Edits
import TreeEditor.Proofs.Ends
import TreeEditor.Proofs.Runs
import TreeEditor.Proofs.Traversal

/-!
# Integrity of the document

No command checks the whole document, and none has to. Navigation keeps it, edits build a valid one
of the same root category (`Snapshot.apply_builds`), and what is copied from a valid document is
well formed. So an editor that is opened on a valid document holds valid documents of one root
category, and a well-formed clipboard, in every snapshot of every run. The positions and ranges
that a caller sets are taken as they are, so their documents are the caller's concern.
-/

namespace TreeEditor

variable {A : Alphabet}

/-! ## Navigation keeps the document -/

namespace Grammar

variable {g : Grammar A}

theorem document_of_moveCursor? {c c' : Cursor A} {d : Direction}
    (h : g.moveCursor? c d = some c') : c'.document = c.document := by
  unfold moveCursor? at h
  cases d with
  | up => exact (Cursor.of_up? (Option.filter_eq_some_iff.1 h).1).1
  | down => exact (Cursor.of_down? (Option.filter_eq_some_iff.1 h).1).1
  | left => exact (Cursor.of_slide? (Option.filter_eq_some_iff.1 h).1).1
  | right => exact (Cursor.of_slide? (Option.filter_eq_some_iff.1 h).1).1
  | next => exact Cursor.document_of_next? h
  | prev => exact Cursor.document_of_prev? h

/-- Wherever the movable end goes as a cursor, it is in the document of the fixed end. -/
theorem document_fixedCursor_of_moveCursor? {r : Selection A} {moved : Cursor A} {d : Direction}
    (h : g.moveCursor? r.movableCursor d = some moved) :
    r.fixedCursor.document = moved.document := by
  rw [document_of_moveCursor? h]
  exact (r.document_cursorAt _).trans (r.document_cursorAt _).symm

theorem stretch?_eq_some_iff {r : Selection A} {moved : Cursor A} {span : Span A} :
    g.stretch? r moved = some span ↔ r.fixedCursor.between? g.known moved = some span ∧
      ∀ r', span = .range r' → g.admitsSelection r' = true := by
  unfold stretch?
  cases r.fixedCursor.between? g.known moved with
  | none => simp
  | some between =>
    cases between with
    | empty =>
      dsimp only
      constructor
      · rintro ⟨⟩
        exact ⟨rfl, nofun⟩
      · exact And.left
    | range r₀ =>
      dsimp only
      by_cases hadmits : g.admitsSelection r₀ = true
      · rw [if_pos hadmits]
        constructor
        · rintro ⟨⟩
          refine ⟨rfl, fun r' hr' => ?_⟩
          cases hr'
          exact hadmits
        · exact And.left
      · rw [if_neg hadmits]
        refine iff_of_false nofun ?_
        rintro ⟨hspan, hall⟩
        exact hadmits (hall r₀ (Option.some.inj hspan).symm)

/-- An end of a selection moves by a structural step to an admitted range, or moves as a cursor
does, and then the range is stretched to where it comes. -/
theorem moveSelection?_cases {r : Selection A} {d : Direction} {span : Span A}
    (h : g.moveSelection? r d = some span) :
    (∃ r', r.moveBoundary? d = some r' ∧ g.admitsSelection r' = true ∧ span = .range r') ∨
      ∃ moved, g.moveCursor? r.movableCursor d = some moved ∧ g.stretch? r moved = some span := by
  have hstructural : ((r.moveBoundary? d).filter g.admitsSelection).map Span.range = some span →
      ∃ r', r.moveBoundary? d = some r' ∧ g.admitsSelection r' = true ∧ span = .range r' := by
    intro h
    obtain ⟨moved, hfilter, hspan⟩ := Option.map_eq_some_iff.1 h
    obtain ⟨hmove, hadmits⟩ := Option.filter_eq_some_iff.1 hfilter
    exact ⟨moved, hmove, hadmits, hspan.symm⟩
  cases d with
  | next => exact .inr (Option.bind_eq_some_iff.1 h)
  | prev => exact .inr (Option.bind_eq_some_iff.1 h)
  | up => exact .inl (hstructural h)
  | down => exact .inl (hstructural h)
  | left => exact .inl (hstructural h)
  | right => exact .inl (hstructural h)

theorem document_of_moveSelection? {r r' : Selection A} {d : Direction}
    (h : g.moveSelection? r d = some (.range r')) : r'.document = r.document := by
  rcases moveSelection?_cases h with ⟨moved, hmove, -, hspan⟩ | ⟨moved, hmove, hstretch⟩
  · cases hspan
    exact Selection.document_eq_of_fixedCursor (Selection.of_moveBoundary? hmove).1
  · have hbetween := (stretch?_eq_some_iff.1 hstretch).1
    rw [Cursor.between?_eq_range_iff (document_fixedCursor_of_moveCursor? hmove)] at hbetween
    exact Selection.document_eq_of_fixedCursor hbetween.1.1

end Grammar

/-- Whether a command moves, copies or collapses what is in focus, without setting it. -/
def Command.navigates : Command A → Bool
  | .moveCursor _ | .moveSelection _ | .copy | .escape => true
  | _ => false

/-- Whether a command changes the document at the focus. -/
def Command.edits : Command A → Bool
  | .replace _ | .insert _ | .cut | .paste | .delete => true
  | _ => false

/-- The selection whose end a move takes: the one in focus, or one opened at the cursor. -/
def Mode.opened (m : Mode A) (d : Direction) : Selection A :=
  match m with
  | .cursor c => .ofCursor c d.opens
  | .select r => r

theorem Mode.document_opened (m : Mode A) (d : Direction) : (m.opened d).document = m.document := by
  cases m with
  | cursor c => exact Selection.document_ofCursor c _
  | select r => rfl

namespace Snapshot

variable {g : Grammar A} {policy : FaultPolicy} {s next : Snapshot A}

theorem moveCursor_eq_ok_iff {d : Direction} :
    s.moveCursor g d = .ok next ↔
      (∃ c moved, s.mode = .cursor c ∧ g.moveCursor? c d = some moved ∧
        s.withCursor moved = next) ∨
      ∃ r, s.mode = .select r ∧
        s.withCursor ((g.moveCursor? (g.collapse r) d).getD (g.collapse r)) = next := by
  unfold moveCursor
  cases s.mode with
  | cursor c =>
    dsimp only
    split <;> simp_all
  | select r => simp

theorem escape_eq_ok_iff :
    s.escape g = .ok next ↔ ∃ r, s.mode = .select r ∧ s.withCursor (g.collapse r) = next := by
  unfold escape
  cases s.mode with
  | cursor c => simp
  | select r => simp

theorem document_of_moveCursor {d : Direction}
    (hcollapse : ∀ r, (g.collapse r).document = r.document) (h : s.moveCursor g d = .ok next) :
    next.document = s.document := by
  rcases moveCursor_eq_ok_iff.1 h with ⟨c, moved, hmode, hmove, rfl⟩ | ⟨r, hmode, rfl⟩
  · rw [document_of_mode hmode]
    exact Grammar.document_of_moveCursor? hmove
  · rw [document_of_mode hmode]
    show ((g.moveCursor? (g.collapse r) d).getD (g.collapse r)).document = r.document
    cases hmove : g.moveCursor? (g.collapse r) d with
    | none => exact hcollapse r
    | some moved => exact (Grammar.document_of_moveCursor? hmove).trans (hcollapse r)

theorem moveSelection_eq_ok_iff {d : Direction} :
    s.moveSelection g d = .ok next ↔
      (∃ moved, g.moveSelection? (s.mode.opened d) d = some (.range moved) ∧
        s.withSelection moved = next) ∨
      g.moveSelection? (s.mode.opened d) d = some .empty ∧
        s.withCursor (s.mode.opened d).fixedCursor = next := by
  unfold moveSelection Mode.opened
  cases s.mode with
  | cursor c =>
    dsimp only
    split <;> simp_all
  | select r =>
    dsimp only
    split <;> simp_all

theorem document_of_moveSelection {d : Direction} (h : s.moveSelection g d = .ok next) :
    next.document = s.document := by
  have hopened : (s.mode.opened d).document = s.document := s.mode.document_opened d
  rw [← hopened]
  rcases moveSelection_eq_ok_iff.1 h with ⟨moved, hmove, rfl⟩ | ⟨-, rfl⟩
  · exact Grammar.document_of_moveSelection? hmove
  · exact (s.mode.opened d).document_cursorAt _

theorem document_of_escape (hcollapse : ∀ r, (g.collapse r).document = r.document)
    (h : s.escape g = .ok next) : next.document = s.document := by
  obtain ⟨r, hmode, rfl⟩ := escape_eq_ok_iff.1 h
  rw [document_of_mode hmode]
  exact hcollapse r

theorem setCursor_eq_ok_iff {c : Cursor A} :
    s.setCursor g c = .ok next ↔ g.admitsCursor c = true ∧ s.withCursor c = next := by
  unfold setCursor
  by_cases hadmits : g.admitsCursor c = true
  · simp [hadmits]
  · simp [hadmits]

theorem setSelection_eq_ok_iff {r : Selection A} :
    s.setSelection g r = .ok next ↔ g.admitsSelection r = true ∧ s.withSelection r = next := by
  unfold setSelection
  by_cases hadmits : g.admitsSelection r = true
  · simp [hadmits]
  · simp [hadmits]

/-! ## What a command does to the document -/

/-- A command keeps the document valid with the same category at its root, unless it sets a
position or a range, whose document then becomes the current one. -/
theorem document_of_apply {command : Command A}
    (hcollapse : ∀ r, (g.collapse r).document = r.document) (hs : g.Valid s.document)
    (h : s.apply g policy command = .ok next) :
    (g.Valid next.document ∧ next.document.cat = s.document.cat) ∨
      (∃ c, command = .setCursor c ∧ next.document = c.document) ∨
      ∃ r, command = .setSelection r ∧ next.document = r.document := by
  have hkept : next.document = s.document →
      g.Valid next.document ∧ next.document.cat = s.document.cat := by
    intro hdocument
    rw [hdocument]
    exact ⟨hs, rfl⟩
  -- Edits are settled by their specification; what is left are the moves, and edits that fail.
  cases hedit : s.edited? g.toSignature command with
  | some t => exact .inl (legal_of_edit hs hedit h)
  | none =>
    cases command with
    | moveCursor d => exact .inl (hkept (document_of_moveCursor hcollapse h))
    | moveSelection d => exact .inl (hkept (document_of_moveSelection h))
    | escape => exact .inl (hkept (document_of_escape hcollapse h))
    | copy =>
      cases h
      exact .inl (hkept rfl)
    | setCursor c =>
      obtain ⟨-, rfl⟩ := setCursor_eq_ok_iff.1 h
      exact .inr (.inl ⟨c, rfl, rfl⟩)
    | setSelection r =>
      obtain ⟨-, rfl⟩ := setSelection_eq_ok_iff.1 h
      exact .inr (.inr ⟨r, rfl, rfl⟩)
    | undo => cases h
    | redo => cases h
    | insert frames => cases hedit
    | delete => cases hedit
    | cut => cases hedit
    | replace t => exact absurd ((replaced?_of_replace h).symm.trans hedit) nofun
    | paste =>
      unfold apply paste at h
      unfold edited? at hedit
      cases hclip : s.clipboard with
      | none =>
        simp only [hclip] at h
        cases h
      | some clip =>
        simp only [hclip] at h hedit
        cases clip with
        | tree t => exact absurd ((replaced?_of_replace h).symm.trans hedit) nofun
        | context frames => cases hedit

/-! ## What a command does to the clipboard -/

theorem clipboard_of_moveCursor {d : Direction} (h : s.moveCursor g d = .ok next) :
    next.clipboard = s.clipboard := by
  rcases moveCursor_eq_ok_iff.1 h with ⟨c, moved, -, -, rfl⟩ | ⟨r, -, rfl⟩
  · rfl
  · rfl

theorem clipboard_of_moveSelection {d : Direction} (h : s.moveSelection g d = .ok next) :
    next.clipboard = s.clipboard := by
  rcases moveSelection_eq_ok_iff.1 h with ⟨moved, -, rfl⟩ | ⟨-, rfl⟩
  · rfl
  · rfl

theorem clipboard_of_escape (h : s.escape g = .ok next) : next.clipboard = s.clipboard := by
  obtain ⟨r, -, rfl⟩ := escape_eq_ok_iff.1 h
  rfl

/-! ### Edits

What an edit leaves in focus, whatever the document is. -/

theorem withCursor_of_replace {t : Tree A} (h : s.replace g policy t = .ok next) :
    ∃ c, s.withCursor c = next := by
  cases hmode : s.mode with
  | cursor c => exact ⟨_, ((replace_eq_ok_iff hmode).1 h).2⟩
  | select r =>
    unfold replace at h
    rw [hmode] at h
    cases h

theorem withCursor_of_delete (h : s.delete g policy = .ok next) : ∃ c, s.withCursor c = next := by
  unfold delete at h
  cases hremove : remove g policy s.mode with
  | error stop =>
    rw [hremove] at h
    cases h
  | ok c =>
    rw [hremove] at h
    cases h
    exact ⟨c, rfl⟩

theorem clipboard_of_replace {t : Tree A} (h : s.replace g policy t = .ok next) :
    next.clipboard = s.clipboard := by
  obtain ⟨c, rfl⟩ := withCursor_of_replace h
  rfl

theorem clipboard_of_insert {frames : Context A} (h : s.insert g policy frames = .ok next) :
    next.clipboard = s.clipboard := by
  rcases of_insert h with ⟨c, -, rfl⟩ | ⟨r, -, -, rfl⟩
  · rfl
  · rfl

theorem clipboard_of_delete (h : s.delete g policy = .ok next) : next.clipboard = s.clipboard := by
  obtain ⟨c, rfl⟩ := withCursor_of_delete h
  rfl

/-- A command leaves the clipboard as it is or puts on it what is in focus. -/
theorem clipboard_of_apply {command : Command A} (h : s.apply g policy command = .ok next) :
    next.clipboard = s.clipboard ∨ next.clipboard = some s.mode.clipping := by
  cases command with
  | moveCursor d => exact .inl (clipboard_of_moveCursor h)
  | moveSelection d => exact .inl (clipboard_of_moveSelection h)
  | setCursor c =>
    obtain ⟨-, rfl⟩ := setCursor_eq_ok_iff.1 h
    exact .inl rfl
  | setSelection r =>
    obtain ⟨-, rfl⟩ := setSelection_eq_ok_iff.1 h
    exact .inl rfl
  | replace t => exact .inl (clipboard_of_replace h)
  | insert frames => exact .inl (clipboard_of_insert h)
  | undo => cases h
  | redo => cases h
  | copy =>
    cases h
    exact .inr rfl
  | cut => exact .inr (clipboard_of_delete (s := s.copy) h)
  | paste =>
    left
    have h : s.paste g policy = .ok next := h
    unfold paste at h
    split at h
    · cases h
    · exact clipboard_of_replace h
    · exact clipboard_of_insert h
  | delete => exact .inl (clipboard_of_delete h)
  | escape => exact .inl (clipboard_of_escape h)

/-- **Navigation keeps the document.** Moving, copying and collapsing a selection keep the document
of every snapshot, well formed or not, and all but copying keep the clipboard. -/
theorem navigation_keeps_document (g : Grammar A) (policy : FaultPolicy) (s next : Snapshot A)
    (command : Command A) (hcollapse : ∀ r, (g.collapse r).document = r.document)
    (hnavigates : command.navigates = true) (h : s.apply g policy command = .ok next) :
    next.document = s.document ∧ (command ≠ .copy → next.clipboard = s.clipboard) := by
  cases command with
  | moveCursor d =>
    exact ⟨document_of_moveCursor hcollapse h, fun _ => clipboard_of_moveCursor h⟩
  | moveSelection d =>
    exact ⟨document_of_moveSelection h, fun _ => clipboard_of_moveSelection h⟩
  | escape => exact ⟨document_of_escape hcollapse h, fun _ => clipboard_of_escape h⟩
  | copy =>
    cases h
    exact ⟨rfl, fun hcopy => absurd rfl hcopy⟩
  | setCursor c => cases hnavigates
  | setSelection r => cases hnavigates
  | replace t => cases hnavigates
  | insert frames => cases hnavigates
  | undo => cases hnavigates
  | redo => cases hnavigates
  | cut => cases hnavigates
  | paste => cases hnavigates
  | delete => cases hnavigates

/-- Selecting on to the next stop, in the malformed document of a variable `f` with two children. -/
theorem navigation_keeps_document_malformed :
    let label : Label Lambda.alphabet := ⟨.exp, .var, "f"⟩
    let clip : Clipping Lambda.alphabet := .tree (Lambda.var "c")
    let s : Snapshot Lambda.alphabet :=
      ⟨.cursor (.root (.node label [Lambda.var "a", Lambda.var "b"])), some clip⟩
    let range : Selection Lambda.alphabet :=
      .ofRange .empty (.ofFrames [⟨label, [], [Lambda.var "b"]⟩]) (Lambda.var "a") .inner
    let next : Snapshot Lambda.alphabet := ⟨.select range, some clip⟩
    s.apply (Lambda.grammar true) .abort (.moveSelection .next) = .ok next ∧
      next.document = s.document ∧ next.clipboard = s.clipboard := by
  intro label clip s range next
  have hnext : (s.mode.opened .next).movableCursor.next? (Lambda.grammar true).admitsCursor =
      some range.movableCursor := by
    decide +kernel
  have hmove : (Lambda.grammar true).moveSelection? (s.mode.opened .next) .next =
      some (.range range) := by
    show Option.bind _ _ = _
    rw [hnext]
    rfl
  have h : s.apply (Lambda.grammar true) .abort (.moveSelection .next) = .ok next :=
    moveSelection_eq_ok_iff.2 (.inl ⟨range, hmove, rfl⟩)
  have hcollapse : ∀ r, ((Lambda.grammar true).collapse r).document = r.document :=
    fun r => r.document_cursorAt _
  obtain ⟨hdocument, hclipboard⟩ :=
    navigation_keeps_document (Lambda.grammar true) .abort s next _ hcollapse rfl h
  exact ⟨h, hdocument, hclipboard nofun⟩

end Snapshot

/-! ## Sound snapshots -/

/-- A tree that is valid, or frames that pass around a tree of some category. -/
def Clipping.Sound (S : Signature A) : Clipping A → Prop
  | .tree t => S.validate t = .ok ()
  | .context c => ∃ cat, S.checkAround c cat = .ok ()

theorem Mode.clipping_sound {S : Signature A} {m : Mode A} (h : S.Valid m.document) :
    m.clipping.Sound S := by
  cases m with
  | cursor c => exact S.validate_eq_ok_iff.2 (S.valid_plug.1 h).1
  | select r => exact ⟨r.focus.cat, (S.valid_plug.1 (S.valid_plug.1 h).1).2⟩

theorem Snapshot.clipboard_sound_of_apply {g : Grammar A} {policy : FaultPolicy}
    {s next : Snapshot A} {command : Command A} (hs : g.Valid s.document)
    (hclipboard : ∀ clip, s.clipboard = some clip → clip.Sound g.toSignature)
    (h : s.apply g policy command = .ok next) (clip : Clipping A)
    (hclip : next.clipboard = some clip) : clip.Sound g.toSignature := by
  rcases clipboard_of_apply h with hsame | hfocus
  · exact hclipboard clip (hsame.symm.trans hclip)
  · obtain rfl : s.mode.clipping = clip := Option.some.inj (hfocus.symm.trans hclip)
    exact Mode.clipping_sound hs

/-- The document is valid with category `cat` at its root, and the clipboard is well formed. -/
structure Snapshot.Sound (S : Signature A) (cat : A.Cat) (s : Snapshot A) : Prop where
  document : S.validate s.document = .ok ()
  root : s.document.cat = cat
  clipboard : ∀ clip, s.clipboard = some clip → clip.Sound S

namespace Snapshot.Sound

variable {g : Grammar A} {policy : FaultPolicy} {cat : A.Cat} {s next : Snapshot A}

theorem ofDocument {t : Tree A} (ht : g.validate t = .ok ()) :
    (Snapshot.ofDocument t).Sound g.toSignature t.cat where
  document := ht
  root := rfl
  clipboard := fun _ hclip => by cases hclip

/-- A command keeps a snapshot sound, if the document of a position or range that it sets is. -/
theorem apply {command : Command A} (hcollapse : ∀ r, (g.collapse r).document = r.document)
    (hcursor : ∀ c, command = .setCursor c →
      g.validate c.document = .ok () ∧ c.document.cat = cat)
    (hselection : ∀ r, command = .setSelection r →
      g.validate r.document = .ok () ∧ r.document.cat = cat)
    (hs : s.Sound g.toSignature cat) (h : s.apply g policy command = .ok next) :
    next.Sound g.toSignature cat := by
  have hvalid : g.Valid s.document := g.validate_eq_ok_iff.1 hs.document
  have hdocument : g.validate next.document = .ok () ∧ next.document.cat = cat := by
    rcases document_of_apply hcollapse hvalid h with ⟨hlegal, hroot⟩ | ⟨c, hc, hnext⟩ |
      ⟨r, hr, hnext⟩
    · exact ⟨g.validate_eq_ok_iff.2 hlegal, hroot.trans hs.root⟩
    · rw [hnext]
      exact hcursor c hc
    · rw [hnext]
      exact hselection r hr
  exact ⟨hdocument.1, hdocument.2, clipboard_sound_of_apply hvalid hs.clipboard h⟩

end Snapshot.Sound

/-- **Integrity.** Open an editor on a valid document, and make any requests, as long as each
position or range that is set belongs to a valid document of the same category. After each request
every snapshot in the editor, current, past or future, is sound. -/
theorem Editor.run_keeps_snapshots_sound (g : Grammar A) (settings : Settings) (t : Tree A)
    (requests : List (Request A)) (hcollapse : ∀ r, (g.collapse r).document = r.document)
    (ht : g.validate t = .ok ())
    (hcursor : ∀ c, .command (.setCursor c) ∈ requests →
      g.validate c.document = .ok () ∧ c.document.cat = t.cat)
    (hselection : ∀ r, .command (.setSelection r) ∈ requests →
      g.validate r.document = .ok () ∧ r.document.cat = t.cat) (n : Nat) :
    ((Editor.start g settings t).run (requests.take n)).Holds
      (Snapshot.Sound g.toSignature t.cat) := by
  refine Holds.run (.start (.ofDocument ht)) fun request hmem command hissues s next hs h => ?_
  have hmem : request ∈ requests := List.mem_of_mem_take hmem
  refine hs.apply hcollapse (fun c hc => ?_) (fun r hr => ?_) h
  · subst hc
    rw [hissues.eq_command nofun nofun] at hmem
    exact hcursor c hmem
  · subst hr
    rw [hissues.eq_command nofun nofun] at hmem
    exact hselection r hmem

/-- A run that cuts a frame out of a document, sets the cursor into another one, pastes the frame
there, goes back and types an application. -/
theorem Editor.run_keeps_snapshots_sound_spine :
    let other := Lambda.lam "x" (Lambda.var "y")
    ((Editor.start (Lambda.grammar false) { historyLimit := 3 } Lambda.spine).run
      [.command (.moveSelection .down), .command .cut, .command (.setCursor (.root other)),
        .command .paste, .command .undo, .query " " 1]).Holds
      (Snapshot.Sound Lambda.signature .exp) := by
  intro other
  have hother : Lambda.signature.validate (Cursor.root other).document = .ok () :=
    Lambda.signature.validate_eq_ok_iff.2 (by decide)
  refine Editor.run_keeps_snapshots_sound (Lambda.grammar false) { historyLimit := 3 } Lambda.spine
    [.command (.moveSelection .down), .command .cut, .command (.setCursor (.root other)),
      .command .paste, .command .undo, .query " " 1]
    (fun r => Selection.document_cursorAt r _) (Lambda.signature.validate_eq_ok_iff.2 (by decide))
    (fun c hc => ?_) (fun r hr => ?_) 6
  · obtain rfl : c = .root other := by simpa using hc
    exact ⟨hother, rfl⟩
  · simp at hr

end TreeEditor
