import TreeEditor.Grammar.Lambda
import TreeEditor.Proofs.Integrity

/-!
# Runs without faults

A fault is reported where a command brings something malformed: the tree of a replacement, the
frames of an insertion, the hole of a deletion, or what is on the clipboard. The first two are the
caller's, the third is the grammar's, and the clipboard is the editor's own. It was filled from
another snapshot, perhaps one that has been undone since; but all snapshots of a run are intact, and
what is copied from an intact one is well formed wherever it is pasted. So if callers and grammar
keep to their part, no command of any run is stopped by a fault, under either policy. Commands can
still be refused for other reasons.
-/

namespace TreeEditor

variable {A : Alphabet}

/-! ## Outcomes without a fault -/

/-- The outcome is not a stop that reports a fault, whatever the policy. -/
def Faultless {α : Type} (x : Outcome A α) : Prop :=
  ∀ fault, x ≠ .error (.aborted fault) ∧ x ≠ .error (.refused (.malformed fault))

namespace Faultless

variable {α β : Type}

theorem ok (a : α) : Faultless (.ok a : Outcome A α) := by
  intro fault
  exact ⟨nofun, nofun⟩

theorem refused {reason : Refusal A} (h : ∀ fault, reason ≠ .malformed fault) :
    Faultless (.error (.refused reason) : Outcome A α) := by
  intro fault
  refine ⟨nofun, fun heq => ?_⟩
  cases heq
  exact h fault rfl

theorem error {stop : Stop A} (h : Faultless (.error stop : Outcome A α)) :
    Faultless (.error stop : Outcome A β) := by
  intro fault
  obtain ⟨haborted, hmalformed⟩ := h fault
  refine ⟨fun heq => haborted ?_, fun heq => hmalformed ?_⟩
  · rw [Except.error.inj heq]
  · rw [Except.error.inj heq]

theorem bind {x : Outcome A α} {f : α → Outcome A β} (hx : Faultless x)
    (hf : ∀ a, Faultless (f a)) : Faultless (x >>= f) := by
  cases x with
  | ok a => exact hf a
  | error stop => exact hx.error

theorem ite {p : Prop} [Decidable p] {x y : Outcome A α} (hx : Faultless x) (hy : Faultless y) :
    Faultless (if p then x else y) := by
  by_cases h : p
  · rw [if_pos h]
    exact hx
  · rw [if_neg h]
    exact hy

/-- A misfit is not a fault. -/
theorem fit (check : Check A) : Faultless check.fit := by
  cases check with
  | ok u => exact ok u
  | error fault => exact refused nofun

theorem enforce {policy : FaultPolicy} {check : Check A} (h : check = .ok ()) :
    Faultless (check.enforce policy) := by
  rw [Check.enforce_eq_ok_iff.2 h]
  exact ok ()

end Faultless

/-! ## Holes -/

/-- The hole of a category passes iff its rule is one of the category's and has no slots. -/
theorem Signature.validate_hole_eq_ok_iff {S : Signature A} {cat : A.Cat} :
    S.validate (S.hole cat) = .ok () ↔
      S.holeRule cat ∈ S.rules cat ∧ S.slots (S.holeRule cat) = [] := by
  rw [S.validate_eq_ok_iff, S.valid_iff]
  unfold hole checkRoot
  rw [checkNode_eq_ok_iff]
  simp [List.length_eq_zero_iff]

/-! ## What each command is stopped by -/

namespace Snapshot

variable {g : Grammar A} {policy : FaultPolicy} {s next : Snapshot A}

theorem faultless_moveCursor (s : Snapshot A) (d : Direction) : Faultless (s.moveCursor g d) := by
  unfold moveCursor
  cases s.mode with
  | select r => exact .ok _
  | cursor c =>
    dsimp only
    split
    · exact .ok _
    · exact .refused nofun

theorem faultless_moveSelection (s : Snapshot A) (d : Direction) :
    Faultless (s.moveSelection g d) := by
  unfold moveSelection
  dsimp only
  split
  · exact .ok _
  · exact .ok _
  · exact .refused nofun

theorem faultless_setCursor (s : Snapshot A) (c : Cursor A) : Faultless (s.setCursor g c) :=
  .ite (.ok _) (.refused nofun)

theorem faultless_setSelection (s : Snapshot A) (r : Selection A) :
    Faultless (s.setSelection g r) :=
  .ite (.ok _) (.refused nofun)

theorem faultless_escape (s : Snapshot A) : Faultless (s.escape g) := by
  unfold escape
  cases s.mode with
  | cursor c => exact .refused nofun
  | select r => exact .ok _

theorem faultless_replace (s : Snapshot A) {t : Tree A} (ht : g.validate t = .ok ()) :
    Faultless (s.replace g policy t) := by
  unfold replace
  cases s.mode with
  | select r => exact .refused nofun
  | cursor c => exact .bind (.enforce ht) fun _ => .bind (.fit _) fun _ => .ok _

theorem faultless_insert (s : Snapshot A) {frames : Context A}
    (hframes : g.checkEach frames = .ok ()) : Faultless (s.insert g policy frames) := by
  unfold insert
  refine .bind (.enforce hframes) fun _ => ?_
  cases s.mode with
  | cursor c => exact .bind (.fit _) fun _ => .ok _
  | select r => exact .bind (.fit _) fun _ => .ite (.ok _) (.refused nofun)

theorem faultless_remove (hhole : ∀ cat, g.validate (g.hole cat) = .ok ()) (m : Mode A) :
    Faultless (remove g policy m) := by
  cases m with
  | cursor c => exact .bind (.enforce (hhole _)) fun _ => .ok _
  | select r => exact .bind (.fit _) fun _ => .ok _

theorem faultless_paste (hclipboard : ∀ clip, s.clipboard = some clip → clip.Sound g.toSignature) :
    Faultless (s.paste g policy) := by
  unfold paste
  cases hclip : s.clipboard with
  | none => exact .refused nofun
  | some clip =>
    have hsound := hclipboard clip hclip
    cases clip with
    | tree t => exact s.faultless_replace hsound
    | context frames =>
      obtain ⟨cat, haround⟩ := hsound
      exact s.faultless_insert (g.checkEach_of_checkAround haround)

end Snapshot

/-! ## Intact snapshots -/

/-- What the command brings is well formed on its own: the tree or each of the frames, or the
document of the position or range. -/
def Command.WellFormed (S : Signature A) : Command A → Prop
  | .replace t => S.validate t = .ok ()
  | .insert frames => ∀ f ∈ frames.frames, S.checkFrame f = .ok ()
  | .setCursor c => S.validate c.document = .ok ()
  | .setSelection r => S.validate r.document = .ok ()
  | _ => True

/-- The snapshot is sound for the category that its document has. -/
def Snapshot.Intact (S : Signature A) (s : Snapshot A) : Prop := s.Sound S s.document.cat

namespace Snapshot.Intact

variable {g : Grammar A} {policy : FaultPolicy} {s next : Snapshot A} {command : Command A}

theorem apply (hcollapse : ∀ r, (g.collapse r).document = r.document)
    (hcommand : command.WellFormed g.toSignature) (hs : s.Intact g.toSignature)
    (h : s.apply g policy command = .ok next) : next.Intact g.toSignature := by
  have hvalid : g.Valid s.document := g.validate_eq_ok_iff.1 hs.document
  have hdocument : g.validate next.document = .ok () := by
    rcases document_of_apply hcollapse hvalid h with ⟨hnext, -⟩ | ⟨c, rfl, hnext⟩ |
      ⟨r, rfl, hnext⟩
    · exact g.validate_eq_ok_iff.2 hnext
    · rw [hnext]
      exact hcommand
    · rw [hnext]
      exact hcommand
  exact ⟨hdocument, rfl, clipboard_sound_of_apply hvalid hs.clipboard h⟩

theorem faultless_apply (hhole : ∀ cat, g.validate (g.hole cat) = .ok ())
    (hcommand : command.WellFormed g.toSignature) (hs : s.Intact g.toSignature) :
    Faultless (s.apply g policy command) := by
  cases command with
  | moveCursor d => exact s.faultless_moveCursor d
  | moveSelection d => exact s.faultless_moveSelection d
  | setCursor c => exact s.faultless_setCursor c
  | setSelection r => exact s.faultless_setSelection r
  | replace t => exact s.faultless_replace hcommand
  | insert frames => exact s.faultless_insert (Check.forM_eq_ok_iff.2 hcommand)
  | undo => exact .refused nofun
  | redo => exact .refused nofun
  | copy => exact .ok _
  | cut => exact .bind (faultless_remove hhole _) fun _ => .ok _
  | paste => exact faultless_paste hs.clipboard
  | delete => exact .bind (faultless_remove hhole _) fun _ => .ok _
  | escape => exact s.faultless_escape

end Snapshot.Intact

/-! ## Runs -/

namespace Editor

theorem faultless_execute {e : Editor A} {c : Command A}
    (h : Faultless (e.current.apply e.grammar e.settings.faults c)) :
    Faultless (e.execute c).1 := by
  unfold execute
  split
  · unfold undo
    split
    · exact .ok _
    · exact .refused nofun
  · unfold redo
    split
    · exact .ok _
    · exact .refused nofun
  · cases happly : e.current.apply e.grammar e.settings.faults c with
    | ok next =>
      rw [commit_of_ok happly]
      exact .ok _
    | error stop =>
      rw [commit_of_error happly]
      rw [happly] at h
      exact h.error

/-- Every snapshot of a run of well-formed commands is intact. -/
theorem run_intact {g : Grammar A} {settings : Settings} {t : Tree A} {commands : List (Command A)}
    (hcollapse : ∀ r, (g.collapse r).document = r.document) (ht : g.validate t = .ok ())
    (hcommands : ∀ c ∈ commands, c.WellFormed g.toSignature) :
    ((Editor.start g settings t).run (commands.map .command)).Holds
      (Snapshot.Intact g.toSignature) := by
  refine Holds.run (.start (.ofDocument ht)) fun r hr c hissues s next hs h => ?_
  obtain ⟨c', hc', rfl⟩ := List.mem_map.1 hr
  obtain rfl : c' = c := hissues
  exact hs.apply hcollapse (hcommands c' hc') h

/-- **Runs without faults.** In a grammar whose holes are legal leaves, open an editor on a valid
document and carry out commands that bring only what is well formed. Then no command is aborted or
refused for a malformed tree, under either policy: not even pasting what was copied or cut at any
time before. -/
theorem run_finds_no_fault (g : Grammar A) (settings : Settings) (t : Tree A)
    (commands : List (Command A))
    (hhole : ∀ cat, g.holeRule cat ∈ g.rules cat ∧ g.slots (g.holeRule cat) = [])
    (hcollapse : ∀ r, (g.collapse r).document = r.document) (ht : g.validate t = .ok ())
    (hcommands : ∀ c ∈ commands, c.WellFormed g.toSignature) (n : Nat) (c : Command A)
    (hc : commands[n]? = some c) (fault : Fault A) :
    let e := (Editor.start g settings t).run ((commands.take n).map .command)
    (e.perform (.command c)).1 ≠ .error (.aborted fault) ∧
      (e.perform (.command c)).1 ≠ .error (.refused (.malformed fault)) := by
  intro e
  have hgrammar : e.grammar = g := (run_frame _ _).1
  have hintact : e.Holds (Snapshot.Intact g.toSignature) :=
    run_intact hcollapse ht fun c' hc' => hcommands c' (List.mem_of_mem_take hc')
  have happly : Faultless (e.current.apply e.grammar e.settings.faults c) := by
    rw [hgrammar]
    refine hintact.current.faultless_apply (fun cat => ?_) ?_
    · exact Signature.validate_hole_eq_ok_iff.2 (hhole cat)
    · exact hcommands c (List.mem_of_getElem? hc)
  exact faultless_execute happly fault

/-- A frame is cut out of a document, the cursor is set into one of another category, and the frame
is pasted there after the cut was undone and made again. -/
theorem run_finds_no_fault_paste :
    let binder : Tree Lambda.alphabet := .node ⟨.bind, .name, "x"⟩ []
    let commands : List (Command Lambda.alphabet) :=
      [.moveSelection .down, .cut, .undo, .redo, .setCursor (.root binder), .paste]
    let e := (Editor.start (Lambda.grammar false) {} Lambda.spine).run
      ((commands.take 5).map .command)
    (∀ c ∈ commands, c.WellFormed Lambda.signature) ∧
      ∀ fault, (e.perform (.command .paste)).1 ≠ .error (.aborted fault) ∧
        (e.perform (.command .paste)).1 ≠ .error (.refused (.malformed fault)) := by
  intro binder commands e
  have hcommands : ∀ c ∈ commands, c.WellFormed Lambda.signature := by
    have hbinder : Lambda.signature.validate (Cursor.root binder).document = .ok () :=
      Lambda.signature.validate_eq_ok_iff.2 (by decide)
    simpa [commands, Command.WellFormed] using hbinder
  refine ⟨hcommands, fun fault => ?_⟩
  refine run_finds_no_fault (Lambda.grammar false) {} Lambda.spine commands (fun cat => ?_)
    (fun r => r.document_cursorAt _) (Lambda.signature.validate_eq_ok_iff.2 (by decide)) hcommands
    5 .paste rfl fault
  cases cat <;> decide

end Editor

end TreeEditor
