import Mathlib.Data.List.Nodup
import TreeEditor.Grammar.Lambda
import TreeEditor.Proofs.Edits
import TreeEditor.Proofs.Runs
import TreeEditor.Proofs.Templates

/-!
# Candidates for a typed text

A text that means a node offers to put it where the cursor is: a leaf in place of the focus, a node
with children around it, once for each slot that takes the focus. Whether this can be done does not
depend on the document. A template is valid if its rule is one of its category's and the holes are
valid (`Signature.valid_template`), so its frames pass every check on their own; and the gap of a
candidate has the category of the focus, as the node itself has. So every candidate can be carried
out wherever it is offered, and an index always leads to one of them if there are any.
-/

namespace TreeEditor

variable {A : Alphabet}

namespace Signature

variable (S : Signature A)

/-! ## Frames around a tree of the same category -/

/-- The ways to put a node around a tree of its own category: one for each slot of that category,
from left to right, with holes in the other slots. -/
structure Wraps (l : Label A) (frames : List (Frame A)) : Prop where
  ascending : (frames.map Frame.index).Pairwise (· < ·)
  mem_index : ∀ i, i ∈ frames.map Frame.index ↔ (S.slots l.rule)[i]? = some l.cat
  plug_hole : ∀ f ∈ frames, f.plug (S.hole l.cat) = .node l ((S.slots l.rule).map S.hole)

/-- The slots of a rule that take a category, from left to right. -/
def slotsOf (rule : A.Rule) (cat : A.Cat) : List Nat :=
  (List.range (S.slots rule).length).filter fun i => (S.slots rule)[i]? = some cat

theorem mem_slotsOf {rule : A.Rule} {cat : A.Cat} {i : Nat} :
    i ∈ S.slotsOf rule cat ↔ (S.slots rule)[i]? = some cat := by
  unfold slotsOf
  rw [List.mem_filter, List.mem_range, decide_eq_true_iff]
  constructor
  · exact And.right
  · intro h
    exact ⟨(List.getElem?_eq_some_iff.1 h).1, h⟩

theorem wraps_templateFrames (l : Label A) :
    S.Wraps l ((S.slotsOf l.rule l.cat).filterMap (S.templateFrame? l)) := by
  have hframe : ∀ i ∈ S.slotsOf l.rule l.cat, ∃ f, S.templateFrame? l i = some f ∧ f.index = i := by
    intro i hi
    obtain ⟨f, hf, -, hindex⟩ := S.exists_templateFrame? (S.mem_slotsOf.1 hi)
    exact ⟨f, hf, hindex⟩
  -- Every slot of the category has a frame, so the frames have exactly these slots.
  have hindices : ((S.slotsOf l.rule l.cat).filterMap (S.templateFrame? l)).map Frame.index =
      S.slotsOf l.rule l.cat := by
    rw [List.map_filterMap]
    calc (S.slotsOf l.rule l.cat).filterMap (fun i => (S.templateFrame? l i).map Frame.index)
        = (S.slotsOf l.rule l.cat).filterMap some := by
          refine List.filterMap_congr fun i hi => ?_
          obtain ⟨f, hf, hindex⟩ := hframe i hi
          rw [hf, Option.map_some, hindex]
      _ = S.slotsOf l.rule l.cat := List.filterMap_some
  refine ⟨?_, ?_, ?_⟩
  · rw [hindices]
    exact List.pairwise_lt_range.filter _
  · intro i
    rw [hindices]
    exact S.mem_slotsOf
  · intro f hf
    obtain ⟨i, hi, hf⟩ := List.mem_filterMap.1 hf
    exact ((S.templateFrame?_eq_some_iff (S.mem_slotsOf.1 hi)).1 hf).1

end Signature

/-! ## What a text offers -/

/-- What a text offers at a cursor: the commands, each with the cursor it leads to. -/
inductive Grammar.Offers (g : Grammar A) (c : Cursor A) (text : String) :
    List (Command A × Cursor A) → Prop where
  | nothing (hread : g.readQuery c.focus.cat text = none) : Offers g c text []
  | leaf {rule : A.Rule} {value : A.Value}
      (hread : g.readQuery c.focus.cat text = some (rule, value)) (hslots : g.slots rule = []) :
      Offers g c text [(.replace (.node ⟨c.focus.cat, rule, value⟩ []),
        ⟨c.context, .node ⟨c.focus.cat, rule, value⟩ []⟩)]
  | node {rule : A.Rule} {value : A.Value} {frames : List (Frame A)}
      (hread : g.readQuery c.focus.cat text = some (rule, value)) (hslots : g.slots rule ≠ [])
      (hframes : g.Wraps ⟨c.focus.cat, rule, value⟩ frames) :
      Offers g c text (frames.map fun f =>
        (.insert (Context.empty.push f), ⟨c.context.push f, c.focus⟩))

namespace Grammar

theorem exists_offers (g : Grammar A) (c : Cursor A) (text : String) :
    ∃ offers, g.Offers c text offers ∧ g.candidates c.focus.cat text = offers.map Prod.fst := by
  unfold candidates
  cases hread : g.readQuery c.focus.cat text with
  | none => exact ⟨[], .nothing hread, rfl⟩
  | some meant =>
    obtain ⟨rule, value⟩ := meant
    by_cases hslots : g.slots rule = []
    · refine ⟨_, .leaf hread hslots, ?_⟩
      simp [Signature.template, hslots]
    · refine ⟨_, .node hread hslots (g.wraps_templateFrames _), ?_⟩
      simp [hslots, Signature.slotsOf]

namespace Offers

variable {g : Grammar A} {c : Cursor A} {text : String} {offers : List (Command A × Cursor A)}

theorem nodup (h : g.Offers c text offers) : (offers.map Prod.fst).Nodup := by
  cases h with
  | nothing => exact List.nodup_nil
  | leaf => exact List.nodup_singleton _
  | @node rule value frames hread hslots hframes =>
    have hascending := hframes.ascending
    rw [List.pairwise_map] at hascending
    rw [List.map_map]
    refine List.pairwise_map.2 (hascending.imp ?_)
    -- A candidate tells at which slot its gap is.
    intro f f' hlt heq
    have hcontext := Command.insert.inj heq
    obtain rfl : f = f' := List.head_eq_of_cons_eq (congrArg Context.frames hcontext)
    exact Nat.lt_irrefl _ hlt

theorem edited? {s : Snapshot A} (h : g.Offers c text offers) (hmode : s.mode = .cursor c)
    {command : Command A} {d : Cursor A} (hmem : (command, d) ∈ offers) :
    s.edited? g.toSignature command = some d.document := by
  unfold Snapshot.edited? Mode.replaced? Mode.wrapped
  cases h with
  | nothing => cases hmem
  | leaf =>
    cases List.mem_singleton.1 hmem
    rw [hmode]
    rfl
  | node =>
    obtain ⟨f, -, heq⟩ := List.mem_map.1 hmem
    cases heq
    rw [hmode]
    rfl

end Offers

end Grammar

/-- A text only means rules of the category it is typed at. -/
theorem Lambda.mem_rules_of_readQuery {cat : Lambda.Cat} {text value : String} {rule : Lambda.Rule}
    (h : Lambda.readQuery cat text = some (rule, value)) : rule ∈ Lambda.signature.rules cat := by
  unfold Lambda.readQuery at h
  cases cat with
  | exp => grind [Lambda.signature]
  | bind => grind [Lambda.signature]

/-! ## Carrying out a candidate -/

namespace Snapshot

variable {g : Grammar A} (policy : FaultPolicy) {s : Snapshot A} {c : Cursor A}

theorem insert_frame (hmode : s.mode = .cursor c) {f : Frame A} (hframe : g.checkFrame f = .ok ())
    (hgap : g.checkGap f c.focus.cat = .ok ()) (hcat : f.cat = c.focus.cat) :
    s.insert g policy (Context.empty.push f) =
      .ok (s.withCursor ⟨c.context.push f, c.focus⟩) := by
  have heach : g.checkEach (Context.empty.push f) = .ok () :=
    Check.forM_eq_ok_iff.2 (List.forall_mem_singleton.2 hframe)
  have hwrap : (Context.empty.push f).checkWrap g.toSignature c.focus.cat c.context c.focus.cat =
      .ok () := by
    refine seq_eq_ok_iff.2 ⟨?_, Context.checkSwap_eq_ok_iff.2 hcat⟩
    exact g.checkAround_push.2 ⟨⟨hframe, hgap⟩, rfl⟩
  unfold insert
  rw [hmode, seq_eq_ok_iff, seq_eq_ok_iff]
  exact ⟨Check.enforce_eq_ok_iff.2 heach, Check.fit_eq_ok_iff.2 hwrap, rfl⟩

theorem apply_offer {text : String} {offers : List (Command A × Cursor A)}
    (hread : ∀ cat text rule value, g.readQuery cat text = some (rule, value) →
      rule ∈ g.rules cat)
    (hhole : ∀ cat, g.Valid (g.hole cat)) (hmode : s.mode = .cursor c)
    (hoffers : g.Offers c text offers) {command : Command A} {d : Cursor A}
    (hmem : (command, d) ∈ offers) : s.apply g policy command = .ok (s.withCursor d) := by
  have htemplate : ∀ {rule value}, g.readQuery c.focus.cat text = some (rule, value) →
      g.Valid (g.template ⟨c.focus.cat, rule, value⟩) := by
    intro rule value h
    exact g.valid_template (hread _ _ _ _ h) fun cat _ => hhole cat
  cases hoffers with
  | nothing => cases hmem
  | @leaf rule value hmeans hslots =>
    cases List.mem_singleton.1 hmem
    refine (replace_eq_ok_iff hmode).2 ⟨⟨?_, rfl⟩, rfl⟩
    have hvalid := htemplate hmeans
    unfold Signature.template at hvalid
    rwa [hslots] at hvalid
  | @node rule value frames hmeans hslots hframes =>
    obtain ⟨f, hf, heq⟩ := List.mem_map.1 hmem
    cases heq
    have hplug := hframes.plug_hole f hf
    obtain ⟨hframe, hgap⟩ := g.checks_of_plug_hole (htemplate hmeans) hplug
    exact insert_frame policy hmode hframe hgap (congrArg Tree.cat hplug)

end Snapshot

/-! ## Submitting a text -/

theorem pick?_map {α β : Type} (f : α → β) (items : List α) (i : Nat) :
    pick? (items.map f) i = (pick? items i).map f := by
  unfold pick?
  rw [List.length_map, List.getElem?_map]

theorem exists_pick? {α : Type} {items : List α} (h : items ≠ []) (i : Nat) :
    ∃ x, pick? items i = some x :=
  ⟨_, List.getElem?_eq_getElem (Nat.mod_lt i (List.length_pos_iff.2 h))⟩

namespace Editor

variable {e : Editor A} {text : String} {i : Nat}

theorem submit_of_pick? {command : Command A} (h : pick? (e.candidates text) i = some command) :
    e.submit text i = e.execute command := by
  unfold submit
  rw [h]

theorem submit_of_nil (h : e.candidates text = []) :
    e.submit text i = (.error (.refused (.unrecognizedQuery text)), e) := by
  unfold submit
  rw [h]
  rfl

/-- **Every candidate applies.** Take a grammar in which a text only means rules of the category
it is typed at, and in which holes are valid. At a cursor, whatever the document, the candidates for
a text are exactly what it offers, no two of them the same. If there are none the text is refused
and nothing happens; otherwise the index chooses one, counted round and round, and the editor comes
to the cursor that goes with it, whatever is done about faults. A valid document stays valid. -/
theorem every_candidate_applies (e : Editor A) (c : Cursor A) (text : String)
    (hread : ∀ cat text rule value, e.grammar.readQuery cat text = some (rule, value) →
      rule ∈ e.grammar.rules cat)
    (hhole : ∀ cat, e.grammar.validate (e.grammar.hole cat) = .ok ())
    (hmode : e.current.mode = .cursor c) :
    ∃ offers, e.grammar.Offers c text offers ∧ e.candidates text = offers.map Prod.fst ∧
      (e.candidates text).Nodup ∧ ∀ i,
        (offers = [] → e.submit text i = (.error (.refused (.unrecognizedQuery text)), e)) ∧
        (offers ≠ [] → ∃ command d, offers[i % offers.length]? = some (command, d) ∧
          e.submit text i = e.execute command ∧
          e.submit text i = (.ok (), { e with
            current := e.current.withCursor d, history := e.history.record e.current })) ∧
        (e.grammar.validate e.document = .ok () →
          e.grammar.validate (e.submit text i).2.document = .ok ()) := by
  have hvalid : ∀ cat, e.grammar.Valid (e.grammar.hole cat) := by
    intro cat
    exact e.grammar.validate_eq_ok_iff.1 (hhole cat)
  obtain ⟨offers, hoffers, hmeans⟩ := e.grammar.exists_offers c text
  have hcandidates : e.candidates text = offers.map Prod.fst := by
    unfold candidates
    rw [hmode]
    exact hmeans
  refine ⟨offers, hoffers, hcandidates, hcandidates ▸ hoffers.nodup, ?_⟩
  intro i
  by_cases hnil : offers = []
  · have hsubmit : e.submit text i = (.error (.refused (.unrecognizedQuery text)), e) :=
      submit_of_nil (by rw [hcandidates, hnil, List.map_nil])
    refine ⟨fun _ => hsubmit, fun hne => absurd hnil hne, ?_⟩
    rw [hsubmit]
    exact id
  · obtain ⟨⟨command, d⟩, hpick⟩ := exists_pick? hnil i
    have hmem : (command, d) ∈ offers := List.mem_of_getElem? hpick
    have happly := Snapshot.apply_offer e.settings.faults hread hvalid hmode hoffers hmem
    have hsubmit : e.submit text i = e.execute command :=
      submit_of_pick? (by rw [hcandidates, pick?_map, hpick, Option.map_some])
    have hexecute := execute_of_apply happly
    refine ⟨fun h => absurd h hnil, fun _ => ?_, fun hdocument => ?_⟩
    · exact ⟨command, d, hpick, hsubmit, hsubmit.trans hexecute⟩
    · rw [hsubmit, hexecute]
      rw [e.grammar.validate_eq_ok_iff] at hdocument ⊢
      exact (Snapshot.legal_of_edit hdocument (hoffers.edited? hmode hmem) happly).1

/-- A blank typed at the root of `((a b) c) d` offers an application around it in two ways. Index
`3` makes the whole term the argument of one. -/
theorem every_candidate_applies_application :
    let e := start (Lambda.grammar false) { faults := .refuse } Lambda.spine
    let function := Context.empty.push (Lambda.functionFrame Lambda.hole)
    let argument := Context.empty.push (Lambda.argumentFrame Lambda.hole)
    e.candidates " " = [.insert function, .insert argument] ∧
      e.submit " " 3 = e.execute (.insert argument) ∧ (e.submit " " 3).1 = .ok () ∧
      e.grammar.validate (e.submit " " 3).2.document = .ok () := by
  intro e function argument
  have hcandidates : e.candidates " " = [.insert function, .insert argument] := rfl
  have hhole : ∀ cat, Lambda.signature.validate (Lambda.signature.hole cat) = .ok () := by
    intro cat
    refine Lambda.signature.validate_eq_ok_iff.2 ?_
    cases cat <;> decide
  obtain ⟨offers, -, hoffers, -, happlies⟩ := every_candidate_applies e ⟨.empty, Lambda.spine⟩ " "
    (fun _ _ _ _ h => Lambda.mem_rules_of_readQuery h) hhole rfl
  obtain ⟨-, hsome, hvalid⟩ := happlies 3
  have hlength : offers.length = 2 := by
    rw [← List.length_map (f := Prod.fst), ← hoffers, hcandidates]
    rfl
  obtain ⟨command, d, hpick, hexecute, hsubmit⟩ := hsome (List.ne_nil_of_length_eq_add_one hlength)
  have hcommand : (e.candidates " ")[1]? = some command := by
    rw [hoffers, List.getElem?_map]
    rw [hlength] at hpick
    exact congrArg (Option.map Prod.fst) hpick
  rw [hcandidates] at hcommand
  cases hcommand
  refine ⟨hcandidates, hexecute, ?_, hvalid ?_⟩
  · rw [hsubmit]
  · exact Lambda.signature.validate_eq_ok_iff.2 (by decide)

end Editor

end TreeEditor
