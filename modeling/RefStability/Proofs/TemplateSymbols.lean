import Mathlib.Data.List.Forall2
import RefStability.Path.TemplateTable
import RefStability.SymbolTable

/-!
# Templates of symbols

Here the names of a template are symbols, and reading one adds the names that are new to a table of
symbols. A table only grows, and a symbol keeps its text, so that what has been read stands for the
same texts ever after: those that reading without symbols gives, whatever the table held before.
-/

namespace RefStability

/-! ### Tables that grow -/

namespace SymbolTable

variable {table longer : SymbolTable} {text : String} {symbol : Nat}

theorem find?_eq_some_iff : table.find? text = some symbol ↔ table.text? symbol = some text := by
  rw [find?, text?, List.idxOf?, List.findIdx?_eq_some_iff_getElem, List.getElem?_eq_some_iff]
  constructor
  · rintro ⟨hlt, htext, _⟩
    exact ⟨hlt, eq_of_beq htext⟩
  · rintro ⟨hlt, htext⟩
    refine ⟨hlt, beq_iff_eq.mpr htext, fun earlier hearlier hsame => ?_⟩
    have hne := List.pairwise_iff_getElem.mp table.nodup earlier symbol
      (Nat.lt_trans hearlier hlt) hlt hearlier
    exact hne ((eq_of_beq hsame).trans htext.symm)

theorem text?_of_grown (hlonger : table.texts <+: longer.texts)
    (htext : table.text? symbol = some text) : longer.text? symbol = some text := by
  obtain ⟨added, hadded⟩ := hlonger
  obtain ⟨hlt, _⟩ := List.getElem?_eq_some_iff.mp htext
  rw [text?, ← hadded, List.getElem?_append_left hlt]
  exact htext

theorem prefix_intern (table : SymbolTable) (text : String) :
    table.texts <+: (table.intern text).2.texts := by
  unfold intern
  split
  · exact List.prefix_refl _
  · exact List.prefix_append _ _

theorem text?_intern (table : SymbolTable) (text : String) :
    (table.intern text).2.text? (table.intern text).1 = some text := by
  unfold intern
  split
  · rename_i symbol hfound
    exact find?_eq_some_iff.mp hfound
  · exact List.getElem?_concat_length

end SymbolTable

/-! ### Reading with symbols -/

inductive SymbolSegment where
  | name (symbol : Nat)
  | index
  | call (symbol : Nat)

structure SymbolTemplate extends TemplateSteps SymbolSegment where
  root : Nat
  rootIndex : Nat

/-- Numbers the name of a segment. -/
def Segment.intern (symbols : SymbolTable) : Segment → SymbolSegment × SymbolTable
  | .name text => ((.name (symbols.intern text).1), (symbols.intern text).2)
  | .index => (.index, symbols)
  | .call text => ((.call (symbols.intern text).1), (symbols.intern text).2)

def SymbolSegment.text? (symbols : SymbolTable) : SymbolSegment → Option Segment
  | .name symbol => (symbols.text? symbol).map .name
  | .index => some .index
  | .call symbol => (symbols.text? symbol).map .call

theorem mapM_eq_some_iff_forall₂ {α β : Type} {read : α → Option β} {items : List α}
    {found : List β} :
    items.mapM read = some found ↔ List.Forall₂ (fun item value => read item = some value) items
      found := by
  induction items generalizing found with
  | nil => simp [eq_comm]
  | cons item rest ih =>
      rw [List.mapM_cons, Option.bind_eq_bind, Option.bind_eq_some_iff]
      constructor
      · rintro ⟨value, hvalue, hrest⟩
        obtain ⟨values, hvalues, heq⟩ := Option.bind_eq_some_iff.mp hrest
        cases heq
        exact .cons hvalue (ih.mp hvalues)
      · intro hfound
        cases hfound with
        | cons hvalue hrest =>
            refine ⟨_, hvalue, ?_⟩
            rw [ih.mpr hrest]
            rfl

namespace TemplateSteps

variable {α β : Type}

/-- Reads each segment; there are as many as before, so that the boundary stays among them. -/
def mapM? (read : α → Option β) (steps : TemplateSteps α) : Option (TemplateSteps β) :=
  match hread : steps.segments.mapM read with
  | none => none
  | some segments => some {
      segments
      boundary := steps.boundary
      boundary_le := (mapM_eq_some_iff_forall₂.mp hread).length_eq ▸ steps.boundary_le }

theorem mapM?_eq_some_iff {read : α → Option β} {steps : TemplateSteps α}
    {found : TemplateSteps β} :
    steps.mapM? read = some found ↔
      List.Forall₂ (fun segment value => read segment = some value) steps.segments found.segments ∧
        steps.boundary = found.boundary := by
  rw [← mapM_eq_some_iff_forall₂]
  unfold mapM?
  split
  · rename_i hread
    simp [hread]
  · rename_i segments hread
    simp only [hread, Option.some.injEq, TemplateSteps.ext_iff]

end TemplateSteps

namespace SymbolTemplate

/-- The template with the texts that its symbols stand for. -/
def texts? (symbols : SymbolTable) (template : SymbolTemplate) : Option Template := do
  let root ← symbols.text? template.root
  let steps ← template.toTemplateSteps.mapM? (SymbolSegment.text? symbols)
  return { steps with root, rootIndex := template.rootIndex }

def outcomeTexts? (symbols : SymbolTable) :
    Except TemplateError SymbolTemplate → Option (Except TemplateError Template)
  | .ok template => (template.texts? symbols).map .ok
  | .error cause => some (.error cause)

def readSteps (symbols : SymbolTable) (steps : TemplateSteps SymbolSegment) :
    List String → Except TemplateError (TemplateSteps SymbolSegment) × SymbolTable
  | [] => (.ok steps, symbols)
  | token :: rest =>
    match TemplateStep.ofToken? token with
    | none => (.error (.invalidToken token), symbols)
    | some (.segment segment) =>
      readSteps (segment.intern symbols).2 (steps.push (segment.intern symbols).1) rest
    | some .boundary =>
      if steps.boundary.isSome then (.error .duplicateBoundary, symbols)
      else readSteps symbols steps.mark rest

/-- Reads a template for a method with the given symbols of parameters, and numbers the names in it
as they come, those before a bad token included. -/
def parse (symbols : SymbolTable) (params : List Nat) :
    List String → Except TemplateError SymbolTemplate × SymbolTable
  | [] => (.error .empty, symbols)
  | root :: rest =>
    if Text.isIdentifier root then
      match (symbols.find? root).bind fun symbol => (params.idxOf? symbol).map ((symbol, ·)) with
      | none => (.error (.unknownRoot root), symbols)
      | some (symbol, rootIndex) =>
        let (outcome, grown) := readSteps symbols .empty rest
        (outcome.map fun steps => { steps with root := symbol, rootIndex }, grown)
    else (.error (.invalidRoot root), symbols)

end SymbolTemplate

/-! ### Symbols keep their texts -/

theorem Segment.prefix_intern (symbols : SymbolTable) (segment : Segment) :
    symbols.texts <+: (segment.intern symbols).2.texts := by
  cases segment with
  | name text => exact symbols.prefix_intern text
  | index => exact List.prefix_refl _
  | call text => exact symbols.prefix_intern text

theorem Segment.text?_intern (symbols : SymbolTable) (segment : Segment) :
    (segment.intern symbols).1.text? (segment.intern symbols).2 = some segment := by
  cases segment with
  | name text => rw [intern, SymbolSegment.text?, symbols.text?_intern, Option.map_some]
  | index => rfl
  | call text => rw [intern, SymbolSegment.text?, symbols.text?_intern, Option.map_some]

section Growing

variable {symbols grown : SymbolTable} (hgrown : symbols.texts <+: grown.texts)
include hgrown

theorem SymbolSegment.text?_of_grown {segment : SymbolSegment} {text : Segment}
    (htext : segment.text? symbols = some text) : segment.text? grown = some text := by
  cases segment with
  | index => exact htext
  | name symbol | call symbol =>
      obtain ⟨name, hname, rfl⟩ := Option.map_eq_some_iff.mp htext
      rw [text?, SymbolTable.text?_of_grown hgrown hname, Option.map_some]

theorem SymbolTemplate.texts?_of_grown {template : SymbolTemplate} {texts : Template}
    (htexts : template.texts? symbols = some texts) : template.texts? grown = some texts := by
  simp only [texts?, Option.bind_eq_bind, Option.bind_eq_some_iff] at htexts ⊢
  obtain ⟨root, hroot, steps, hsteps, htemplate⟩ := htexts
  refine ⟨root, SymbolTable.text?_of_grown hgrown hroot, steps, ?_, htemplate⟩
  rw [TemplateSteps.mapM?_eq_some_iff] at hsteps ⊢
  exact hsteps.imp_left fun hsegments =>
    hsegments.imp fun _ _ => SymbolSegment.text?_of_grown hgrown

theorem SymbolTemplate.outcomeTexts?_of_grown {outcome : Except TemplateError SymbolTemplate}
    {texts : Except TemplateError Template} (htexts : outcomeTexts? symbols outcome = some texts) :
    outcomeTexts? grown outcome = some texts := by
  cases outcome with
  | error cause => exact htexts
  | ok template =>
      obtain ⟨read, hread, rfl⟩ := Option.map_eq_some_iff.mp htexts
      rw [outcomeTexts?, texts?_of_grown hgrown hread, Option.map_some]

end Growing

/-! ### The same template, whatever the table holds -/

namespace SymbolTemplate

/-- The symbols that have been read stand for the given texts. -/
abbrev SegmentsRead (symbols : SymbolTable) : List SymbolSegment → List Segment → Prop :=
  List.Forall₂ fun segment text => segment.text? symbols = some text

structure StepsRead (symbols : SymbolTable) (steps : TemplateSteps SymbolSegment)
    (texts : TemplateSteps Segment) : Prop where
  segments : SegmentsRead symbols steps.segments texts.segments
  boundary : steps.boundary = texts.boundary

namespace StepsRead

variable {symbols : SymbolTable} {steps : TemplateSteps SymbolSegment}
  {texts : TemplateSteps Segment} (hread : StepsRead symbols steps texts)
include hread

theorem mark : StepsRead symbols steps.mark texts.mark where
  segments := hread.segments
  boundary := congrArg some hread.segments.length_eq

/-- The segments read before keep their texts in the table that has grown. -/
theorem push_intern (segment : Segment) :
    StepsRead (segment.intern symbols).2 (steps.push (segment.intern symbols).1)
      (texts.push segment) where
  segments := by
    have hearlier : SegmentsRead (segment.intern symbols).2 steps.segments texts.segments :=
      hread.segments.imp fun _ _ =>
        SymbolSegment.text?_of_grown (segment.prefix_intern symbols)
    exact List.rel_append hearlier (.cons (segment.text?_intern symbols) .nil)
  boundary := hread.boundary

end StepsRead

/-- Both readings fail in the same way, or both give the same texts and boundary. -/
inductive StepsAgree (symbols : SymbolTable) :
    Except TemplateError (TemplateSteps SymbolSegment) →
      Except TemplateError (TemplateSteps Segment) → Prop
  | error (cause : TemplateError) : StepsAgree symbols (.error cause) (.error cause)
  | ok {steps : TemplateSteps SymbolSegment} {texts : TemplateSteps Segment}
      (hread : StepsRead symbols steps texts) : StepsAgree symbols (.ok steps) (.ok texts)

theorem readSteps_agree {symbols : SymbolTable} {steps : TemplateSteps SymbolSegment}
    {texts : TemplateSteps Segment} (hread : StepsRead symbols steps texts)
    (tokens : List String) :
    symbols.texts <+: (readSteps symbols steps tokens).2.texts ∧
      StepsAgree (readSteps symbols steps tokens).2 (readSteps symbols steps tokens).1
        (Template.readSteps texts tokens) := by
  induction tokens generalizing symbols steps texts with
  | nil => exact ⟨List.prefix_refl _, .ok hread⟩
  | cons token rest ih =>
      rw [readSteps, Template.readSteps]
      cases TemplateStep.ofToken? token with
      | none => exact ⟨List.prefix_refl _, .error _⟩
      | some step =>
          cases step with
          | boundary =>
              simp only [hread.boundary]
              split
              · exact ⟨List.prefix_refl _, .error _⟩
              · exact ih hread.mark
          | segment segment =>
              obtain ⟨hmore, hagree⟩ := ih (hread.push_intern segment)
              exact ⟨(segment.prefix_intern symbols).trans hmore, hagree⟩

/-- The symbols of parameters stand for the given names. -/
abbrev ParamsRead (symbols : SymbolTable) : List Nat → List String → Prop :=
  List.Forall₂ fun symbol name => symbols.text? symbol = some name

section Roots

variable {symbols : SymbolTable} {params : List Nat} {names : List String}
  (hparams : ParamsRead symbols params names)
include hparams

theorem notMem_of_find?_none {root : String} (hroot : symbols.find? root = none) :
    root ∉ names := by
  induction hparams with
  | nil => exact List.not_mem_nil
  | cons hparam _ ih =>
      rw [List.mem_cons, not_or]
      refine ⟨?_, ih⟩
      rintro rfl
      rw [SymbolTable.find?_eq_some_iff.mpr hparam] at hroot
      cases hroot

/-- A parameter is found by its symbol where it is found by its name. -/
theorem idxOf?_eq {root : String} {symbol : Nat} (hroot : symbols.text? symbol = some root) :
    params.idxOf? symbol = names.idxOf? root := by
  induction hparams with
  | nil => rfl
  | @cons param name params names hparam _ ih =>
      have hsame : (param == symbol) = (name == root) := by
        rw [Bool.eq_iff_iff, beq_iff_eq, beq_iff_eq]
        constructor
        · rintro rfl
          exact Option.some.inj (hparam.symm.trans hroot)
        · rintro rfl
          exact Option.some.inj ((SymbolTable.find?_eq_some_iff.mpr hparam).symm.trans
            (SymbolTable.find?_eq_some_iff.mpr hroot))
      rw [List.idxOf?_cons, List.idxOf?_cons, hsame, ih]

/-- Reading with symbols adds to the table and gives, in texts, what reading without them gives. -/
theorem parse_agree (tokens : List String) :
    symbols.texts <+: (parse symbols params tokens).2.texts ∧
      outcomeTexts? (parse symbols params tokens).2 (parse symbols params tokens).1 =
        some (Template.parse names tokens) := by
  cases tokens with
  | nil => exact ⟨List.prefix_refl _, rfl⟩
  | cons root rest =>
      rw [parse, Template.parse]
      cases hidentifier : Text.isIdentifier root with
      | false => exact ⟨List.prefix_refl _, rfl⟩
      | true =>
          cases hsymbol : symbols.find? root with
          | none =>
              have hindex : names.idxOf? root = none :=
                List.idxOf?_eq_none_iff.mpr (notMem_of_find?_none hparams hsymbol)
              rw [hindex]
              exact ⟨List.prefix_refl _, rfl⟩
          | some symbol =>
              have htext := SymbolTable.find?_eq_some_iff.mp hsymbol
              rw [Option.bind_some, idxOf?_eq hparams htext]
              cases names.idxOf? root with
              | none => exact ⟨List.prefix_refl _, rfl⟩
              | some rootIndex =>
                  have hempty : StepsRead symbols .empty .empty := ⟨.nil, rfl⟩
                  obtain ⟨hgrown, hagree⟩ := readSteps_agree hempty rest
                  simp only [Option.map_some, if_true]
                  generalize readSteps symbols .empty rest = result at hgrown hagree ⊢
                  generalize Template.readSteps .empty rest = textResult at hagree ⊢
                  obtain ⟨outcome, grown⟩ := result
                  refine ⟨hgrown, ?_⟩
                  cases hagree with
                  | error cause => rfl
                  | ok hread =>
                      have hsteps :=
                        TemplateSteps.mapM?_eq_some_iff.mpr ⟨hread.segments, hread.boundary⟩
                      have hroot := SymbolTable.text?_of_grown hgrown htext
                      simp only [Except.map, outcomeTexts?, texts?, hroot, hsteps,
                        Option.bind_eq_bind, Option.bind_some, Option.pure_def, Option.map_some]

end Roots

end SymbolTemplate

end RefStability
