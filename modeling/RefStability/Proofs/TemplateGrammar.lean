import RefStability.Proofs.TemplateSymbols
import RefStability.Proofs.WithinBounds

/-!
# The grammar of templates

A template is written as the name of a parameter and then tokens of four kinds: an identifier, an
identifier followed by `()`, `[]`, and at most one `!`. The reader accepts exactly these lists and
keeps all of what they say, so that the tokens can be written again from the template; on any other
list it fails at the first token that does not fit.
-/

namespace RefStability

/-! ### Tokens -/

namespace Text

/-- No identifier has a character in it that separates tokens. -/
theorem isIdentifierRest_of_mem {text : String} (hidentifier : isIdentifier text = true) {c : Char}
    (hc : c ∈ text.toList) : isIdentifierRest c = true := by
  unfold isIdentifier at hidentifier
  generalize text.toList = chars at hidentifier hc
  cases chars with
  | nil => cases hc
  | cons first rest =>
      rw [isIdentifierChars, Bool.and_eq_true, List.all_eq_true] at hidentifier
      obtain ⟨hfirst, hrest⟩ := hidentifier
      rcases List.mem_cons.mp hc with rfl | hmem
      · rw [isIdentifierStart, Bool.or_eq_true] at hfirst
        rw [isIdentifierRest, isAlphanumeric, Bool.or_eq_true, Bool.or_eq_true]
        exact hfirst.imp_left .inl
      · exact hrest c hmem

theorem isIdentifier_of_separator {text : String} {c : Char} (hc : c ∈ text.toList)
    (hseparates : isIdentifierRest c = false) : isIdentifier text = false := by
  rw [Bool.eq_false_iff]
  intro hidentifier
  rw [isIdentifierRest_of_mem hidentifier hc] at hseparates
  cases hseparates

end Text

/-- What a token stands for. -/
inductive Segment.Written : String → Segment → Prop
  | name {text : String} (hidentifier : Text.isIdentifier text = true) : Written text (.name text)
  | index : Written "[]" .index
  | call {callee : String} (hidentifier : Text.isIdentifier callee = true) :
      Written (callee ++ "()") (.call callee)

def Segment.token : Segment → String
  | .name text => text
  | .index => "[]"
  | .call callee => callee ++ "()"

theorem Segment.Written.token_eq {token : String} {segment : Segment}
    (hwritten : Written token segment) : segment.token = token := by
  cases hwritten <;> rfl

theorem ofToken?_of_identifier {token : String} (hidentifier : Text.isIdentifier token = true) :
    TemplateStep.ofToken? token = some (.segment (.name token)) := by
  have hboundary : token ≠ "!" := by
    rintro rfl
    exact absurd hidentifier (by decide +kernel)
  have hindex : token ≠ "[]" := by
    rintro rfl
    exact absurd hidentifier (by decide +kernel)
  rw [TemplateStep.ofToken?, if_neg hboundary, if_neg hindex, if_pos hidentifier]

theorem ofToken?_of_call {callee : String} (hidentifier : Text.isIdentifier callee = true) :
    TemplateStep.ofToken? (callee ++ "()") = some (.segment (.call callee)) := by
  have hchars : (callee ++ "()").toList = callee.toList ++ ['(', ')'] := String.toList_append
  have hplain : Text.isIdentifier (callee ++ "()") = false :=
    Text.isIdentifier_of_separator (c := '(') (by simp [hchars]) (by decide +kernel)
  have hboundary : callee ++ "()" ≠ "!" := by
    intro heq
    have hlength := congrArg (fun text => text.toList.length) heq
    simp [hchars] at hlength
  have hindex : callee ++ "()" ≠ "[]" := by
    intro heq
    have hlast := congrArg (fun text => text.toList.getLast?) heq
    simp [hchars] at hlast
  have hreverse : (callee ++ "()").toList.reverse = ')' :: '(' :: callee.toList.reverse := by
    rw [hchars, List.reverse_append]
    rfl
  rw [TemplateStep.ofToken?, if_neg hboundary, if_neg hindex, hplain, hreverse]
  simp [hidentifier]

/-- The reader of tokens knows exactly the kinds of tokens that stand for a segment. -/
theorem ofToken?_eq_segment_iff {token : String} {segment : Segment} :
    TemplateStep.ofToken? token = some (.segment segment) ↔ Segment.Written token segment := by
  constructor
  · intro hstep
    unfold TemplateStep.ofToken? at hstep
    split at hstep
    · cases hstep
    split at hstep
    · rename_i htoken
      cases hstep
      exact htoken ▸ .index
    split at hstep
    · rename_i hidentifier
      cases hstep
      exact .name hidentifier
    split at hstep
    · rename_i reversed hreverse
      rw [Option.ite_none_right_eq_some, Option.some.injEq] at hstep
      obtain ⟨hidentifier, hsegment⟩ := hstep
      cases hsegment
      have htoken : token = String.ofList reversed.reverse ++ "()" := by
        apply String.toList_inj.mp
        rw [String.toList_append, String.toList_ofList, ← List.reverse_reverse token.toList,
          hreverse, List.reverse_cons, List.reverse_cons, List.append_assoc]
        rfl
      exact htoken ▸ .call hidentifier
    · cases hstep
  · intro hwritten
    cases hwritten with
    | name hidentifier => exact ofToken?_of_identifier hidentifier
    | index => rfl
    | call hidentifier => exact ofToken?_of_call hidentifier

theorem ofToken?_eq_boundary_iff {token : String} :
    TemplateStep.ofToken? token = some .boundary ↔ token = "!" := by
  constructor
  · intro hstep
    by_contra hne
    unfold TemplateStep.ofToken? at hstep
    rw [if_neg hne] at hstep
    split at hstep
    · cases hstep
    split at hstep
    · cases hstep
    split at hstep
    · rw [Option.ite_none_right_eq_some] at hstep
      cases hstep.2
    · cases hstep
  · rintro rfl
    rfl

theorem Segment.Written.ne_boundary {token : String} {segment : Segment}
    (hwritten : Written token segment) : token ≠ "!" := by
  intro heq
  have hsegment := ofToken?_eq_segment_iff.mpr hwritten
  rw [ofToken?_eq_boundary_iff.mpr heq] at hsegment
  cases hsegment

namespace Template

/-- A token that may stand after the root. -/
def IsStep (token : String) : Prop := token = "!" ∨ ∃ segment, Segment.Written token segment

theorem ofToken?_eq_none_iff {token : String} :
    TemplateStep.ofToken? token = none ↔ ¬IsStep token := by
  cases hstep : TemplateStep.ofToken? token with
  | none =>
      refine iff_of_true rfl ?_
      rintro (hboundary | ⟨segment, hwritten⟩)
      · rw [ofToken?_eq_boundary_iff.mpr hboundary] at hstep
        cases hstep
      · rw [ofToken?_eq_segment_iff.mpr hwritten] at hstep
        cases hstep
  | some step =>
      refine iff_of_false (Option.some_ne_none step) (not_not_intro ?_)
      cases step with
      | boundary => exact .inl (ofToken?_eq_boundary_iff.mp hstep)
      | segment segment => exact .inr ⟨segment, ofToken?_eq_segment_iff.mp hstep⟩

/-! ### The tokens after the root -/

section Equations

variable {steps : TemplateSteps Segment} {token : String} (rest : List String)

theorem readSteps_boundary (hnone : steps.boundary = none) :
    readSteps steps ("!" :: rest) = readSteps steps.mark rest := by
  rw [readSteps, ofToken?_eq_boundary_iff.mpr rfl]
  simp [hnone]

theorem readSteps_repeated (hsome : steps.boundary.isSome = true) :
    readSteps steps ("!" :: rest) = .error .duplicateBoundary := by
  rw [readSteps, ofToken?_eq_boundary_iff.mpr rfl]
  exact if_pos hsome

theorem readSteps_segment {segment : Segment} (hwritten : Segment.Written token segment) :
    readSteps steps (token :: rest) = readSteps (steps.push segment) rest := by
  rw [readSteps, ofToken?_eq_segment_iff.mpr hwritten]

theorem readSteps_invalid (hinvalid : ¬IsStep token) :
    readSteps steps (token :: rest) = .error (.invalidToken token) := by
  rw [readSteps, ofToken?_eq_none_iff.mpr hinvalid]

end Equations

theorem filter_ne_boundary_cons {token : String} (hne : token ≠ "!") (rest : List String) :
    (token :: rest).filter (· != "!") = token :: rest.filter (· != "!") := by
  rw [List.filter_cons, if_pos (bne_iff_ne.mpr hne)]

theorem idxOf?_boundary_cons {token : String} (hne : token ≠ "!") (rest : List String) :
    (token :: rest).idxOf? "!" = (rest.idxOf? "!").map (· + 1) := by
  rw [List.idxOf?_cons, beq_eq_false_iff_ne.mpr hne]
  rfl

/-- Tokens that may follow a root, `!` at most once. -/
structure Fits (tokens : List String) : Prop where
  steps : ∀ token ∈ tokens, IsStep token
  once : tokens.count "!" ≤ 1

/-- The reader adds a segment for each token but `!`, and counts the segments before that one. -/
theorem readSteps_of_isStep {tokens : List String} (hsteps : ∀ token ∈ tokens, IsStep token)
    {steps : TemplateSteps Segment}
    (honce : steps.boundary.toList.length + tokens.count "!" ≤ 1) :
    ∃ added found, List.Forall₂ Segment.Written (tokens.filter (· != "!")) added ∧
      readSteps steps tokens = .ok found ∧ found.segments = steps.segments ++ added ∧
      found.boundary =
        steps.boundary.or ((tokens.idxOf? "!").map (steps.segments.length + ·)) := by
  induction tokens generalizing steps with
  | nil =>
      refine ⟨[], steps, .nil, rfl, (List.append_nil _).symm, ?_⟩
      rw [List.idxOf?_nil, Option.map_none, Option.or_none]
  | cons token rest ih =>
      rw [List.forall_mem_cons] at hsteps
      obtain ⟨hstep, hsteps⟩ := hsteps
      rcases hstep with rfl | ⟨segment, hwritten⟩
      · rw [List.count_cons_self] at honce
        cases hboundary : steps.boundary with
        | some position =>
            -- This `!` would be the second one.
            rw [hboundary, Option.toList_some, List.length_singleton] at honce
            omega
        | none =>
            rw [hboundary, Option.toList_none, List.length_nil] at honce
            have hrest : steps.mark.boundary.toList.length + rest.count "!" ≤ 1 := by
              rw [TemplateSteps.mark, Option.toList_some, List.length_singleton]
              omega
            obtain ⟨added, found, hadded, hread, hsegments, hmarked⟩ := ih hsteps hrest
            exact ⟨added, found, hadded, (readSteps_boundary rest hboundary).trans hread, hsegments,
              hmarked⟩
      · have hne := hwritten.ne_boundary
        rw [List.count_cons_of_ne hne] at honce
        obtain ⟨added, found, hadded, hread, hsegments, hboundary⟩ :=
          @ih hsteps (steps.push segment) honce
        refine ⟨segment :: added, found, ?_, (readSteps_segment rest hwritten).trans hread, ?_, ?_⟩
        · rw [filter_ne_boundary_cons hne]
          exact .cons hwritten hadded
        · rw [hsegments, TemplateSteps.push, List.append_assoc, List.singleton_append]
        · rw [hboundary, idxOf?_boundary_cons hne, Option.map_map, TemplateSteps.push,
            List.length_append, List.length_singleton]
          congr 2
          funext position
          rw [Function.comp_apply]
          omega

theorem readSteps_of_fits {tokens : List String} (hfits : Fits tokens) :
    ∃ found, readSteps .empty tokens = .ok found ∧
      List.Forall₂ Segment.Written (tokens.filter (· != "!")) found.segments ∧
      found.boundary = tokens.idxOf? "!" := by
  have honce : (none : Option Nat).toList.length + tokens.count "!" ≤ 1 := by
    simpa using hfits.once
  obtain ⟨added, found, hadded, hread, hsegments, hboundary⟩ :=
    @readSteps_of_isStep tokens hfits.steps .empty honce
  refine ⟨found, hread, hsegments ▸ hadded, ?_⟩
  simpa [TemplateSteps.empty] using hboundary

theorem readSteps_append {before : List String} {steps found : TemplateSteps Segment}
    (hbefore : readSteps steps before = .ok found) (after : List String) :
    readSteps steps (before ++ after) = readSteps found after := by
  fun_induction readSteps steps before with
  | case1 steps =>
      cases hbefore
      rfl
  | case2 => cases hbefore
  | case3 steps token rest segment hstep ih =>
      rw [List.cons_append, readSteps, hstep]
      exact ih hbefore
  | case4 => cases hbefore
  | case5 steps token rest hstep hnone ih =>
      rw [List.cons_append, readSteps, hstep]
      simp only [hnone, Bool.false_eq_true, if_false]
      exact ih hbefore

/-- How a token fails to fit after those before it. -/
inductive Offends (before : List String) : String → TemplateError → Prop
  | invalid {token : String} (hinvalid : ¬IsStep token) :
      Offends before token (.invalidToken token)
  | repeated (hbefore : "!" ∈ before) : Offends before "!" .duplicateBoundary

theorem readSteps_of_offends {before after : List String} {token : String} {error : TemplateError}
    (hbefore : Fits before) (hoffends : Offends before token error) :
    readSteps .empty (before ++ token :: after) = .error error := by
  obtain ⟨found, hread, _, hboundary⟩ := readSteps_of_fits hbefore
  rw [readSteps_append hread]
  cases hoffends with
  | invalid hinvalid => exact readSteps_invalid after hinvalid
  | repeated hmem =>
      exact readSteps_repeated after (hboundary ▸ List.isSome_idxOf?.mpr hmem)

theorem Fits.append_singleton {tokens : List String} {token : String} (hfits : Fits tokens)
    (hstep : IsStep token) (hnew : ¬(token = "!" ∧ "!" ∈ tokens)) : Fits (tokens ++ [token]) where
  steps := by
    intro other hother
    rcases List.mem_append.mp hother with hmem | hmem
    · exact hfits.steps other hmem
    · exact List.mem_singleton.mp hmem ▸ hstep
  once := by
    rw [List.count_append, List.count_singleton]
    split
    · rename_i hboundary
      have hcount : tokens.count "!" = 0 :=
        List.count_eq_zero.mpr fun hmem => hnew ⟨eq_of_beq hboundary, hmem⟩
      omega
    · exact hfits.once

/-- Where the tokens do not fit there is a first one that does not. -/
theorem fits_or_offends (tokens : List String) :
    Fits tokens ∨ ∃ before token after error, tokens = before ++ token :: after ∧ Fits before ∧
      Offends before token error := by
  induction tokens using List.reverseRecOn with
  | nil => exact .inl ⟨by simp, by simp⟩
  | append_singleton tokens token ih =>
      rcases ih with hfits | ⟨before, offending, after, error, rfl, hbefore, hoffends⟩
      · by_cases hstep : IsStep token
        · by_cases hrepeated : token = "!" ∧ "!" ∈ tokens
          · obtain ⟨rfl, hmem⟩ := hrepeated
            exact .inr ⟨tokens, "!", [], _, rfl, hfits, .repeated hmem⟩
          · exact .inl (hfits.append_singleton hstep hrepeated)
        · exact .inr ⟨tokens, token, [], _, rfl, hfits, .invalid hstep⟩
      · refine .inr ⟨before, offending, after ++ [token], error, ?_, hbefore, hoffends⟩
        rw [List.append_assoc, List.cons_append]

/-! ### Whole templates -/

/-- The lists of tokens that say how a reference derives from one of the parameters. -/
inductive InGrammar (params : List String) : List String → Prop
  | intro {root : String} {rest : List String} (hidentifier : Text.isIdentifier root = true)
      (hparam : root ∈ params) (hrest : Fits rest) : InGrammar params (root :: rest)

/-- The first thing wrong with a list of tokens. The root is looked at before any later token. -/
inductive FirstError (params : List String) : List String → TemplateError → Prop
  | empty : FirstError params [] .empty
  | invalidRoot {root : String} {rest : List String} (hroot : Text.isIdentifier root = false) :
      FirstError params (root :: rest) (.invalidRoot root)
  | unknownRoot {root : String} {rest : List String} (hidentifier : Text.isIdentifier root = true)
      (hroot : root ∉ params) : FirstError params (root :: rest) (.unknownRoot root)
  | later {root token : String} {before after : List String} {error : TemplateError}
      (hidentifier : Text.isIdentifier root = true) (hparam : root ∈ params)
      (hbefore : Fits before) (hoffends : Offends before token error) :
      FirstError params (root :: (before ++ token :: after)) error

/-- What a template says of the parameters and of the tokens it was read from. -/
structure Keeps (params tokens : List String) (template : Template) : Prop where
  root : tokens.head? = some template.root
  rootIndex : params[template.rootIndex]? = some template.root
  first : ∀ earlier < template.rootIndex, params[earlier]? ≠ some template.root
  segments : List.Forall₂ Segment.Written (tokens.tail.filter (· != "!")) template.segments
  boundary : template.boundary = tokens.tail.idxOf? "!"

def withBoundary (tokens : List String) : Option Nat → List String
  | none => tokens
  | some boundary => tokens.take boundary ++ "!" :: tokens.drop boundary

/-- Writes a template. -/
def tokens (template : Template) : List String :=
  template.root :: withBoundary (template.segments.map Segment.token) template.boundary

theorem inGrammar_or_firstError (params tokens : List String) :
    InGrammar params tokens ∨ ∃ error, FirstError params tokens error := by
  cases tokens with
  | nil => exact .inr ⟨_, .empty⟩
  | cons root rest =>
      cases hidentifier : Text.isIdentifier root with
      | false => exact .inr ⟨_, .invalidRoot hidentifier⟩
      | true =>
          by_cases hparam : root ∈ params
          · rcases fits_or_offends rest with
              hrest | ⟨before, token, after, error, rfl, hbefore, hoffends⟩
            · exact .inl ⟨hidentifier, hparam, hrest⟩
            · exact .inr ⟨error, .later hidentifier hparam hbefore hoffends⟩
          · exact .inr ⟨_, .unknownRoot hidentifier hparam⟩

theorem parse_of_firstError {params tokens : List String} {error : TemplateError}
    (herror : FirstError params tokens error) : parse params tokens = .error error := by
  cases herror with
  | empty => rfl
  | invalidRoot hroot => simp [parse, hroot]
  | unknownRoot hidentifier hroot =>
      rw [parse, if_pos hidentifier, List.idxOf?_eq_none_iff.mpr hroot]
  | later hidentifier hparam hbefore hoffends =>
      obtain ⟨index, hindex⟩ := Option.isSome_iff_exists.mp (List.isSome_idxOf?.mpr hparam)
      rw [parse, if_pos hidentifier, hindex]
      simp only [readSteps_of_offends hbefore hoffends]
      rfl

theorem parse_of_inGrammar {params tokens : List String} (hgrammar : InGrammar params tokens) :
    ∃ template, parse params tokens = .ok template ∧ Keeps params tokens template := by
  cases hgrammar with
  | @intro root rest hidentifier hparam hrest =>
      obtain ⟨index, hindex⟩ := Option.isSome_iff_exists.mp (List.isSome_idxOf?.mpr hparam)
      obtain ⟨found, hread, hsegments, hboundary⟩ := readSteps_of_fits hrest
      refine ⟨⟨found, root, index⟩, ?_, ?_⟩
      · rw [parse, if_pos hidentifier, hindex]
        simp only [hread]
        rfl
      · obtain ⟨hlt, hat, hearlier⟩ := List.idxOf?_eq_some_iff.mp hindex
        refine ⟨rfl, List.getElem?_eq_some_iff.mpr ⟨hlt, hat⟩, ?_, hsegments, hboundary⟩
        intro earlier hbefore hsame
        obtain ⟨_, hsame⟩ := List.getElem?_eq_some_iff.mp hsame
        exact hearlier earlier hbefore hsame

theorem idxOf?_boundary_append {before : List String} (hbefore : "!" ∉ before)
    (after : List String) : (before ++ "!" :: after).idxOf? "!" = some before.length := by
  induction before with
  | nil => rfl
  | cons token rest ih =>
      rw [List.mem_cons, not_or] at hbefore
      rw [List.cons_append, idxOf?_boundary_cons (Ne.symm hbefore.1), ih hbefore.2]
      rfl

theorem filter_ne_boundary_eq_self {tokens : List String} (hnot : "!" ∉ tokens) :
    tokens.filter (· != "!") = tokens := by
  rw [List.filter_eq_self]
  intro token hmem
  exact bne_iff_ne.mpr fun heq => hnot (heq ▸ hmem)

/-- The other tokens and the place of `!` among them give back all of the tokens. -/
theorem withBoundary_filter {tokens : List String} (honce : tokens.count "!" ≤ 1) :
    withBoundary (tokens.filter (· != "!")) (tokens.idxOf? "!") = tokens := by
  by_cases hmem : "!" ∈ tokens
  · obtain ⟨before, after, rfl, hbefore⟩ := List.eq_append_cons_of_mem hmem
    have hafter : "!" ∉ after := by
      rw [List.count_append, List.count_cons_self] at honce
      exact List.count_eq_zero.mp (by omega)
    have hfilter : (before ++ "!" :: after).filter (· != "!") = before ++ after := by
      rw [List.filter_append, List.filter_cons_of_neg (by simp), filter_ne_boundary_eq_self hbefore,
        filter_ne_boundary_eq_self hafter]
    rw [idxOf?_boundary_append hbefore, hfilter, withBoundary, List.take_left, List.drop_left]
  · rw [List.idxOf?_eq_none_iff.mpr hmem]
    exact filter_ne_boundary_eq_self hmem

theorem map_token_of_written {tokens : List String} {segments : List Segment}
    (hwritten : List.Forall₂ Segment.Written tokens segments) :
    segments.map Segment.token = tokens := by
  induction hwritten with
  | nil => rfl
  | cons hhead _ ih => rw [List.map_cons, hhead.token_eq, ih]

/-- A list outside the grammar has a first error, which the reader would have given. -/
theorem keeps_of_parse {params tokens : List String} {template : Template}
    (hparse : parse params tokens = .ok template) :
    InGrammar params tokens ∧ Keeps params tokens template := by
  rcases inGrammar_or_firstError params tokens with hgrammar | ⟨error, herror⟩
  · obtain ⟨found, hfound, hkeeps⟩ := parse_of_inGrammar hgrammar
    rw [hparse] at hfound
    cases hfound
    exact ⟨hgrammar, hkeeps⟩
  · rw [parse_of_firstError herror] at hparse
    cases hparse

theorem tokens_of_parse {params tokens : List String} {template : Template}
    (hparse : parse params tokens = .ok template) : template.tokens = tokens := by
  obtain ⟨hgrammar, hkeeps⟩ := keeps_of_parse hparse
  cases hgrammar with
  | @intro root rest _ _ hrest =>
      have hroot : root = template.root := Option.some.inj hkeeps.root
      have hwritten : template.segments.map Segment.token = rest.filter (· != "!") :=
        map_token_of_written hkeeps.segments
      have hboundary : template.boundary = rest.idxOf? "!" := hkeeps.boundary
      rw [Template.tokens, hwritten, hboundary, withBoundary_filter hrest.once, hroot]

theorem firstError_of_parse {params tokens : List String} {error : TemplateError}
    (hparse : parse params tokens = .error error) : FirstError params tokens error := by
  rcases inGrammar_or_firstError params tokens with hgrammar | ⟨found, herror⟩
  · obtain ⟨template, htemplate, _⟩ := parse_of_inGrammar hgrammar
    rw [hparse] at htemplate
    cases htemplate
  · rw [parse_of_firstError herror] at hparse
    cases hparse
    exact herror

end Template

/-- The reader accepts exactly the lists of the grammar, and a template keeps all of its list: the
list can be written again from it. On any other list the reader gives the first error. With symbols
in place of names it gives the same, whatever else the table holds. -/
theorem parse_follows_grammar (params tokens : List String) :
    ((∃ template, Template.parse params tokens = .ok template) ↔
        Template.InGrammar params tokens) ∧
      (∀ template, Template.parse params tokens = .ok template →
        Template.Keeps params tokens template ∧
          (∀ position ∈ template.boundary, position ≤ template.segments.length) ∧
          template.tokens = tokens ∧
          ∀ others, Template.parse params others = .ok template → others = tokens) ∧
      (∀ error, Template.parse params tokens = .error error ↔
        Template.FirstError params tokens error) ∧
      ∀ symbols numbers, SymbolTemplate.ParamsRead symbols numbers params →
        SymbolTemplate.outcomeTexts? (SymbolTemplate.parse symbols numbers tokens).2
            (SymbolTemplate.parse symbols numbers tokens).1 =
          some (Template.parse params tokens) := by
  refine ⟨⟨?_, ?_⟩, ?_, ?_, ?_⟩
  · rintro ⟨template, hparse⟩
    exact (Template.keeps_of_parse hparse).1
  · intro hgrammar
    obtain ⟨template, hparse, _⟩ := Template.parse_of_inGrammar hgrammar
    exact ⟨template, hparse⟩
  · intro template hparse
    have htokens := Template.tokens_of_parse hparse
    refine ⟨(Template.keeps_of_parse hparse).2, template.boundary_le, htokens, ?_⟩
    intro others hothers
    exact (Template.tokens_of_parse hothers).symm.trans htokens
  · intro error
    exact ⟨Template.firstError_of_parse, Template.parse_of_firstError⟩
  · intro symbols numbers hread
    exact (SymbolTemplate.parse_agree hread tokens).2

/-- A table in which some names of the template below have numbers and others do not. -/
def readerSymbols : SymbolTable := ⟨["get", "list", "size"], by decide⟩

def readerTemplate : Template where
  segments := [.name "items", .index, .call "get"]
  boundary := some 1
  boundary_le := by decide
  root := "list"
  rootIndex := 1

/-- Of two parameters with the name of the root it is the first. -/
theorem parse_follows_grammar_reader :
    Template.Keeps ["size", "list", "list"] ["list", "items", "!", "[]", "get()"]
        readerTemplate ∧
      SymbolTemplate.outcomeTexts?
          (SymbolTemplate.parse readerSymbols [2, 1, 1] ["list", "items", "!", "[]", "get()"]).2
          (SymbolTemplate.parse readerSymbols [2, 1, 1] ["list", "items", "!", "[]", "get()"]).1 =
        some (.ok readerTemplate) ∧
      Template.FirstError ["list"] ["list", "!", "x()()", "!"] (.invalidToken "x()()") := by
  have hparse : Template.parse ["size", "list", "list"] ["list", "items", "!", "[]", "get()"] =
      .ok readerTemplate := by decide +kernel
  have hinvalid : Template.parse ["list"] ["list", "!", "x()()", "!"] =
      .error (.invalidToken "x()()") := by decide +kernel
  have hread : SymbolTemplate.ParamsRead readerSymbols [2, 1, 1] ["size", "list", "list"] :=
    .cons rfl (.cons rfl (.cons rfl .nil))
  obtain ⟨_, hkeeps, _, hsymbols⟩ := parse_follows_grammar ["size", "list", "list"]
    ["list", "items", "!", "[]", "get()"]
  obtain ⟨_, _, herror, _⟩ := parse_follows_grammar ["list"] ["list", "!", "x()()", "!"]
  exact ⟨(hkeeps _ hparse).1, hparse ▸ hsymbols readerSymbols [2, 1, 1] hread,
    (herror _).mp hinvalid⟩

end RefStability
