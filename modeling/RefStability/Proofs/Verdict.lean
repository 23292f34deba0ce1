import RefStability.Command.Run
import RefStability.Proofs.Diagnostics

/-!
# The verdict of a check

A check fails if and only if something is found that the configuration does not tolerate. The names
in `allow` and `deny` count as sets of rules: allowing a rule takes its diagnostics out of the
report and moves no other, and denying a rule changes nothing but the level at which it reports.
-/

namespace RefStability

/-! ### Sorted diagnostics -/

namespace Diagnostic

theorem start_le_of_pairwise {first : Diagnostic} {rest : List Diagnostic}
    (hsorted : (first :: rest).Pairwise fun earlier later => earlier.startsBy later = true)
    {diagnostic : Diagnostic} (hmem : diagnostic ∈ first :: rest) :
    first.location.span.start ≤ diagnostic.location.span.start := by
  rcases List.mem_cons.mp hmem with rfl | hrest
  · exact Nat.le_refl _
  · exact of_decide_eq_true ((List.pairwise_cons.mp hsorted).1 diagnostic hrest)

theorem mem_iff_of_filter_start {left right : List Diagnostic}
    (hstart : ∀ start, left.filter (fun diagnostic => diagnostic.location.span.start = start) =
      right.filter fun diagnostic => diagnostic.location.span.start = start)
    (diagnostic : Diagnostic) : diagnostic ∈ left ↔ diagnostic ∈ right := by
  have hown := congrArg (diagnostic ∈ ·) (hstart diagnostic.location.span.start)
  simpa using hown

/-- Sorted diagnostics are known by those that start at each position. -/
theorem eq_of_filter_start {left right : List Diagnostic}
    (hleft : left.Pairwise fun earlier later => earlier.startsBy later = true)
    (hright : right.Pairwise fun earlier later => earlier.startsBy later = true)
    (hstart : ∀ start, left.filter (fun diagnostic => diagnostic.location.span.start = start) =
      right.filter fun diagnostic => diagnostic.location.span.start = start) : left = right := by
  induction left generalizing right with
  | nil =>
      refine (List.eq_nil_iff_forall_not_mem.mpr fun diagnostic hmem => ?_).symm
      exact List.not_mem_nil ((mem_iff_of_filter_start hstart diagnostic).mpr hmem)
  | cons first rest ih =>
      have hmem := mem_iff_of_filter_start hstart
      cases right with
      | nil => exact absurd ((hmem first).mp List.mem_cons_self) List.not_mem_nil
      | cons other others =>
          -- Each of the two heads stands in the other list, so neither starts after the other.
          have hle := start_le_of_pairwise hleft ((hmem other).mpr List.mem_cons_self)
          have hge := start_le_of_pairwise hright ((hmem first).mp List.mem_cons_self)
          have hheads := hstart first.location.span.start
          rw [List.filter_cons_of_pos (by simp),
            List.filter_cons_of_pos (by simpa using Nat.le_antisymm hge hle)] at hheads
          obtain ⟨rfl, _⟩ := List.cons.inj hheads
          rw [ih (List.pairwise_cons.mp hleft).2 (List.pairwise_cons.mp hright).2]
          intro start
          have hboth := hstart start
          simp only [List.filter_cons] at hboth
          split at hboth
          · exact (List.cons.inj hboth).2
          · exact hboth

/-- Leaving diagnostics out does not move the others. -/
theorem filter_mergeSort (keep : Diagnostic → Bool) (diagnostics : List Diagnostic) :
    (diagnostics.mergeSort startsBy).filter keep =
      (diagnostics.filter keep).mergeSort startsBy := by
  have hsorted := List.pairwise_mergeSort startsBy_trans startsBy_total
  refine eq_of_filter_start ((hsorted diagnostics).filter keep) (hsorted _) fun start => ?_
  rw [filter_start_mergeSort, List.filter_comm, filter_start_mergeSort, List.filter_comm]

end Diagnostic

/-! ### Denied rules -/

/-- The rule reports errors if it is among the names. -/
def ActiveRule.deny (names : List String) (active : ActiveRule) : ActiveRule :=
  if active.rule.name ∈ names then { active with level := .error } else active

def Diagnostic.deny (names : List String) (diagnostic : Diagnostic) : Diagnostic :=
  if diagnostic.rule ∈ names then { diagnostic with level := .error } else diagnostic

theorem ActiveRule.rule_deny (names : List String) (active : ActiveRule) :
    (active.deny names).rule = active.rule := by
  unfold deny
  split <;> rfl

theorem ActiveRule.diagnose_deny (names : List String) (active : ActiveRule) (signature : String)
    (finding : Finding) :
    (active.deny names).diagnose signature finding =
      (active.diagnose signature finding).deny names := by
  unfold deny Diagnostic.deny
  by_cases hnamed : active.rule.name ∈ names
  · simp [diagnose, hnamed]
  · simp [diagnose, hnamed]

theorem Diagnostic.location_deny (names : List String) (diagnostic : Diagnostic) :
    (diagnostic.deny names).location = diagnostic.location := by
  unfold deny
  split <;> rfl

/-! ### Rules in force -/

namespace LintConfig

section InForce

variable (config : LintConfig)

/-- Whether the rule reports what it is about. -/
def isInForce (rule : Rule) : Bool :=
  (rule != .unverifiableReference || config.unverifiable) && !config.allow.contains rule.name

def levelOf (rule : Rule) : Level :=
  if config.deny.contains rule.name then .error else rule.defaultLevel

def allowing (names : List String) : LintConfig := { config with allow := config.allow ++ names }

def denying (names : List String) : LintConfig := { config with deny := config.deny ++ names }

/-- What the check of a program must not find. -/
def Condemns : Finding → Prop
  | .unverifiable _ _ =>
    config.unverifiable = true ∧ Rule.unverifiableReference.name ∈ config.deny ∧
      Rule.unverifiableReference.name ∉ config.allow
  | finding => finding.rule.name ∉ config.allow

theorem isInForce_iff (rule : Rule) :
    config.isInForce rule = true ↔
      (rule = .unverifiableReference → config.unverifiable = true) ∧ rule.name ∉ config.allow := by
  simp [isInForce, imp_iff_not_or]

theorem levelOf_eq_error_iff (rule : Rule) :
    config.levelOf rule = .error ↔ rule.name ∈ config.deny ∨ rule.defaultLevel = .error := by
  simp [levelOf, or_iff_not_imp_left]

/-- The rules in force report in one order, whatever the configuration. -/
theorem rules_ofConfig :
    (Linter.ofConfig config).rules =
      ((Linter.standardRules ++ [Rule.unverifiableReference]).filter config.isInForce).map
        fun rule => ⟨rule, config.levelOf rule⟩ := by
  have hlevel : (fun rule : Rule => if config.deny.contains rule.name then ActiveRule.mk rule .error
      else rule.active) = fun rule => ⟨rule, config.levelOf rule⟩ := by
    funext rule
    unfold levelOf Rule.active
    split <;> rfl
  have hstandard : Linter.standardRules.filter (fun rule => !config.allow.contains rule.name) =
      Linter.standardRules.filter config.isInForce := by
    refine List.filter_congr fun rule hrule => ?_
    have hne : (rule != .unverifiableReference) = true := by
      revert rule
      decide
    rw [isInForce, hne, Bool.true_or, Bool.true_and]
  simp only [Linter.ofConfig, Linter.withRules, hlevel, List.filter_append, hstandard]
  congr 2
  cases hasked : config.unverifiable with
  | false => simp [isInForce, hasked]
  | true => simp [isInForce, hasked, List.filter_cons]

theorem mem_rules_ofConfig (active : ActiveRule) :
    active ∈ (Linter.ofConfig config).rules ↔
      config.isInForce active.rule = true ∧ active.level = config.levelOf active.rule := by
  have hcandidate : ∀ rule : Rule, rule ∈ Linter.standardRules ++ [.unverifiableReference] := by
    intro rule
    cases rule <;> decide
  rw [rules_ofConfig, List.mem_map]
  constructor
  · rintro ⟨rule, hrule, rfl⟩
    exact ⟨(List.mem_filter.mp hrule).2, rfl⟩
  · rintro ⟨hforce, hlevel⟩
    refine ⟨active.rule, List.mem_filter.mpr ⟨hcandidate _, hforce⟩, ?_⟩
    rw [← hlevel]

end InForce

section Changed

variable {config other : LintConfig}

/-- The same rules are named, in whatever order and however often. -/
structure NamesAlike (config other : LintConfig) : Prop where
  unverifiable : other.unverifiable = config.unverifiable
  deny : ∀ rule : Rule, rule.name ∈ other.deny ↔ rule.name ∈ config.deny
  allow : ∀ rule : Rule, rule.name ∈ other.allow ↔ rule.name ∈ config.allow

theorem NamesAlike.rules_eq (halike : config.NamesAlike other) :
    (Linter.ofConfig other).rules = (Linter.ofConfig config).rules := by
  have hforce : other.isInForce = config.isInForce := by
    funext rule
    have hallow : other.allow.contains rule.name = config.allow.contains rule.name := by
      rw [Bool.eq_iff_iff, List.contains_iff_mem, List.contains_iff_mem]
      exact halike.allow rule
    rw [isInForce, isInForce, halike.unverifiable, hallow]
  have hlevel : other.levelOf = config.levelOf := by
    funext rule
    simp only [levelOf, List.contains_iff_mem, halike.deny rule]
  rw [rules_ofConfig, rules_ofConfig, hforce, hlevel]

theorem rules_allowing (names : List String) :
    (Linter.ofConfig (config.allowing names)).rules =
      (Linter.ofConfig config).rules.filter fun active => active.rule.name ∉ names := by
  rw [rules_ofConfig, rules_ofConfig, List.filter_map, List.filter_filter]
  congr 2
  funext rule
  rw [Bool.eq_iff_iff, Bool.and_eq_true_iff, isInForce_iff, isInForce_iff]
  simp only [allowing, Function.comp_apply, List.mem_append, not_or, decide_eq_true_eq]
  tauto

theorem rules_denying (names : List String) :
    (Linter.ofConfig (config.denying names)).rules =
      (Linter.ofConfig config).rules.map (ActiveRule.deny names) := by
  have hforce : (config.denying names).isInForce = config.isInForce := rfl
  rw [rules_ofConfig, rules_ofConfig, hforce, List.map_map]
  refine List.map_congr_left fun rule _ => ?_
  by_cases hnamed : rule.name ∈ names
  · simp [levelOf, denying, ActiveRule.deny, hnamed]
  · simp [levelOf, denying, ActiveRule.deny, hnamed]

end Changed

end LintConfig

/-! ### Reports under other rules -/

/-- All that a rule reports carries its name. -/
theorem ActiveRule.report_filter (names : List String) (active : ActiveRule) (signature : String)
    (findings : List Finding) :
    (active.report signature findings).filter (fun diagnostic => diagnostic.rule ∉ names) =
      if active.rule.name ∈ names then [] else active.report signature findings := by
  have hname : ∀ diagnostic ∈ active.report signature findings,
      diagnostic.rule = active.rule.name := by
    intro diagnostic hdiagnostic
    obtain ⟨finding, _, rfl⟩ := List.mem_map.mp hdiagnostic
    rfl
  split
  · rename_i hnamed
    refine List.filter_eq_nil_iff.mpr fun diagnostic hdiagnostic => ?_
    simpa [hname diagnostic hdiagnostic] using hnamed
  · rename_i hnamed
    refine List.filter_eq_self.mpr fun diagnostic hdiagnostic => ?_
    simpa [hname diagnostic hdiagnostic] using hnamed

namespace Linter

theorem report_filter (names : List String) (rules : List ActiveRule) (signature : String)
    (findings : List Finding) :
    report (rules.filter fun active => active.rule.name ∉ names) signature findings =
      (report rules signature findings).filter fun diagnostic => diagnostic.rule ∉ names := by
  induction rules with
  | nil => rfl
  | cons active others ih =>
      have hcons : report (active :: others) signature findings =
          active.report signature findings ++ report others signature findings := rfl
      rw [hcons, List.filter_append, ActiveRule.report_filter, ← ih, List.filter_cons]
      by_cases hnamed : active.rule.name ∈ names
      · simp only [hnamed, not_true_eq_false, decide_false, Bool.false_eq_true, if_false, if_true,
          List.nil_append]
      · simp only [hnamed, not_false_eq_true, decide_true, if_true, if_false]
        rfl

theorem report_deny (names : List String) (rules : List ActiveRule) (signature : String)
    (findings : List Finding) :
    report (rules.map (ActiveRule.deny names)) signature findings =
      (report rules signature findings).map (Diagnostic.deny names) := by
  rw [report, report, List.flatMap_map, List.map_flatMap]
  refine List.flatMap_congr fun active _ => ?_
  rw [ActiveRule.report, ActiveRule.report, List.map_map, ActiveRule.rule_deny]
  exact List.map_congr_left fun finding _ => active.diagnose_deny names signature finding

section Lint

variable {linter other : Linter} {program : Program Site} {templates : TemplateTable}

/-- What the sorted reports of two linters have to do with each other, the diagnostics of a method
have. -/
theorem lintMethod_of_report {change : List Diagnostic → List Diagnostic} (hnone : change [] = [])
    (hsteps : other.maxSteps = linter.maxSteps)
    (hreport : ∀ signature findings,
      (report other.rules signature findings).mergeSort Diagnostic.startsBy =
        change ((report linter.rules signature findings).mergeSort Diagnostic.startsBy))
    (id : MethodId) :
    other.lintMethod program templates id = change (linter.lintMethod program templates id) := by
  cases hmethod : program.methods[id]? with
  | none => rw [other.lintMethod_of_none hmethod, linter.lintMethod_of_none hmethod, hnone]
  | some method =>
      cases hbody : method.body with
      | none =>
          rw [other.lintMethod_of_body hmethod, linter.lintMethod_of_body hmethod, hbody]
          exact hnone.symm
      | some body =>
          rw [other.lintMethod_eq_mergeSort templates hmethod hbody,
            linter.lintMethod_eq_mergeSort templates hmethod hbody, hsteps, hreport]

theorem lintProgram_filter (names : List String) (hsteps : other.maxSteps = linter.maxSteps)
    (hrules : other.rules = linter.rules.filter fun active => active.rule.name ∉ names) :
    other.lintProgram program templates =
      (linter.lintProgram program templates).filter fun diagnostic => diagnostic.rule ∉ names := by
  rw [lintProgram, lintProgram, List.filter_flatMap]
  refine List.flatMap_congr fun id _ => ?_
  refine lintMethod_of_report rfl hsteps (fun signature findings => ?_) id
  rw [hrules, report_filter, Diagnostic.filter_mergeSort]

theorem lintProgram_deny (names : List String) (hsteps : other.maxSteps = linter.maxSteps)
    (hrules : other.rules = linter.rules.map (ActiveRule.deny names)) :
    other.lintProgram program templates =
      (linter.lintProgram program templates).map (Diagnostic.deny names) := by
  rw [lintProgram, lintProgram, List.map_flatMap]
  refine List.flatMap_congr fun id _ => ?_
  refine lintMethod_of_report rfl hsteps (fun signature findings => ?_) id
  rw [hrules, report_deny]
  refine (List.map_mergeSort fun left _ right _ => ?_).symm
  rw [Diagnostic.startsBy, Diagnostic.startsBy, Diagnostic.location_deny, Diagnostic.location_deny]

/-- A program has an error if and only if a rule in force reports one of its findings as one. -/
theorem exists_error_iff :
    (∃ diagnostic ∈ linter.lintProgram program templates, diagnostic.level = .error) ↔
      ∃ body ∈ program.bodies,
        ∃ finding ∈ (Analysis.mk program body templates linter.maxSteps).findings,
          ∃ active ∈ linter.rules, finding.rule = active.rule ∧ active.level = .error := by
  constructor
  · rintro ⟨diagnostic, hdiagnostic, hlevel⟩
    obtain ⟨id, _, hdiagnostic⟩ := List.mem_flatMap.mp hdiagnostic
    obtain ⟨method, body, hmethod, hbody, finding, hfinding, active, hactive, hrule, rfl⟩ :=
      (linter.mem_lintMethod_iff templates).mp hdiagnostic
    have hmem : body ∈ program.bodies :=
      List.mem_filterMap.mpr ⟨method, List.mem_of_getElem? hmethod, hbody⟩
    exact ⟨body, hmem, finding, hfinding, active, hactive, hrule, hlevel⟩
  · rintro ⟨body, hbody, finding, hfinding, active, hactive, hrule, hlevel⟩
    obtain ⟨method, hmethod, hbody⟩ := List.mem_filterMap.mp hbody
    obtain ⟨id, hid⟩ := List.mem_iff_getElem?.mp hmethod
    have hlt : id < program.methods.length := (List.getElem?_eq_some_iff.mp hid).1
    refine ⟨active.diagnose method.signature finding, ?_, hlevel⟩
    refine List.mem_flatMap.mpr ⟨id, List.mem_range.mpr hlt, ?_⟩
    exact (linter.mem_lintMethod_iff templates).mpr
      ⟨method, body, hid, hbody, finding, hfinding, active, hactive, hrule, rfl⟩

end Lint

end Linter

theorem LintConfig.condemns_iff (config : LintConfig) (finding : Finding) :
    config.Condemns finding ↔
      ∃ active ∈ (Linter.ofConfig config).rules,
        finding.rule = active.rule ∧ active.level = .error := by
  have hactive : (∃ active ∈ (Linter.ofConfig config).rules,
      finding.rule = active.rule ∧ active.level = .error) ↔
        config.isInForce finding.rule = true ∧ config.levelOf finding.rule = .error := by
    constructor
    · rintro ⟨active, hactive, hrule, herror⟩
      obtain ⟨hforce, hlevel⟩ := (config.mem_rules_ofConfig active).mp hactive
      rw [hrule]
      exact ⟨hforce, hlevel.symm.trans herror⟩
    · rintro ⟨hforce, hlevel⟩
      refine ⟨⟨finding.rule, .error⟩, ?_, rfl, rfl⟩
      exact (config.mem_rules_ofConfig _).mpr ⟨hforce, hlevel.symm⟩
  rw [hactive, isInForce_iff, levelOf_eq_error_iff]
  cases finding with
  | unverifiable argument reason =>
      constructor
      · rintro ⟨hasked, hdeny, hallow⟩
        exact ⟨⟨fun _ => hasked, hallow⟩, .inl hdeny⟩
      · rintro ⟨⟨hasked, hallow⟩, hdeny | hlevel⟩
        · exact ⟨hasked rfl, hdeny, hallow⟩
        · cases hlevel
  | _ =>
      constructor
      · intro hallow
        exact ⟨⟨nofun, hallow⟩, .inr rfl⟩
      · intro hreported
        exact hreported.1.2

/-! ### The command -/

namespace Config

variable (config : Config)

def allowing (names : List String) : Config := { config with lint := config.lint.allowing names }

def denying (names : List String) : Config := { config with lint := config.lint.denying names }

/-- The program has a body in which something is found that the configuration does not tolerate. -/
def Condemns (program : Program Site) : Prop :=
  ∃ body ∈ program.bodies, ∃ finding ∈ (config.analysis program body).findings,
    config.lint.Condemns finding

/-- The verdict of a check is the same in each format, and where nothing is found there is no
error. -/
theorem check_hasErrors_eq (format : Format) (name : String) (program : Program Site) :
    (config.check format name program).hasErrors =
      decide (0 < (config.diagnose program).countP Diagnostic.isError) := by
  cases format with
  | json => rfl
  | text =>
      simp only [check]
      split
      · rename_i hempty
        rw [List.isEmpty_iff.mp hempty]
        rfl
      · rfl

theorem check_hasErrors_iff (format : Format) (name : String) (program : Program Site) :
    (config.check format name program).hasErrors = true ↔ config.Condemns program := by
  have herror : (config.check format name program).hasErrors = true ↔
      ∃ diagnostic ∈ config.diagnose program, diagnostic.level = .error := by
    rw [check_hasErrors_eq, decide_eq_true_iff, List.countP_pos_iff]
    simp only [Diagnostic.isError, beq_iff_eq]
  rw [herror, diagnose, Linter.exists_error_iff]
  simp only [Condemns, LintConfig.condemns_iff]
  rfl

end Config

/-- A check of a program that loads has a verdict, the same in both formats: it fails if and only if
something is found that the configuration does not tolerate. Its diagnostics depend on which rules
are named in `deny` and `allow`. Further names in `allow` take out the diagnostics of these rules
and leave the others as they are; further names in `deny` raise the level of these rules and change
nothing else. -/
theorem check_follows_config (config : Config) (program : Program Site) :
    (∀ format name,
      (config.check format name program).hasErrors = true ↔ config.Condemns program) ∧
    (∀ read file configFile formatName format, Config.load read configFile = .ok config →
      Program.load read file = .ok program → Format.ofName? formatName = some format →
        ∃ report, (Invocation.check file configFile formatName).run read = .ok report ∧
          (report.hasErrors = true ↔ config.Condemns program)) ∧
    (∀ lint, config.lint.NamesAlike lint →
      { config with lint }.diagnose program = config.diagnose program) ∧
    (∀ names, (config.allowing names).diagnose program =
      (config.diagnose program).filter fun diagnostic => diagnostic.rule ∉ names) ∧
    ∀ names, (config.denying names).diagnose program =
      (config.diagnose program).map fun diagnostic =>
        if diagnostic.rule ∈ names then { diagnostic with level := .error } else diagnostic := by
  refine ⟨fun format name => config.check_hasErrors_iff format name program, ?_, ?_, ?_, ?_⟩
  · intro read file configFile formatName format hconfig hprogram hformat
    refine ⟨config.check format file program, ?_, config.check_hasErrors_iff format file program⟩
    simp only [Invocation.run, hconfig, hformat, hprogram]
    rfl
  · intro lint halike
    have hlinter : Config.linter { config with lint } = config.linter := by
      rw [Config.linter, Config.linter, halike.rules_eq]
    rw [Config.diagnose, Config.diagnose, hlinter]
    rfl
  · intro names
    exact Linter.lintProgram_filter names rfl (LintConfig.rules_allowing names)
  · intro names
    exact Linter.lintProgram_deny names rfl (LintConfig.rules_denying names)

/-- One file with a program that returns a scope, and no configuration. -/
def scopeFiles (file : String) : Except ReadError String :=
  if file = "scope.json" then
    .ok r#"[0,[],[["g",null,[],"opaque",null,true,[["s",null,"scope_handle"]],
      [["return",["name","s"]]]]]]"#
  else .error .noSuchFile

/-- The check fails without a configuration and does not fail once the rule is allowed; a name that
is no rule's changes nothing. -/
theorem check_follows_config_scope : ∃ program,
    Program.load scopeFiles "scope.json" = .ok program ∧
      Config.load scopeFiles "refcheck.toml" = .ok .default ∧
      (∃ report, (Invocation.check "scope.json" "refcheck.toml" "json").run scopeFiles =
        .ok report ∧ report.hasErrors = true) ∧
      ((Config.default.allowing ["scoped-reference-escape"]).check .text "scope.json"
        program).hasErrors = false ∧
      { Config.default with lint := ⟨false, ["no-such-rule"], []⟩ }.diagnose program =
        Config.default.diagnose program := by
  have hany : (Program.load scopeFiles "scope.json").toOption.any (fun program =>
      program.bodies.any (fun body => (Config.default.analysis program body).findings.any
        fun finding => finding.rule = .scopedReferenceEscape) &&
      program.bodies.all (fun body => (Config.default.analysis program body).findings.all
        fun finding => finding.rule = .scopedReferenceEscape)) = true := by
    decide +kernel
  obtain ⟨program, hload, htest⟩ := (Option.any_eq_true _ _).mp hany
  obtain ⟨hsome, hall⟩ := Bool.and_eq_true_iff.mp htest
  obtain ⟨body, hbody, hsome⟩ := List.any_eq_true.mp hsome
  obtain ⟨finding, hfinding, hrule⟩ := List.any_eq_true.mp hsome
  have hload : Program.load scopeFiles "scope.json" = .ok program := by
    cases hresult : Program.load scopeFiles "scope.json" with
    | error cause => simp [hresult, Except.toOption] at hload
    | ok loaded => simpa [hresult, Except.toOption] using hload
  have hmissing : Config.load scopeFiles "refcheck.toml" = .ok .default := rfl
  have hcondemns : Config.default.Condemns program := by
    refine ⟨body, hbody, finding, hfinding, ?_⟩
    cases finding with
    | escapesScope statement path => exact List.not_mem_nil
    | _ => cases of_decide_eq_true hrule
  obtain ⟨_, hrun, hnames, _⟩ := check_follows_config .default program
  obtain ⟨report, hreport, hverdict⟩ := hrun scopeFiles "scope.json" "refcheck.toml" "json" .json
    hmissing hload rfl
  refine ⟨program, hload, hmissing, ⟨report, hreport, hverdict.mpr hcondemns⟩, ?_, ?_⟩
  · rw [← Bool.not_eq_true,
      (check_follows_config (Config.default.allowing ["scoped-reference-escape"]) program).1]
    rintro ⟨body, hbody, finding, hfinding, hcondemns⟩
    have hrule := of_decide_eq_true
      (List.all_eq_true.mp (List.all_eq_true.mp hall body hbody) finding hfinding)
    cases finding with
    | escapesScope statement path => exact hcondemns List.mem_cons_self
    | _ => cases hrule
  · refine hnames _ ⟨rfl, fun rule => ?_, fun rule => Iff.rfl⟩
    cases rule <;> decide

end RefStability
