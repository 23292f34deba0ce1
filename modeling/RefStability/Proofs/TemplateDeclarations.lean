import RefStability.Proofs.SourceOrder
import RefStability.Proofs.TemplateSymbols
import RefStability.Proofs.WithinBounds

/-!
# Declarations of templates

A declaration reaches one method at most, by its signature or by its name, and sets the entry of
that method to what its tokens are read as, whatever the entry was. So after any sequence of
declarations an entry comes from the last one that reaches its method. Tables whose templates hold
symbols have the same entries, though each declaration also adds to the symbols.
-/

namespace RefStability

variable {Label : Type}

/-! ### The last declaration of a method -/

namespace TemplateTable

/-- The templates of a program after a sequence of declarations. -/
def declared (program : Program Label) (declarations : List (String × List String)) :
    TemplateTable :=
  declareAll program (.ofProgram program) declarations

/-- The tokens of the last declaration that reaches a method. -/
def lastTokens? (program : Program Label) (id : MethodId)
    (declarations : List (String × List String)) : Option (List String) :=
  ((declarations.filter fun declaration =>
    program.methodNamed? declaration.1 = some id).getLast?).map (·.2)

variable {program : Program Label} {table : TemplateTable} {id : MethodId} {signature : String}

theorem lastTokens?_append_of_named (hnamed : program.methodNamed? signature = some id)
    (declarations : List (String × List String)) (tokens : List String) :
    lastTokens? program id (declarations ++ [(signature, tokens)]) = some tokens := by
  rw [lastTokens?, List.filter_append, List.filter_singleton, decide_eq_true hnamed, cond_true,
    List.getLast?_concat, Option.map_some]

theorem lastTokens?_append_of_ne (hne : program.methodNamed? signature ≠ some id)
    (declarations : List (String × List String)) (tokens : List String) :
    lastTokens? program id (declarations ++ [(signature, tokens)]) =
      lastTokens? program id declarations := by
  rw [lastTokens?, List.filter_append, List.filter_singleton, decide_eq_false hne, cond_false,
    List.append_nil, lastTokens?]

theorem declared_append_singleton (program : Program Label)
    (declarations : List (String × List String)) (signature : String) (tokens : List String) :
    declared program (declarations ++ [(signature, tokens)]) =
      (declare program (declared program declarations) signature tokens).2 :=
  declareAll_append _ declarations _

theorem length_declared (program : Program Label) (declarations : List (String × List String)) :
    (declared program declarations).entries.length = program.methods.length :=
  (length_declareAll _ declarations).trans (List.length_map _)

/-- An entry is what the tokens of the last declaration, or else those of the method, are read
as. -/
theorem get?_declared {method : Method Label} (hmethod : program.methods[id]? = some method)
    (declarations : List (String × List String)) :
    (declared program declarations).get? id =
      ((lastTokens? program id declarations).or method.path).map
        (Template.parse method.params) := by
  induction declarations using List.reverseRecOn with
  | nil =>
      rw [declared, declareAll, List.foldl_nil, ofProgram, get?, List.getElem?_map, hmethod,
        Option.map_some, Option.join_some]
      rfl
  | append_singleton declarations declaration ih =>
      obtain ⟨signature, tokens⟩ := declaration
      rw [declared_append_singleton]
      by_cases hnamed : program.methodNamed? signature = some id
      · rw [get?_declare hnamed hmethod (length_declared program declarations),
          lastTokens?_append_of_named hnamed, Option.some_or, Option.map_some]
      · rw [get?_declare_of_ne hnamed, lastTokens?_append_of_ne hnamed]
        exact ih

theorem get?_declared_eq_none (hnone : program.methods[id]? = none)
    (declarations : List (String × List String)) :
    (declared program declarations).get? id = none := by
  rw [get?, List.getElem?_eq_none, Option.join_none]
  rw [length_declared]
  exact List.getElem?_eq_none_iff.mp hnone

/-! ### One declaration -/

theorem declare_of_none (hnone : program.methodNamed? signature = none) (table : TemplateTable)
    (tokens : List String) :
    declare program table signature tokens = (.error (.unknownMethod signature), table) := by
  rw [declare, hnone]

theorem declare_snd_of_named {method : Method Label}
    (hnamed : program.methodNamed? signature = some id)
    (hmethod : program.methods[id]? = some method) (table : TemplateTable) (tokens : List String) :
    (declare program table signature tokens).2 =
      ⟨table.entries.set id (some (Template.parse method.params tokens))⟩ := by
  rw [declare, hnamed]
  simp only [hmethod, Option.elim_some]

theorem declare_fst_of_named {method : Method Label}
    (hnamed : program.methodNamed? signature = some id)
    (hmethod : program.methods[id]? = some method) (table : TemplateTable) (tokens : List String) :
    (declare program table signature tokens).1 =
      ((Template.parse method.params tokens).map fun _ => id).mapError (.invalid signature) := by
  rw [declare, hnamed]
  simp only [hmethod, Option.elim_some]
  cases Template.parse method.params tokens <;> rfl

/-- The answer to a declaration says whether the entry it leaves is a template. -/
theorem declare_eq_ok_iff (hnamed : program.methodNamed? signature = some id)
    (hlength : table.entries.length = program.methods.length) (tokens : List String) :
    (declare program table signature tokens).1 = .ok id ↔
      ∃ template, (declare program table signature tokens).2.get? id = some (.ok template) := by
  obtain ⟨method, hmethod⟩ := Program.exists_method_of_methodNamed? hnamed
  rw [get?_declare hnamed hmethod hlength, declare_fst_of_named hnamed hmethod]
  cases Template.parse method.params tokens with
  | ok template => exact iff_of_true rfl ⟨template, rfl⟩
  | error cause =>
      refine iff_of_false ?_ ?_
      · intro hok
        cases hok
      · rintro ⟨template, hget⟩
        cases hget

/-- Declarations that reach different methods may change places. -/
theorem declare_comm {first second : String}
    (hne : program.methodNamed? first ≠ program.methodNamed? second) (table : TemplateTable)
    (firstTokens secondTokens : List String) :
    (declare program (declare program table first firstTokens).2 second secondTokens).2 =
      (declare program (declare program table second secondTokens).2 first firstTokens).2 := by
  cases hfirst : program.methodNamed? first with
  | none => rw [declare_of_none hfirst, declare_of_none hfirst]
  | some firstId =>
      cases hsecond : program.methodNamed? second with
      | none => rw [declare_of_none hsecond, declare_of_none hsecond]
      | some secondId =>
          obtain ⟨_, hfirstMethod⟩ := Program.exists_method_of_methodNamed? hfirst
          obtain ⟨_, hsecondMethod⟩ := Program.exists_method_of_methodNamed? hsecond
          have hids : firstId ≠ secondId := by
            rintro rfl
            exact hne (hfirst.trans hsecond.symm)
          simp only [declare_snd_of_named hfirst hfirstMethod,
            declare_snd_of_named hsecond hsecondMethod, List.set_comm _ _ hids]

theorem declareAll_swap {first second : String × List String}
    (hne : program.methodNamed? first.1 ≠ program.methodNamed? second.1) (table : TemplateTable)
    (before after : List (String × List String)) :
    declareAll program table (before ++ second :: first :: after) =
      declareAll program table (before ++ first :: second :: after) := by
  rw [declareAll_append, declareAll_append]
  simp only [declareAll, List.foldl_cons, declare_comm hne]

end TemplateTable

/-! ### Tables of templates with symbols -/

/-- The symbols of names that all have one. -/
def SymbolTable.numbers (symbols : SymbolTable) (names : List String) : List Nat :=
  names.filterMap symbols.find?

/-- One entry per method, and the symbols that have been given out. -/
structure SymbolTemplates where
  symbols : SymbolTable
  entries : List (Option (Except TemplateError SymbolTemplate))

namespace SymbolTemplates

/-- Reads the templates of methods in order. The symbols of parameters are those of `base`. -/
def readPaths (base : SymbolTable) : SymbolTable → List (Method Label) → SymbolTemplates
  | symbols, [] => ⟨symbols, []⟩
  | symbols, method :: rest =>
    match method.path with
    | none =>
      let later := readPaths base symbols rest
      ⟨later.symbols, none :: later.entries⟩
    | some tokens =>
      let parsed := SymbolTemplate.parse symbols (base.numbers method.params) tokens
      let later := readPaths base parsed.2 rest
      ⟨later.symbols, some parsed.1 :: later.entries⟩

def declare (base : SymbolTable) (program : Program Label) (templates : SymbolTemplates)
    (signature : String) (tokens : List String) : Except DeclareError MethodId × SymbolTemplates :=
  match program.methodNamed? signature with
  | none => (.error (.unknownMethod signature), templates)
  | some id =>
    let params := (program.methods[id]?).elim [] (·.params)
    let parsed := SymbolTemplate.parse templates.symbols (base.numbers params) tokens
    ((parsed.1.map fun _ => id).mapError (.invalid signature),
     ⟨parsed.2, templates.entries.set id (some parsed.1)⟩)

def declared (base : SymbolTable) (program : Program Label)
    (declarations : List (String × List String)) : SymbolTemplates :=
  declarations.foldl (fun templates (signature, tokens) =>
    (declare base program templates signature tokens).2) (readPaths base base program.methods)

def entryTexts? (symbols : SymbolTable) :
    Option (Except TemplateError SymbolTemplate) → Option (Option (Except TemplateError Template))
  | none => some none
  | some outcome => (SymbolTemplate.outcomeTexts? symbols outcome).map some

/-- The table with the texts that the symbols stand for. -/
def texts? (templates : SymbolTemplates) : Option TemplateTable :=
  (templates.entries.mapM (entryTexts? templates.symbols)).map TemplateTable.mk

/-- Every parameter has a symbol. -/
def HoldsParams (base : SymbolTable) (program : Program Label) : Prop :=
  ∀ method ∈ program.methods, ∀ name ∈ method.params, name ∈ base.texts

abbrev EntriesRead (symbols : SymbolTable) :
    List (Option (Except TemplateError SymbolTemplate)) →
      List (Option (Except TemplateError Template)) → Prop :=
  List.Forall₂ fun entry text => entryTexts? symbols entry = some text

/-- The templates hold the symbols of the parameters and read as the entries of the table. -/
structure Agrees (base : SymbolTable) (templates : SymbolTemplates) (table : TemplateTable) :
    Prop where
  grown : base.texts <+: templates.symbols.texts
  entries : EntriesRead templates.symbols templates.entries table.entries

variable {base symbols grown : SymbolTable} {program : Program Label}

theorem paramsRead_numbers {names : List String} (hgrown : base.texts <+: symbols.texts)
    (hnames : ∀ name ∈ names, name ∈ base.texts) :
    SymbolTemplate.ParamsRead symbols (base.numbers names) names := by
  induction names with
  | nil => exact .nil
  | cons name rest ih =>
      rw [List.forall_mem_cons, List.mem_iff_getElem?] at hnames
      obtain ⟨⟨symbol, hsymbol⟩, hrest⟩ := hnames
      rw [SymbolTable.numbers,
        List.filterMap_cons_some (SymbolTable.find?_eq_some_iff.mpr hsymbol)]
      exact .cons (SymbolTable.text?_of_grown hgrown hsymbol) (ih hrest)

theorem entryTexts?_of_grown (hgrown : symbols.texts <+: grown.texts)
    {entry : Option (Except TemplateError SymbolTemplate)}
    {text : Option (Except TemplateError Template)}
    (htext : entryTexts? symbols entry = some text) : entryTexts? grown entry = some text := by
  cases entry with
  | none => exact htext
  | some outcome =>
      obtain ⟨read, hread, rfl⟩ := Option.map_eq_some_iff.mp htext
      rw [entryTexts?, SymbolTemplate.outcomeTexts?_of_grown hgrown hread, Option.map_some]

theorem Agrees.texts?_eq {templates : SymbolTemplates} {table : TemplateTable}
    (hagrees : Agrees base templates table) : templates.texts? = some table := by
  rw [texts?, mapM_eq_some_iff_forall₂.mpr hagrees.entries, Option.map_some]

theorem readPaths_agree {methods : List (Method Label)} (hgrown : base.texts <+: symbols.texts)
    (hparams : ∀ method ∈ methods, ∀ name ∈ method.params, name ∈ base.texts) :
    symbols.texts <+: (readPaths base symbols methods).symbols.texts ∧
      EntriesRead (readPaths base symbols methods).symbols (readPaths base symbols methods).entries
        (methods.map fun method => method.path.map (Template.parse method.params)) := by
  induction methods generalizing symbols with
  | nil => exact ⟨List.prefix_refl _, .nil⟩
  | cons method rest ih =>
      rw [List.forall_mem_cons] at hparams
      obtain ⟨hmethod, hrest⟩ := hparams
      rw [readPaths, List.map_cons]
      cases method.path with
      | none =>
          obtain ⟨hlater, hentries⟩ := ih hgrown hrest
          exact ⟨hlater, .cons rfl hentries⟩
      | some tokens =>
          obtain ⟨hparsed, houtcome⟩ := SymbolTemplate.parse_agree
            (paramsRead_numbers hgrown hmethod) tokens
          obtain ⟨hlater, hentries⟩ := ih (hgrown.trans hparsed) hrest
          refine ⟨hparsed.trans hlater, .cons ?_ hentries⟩
          -- The later methods only add to the symbols of this one.
          apply entryTexts?_of_grown hlater
          rw [entryTexts?, houtcome]
          rfl

theorem forall₂_set {α β : Type} {related : α → β → Prop} {items : List α} {others : List β}
    (hrelated : List.Forall₂ related items others) {item : α} {other : β}
    (hnew : related item other) (position : Nat) :
    List.Forall₂ related (items.set position item) (others.set position other) := by
  induction hrelated generalizing position with
  | nil => exact .nil
  | cons hhead htail ih =>
      cases position with
      | zero => exact .cons hnew htail
      | succ position => exact .cons hhead (ih position)

theorem answer_eq_of_outcomeTexts? {outcome : Except TemplateError SymbolTemplate}
    {texts : Except TemplateError Template}
    (htexts : SymbolTemplate.outcomeTexts? symbols outcome = some texts) (id : MethodId)
    (signature : String) :
    (outcome.map fun _ => id).mapError (DeclareError.invalid signature) =
      (texts.map fun _ => id).mapError (DeclareError.invalid signature) := by
  cases outcome with
  | error cause =>
      cases htexts
      rfl
  | ok template =>
      obtain ⟨_, _, rfl⟩ := Option.map_eq_some_iff.mp htexts
      rfl

/-- A declaration gives the same answer with symbols as without, and tables that agree before it
agree after it. -/
theorem Agrees.declare {templates : SymbolTemplates} {table : TemplateTable}
    (hparams : HoldsParams base program) (hagrees : Agrees base templates table)
    (signature : String) (tokens : List String) :
    (declare base program templates signature tokens).1 =
        (TemplateTable.declare program table signature tokens).1 ∧
      Agrees base (declare base program templates signature tokens).2
        (TemplateTable.declare program table signature tokens).2 := by
  cases hnamed : program.methodNamed? signature with
  | none =>
      rw [TemplateTable.declare_of_none hnamed, SymbolTemplates.declare, hnamed]
      exact ⟨rfl, hagrees⟩
  | some id =>
      obtain ⟨method, hmethod⟩ := Program.exists_method_of_methodNamed? hnamed
      rw [TemplateTable.declare_fst_of_named hnamed hmethod,
        TemplateTable.declare_snd_of_named hnamed hmethod, SymbolTemplates.declare, hnamed]
      have hread := paramsRead_numbers hagrees.grown (hparams method (List.mem_of_getElem? hmethod))
      obtain ⟨hgrown, houtcome⟩ := SymbolTemplate.parse_agree hread tokens
      simp only [hmethod, Option.elim_some]
      generalize SymbolTemplate.parse templates.symbols (base.numbers method.params) tokens =
        parsed at hgrown houtcome ⊢
      constructor
      · exact answer_eq_of_outcomeTexts? houtcome id signature
      · refine ⟨hagrees.grown.trans hgrown, forall₂_set ?_ ?_ id⟩
        · exact hagrees.entries.imp fun _ _ => entryTexts?_of_grown hgrown
        · rw [entryTexts?, houtcome]
          rfl

theorem agrees_declared (hparams : HoldsParams base program)
    (declarations : List (String × List String)) :
    Agrees base (declared base program declarations)
      (TemplateTable.declared program declarations) := by
  induction declarations using List.reverseRecOn with
  | nil =>
      obtain ⟨hgrown, hentries⟩ := readPaths_agree (List.prefix_refl base.texts) hparams
      exact ⟨hgrown, hentries⟩
  | append_singleton declarations declaration ih =>
      obtain ⟨signature, tokens⟩ := declaration
      rw [TemplateTable.declared_append_singleton, declared, List.foldl_append]
      exact (ih.declare hparams signature tokens).2

end SymbolTemplates

/-- After any declarations an entry is what the last one that reaches the method makes it, or else
the method's own tokens. A declaration that reaches no method changes nothing; any other is answered
by whether the entry it leaves is a template, and leaves the other entries. Neighbours that reach
different methods may change places. All this holds of templates with symbols, read as texts. -/
theorem last_declaration_wins (program : Program Site)
    (declarations : List (String × List String)) :
    (∀ id method, program.methods[id]? = some method →
        (TemplateTable.declared program declarations).get? id =
          ((TemplateTable.lastTokens? program id declarations).or method.path).map
            (Template.parse method.params)) ∧
      (∀ id, program.methods[id]? = none →
        (TemplateTable.declared program declarations).get? id = none) ∧
      (∀ signature tokens, program.methodNamed? signature = none →
        TemplateTable.declare program (.declared program declarations) signature tokens =
          (.error (.unknownMethod signature), .declared program declarations)) ∧
      (∀ signature tokens id, program.methodNamed? signature = some id →
        ((TemplateTable.declare program (.declared program declarations) signature tokens).1 =
            .ok id ↔
          ∃ template, (TemplateTable.declared program
            (declarations ++ [(signature, tokens)])).get? id = some (.ok template)) ∧
        ∀ other, other ≠ id →
          (TemplateTable.declared program (declarations ++ [(signature, tokens)])).get? other =
            (TemplateTable.declared program declarations).get? other) ∧
      (∀ before after first second, declarations = before ++ first :: second :: after →
        program.methodNamed? first.1 ≠ program.methodNamed? second.1 →
          TemplateTable.declared program (before ++ second :: first :: after) =
            .declared program declarations) ∧
      (∀ config : Config, config.templates = declarations →
        config.templatesFor program = .declared program declarations) ∧
      ∀ base, SymbolTemplates.HoldsParams base program →
        (SymbolTemplates.declared base program declarations).texts? =
            some (.declared program declarations) ∧
          ∀ signature tokens,
            (SymbolTemplates.declare base program (.declared base program declarations) signature
                tokens).1 =
              (TemplateTable.declare program (.declared program declarations) signature
                tokens).1 := by
  refine ⟨?_, ?_, ?_, ?_, ?_, ?_, ?_⟩
  · intro id method hmethod
    exact TemplateTable.get?_declared hmethod declarations
  · intro id hnone
    exact TemplateTable.get?_declared_eq_none hnone declarations
  · intro signature tokens hnone
    exact TemplateTable.declare_of_none hnone _ tokens
  · intro signature tokens id hnamed
    rw [TemplateTable.declared_append_singleton]
    refine ⟨TemplateTable.declare_eq_ok_iff hnamed
      (TemplateTable.length_declared program declarations) tokens, ?_⟩
    intro other hne
    refine TemplateTable.get?_declare_of_ne ?_ tokens
    rw [hnamed]
    exact fun heq => hne (Option.some.inj heq).symm
  · rintro before after first second rfl hne
    exact TemplateTable.declareAll_swap hne _ before after
  · rintro config rfl
    rfl
  · intro base hparams
    have hagrees := SymbolTemplates.agrees_declared hparams declarations
    refine ⟨hagrees.texts?_eq, ?_⟩
    intro signature tokens
    exact (hagrees.declare hparams signature tokens).1

/-- The first method is reached by its signature and then by its name, with a method between. -/
def branchDeclarations : List (String × List String) :=
  [("List.Get(int)", ["self", "!", "[]"]), ("pick", ["source", "items"]), ("Get", ["elsewhere"])]

/-- The rejected tokens of the later declaration stand in place of the accepted ones. -/
theorem last_declaration_wins_branch : ∃ program,
    branchDocument.lower = .ok program ∧
      (TemplateTable.declared program branchDeclarations).get? 0 =
        some (.error (.unknownRoot "elsewhere")) ∧
      (TemplateTable.declared program branchDeclarations).get? 1 =
        some (.ok ⟨TemplateSteps.empty.push (.name "items"), "source", 0⟩) ∧
      (TemplateTable.declared program [("pick", ["source", "items"]),
          ("List.Get(int)", ["self", "!", "[]"]), ("Get", ["elsewhere"])]) =
        .declared program branchDeclarations ∧
      (SymbolTemplates.declared program.symbols program branchDeclarations).texts? =
        some (.declared program branchDeclarations) := by
  have hany : branchDocument.anyBody (fun program _ =>
      program.methodNamed? "List.Get(int)" == some 0 && program.methodNamed? "Get" == some 0 &&
        program.methodNamed? "pick" == some 1 &&
        program.methods.map (·.params) == [["self", "at"], ["source"], []] &&
        program.methods.all fun method =>
          method.params.all (program.symbols.texts.contains ·)) = true := by
    decide +kernel
  obtain ⟨program, _, hlower, _, htest⟩ := Document.Program.exists_of_anyBody hany
  simp only [Bool.and_eq_true, beq_iff_eq, List.all_eq_true, List.contains_iff_mem] at htest
  obtain ⟨⟨⟨⟨hsignature, hget⟩, hpick⟩, hparams⟩, hholds⟩ := htest
  have hmethods : ∀ (id : MethodId) params, [["self", "at"], ["source"], []][id]? = some params →
      ∃ method, program.methods[id]? = some method ∧ method.params = params := by
    intro id params hparam
    rw [← hparams, List.getElem?_map] at hparam
    exact Option.map_eq_some_iff.mp hparam
  have hlast : TemplateTable.lastTokens? program 0 branchDeclarations = some ["elsewhere"] ∧
      TemplateTable.lastTokens? program 1 branchDeclarations = some ["source", "items"] := by
    simp [TemplateTable.lastTokens?, branchDeclarations, hsignature, hget, hpick]
  obtain ⟨hentries, _, _, _, hswap, _, hsymbols⟩ :=
    last_declaration_wins program branchDeclarations
  refine ⟨program, hlower, ?_, ?_, ?_, (hsymbols program.symbols hholds).1⟩
  · obtain ⟨method, hmethod, hself⟩ := hmethods 0 _ rfl
    rw [hentries 0 method hmethod, hlast.1, hself, Option.some_or]
    decide +kernel
  · obtain ⟨method, hmethod, hsource⟩ := hmethods 1 _ rfl
    rw [hentries 1 method hmethod, hlast.2, hsource, Option.some_or]
    decide +kernel
  · exact hswap [] [("Get", ["elsewhere"])] _ _ rfl (by simp [hsignature, hpick])

end RefStability
