import RefStability.Command.Paths
import RefStability.Proofs.CheckedNodes
import RefStability.Proofs.InRange
import RefStability.Proofs.MethodNames
import RefStability.Proofs.Problem

/-!
# Listed paths are checked paths

The listing of a body goes through its expressions by number, and through all arguments of a call by
position. The check walks along the tree and takes the arguments by reference apart from the others.
Both trace the same arguments with the same result: what is listed without a path is found
unverifiable, and the findings at a call can be told from its listed arguments. The listing is
printed as a line for each of its entries.
-/

namespace RefStability

/-! ### Two items in order -/

theorem pair_sublist_filterMap_iff {α β : Type} {f : α → Option β} {items : List α} {x y : β} :
    [x, y].Sublist (items.filterMap f) ↔
      ∃ a b, [a, b].Sublist items ∧ f a = some x ∧ f b = some y := by
  constructor
  · intro hpair
    by_contra hnone
    -- No two items in order give this pair, so no two results in order are this pair.
    have hpairwise : (items.filterMap f).Pairwise fun a b => ¬(a = x ∧ b = y) := by
      refine List.pairwise_filterMap.mpr (List.pairwise_iff_forall_sublist.mpr ?_)
      rintro a b hab _ ha _ hb ⟨rfl, rfl⟩
      exact hnone ⟨a, b, hab, ha, hb⟩
    exact List.pairwise_iff_forall_sublist.mp hpairwise hpair ⟨rfl, rfl⟩
  · rintro ⟨a, b, hab, ha, hb⟩
    have hmapped := hab.filterMap f
    rwa [List.filterMap_cons_some ha, List.filterMap_cons_some hb, List.filterMap_nil] at hmapped

theorem pair_sublist_map_iff {α β : Type} {f : α → β} {items : List α} {x y : β} :
    [x, y].Sublist (items.map f) ↔ ∃ a b, [a, b].Sublist items ∧ f a = x ∧ f b = y := by
  rw [← List.filterMap_eq_map, pair_sublist_filterMap_iff]
  simp only [Function.comp_apply, Option.some.injEq]

/-! ### Outcomes -/

/-- Where the argument is, and why it is listed without a path. -/
def ArgumentEntry.failure? (entry : ArgumentEntry) : Option (Location × String) :=
  match entry.path with
  | .ok _ => none
  | .error failure => some (entry.location, failure.message)

/-- Where an argument is, and why it cannot be verified. -/
def Finding.unverifiable? : Finding → Option (Location × String)
  | .unverifiable argument reason => some (argument, reason)
  | _ => none

/-! ### Printed lines -/

/-- What is printed of a path, or of the failure to trace one. -/
inductive TracedAs : Except TraceFailure Path → String → Prop
  | plain {path : Path} (hscope : path.isScoped = false) :
      TracedAs (.ok path)
        s!"{path.render} boundary={path.boundary} explicit={path.explicitLength}"
  | inScope {path : Path} (hscope : path.isScoped = true) :
      TracedAs (.ok path)
        s!"{path.render} boundary={path.boundary} explicit={path.explicitLength} scoped"
  | failed (failure : TraceFailure) :
      TracedAs (.error failure) s!"not representable ({failure.message})"

def BindingEntry.PrintedAs (entry : BindingEntry) (printed : String) : Prop :=
  ∃ traced, TracedAs entry.path traced ∧
    printed = s!"  {entry.name}{entry.kind.note} @ {entry.position}: {traced}\n"

/-- The line of an argument says where it is, and its path or why there is none. -/
def ArgumentEntry.PrintedAs (entry : ArgumentEntry) (printed : String) : Prop :=
  ∃ traced place, TracedAs entry.path traced ∧
    place = s!"file#{entry.location.file}:{entry.location.span.start}..{entry.location.span.stop}" ∧
    printed = s!"  {entry.signature} #{entry.position} @ {place}: {traced}\n"

/-- The entries are printed under two headings, each on its line and in their order. -/
def PathListing.PrintedAs (listing : PathListing) (name output : String) : Prop :=
  ∃ bindings arguments, List.Forall₂ BindingEntry.PrintedAs listing.bindings bindings ∧
    List.Forall₂ ArgumentEntry.PrintedAs listing.arguments arguments ∧
    output = s!"Paths in `{name}`\n" ++
      "\nReference bindings:\n" ++ String.join bindings ++
      "\nBy-reference arguments:\n" ++ String.join arguments

theorem tracedAs_renderTraced (outcome : Except TraceFailure Path) :
    TracedAs outcome (renderTraced outcome) := by
  cases outcome with
  | error failure => exact .failed failure
  | ok path =>
      cases hscope : path.isScoped with
      | false =>
          convert TracedAs.plain hscope using 1
          unfold renderTraced
          simp only [hscope]
          exact String.append_empty
      | true =>
          convert TracedAs.inScope hscope using 1
          unfold renderTraced
          simp only [hscope]
          rfl

theorem BindingEntry.printedAs_render (entry : BindingEntry) : entry.PrintedAs entry.render := by
  -- The two texts are put together from other pieces, so they are compared by character.
  refine ⟨_, tracedAs_renderTraced entry.path, String.toList_inj.mp ?_⟩
  simp [render, line, toString]

theorem ArgumentEntry.printedAs_render (entry : ArgumentEntry) : entry.PrintedAs entry.render := by
  refine ⟨_, _, tracedAs_renderTraced entry.path, rfl, String.toList_inj.mp ?_⟩
  simp [render, line, Location.render, renderFile, Span.render, toString]

theorem PathListing.printedAs_render (listing : PathListing) (name : String) :
    listing.PrintedAs name (listing.render name) := by
  refine ⟨listing.bindings.map BindingEntry.render, listing.arguments.map ArgumentEntry.render,
    ?_, ?_, String.toList_inj.mp ?_⟩
  · exact List.forall₂_map_right_iff.mpr
      (List.forall₂_same.mpr fun entry _ => entry.printedAs_render)
  · exact List.forall₂_map_right_iff.mpr
      (List.forall₂_same.mpr fun entry _ => entry.printedAs_render)
  · simp [render, line, toString]

/-! ### Arguments by reference -/

namespace Analysis

/-- The arguments by reference, each with its position among all arguments. -/
def numberedRefs (args : List (PassMode × Expr Site)) : List (Expr Site × Nat) :=
  args.zipIdx.filterMap fun entry =>
    if entry.1.1 = .ref then some (entry.1.2, entry.2) else none

theorem refArguments_eq_numbered (args : List (PassMode × Expr Site)) :
    refArguments args = (numberedRefs args).map Prod.fst := by
  rw [refArguments, numberedRefs, List.map_filterMap]
  conv => lhs; rw [← List.zipIdx_map_fst 0 args]
  rw [List.filterMap_map]
  congr 1
  funext entry
  obtain ⟨⟨mode, argument⟩, position⟩ := entry
  by_cases hmode : mode = .ref
  · simp [hmode]
  · simp [hmode]

theorem mem_numberedRefs_iff {args : List (PassMode × Expr Site)} {argument : Expr Site}
    {position : Nat} :
    (argument, position) ∈ numberedRefs args ↔ args[position]? = some (.ref, argument) := by
  constructor
  · intro hmem
    obtain ⟨⟨⟨mode, other⟩, index⟩, hentry, hsome⟩ := List.mem_filterMap.mp hmem
    by_cases hmode : mode = .ref
    · simp only [hmode, if_true, Option.some.injEq, Prod.mk.injEq] at hsome
      obtain ⟨rfl, rfl⟩ := hsome
      rw [List.mem_zipIdx_iff_getElem?.mp hentry, hmode]
    · simp [hmode] at hsome
  · intro hargument
    refine List.mem_filterMap.mpr ⟨((.ref, argument), position), ?_, if_pos rfl⟩
    exact List.mem_zipIdx_iff_getElem?.mpr hargument

variable (analysis : Analysis)

/-- Where an argument is, and why it cannot be traced. -/
def failure? (argument : Expr Site) : Option (Location × String) :=
  match analysis.trace argument none with
  | .ok _ => none
  | .error failure => some (analysis.locate argument.span, failure.message)

def traced? (argument : Expr Site) : Option (Expr Site × Path) :=
  match analysis.trace argument none with
  | .ok path => some (argument, path)
  | .error _ => none

/-- What is listed of an argument of a call to the method with this signature. -/
def entryOf (signature : String) (argument : Expr Site × Nat) : ArgumentEntry where
  signature := signature
  position := argument.2
  location := analysis.locate argument.1.span
  path := analysis.trace argument.1 none

/-- The call is to a method that reads storage and does not resize it. -/
def callsHelper : Expr Site → Bool
  | .call _ id _ _ => (analysis.program.methods[id]?).any (analysis.isReferenceHelper id)
  | _ => false

/-- What there is to report of a call, told from its listed arguments. -/
inductive Tells (call : Expr Site) : Finding → Prop
  | unverifiable {entry : ArgumentEntry} {failure : TraceFailure}
      (hentry : entry ∈ analysis.argumentEntries call) (hpath : entry.path = .error failure) :
      Tells call (.unverifiable entry.location failure.message)
  | invalidated {entry : ArgumentEntry} {path : Path} {reference : LiveBinding}
      (hentry : entry ∈ analysis.argumentEntries call) (hpath : entry.path = .ok path)
      (hresizes : analysis.callsHelper call = false)
      (hlive : reference ∈ analysis.liveAt call.span.start)
      (hmoves : path.canInvalidate reference.path = true) :
      Tells call (.invalidatedReference (analysis.locate call.span) entry.signature path.render
        reference.name reference.path.render (analysis.locate reference.binding.span))
  | aliased {first second : ArgumentEntry} {path other : Path}
      (hentries : [first, second].Sublist (analysis.argumentEntries call))
      (hfirst : first.path = .ok path) (hsecond : second.path = .ok other)
      (hshare : (path.canAlias other || other.canAlias path) = true) :
      Tells call (.aliasedArguments (analysis.locate call.span) second.signature path.render
        other.render second.location)

/-! ### The check of one call -/

variable {analysis}

theorem mem_untraceable_iff {arguments : List (Expr Site)} {finding : Finding} :
    finding ∈ analysis.untraceable arguments ↔ ∃ argument ∈ arguments, ∃ failure,
      analysis.trace argument none = .error failure ∧
        finding = .unverifiable (analysis.locate argument.span) failure.message := by
  rw [untraceable, List.mem_filterMap]
  refine exists_congr fun argument => and_congr_right fun _ => ?_
  cases analysis.trace argument none with
  | ok path => simp
  | error failure => simp [eq_comm]

theorem failures_of_untraceable (arguments : List (Expr Site)) :
    (analysis.untraceable arguments).filterMap Finding.unverifiable? =
      arguments.filterMap analysis.failure? := by
  rw [untraceable, List.filterMap_filterMap]
  congr 1
  funext argument
  unfold failure?
  cases analysis.trace argument none <;> rfl

theorem tracedArguments_eq_filterMap (arguments : List (Expr Site)) :
    analysis.tracedArguments arguments = arguments.filterMap analysis.traced? := rfl

theorem traced?_eq_some_iff {argument other : Expr Site} {path : Path} :
    analysis.traced? argument = some (other, path) ↔
      argument = other ∧ analysis.trace argument none = .ok path := by
  unfold traced?
  cases analysis.trace argument none with
  | ok traced => simp
  | error failure => simp

theorem mem_tracedArguments_iff {arguments : List (Expr Site)} {argument : Expr Site}
    {path : Path} :
    (argument, path) ∈ analysis.tracedArguments arguments ↔
      argument ∈ arguments ∧ analysis.trace argument none = .ok path := by
  rw [tracedArguments_eq_filterMap, List.mem_filterMap]
  simp only [traced?_eq_some_iff]
  constructor
  · rintro ⟨_, hargument, rfl, htrace⟩
    exact ⟨hargument, htrace⟩
  · rintro ⟨hargument, htrace⟩
    exact ⟨argument, hargument, rfl, htrace⟩

theorem pair_sublist_tracedArguments_iff {arguments : List (Expr Site)}
    {first second : Expr Site} {path other : Path} :
    [(first, path), (second, other)].Sublist (analysis.tracedArguments arguments) ↔
      [first, second].Sublist arguments ∧ analysis.trace first none = .ok path ∧
        analysis.trace second none = .ok other := by
  rw [tracedArguments_eq_filterMap, pair_sublist_filterMap_iff]
  simp only [traced?_eq_some_iff]
  constructor
  · rintro ⟨_, _, hpair, ⟨rfl, hfirst⟩, rfl, hsecond⟩
    exact ⟨hpair, hfirst, hsecond⟩
  · rintro ⟨hpair, hfirst, hsecond⟩
    exact ⟨first, second, hpair, ⟨rfl, hfirst⟩, rfl, hsecond⟩

theorem mem_invalidations_iff {call : Span} {method : Method Site}
    {paths : List (Expr Site × Path)} {finding : Finding} :
    finding ∈ analysis.invalidations call method paths ↔ ∃ argument path,
      (argument, path) ∈ paths ∧ ∃ reference ∈ analysis.liveAt call.start,
        path.canInvalidate reference.path = true ∧
        finding = .invalidatedReference (analysis.locate call) method.signature path.render
          reference.name reference.path.render (analysis.locate reference.binding.span) := by
  simp only [invalidations, List.mem_flatMap, List.mem_filter, List.mem_map]
  constructor
  · rintro ⟨⟨argument, path⟩, ⟨hentry, _⟩, reference, ⟨hlive, hmoves⟩, rfl⟩
    exact ⟨argument, path, hentry, reference, hlive, hmoves, rfl⟩
  · rintro ⟨argument, path, hentry, reference, hlive, hmoves, rfl⟩
    have hanchor := Path.isAnchor_of_canInvalidate hmoves
    exact ⟨(argument, path), ⟨hentry, hanchor⟩, reference, ⟨hlive, hmoves⟩, rfl⟩

theorem mem_aliases_iff {call : Span} {method : Method Site} {paths : List (Expr Site × Path)}
    {finding : Finding} :
    finding ∈ analysis.aliases call method paths ↔ ∃ first path second other,
      [(first, path), (second, other)].Sublist paths ∧
        (path.canAlias other || other.canAlias path) = true ∧
        finding = .aliasedArguments (analysis.locate call) method.signature path.render
          other.render (analysis.locate second.span) := by
  induction paths with
  | nil => simp [aliases]
  | cons head rest ih =>
      obtain ⟨argument, path⟩ := head
      rw [aliases, List.mem_append, ih, List.mem_map]
      constructor
      · rintro (⟨⟨second, other⟩, hsecond, rfl⟩ | ⟨first, path, second, other, hpair, hreported⟩)
        · obtain ⟨hmem, hshare⟩ := List.mem_filter.mp hsecond
          have hpair := (List.singleton_sublist.mpr hmem).cons_cons (argument, path)
          exact ⟨argument, path, second, other, hpair, hshare, rfl⟩
        · exact ⟨first, path, second, other, hpair.cons _, hreported⟩
      · rintro ⟨first, path, second, other, hpair, hshare, rfl⟩
        rcases List.sublist_cons_iff.mp hpair with hrest | ⟨tail, htail, hrest⟩
        · exact Or.inr ⟨first, path, second, other, hrest, hshare, rfl⟩
        · cases htail
          have hmem := List.singleton_sublist.mp hrest
          exact Or.inl ⟨(second, other), List.mem_filter.mpr ⟨hmem, hshare⟩, rfl⟩

section Call

variable {site : Site} {id : MethodId} {args : List (PassMode × Expr Site)} {ty : TypeId}
  {callee : Method Site} (hcallee : analysis.program.methods[id]? = some callee)
include hcallee

theorem argumentEntries_eq_numbered :
    analysis.argumentEntries (.call site id args ty) =
      (numberedRefs args).map (analysis.entryOf callee.signature) := by
  rw [argumentEntries, numberedRefs, List.map_filterMap, hcallee]
  congr 1
  funext entry
  obtain ⟨⟨mode, argument⟩, position⟩ := entry
  by_cases hmode : mode = .ref
  · simp only [hmode, if_true, Option.map_some]
    rfl
  · simp only [hmode, if_false, Option.map_none]

/-- Every argument by reference is listed. -/
theorem exists_entryOf_mem {argument : Expr Site} (hargument : argument ∈ refArguments args) :
    ∃ position, analysis.entryOf callee.signature (argument, position) ∈
      analysis.argumentEntries (.call site id args ty) := by
  rw [refArguments_eq_numbered] at hargument
  obtain ⟨⟨_, position⟩, hmem, rfl⟩ := List.mem_map.mp hargument
  rw [argumentEntries_eq_numbered hcallee]
  exact ⟨position, List.mem_map_of_mem hmem⟩

theorem exists_of_mem_argumentEntries {entry : ArgumentEntry}
    (hentry : entry ∈ analysis.argumentEntries (.call site id args ty)) :
    ∃ argument position, (argument, position) ∈ numberedRefs args ∧
      argument ∈ refArguments args ∧
      entry = analysis.entryOf callee.signature (argument, position) := by
  rw [argumentEntries_eq_numbered hcallee] at hentry
  obtain ⟨⟨argument, position⟩, hmem, rfl⟩ := List.mem_map.mp hentry
  rw [refArguments_eq_numbered]
  exact ⟨argument, position, hmem, List.mem_map_of_mem hmem, rfl⟩

/-- Two entries are listed in order if and only if their arguments are passed in order. -/
theorem pair_sublist_argumentEntries_iff {first second : ArgumentEntry} :
    [first, second].Sublist (analysis.argumentEntries (.call site id args ty)) ↔
      ∃ left right, [left, right].Sublist (numberedRefs args) ∧
        analysis.entryOf callee.signature left = first ∧
        analysis.entryOf callee.signature right = second := by
  rw [argumentEntries_eq_numbered hcallee, pair_sublist_map_iff]

/-- The findings at a call are what its listed arguments tell. -/
theorem mem_checkCall_iff {finding : Finding} :
    finding ∈ analysis.checkCall (.call site id args ty) ↔
      analysis.Tells (.call site id args ty) finding := by
  have hhelper : analysis.callsHelper (.call site id args ty) =
      analysis.isReferenceHelper id callee := by
    rw [callsHelper, hcallee, Option.any_some]
  simp only [checkCall, hcallee, List.mem_append]
  constructor
  · rintro ((huntraceable | hinvalidation) | halias)
    · obtain ⟨argument, hargument, failure, htrace, rfl⟩ := mem_untraceable_iff.mp huntraceable
      obtain ⟨_, hentry⟩ := exists_entryOf_mem hcallee hargument
      exact .unverifiable hentry htrace
    · split at hinvalidation
      · cases hinvalidation
      · rename_i hresizes
        obtain ⟨argument, path, hpath, reference, hlive, hmoves, rfl⟩ :=
          mem_invalidations_iff.mp hinvalidation
        obtain ⟨hargument, htrace⟩ := mem_tracedArguments_iff.mp hpath
        obtain ⟨_, hentry⟩ := exists_entryOf_mem hcallee hargument
        exact .invalidated hentry htrace (hhelper.trans (Bool.eq_false_iff.mpr hresizes)) hlive
          hmoves
    · obtain ⟨_, path, _, other, hpair, hshare, rfl⟩ := mem_aliases_iff.mp halias
      obtain ⟨hpassed, hfirst, hsecond⟩ := pair_sublist_tracedArguments_iff.mp hpair
      rw [refArguments_eq_numbered] at hpassed
      obtain ⟨left, right, hnumbered, rfl, rfl⟩ := pair_sublist_map_iff.mp hpassed
      have hentries := (@pair_sublist_argumentEntries_iff _ site id args ty _ hcallee _ _).mpr
        ⟨left, right, hnumbered, rfl, rfl⟩
      exact .aliased hentries hfirst hsecond hshare
  · intro htells
    cases htells with
    | unverifiable hentry hpath =>
        obtain ⟨argument, _, _, hargument, rfl⟩ := exists_of_mem_argumentEntries hcallee hentry
        exact Or.inl (Or.inl (mem_untraceable_iff.mpr ⟨argument, hargument, _, hpath, rfl⟩))
    | invalidated hentry hpath hresizes hlive hmoves =>
        obtain ⟨argument, _, _, hargument, rfl⟩ := exists_of_mem_argumentEntries hcallee hentry
        rw [hhelper] at hresizes
        rw [if_neg (Bool.eq_false_iff.mp hresizes)]
        have htraced := mem_tracedArguments_iff.mpr ⟨hargument, hpath⟩
        exact Or.inl (Or.inr (mem_invalidations_iff.mpr ⟨_, _, htraced, _, hlive, hmoves, rfl⟩))
    | aliased hentries hfirst hsecond hshare =>
        obtain ⟨left, right, hpair, rfl, rfl⟩ :=
          (pair_sublist_argumentEntries_iff hcallee).mp hentries
        have hpassed : [left.1, right.1].Sublist (refArguments args) := by
          rw [refArguments_eq_numbered]
          exact hpair.map Prod.fst
        have htraced := pair_sublist_tracedArguments_iff.mpr ⟨hpassed, hfirst, hsecond⟩
        exact Or.inr (mem_aliases_iff.mpr ⟨_, _, _, _, htraced, hshare, rfl⟩)

theorem failures_of_argumentEntries :
    (analysis.argumentEntries (.call site id args ty)).filterMap ArgumentEntry.failure? =
      (refArguments args).filterMap analysis.failure? := by
  rw [argumentEntries_eq_numbered hcallee, refArguments_eq_numbered, List.filterMap_map,
    List.filterMap_map]
  rfl

theorem failures_of_checkCall :
    (analysis.checkCall (.call site id args ty)).filterMap Finding.unverifiable? =
      (refArguments args).filterMap analysis.failure? := by
  have hinvalidations : ∀ paths, (if analysis.isReferenceHelper id callee then []
      else analysis.invalidations site.span callee paths).filterMap Finding.unverifiable? = [] := by
    refine fun paths => List.filterMap_eq_nil_iff.mpr fun finding hfinding => ?_
    split at hfinding
    · cases hfinding
    · obtain ⟨_, _, _, _, _, _, rfl⟩ := mem_invalidations_iff.mp hfinding
      rfl
  have haliases : ∀ paths, (analysis.aliases site.span callee paths).filterMap
      Finding.unverifiable? = [] := by
    refine fun paths => List.filterMap_eq_nil_iff.mpr fun finding hfinding => ?_
    obtain ⟨_, _, _, _, _, _, rfl⟩ := mem_aliases_iff.mp hfinding
    rfl
  simp only [checkCall, hcallee, List.filterMap_append, hinvalidations, haliases, List.append_nil,
    failures_of_untraceable]

/-- What is listed with a path is an argument by whose path the call is checked. -/
theorem traced_of_mem_argumentEntries {entry : ArgumentEntry}
    (hentry : entry ∈ analysis.argumentEntries (.call site id args ty)) {path : Path}
    (hpath : entry.path = .ok path) :
    ∃ argument, args[entry.position]? = some (.ref, argument) ∧
      entry.location = analysis.locate argument.span ∧
      (argument, path) ∈ analysis.tracedArguments (refArguments args) := by
  obtain ⟨argument, position, hnumbered, hargument, rfl⟩ :=
    exists_of_mem_argumentEntries hcallee hentry
  exact ⟨argument, mem_numberedRefs_iff.mp hnumbered, rfl,
    mem_tracedArguments_iff.mpr ⟨hargument, hpath⟩⟩

end Call

/-! ### The check of a body -/

theorem failures_of_checkReturn? (stmt : Stmt Site) :
    (analysis.checkReturn? stmt).toList.filterMap Finding.unverifiable? = [] := by
  unfold checkReturn?
  split
  · dsimp only
    split <;> rfl
  · rfl

/-- The listing and the check of a body come to the same. -/
structure ListingAgrees (analysis : Analysis) : Prop where
  listed : ∀ entry, entry ∈ analysis.listing.arguments ↔
    ∃ site id args ty callee argument position,
      Expr.call site id args ty ∈ analysis.body.exprs ∧
      analysis.program.methods[id]? = some callee ∧ args[position]? = some (.ref, argument) ∧
      entry = analysis.entryOf callee.signature (argument, position)
  failures : (analysis.listing.arguments.filterMap ArgumentEntry.failure?).Perm
    (analysis.findings.filterMap Finding.unverifiable?)
  traced : ∀ entry ∈ analysis.listing.arguments, ∀ path, entry.path = .ok path →
    ∃ site id args ty argument, Expr.call site id args ty ∈ analysis.body.exprs ∧
      entry ∈ analysis.argumentEntries (.call site id args ty) ∧
      args[entry.position]? = some (.ref, argument) ∧
      entry.location = analysis.locate argument.span ∧
      (argument, path) ∈ analysis.tracedArguments (refArguments args)
  told : ∀ call ∈ analysis.body.exprs, ∀ finding,
    finding ∈ analysis.checkCall call ↔ analysis.Tells call finding

section Grounded

variable (hgrounded : analysis.body.Grounded analysis.program)
include hgrounded

theorem exists_callee {site : Site} {id : MethodId} {args : List (PassMode × Expr Site)}
    {ty : TypeId} (hcall : Expr.call site id args ty ∈ analysis.body.exprs) :
    ∃ callee, analysis.program.methods[id]? = some callee := by
  have hnode := (analysis.body.mem_exprs_iff _).mp hcall
  exact ⟨_, List.getElem?_eq_getElem (hgrounded.inRange _ hnode).1⟩

theorem failures_of_expr {expr : Expr Site} (hexpr : expr ∈ analysis.body.exprs) :
    (analysis.checkCall expr).filterMap Finding.unverifiable? =
      (analysis.argumentEntries expr).filterMap ArgumentEntry.failure? := by
  cases expr with
  | call site id args ty =>
      obtain ⟨callee, hcallee⟩ := exists_callee hgrounded hexpr
      rw [failures_of_checkCall hcallee, failures_of_argumentEntries hcallee]
  | _ => rfl

/-- The arguments that are listed without a path are those that are found unverifiable. -/
theorem failures_of_listing :
    (analysis.listing.arguments.filterMap ArgumentEntry.failure?).Perm
      (analysis.findings.filterMap Finding.unverifiable?) := by
  have hstmts : (analysis.body.stmts.tail.map Node.stmt).flatMap
      (fun node => (analysis.checkNode node).filterMap Finding.unverifiable?) = [] := by
    rw [List.flatMap_map]
    exact List.flatMap_eq_nil_iff.mpr fun stmt _ => failures_of_checkReturn? stmt
  have hexprs : (analysis.body.exprs.map Node.expr).flatMap
      (fun node => (analysis.checkNode node).filterMap Finding.unverifiable?) =
        analysis.listing.arguments.filterMap ArgumentEntry.failure? := by
    rw [List.flatMap_map, listing, List.filterMap_flatMap]
    exact List.flatMap_congr fun expr hexpr => failures_of_expr hgrounded hexpr
  -- The nodes along the tree are the expressions and statements by number, in another order.
  have hperm := analysis.body.nodes_perm.flatMap_right
    fun node => (analysis.checkNode node).filterMap Finding.unverifiable?
  rw [List.flatMap_append, hstmts, hexprs, List.append_nil] at hperm
  rw [findings, List.filterMap_flatMap]
  exact hperm.symm

theorem mem_listing_iff_exists_call {entry : ArgumentEntry} :
    entry ∈ analysis.listing.arguments ↔ ∃ site id args ty callee,
      Expr.call site id args ty ∈ analysis.body.exprs ∧
      analysis.program.methods[id]? = some callee ∧
      entry ∈ analysis.argumentEntries (.call site id args ty) := by
  rw [listing, List.mem_flatMap]
  constructor
  · rintro ⟨expr, hexpr, hentry⟩
    cases expr with
    | call site id args ty =>
        obtain ⟨callee, hcallee⟩ := exists_callee hgrounded hexpr
        exact ⟨site, id, args, ty, callee, hexpr, hcallee, hentry⟩
    | _ => cases hentry
  · rintro ⟨site, id, args, ty, callee, hcall, _, hentry⟩
    exact ⟨_, hcall, hentry⟩

/-- The listing has the arguments by reference of all calls, and no others. -/
theorem mem_listing_iff {entry : ArgumentEntry} :
    entry ∈ analysis.listing.arguments ↔ ∃ site id args ty callee argument position,
      Expr.call site id args ty ∈ analysis.body.exprs ∧
      analysis.program.methods[id]? = some callee ∧ args[position]? = some (.ref, argument) ∧
      entry = analysis.entryOf callee.signature (argument, position) := by
  rw [mem_listing_iff_exists_call hgrounded]
  constructor
  · rintro ⟨site, id, args, ty, callee, hcall, hcallee, hentry⟩
    obtain ⟨argument, position, hnumbered, _, rfl⟩ := exists_of_mem_argumentEntries hcallee hentry
    exact ⟨site, id, args, ty, callee, argument, position, hcall, hcallee,
      mem_numberedRefs_iff.mp hnumbered, rfl⟩
  · rintro ⟨site, id, args, ty, callee, argument, position, hcall, hcallee, hargument, rfl⟩
    refine ⟨site, id, args, ty, callee, hcall, hcallee, ?_⟩
    rw [argumentEntries_eq_numbered hcallee]
    exact List.mem_map_of_mem (mem_numberedRefs_iff.mpr hargument)

theorem traced_of_mem_listing {entry : ArgumentEntry}
    (hentry : entry ∈ analysis.listing.arguments) {path : Path} (hpath : entry.path = .ok path) :
    ∃ site id args ty argument, Expr.call site id args ty ∈ analysis.body.exprs ∧
      entry ∈ analysis.argumentEntries (.call site id args ty) ∧
      args[entry.position]? = some (.ref, argument) ∧
      entry.location = analysis.locate argument.span ∧
      (argument, path) ∈ analysis.tracedArguments (refArguments args) := by
  obtain ⟨site, id, args, ty, callee, hcall, hcallee, hentry⟩ :=
    (mem_listing_iff_exists_call hgrounded).mp hentry
  obtain ⟨argument, htraced⟩ := traced_of_mem_argumentEntries hcallee hentry hpath
  exact ⟨site, id, args, ty, argument, hcall, hentry, htraced⟩

theorem tells_of_expr {expr : Expr Site} (hexpr : expr ∈ analysis.body.exprs)
    (finding : Finding) : finding ∈ analysis.checkCall expr ↔ analysis.Tells expr finding := by
  cases expr with
  | call site id args ty =>
      obtain ⟨callee, hcallee⟩ := exists_callee hgrounded hexpr
      exact mem_checkCall_iff hcallee
  | _ =>
      refine ⟨fun hfinding => (by cases hfinding), fun htells => ?_⟩
      cases htells with
      | unverifiable hentry => cases hentry
      | invalidated hentry => cases hentry
      | aliased hentries => cases hentries

theorem listingAgrees_of_grounded : analysis.ListingAgrees where
  listed := fun _ => mem_listing_iff hgrounded
  failures := failures_of_listing hgrounded
  traced := fun _ hentry _ hpath => traced_of_mem_listing hgrounded hentry hpath
  told := fun _ hcall finding => tells_of_expr hgrounded hcall finding

end Grounded

end Analysis

/-- Every method with a body has its paths printed under its signature, and under whatever else it
is found by: the headings, and a line for each entry of the listing. For every configuration the
listing agrees with the check of the body with the same templates and as many steps. -/
theorem listing_agrees_findings {document : Document.Program} {program : Program Site}
    (hlower : document.lower = .ok program) (config : Config) {id : MethodId}
    {method : Method Site} {body : Body Site} (hmethod : program.methods[id]? = some method)
    (hbody : method.body = some body) :
    program.bodyNamed? method.signature = some body ∧
    (∀ name, program.bodyNamed? name = some body → ∃ output,
      config.listPaths? name program = some ⟨output, false⟩ ∧
        (Analysis.mk program body (config.templatesFor program) config.maxSteps).listing.PrintedAs
          name output) ∧
    (Analysis.mk program body (config.templatesFor program) config.maxSteps).ListingAgrees := by
  obtain ⟨_, _, hgrounded⟩ := Document.Program.grounded_of_lower hlower hmethod hbody
  refine ⟨Document.Program.bodyNamed?_signature hlower hmethod hbody, fun name hname => ?_,
    Analysis.listingAgrees_of_grounded hgrounded⟩
  refine ⟨_, ?_, PathListing.printedAs_render _ name⟩
  rw [Config.listPaths?, hname, Option.map_some]
  rfl

def nestedListing : String :=
  "Paths in `run`\n\nReference bindings:\n\nBy-reference arguments:\n" ++
    "  Wrap #0 @ file#0:10..12: not representable (call to `Make` is not modelled)\n" ++
    "  Wrap #0 @ file#0:9..13: not representable (call to `Wrap` is not modelled)\n" ++
    "  Wrap #1 @ file#0:13..15: list! boundary=1 explicit=1\n" ++
    "  Wrap #2 @ file#0:15..17: list! boundary=1 explicit=1\n"

def nestedFailures : List (Location × String) :=
  [(⟨0, .ofBounds 10 12⟩, "call to `Make` is not modelled"),
    (⟨0, .ofBounds 9 13⟩, "call to `Wrap` is not modelled")]

/-- Of the four arguments that are passed by reference two are printed without a path, and those two
are found unverifiable. -/
theorem listing_agrees_findings_nested : ∃ (program : Program Site) (method : Method Site)
    (body : Body Site), nestedDocument.lower = .ok program ∧ program.methods[2]? = some method ∧
      method.body = some body ∧
      Config.default.listPaths? method.signature program = some ⟨nestedListing, false⟩ ∧
      (Config.default.analysis program body).listing.PrintedAs method.signature nestedListing ∧
      (Config.default.analysis program body).listing.arguments.length = 4 ∧
      (Config.default.analysis program body).listing.arguments.filterMap ArgumentEntry.failure? =
        nestedFailures ∧
      ((Config.default.analysis program body).findings.filterMap Finding.unverifiable?).Perm
        nestedFailures := by
  have hany : nestedDocument.anyBody (fun program _ => (program.methods[2]?).any fun method =>
      method.body.any fun body =>
        let listing := (Config.default.analysis program body).listing
        (Config.default.listPaths? method.signature program).any (·.output == nestedListing) &&
          listing.arguments.length == 4 &&
          listing.arguments.filterMap ArgumentEntry.failure? == nestedFailures) = true := by
    decide +kernel
  obtain ⟨program, _, hlower, _, htest⟩ := Document.Program.exists_of_anyBody hany
  obtain ⟨method, hmethod, htest⟩ := (Option.any_eq_true _ _).mp htest
  obtain ⟨body, hbody, htest⟩ := (Option.any_eq_true _ _).mp htest
  obtain ⟨htest, hfailures⟩ := Bool.and_eq_true_iff.mp htest
  obtain ⟨hprinted, hlength⟩ := Bool.and_eq_true_iff.mp htest
  obtain ⟨hnamed, hprints, hagrees⟩ :=
    listing_agrees_findings hlower Config.default hmethod hbody
  obtain ⟨output, hreport, hlines⟩ := hprints _ hnamed
  rw [hreport, Option.any_some] at hprinted
  have houtput : output = nestedListing := eq_of_beq hprinted
  rw [houtput] at hreport hlines
  exact ⟨program, method, body, hlower, hmethod, hbody, hreport, hlines, eq_of_beq hlength,
    eq_of_beq hfailures, hagrees.failures.symm.trans (.of_eq (eq_of_beq hfailures))⟩

end RefStability
