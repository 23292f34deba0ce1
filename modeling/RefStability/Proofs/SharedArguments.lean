import RefStability.Proofs.ListedPaths
import RefStability.Proofs.PathOrder

/-!
# Arguments that share storage

Whether two paths may give access to the same storage is asked in both directions, since the answer
from the longer path alone may miss it. Taken together the answers depend on the roots, on the
explicit segments and on the anchors in a way that does not tell left from right. A call reports
exactly the pairs of its arguments of which this holds, in the order of their positions.
-/

namespace RefStability

/-! ### Paths that overlap -/

namespace Path

variable {left right : Path}

/-- The one of two paths that goes further before its first view call, and the other one. -/
def longer (left right : Path) : Path :=
  if left.explicitLength ≤ right.explicitLength then right else left

def shorter (left right : Path) : Path :=
  if left.explicitLength ≤ right.explicitLength then left else right

/-- Of two paths that agree, one leads to resizable storage that the other can reach: to its own end
or, from a shorter path, through an element or a view call of the longer one. -/
def Anchored (left right : Path) : Prop :=
  (left.explicitLength = right.explicitLength ∧
    (left.isAnchor = true ∨ right.isAnchor = true)) ∨
  (left.explicitLength ≠ right.explicitLength ∧ (left.longer right).isAnchor = true) ∨
  (left.explicitLength ≠ right.explicitLength ∧ (left.shorter right).isAnchor = true ∧
    (left.longer right).resizableAccessSince (left.shorter right).explicitLength = true)

/-- Two paths from one root, of which one begins like the other, reach the same resizable
storage. -/
structure Overlaps (left right : Path) : Prop where
  nonempty : left.segments ≠ [] ∧ right.segments ≠ []
  root : left.root? = right.root?
  agrees : left.Agrees right
  anchored : left.Anchored right

theorem anchored_of_lt (hlt : left.explicitLength < right.explicitLength) :
    left.Anchored right ↔ right.isAnchor = true ∨
      left.isAnchor = true ∧ right.resizableAccessSince left.explicitLength = true := by
  simp [Anchored, longer, shorter, Nat.le_of_lt hlt, Nat.ne_of_lt hlt]

theorem anchored_of_gt (hgt : right.explicitLength < left.explicitLength) :
    left.Anchored right ↔ left.isAnchor = true ∨
      right.isAnchor = true ∧ left.resizableAccessSince right.explicitLength = true := by
  simp [Anchored, longer, shorter, Nat.not_le.mpr hgt, Nat.ne_of_gt hgt]

theorem anchored_of_eq (heq : left.explicitLength = right.explicitLength) :
    left.Anchored right ↔ left.isAnchor = true ∨ right.isAnchor = true := by
  simp [Anchored, heq]

theorem explicitLength_le_boundary {path : Path} (hanchor : path.isAnchor = true) :
    path.explicitLength ≤ path.boundary := by
  rw [((isAnchor_iff path).mp hanchor).2]
  exact path.explicitLength_le_length

theorem canAlias_of_same (hrelation : left.relation right = .same) :
    left.canAlias right = true ↔ left.isAnchor = true ∨ right.isAnchor = true := by
  simp only [canAlias, hrelation, Bool.and_eq_true, Bool.or_eq_true, decide_eq_true_eq]
  -- The boundary of an anchor is its end, so that the comparison with the boundary adds nothing.
  refine and_iff_left_of_imp fun hanchor => ?_
  exact hanchor.imp explicitLength_le_boundary explicitLength_le_boundary

theorem canAlias_of_parent (hrelation : left.relation right = .parent) :
    left.canAlias right = true ↔ right.isAnchor = true ∨
      left.isAnchor = true ∧ right.resizableAccessSince left.explicitLength = true := by
  simp only [canAlias, hrelation, Bool.and_eq_true, Bool.or_eq_true]
  tauto

theorem canAlias_of_child (hrelation : left.relation right = .child) :
    left.canAlias right = true ↔ left.isAnchor = true := by
  simp only [canAlias, hrelation, Bool.and_eq_true, Bool.or_eq_true]
  tauto

theorem canAlias_either_of_lt (hroot : left.SameRoot right) (hagrees : left.Agrees right)
    (hlt : left.explicitLength < right.explicitLength) :
    left.canAlias right = true ∨ right.canAlias left = true ↔ right.isAnchor = true ∨
      left.isAnchor = true ∧ right.resizableAccessSince left.explicitLength = true := by
  have hforth : left.relation right = .parent := by
    rw [relation_of_sameRoot hroot, if_pos hagrees, PathRelation.ofLengths, if_pos hlt]
  have hback : right.relation left = .child := by
    rw [relation_of_sameRoot hroot.symm, if_pos hagrees.symm, PathRelation.ofLengths,
      if_neg (Nat.lt_asymm hlt), if_pos hlt]
  -- What the child says, that it is an anchor itself, is one of the cases of the parent.
  rw [canAlias_of_parent hforth, canAlias_of_child hback]
  tauto

theorem canAlias_either_of_eq (hroot : left.SameRoot right) (hagrees : left.Agrees right)
    (heq : left.explicitLength = right.explicitLength) :
    left.canAlias right = true ∨ right.canAlias left = true ↔
      left.isAnchor = true ∨ right.isAnchor = true := by
  have hlengths : PathRelation.ofLengths right.explicitLength right.explicitLength = .same := by
    rw [PathRelation.ofLengths, if_neg (Nat.lt_irrefl _), if_neg (Nat.lt_irrefl _)]
  have hforth : left.relation right = .same := by
    rw [relation_of_sameRoot hroot, if_pos hagrees, heq, hlengths]
  have hback : right.relation left = .same := by
    rw [relation_of_sameRoot hroot.symm, if_pos hagrees.symm, heq, hlengths]
  rw [canAlias_of_same hforth, canAlias_of_same hback]
  tauto

theorem sameRoot_and_agrees_of_canAlias (halias : left.canAlias right = true) :
    left.SameRoot right ∧ left.Agrees right := by
  by_cases hroot : left.SameRoot right
  · refine ⟨hroot, ?_⟩
    by_contra hagrees
    simp [canAlias, relation_of_sameRoot hroot, hagrees] at halias
  · simp [canAlias, relation_of_not_sameRoot hroot] at halias

theorem canAlias_either_iff (left right : Path) :
    left.canAlias right = true ∨ right.canAlias left = true ↔ left.Overlaps right := by
  by_cases hrelated : left.SameRoot right ∧ left.Agrees right
  · obtain ⟨hroot, hagrees⟩ := hrelated
    have hoverlaps : left.Overlaps right ↔ left.Anchored right :=
      ⟨Overlaps.anchored, fun hanchored =>
        ⟨⟨hroot.1, hroot.symm.1⟩, hroot.2, hagrees, hanchored⟩⟩
    rw [hoverlaps]
    rcases Nat.lt_trichotomy left.explicitLength right.explicitLength with hlt | heq | hgt
    · rw [canAlias_either_of_lt hroot hagrees hlt, anchored_of_lt hlt]
    · rw [canAlias_either_of_eq hroot hagrees heq, anchored_of_eq heq]
    · rw [or_comm, canAlias_either_of_lt hroot.symm hagrees.symm hgt, anchored_of_gt hgt]
  · constructor
    · rintro (halias | halias)
      · exact absurd (sameRoot_and_agrees_of_canAlias halias) hrelated
      · obtain ⟨hroot, hagrees⟩ := sameRoot_and_agrees_of_canAlias halias
        exact absurd ⟨hroot.symm, hagrees.symm⟩ hrelated
    · intro hoverlaps
      exact absurd ⟨⟨hoverlaps.nonempty.1, hoverlaps.root⟩, hoverlaps.agrees⟩ hrelated

theorem canAlias_of_canInvalidate (hinvalidate : left.canInvalidate right = true) :
    left.canAlias right = true := by
  obtain ⟨hanchor, habove, haccess⟩ := canInvalidate_iff.mp hinvalidate
  rcases above_iff.mp habove with hrelation | hrelation
  · exact (canAlias_of_parent hrelation).mpr (.inr ⟨hanchor, haccess⟩)
  · exact (canAlias_of_same hrelation).mpr (.inl hanchor)

end Path

/-! ### Pairs of positions -/

theorem mem_orderedPairs_iff {α : Type} {values : List α} {first second : α} :
    (first, second) ∈ orderedPairs values ↔ [first, second].Sublist values := by
  induction values with
  | nil => simp [orderedPairs]
  | cons head rest ih =>
      rw [orderedPairs, List.mem_append, ih, List.sublist_cons_iff]
      constructor
      · rintro (hhead | hrest)
        · obtain ⟨_, hsecond, heq⟩ := List.mem_map.mp hhead
          cases heq
          exact .inr ⟨[second], rfl, List.singleton_sublist.mpr hsecond⟩
        · exact .inl hrest
      · rintro (hrest | ⟨tail, htail, hrest⟩)
        · exact .inr hrest
        · cases htail
          exact .inl (List.mem_map_of_mem (List.singleton_sublist.mp hrest))

/-- The pairs of a list that is in the order of its keys are in the lexicographic order of
theirs. -/
theorem orderedPairs_pairwise {α : Type} {values : List α} {key : α → Nat}
    (hordered : values.Pairwise fun left right => key left < key right) :
    (orderedPairs values).Pairwise fun left right =>
      Prod.Lex (· < ·) (· < ·) (key left.1, key left.2) (key right.1, key right.2) := by
  induction hordered with
  | nil => exact List.Pairwise.nil
  | @cons head rest hhead hrest ih =>
      rw [orderedPairs, List.pairwise_append]
      refine ⟨?_, ih, ?_⟩
      · refine List.pairwise_map.mpr (hrest.imp ?_)
        intro left right hlt
        exact Prod.Lex.right (key head) hlt
      · rintro _ hfirst ⟨left, right⟩ hpair
        obtain ⟨_, _, rfl⟩ := List.mem_map.mp hfirst
        have hleft := (mem_orderedPairs_iff.mp hpair).subset List.mem_cons_self
        exact Prod.Lex.left _ _ (hhead left hleft)

namespace Analysis

theorem numberedRefs_pairwise (args : List (PassMode × Expr Site)) :
    (numberedRefs args).Pairwise fun left right => left.2 < right.2 := by
  have hpositions : args.zipIdx.Pairwise fun left right => left.2 < right.2 := by
    have hrange : (args.zipIdx.map Prod.snd).Pairwise (· < ·) := by
      rw [List.zipIdx_map_snd]
      exact List.pairwise_lt_range'
    exact List.pairwise_map.mp hrange
  refine List.pairwise_filterMap.mpr (hpositions.imp ?_)
  intro left right hlt first hfirst second hsecond
  obtain ⟨_, hfirst⟩ := Option.ite_none_right_eq_some.mp hfirst
  obtain ⟨_, hsecond⟩ := Option.ite_none_right_eq_some.mp hsecond
  cases hfirst
  cases hsecond
  exact hlt

/-- Two arguments by reference stand in order if and only if their positions do. -/
theorem pair_sublist_numberedRefs_iff {args : List (PassMode × Expr Site)}
    {argument other : Expr Site} {first second : Nat} :
    [(argument, first), (other, second)].Sublist (numberedRefs args) ↔ first < second ∧
      args[first]? = some (.ref, argument) ∧ args[second]? = some (.ref, other) := by
  have hordered := numberedRefs_pairwise args
  rw [← mem_numberedRefs_iff, ← mem_numberedRefs_iff]
  constructor
  · intro hpair
    refine ⟨List.pairwise_iff_forall_sublist.mp hordered hpair, ?_, ?_⟩
    · exact hpair.subset List.mem_cons_self
    · exact hpair.subset (List.mem_cons_of_mem _ List.mem_cons_self)
  · rintro ⟨hlt, hfirst, hsecond⟩
    exact sublist_pair_of_start_lt hordered hfirst hsecond hlt

/-! ### What a call reports -/

variable (analysis : Analysis)

/-- The argument at a position is passed by reference and leads to the path. -/
def PassesAt (args : List (PassMode × Expr Site)) (position : Nat) (argument : Expr Site)
    (path : Path) : Prop :=
  args[position]? = some (.ref, argument) ∧ analysis.trace argument none = .ok path

/-- The findings are one for each pair of arguments that overlap, in the order of the pairs. -/
structure ReportsSharing (site : Site) (callee : Method Site) (args : List (PassMode × Expr Site))
    (pairs : List (Nat × Nat)) (findings : List Finding) : Prop where
  ordered : pairs.Pairwise (Prod.Lex (· < ·) (· < ·))
  mem_iff : ∀ first second, (first, second) ∈ pairs ↔ first < second ∧
    ∃ argument path other otherPath, analysis.PassesAt args first argument path ∧
      analysis.PassesAt args second other otherPath ∧ path.Overlaps otherPath
  findings : List.Forall₂ (fun pair finding =>
    ∃ argument path other otherPath, analysis.PassesAt args pair.1 argument path ∧
      analysis.PassesAt args pair.2 other otherPath ∧
      finding = .aliasedArguments (analysis.locate site.span) callee.signature path.render
        otherPath.render (analysis.locate other.span)) pairs findings

theorem mayShare_iff {argument other : Expr Site} :
    analysis.mayShare argument other = true ↔ ∃ path otherPath,
      analysis.trace argument none = .ok path ∧ analysis.trace other none = .ok otherPath ∧
      path.Overlaps otherPath := by
  rw [mayShare, Bool.or_eq_true]
  cases hargument : analysis.trace argument none with
  | error failure =>
      obtain ⟨hleft, hright⟩ := Path.canAlias_unrepresentable (analysis.path other none)
      simp [path_of_failure hargument, hleft, hright]
  | ok path =>
      cases hother : analysis.trace other none with
      | error failure =>
          obtain ⟨hleft, hright⟩ := Path.canAlias_unrepresentable path
          simp [path_of_trace hargument, path_of_failure hother, hleft, hright]
      | ok otherPath =>
          rw [path_of_trace hargument, path_of_trace hother, Path.canAlias_either_iff]
          simp

/-- The arguments by reference that may share storage, two by two and with their positions. -/
def sharedPairs (args : List (PassMode × Expr Site)) :
    List ((Expr Site × Nat) × (Expr Site × Nat)) :=
  (orderedPairs (numberedRefs args)).filter fun pair => analysis.mayShare pair.1.1 pair.2.1

theorem mem_sharedPairs_iff {args : List (PassMode × Expr Site)} {argument other : Expr Site}
    {first second : Nat} :
    ((argument, first), (other, second)) ∈ analysis.sharedPairs args ↔ first < second ∧
      ∃ path otherPath, analysis.PassesAt args first argument path ∧
        analysis.PassesAt args second other otherPath ∧ path.Overlaps otherPath := by
  rw [sharedPairs, List.mem_filter, mem_orderedPairs_iff, pair_sublist_numberedRefs_iff,
    analysis.mayShare_iff]
  constructor
  · rintro ⟨⟨hlt, hfirst, hsecond⟩, path, otherPath, hpath, hother, hoverlaps⟩
    exact ⟨hlt, path, otherPath, ⟨hfirst, hpath⟩, ⟨hsecond, hother⟩, hoverlaps⟩
  · rintro ⟨hlt, path, otherPath, ⟨hfirst, hpath⟩, ⟨hsecond, hother⟩, hoverlaps⟩
    exact ⟨⟨hlt, hfirst, hsecond⟩, path, otherPath, hpath, hother, hoverlaps⟩

section Call

variable {analysis} {site : Site} {id : MethodId} {args : List (PassMode × Expr Site)}
  {ty : TypeId} {callee : Method Site} (hcallee : analysis.program.methods[id]? = some callee)
include hcallee

theorem filter_checkCall :
    (analysis.checkCall (.call site id args ty)).filter Rule.aliasedDynamicArguments.selects =
      (analysis.sharedPairs args).map fun pair =>
        analysis.finding (.sharing (.call site id args ty) pair.1.1 pair.2.1) := by
  have hproblems := analysis.checkNode_eq (.expr (.call site id args ty))
  simp only [checkNode, nodeProblems, hcallee] at hproblems
  have hselects : Rule.aliasedDynamicArguments.selects ∘ analysis.finding =
      fun problem => decide (problem.rule = .aliasedDynamicArguments) := by
    funext problem
    exact analysis.selects_finding _ problem
  rw [hproblems, List.filter_map, hselects, filter_callProblems, callProblemsOf, sharingProblems,
    refArguments_eq_numbered, orderedPairs_map, List.filter_map, List.map_map, List.map_map]
  rfl

theorem finding_sharing {argument other : Expr Site} {path otherPath : Path}
    (hpath : analysis.trace argument none = .ok path)
    (hother : analysis.trace other none = .ok otherPath) :
    analysis.finding (.sharing (.call site id args ty) argument other) =
      .aliasedArguments (analysis.locate site.span) callee.signature path.render
        otherPath.render (analysis.locate other.span) := by
  rw [finding, calleeSignature, hcallee, path_of_trace hpath, path_of_trace hother]
  rfl

theorem reportsSharing_checkCall :
    analysis.ReportsSharing site callee args
      ((analysis.sharedPairs args).map fun pair => (pair.1.2, pair.2.2))
      ((analysis.checkCall (.call site id args ty)).filter
        Rule.aliasedDynamicArguments.selects) where
  ordered := by
    have hordered := orderedPairs_pairwise (numberedRefs_pairwise args)
    exact List.pairwise_map.mpr (hordered.filter _)
  mem_iff := by
    intro first second
    rw [List.mem_map]
    constructor
    · rintro ⟨⟨⟨argument, _⟩, other, _⟩, hpair, heq⟩
      cases heq
      obtain ⟨hlt, path, otherPath, hpath⟩ := analysis.mem_sharedPairs_iff.mp hpair
      exact ⟨hlt, argument, path, other, otherPath, hpath⟩
    · rintro ⟨hlt, argument, path, other, otherPath, hpath⟩
      exact ⟨((argument, first), (other, second)),
        analysis.mem_sharedPairs_iff.mpr ⟨hlt, path, otherPath, hpath⟩, rfl⟩
  findings := by
    rw [filter_checkCall hcallee, List.forall₂_map_left_iff, List.forall₂_map_right_iff,
      List.forall₂_same]
    rintro ⟨⟨argument, first⟩, other, second⟩ hpair
    obtain ⟨_, path, otherPath, hpath, hother, _⟩ := analysis.mem_sharedPairs_iff.mp hpair
    exact ⟨argument, path, other, otherPath, hpath, hother,
      finding_sharing hcallee hpath.2 hother.2⟩

end Call

end Analysis

/-- Two paths may alias, asked in one direction or the other, exactly if they overlap; what can be
invalidated through a path may alias it; and a call of a lowered body reports the pairs of its
arguments by reference that overlap, each once and in the order of their positions. -/
theorem sharing_decided_exactly :
    (∀ left right : Path,
      left.canAlias right = true ∨ right.canAlias left = true ↔ left.Overlaps right) ∧
    (∀ mutator victim : Path,
      mutator.canInvalidate victim = true → mutator.canAlias victim = true) ∧
    ∀ (document : Document.Program) (analysis : Analysis) (site : Site) (id : MethodId)
      (args : List (PassMode × Expr Site)) (ty : TypeId),
      document.lower = .ok analysis.program → analysis.body ∈ analysis.program.bodies →
      .call site id args ty ∈ analysis.body.exprs →
        ∃ callee pairs, analysis.program.methods[id]? = some callee ∧
          analysis.ReportsSharing site callee args pairs
            ((analysis.checkCall (.call site id args ty)).filter
              Rule.aliasedDynamicArguments.selects) := by
  refine ⟨Path.canAlias_either_iff, fun _ _ => Path.canAlias_of_canInvalidate, ?_⟩
  intro document analysis site id args ty hlower hbody hcall
  obtain ⟨method, hmethod, hmethodBody⟩ := List.mem_filterMap.mp hbody
  obtain ⟨number, hnumber⟩ := List.mem_iff_getElem?.mp hmethod
  obtain ⟨_, _, hgrounded⟩ := Document.Program.grounded_of_lower hlower hnumber hmethodBody
  obtain ⟨callee, hcallee⟩ := Analysis.exists_callee hgrounded hcall
  exact ⟨callee, _, hcallee, Analysis.reportsSharing_checkCall hcallee⟩

/-- An element of a list, a literal, another list and the list itself are passed to one call. -/
def elementDocument : Document.Program where
  file := 0
  types := [⟨"List", true⟩, ⟨"Item", false⟩]
  methods :=
    [{ name := "Get", signature := none, params := [⟨"list", some "List", true⟩]
       kind := .elementAccessor, path := none, returnsRef := true, locals := [], body := none },
     { name := "Move", signature := none, params := [], kind := .plain, path := none
       returnsRef := false, locals := [], body := none },
     { name := "run", signature := none, params := [], kind := .plain, path := none
       returnsRef := false
       locals := [⟨"list", some "List", .value⟩, ⟨"other", some "List", .value⟩]
       body := some
        [.eval (.call "Move"
          [(.ref, .call "Get" [(.ref, .ident "list")] (some "Item")), (.ref, .literal),
           (.ref, .ident "other"), (.ref, .ident "list")] none)] }]

/-- The last expression of the body is a call that has one finding about shared storage and passes
an element of a list first and the list itself in the fourth place. -/
def passesElementAndList (analysis : Analysis) : Bool :=
  match analysis.body.exprs.getLast? with
  | some (.call site id args ty) =>
      ((analysis.checkCall (.call site id args ty)).filter
        Rule.aliasedDynamicArguments.selects).length == 1 &&
      args[0]?.any (fun arg => arg.1 == .ref &&
        analysis.trace arg.2 none = .ok (.ofSegments [.name "list", .index] 1 false)) &&
      args[3]?.any (fun arg => arg.1 == .ref &&
        analysis.trace arg.2 none = .ok (.ofSegments [.name "list"] 1 false))
  | _ => false

/-- Only the element and the list it comes from overlap. -/
theorem sharing_decided_exactly_element : ∃ (analysis : Analysis) (site : Site) (id : MethodId)
    (args : List (PassMode × Expr Site)) (ty : TypeId) (callee : Method Site),
    elementDocument.lower = .ok analysis.program ∧ analysis.body ∈ analysis.program.bodies ∧
      .call site id args ty ∈ analysis.body.exprs ∧
      analysis.program.methods[id]? = some callee ∧
      analysis.ReportsSharing site callee args [(0, 3)]
        ((analysis.checkCall (.call site id args ty)).filter
          Rule.aliasedDynamicArguments.selects) := by
  have hany : elementDocument.anyBody (fun program body =>
      passesElementAndList ⟨program, body, .ofProgram program, defaultMaxSteps⟩) = true := by
    decide +kernel
  obtain ⟨program, body, hlower, hbody, htest⟩ := Document.Program.exists_of_anyBody hany
  unfold passesElementAndList at htest
  split at htest
  · rename_i site id args ty hlast
    simp only [Bool.and_eq_true, decide_eq_true_eq, Option.any_eq_true, beq_iff_eq] at htest
    obtain ⟨⟨hlength, ⟨_, argument⟩, hargument, rfl, hpath⟩, ⟨_, other⟩, hother, rfl, hotherPath⟩ :=
      htest
    have hcall := List.mem_of_getLast? hlast
    obtain ⟨hoverlaps, _, hcalls⟩ := sharing_decided_exactly
    obtain ⟨callee, pairs, hcallee, hreports⟩ := hcalls elementDocument
      ⟨program, body, .ofProgram program, defaultMaxSteps⟩ site id args ty hlower hbody hcall
    have hmem : (0, 3) ∈ pairs := (hreports.mem_iff 0 3).mpr ⟨by decide, argument, _, other, _,
      ⟨hargument, hpath⟩, ⟨hother, hotherPath⟩, (hoverlaps _ _).mp (.inr (by decide))⟩
    obtain ⟨pair, rfl⟩ := List.length_eq_one_iff.mp (hreports.findings.length_eq.trans hlength)
    cases List.mem_singleton.mp hmem
    exact ⟨_, site, id, args, ty, callee, hlower, hbody, hcall, hcallee, hreports⟩
  · cases htest

end RefStability
