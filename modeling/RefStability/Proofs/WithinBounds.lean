import RefStability.Path.Relation
import RefStability.Proofs.RejectedTemplate

/-!
# Slices, differences and entries

What is computed on paths and templates is computed here once more with slices and differences that
do not exist for bounds that do not fit, and with entries that may be missing. The boundary of a
template does not lie past its last segment, and a table has a place for each method, so that the
results are the same.
-/

namespace RefStability

/-- The difference of two numbers, if there is one. -/
def subtract? (whole part : Nat) : Option Nat :=
  if part ≤ whole then some (whole - part) else none

/-- The items from `start` up to `stop`, if the two are bounds of a slice. -/
def slice? {α : Type} (items : List α) (start stop : Nat) : Option (List α) :=
  if start ≤ stop ∧ stop ≤ items.length then some ((items.take stop).drop start) else none

theorem subtract?_of_le {whole part : Nat} (hle : part ≤ whole) :
    subtract? whole part = some (whole - part) :=
  if_pos hle

theorem slice?_of_le {α : Type} {items : List α} {start stop : Nat} (hstart : start ≤ stop)
    (hstop : stop ≤ items.length) : slice? items start stop = some ((items.take stop).drop start) :=
  if_pos ⟨hstart, hstop⟩

/-! ### Relations of paths -/

def PathRelation.ofLengths (left right : Nat) : PathRelation :=
  if left < right then .parent else if right < left then .child else .same

/-- Lists are compared over the length of the shorter one, and then by their lengths. -/
theorem PathRelation.ofLengths_eq (left right : List Segment) :
    (if left.take (min left.length right.length) = right.take (min left.length right.length) then
        ofLengths left.length right.length
      else .sibling) =
      if left = right then .same
      else if left.isPrefixOf right then .parent
      else if right.isPrefixOf left then .child
      else .sibling := by
  simp only [List.isPrefixOf_iff_prefix, List.prefix_iff_eq_take]
  rcases Nat.lt_trichotomy left.length right.length with hlt | heq | hgt
  · have hne : left ≠ right := fun heq => Nat.ne_of_lt hlt (congrArg _ heq)
    have hnot : right ≠ left.take right.length := by
      intro heq
      have hlength := congrArg List.length heq
      rw [List.length_take] at hlength
      omega
    rw [Nat.min_eq_left (Nat.le_of_lt hlt), List.take_length, if_neg hne, if_neg hnot, ofLengths,
      if_pos hlt]
  · rw [heq, Nat.min_self, ← heq, List.take_length, heq, List.take_length, ofLengths,
      if_neg (Nat.lt_irrefl _), if_neg (Nat.lt_irrefl _)]
    by_cases hsame : left = right
    · rw [if_pos hsame, if_pos hsame]
    · rw [if_neg hsame, if_neg hsame, if_neg hsame, if_neg (Ne.symm hsame)]
  · have hne : left ≠ right := fun heq => Nat.ne_of_gt hgt (congrArg _ heq)
    have hnot : left ≠ right.take left.length := by
      intro heq
      have hlength := congrArg List.length heq
      rw [List.length_take] at hlength
      omega
    rw [Nat.min_eq_right (Nat.le_of_lt hgt), List.take_length, if_neg hne, if_neg hnot, ofLengths,
      if_neg (Nat.lt_asymm hgt), if_pos hgt]
    exact if_congr eq_comm rfl rfl

namespace Path

def relation? (left right : Path) : Option PathRelation :=
  match left.root?, right.root? with
  | some leftRoot, some rightRoot =>
    if leftRoot ≠ rightRoot then some .unrelated
    else do
      let shared := min left.explicitLength right.explicitLength
      let leftPart ← slice? left.segments 0 shared
      let rightPart ← slice? right.segments 0 shared
      return if leftPart = rightPart then .ofLengths left.explicitLength right.explicitLength
        else .sibling
  | _, _ => some .unrelated

def resizableAccessSince? (path : Path) (start : Nat) : Option Bool :=
  let stop := min (path.boundary + 1) path.length
  if stop ≤ start then some false
  else (slice? path.segments start stop).map (·.any Segment.isIndirection)

def canInvalidate? (mutator victim : Path) : Option Bool :=
  if mutator.isAnchor then do
    match ← mutator.relation? victim with
    | .parent => victim.resizableAccessSince? mutator.explicitLength
    | .same => victim.resizableAccessSince? mutator.explicitLength
    | _ => return false
  else some false

def canAlias? (left right : Path) : Option Bool :=
  if left.isAnchor || right.isAnchor then do
    match ← left.relation? right with
    | .parent =>
      if right.isAnchor then return true
      else right.resizableAccessSince? left.explicitLength
    | .same => return left.explicitLength ≤ left.boundary || right.explicitLength ≤ right.boundary
    | .child => return left.isAnchor
    | _ => return false
  else some false

theorem slice?_explicit (path : Path) {stop : Nat} (hstop : stop ≤ path.explicitLength) :
    slice? path.segments 0 stop = some (path.explicit.take stop) := by
  have hlength : stop ≤ path.segments.length := Nat.le_trans hstop path.explicitLength_le_length
  have hexplicit : path.explicit = path.segments.take path.explicitLength :=
    List.prefix_iff_eq_take.mp (List.takeWhile_prefix _)
  rw [slice?_of_le (Nat.zero_le _) hlength, List.drop_zero, hexplicit, List.take_take,
    Nat.min_eq_left hstop]

theorem relation?_eq (left right : Path) : left.relation? right = some (left.relation right) := by
  unfold relation? relation
  cases left.root? with
  | none => rfl
  | some leftRoot =>
      cases right.root? with
      | none => rfl
      | some rightRoot =>
          by_cases hroot : leftRoot = rightRoot
          · simp only [hroot, ne_eq, not_true_eq_false, if_false,
              left.slice?_explicit (Nat.min_le_left _ _),
              right.slice?_explicit (Nat.min_le_right _ _), Option.bind_eq_bind, Option.bind_some,
              Option.pure_def]
            exact congrArg some (PathRelation.ofLengths_eq left.explicit right.explicit)
          · simp only [ne_eq, hroot, not_false_eq_true, if_true]

theorem resizableAccessSince?_eq (path : Path) (start : Nat) :
    path.resizableAccessSince? start = some (path.resizableAccessSince start) := by
  have htake : path.segments.take (path.boundary + 1) =
      path.segments.take (min (path.boundary + 1) path.length) := by
    rw [← List.take_take, length, List.take_length]
  rw [resizableAccessSince?, resizableAccessSince, htake]
  by_cases hstart : min (path.boundary + 1) path.length ≤ start
  · rw [if_pos hstart, List.drop_eq_nil_of_le (Nat.le_trans (List.length_take_le _ _) hstart)]
    rfl
  · rw [if_neg hstart, slice?_of_le (Nat.le_of_not_le hstart) (Nat.min_le_right _ _),
      Option.map_some]

theorem canInvalidate?_eq (mutator victim : Path) :
    mutator.canInvalidate? victim = some (mutator.canInvalidate victim) := by
  rw [canInvalidate?, canInvalidate, relation?_eq, resizableAccessSince?_eq]
  cases mutator.isAnchor with
  | false => rfl
  | true => cases mutator.relation victim <;> rfl

theorem canAlias?_eq (left right : Path) : left.canAlias? right = some (left.canAlias right) := by
  rw [canAlias?, canAlias, relation?_eq, resizableAccessSince?_eq]
  cases left.isAnchor <;> cases right.isAnchor <;> cases left.relation right <;> rfl

end Path

/-! ### Templates -/

namespace Template

def fixedSuffix? (template : Template) : Option (Option Nat) :=
  template.boundary.mapM (subtract? template.segments.length)

theorem fixedSuffix?_eq (template : Template) :
    template.fixedSuffix? = some template.fixedSuffix := by
  unfold fixedSuffix? fixedSuffix
  cases hboundary : template.boundary with
  | none => rfl
  | some boundary =>
      rw [Option.mapM_some, subtract?_of_le (template.boundary_le boundary hboundary)]
      rfl

end Template

/-! ### Tables -/

variable {Label : Type}

theorem Program.exists_method_of_methodNamed? {program : Program Label} {text : String}
    {id : MethodId} (hnamed : program.methodNamed? text = some id) :
    ∃ method, program.methods[id]? = some method := by
  rcases Option.or_eq_some_iff.mp hnamed with hfound | ⟨_, hfound⟩ <;>
  · obtain ⟨hlt, _⟩ := List.findIdx?_eq_some_iff_getElem.mp hfound
    exact ⟨_, List.getElem?_eq_getElem hlt⟩

namespace TemplateTable

/-- Tables that come about from the templates of a program by declarations. -/
inductive Reachable (program : Program Label) : TemplateTable → Prop
  | ofProgram : Reachable program (.ofProgram program)
  | declare {table : TemplateTable} (signature : String) (tokens : List String)
      (htable : Reachable program table) :
      Reachable program (TemplateTable.declare program table signature tokens).2

/-- Sets a template and looks at the entry that holds it. -/
def declare? (program : Program Label) (table : TemplateTable) (signature : String)
    (tokens : List String) : Option (Except DeclareError MethodId × TemplateTable) :=
  match program.methodNamed? signature with
  | none => some (.error (.unknownMethod signature), table)
  | some id => do
    let method ← program.methods[id]?
    let changed : TemplateTable :=
      { entries := table.entries.set id (some (Template.parse method.params tokens)) }
    match ← changed.get? id with
    | .ok _ => return (.ok id, changed)
    | .error cause => return (.error (.invalid signature cause), changed)

namespace Reachable

variable {program : Program Label} {table : TemplateTable} (htable : table.Reachable program)
include htable

theorem length_entries : table.entries.length = program.methods.length := by
  induction htable with
  | ofProgram => exact List.length_map _
  | declare signature tokens _ ih => exact (length_declare _ signature tokens).trans ih

theorem declare?_eq (signature : String) (tokens : List String) :
    table.declare? program signature tokens =
      some (TemplateTable.declare program table signature tokens) := by
  unfold declare? TemplateTable.declare
  cases hnamed : program.methodNamed? signature with
  | none => rfl
  | some id =>
      obtain ⟨method, hmethod⟩ := Program.exists_method_of_methodNamed? hnamed
      have hentry : id < table.entries.length := by
        rw [htable.length_entries]
        exact (List.getElem?_eq_some_iff.mp hmethod).1
      simp only [hmethod, Option.bind_eq_bind, Option.bind_some, Option.elim_some, get?,
        List.getElem?_set_self hentry, Option.join_some]
      cases Template.parse method.params tokens <;> rfl

end Reachable

end TemplateTable

end RefStability
