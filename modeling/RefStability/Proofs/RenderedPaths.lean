import RefStability.Proofs.TemplateGrammar

/-!
# Reading rendered paths

A rendered path can be read from left to right in one way only. A name goes as far as there are
characters of identifiers, and what comes after a segment is a mark, a dot, an element or the end,
so that nothing is taken for a part of the segment before it. A reader that takes one segment after
the other gives back the segments and the boundary, and finds no path in the text of what cannot be
traced.
-/

namespace RefStability

/-- The name of the segment, if it has one, is an identifier. -/
def Segment.isWellNamed : Segment → Bool
  | .name text => Text.isIdentifier text
  | .index => true
  | .call text => Text.isIdentifier text

def Path.isWellNamed (path : Path) : Bool := path.segments.all Segment.isWellNamed

/-! ### The reader -/

namespace Segment

/-- A name is that of a call if `()` comes after it. -/
def ofName (text : String) : List Char → Segment × List Char
  | '(' :: ')' :: rest => (.call text, rest)
  | rest => (.name text, rest)

/-- Reads a name as far as it goes. -/
def readNamed? (chars : List Char) : Option (Segment × List Char) :=
  let text := String.ofList (chars.takeWhile Text.isIdentifierRest)
  if Text.isIdentifier text then some (ofName text (chars.dropWhile Text.isIdentifierRest))
  else none

/-- Reads a segment, and gives what comes after it. -/
def read? : List Char → Option (Segment × List Char)
  | '[' :: ']' :: rest => some (.index, rest)
  | '.' :: rest => readNamed? rest
  | chars => readNamed? chars

/-- Whether the segment just read ends the boundary, and what comes after that. -/
def readMark : List Char → Bool × List Char
  | '!' :: rest => (true, rest)
  | rest => (false, rest)

theorem length_ofName_le (text : String) (chars : List Char) :
    (ofName text chars).2.length ≤ chars.length := by
  unfold ofName
  split
  · exact Nat.le_add_right _ 2
  · exact Nat.le_refl _

theorem length_readMark_le (chars : List Char) : (readMark chars).2.length ≤ chars.length := by
  unfold readMark
  split
  · exact Nat.le_succ _
  · exact Nat.le_refl _

theorem length_lt_of_readNamed? {chars rest : List Char} {segment : Segment}
    (hread : readNamed? chars = some (segment, rest)) : rest.length < chars.length := by
  unfold readNamed? at hread
  rw [Option.ite_none_right_eq_some, Option.some.injEq] at hread
  obtain ⟨hidentifier, hread⟩ := hread
  have hname : chars.takeWhile Text.isIdentifierRest ≠ [] := by
    intro hempty
    rw [hempty] at hidentifier
    cases hidentifier
  have hafter := length_ofName_le (String.ofList (chars.takeWhile Text.isIdentifierRest))
    (chars.dropWhile Text.isIdentifierRest)
  rw [hread] at hafter
  calc rest.length ≤ (chars.dropWhile Text.isIdentifierRest).length := hafter
    _ < (chars.takeWhile Text.isIdentifierRest).length +
          (chars.dropWhile Text.isIdentifierRest).length :=
        Nat.lt_add_of_pos_left (List.length_pos_iff.mpr hname)
    _ = chars.length := by rw [← List.length_append, List.takeWhile_append_dropWhile]

theorem length_lt_of_read? {chars rest : List Char} {segment : Segment}
    (hread : read? chars = some (segment, rest)) : rest.length < chars.length := by
  unfold read? at hread
  split at hread
  · cases hread
    exact Nat.lt_add_of_pos_right Nat.two_pos
  · exact Nat.lt_succ_of_lt (length_lt_of_readNamed? hread)
  · exact length_lt_of_readNamed? hread

end Segment

namespace Path

/-- Reads the segments that start at `position`, and where among them the boundary ends. -/
def readFrom (position : Nat) (chars : List Char) : Option (List Segment × Nat) :=
  match hread : Segment.read? chars with
  | none => if chars.isEmpty then some ([], 0) else none
  | some (segment, rest) =>
    (readFrom (position + 1) (Segment.readMark rest).2).map fun later =>
      (segment :: later.1, if (Segment.readMark rest).1 then position + 1 else later.2)
termination_by chars.length
decreasing_by
  exact Nat.lt_of_le_of_lt (Segment.length_readMark_le rest) (Segment.length_lt_of_read? hread)

/-- The segments and the boundary of the path with the given text. -/
def read (text : String) : List Segment × Nat := (readFrom 0 text.toList).getD ([], 0)

section Equations

variable {position : Nat} {chars rest : List Char} {segment : Segment}

theorem readFrom_of_none (hread : Segment.read? chars = none) :
    readFrom position chars = if chars.isEmpty then some ([], 0) else none := by
  rw [readFrom]
  split
  · rfl
  · rename_i hsome
    rw [hread] at hsome
    cases hsome

theorem readFrom_of_some (hread : Segment.read? chars = some (segment, rest)) :
    readFrom position chars =
      (readFrom (position + 1) (Segment.readMark rest).2).map fun later =>
        (segment :: later.1, if (Segment.readMark rest).1 then position + 1 else later.2) := by
  rw [readFrom]
  split
  · rename_i hnone
    rw [hread] at hnone
    cases hnone
  · rename_i hsome
    rw [hread] at hsome
    cases hsome
    rfl

end Equations

end Path

/-! ### Reading a segment back -/

namespace Segment

/-- A text that cannot be taken for more of the segment before it. -/
def Parted (chars : List Char) : Prop :=
  ∀ c ∈ chars.head?, Text.isIdentifierRest c = false ∧ c ≠ '('

variable {segment : Segment} {rest : List Char}

theorem readNamed?_append {text : String} (hidentifier : Text.isIdentifier text = true)
    (hrest : ∀ c ∈ rest.head?, Text.isIdentifierRest c = false) :
    readNamed? (text.toList ++ rest) = some (ofName text rest) := by
  have hname := fun c => @Text.isIdentifierRest_of_mem text hidentifier c
  have hstop : rest.takeWhile Text.isIdentifierRest = [] ∧
      rest.dropWhile Text.isIdentifierRest = rest := by
    cases rest with
    | nil => exact ⟨rfl, rfl⟩
    | cons c rest => simp [hrest c rfl]
  rw [readNamed?, List.takeWhile_append_of_pos hname, List.dropWhile_append_of_pos hname, hstop.1,
    hstop.2, List.append_nil, String.ofList_toList, if_pos hidentifier]

theorem ofName_of_parted (text : String) (hrest : Parted rest) :
    ofName text rest = (.name text, rest) := by
  unfold ofName
  split
  · exact absurd rfl (hrest '(' rfl).2
  · rfl

theorem readNamed?_render (hwell : segment.isWellNamed = true) (hnamed : segment ≠ .index)
    (hrest : Parted rest) :
    readNamed? ((segment.render true).toList ++ rest) = some (segment, rest) := by
  cases segment with
  | index => exact absurd rfl hnamed
  | name text =>
      rw [render, if_pos rfl, readNamed?_append hwell fun c hc => (hrest c hc).1,
        ofName_of_parted text hrest]
  | call text =>
      have hopening : ∀ c ∈ ('(' :: ')' :: rest).head?, Text.isIdentifierRest c = false := by
        rintro c ⟨⟩
        decide +kernel
      rw [render, if_pos rfl, String.toList_append, List.append_assoc]
      exact readNamed?_append hwell hopening

theorem readNamed?_of_separator {c : Char} (hc : Text.isIdentifierRest c = false) :
    readNamed? (c :: rest) = none := by
  rw [readNamed?, List.takeWhile_cons_of_neg (Bool.eq_false_iff.mp hc)]
  rfl

theorem read?_of_readNamed? {chars : List Char} (hread : readNamed? chars = some (segment, rest)) :
    read? chars = some (segment, rest) := by
  unfold read?
  split
  -- A name starts neither with a bracket nor with a dot.
  · rw [readNamed?_of_separator (by decide +kernel)] at hread
    cases hread
  · rw [readNamed?_of_separator (by decide +kernel)] at hread
    cases hread
  · exact hread

theorem render_false (hnamed : segment ≠ .index) :
    segment.render false = "." ++ segment.render true := by
  cases segment with
  | index => exact absurd rfl hnamed
  | name text => rfl
  | call text => exact String.append_assoc

/-- A segment is read off the front of whatever comes after it. -/
theorem read?_render (hwell : segment.isWellNamed = true) (hrest : Parted rest) (isRoot : Bool) :
    read? ((segment.render isRoot).toList ++ rest) = some (segment, rest) := by
  by_cases hnamed : segment = .index
  · rw [hnamed, render]
    rfl
  · have hread := readNamed?_render hwell hnamed hrest
    cases isRoot with
    | true => exact read?_of_readNamed? hread
    | false =>
        rw [render_false hnamed, String.toList_append]
        exact hread

end Segment

namespace Path

/-! ### Reading a path back -/

/-- A text that is empty or begins with a segment that is not the root. -/
def Opens (chars : List Char) : Prop := ∀ c ∈ chars.head?, c = '.' ∨ c = '['

theorem opens_renderFrom (boundary position : Nat) (segments : List Segment) :
    Opens (renderFrom boundary (position + 1) segments).toList := by
  intro c hc
  cases segments with
  | nil => cases hc
  | cons segment segments =>
      have hroot : (position + 1 == 0) = false := rfl
      rw [renderFrom, hroot, String.toList_append, String.toList_append] at hc
      by_cases hnamed : segment = .index
      · rw [hnamed, Segment.render] at hc
        exact .inr (Option.some.inj hc).symm
      · rw [Segment.render_false hnamed, String.toList_append] at hc
        exact .inl (Option.some.inj hc).symm

section Mark

variable {rest : List Char} (hrest : Opens rest) (isMarked : Prop) [Decidable isMarked]
include hrest

theorem parted_mark : Segment.Parted ((if isMarked then "!" else "").toList ++ rest) := by
  intro c hc
  split at hc
  · cases hc
    decide +kernel
  · rcases hrest c hc with rfl | rfl <;> decide +kernel

theorem readMark_mark :
    Segment.readMark ((if isMarked then "!" else "").toList ++ rest) =
      (decide isMarked, rest) := by
  split
  · rename_i hmarked
    rw [decide_eq_true hmarked]
    rfl
  · rename_i hunmarked
    rw [decide_eq_false hunmarked]
    change Segment.readMark rest = _
    unfold Segment.readMark
    split
    · exact absurd (hrest '!' rfl) (by decide)
    · rfl

end Mark

/-- The boundary, if it ends with one of `count` segments that start at `position`. -/
def boundaryWithin (boundary position count : Nat) : Nat :=
  if position < boundary ∧ boundary ≤ position + count then boundary else 0

theorem boundaryWithin_zero (boundary position : Nat) : boundaryWithin boundary position 0 = 0 := by
  rw [boundaryWithin, if_neg (by omega)]

theorem boundaryWithin_succ (boundary position count : Nat) :
    boundaryWithin boundary position (count + 1) =
      if position + 1 = boundary then position + 1
      else boundaryWithin boundary (position + 1) count := by
  unfold boundaryWithin
  split_ifs <;> omega

theorem boundaryWithin_of_le {boundary count : Nat} (hle : boundary ≤ count) :
    boundaryWithin boundary 0 count = boundary := by
  unfold boundaryWithin
  split <;> omega

theorem readFrom_renderFrom {segments : List Segment}
    (hwell : ∀ segment ∈ segments, segment.isWellNamed = true) (boundary position : Nat) :
    readFrom position (renderFrom boundary position segments).toList =
      some (segments, boundaryWithin boundary position segments.length) := by
  induction segments generalizing position with
  | nil =>
      rw [renderFrom, readFrom_of_none rfl, List.length_nil, boundaryWithin_zero]
      rfl
  | cons segment segments ih =>
      rw [List.forall_mem_cons] at hwell
      obtain ⟨hsegment, hwell⟩ := hwell
      -- Neither the mark nor the next segment can be taken for more of this one.
      have hrest := opens_renderFrom boundary position segments
      have hread := Segment.read?_render hsegment (parted_mark hrest (position + 1 = boundary))
        (position == 0)
      rw [renderFrom, String.toList_append, String.toList_append, List.append_assoc,
        readFrom_of_some hread, readMark_mark hrest, ih hwell, Option.map_some, List.length_cons,
        boundaryWithin_succ]
      simp only [decide_eq_true_eq]

/-- The text of a path gives back its segments and its boundary. -/
theorem read_render {path : Path} (hwell : path.isWellNamed = true) :
    read path.render = (path.segments, path.boundary) := by
  rw [read, render]
  cases hempty : path.isEmpty with
  | true =>
      have hsegments : path.segments = [] := List.isEmpty_iff.mp hempty
      have hboundary := path.boundary_le
      -- No segment starts with an angle bracket.
      have hunread : Segment.read? "<unrepresentable>".toList = none := by decide +kernel
      rw [if_pos rfl, readFrom_of_none hunread, if_neg (by decide), Option.getD_none]
      rw [hsegments, List.length_nil] at hboundary
      rw [hsegments, Nat.le_zero.mp hboundary]
  | false =>
      rw [if_neg Bool.false_ne_true, readFrom_renderFrom (List.all_eq_true.mp hwell),
        Option.getD_some, boundaryWithin_of_le path.boundary_le]

theorem render_eq_iff {left right : Path} (hleft : left.isWellNamed = true)
    (hright : right.isWellNamed = true) :
    left.render = right.render ↔
      left.segments = right.segments ∧ left.boundary = right.boundary := by
  constructor
  · intro htext
    apply Prod.mk.inj
    calc (left.segments, left.boundary) = read left.render := (read_render hleft).symm
      _ = read right.render := congrArg read htext
      _ = (right.segments, right.boundary) := read_render hright
  · rintro ⟨hsegments, hboundary⟩
    rw [render, render, isEmpty, isEmpty, hsegments, hboundary]

end Path

/-! ### Symbols -/

/-- The segment of symbols that stands for a segment, if its name has a number. -/
def Segment.find? (symbols : SymbolTable) : Segment → Option SymbolSegment
  | .name text => (symbols.find? text).map .name
  | .index => some .index
  | .call text => (symbols.find? text).map .call

theorem SymbolSegment.find?_of_text? {symbols : SymbolTable} {segment : SymbolSegment}
    {text : Segment} (htext : segment.text? symbols = some text) :
    text.find? symbols = some segment := by
  cases segment with
  | index =>
      cases htext
      rfl
  | name symbol | call symbol =>
      obtain ⟨name, hname, rfl⟩ := Option.map_eq_some_iff.mp htext
      rw [Segment.find?, SymbolTable.find?_eq_some_iff.mpr hname, Option.map_some]

/-- In one table, symbols and texts determine each other. -/
theorem SymbolSegment.biUnique_text? (symbols : SymbolTable) :
    Relator.BiUnique fun segment text => SymbolSegment.text? symbols segment = some text := by
  constructor
  · intro segment other text hsegment hother
    exact Option.some.inj ((find?_of_text? hsegment).symm.trans (find?_of_text? hother))
  · intro segment text other htext hother
    exact Option.some.inj (htext.symm.trans hother)

theorem SymbolTemplate.SegmentsRead.eq_iff {symbols : SymbolTable}
    {numbers others : List SymbolSegment} {segments texts : List Segment}
    (hnumbers : SegmentsRead symbols numbers segments)
    (hothers : SegmentsRead symbols others texts) :
    numbers = others ↔ segments = texts := by
  obtain ⟨hleft, hright⟩ := (SymbolSegment.biUnique_text? symbols).forall₂
  constructor
  · rintro rfl
    exact hright hnumbers hothers
  · rintro rfl
    exact hleft hnumbers hothers

/-- Two paths with identifiers as names have the same text if and only if they have the same
segments and the same boundary. The explicit segments are then as many, and in one table of symbols
the names have the same numbers. -/
theorem rendering_unambiguous {left right : Path} (hleft : left.isWellNamed = true)
    (hright : right.isWellNamed = true) :
    (left.render = right.render ↔
        left.segments = right.segments ∧ left.boundary = right.boundary) ∧
      (left.render = right.render → left.explicitLength = right.explicitLength) ∧
      ∀ (symbols : SymbolTable) (numbers others : List SymbolSegment),
        SymbolTemplate.SegmentsRead symbols numbers left.segments →
        SymbolTemplate.SegmentsRead symbols others right.segments →
        (left.render = right.render ↔ numbers = others ∧ left.boundary = right.boundary) := by
  have htext := Path.render_eq_iff hleft hright
  refine ⟨htext, ?_, ?_⟩
  · intro hsame
    rw [Path.explicitLength, Path.explicitLength, Path.explicit, Path.explicit,
      (htext.mp hsame).1]
  · intro symbols numbers others hnumbers hothers
    rw [htext, hnumbers.eq_iff hothers]

/-- A call and a field of the same name are told apart, and both from what cannot be traced; whether
the root is the handle of a scope does not show. -/
theorem rendering_unambiguous_view :
    ∃ view held field : Path,
      view.isWellNamed = true ∧ held.isWellNamed = true ∧ field.isWellNamed = true ∧
      view.segments = [.name "list", .call "get", .index] ∧
      field.segments = [.name "list", .name "get", .index] ∧
      view.isScoped = false ∧ held.isScoped = true ∧
      view.render = "list!.get()[]" ∧ held.render = view.render ∧
      held.segments = view.segments ∧ held.boundary = view.boundary ∧
      held.explicitLength = view.explicitLength ∧ field.boundary = view.boundary ∧
      field.render ≠ view.render ∧ Path.unrepresentable.render ≠ view.render := by
  have hview :
      (Path.ofSegments [.name "list", .call "get", .index] 1 false).isWellNamed = true := by
    decide +kernel
  have hheld : (Path.ofSegments [.name "list", .call "get", .index] 1 true).isWellNamed = true :=
    hview
  have hfield :
      (Path.ofSegments [.name "list", .name "get", .index] 1 false).isWellNamed = true := by
    decide +kernel
  have htext : (Path.ofSegments [.name "list", .call "get", .index] 1 true).render =
      (Path.ofSegments [.name "list", .call "get", .index] 1 false).render := rfl
  obtain ⟨hsame, hexplicit, _⟩ := rendering_unambiguous hheld hview
  obtain ⟨_, _, hsymbols⟩ := rendering_unambiguous hfield hview
  obtain ⟨hapart, _⟩ := @rendering_unambiguous .unrepresentable _ rfl hview
  have hnumbers := hsymbols readerSymbols [.name 1, .name 0, .index] [.name 1, .call 0, .index]
    (.cons rfl (.cons rfl (.cons rfl .nil))) (.cons rfl (.cons rfl (.cons rfl .nil)))
  refine ⟨_, _, _, hview, hheld, hfield, rfl, rfl, rfl, rfl, by decide, htext,
    (hsame.mp htext).1, (hsame.mp htext).2, hexplicit htext, rfl, ?_, ?_⟩
  · intro heq
    cases (hnumbers.mp heq).1
  · intro heq
    cases (hapart.mp heq).1

-- With a dot in a name the text no longer shows where the name ends.
example : (Path.ofSegments [.name "a.b"] 0 false).render =
    (Path.ofSegments [.name "a", .name "b"] 0 false).render := by
  decide

end RefStability
