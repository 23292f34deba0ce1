import RefStability.Program.Lower
import RefStability.Proofs.Parts

/-!
# The layout of a placed body

Placing a tree hands out positions and numbers in one pass. `Laid` says what the pass leaves behind:
a row of nodes stands between two cursors when each takes its first position, then its parts, then
its last position and its number. Spans that nest, numbers that follow the ends of spans and events
that follow each other all come from this one relation.
-/

namespace RefStability

variable {Label : Type}

namespace Cursor

def close (cursor : Cursor) (start : Nat) : Node Label → Site × Cursor
  | .stmt _ => cursor.closeStmt start
  | .expr _ => cursor.closeExpr start

@[simp]
theorem tick_position (cursor : Cursor) : cursor.tick.position = cursor.position + 1 := rfl

@[simp]
theorem tick_exprs (cursor : Cursor) : cursor.tick.exprs = cursor.exprs := rfl

@[simp]
theorem tick_stmts (cursor : Cursor) : cursor.tick.stmts = cursor.stmts := rfl

@[simp]
theorem close_position (cursor : Cursor) (start : Nat) (node : Node Label) :
    (cursor.close start node).2.position = cursor.position + 1 := by
  cases node <;> rfl

theorem close_exprs (cursor : Cursor) (start : Nat) (node : Node Label) :
    (cursor.close start node).2.exprs = cursor.exprs + node.expr?.toList.length := by
  cases node <;> rfl

theorem close_stmts (cursor : Cursor) (start : Nat) (node : Node Label) :
    (cursor.close start node).2.stmts = cursor.stmts + node.stmt?.toList.length := by
  cases node <;> rfl

theorem close_span (cursor : Cursor) (start : Nat) (node : Node Label) :
    (cursor.close start node).1.span = cursor.spanFrom start := by
  cases node <;> rfl

end Cursor

inductive Laid : Cursor → List (Node Site) → Cursor → Prop
  | nil (cursor : Cursor) : Laid cursor [] cursor
  | cons {cursor inner next : Cursor} {node : Node Site} {rest : List (Node Site)}
      (hparts : Laid cursor.tick node.parts inner)
      (hlabel : node.label = (inner.close cursor.position node).1)
      (hrest : Laid (inner.close cursor.position node).2 rest next) :
      Laid cursor (node :: rest) next

theorem Laid.append {cursor middle next : Cursor} {left right : List (Node Site)}
    (hleft : Laid cursor left middle) (hright : Laid middle right next) :
    Laid cursor (left ++ right) next := by
  induction hleft with
  | nil cursor => exact hright
  | cons hparts hlabel _ _ ih => exact .cons hparts hlabel (ih hright)

/-! ### Placing lays a tree out -/

mutual

theorem Expr.place_laid : (expr : Expr Label) → (cursor : Cursor) →
    Laid cursor [.expr (expr.place cursor).1] (expr.place cursor).2
  | .literal _, _ => .cons (.nil _) rfl (.nil _)
  | .localVar _ _, _ => .cons (.nil _) rfl (.nil _)
  | .param _ _, _ => .cons (.nil _) rfl (.nil _)
  | .staticField _ _ _, _ => .cons (.nil _) rfl (.nil _)
  | .field _ receiver _ _, cursor => .cons (receiver.place_laid cursor.tick) rfl (.nil _)
  | .index _ receiver operands _, cursor =>
    .cons ((receiver.place_laid cursor.tick).append (Expr.placeList_laid operands _)) rfl (.nil _)
  | .slice _ receiver operands _, cursor =>
    .cons ((receiver.place_laid cursor.tick).append (Expr.placeList_laid operands _)) rfl (.nil _)
  | .scopeValue _ scope _, cursor => .cons (scope.place_laid cursor.tick) rfl (.nil _)
  | .call _ _ args _, cursor => .cons (Expr.placeArgs_laid args cursor.tick) rfl (.nil _)
  | .computed _ operands _, cursor => .cons (Expr.placeList_laid operands cursor.tick) rfl (.nil _)

theorem Expr.placeList_laid : (exprs : List (Expr Label)) → (cursor : Cursor) →
    Laid cursor ((Expr.placeList exprs cursor).1.map .expr) (Expr.placeList exprs cursor).2
  | [], cursor => .nil cursor
  | expr :: rest, cursor => (expr.place_laid cursor).append (Expr.placeList_laid rest _)

theorem Expr.placeArgs_laid : (args : List (PassMode × Expr Label)) → (cursor : Cursor) →
    Laid cursor (((Expr.placeArgs args cursor).1.map Prod.snd).map .expr)
      (Expr.placeArgs args cursor).2
  | [], cursor => .nil cursor
  | (_, expr) :: rest, cursor => (expr.place_laid cursor).append (Expr.placeArgs_laid rest _)

end

theorem Expr.placeOptional_laid (expr : Option (Expr Label)) (cursor : Cursor) :
    Laid cursor ((Expr.placeOptional expr cursor).1.toList.map .expr)
      (Expr.placeOptional expr cursor).2 := by
  cases expr with
  | none => exact .nil cursor
  | some expr => exact expr.place_laid cursor

mutual

theorem Stmt.place_laid : (stmt : Stmt Label) → (cursor : Cursor) →
    Laid cursor [.stmt (stmt.place cursor).1] (stmt.place cursor).2
  | .declare _ _ init, cursor => .cons (Expr.placeOptional_laid init cursor.tick) rfl (.nil _)
  | .rebind _ _ value, cursor => .cons (value.place_laid cursor.tick) rfl (.nil _)
  | .assign _ target value, cursor =>
    .cons ((target.place_laid cursor.tick).append (value.place_laid _)) rfl (.nil _)
  | .eval _ value, cursor => .cons (value.place_laid cursor.tick) rfl (.nil _)
  | .ret _ value, cursor => .cons (Expr.placeOptional_laid value cursor.tick) rfl (.nil _)
  | .block _ stmts, cursor => .cons (Stmt.placeList_laid stmts cursor.tick) rfl (.nil _)
  | .ifThen _ condition thenBody, cursor =>
    .cons ((condition.place_laid cursor.tick).append (Stmt.placeBlock_laid thenBody _)) rfl (.nil _)
  | .ifElse _ condition thenBody elseBody, cursor =>
    .cons ((condition.place_laid cursor.tick).append
      ((Stmt.placeBlock_laid thenBody _).append (Stmt.placeBlock_laid elseBody _))) rfl (.nil _)
  | .loop _ condition body, cursor =>
    .cons ((condition.place_laid cursor.tick).append (Stmt.placeBlock_laid body _)) rfl (.nil _)
  | .forEach _ _ collection body, cursor =>
    .cons ((collection.place_laid cursor.tick).append (Stmt.placeBlock_laid body _)) rfl (.nil _)

theorem Stmt.placeBlock_laid : (block : Block Label (Stmt Label)) → (cursor : Cursor) →
    Laid cursor [.stmt (Stmt.placeBlock block cursor).1.toStmt] (Stmt.placeBlock block cursor).2
  | ⟨_, stmts⟩, cursor => .cons (Stmt.placeList_laid stmts cursor.tick) rfl (.nil _)

theorem Stmt.placeList_laid : (stmts : List (Stmt Label)) → (cursor : Cursor) →
    Laid cursor ((Stmt.placeList stmts cursor).1.map .stmt) (Stmt.placeList stmts cursor).2
  | [], cursor => .nil cursor
  | stmt :: rest, cursor => (stmt.place_laid cursor).append (Stmt.placeList_laid rest _)

end

/-! ### Spans nest and numbers follow their ends -/

/-- A span that is not empty and lies between two positions. -/
def Span.Between (span : Span) (first last : Nat) : Prop :=
  first ≤ span.start ∧ span.start < span.stop ∧ span.stop ≤ last

theorem Span.Between.widen {span : Span} {first last lower upper : Nat}
    (hspan : span.Between first last) (hlower : lower ≤ first) (hupper : last ≤ upper) :
    span.Between lower upper :=
  ⟨Nat.le_trans hlower hspan.1, hspan.2.1, Nat.le_trans hspan.2.2 hupper⟩

namespace Laid

variable {cursor inner next : Cursor} {node : Node Site} {row : List (Node Site)}

theorem position_le (hlaid : Laid cursor row next) : cursor.position ≤ next.position := by
  induction hlaid with
  | nil => exact Nat.le_refl _
  | cons _ _ _ ihparts ihrest =>
      rw [Cursor.tick_position] at ihparts
      rw [Cursor.close_position] at ihrest
      omega

theorem span_start (hlabel : node.label = (inner.close cursor.position node).1) :
    node.span.start = cursor.position := by
  rw [Node.span, hlabel, Cursor.close_span]
  rfl

theorem span_stop (hparts : Laid cursor.tick node.parts inner)
    (hlabel : node.label = (inner.close cursor.position node).1) :
    node.span.stop = inner.position + 1 := by
  have hle := hparts.position_le
  rw [Cursor.tick_position] at hle
  rw [Node.span, hlabel, Cursor.close_span]
  exact Span.ofBounds_stop _ _ (by omega)

theorem nodes_between (hlaid : Laid cursor row next) :
    ∀ node ∈ row.flatMap Node.nodes, node.span.Between cursor.position next.position := by
  induction hlaid with
  | nil => simp
  | @cons cursor inner next outer rest hparts hlabel hrest ihparts ihrest =>
      intro node hnode
      have hpartsLe := hparts.position_le
      have hrestLe := hrest.position_le
      rw [Cursor.tick_position] at hpartsLe
      rw [Cursor.close_position] at hrestLe
      rw [List.flatMap_cons, Node.nodes_eq, List.mem_append, List.mem_cons] at hnode
      rcases hnode with (rfl | hbelow) | hafter
      · rw [Span.Between, span_start hlabel, span_stop hparts hlabel]
        omega
      · refine (ihparts node hbelow).widen ?_ ?_
        · exact Nat.le_succ _
        · omega
      · refine (ihrest node hafter).widen ?_ (Nat.le_refl _)
        rw [Cursor.close_position]
        omega

/-- Every node in a laid row has its parts laid out between its own two ends. -/
theorem exists_laid_parts (hlaid : Laid cursor row next) :
    ∀ node ∈ row.flatMap Node.nodes, ∃ first last : Cursor,
      Laid first.tick node.parts last ∧ node.label = (last.close first.position node).1 := by
  induction hlaid with
  | nil => simp
  | @cons cursor inner next outer rest hparts hlabel hrest ihparts ihrest =>
      intro node hnode
      rw [List.flatMap_cons, Node.nodes_eq, List.mem_append, List.mem_cons] at hnode
      rcases hnode with (rfl | hbelow) | hafter
      · exact ⟨cursor, inner, hparts, hlabel⟩
      · exact ihparts node hbelow
      · exact ihrest node hafter

theorem part_between (hlaid : Laid cursor row next) :
    ∀ node ∈ row.flatMap Node.nodes, ∀ part ∈ node.parts,
      node.span.start < part.span.start ∧ part.span.stop < node.span.stop := by
  intro node hnode part hpart
  obtain ⟨first, last, hparts, hlabel⟩ := hlaid.exists_laid_parts node hnode
  have hmem : part ∈ node.parts.flatMap Node.nodes :=
    List.mem_flatMap.mpr ⟨part, hpart, part.mem_nodes_self⟩
  have hbetween := hparts.nodes_between part hmem
  rw [Span.Between, Cursor.tick_position] at hbetween
  rw [span_start hlabel, span_stop hparts hlabel]
  omega

/-- The nodes of one kind are numbered without gaps in the order in which they end: `select` says
which nodes are of the kind, `collect` lists them, and `count` is the cursor's counter for them. -/
theorem numbered {α : Type} {select : Node Site → Option α} {collect : Node Site → List α}
    {index : α → Nat} {count : Cursor → Nat}
    (hcollect : ∀ node, collect node = node.parts.flatMap collect ++ (select node).toList)
    (htick : ∀ cursor : Cursor, count cursor.tick = count cursor)
    (hclose : ∀ (cursor : Cursor) (start : Nat) (node : Node Site),
      count (cursor.close start node).2 = count cursor + (select node).toList.length)
    (hindex : ∀ (cursor : Cursor) (start : Nat) (node : Node Site),
      node.label = (cursor.close start node).1 →
        ∀ value, select node = some value → index value = count cursor)
    (hlaid : Laid cursor row next) :
    (row.flatMap collect).map index =
        List.range' (count cursor) (row.flatMap collect).length ∧
      count next = count cursor + (row.flatMap collect).length := by
  induction hlaid with
  | nil => simp
  | @cons cursor inner next outer rest hparts hlabel hrest ihparts ihrest =>
      obtain ⟨hpartsIndex, hpartsCount⟩ := ihparts
      obtain ⟨hrestIndex, hrestCount⟩ := ihrest
      rw [htick] at hpartsIndex hpartsCount
      rw [hclose] at hrestIndex hrestCount
      have houter : (select outer).toList.map index =
          List.range' (count inner) (select outer).toList.length := by
        cases hselect : select outer with
        | none => rfl
        | some value =>
            have hvalue := hindex inner cursor.position outer hlabel value hselect
            simp [hvalue]
      rw [List.flatMap_cons, hcollect]
      simp only [List.map_append, List.length_append]
      constructor
      · rw [hpartsIndex, houter, hrestIndex, hpartsCount, List.range'_append_1,
          Nat.add_assoc (count cursor), List.range'_append_1]
      · omega

theorem exprs_index (hlaid : Laid cursor row next) :
    (row.flatMap Node.exprs).map (fun expr => expr.label.index) =
        List.range' cursor.exprs (row.flatMap Node.exprs).length ∧
      next.exprs = cursor.exprs + (row.flatMap Node.exprs).length := by
  refine numbered Node.exprs_eq Cursor.tick_exprs Cursor.close_exprs ?_ hlaid
  intro cursor start node hlabel expr hexpr
  cases node with
  | stmt stmt => cases hexpr
  | expr value =>
      cases hexpr
      exact congrArg Site.index hlabel

theorem stmts_index (hlaid : Laid cursor row next) :
    (row.flatMap Node.stmts).map (fun stmt => stmt.label.index) =
        List.range' cursor.stmts (row.flatMap Node.stmts).length ∧
      next.stmts = cursor.stmts + (row.flatMap Node.stmts).length := by
  refine numbered Node.stmts_eq Cursor.tick_stmts Cursor.close_stmts ?_ hlaid
  intro cursor start node hlabel stmt hstmt
  cases node with
  | expr expr => cases hstmt
  | stmt value =>
      cases hstmt
      exact congrArg Site.index hlabel

theorem exprs_stop (hlaid : Laid cursor row next) :
    (row.flatMap Node.exprs).Pairwise fun left right => left.span.stop < right.span.stop := by
  induction hlaid with
  | nil => exact List.Pairwise.nil
  | @cons cursor inner next outer rest hparts hlabel hrest ihparts ihrest =>
      have hstop := span_stop hparts hlabel
      have hbefore : ∀ expr ∈ outer.parts.flatMap Node.exprs, expr.span.stop ≤ inner.position := by
        intro expr hexpr
        exact (hparts.nodes_between _ ((Node.mem_row_exprs_iff _ _).mp hexpr)).2.2
      have hafter : ∀ expr ∈ rest.flatMap Node.exprs, inner.position + 1 < expr.span.stop := by
        intro expr hexpr
        have hbetween := hrest.nodes_between _ ((Node.mem_row_exprs_iff _ _).mp hexpr)
        rw [Span.Between, Cursor.close_position] at hbetween
        exact Nat.lt_of_le_of_lt hbetween.1 hbetween.2.1
      have hself : ∀ expr ∈ outer.expr?.toList, expr.span.stop = inner.position + 1 := by
        intro expr hexpr
        cases outer with
        | stmt stmt => simp [Node.expr?] at hexpr
        | expr outer =>
            simp only [Node.expr?, Option.toList_some, List.mem_singleton] at hexpr
            rw [hexpr]
            exact hstop
      rw [List.flatMap_cons, Node.exprs_eq, List.pairwise_append, List.pairwise_append]
      refine ⟨⟨ihparts, ?_, ?_⟩, ihrest, ?_⟩
      · cases outer <;> simp [Node.expr?]
      · intro left hleft right hright
        have := hbefore left hleft
        have := hself right hright
        omega
      · intro left hleft right hright
        have := hafter right hright
        rcases List.mem_append.mp hleft with hleft | hleft
        · have := hbefore left hleft
          omega
        · have := hself left hleft
          omega

end Laid

/-! ### Laid bodies -/

/-- The body is laid out from the first expression number on, before the last position. -/
def Body.IsLaid (body : Body Site) : Prop :=
  ∃ first last : Cursor,
    Laid first [.stmt body.root.toStmt] last ∧ first.exprs = 0 ∧ last.position < maxPosition

namespace Body.IsLaid

variable {body : Body Site} {node part : Node Site} {expr : Expr Site}

theorem nodes_between (hlaid : body.IsLaid) (hnode : node ∈ body.nodes) :
    node.span.start < node.span.stop ∧ node.span.stop < maxPosition := by
  obtain ⟨first, last, hlaid, _, hlast⟩ := hlaid
  rw [Body.nodes, Stmt.nodesBlock_eq] at hnode
  have hbetween := hlaid.nodes_between node
    (List.mem_flatMap.mpr ⟨_, List.mem_singleton_self _, hnode⟩)
  exact ⟨hbetween.2.1, Nat.lt_of_le_of_lt hbetween.2.2 hlast⟩

theorem part_between (hlaid : body.IsLaid) (hnode : node ∈ body.nodes) (hpart : part ∈ node.parts) :
    node.span.start < part.span.start ∧ part.span.stop < node.span.stop := by
  obtain ⟨first, last, hlaid, _, _⟩ := hlaid
  rw [Body.nodes, Stmt.nodesBlock_eq] at hnode
  exact hlaid.part_between node
    (List.mem_flatMap.mpr ⟨_, List.mem_singleton_self _, hnode⟩) part hpart

theorem below_between (hlaid : body.IsLaid) (hnode : node ∈ body.nodes) {below : Node Site}
    (hbelow : below ∈ node.nodes) :
    node.span.start ≤ below.span.start ∧ below.span.stop ≤ node.span.stop := by
  induction node using Node.induction with
  | step node ih =>
      rw [Node.nodes_eq, List.mem_cons, List.mem_flatMap] at hbelow
      rcases hbelow with rfl | ⟨part, hpart, hbelow⟩
      · exact ⟨Nat.le_refl _, Nat.le_refl _⟩
      · have hinner := ih part hpart (Body.mem_nodes_of_part hnode hpart) hbelow
        have houter := hlaid.part_between hnode hpart
        omega

theorem exprs_index (hlaid : body.IsLaid) :
    body.exprs.map (fun expr => expr.label.index) = List.range body.exprs.length := by
  obtain ⟨first, last, hlaid, hfirst, _⟩ := hlaid
  have hindex := hlaid.exprs_index.1
  rw [List.flatMap_singleton, hfirst, ← List.range_eq_range'] at hindex
  rw [Body.exprs, Stmt.exprsBlock_eq]
  exact hindex

/-- The number of an expression is its place in the list of expressions. -/
theorem index_eq_of_getElem? (hlaid : body.IsLaid) {index : Nat}
    (hexpr : body.exprs[index]? = some expr) : expr.label.index = index := by
  have hat := congrArg (fun indices => indices[index]?) hlaid.exprs_index
  simp only [List.getElem?_map, hexpr, Option.map_some] at hat
  obtain ⟨_, hindex⟩ := List.getElem?_eq_some_iff.mp hat.symm
  rw [← hindex, List.getElem_range]

theorem exprs_stop (hlaid : body.IsLaid) :
    body.exprs.Pairwise fun left right => left.span.stop < right.span.stop := by
  obtain ⟨first, last, hlaid, _, _⟩ := hlaid
  have hstop := hlaid.exprs_stop
  rw [List.flatMap_singleton] at hstop
  rw [Body.exprs, Stmt.exprsBlock_eq]
  exact hstop

theorem index_lt_of_stop_lt (hlaid : body.IsLaid) {earlier later : Expr Site}
    (hearlier : earlier ∈ body.exprs) (hlater : later ∈ body.exprs)
    (hstop : earlier.span.stop < later.span.stop) : earlier.label.index < later.label.index := by
  obtain ⟨i, hi⟩ := List.mem_iff_getElem?.mp hearlier
  obtain ⟨j, hj⟩ := List.mem_iff_getElem?.mp hlater
  rw [hlaid.index_eq_of_getElem? hi, hlaid.index_eq_of_getElem? hj]
  obtain ⟨hiLength, rfl⟩ := List.getElem?_eq_some_iff.mp hi
  obtain ⟨hjLength, rfl⟩ := List.getElem?_eq_some_iff.mp hj
  have hordered := List.pairwise_iff_getElem.mp hlaid.exprs_stop
  rcases Nat.lt_trichotomy i j with hlt | rfl | hgt
  · exact hlt
  · exact absurd hstop (Nat.lt_irrefl _)
  · exact absurd (hordered j i hjLength hiLength hgt) (Nat.lt_asymm hstop)

theorem part_mem_exprs (hexpr : expr ∈ body.exprs) {part : Expr Site} (hpart : part ∈ expr.parts) :
    part ∈ body.exprs := by
  rw [Body.mem_exprs_iff] at hexpr ⊢
  exact Body.mem_nodes_of_part hexpr (List.mem_map_of_mem hpart)

theorem part_index_lt (hlaid : body.IsLaid) (hexpr : expr ∈ body.exprs) {part : Expr Site}
    (hpart : part ∈ expr.parts) : part.label.index < expr.label.index := by
  apply hlaid.index_lt_of_stop_lt (part_mem_exprs hexpr hpart) hexpr
  rw [Body.mem_exprs_iff] at hexpr
  exact (hlaid.part_between hexpr (List.mem_map_of_mem hpart)).2

end Body.IsLaid

/-! ### Lowering lays bodies out -/

theorem Body.place_laid (body : Body Label) (start : Nat)
    (hlast : (body.place start).2 ≤ maxPosition) : (body.place start).1.IsLaid :=
  ⟨_, _, Stmt.placeBlock_laid body.root _, rfl, hlast⟩

theorem Body.place_le (body : Body Label) (start : Nat) : start ≤ (body.place start).2 := by
  have hle := (Stmt.placeBlock_laid body.root
    ⟨start + 1 + body.params.length + body.locals.length, 0, 1⟩).position_le
  simp only [Body.place] at hle ⊢
  omega

theorem Method.place_le (method : Method Label) (start : Nat) : start ≤ (method.place start).2 := by
  unfold Method.place
  split
  · exact Nat.le_refl _
  · exact Body.place_le _ start

theorem placeMethods_le (methods : List (Method Label)) (start : Nat) :
    start ≤ (placeMethods methods start).2 := by
  induction methods generalizing start with
  | nil => exact Nat.le_refl _
  | cons method rest ih => exact Nat.le_trans (method.place_le start) (ih _)

@[simp]
theorem Method.body_place (method : Method Label) (start : Nat) :
    (method.place start).1.body = method.body.map fun body => (body.place start).1 := by
  unfold Method.place
  cases method.body <;> rfl

/-- Placing keeps the methods in their order, and no body ends after the last of them. -/
theorem getElem?_placeMethods (methods : List (Method Label)) (start : Nat) (id : MethodId) :
    ∃ first,
      (placeMethods methods start).1[id]? =
        methods[id]?.map (fun method => (method.place first).1) ∧
      ∀ method, methods[id]? = some method →
        (method.place first).2 ≤ (placeMethods methods start).2 := by
  induction methods generalizing start id with
  | nil => exact ⟨start, rfl, by simp⟩
  | cons source rest ih =>
      cases id with
      | zero =>
          refine ⟨start, rfl, ?_⟩
          intro method hmethod
          cases hmethod
          exact placeMethods_le rest _
      | succ id => exact ih (source.place start).2 id

theorem Document.Program.lower_eq_ok_iff {document : Document.Program}
    {program : RefStability.Program Site} :
    document.lower = .ok program ↔
      ∃ resolved, document.resolve = .ok resolved ∧ resolved.place.1 = program ∧
        resolved.place.2 ≤ maxPosition := by
  unfold Document.Program.lower
  cases hresolve : document.resolve with
  | error error =>
      constructor
      · intro hlower
        cases hlower
      · rintro ⟨resolved, hresolved, _⟩
        cases hresolved
  | ok resolved =>
      change (if resolved.place.2 ≤ maxPosition then .ok resolved.place.1
        else .error LowerError.positionsExhausted) = Except.ok program ↔ _
      by_cases hlast : resolved.place.2 ≤ maxPosition
      · simp [hlast]
      · simp [hlast]

/-- Every body of a lowered document is a placed one. -/
theorem Document.Program.exists_place_of_lower {document : Document.Program}
    {program : RefStability.Program Site} (hlower : document.lower = .ok program)
    {body : Body Site} (hbody : body ∈ program.bodies) :
    ∃ (source : Body Unit) (start : Nat), body = (source.place start).1 ∧
      (source.place start).2 ≤ maxPosition := by
  obtain ⟨resolved, _, rfl, hlast⟩ := lower_eq_ok_iff.mp hlower
  obtain ⟨method, hmethod, hbody⟩ := List.mem_filterMap.mp hbody
  obtain ⟨id, hid⟩ := List.mem_iff_getElem?.mp hmethod
  obtain ⟨first, hplaced, hle⟩ := getElem?_placeMethods resolved.methods 0 id
  obtain ⟨source, hsource, rfl⟩ := Option.map_eq_some_iff.mp (hplaced.symm.trans hid)
  rw [Method.body_place] at hbody
  obtain ⟨sourceBody, hsourceBody, rfl⟩ := Option.map_eq_some_iff.mp hbody
  refine ⟨sourceBody, first, rfl, Nat.le_trans ?_ hlast⟩
  have hmethodLe := hle source hsource
  simp only [Method.place, hsourceBody] at hmethodLe
  exact hmethodLe

/-- Every body of a lowered document is laid out. -/
theorem Document.Program.lower_laid {document : Document.Program}
    {program : RefStability.Program Site} (hlower : document.lower = .ok program)
    {body : Body Site} (hbody : body ∈ program.bodies) : body.IsLaid := by
  obtain ⟨source, start, rfl, hlast⟩ := exists_place_of_lower hlower hbody
  exact source.place_laid start hlast

/-- Whether the document lowers and a body of the program passes the test. -/
def Document.Program.anyBody (document : Document.Program)
    (test : RefStability.Program Site → Body Site → Bool) : Bool :=
  match document.lower with
  | .ok program => program.bodies.any (test program)
  | .error _ => false

theorem Document.Program.exists_of_anyBody {document : Document.Program}
    {test : RefStability.Program Site → Body Site → Bool} (hany : document.anyBody test = true) :
    ∃ program body, document.lower = .ok program ∧ body ∈ program.bodies ∧
      test program body = true := by
  unfold anyBody at hany
  split at hany
  · rename_i program hlower
    obtain ⟨body, hbody, htest⟩ := List.any_eq_true.mp hany
    exact ⟨program, body, hlower, hbody, htest⟩
  · cases hany

end RefStability
