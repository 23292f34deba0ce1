import RefStability.Proofs.Layout

/-!
# Bodies are trees in source order

The numbers and spans of a lowered body describe one tree: a walk meets every numbered expression
and every numbered statement once, spans nest as the nodes do, and what comes later in the source
starts later. The statement with number 0 is the one exception: it stands for the empty body and no
walk meets it.
-/

namespace RefStability

variable {Label : Type}

/-! ### The order of a laid row -/

namespace Laid

variable {cursor next : Cursor} {row : List (Node Site)}

/-- A walk over a laid row meets nodes that start later and later. -/
theorem nodes_start_lt (hlaid : Laid cursor row next) :
    (row.flatMap Node.nodes).Pairwise fun earlier later =>
      earlier.span.start < later.span.start := by
  induction hlaid with
  | nil => exact List.Pairwise.nil
  | @cons cursor inner next outer rest hparts hlabel hrest ihparts ihrest =>
      have hstart := span_start hlabel
      have hpartsBetween := hparts.nodes_between
      have hrestBetween := hrest.nodes_between
      have hpartsLe := hparts.position_le
      rw [Cursor.tick_position] at hpartsLe
      rw [List.flatMap_cons, Node.nodes_eq, List.pairwise_append, List.pairwise_cons]
      refine ⟨⟨?_, ihparts⟩, ihrest, ?_⟩
      · intro part hpart
        have hbetween := (hpartsBetween part hpart).1
        rw [Cursor.tick_position] at hbetween
        omega
      · intro earlier hearlier later hlater
        have hlaterStart := (hrestBetween later hlater).1
        rw [Cursor.close_position] at hlaterStart
        rcases List.mem_cons.mp hearlier with rfl | hbelow
        · omega
        · have hbetween := hpartsBetween earlier hbelow
          rw [Span.Between] at hbetween
          omega

/-- Of two nodes in a laid row the first ends before the second starts. -/
theorem row_apart (hlaid : Laid cursor row next) :
    row.Pairwise fun left right => left.span.stop ≤ right.span.start := by
  induction hlaid with
  | nil => exact List.Pairwise.nil
  | @cons cursor inner next outer rest hparts hlabel hrest ihparts ihrest =>
      refine List.pairwise_cons.mpr ⟨?_, ihrest⟩
      intro later hlater
      have hmem : later ∈ rest.flatMap Node.nodes :=
        List.mem_flatMap.mpr ⟨later, hlater, later.mem_nodes_self⟩
      have hbetween := (hrest.nodes_between later hmem).1
      rw [Cursor.close_position] at hbetween
      rw [span_stop hparts hlabel]
      exact hbetween

/-- A node that is alone in a row takes up all of it. -/
theorem span_singleton {node : Node Site} (hlaid : Laid cursor [node] next) :
    node.span.start = cursor.position ∧ node.span.stop = next.position := by
  cases hlaid with
  | @cons _ inner _ _ _ hparts hlabel hrest =>
      cases hrest
      rw [Cursor.close_position]
      exact ⟨span_start hlabel, span_stop hparts hlabel⟩

theorem parts_apart (hlaid : Laid cursor row next) :
    ∀ node ∈ row.flatMap Node.nodes,
      node.parts.Pairwise fun left right => left.span.stop ≤ right.span.start := by
  intro node hnode
  obtain ⟨first, last, hparts, _⟩ := hlaid.exists_laid_parts node hnode
  exact hparts.row_apart

/-- A statement gets its number after the statements in it got theirs. -/
theorem stmt_part_index_lt (hlaid : Laid cursor row next) {stmt part : Stmt Site}
    (hstmt : Node.stmt stmt ∈ row.flatMap Node.nodes) (hpart : Node.stmt part ∈ stmt.parts) :
    part.label.index < stmt.label.index := by
  obtain ⟨first, last, hparts, hlabel⟩ := hlaid.exists_laid_parts _ hstmt
  obtain ⟨hindex, hcount⟩ := hparts.stmts_index
  have hmem : part ∈ (Node.stmt stmt).parts.flatMap Node.stmts := by
    refine List.mem_flatMap.mpr ⟨.stmt part, hpart, ?_⟩
    rw [Node.stmts_eq]
    exact List.mem_append_right _ (List.mem_singleton_self part)
  have hrange : part.label.index ∈
      List.range' first.tick.stmts ((Node.stmt stmt).parts.flatMap Node.stmts).length := by
    rw [← hindex]
    exact List.mem_map_of_mem hmem
  have hself : stmt.label.index = last.stmts := congrArg Site.index hlabel
  rw [hself, hcount]
  exact (List.mem_range'_1.mp hrange).2

end Laid

/-! ### The arenas of a body -/

theorem Body.visited_exprs_perm (body : Body Label) :
    (body.nodes.filterMap Node.expr?).Perm body.exprs := by
  rw [Body.nodes, Stmt.nodesBlock_eq, Body.exprs, Stmt.exprsBlock_eq]
  exact Node.collect_perm Node.exprs_eq (.stmt body.root.toStmt)

theorem Body.visited_stmts_perm (body : Body Site) :
    (body.nodes.filterMap Node.stmt?).Perm body.stmts.tail := by
  rw [Body.nodes, Stmt.nodesBlock_eq, Body.stmts, List.tail_cons, Stmt.postorderBlock_eq]
  exact Node.collect_perm Node.stmts_eq (.stmt body.root.toStmt)

namespace Body.IsLaid

variable {body : Body Site}

theorem nodes_start_lt (hlaid : body.IsLaid) :
    body.nodes.Pairwise fun earlier later => earlier.span.start < later.span.start := by
  obtain ⟨first, last, hlaid, _, _⟩ := hlaid
  have hstart := hlaid.nodes_start_lt
  rw [List.flatMap_singleton] at hstart
  rw [Body.nodes, Stmt.nodesBlock_eq]
  exact hstart

theorem parts_apart (hlaid : body.IsLaid) {node : Node Site} (hnode : node ∈ body.nodes) :
    node.parts.Pairwise fun left right => left.span.stop ≤ right.span.start := by
  obtain ⟨first, last, hlaid, _, _⟩ := hlaid
  rw [Body.nodes, Stmt.nodesBlock_eq] at hnode
  exact hlaid.parts_apart node (List.mem_flatMap.mpr ⟨_, List.mem_singleton_self _, hnode⟩)

theorem index_lt_iff_stop_lt (hlaid : body.IsLaid) {left right : Expr Site}
    (hleft : left ∈ body.exprs) (hright : right ∈ body.exprs) :
    left.label.index < right.label.index ↔ left.span.stop < right.span.stop := by
  refine ⟨?_, hlaid.index_lt_of_stop_lt hleft hright⟩
  intro hindex
  obtain ⟨i, hi⟩ := List.mem_iff_getElem?.mp hleft
  obtain ⟨j, hj⟩ := List.mem_iff_getElem?.mp hright
  rw [hlaid.index_eq_of_getElem? hi, hlaid.index_eq_of_getElem? hj] at hindex
  obtain ⟨hiLength, rfl⟩ := List.getElem?_eq_some_iff.mp hi
  obtain ⟨hjLength, rfl⟩ := List.getElem?_eq_some_iff.mp hj
  exact List.pairwise_iff_getElem.mp hlaid.exprs_stop i j hiLength hjLength hindex

end Body.IsLaid

theorem Body.mem_stmts_iff (body : Body Site) (stmt : Stmt Site) :
    stmt ∈ body.stmts ↔ stmt = .initial ∨ Node.stmt stmt ∈ body.nodes := by
  have hvisited : Node.stmt stmt ∈ body.nodes ↔ stmt ∈ body.nodes.filterMap Node.stmt? := by
    rw [List.mem_filterMap]
    constructor
    · intro hnode
      exact ⟨.stmt stmt, hnode, rfl⟩
    · rintro ⟨node, hnode, hstmt⟩
      cases node with
      | expr expr => cases hstmt
      | stmt value =>
          cases hstmt
          exact hnode
  rw [hvisited, body.visited_stmts_perm.mem_iff, Body.stmts, List.mem_cons, List.tail_cons]

theorem Body.IsLaid.stmt_part_index_lt {body : Body Site} (hlaid : body.IsLaid)
    {stmt part : Stmt Site} (hstmt : stmt ∈ body.stmts) (hpart : Node.stmt part ∈ stmt.parts) :
    part.label.index < stmt.label.index := by
  rcases (body.mem_stmts_iff stmt).mp hstmt with rfl | hnode
  · cases hpart
  · obtain ⟨first, last, hlaid, _, _⟩ := hlaid
    rw [Body.nodes, Stmt.nodesBlock_eq] at hnode
    exact hlaid.stmt_part_index_lt
      (List.mem_flatMap.mpr ⟨_, List.mem_singleton_self _, hnode⟩) hpart

section Place

variable (source : Body Label) (start : Nat)

/-- Statements are numbered from 1 on, after the empty block that a body starts from. -/
theorem Body.stmts_index_place :
    (source.place start).1.stmts.map (fun stmt => stmt.label.index) =
      List.range (source.place start).1.stmts.length := by
  have hlaid := Stmt.placeBlock_laid source.root
    ⟨start + 1 + source.params.length + source.locals.length, 0, 1⟩
  have hindex := hlaid.stmts_index.1
  rw [List.flatMap_singleton] at hindex
  rw [Body.stmts, List.map_cons, List.length_cons, List.range_eq_range', List.range'_succ,
    Stmt.postorderBlock_eq]
  exact congrArg (0 :: ·) hindex

theorem Body.span_place :
    (source.place start).1.label.span.start = start ∧
      (source.place start).1.label.span.stop = (source.place start).2 := by
  have hle := source.place_le start
  exact ⟨rfl, Span.ofBounds_stop _ _ hle⟩

/-- The root starts after the declarations of a body and ends just before the body does. -/
theorem Body.root_span_place :
    (source.place start).1.root.label.span.start =
        start + 1 + source.params.length + source.locals.length ∧
      (source.place start).1.root.label.span.stop + 1 = (source.place start).2 := by
  obtain ⟨hstart, hstop⟩ := (Stmt.placeBlock_laid source.root
    ⟨start + 1 + source.params.length + source.locals.length, 0, 1⟩).span_singleton
  exact ⟨hstart, congrArg (· + 1) hstop⟩

end Place

/-! ### The order of bodies -/

/-- The bodies of placed methods lie one after the other. -/
theorem placeMethods_bodies (methods : List (Method Label)) (start : Nat) :
    (∀ body ∈ (placeMethods methods start).1.filterMap (·.body),
      start ≤ body.label.span.start) ∧
    ((placeMethods methods start).1.filterMap (·.body)).Pairwise fun earlier later =>
      earlier.label.span.stop ≤ later.label.span.start := by
  induction methods generalizing start with
  | nil => exact ⟨by simp [placeMethods], List.Pairwise.nil⟩
  | cons source rest ih =>
      obtain ⟨hafter, hapart⟩ := ih (source.place start).2
      simp only [placeMethods, List.filterMap_cons, Method.body_place]
      cases hsource : source.body with
      | none =>
          simp only [Method.place, hsource] at hafter hapart ⊢
          exact ⟨hafter, hapart⟩
      | some body =>
          obtain ⟨hstart, hstop⟩ := body.span_place start
          have hle := body.place_le start
          simp only [Method.place, hsource] at hafter hapart ⊢
          rw [Option.map_some, List.forall_mem_cons, List.pairwise_cons]
          refine ⟨⟨Nat.le_of_eq hstart.symm, ?_⟩, ?_, hapart⟩
          · intro later hlater
            exact Nat.le_trans hle (hafter later hlater)
          · intro later hlater
            rw [hstop]
            exact hafter later hlater

/-- What the positions and numbers of a body say of its nodes. -/
structure Body.InSourceOrder (body : Body Site) : Prop where
  exprs_numbered : body.exprs.map (fun expr => expr.label.index) = List.range body.exprs.length
  stmts_numbered : body.stmts.map (fun stmt => stmt.label.index) = List.range body.stmts.length
  visits_exprs : (body.nodes.filterMap Node.expr?).Perm body.exprs
  visits_stmts : (body.nodes.filterMap Node.stmt?).Perm body.stmts.tail
  starts_increase : body.nodes.Pairwise fun earlier later => earlier.span.start < later.span.start
  parts_inside : ∀ node ∈ body.nodes, ∀ part ∈ node.parts,
    node.span.start < part.span.start ∧ part.span.stop < node.span.stop
  parts_apart : ∀ node ∈ body.nodes,
    node.parts.Pairwise fun left right => left.span.stop ≤ right.span.start
  expr_after_parts : ∀ expr ∈ body.exprs, ∀ part, Node.expr part ∈ (Node.expr expr).parts →
    part.label.index < expr.label.index
  stmt_after_parts : ∀ stmt ∈ body.stmts, ∀ part, Node.stmt part ∈ (Node.stmt stmt).parts →
    part.label.index < stmt.label.index
  exprs_by_stop : ∀ left ∈ body.exprs, ∀ right ∈ body.exprs,
    (left.label.index < right.label.index ↔ left.span.stop < right.span.stop)
  root_inside : body.label.span.start < body.root.label.span.start ∧
    body.root.label.span.stop < body.label.span.stop

theorem Body.place_inSourceOrder (source : Body Label) (start : Nat)
    (hlast : (source.place start).2 ≤ maxPosition) : (source.place start).1.InSourceOrder := by
  have hlaid := source.place_laid start hlast
  obtain ⟨hstart, hstop⟩ := source.span_place start
  obtain ⟨hrootStart, hrootStop⟩ := source.root_span_place start
  exact {
    exprs_numbered := hlaid.exprs_index
    stmts_numbered := source.stmts_index_place start
    visits_exprs := Body.visited_exprs_perm _
    visits_stmts := Body.visited_stmts_perm _
    starts_increase := hlaid.nodes_start_lt
    parts_inside := fun _ hnode _ hpart => hlaid.part_between hnode hpart
    parts_apart := fun _ hnode => hlaid.parts_apart hnode
    expr_after_parts := by
      intro expr hexpr part hpart
      obtain ⟨_, hpart, heq⟩ := List.mem_map.mp hpart
      cases heq
      exact hlaid.part_index_lt hexpr hpart
    stmt_after_parts := fun _ hstmt _ hpart => hlaid.stmt_part_index_lt hstmt hpart
    exprs_by_stop := fun _ hleft _ hright => hlaid.index_lt_iff_stop_lt hleft hright
    root_inside := by omega }

/-- Every body of a lowered document is one tree in source order, and the bodies of later methods
lie after those of earlier ones. -/
theorem lower_inSourceOrder {document : Document.Program} {program : Program Site}
    (hlower : document.lower = .ok program) :
    (∀ body ∈ program.bodies, body.InSourceOrder) ∧
      program.bodies.Pairwise fun earlier later =>
        earlier.label.span.stop ≤ later.label.span.start := by
  constructor
  · intro body hbody
    obtain ⟨source, start, rfl, hlast⟩ := Document.Program.exists_place_of_lower hlower hbody
    exact source.place_inSourceOrder start hlast
  · obtain ⟨resolved, _, rfl, _⟩ := Document.Program.lower_eq_ok_iff.mp hlower
    exact (placeMethods_bodies resolved.methods 0).2

/-- Two methods with bodies. `pick` calls a method by its bare name and leaves an optional part out
in several places; `run` nests loops and passes a local `out`. -/
def branchDocument : Document.Program where
  file := 3
  types := [⟨"List", true⟩, ⟨"Item", false⟩]
  methods :=
    [{ name := "Get", signature := some "List.Get(int)"
       params := [⟨"self", some "List", true⟩, ⟨"at", none, false⟩], kind := .elementAccessor
       path := none, returnsRef := true, locals := [], body := none },
     { name := "pick", signature := none, params := [⟨"source", some "List", true⟩], kind := .plain
       path := none, returnsRef := true, locals := [⟨"found", some "Item", .ref⟩]
       body := some
        [.ifElse (.ident "source")
          [.declare "found" (some (.call "Get" [(.ref, .ident "source"), (.value, .literal)]
            (some "Item")))]
          [.ret none],
         .ret (some (.ident "found"))] },
     { name := "run", signature := none, params := [], kind := .plain, path := none
       returnsRef := false
       locals := [⟨"items", some "List", .value⟩, ⟨"item", some "Item", .ref⟩]
       body := some
        [.declare "items" none,
         .forEach "item" (.ident "items")
          [.loop .literal [.eval (.call "pick" [(.ref, .ident "items")] none)]],
         .rebind "item" (.index (.ident "items") [.literal] (some "Item")),
         .assign (.field (.ident "item") "size" none) (.staticField "limit" none),
         .eval (.call "pick" [(.out, .ident "item")] none)] }]

theorem lower_inSourceOrder_branch : ∃ program,
    branchDocument.lower = .ok program ∧ program.bodies.length = 2 ∧
      (∀ body ∈ program.bodies, body.InSourceOrder) ∧
      program.bodies.Pairwise fun earlier later =>
        earlier.label.span.stop ≤ later.label.span.start := by
  have hany : branchDocument.anyBody (fun program _ => program.bodies.length == 2) = true := by
    decide +kernel
  obtain ⟨program, _, hlower, _, htest⟩ := Document.Program.exists_of_anyBody hany
  exact ⟨program, hlower, eq_of_beq htest, lower_inSourceOrder hlower⟩

end RefStability
