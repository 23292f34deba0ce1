import RefStability.Proofs.Liveness
import RefStability.Proofs.Problem
import RefStability.Proofs.TraceByNumber

/-!
# Checking by number

The scan for live references and the checks of calls and returns are run here by number, with all
look-ups and slices that they need. In a body whose numbers are in range they have the results of
the checks along the tree.
-/

namespace RefStability

theorem foldlM_eq_some_foldl {α β : Type} {step? : β → α → Option β} {step : β → α → β}
    {items : List α} (hstep : ∀ state, ∀ item ∈ items, step? state item = some (step state item))
    (state : β) : items.foldlM step? state = some (items.foldl step state) := by
  induction items generalizing state with
  | nil => rfl
  | cons item rest ih =>
      rw [List.foldlM_cons, hstep state item List.mem_cons_self, Option.bind_eq_bind,
        Option.bind_some, List.foldl_cons]
      exact ih (fun state later hlater => hstep state later (List.mem_cons_of_mem _ hlater)) _

/-- The items that pass a test, if the test has a result for each of them. -/
def select? {α : Type} (test : α → Option Bool) : List α → Option (List α)
  | [] => some []
  | item :: rest => do
    let isKept ← test item
    let kept ← select? test rest
    return if isKept then item :: kept else kept

theorem select?_eq {α : Type} {test : α → Option Bool} {keep : α → Bool}
    (htest : ∀ item, test item = some (keep item)) (items : List α) :
    select? test items = some (items.filter keep) := by
  induction items with
  | nil => rfl
  | cons item rest ih =>
      rw [select?, htest, ih, List.filter_cons]
      rfl

/-! ### The scan -/

section Scanning

variable (body : Body Site)

def Tracked.replacedBy? (tracked : Tracked) (binding : Binding) : Option Tracked :=
  if tracked.binding.isLoopItem then some tracked
  else do
    let producer ← body.exprs[binding.producer.label.index]?
    return { tracked with window := tracked.window.closeAt producer.span.start }

namespace Scan

def bind? (position : Nat) (scan : Scan) (binding : Binding) : Option Scan := do
  let tracked := scan.forget binding.target ++ [.ofBinding binding]
  match scan.tracked? binding.target with
  | none => return { tracked, found := scan.found }
  | some old =>
    let closed ← old.replacedBy? body binding
    return {
      tracked
      found := if closed.window.straddles position then scan.found ++ [closed] else scan.found }

def step? (position : Nat) (scan : Scan) (event : Event) : Option Scan := do
  let declared ← body.locals[event.target]?
  if declared.isRef then
    match event with
    | .bind binding => scan.bind? body position binding
    | .use target expr => return scan.use position target expr.span.start
  else return scan

end Scan

def Body.tracksAt? (events : List Event) (position : Nat) : Option (List Tracked) := do
  let scan ← events.foldlM (Scan.step? body position) .initial
  return scan.finish position

end Scanning

section Scanned

variable {body : Body Site}

theorem Tracked.replacedBy?_eq (tracked : Tracked) {binding : Binding}
    (hproducer : body.exprs[binding.producer.label.index]? = some binding.producer) :
    tracked.replacedBy? body binding = some (tracked.replacedBy binding) := by
  rw [replacedBy?, replacedBy, hproducer]
  split <;> rfl

theorem Scan.bind?_eq (position : Nat) (scan : Scan) {binding : Binding}
    (hproducer : body.exprs[binding.producer.label.index]? = some binding.producer) :
    scan.bind? body position binding = some (scan.bind position binding) := by
  unfold bind? bind
  cases scan.tracked? binding.target with
  | none => rfl
  | some old =>
      simp only [old.replacedBy?_eq hproducer]
      rfl

theorem Scan.step?_eq (horder : body.InSourceOrder) {program : Program Site}
    (hgrounded : body.Grounded program) (position : Nat) (scan : Scan) {event : Event}
    (hevent : event ∈ body.events) :
    scan.step? body position event =
      some (if body.isRefLocal event.target then scan.step position event else scan) := by
  have hlocal := List.getElem?_eq_getElem (hgrounded.target_lt hevent)
  unfold step?
  rw [Body.isRefLocal, hlocal, Option.bind_eq_bind, Option.bind_some, Option.any_some]
  split
  · cases event with
    | bind binding =>
        exact scan.bind?_eq position
          (horder.getElem?_exprs (body.events_from _ hevent).producer_node)
    | use target expr => rfl
  · rfl

theorem Body.tracksAt?_eq (horder : body.InSourceOrder) {program : Program Site}
    (hgrounded : body.Grounded program) (position : Nat) :
    body.tracksAt? body.events position = some (body.tracksAt position) := by
  rw [tracksAt?, foldlM_eq_some_foldl fun scan event => scan.step?_eq horder hgrounded position,
    tracksAt, List.foldl_filter]
  rfl

end Scanned

/-! ### Live references -/

namespace Analysis

section Checks

variable (analysis : Analysis) (events : List Event)

def emit? (tracked : Tracked) : Option (Option LiveBinding) := do
  let result ← analysis.traceBinding? events tracked.binding
  let path := pathOrUnrepresentable result
  if path.isRepresentable then
    let declared ← analysis.body.locals[tracked.binding.target]?
    return some
      { binding := tracked.binding, name := declared.name, window := tracked.window, path }
  else return none

def liveAt? (position : Nat) : Option (List LiveBinding) := do
  let tracks ← analysis.body.tracksAt? events position
  let live ← tracks.mapM (analysis.emit? events)
  return live.filterMap id

/-! ### Calls and returns -/

/-- The results for the arguments of a call, with the arguments they are for. -/
def traces? (arguments : List (Expr Site)) :
    Option (List (Expr Site × Except TraceFailure Path)) :=
  arguments.mapM fun argument => do
    let result ← analysis.trace? events argument.label.index none
    return (argument, result)

def untraceable? (traces : List (Expr Site × Except TraceFailure Path)) :
    Option (List Finding) := do
  let reports ← traces.mapM fun (argument, result) => do
    match result with
    | .ok _ => return none
    | .error failure =>
      let stored ← analysis.body.exprs[argument.label.index]?
      return some (.unverifiable (analysis.locate stored.span) failure.message)
  return reports.filterMap id

/-- The live references are looked for only if an argument leads to resizable storage. -/
def invalidations? (number : Nat) (method : Method Site) (paths : List (Expr Site × Path)) :
    Option (List Finding) := do
  let mutators := paths.filter fun (_, path) => path.isAnchor
  if mutators.isEmpty then return []
  else
    let call ← analysis.body.exprs[number]?
    let live ← analysis.liveAt? events call.span.start
    let reports ← mutators.mapM fun (_, mutator) => do
      let victims ← select? (fun reference => mutator.canInvalidate? reference.path) live
      return victims.map fun reference =>
        .invalidatedReference (analysis.locate call.span) method.signature mutator.render
          reference.name reference.path.render (analysis.locate reference.binding.span)
    return reports.flatten

/-- Whether either of two paths may alias the other. -/
def eitherAliases? (first second : Path) : Option Bool := do
  let isAliased ← first.canAlias? second
  if isAliased then return true else second.canAlias? first

/-- The argument at a position is compared with the slice of those after it. -/
def aliasesWith? (call : Span) (method : Method Site) (paths : List (Expr Site × Path))
    (first : Path) (position : Nat) : Option (List Finding) := do
  let rest ← slice? paths (position + 1) paths.length
  let others ← select? (fun entry => eitherAliases? first entry.2) rest
  others.mapM fun (argument, second) => do
    let stored ← analysis.body.exprs[argument.label.index]?
    return .aliasedArguments (analysis.locate call) method.signature first.render second.render
      (analysis.locate stored.span)

def aliases? (call : Span) (method : Method Site) (paths : List (Expr Site × Path)) :
    Option (List Finding) := do
  let reports ← paths.zipIdx.mapM fun entry =>
    analysis.aliasesWith? call method paths entry.1.2 entry.2
  return reports.flatten

/-- The arguments that have paths. -/
def traced (traces : List (Expr Site × Except TraceFailure Path)) : List (Expr Site × Path) :=
  traces.filterMap fun (argument, result) =>
    match result with
    | .ok path => some (argument, path)
    | .error _ => none

def callFindings? (number : Nat) : Option (List Finding) := do
  match ← analysis.body.exprs[number]? with
  | .call site id args _ =>
    let method ← analysis.program.methods[id]?
    let traces ← analysis.traces? events (refArguments args)
    let untraced ← analysis.untraceable? traces
    let invalidated ←
      if analysis.isReferenceHelper id method then some []
      else analysis.invalidations? events number method (traced traces)
    let aliased ← analysis.aliases? site.span method (traced traces)
    return untraced ++ invalidated ++ aliased
  | _ => return []

def returnFindings? (number : Nat) : Option (List Finding) := do
  match ← analysis.body.stmts[number]? with
  | .ret site (some value) =>
    let method ← analysis.program.methods[analysis.body.method]?
    if method.returnsRef then
      let result ← analysis.trace? events value.label.index none
      let path := pathOrUnrepresentable result
      return if path.isScoped then [.escapesScope (analysis.locate site.span) path.render] else []
    else return []
  | _ => return []

def nodeFindings? : NodeId → Option (List Finding)
  | .stmt number => analysis.returnFindings? events number
  | .expr number => analysis.callFindings? events number

def findings? : Option (List Finding) := do
  let events ← analysis.body.events?
  let root := Node.id (.stmt analysis.body.root.toStmt)
  let nodes ← analysis.body.visit? analysis.body.nesting root
  let reports ← nodes.mapM fun node => analysis.nodeFindings? events node.id
  -- The run is recorded under the signature of the method.
  let _ ← analysis.program.methods[analysis.body.method]?
  return reports.flatten

theorem eitherAliases?_eq (first second : Path) :
    eitherAliases? first second = some (first.canAlias second || second.canAlias first) := by
  rw [eitherAliases?, Path.canAlias?_eq, Path.canAlias?_eq]
  cases first.canAlias second <;> rfl

theorem traced_map (arguments : List (Expr Site)) :
    traced (arguments.map fun argument => (argument, analysis.trace argument none)) =
      analysis.tracedArguments arguments := by
  rw [traced, List.filterMap_map]
  rfl

theorem mem_of_mem_tracedArguments {arguments : List (Expr Site)} {entry : Expr Site × Path}
    (hentry : entry ∈ analysis.tracedArguments arguments) : entry.1 ∈ arguments := by
  obtain ⟨argument, hargument, hpath⟩ := List.mem_filterMap.mp hentry
  split at hpath
  · obtain rfl := Option.some.inj hpath
    exact hargument
  · cases hpath

/-- What an argument may share with those after it. -/
def aliasesWith (call : Span) (method : Method Site) (first : Path)
    (rest : List (Expr Site × Path)) : List Finding :=
  (rest.filter fun (_, second) => first.canAlias second || second.canAlias first).map
    fun (argument, second) =>
      .aliasedArguments (analysis.locate call) method.signature first.render second.render
        (analysis.locate argument.span)

theorem aliases_eq_zipIdx (call : Span) (method : Method Site)
    (before paths : List (Expr Site × Path)) :
    analysis.aliases call method paths =
      (paths.zipIdx before.length).flatMap fun entry =>
        analysis.aliasesWith call method entry.1.2 ((before ++ paths).drop (entry.2 + 1)) := by
  induction paths generalizing before with
  | nil => rfl
  | cons entry rest ih =>
      have hbefore : before ++ entry :: rest = before ++ [entry] ++ rest := by simp
      have hlength : before.length + 1 = (before ++ [entry]).length := by simp
      rw [List.zipIdx_cons, List.flatMap_cons, hbefore, hlength, ← ih, List.drop_left]
      rfl

end Checks

namespace WellFormed

variable {analysis : Analysis} (hanalysis : analysis.WellFormed)
include hanalysis

theorem emit?_eq {tracked : Tracked} (hevent : .bind tracked.binding ∈ analysis.body.events) :
    analysis.emit? analysis.body.events tracked = some (analysis.liveBinding? tracked) := by
  have hlocal : analysis.body.locals[tracked.binding.target]? = some _ :=
    List.getElem?_eq_getElem (hanalysis.grounded.target_lt hevent)
  simp only [emit?, liveBinding?, hanalysis.traceBinding?_eq hevent, hlocal, Option.bind_eq_bind,
    Option.bind_some, Option.pure_def]
  unfold bindingPath
  split <;> rfl

theorem liveAt?_eq (position : Nat) :
    analysis.liveAt? analysis.body.events position = some (analysis.liveAt position) := by
  have hemit : (analysis.body.tracksAt position).mapM (analysis.emit? analysis.body.events) =
      some ((analysis.body.tracksAt position).map analysis.liveBinding?) := by
    apply mapM_eq_some_map
    intro tracked htracked
    exact hanalysis.emit?_eq (hanalysis.laid.bind_mem_of_mem_tracksAt htracked)
  rw [liveAt?, Body.tracksAt?_eq hanalysis.order hanalysis.grounded]
  simp only [Option.bind_eq_bind, Option.bind_some, hemit, List.filterMap_map, Option.pure_def]
  rfl

section Arguments

variable {arguments : List (Expr Site)}
  (harguments : ∀ argument ∈ arguments, Node.expr argument ∈ analysis.body.nodes)
include harguments

theorem traces?_eq : analysis.traces? analysis.body.events arguments =
    some (arguments.map fun argument => (argument, analysis.trace argument none)) := by
  apply mapM_eq_some_map
  intro argument hargument
  rw [hanalysis.trace?_none (harguments argument hargument)]
  rfl

theorem untraceable?_eq : analysis.untraceable?
    (arguments.map fun argument => (argument, analysis.trace argument none)) =
      some (analysis.untraceable arguments) := by
  unfold untraceable? untraceable
  rw [List.mapM_map, mapM_eq_some_map (fun argument hargument => ?_), Option.bind_eq_bind,
    Option.bind_some, List.filterMap_map]
  · rfl
  · have hstored := hanalysis.order.getElem?_exprs (harguments argument hargument)
    simp only [Function.comp_apply, hstored, Option.bind_eq_bind, Option.bind_some]
    cases analysis.trace argument none <;> rfl

end Arguments

theorem invalidations?_eq {number : Nat} {call : Expr Site}
    (hcall : analysis.body.exprs[number]? = some call) (method : Method Site)
    (paths : List (Expr Site × Path)) :
    analysis.invalidations? analysis.body.events number method paths =
      some (analysis.invalidations call.span method paths) := by
  unfold invalidations? invalidations
  cases hmutators : paths.filter fun entry => entry.2.isAnchor with
  | nil => rfl
  | cons mutator others =>
      simp only [List.isEmpty_cons, Bool.false_eq_true, if_false, hcall, Option.bind_eq_bind,
        Option.bind_some, hanalysis.liveAt?_eq, Option.pure_def,
        select?_eq fun reference => Path.canInvalidate?_eq _ (LiveBinding.path reference)]
      rw [mapM_eq_some_map fun entry _ => rfl, Option.bind_some, List.flatMap_def]

section Aliases

variable {paths : List (Expr Site × Path)}
  (hpaths : ∀ entry ∈ paths, Node.expr entry.1 ∈ analysis.body.nodes)
include hpaths

theorem aliasesWith?_eq (call : Span) (method : Method Site) (first : Path) {position : Nat}
    (hposition : position < paths.length) :
    analysis.aliasesWith? call method paths first position =
      some (analysis.aliasesWith call method first (paths.drop (position + 1))) := by
  have heither := fun entry : Expr Site × Path => eitherAliases?_eq first entry.2
  rw [aliasesWith?, slice?_of_le hposition (Nat.le_refl _), List.take_length, Option.bind_eq_bind,
    Option.bind_some, select?_eq heither, Option.bind_some]
  apply mapM_eq_some_map
  intro entry hentry
  have hmem := List.mem_of_mem_drop (List.mem_filter.mp hentry).1
  simp only [hanalysis.order.getElem?_exprs (hpaths entry hmem)]
  rfl

theorem aliases?_eq (call : Span) (method : Method Site) :
    analysis.aliases? call method paths = some (analysis.aliases call method paths) := by
  have hreports : paths.zipIdx.mapM
      (fun entry => analysis.aliasesWith? call method paths entry.1.2 entry.2) =
        some (paths.zipIdx.map fun entry =>
          analysis.aliasesWith call method entry.1.2 (paths.drop (entry.2 + 1))) := by
    apply mapM_eq_some_map
    intro entry hentry
    exact hanalysis.aliasesWith?_eq hpaths call method _ (List.snd_lt_of_mem_zipIdx hentry)
  rw [aliases?, hreports, analysis.aliases_eq_zipIdx call method [] paths, List.flatMap_def]
  rfl

end Aliases

theorem callFindings?_eq {expr : Expr Site} (hexpr : Node.expr expr ∈ analysis.body.nodes) :
    analysis.callFindings? analysis.body.events expr.label.index =
      some (analysis.checkCall expr) := by
  have hstored := hanalysis.order.getElem?_exprs hexpr
  rw [callFindings?, hstored, Option.bind_eq_bind, Option.bind_some]
  cases expr with
  | call site id args ty =>
      have hmethod := List.getElem?_eq_getElem (hanalysis.grounded.inRange _ hexpr).1
      have harguments : ∀ argument ∈ refArguments args,
          Node.expr argument ∈ analysis.body.nodes :=
        fun argument hargument => argument_mem_nodes hexpr hargument
      have hpaths : ∀ entry ∈ analysis.tracedArguments (refArguments args),
          Node.expr entry.1 ∈ analysis.body.nodes :=
        fun entry hentry => harguments _ (analysis.mem_of_mem_tracedArguments hentry)
      simp only [hmethod, checkCall, Option.bind_eq_bind, Option.bind_some, analysis.traced_map,
        hanalysis.traces?_eq harguments, hanalysis.untraceable?_eq harguments,
        hanalysis.invalidations?_eq hstored, hanalysis.aliases?_eq hpaths]
      split <;> rfl
  | _ => rfl

theorem returnFindings?_eq {stmt : Stmt Site} (hstmt : Node.stmt stmt ∈ analysis.body.nodes) :
    analysis.returnFindings? analysis.body.events stmt.label.index =
      some (analysis.checkReturn? stmt).toList := by
  obtain ⟨method, hmethod, _⟩ := Option.bind_eq_some_iff.mp hanalysis.grounded.method
  rw [returnFindings?, hanalysis.order.getElem?_stmts hstmt, Option.bind_eq_bind, Option.bind_some]
  cases stmt with
  | ret site value =>
      cases value with
      | none => rfl
      | some value =>
          have hvalue := Body.mem_nodes_of_part hstmt (List.mem_singleton_self _)
          simp only [hmethod, checkReturn?, returnsRef, path, Option.any_some,
            hanalysis.trace?_none hvalue, Option.bind_eq_bind, Option.bind_some]
          cases method.returnsRef with
          | false => rfl
          | true => cases (pathOrUnrepresentable (analysis.trace value none)).isScoped <;> rfl
  | _ => rfl

theorem nodeFindings?_eq {node : Node Site} (hnode : node ∈ analysis.body.nodes) :
    analysis.nodeFindings? analysis.body.events node.id = some (analysis.checkNode node) := by
  cases node with
  | stmt stmt => exact hanalysis.returnFindings?_eq hnode
  | expr expr => exact hanalysis.callFindings?_eq hnode

theorem findings?_eq : analysis.findings? = some analysis.findings := by
  obtain ⟨method, hmethod, _⟩ := Option.bind_eq_some_iff.mp hanalysis.grounded.method
  have hreports : analysis.body.nodes.mapM
      (fun node => analysis.nodeFindings? analysis.body.events node.id) =
        some (analysis.body.nodes.map analysis.checkNode) :=
    mapM_eq_some_map fun node hnode => hanalysis.nodeFindings?_eq hnode
  simp only [findings?, hanalysis.order.events?_eq, hanalysis.order.visit?_root,
    Option.bind_eq_bind, Option.bind_some, hreports, hmethod, Option.pure_def]
  rw [findings, List.flatMap_def]

end WellFormed

end Analysis

end RefStability
