import RefStability.Finding.Check
import RefStability.Proofs.ReadThrough
import RefStability.Proofs.Roots

/-!
# References that escape their scope

A returned reference escapes if the expressions it derives from, one after the other, lead to a
handle that gives access for a while. Of all this a walk keeps one mark, which it sets at its last
step. A return is reported if and only if the method returns a reference and the value leads to such
a handle before the steps run out; a value that leads to any other root, that cannot be traced, or
that lies too far from its root, is not reported.
-/

namespace RefStability

/-- The value of a return statement that has one. -/
def Stmt.returned? {Label : Type} : Stmt Label → Option (Expr Label)
  | .ret _ value => value
  | _ => none

namespace Analysis

section Chains

variable (analysis : Analysis)

/-- An expression leads to another one in a number of steps, each to what it derives from. -/
inductive Follows : Nat → Expr Site → Expr Site → Prop
  | here (expr : Expr Site) : Follows 0 expr expr
  | next {steps : Nat} {expr next last : Expr Site} {extend : Path → Path}
      (hderives : analysis.Derives expr next extend) (hrest : Follows steps next last) :
      Follows (steps + 1) expr last

/-- The expression names a local that holds a scope handle. -/
def NamesHandle (expr : Expr Site) : Prop :=
  ∃ site target declared, expr = .localVar site target ∧
    analysis.body.locals[target]? = some declared ∧ declared.kind = .scopeHandle

/-- The expression names a root that is no scope handle. -/
inductive NamesUnscoped : Expr Site → Prop
  | value {site : Site} {target : LocalId} {declared : LocalDecl Site}
      (hlocal : analysis.body.locals[target]? = some declared) (hkind : declared.kind = .value) :
      NamesUnscoped (.localVar site target)
  | param {site : Site} {target : ParamId} {declared : ParamDecl Site}
      (hparam : analysis.body.params[target]? = some declared) :
      NamesUnscoped (.param site target)
  | staticField (site : Site) (name : String) (ty : TypeId) :
      NamesUnscoped (.staticField site name ty)

/-- A scope handle is reached before the steps run out. -/
def Escapes (value : Expr Site) : Prop :=
  ∃ steps handle, steps < analysis.maxSteps ∧ analysis.Follows steps value handle ∧
    analysis.NamesHandle handle

end Chains

variable {analysis : Analysis}

/-! ### Every chain goes one way -/

theorem Derives.next_unique {expr left right : Expr Site} {extend other : Path → Path}
    (hleft : analysis.Derives expr left extend) (hright : analysis.Derives expr right other) :
    left = right := by
  obtain ⟨_, _, _, hleft⟩ := hleft.step_eq Trail.valid_empty
  obtain ⟨_, _, _, hright⟩ := hright.step_eq Trail.valid_empty
  cases hleft.symm.trans hright
  rfl

theorem Stops.ne_stepLimit {expr : Expr Site} {result : Except TraceFailure Path}
    (hstops : analysis.Stops expr result) (limit : Nat) : result ≠ .error (.stepLimit limit) := by
  cases hstops <;> simp

theorem Stops.result_unique {expr : Expr Site} {left right : Except TraceFailure Path}
    (hleft : analysis.Stops expr left) (hright : analysis.Stops expr right) : left = right :=
  (hleft.walk_empty 0).symm.trans (hright.walk_empty 0)

theorem Stops.not_derives {expr next : Expr Site} {result : Except TraceFailure Path}
    {extend : Path → Path} (hstops : analysis.Stops expr result) :
    ¬analysis.Derives expr next extend := by
  intro hderives
  -- One step would be enough for an expression that stops, and too few for one that does not.
  obtain ⟨longer, _, _, hstep⟩ := hderives.step_eq Trail.valid_empty
  have hwalk := hstops.walk_empty 0
  simp only [walk, hstep] at hwalk
  exact hstops.ne_stepLimit analysis.maxSteps hwalk.symm

theorem Follows.unique {steps : Nat} {expr left right : Expr Site}
    (hleft : analysis.Follows steps expr left) (hright : analysis.Follows steps expr right) :
    left = right := by
  induction hleft with
  | here expr =>
      cases hright
      rfl
  | next hderives hrest ih =>
      cases hright with
      | next hother hright =>
          cases hderives.next_unique hother
          exact ih hright

/-- Nothing follows on an expression that stops. -/
theorem Follows.le_of_stops {few many : Nat} {expr last stop : Expr Site}
    {result : Except TraceFailure Path} (hmany : analysis.Follows many expr last)
    (hfew : analysis.Follows few expr stop) (hstops : analysis.Stops stop result) :
    many ≤ few := by
  induction hfew generalizing many with
  | here expr =>
      cases hmany with
      | here => exact Nat.le_refl _
      | next hderives _ => exact absurd hderives hstops.not_derives
  | next hderives hrest ih =>
      cases hmany with
      | here => exact Nat.zero_le _
      | next hother hmany =>
          cases hderives.next_unique hother
          exact Nat.succ_le_succ (ih hmany hstops)

theorem Follows.stop_unique {leftSteps rightSteps : Nat} {expr left right : Expr Site}
    {leftResult rightResult : Except TraceFailure Path}
    (hleft : analysis.Follows leftSteps expr left) (hleftStops : analysis.Stops left leftResult)
    (hright : analysis.Follows rightSteps expr right)
    (hrightStops : analysis.Stops right rightResult) : left = right := by
  have hsteps : leftSteps = rightSteps := Nat.le_antisymm
    (hleft.le_of_stops hright hrightStops) (hright.le_of_stops hleft hleftStops)
  subst hsteps
  exact hleft.unique hright

/-- Every chain comes to an end within the steps, or it has that many steps. -/
theorem follows_stops_or_all (analysis : Analysis) (steps : Nat) (expr : Expr Site) :
    (∃ fewer last result, fewer < steps ∧ analysis.Follows fewer expr last ∧
      analysis.Stops last result) ∨ ∃ last, analysis.Follows steps expr last := by
  induction steps generalizing expr with
  | zero => exact .inr ⟨expr, .here expr⟩
  | succ steps ih =>
      rcases analysis.stops_or_derives expr with ⟨result, hstops⟩ | ⟨next, extend, hderives⟩
      · exact .inl ⟨0, expr, result, Nat.succ_pos _, .here expr, hstops⟩
      · rcases ih next with ⟨fewer, last, result, hlt, hfollows, hstops⟩ | ⟨last, hfollows⟩
        · exact .inl ⟨fewer + 1, last, result, Nat.succ_lt_succ hlt, .next hderives hfollows,
            hstops⟩
        · exact .inr ⟨last, .next hderives hfollows⟩

/-! ### The mark of a walk -/

theorem CallDerives.isScoped_extend {id : MethodId} {method : Method Site} {ty : TypeId}
    {position : Nat} {extend : Path → Path}
    (hcall : analysis.CallDerives id method ty position extend) (path : Path) :
    (extend path).isScoped = path.isScoped := by
  cases hcall <;> rfl

theorem Derives.isScoped_extend {expr next : Expr Site} {extend : Path → Path}
    (hderives : analysis.Derives expr next extend) (path : Path) :
    (extend path).isScoped = path.isScoped := by
  cases hderives with
  | call hmethod hcall hargument => exact hcall.isScoped_extend path
  | _ => rfl

theorem Derives.walk_eq {expr next : Expr Site} {extend : Path → Path}
    (hderives : analysis.Derives expr next extend) (steps : Nat) :
    analysis.walk (steps + 1) .empty expr = (analysis.walk steps .empty next).map extend := by
  obtain ⟨longer, hlonger, hafter, hstep⟩ := hderives.step_eq Trail.valid_empty
  have hextend : longer.after = extend := by
    funext path
    rw [hafter, Trail.after_empty]
  simp only [walk, hstep]
  rw [walk_eq_map_after hlonger, hextend]

/-- The mark of a result; a failure has none. -/
def isScopedResult (result : Except TraceFailure Path) : Bool :=
  (pathOrUnrepresentable result).isScoped

theorem isScopedResult_map {extend : Path → Path}
    (hextend : ∀ path, (extend path).isScoped = path.isScoped)
    (result : Except TraceFailure Path) :
    isScopedResult (result.map extend) = isScopedResult result := by
  cases result with
  | error failure => rfl
  | ok path => exact hextend path

/-- The steps of a chain change nothing about the mark. -/
theorem Follows.isScopedResult_walk {steps : Nat} {expr last : Expr Site}
    (hfollows : analysis.Follows steps expr last) (left : Nat) :
    isScopedResult (analysis.walk (left + steps) .empty expr) =
      isScopedResult (analysis.walk left .empty last) := by
  induction hfollows with
  | here expr => rfl
  | @next steps expr next last extend hderives hrest ih =>
      rw [← Nat.add_assoc, hderives.walk_eq, isScopedResult_map hderives.isScoped_extend, ih]

theorem Stops.namesHandle {expr : Expr Site} {result : Except TraceFailure Path}
    (hstops : analysis.Stops expr result) (hscoped : isScopedResult result = true) :
    analysis.NamesHandle expr := by
  cases hstops with
  | scopeHandle hlocal hkind => exact ⟨_, _, _, rfl, hlocal, hkind⟩
  | _ => cases hscoped

theorem NamesHandle.stops {expr : Expr Site} (hhandle : analysis.NamesHandle expr) :
    ∃ result, analysis.Stops expr result ∧ isScopedResult result = true := by
  obtain ⟨site, target, declared, rfl, hlocal, hkind⟩ := hhandle
  exact ⟨_, .scopeHandle hlocal hkind, rfl⟩

theorem NamesUnscoped.stops {expr : Expr Site} (hroot : analysis.NamesUnscoped expr) :
    ∃ result, analysis.Stops expr result ∧ isScopedResult result = false := by
  cases hroot with
  | value hlocal hkind => exact ⟨_, .value hlocal hkind, rfl⟩
  | param hparam => exact ⟨_, .param hparam, rfl⟩
  | staticField site name ty => exact ⟨_, .staticField site name ty, rfl⟩

theorem Follows.isScoped_path {steps : Nat} {value last : Expr Site}
    {result : Except TraceFailure Path} (hfollows : analysis.Follows steps value last)
    (hstops : analysis.Stops last result) (hlt : steps < analysis.maxSteps) :
    (analysis.path value none).isScoped = isScopedResult result := by
  obtain ⟨left, hleft⟩ := Nat.exists_eq_add_of_lt hlt
  have hsteps : analysis.maxSteps = left + 1 + steps := by omega
  change isScopedResult (analysis.walk analysis.maxSteps .empty value) = _
  rw [hsteps, hfollows.isScopedResult_walk, hstops.walk_empty]

theorem Follows.isScoped_path_of_maxSteps {value last : Expr Site}
    (hfollows : analysis.Follows analysis.maxSteps value last) :
    (analysis.path value none).isScoped = false := by
  change isScopedResult (analysis.walk analysis.maxSteps .empty value) = false
  rw [← Nat.zero_add analysis.maxSteps, hfollows.isScopedResult_walk]
  rfl

theorem isScoped_path_iff (analysis : Analysis) (value : Expr Site) :
    (analysis.path value none).isScoped = true ↔ analysis.Escapes value := by
  constructor
  · intro hscoped
    rcases analysis.follows_stops_or_all analysis.maxSteps value with
      ⟨steps, last, result, hlt, hfollows, hstops⟩ | ⟨last, hfollows⟩
    · rw [hfollows.isScoped_path hstops hlt] at hscoped
      exact ⟨steps, last, hlt, hfollows, hstops.namesHandle hscoped⟩
    · rw [hfollows.isScoped_path_of_maxSteps] at hscoped
      cases hscoped
  · rintro ⟨steps, handle, hlt, hfollows, hhandle⟩
    obtain ⟨result, hstops, hscoped⟩ := hhandle.stops
    rw [hfollows.isScoped_path hstops hlt, hscoped]

/-- A chain that ends anywhere but at a scope handle does not escape. -/
theorem Follows.not_escapes {steps : Nat} {value last : Expr Site}
    {result : Except TraceFailure Path} (hfollows : analysis.Follows steps value last)
    (hstops : analysis.Stops last result) (hscoped : isScopedResult result = false) :
    ¬analysis.Escapes value := by
  rintro ⟨_, handle, _, hhandleFollows, hhandle⟩
  obtain ⟨other, hother, hotherScoped⟩ := hhandle.stops
  cases hfollows.stop_unique hstops hhandleFollows hother
  rw [hstops.result_unique hother, hotherScoped] at hscoped
  cases hscoped

/-- Nor does one that has not ended when the steps run out. -/
theorem Follows.not_escapes_of_maxSteps {value last : Expr Site}
    (hfollows : analysis.Follows analysis.maxSteps value last) : ¬analysis.Escapes value := by
  rintro ⟨steps, handle, hlt, hhandleFollows, hhandle⟩
  obtain ⟨_, hstops, _⟩ := hhandle.stops
  exact Nat.not_lt.mpr (hfollows.le_of_stops hhandleFollows hstops) hlt

/-! ### Returns -/

theorem checkReturn?_of_returned?_eq_none (analysis : Analysis) {stmt : Stmt Site}
    (hreturned : stmt.returned? = none) : analysis.checkReturn? stmt = none := by
  cases stmt with
  | ret site value =>
      cases hreturned
      rfl
  | _ => rfl

theorem checkReturn?_isSome_iff (analysis : Analysis) {stmt : Stmt Site} {value : Expr Site}
    (hreturned : stmt.returned? = some value) :
    (analysis.checkReturn? stmt).isSome = true ↔
      analysis.returnsRef = true ∧ analysis.Escapes value := by
  cases stmt with
  | ret site _ =>
      cases hreturned
      rw [checkReturn?, ← isScoped_path_iff, ← Bool.and_eq_true_iff]
      split
      · rename_i hreported
        exact iff_of_true rfl hreported
      · rename_i hreported
        exact iff_of_false (by simp) hreported
  | _ => cases hreturned

theorem checkReturn?_eq_none_of_not_escapes {stmt : Stmt Site} {value : Expr Site}
    (hreturned : stmt.returned? = some value) (hvalue : ¬analysis.Escapes value) :
    analysis.checkReturn? stmt = none := by
  rw [← Option.not_isSome_iff_eq_none, analysis.checkReturn?_isSome_iff hreturned]
  exact fun hreported => hvalue hreported.2

end Analysis

/-- A return is reported if and only if the method returns a reference and the returned value leads
to a scope handle before the steps run out. A value that leads to another root, that cannot be
traced, or whose chain is longer than the bound, is never reported. -/
theorem return_reported_iff_escapes (analysis : Analysis) (stmt : Stmt Site) :
    ((analysis.checkReturn? stmt).isSome = true ↔ analysis.returnsRef = true ∧
      ∃ value, stmt.returned? = some value ∧ analysis.Escapes value) ∧
    ∀ value, stmt.returned? = some value →
      (∀ steps root, analysis.Follows steps value root → analysis.NamesUnscoped root →
        analysis.checkReturn? stmt = none) ∧
      (∀ steps last failure, analysis.Follows steps value last →
        analysis.Stops last (.error failure) → analysis.checkReturn? stmt = none) ∧
      ∀ last, analysis.Follows analysis.maxSteps value last →
        analysis.checkReturn? stmt = none := by
  constructor
  · cases hreturned : stmt.returned? with
    | none =>
        rw [analysis.checkReturn?_of_returned?_eq_none hreturned]
        exact iff_of_false (by simp) (by simp)
    | some value => simp [analysis.checkReturn?_isSome_iff hreturned]
  · intro value hreturned
    refine ⟨?_, ?_, ?_⟩
    · intro steps root hfollows hroot
      obtain ⟨result, hstops, hscoped⟩ := hroot.stops
      exact Analysis.checkReturn?_eq_none_of_not_escapes hreturned
        (hfollows.not_escapes hstops hscoped)
    · intro steps last failure hfollows hstops
      exact Analysis.checkReturn?_eq_none_of_not_escapes hreturned
        (hfollows.not_escapes hstops rfl)
    · intro last hfollows
      exact Analysis.checkReturn?_eq_none_of_not_escapes hreturned
        hfollows.not_escapes_of_maxSteps

/-- A loop over a view of what a template leads to, below a scope handle; the field of an item is
returned, and after the loop a parameter. -/
def guardDocument : Document.Program where
  file := 0
  types := [⟨"List", true⟩, ⟨"Item", false⟩]
  methods :=
    [{ name := "Slot", signature := none, params := [⟨"store", some "List", true⟩], kind := .plain
       path := some ["store", "!", "slots"], returnsRef := true, locals := [], body := none },
     { name := "AsSpan", signature := none, params := [⟨"list", some "List", true⟩]
       kind := .viewConversion, path := none, returnsRef := true, locals := [], body := none },
     { name := "run", signature := none, params := [⟨"list", some "List", true⟩], kind := .plain
       path := none, returnsRef := true
       locals := [⟨"guard", some "List", .scopeHandle⟩, ⟨"r", some "Item", .ref⟩,
         ⟨"item", some "Item", .ref⟩]
       body := some
        [.declare "r" (some (.call "Slot" [(.ref, .scopeValue (.ident "guard") none)] none)),
         .forEach "item" (.slice (.call "AsSpan" [(.ref, .ident "r")] none) [] none)
          [.ret (some (.field (.ident "item") "size" none))],
         .ret (some (.ident "list"))] }]

/-- The handle lies seven steps from the first value that is returned, so that it takes eight steps
to see it; the second value is a parameter. -/
theorem return_reported_iff_escapes_guard : ∃ (analysis : Analysis) (first last : Stmt Site),
    guardDocument.lower = .ok analysis.program ∧ analysis.body ∈ analysis.program.bodies ∧
      first ∈ analysis.body.stmts ∧ last ∈ analysis.body.stmts ∧ analysis.returnsRef = true ∧
      (∃ value, first.returned? = some value ∧ analysis.Escapes value ∧
        ¬(analysis.withMaxSteps 7).Escapes value) ∧
      (∃ site, last.returned? = some (.param site 0)) ∧ analysis.checkReturn? last = none := by
  have hany : guardDocument.anyBody (fun program body =>
      let analysis := Analysis.mk program body (.ofProgram program) 8
      body.params.length == 1 && body.stmts[2]?.any (fun first => body.stmts[5]?.any fun last =>
        (analysis.checkReturn? first).isSome &&
          !((analysis.withMaxSteps 7).checkReturn? first).isSome &&
          last.returned?.any fun value => value.root? = some (.param 0))) = true := by
    decide +kernel
  obtain ⟨program, body, hlower, hbody, htest⟩ := Document.Program.exists_of_anyBody hany
  obtain ⟨hparams, htest⟩ := Bool.and_eq_true_iff.mp htest
  obtain ⟨first, hfirst, htest⟩ := (Option.any_eq_true _ _).mp htest
  obtain ⟨last, hlast, htest⟩ := (Option.any_eq_true _ _).mp htest
  simp only [Bool.and_eq_true, Bool.not_eq_true'] at htest
  obtain ⟨⟨hreported, hcut⟩, htest⟩ := htest
  obtain ⟨other, hother, hroot⟩ := (Option.any_eq_true _ _).mp htest
  let analysis : Analysis := ⟨program, body, .ofProgram program, 8⟩
  obtain ⟨href, value, hvalue, hescapes⟩ :=
    (return_reported_iff_escapes analysis first).1.mp hreported
  have hparam : ∃ site, other = .param site 0 := by
    have hroot := of_decide_eq_true hroot
    cases other with
    | param site target =>
        cases hroot
        exact ⟨site, rfl⟩
    | _ => cases hroot
  obtain ⟨site, rfl⟩ := hparam
  have hdeclared : analysis.body.params[0]? = some _ :=
    List.getElem?_eq_getElem (by rw [eq_of_beq hparams]; exact Nat.one_pos)
  refine ⟨analysis, first, last, hlower, hbody, List.mem_of_getElem? hfirst,
    List.mem_of_getElem? hlast, href, ⟨value, hvalue, hescapes, fun hseven => ?_⟩, ⟨site, hother⟩,
    ((return_reported_iff_escapes analysis last).2 _ hother).1 0 _ (.here _) (.param hdeclared)⟩
  have hreported := (return_reported_iff_escapes (analysis.withMaxSteps 7) first).1.mpr
    ⟨href, value, hvalue, hseven⟩
  cases hcut.symm.trans hreported

end RefStability
