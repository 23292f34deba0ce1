import Mathlib.Data.List.Nodup
import Mathlib.Logic.ExistsUnique
import RefStability.Proofs.Resolution
import RefStability.Proofs.ScanOutcome

/-!
# Declared liveness

When a binding is live is said here by the event log alone: by which event binds, which later ones
use the local, and which binds it next. The live bindings that are reported at a position are those,
each once.
-/

namespace RefStability

/-- No event between the two binds the local. -/
def KeptUntil (events : List Event) (target : LocalId) (index later : Nat) : Prop :=
  index < later ∧ ∀ between, index < between → between < later →
    ∀ other, events[between]? = some (.bind other) → other.target ≠ target

/-- The event is a use of the local that does not start before the position, or binds the local to
what starts after the position. -/
def Event.Needs (position : Nat) (target : LocalId) : Event → Prop
  | .use used expr => used = target ∧ position ≤ expr.span.start
  | .bind next => next.target = target ∧ position < next.producer.span.start

/-- The binding that is logged at `index` is live at a position. The item of a loop is live in the
body of the loop. Any other binding is live once it holds, as long as a use is still to come, or as
long as the expression that it is replaced by has not started. -/
def LiveAt (events : List Event) (index : Nat) (binding : Binding) (position : Nat) : Prop :=
  match binding.kind with
  | .loopItem body => body.start ≤ position ∧ position < body.stop
  | _ => binding.position ≤ position ∧ ∃ later event,
      KeptUntil events binding.target index later ∧ events[later]? = some event ∧
        event.Needs position binding.target

/-! ### From the log to the bindings in it -/

variable {position : Nat} {target : LocalId} {events : List Event} {binding : Binding}

theorem neededAt_cons_iff (event : Event) (rest : List Event) :
    neededAt position target (event :: rest) = true ↔
      event.Needs position target ∨
        (∀ other, event = .bind other → other.target ≠ target) ∧
          neededAt position target rest = true := by
  cases event with
  | use used expr => simp [neededAt, Event.Needs]
  | bind next =>
      by_cases htarget : next.target = target
      · simp [neededAt, Event.Needs, htarget]
      · simp [neededAt, Event.Needs, htarget]

theorem neededAt_iff : neededAt position target events = true ↔
    ∃ (later : Nat) (event : Event), (∀ between < later, ∀ other,
        events[between]? = some (.bind other) → other.target ≠ target) ∧
      events[later]? = some event ∧ event.Needs position target := by
  induction events with
  | nil => simp [neededAt]
  | cons first rest ih =>
      rw [neededAt_cons_iff, ih]
      constructor
      · rintro (hneeds | ⟨hfirst, later, event, hkept, hevent, hneeds⟩)
        · exact ⟨0, first, by simp, rfl, hneeds⟩
        · refine ⟨later + 1, event, ?_, hevent, hneeds⟩
          intro between hbetween other hother
          cases between with
          | zero => exact hfirst other (Option.some.inj hother)
          | succ between => exact hkept between (Nat.lt_of_succ_lt_succ hbetween) other hother
      · rintro ⟨later, event, hkept, hevent, hneeds⟩
        cases later with
        | zero =>
            rw [List.getElem?_cons_zero, Option.some.injEq] at hevent
            exact Or.inl (hevent ▸ hneeds)
        | succ later =>
            refine Or.inr ⟨?_, later, event, ?_, hevent, hneeds⟩
            · rintro other rfl
              exact hkept 0 (Nat.succ_pos _) other rfl
            · intro between hbetween other hother
              exact hkept (between + 1) (Nat.succ_lt_succ hbetween) other hother

theorem neededAt_drop_iff {index : Nat} :
    neededAt position target (events.drop (index + 1)) = true ↔
      ∃ later event, KeptUntil events target index later ∧ events[later]? = some event ∧
        event.Needs position target := by
  rw [neededAt_iff]
  constructor
  · rintro ⟨later, event, hkept, hevent, hneeds⟩
    rw [List.getElem?_drop] at hevent
    refine ⟨index + 1 + later, event, ⟨by omega, ?_⟩, hevent, hneeds⟩
    intro between hindex hlater other hother
    apply hkept (between - (index + 1)) (by omega) other
    rwa [List.getElem?_drop, Nat.add_sub_cancel' hindex]
  · rintro ⟨later, event, ⟨hindex, hkept⟩, hevent, hneeds⟩
    refine ⟨later - (index + 1), event, ?_, ?_, hneeds⟩
    · intro between hbetween other hother
      rw [List.getElem?_drop] at hother
      exact hkept (index + 1 + between) (by omega) (by omega) other hother
    · rwa [List.getElem?_drop, Nat.add_sub_cancel' hindex]

theorem isFoundBy_drop_iff {index : Nat} :
    (Tracked.ofBinding binding).isFoundBy position (events.drop (index + 1)) = true ↔
      LiveAt events index binding position := by
  cases hkind : binding.kind with
  | loopItem body =>
      simp only [Tracked.isFoundBy, Tracked.ofBinding, Binding.isLoopItem, hkind, if_true, LiveAt,
        Window.straddles_iff, Window.covering]
      omega
  | ordinary | external =>
      simp only [Tracked.isFoundBy, Tracked.ofBinding, Binding.isLoopItem, hkind, LiveAt,
        Bool.false_eq_true, if_false, Window.openAt, Bool.and_eq_true, decide_eq_true_eq,
        neededAt_drop_iff]

theorem mem_liveBindings_iff : binding ∈ liveBindings position events ↔
    ∃ index, events[index]? = some (.bind binding) ∧
      (Tracked.ofBinding binding).isFoundBy position (events.drop (index + 1)) = true := by
  induction events with
  | nil => simp [liveBindings]
  | cons event rest ih =>
      have hrest : (∃ index, (event :: rest)[index]? = some (.bind binding) ∧
          (Tracked.ofBinding binding).isFoundBy position ((event :: rest).drop (index + 1)) = true) ↔
          (event = .bind binding ∧ (Tracked.ofBinding binding).isFoundBy position rest = true) ∨
            binding ∈ liveBindings position rest := by
        rw [ih]
        constructor
        · rintro ⟨index, hevent, hfound⟩
          cases index with
          | zero => exact Or.inl ⟨Option.some.inj hevent, hfound⟩
          | succ index => exact Or.inr ⟨index, hevent, hfound⟩
        · rintro (⟨rfl, hfound⟩ | ⟨index, hevent, hfound⟩)
          · exact ⟨0, rfl, hfound⟩
          · exact ⟨index + 1, hevent, hfound⟩
      rw [hrest]
      cases event with
      | use used expr => simp [liveBindings]
      | bind first =>
          rw [liveBindings, List.mem_append]
          refine or_congr_left ?_
          split
          · rename_i hfound
            rw [List.mem_singleton, Event.bind.injEq]
            exact ⟨fun heq => ⟨heq.symm, heq ▸ hfound⟩, fun heq => heq.1.symm⟩
          · rename_i hfound
            rw [Event.bind.injEq]
            refine ⟨fun hnil => absurd hnil List.not_mem_nil, ?_⟩
            rintro ⟨rfl, hbinding⟩
            exact absurd hbinding hfound

theorem liveBindings_sublist (events : List Event) :
    (liveBindings position events).Sublist (events.filterMap Event.binding?) := by
  induction events with
  | nil => exact List.Sublist.refl _
  | cons event rest ih =>
      cases event with
      | use used expr => exact ih
      | bind first =>
          change ((if _ then [first] else []) ++ liveBindings position rest).Sublist
            (first :: rest.filterMap Event.binding?)
          split
          · exact ih.cons_cons first
          · exact ih.cons first

/-! ### Only the events of some locals -/

variable (keep : LocalId → Bool)

theorem neededAt_filter (hkeep : keep target = true) :
    neededAt position target (events.filter fun event => keep event.target) =
      neededAt position target events := by
  induction events with
  | nil => rfl
  | cons event rest ih =>
      by_cases htarget : event.target = target
      · rw [List.filter_cons_of_pos (by rw [htarget]; exact hkeep)]
        cases event with
        | use used expr => rw [neededAt, neededAt, ih]
        | bind next =>
            change next.target = target at htarget
            rw [neededAt, neededAt, if_pos htarget, if_pos htarget]
      · rw [neededAt_cons_of_ne htarget, ← ih, List.filter_cons]
        split
        · exact neededAt_cons_of_ne htarget
        · rfl

theorem Tracked.isFoundBy_filter {tracked : Tracked} (hkeep : keep tracked.binding.target = true) :
    tracked.isFoundBy position (events.filter fun event => keep event.target) =
      tracked.isFoundBy position events := by
  unfold isFoundBy
  rw [neededAt_filter keep hkeep]

theorem liveBindings_filter :
    liveBindings position (events.filter fun event => keep event.target) =
      (liveBindings position events).filter fun binding => keep binding.target := by
  induction events with
  | nil => rfl
  | cons event rest ih =>
      cases event with
      | use used expr =>
          rw [List.filter_cons, liveBindings, ← ih]
          split <;> rfl
      | bind first =>
          by_cases hkeep : keep first.target = true
          · have hfound : (Tracked.ofBinding first).isFoundBy position
                (rest.filter fun event => keep event.target) =
                (Tracked.ofBinding first).isFoundBy position rest :=
              Tracked.isFoundBy_filter keep hkeep
            rw [List.filter_cons_of_pos (by exact hkeep), liveBindings, liveBindings, ih, hfound,
              List.filter_append]
            split <;> simp [hkeep]
          · rw [List.filter_cons_of_neg (by exact hkeep), liveBindings, ih, List.filter_append]
            split <;> simp [hkeep]

/-! ### The live bindings of a body -/

namespace Body.IsLaid

variable {body : Body Site}

/-- Bindings are logged in the order in which they come to hold, no two at one position. -/
theorem bindings_position_lt (hlaid : body.IsLaid) :
    (body.events.filterMap Event.binding?).Pairwise fun earlier later =>
      earlier.position < later.position := by
  obtain ⟨hpairwise, hbetween⟩ := hlaid.events_inOrder
  rw [List.pairwise_filterMap]
  refine (List.pairwise_iff_forall_sublist.mpr ?_)
  intro earlier later hsublist left hleft right hright
  have hearlier : earlier ∈ body.events := hsublist.subset List.mem_cons_self
  have hlater : later ∈ body.events := hsublist.subset (List.mem_cons_of_mem _ List.mem_cons_self)
  have hle := List.pairwise_iff_forall_sublist.mp hpairwise hsublist
  have hlt := (hbetween later hlater).2.1
  cases earlier with
  | use target expr => cases hleft
  | bind earlier =>
      cases later with
      | use target expr => cases hright
      | bind later =>
          cases hleft
          cases hright
          rw [(body.events_from _ hearlier).extent_stop] at hle
          rw [(body.events_from _ hlater).extent_stop] at hlt
          omega

theorem bindings_nodup (hlaid : body.IsLaid) : (body.events.filterMap Event.binding?).Nodup := by
  refine hlaid.bindings_position_lt.imp ?_
  rintro left right hlt rfl
  exact Nat.lt_irrefl _ hlt

theorem use_start_lt (hlaid : body.IsLaid) {expr : Expr Site}
    (hevent : Event.use target expr ∈ body.events) : expr.span.start < maxPosition := by
  have hbetween := hlaid.events_inOrder.2 _ hevent
  exact hbetween.2.2

theorem tracksAt_perm (hlaid : body.IsLaid) (position : Nat) :
    ((body.tracksAt position).map fun tracked => tracked.binding).Perm
      ((liveBindings position body.events).filter fun binding =>
        body.isRefLocal binding.target) := by
  have hperm := Scan.finish_foldl_perm (Scan.valid_initial position)
    (body.events.filter fun event => body.isRefLocal event.target)
    fun target expr hmem => hlaid.use_start_lt (List.mem_filter.mp hmem).1
  rwa [Scan.outcome, liveBindings_filter] at hperm

theorem bind_mem_of_mem_tracksAt (hlaid : body.IsLaid) {position : Nat} {tracked : Tracked}
    (htracked : tracked ∈ body.tracksAt position) : .bind tracked.binding ∈ body.events := by
  have hmem := (hlaid.tracksAt_perm position).mem_iff.mp (List.mem_map_of_mem htracked)
  obtain ⟨index, hevent, _⟩ := mem_liveBindings_iff.mp (List.mem_filter.mp hmem).1
  exact List.mem_of_getElem? hevent

end Body.IsLaid

theorem Body.tracksAt_straddles (body : Body Site) (position : Nat) :
    ∀ tracked ∈ body.tracksAt position, tracked.window.straddles position = true := by
  intro tracked htracked
  rcases List.mem_append.mp htracked with hfound | hkept
  · exact (Scan.valid_foldl (Scan.valid_initial position) _).found tracked hfound
  · exact (List.mem_filter.mp hkept).2

namespace Analysis

variable {analysis : Analysis}

theorem liveBinding?_eq_some_iff {tracked : Tracked} {entry : LiveBinding} :
    analysis.liveBinding? tracked = some entry ↔
      ∃ declared, analysis.body.locals[tracked.binding.target]? = some declared ∧
        (analysis.bindingPath tracked.binding).isRepresentable = true ∧
        { binding := tracked.binding, name := declared.name, window := tracked.window,
          path := analysis.bindingPath tracked.binding } = entry := by
  unfold liveBinding?
  cases hdeclared : analysis.body.locals[tracked.binding.target]? with
  | none => simp
  | some declared => simp

/-- Of the bindings that the scan finds, those are reported that can be traced. -/
theorem map_binding_liveAt (analysis : Analysis) (position : Nat) :
    (analysis.liveAt position).map LiveBinding.binding =
      ((analysis.body.tracksAt position).map fun tracked => tracked.binding).filter fun binding =>
        analysis.body.locals[binding.target]?.isSome &&
          (analysis.bindingPath binding).isRepresentable := by
  rw [liveAt, List.map_filterMap, ← List.filterMap_eq_filter, List.filterMap_map]
  congr 1
  funext tracked
  simp only [liveBinding?, Function.comp_apply, Option.guard]
  rcases Option.eq_none_or_eq_some analysis.body.locals[tracked.binding.target]? with
    hdeclared | ⟨declared, hdeclared⟩
  · simp [hdeclared]
  · by_cases hpath : (analysis.bindingPath tracked.binding).isRepresentable = true
    · simp [hdeclared, hpath]
    · simp [hdeclared, hpath]

/-- The reported bindings are the live ones of reference locals that can be traced. -/
theorem liveAt_perm (hlaid : analysis.body.IsLaid) (position : Nat) :
    ((analysis.liveAt position).map LiveBinding.binding).Perm
      ((liveBindings position analysis.body.events).filter fun binding =>
        analysis.body.isRefLocal binding.target &&
          (analysis.bindingPath binding).isRepresentable) := by
  rw [map_binding_liveAt]
  refine ((hlaid.tracksAt_perm position).filter _).trans ?_
  rw [List.filter_filter]
  refine List.Perm.of_eq (List.filter_congr fun binding _ => ?_)
  unfold Body.isRefLocal
  cases analysis.body.locals[binding.target]? with
  | none => rfl
  | some declared => simp [Bool.and_comm]

theorem mem_liveAt_iff (hlaid : analysis.body.IsLaid) {position : Nat} {binding : Binding} :
    binding ∈ (analysis.liveAt position).map LiveBinding.binding ↔
      ∃ index, analysis.body.events[index]? = some (.bind binding) ∧
        analysis.body.isRefLocal binding.target = true ∧
        (analysis.bindingPath binding).isRepresentable = true ∧
        LiveAt analysis.body.events index binding position := by
  rw [(liveAt_perm hlaid position).mem_iff, List.mem_filter, mem_liveBindings_iff,
    Bool.and_eq_true]
  constructor
  · rintro ⟨⟨index, hevent, hfound⟩, href, hpath⟩
    exact ⟨index, hevent, href, hpath, isFoundBy_drop_iff.mp hfound⟩
  · rintro ⟨index, hevent, href, hpath, hlive⟩
    exact ⟨⟨index, hevent, isFoundBy_drop_iff.mpr hlive⟩, href, hpath⟩

theorem liveAt_nodup (hlaid : analysis.body.IsLaid) (position : Nat) :
    ((analysis.liveAt position).map LiveBinding.binding).Nodup := by
  rw [(liveAt_perm hlaid position).nodup_iff]
  exact (hlaid.bindings_nodup.sublist (liveBindings_sublist _)).filter _

theorem of_mem_liveAt {position : Nat} {entry : LiveBinding}
    (hentry : entry ∈ analysis.liveAt position) :
    entry.window.straddles position = true ∧ entry.path = analysis.bindingPath entry.binding ∧
      ∃ declared, analysis.body.locals[entry.binding.target]? = some declared ∧
        entry.name = declared.name := by
  obtain ⟨tracked, htracked, hlive⟩ := List.mem_filterMap.mp hentry
  obtain ⟨declared, hdeclared, _, rfl⟩ := liveBinding?_eq_some_iff.mp hlive
  exact ⟨analysis.body.tracksAt_straddles position tracked htracked, rfl, declared, hdeclared, rfl⟩

end Analysis

/-- At every position the reported bindings are exactly the live ones of reference locals that can be
traced: each of them is reported at one place and nothing else is, with a window that contains the
position. -/
theorem liveAt_eq_declared {document : Document.Program} {analysis : Analysis}
    (hlower : document.lower = .ok analysis.program)
    (hbody : analysis.body ∈ analysis.program.bodies) (position : Nat) :
    (∀ index binding, analysis.body.events[index]? = some (.bind binding) →
      analysis.body.isRefLocal binding.target = true →
      (analysis.bindingPath binding).isRepresentable = true →
      LiveAt analysis.body.events index binding position →
      ∃! place : Nat, (analysis.liveAt position)[place]?.map LiveBinding.binding = some binding) ∧
    ∀ entry ∈ analysis.liveAt position,
      (entry.window.start ≤ position ∧ position < entry.window.stop) ∧
      ∃ index, analysis.body.events[index]? = some (.bind entry.binding) ∧
        analysis.body.isRefLocal entry.binding.target = true ∧
        (analysis.bindingPath entry.binding).isRepresentable = true ∧
        LiveAt analysis.body.events index entry.binding position := by
  have hlaid := Document.Program.lower_laid hlower hbody
  constructor
  · intro index binding hevent href hpath hlive
    have hmem := (Analysis.mem_liveAt_iff hlaid).mpr ⟨index, hevent, href, hpath, hlive⟩
    obtain ⟨place, hplace⟩ := List.mem_iff_getElem?.mp hmem
    simp only [← List.getElem?_map]
    refine ⟨place, hplace, ?_⟩
    intro other hother
    obtain ⟨hlt, _⟩ := List.getElem?_eq_some_iff.mp hother
    exact (List.getElem?_inj hlt (Analysis.liveAt_nodup hlaid position)).mp
      (hother.trans hplace.symm)
  · intro entry hentry
    refine ⟨(Window.straddles_iff _ _).mp (Analysis.of_mem_liveAt hentry).1, ?_⟩
    exact (Analysis.mem_liveAt_iff hlaid).mp (List.mem_map_of_mem hentry)

/-- The reference into the list is live at the call that changes the list. -/
theorem liveAt_eq_declared_list : ∃ (analysis : Analysis) (binding : Binding),
    listDocument.lower = .ok analysis.program ∧ analysis.body ∈ analysis.program.bodies ∧
      analysis.body.events[1]? = some (.bind binding) ∧
      analysis.body.isRefLocal binding.target = true ∧
      (analysis.bindingPath binding).isRepresentable = true ∧
      LiveAt analysis.body.events 1 binding 12 ∧
      ∃! place : Nat, (analysis.liveAt 12)[place]?.map LiveBinding.binding = some binding := by
  have hany : listDocument.anyBody (fun program body =>
      (body.events[1]?.bind Event.binding?).any fun binding =>
        body.isRefLocal binding.target &&
          ((Analysis.mk program body (.ofProgram program) defaultMaxSteps).bindingPath
            binding).isRepresentable &&
          (Tracked.ofBinding binding).isFoundBy 12 (body.events.drop 2)) = true := by
    decide +kernel
  obtain ⟨program, body, hlower, hbody, htest⟩ := Document.Program.exists_of_anyBody hany
  obtain ⟨binding, hbinding, htest⟩ := (Option.any_eq_true _ _).mp htest
  have hevent := getElem?_eq_bind hbinding
  rw [Bool.and_eq_true, Bool.and_eq_true] at htest
  obtain ⟨⟨href, hpath⟩, hfound⟩ := htest
  have hlive := isFoundBy_drop_iff.mp hfound
  refine ⟨⟨program, body, .ofProgram program, defaultMaxSteps⟩, binding, hlower, hbody, hevent,
    href, hpath, hlive, ?_⟩
  exact (liveAt_eq_declared hlower hbody 12).1 1 binding hevent href hpath hlive

end RefStability
