import Mathlib.Data.List.Nodup
import Mathlib.Data.List.Perm.Basic
import RefStability.Liveness.Scan

/-!
# The scan finds exactly the live bindings

The scan goes over the log once and keeps at most one binding of each local. What it will have found
in the end is told from where it stands: what it has found, those of the bindings it keeps that a
later event will show to be live, and those that the rest of the log binds and shows to be live.
Every step leaves this outcome as it is, up to order.
-/

namespace RefStability

/-! ### Live by the rest of the log -/

/-- Before the local is bound again it is used at the position or later, or what it is bound to then
starts after the position. -/
def neededAt (position : Nat) (target : LocalId) : List Event → Bool
  | [] => false
  | .use used expr :: rest =>
    (used == target && position ≤ expr.span.start) || neededAt position target rest
  | .bind binding :: rest =>
    if binding.target = target then position < binding.producer.span.start
    else neededAt position target rest

/-- Whether the scan will find the binding, given the events to come. -/
def Tracked.isFoundBy (position : Nat) (events : List Event) (tracked : Tracked) : Bool :=
  if tracked.binding.isLoopItem then tracked.window.straddles position
  else tracked.window.start ≤ position && neededAt position tracked.binding.target events

/-- The bindings in the log that are live at a position, judged by the events that follow them. -/
def liveBindings (position : Nat) : List Event → List Binding
  | [] => []
  | .use _ _ :: rest => liveBindings position rest
  | .bind binding :: rest =>
    (if (Tracked.ofBinding binding).isFoundBy position rest then [binding] else []) ++
      liveBindings position rest

theorem neededAt_cons_of_ne {position : Nat} {target : LocalId} {event : Event} {rest : List Event}
    (hne : event.target ≠ target) :
    neededAt position target (event :: rest) = neededAt position target rest := by
  cases event with
  | use used expr =>
      have hused : (used == target) = false := beq_eq_false_iff_ne.mpr hne
      rw [neededAt, hused, Bool.false_and, Bool.false_or]
  | bind binding => exact if_neg hne

/-! ### Windows -/

namespace Window

theorem straddles_iff (window : Window) (position : Nat) :
    window.straddles position = true ↔ window.start ≤ position ∧ position < window.stop := by
  simp [straddles]

theorem not_straddles_openAt (start position : Nat) :
    (openAt start).straddles position = false := by
  rw [Bool.eq_false_iff, Ne, straddles_iff]
  exact fun hstraddles => Nat.not_lt.mpr hstraddles.1 hstraddles.2

theorem straddles_closeAt (window : Window) (stop position : Nat) :
    (window.closeAt stop).straddles position =
      (window.start ≤ position && position < stop : Bool) := by
  rw [Bool.eq_iff_iff, straddles_iff, closeAt, covering]
  simp only [Bool.and_eq_true, decide_eq_true_eq]
  omega

theorem straddles_extendTo {window : Window} {position used : Nat} (hused : used < maxPosition)
    (hbefore : window.straddles position = false) :
    (window.extendTo used).straddles position =
      (window.start ≤ position && position ≤ used : Bool) := by
  rw [Bool.eq_false_iff, Ne, straddles_iff] at hbefore
  rw [Bool.eq_iff_iff, straddles_iff, extendTo]
  simp only [Bool.and_eq_true, decide_eq_true_eq]
  omega

end Window

/-! ### What an event says about a binding -/

namespace Tracked

variable {position : Nat} {rest : List Event} {old : Tracked}

def extendTo (old : Tracked) (usedAt : Nat) : Tracked :=
  { old with window := old.window.extendTo usedAt }

theorem isFoundBy_cons_of_ne {event : Event} (hne : event.target ≠ old.binding.target) :
    old.isFoundBy position (event :: rest) = old.isFoundBy position rest := by
  unfold isFoundBy
  rw [neededAt_cons_of_ne hne]

theorem isFoundBy_bind {binding : Binding} (htarget : old.binding.target = binding.target) :
    old.isFoundBy position (.bind binding :: rest) =
      (old.replacedBy binding).window.straddles position := by
  unfold isFoundBy replacedBy
  split
  · rfl
  · rw [Window.straddles_closeAt, neededAt, if_pos htarget.symm]

theorem binding_replacedBy (old : Tracked) (binding : Binding) :
    (old.replacedBy binding).binding = old.binding := by
  unfold replacedBy
  split <;> rfl

/-- A use shows that a binding is live, or leaves it to the events that follow. -/
theorem isFoundBy_use {expr : Expr Site} (hstart : expr.span.start < maxPosition)
    (hloop : old.binding.isLoopItem = false) (hwaiting : old.window.straddles position = false) :
    old.isFoundBy position (.use old.binding.target expr :: rest) =
      ((old.extendTo expr.span.start).window.straddles position ||
        (old.extendTo expr.span.start).isFoundBy position rest) := by
  have hstraddles := Window.straddles_extendTo hstart hwaiting
  simp only [isFoundBy, extendTo, hloop, Bool.false_eq_true, if_false, neededAt, hstraddles,
    beq_self_eq_true, Bool.true_and]
  rw [Bool.and_or_distrib_left]
  rfl

end Tracked

/-! ### What the scan keeps -/

namespace Scan

/-- At most one binding of each local is kept, none that could have been found already, and what has
been found contains the position. -/
structure Valid (position : Nat) (scan : Scan) : Prop where
  nodup : (scan.tracked.map fun tracked => tracked.binding.target).Nodup
  waiting : ∀ tracked ∈ scan.tracked, tracked.binding.isLoopItem = false →
    tracked.window.straddles position = false
  found : ∀ tracked ∈ scan.found, tracked.window.straddles position = true

theorem valid_initial (position : Nat) : initial.Valid position where
  nodup := List.nodup_nil
  waiting := by simp [initial]
  found := by simp [initial]

variable {position : Nat} {scan : Scan} {target : LocalId} {tracked : Tracked}

theorem target_of_tracked? (htracked : scan.tracked? target = some tracked) :
    tracked ∈ scan.tracked ∧ tracked.binding.target = target := by
  have hfound := List.find?_some htracked
  exact ⟨List.mem_of_find?_eq_some htracked, eq_of_beq hfound⟩

theorem ne_of_mem_forget (htracked : tracked ∈ scan.forget target) :
    tracked.binding.target ≠ target :=
  bne_iff_ne.mp (List.mem_filter.mp htracked).2

theorem forget_of_tracked?_none (htracked : scan.tracked? target = none) :
    scan.forget target = scan.tracked := by
  apply List.filter_eq_self.mpr
  intro tracked hmem
  have hnot := List.find?_eq_none.mp htracked tracked hmem
  simpa using hnot

theorem nodup_forget (hscan : scan.Valid position) (target : LocalId) :
    ((scan.forget target).map fun tracked => tracked.binding.target).Nodup :=
  hscan.nodup.sublist ((List.filter_sublist).map _)

/-- The binding that is kept for a local stands beside those of the other locals. -/
theorem tracked_perm (hscan : scan.Valid position)
    (htracked : scan.tracked? target = some tracked) :
    scan.tracked.Perm (tracked :: scan.forget target) := by
  obtain ⟨before, after, hsplit, hnot⟩ : ∃ before after, scan.tracked = before ++ tracked :: after ∧
      ∀ other ∈ before ++ after, other.binding.target ≠ target := by
    obtain ⟨hmem, htarget⟩ := target_of_tracked? htracked
    obtain ⟨before, after, hsplit⟩ := List.append_of_mem hmem
    refine ⟨before, after, hsplit, ?_⟩
    intro other hother hsame
    have hnodup := hscan.nodup
    rw [hsplit] at hnodup
    have hfresh := ((List.perm_middle.map _).nodup_iff.mp hnodup)
    rw [List.map_cons, List.nodup_cons] at hfresh
    exact hfresh.1 (List.mem_map.mpr ⟨other, hother, hsame.trans htarget.symm⟩)
  have hforget : scan.forget target = before ++ after := by
    have hself := (target_of_tracked? htracked).2
    rw [forget, hsplit, List.filter_append, List.filter_cons_of_neg (by simp [hself]),
      ← List.filter_append]
    exact List.filter_eq_self.mpr fun other hother => bne_iff_ne.mpr (hnot other hother)
  rw [hforget, hsplit]
  exact List.perm_middle

theorem valid_bind (hscan : scan.Valid position) (binding : Binding) :
    (scan.bind position binding).Valid position where
  nodup := by
    rw [bind, List.map_append, List.nodup_append]
    refine ⟨nodup_forget hscan _, List.nodup_singleton _, ?_⟩
    intro left hleft right hright
    obtain ⟨other, hother, rfl⟩ := List.mem_map.mp hleft
    rw [List.mem_singleton.mp hright]
    exact ne_of_mem_forget hother
  waiting := by
    intro tracked htracked hloop
    rcases List.mem_append.mp htracked with htracked | htracked
    · exact hscan.waiting tracked (List.mem_filter.mp htracked).1 hloop
    · rw [List.mem_singleton.mp htracked] at hloop ⊢
      cases hkind : binding.kind with
      | loopItem body => simp [Tracked.ofBinding, Binding.isLoopItem, hkind] at hloop
      | ordinary | external =>
          simp only [Tracked.ofBinding, hkind]
          exact Window.not_straddles_openAt _ _
  found := by
    unfold bind
    split
    · exact hscan.found
    · rename_i old _
      dsimp only
      split
      · rename_i hclosed
        intro tracked htracked
        rcases List.mem_append.mp htracked with htracked | htracked
        · exact hscan.found tracked htracked
        · rw [List.mem_singleton.mp htracked]
          exact hclosed
      · exact hscan.found

theorem valid_use (hscan : scan.Valid position) (target : LocalId) (usedAt : Nat) :
    (scan.use position target usedAt).Valid position := by
  unfold use
  split
  · exact hscan
  · rename_i old hold
    dsimp only
    split
    · exact hscan
    · split
      · rename_i hextended
        refine ⟨nodup_forget hscan target, ?_, ?_⟩
        · intro tracked htracked
          exact hscan.waiting tracked (List.mem_filter.mp htracked).1
        · intro tracked htracked
          rcases List.mem_append.mp htracked with htracked | htracked
          · exact hscan.found tracked htracked
          · rw [List.mem_singleton.mp htracked]
            exact hextended
      · rename_i hextended
        refine ⟨?_, ?_, hscan.found⟩
        · rw [List.map_map]
          have htargets : scan.tracked.map ((fun tracked => tracked.binding.target) ∘ fun other =>
              if other.binding.target == target then
                { old with window := old.window.extendTo usedAt } else other) =
              scan.tracked.map fun tracked => tracked.binding.target := by
            apply List.map_congr_left
            intro other _
            by_cases hother : other.binding.target = target
            · simp [hother, (target_of_tracked? hold).2]
            · simp [hother]
          rw [htargets]
          exact hscan.nodup
        · intro tracked htracked hloop
          obtain ⟨other, hother, rfl⟩ := List.mem_map.mp htracked
          by_cases hsame : other.binding.target = target
          · rw [if_pos (beq_iff_eq.mpr hsame)]
            exact Bool.eq_false_iff.mpr hextended
          · rw [if_neg (mt eq_of_beq hsame)] at hloop ⊢
            exact hscan.waiting other hother hloop

theorem valid_step (hscan : scan.Valid position) (event : Event) :
    (scan.step position event).Valid position := by
  cases event with
  | bind binding => exact valid_bind hscan binding
  | use target expr => exact valid_use hscan target expr.span.start

theorem valid_foldl (hscan : scan.Valid position) (events : List Event) :
    (events.foldl (step position) scan).Valid position := by
  induction events generalizing scan with
  | nil => exact hscan
  | cons event rest ih => exact ih (valid_step hscan event)

/-! ### The outcome of a scan -/

/-- The bindings among those kept that the events to come show to be live. -/
def waitingFor (position : Nat) (events : List Event) (tracked : List Tracked) : List Binding :=
  (tracked.filter (Tracked.isFoundBy position events)).map fun tracked => tracked.binding

/-- What will have been found after the events to come. -/
def outcome (position : Nat) (events : List Event) (scan : Scan) : List Binding :=
  scan.found.map (fun tracked => tracked.binding) ++
    (waitingFor position events scan.tracked ++ liveBindings position events)

variable {events rest : List Event}

theorem waitingFor_perm (position : Nat) (events : List Event) {left right : List Tracked}
    (hperm : left.Perm right) :
    (waitingFor position events left).Perm (waitingFor position events right) :=
  (hperm.filter _).map _

theorem waitingFor_cons (tracked : Tracked) (others : List Tracked) :
    waitingFor position events (tracked :: others) =
      (if tracked.isFoundBy position events then [tracked.binding] else []) ++
        waitingFor position events others := by
  unfold waitingFor
  rw [List.filter_cons]
  split <;> rfl

theorem waitingFor_append (left right : List Tracked) :
    waitingFor position events (left ++ right) =
      waitingFor position events left ++ waitingFor position events right := by
  simp [waitingFor]

theorem waitingFor_cons_event {event : Event} {others : List Tracked}
    (hothers : ∀ other ∈ others, other.binding.target ≠ event.target) :
    waitingFor position (event :: rest) others = waitingFor position rest others := by
  unfold waitingFor
  congr 1
  apply List.filter_congr
  intro other hother
  exact Tracked.isFoundBy_cons_of_ne (hothers other hother).symm

theorem outcome_bind (hscan : scan.Valid position) (binding : Binding) :
    ((scan.bind position binding).outcome position rest).Perm
      (scan.outcome position (.bind binding :: rest)) := by
  have hothers : ∀ other ∈ scan.forget binding.target,
      other.binding.target ≠ (Event.bind binding).target := fun other hother =>
    ne_of_mem_forget hother
  have hnew : waitingFor position rest (scan.forget binding.target ++ [.ofBinding binding]) ++
      liveBindings position rest =
      waitingFor position rest (scan.forget binding.target) ++
        liveBindings position (.bind binding :: rest) := by
    rw [waitingFor_append, waitingFor_cons, liveBindings, List.append_assoc, List.append_assoc]
    rfl
  cases hold : scan.tracked? binding.target with
  | none =>
      simp only [outcome, bind, hold]
      rw [hnew, ← waitingFor_cons_event hothers, forget_of_tracked?_none hold]
  | some old =>
      have hsplit := (waitingFor_perm position (.bind binding :: rest)
        (tracked_perm hscan hold)).symm
      rw [waitingFor_cons, waitingFor_cons_event hothers,
        Tracked.isFoundBy_bind (target_of_tracked? hold).2] at hsplit
      have hfound : (scan.bind position binding).found.map (fun tracked => tracked.binding) =
          scan.found.map (fun tracked => tracked.binding) ++
            if (old.replacedBy binding).window.straddles position then [old.binding] else [] := by
        simp only [bind, hold]
        split
        · rw [List.map_append, List.map_singleton, Tracked.binding_replacedBy]
        · rw [List.append_nil]
      simp only [outcome]
      rw [hfound]
      simp only [bind]
      rw [hnew, List.append_assoc, ← List.append_assoc _ (waitingFor _ _ _)]
      exact (hsplit.append_right _).append_left _

theorem tracked_extendTo_perm (hscan : scan.Valid position) {old : Tracked} (usedAt : Nat)
    (hold : scan.tracked? target = some old) :
    (scan.tracked.map fun other =>
      if other.binding.target == target then old.extendTo usedAt else other).Perm
        (old.extendTo usedAt :: scan.forget target) := by
  have hperm := (tracked_perm hscan hold).map fun other =>
    if other.binding.target == target then old.extendTo usedAt else other
  have hforget : (scan.forget target).map (fun other =>
      if other.binding.target == target then old.extendTo usedAt else other) =
      scan.forget target := by
    conv_rhs => rw [← List.map_id (scan.forget target)]
    apply List.map_congr_left
    intro other hother
    exact if_neg (mt eq_of_beq (ne_of_mem_forget hother))
  rwa [List.map_cons, if_pos (beq_iff_eq.mpr (target_of_tracked? hold).2), hforget] at hperm

theorem outcome_use (hscan : scan.Valid position) {expr : Expr Site} (target : LocalId)
    (hstart : expr.span.start < maxPosition) :
    ((scan.use position target expr.span.start).outcome position rest).Perm
      (scan.outcome position (.use target expr :: rest)) := by
  have hothers : ∀ other ∈ scan.forget target,
      other.binding.target ≠ (Event.use target expr).target := fun other hother =>
    ne_of_mem_forget hother
  cases hold : scan.tracked? target with
  | none =>
      simp only [outcome, use, hold, liveBindings]
      rw [← forget_of_tracked?_none hold, waitingFor_cons_event hothers]
  | some old =>
      obtain ⟨hmem, htarget⟩ := target_of_tracked? hold
      have hsplit := (waitingFor_perm position (.use target expr :: rest)
        (tracked_perm hscan hold)).symm
      rw [waitingFor_cons, waitingFor_cons_event hothers] at hsplit
      by_cases hloop : old.binding.isLoopItem = true
      · simp only [outcome, use, hold, hloop, if_true, liveBindings]
        refine List.Perm.append_left _ (List.Perm.append_right _ ?_)
        refine List.Perm.trans ?_ hsplit
        have hsame := waitingFor_perm position rest (tracked_perm hscan hold)
        rw [waitingFor_cons] at hsame
        simpa only [Tracked.isFoundBy, hloop, if_true] using hsame
      -- A binding that the use shows to be live is found and forgotten; any other one waits on.
      · have hloop := Bool.eq_false_iff.mpr hloop
        have hwaiting := hscan.waiting old hmem hloop
        rw [← htarget, Tracked.isFoundBy_use hstart hloop hwaiting, htarget] at hsplit
        by_cases hfound : (old.extendTo expr.span.start).window.straddles position = true
        · simp only [hfound, Bool.true_or, if_true] at hsplit
          simp only [Tracked.extendTo] at hfound
          simp only [outcome, use, hold, hloop, Bool.false_eq_true, if_false, hfound, if_true,
            liveBindings]
          rw [List.map_append, List.append_assoc, ← List.append_assoc _ (waitingFor _ _ _)]
          exact (hsplit.append_right _).append_left _
        · have hfound := Bool.eq_false_iff.mpr hfound
          simp only [hfound, Bool.false_or] at hsplit
          have hkept := tracked_extendTo_perm hscan expr.span.start hold
          simp only [Tracked.extendTo] at hfound
          simp only [outcome, use, hold, hloop, Bool.false_eq_true, if_false, hfound, liveBindings]
          refine List.Perm.append_left _ (List.Perm.append_right _ ?_)
          refine (waitingFor_perm position rest hkept).trans ?_
          rw [waitingFor_cons]
          exact hsplit

theorem outcome_step (hscan : scan.Valid position) (event : Event)
    (hstart : ∀ target expr, event = .use target expr → expr.span.start < maxPosition) :
    ((scan.step position event).outcome position rest).Perm
      (scan.outcome position (event :: rest)) := by
  cases event with
  | bind binding => exact outcome_bind hscan binding
  | use target expr => exact outcome_use hscan target (hstart target expr rfl)

theorem outcome_nil (hscan : scan.Valid position) :
    scan.outcome position [] = (scan.finish position).map fun tracked => tracked.binding := by
  rw [outcome, finish, liveBindings, List.append_nil, List.map_append, waitingFor]
  congr 2
  apply List.filter_congr
  intro tracked htracked
  unfold Tracked.isFoundBy
  split
  · rfl
  · rename_i hloop
    rw [neededAt, Bool.and_false, hscan.waiting tracked htracked (Bool.eq_false_iff.mpr hloop)]

/-- A scan gives its outcome, in some order. -/
theorem finish_foldl_perm (hscan : scan.Valid position) (events : List Event)
    (hstart : ∀ target expr, Event.use target expr ∈ events → expr.span.start < maxPosition) :
    (((events.foldl (step position) scan).finish position).map fun tracked =>
      tracked.binding).Perm (scan.outcome position events) := by
  induction events generalizing scan with
  | nil => rw [List.foldl_nil, outcome_nil hscan]
  | cons event rest ih =>
      rw [List.foldl_cons]
      refine (ih (valid_step hscan event) fun target expr hmem =>
        hstart target expr (List.mem_cons_of_mem _ hmem)).trans ?_
      apply outcome_step hscan event
      rintro target expr rfl
      exact hstart target expr List.mem_cons_self

end Scan

end RefStability
