import NetSentinel.Analysis.Linearized
import NetSentinel.Analysis.OnCpu
import NetSentinel.FlowTracker.Locking

namespace NetSentinel

open CellOperations

variable {ω σ R : Type} [DecidableEq ω] [Arithmetic R]

/-- A worker whose call of `observe` is over has the alerts, though it has yet to return. -/
def AnalyzePc.observed : AnalyzePc R → Option (List Alert) → AnalyzePc R
  | .observing eligible pending _ rest, some alerts => .sinking eligible pending alerts rest
  | pc, _ => pc

omit [Arithmetic R] in
theorem AnalyzePc.observed_none (pc : AnalyzePc R) : pc.observed none = pc := by
  cases pc <;> rfl

omit [Arithmetic R] in
theorem AnalyzePc.of_observed {pc : AnalyzePc R} {result : Option (List Alert)}
    {eligible rest : List QueuedPacket} {pending : Option (PendingEntropy R)} {packet : QueuedPacket}
    (at_observe : pc.observed result = .observing eligible pending packet rest) :
    pc = .observing eligible pending packet rest := by
  cases pc with
  | observing =>
    cases result with
    | none => exact at_observe
    | some alerts => cases at_observe
  | _ => exact at_observe

/-- Workers whose calls of `observe` lock the shard of the source. The shards are in `tracker`, and
    nothing looks at the tracker in `workers`. -/
structure LockedWorkers (ω σ R : Type) [Arithmetic R] (config : FlowTrackerConfig) where
  workers : AnalysisWorkers ω σ R
  tracker : LockedCells ω (Fin config.withShards.numShards) Shard ObserveCall (List Alert)

namespace AnalysisWorkers

variable {hash : UInt32 → Nat} {state after : AnalysisWorkers ω σ R} {worker : ω}
  {batches : List (List QueuedPacket)} {alerts : List Alert}

theorem Acts.mover (acts : Acts hash worker state after batches alerts) :
    ∃ pc, after.pcs = Function.update state.pcs worker pc ∧ pc ≠ state.pcs worker := by
  obtain ⟨mover, pc, pcs, moved⟩ := acts.step.mover
  have differs : pc ≠ state.pcs mover := fun same => moved (congrArg AnalyzePc.onCpu same)
  have same : mover = worker := by
    by_contra apart
    have still := acts.others mover apart
    rw [pcs, Function.update_self] at still
    exact differs still
  subst same
  exact ⟨pc, pcs, differs⟩

theorem Acts.outside_observe (acts : Acts hash worker state after batches alerts)
    (stays : Stays state after) {eligible rest : List QueuedPacket}
    {pending : Option (PendingEntropy R)} {packet : QueuedPacket} :
    state.pcs worker ≠ .observing eligible pending packet rest := by
  intro inside
  obtain ⟨pc, pcs, moved⟩ := acts.mover
  exact moved ((stays.not_moved inside pcs).trans inside.symm)

theorem stays_of_update {pc : AnalyzePc R} (pcs : after.pcs = Function.update state.pcs worker pc)
    (outside : ∀ eligible pending packet rest,
      state.pcs worker ≠ .observing eligible pending packet rest) : Stays state after := by
  intro other eligible pending packet rest at_observe
  have apart : other ≠ worker := by
    rintro rfl
    exact outside _ _ _ _ at_observe
  rw [pcs, Function.update_of_ne apart]

theorem Step.stays_or_observes (step : Step hash state after) : Stays state after ∨
    ∃ worker eligible pending packet rest order,
      state.pcs worker = .observing eligible pending packet rest ∧
      after = { state with
        engine := { state.engine with
          flowTracker := (state.engine.flowTracker.observe hash ⟨packet, order⟩).1 }
        pcs := Function.update state.pcs worker (.sinking eligible pending
          (state.engine.flowTracker.observe hash ⟨packet, order⟩).2 rest) } := by
  have elsewhere {worker : ω} {pc : AnalyzePc R} (due : state.pcs worker = pc)
      (outside : ∀ eligible pending packet rest, pc ≠ .observing eligible pending packet rest) :
      ∀ eligible pending packet rest,
        state.pcs worker ≠ .observing eligible pending packet rest := by
    rw [due]
    exact outside
  cases step with
  | start worker batch eligible started outside filtered starts =>
    exact .inl (stays_of_update rfl (elsewhere outside fun _ _ _ _ same => nomatch same))
  | signature worker eligible pending packet rest due =>
    exact .inl (stays_of_update rfl (elsewhere due fun _ _ _ _ same => nomatch same))
  | observe worker eligible pending packet rest order observed due observes =>
    subst observes
    exact .inr ⟨worker, eligible, pending, packet, rest, order, due, rfl⟩
  | sink worker eligible pending alert alerts rest due =>
    exact .inl (stays_of_update rfl (elsewhere due fun _ _ _ _ same => nomatch same))
  | nextPacket worker eligible pending rest due =>
    exact .inl (stays_of_update rfl (elsewhere due fun _ _ _ _ same => nomatch same))
  | returnEarly worker pending due =>
    exact .inl (stays_of_update rfl (elsewhere due fun _ _ _ _ same => nomatch same))
  | wait worker eligible pending waited due nonempty waits =>
    exact .inl (stays_of_update rfl (elsewhere due fun _ _ _ _ same => nomatch same))
  | entropy worker values i packet rest entropy due found =>
    exact .inl (stays_of_update rfl (elsewhere due fun _ _ _ _ same => nomatch same))
  | done worker values i due =>
    exact .inl (stays_of_update rfl (elsewhere due fun _ _ _ _ same => nomatch same))

def withTracker (state : AnalysisWorkers ω σ R) (flowTracker : FlowTracker) :
    AnalysisWorkers ω σ R :=
  { state with engine := { state.engine with flowTracker } }

theorem Step.withTracker (step : Step hash state after) (stays : Stays state after)
    (tracker : FlowTracker) : Step hash (state.withTracker tracker) (after.withTracker tracker) := by
  cases step with
  | start worker batch eligible started outside filtered starts =>
    exact .start worker batch _ _ outside filtered starts
  | signature worker eligible pending packet rest due => exact .signature worker _ _ _ _ due
  | observe worker eligible pending packet rest order observed due observes =>
    cases stays.not_moved due rfl
  | sink worker eligible pending alert alerts rest due => exact .sink worker _ _ _ _ _ due
  | nextPacket worker eligible pending rest due => exact .nextPacket worker _ _ _ due
  | returnEarly worker pending due => exact .returnEarly worker _ due
  | wait worker eligible pending waited due nonempty waits =>
    exact .wait worker _ _ _ due nonempty waits
  | entropy worker values i packet rest entropy due found =>
    exact .entropy worker _ _ _ _ _ due found
  | done worker values i due => exact .done worker _ _ due

theorem Acts.withTracker (acts : Acts hash worker state after batches alerts)
    (stays : Stays state after) (tracker : FlowTracker) :
    Acts hash worker (state.withTracker tracker) (after.withTracker tracker) batches alerts where
  step := acts.step.withTracker stays tracker
  others := acts.others
  batches := acts.batches
  sunk := acts.sunk

theorem Step.tracker_kept (step : Step hash state after) (stays : Stays state after) :
    after.engine.flowTracker = state.engine.flowTracker := by
  obtain ⟨calls, move, none⟩ := step.flow
  rw [none stays] at move
  exact move.tracker_kept

end AnalysisWorkers

namespace LockedWorkers

/-- What the workers do from the call of `observe` to its return, by the event at the tracker. -/
inductive ObserveStep (hash : UInt32 → Nat) (config : FlowTrackerConfig) :
    LockedCells.Event ω ObserveCall (List Alert) → LockedWorkers ω σ R config →
      LockedWorkers ω σ R config → Prop
  | call {state : LockedWorkers ω σ R config} (worker : ω) (eligible : List QueuedPacket)
      (pending : Option (PendingEntropy R)) (packet : QueuedPacket) (rest : List QueuedPacket)
      (order : List UInt32)
      (tracker : LockedCells ω (Fin config.withShards.numShards) Shard ObserveCall (List Alert))
      (due : state.workers.pcs worker = .observing eligible pending packet rest)
      (calls : LockedCells.Step (FlowTracker.lockedOperations hash config)
        (.call worker ⟨packet, order⟩) state.tracker tracker) :
      ObserveStep hash config (.call worker ⟨packet, order⟩) state { state with tracker }
  | inside {state : LockedWorkers ω σ R config}
      (tracker : LockedCells ω (Fin config.withShards.numShards) Shard ObserveCall (List Alert))
      (works : LockedCells.Step (FlowTracker.lockedOperations hash config) .inside state.tracker
        tracker) :
      ObserveStep hash config .inside state { state with tracker }
  | finished {state : LockedWorkers ω σ R config} (worker : ω) (call : ObserveCall)
      (alerts : List Alert)
      (tracker : LockedCells ω (Fin config.withShards.numShards) Shard ObserveCall (List Alert))
      (finishes : LockedCells.Step (FlowTracker.lockedOperations hash config)
        (.finished worker call alerts) state.tracker tracker) :
      ObserveStep hash config (.finished worker call alerts) state { state with tracker }
  | returned {state : LockedWorkers ω σ R config} (worker : ω) (eligible : List QueuedPacket)
      (pending : Option (PendingEntropy R)) (packet : QueuedPacket) (rest : List QueuedPacket)
      (call : ObserveCall) (alerts : List Alert)
      (tracker : LockedCells ω (Fin config.withShards.numShards) Shard ObserveCall (List Alert))
      (due : state.workers.pcs worker = .observing eligible pending packet rest)
      (returns : LockedCells.Step (FlowTracker.lockedOperations hash config)
        (.returned worker call alerts) state.tracker tracker) :
      ObserveStep hash config (.returned worker call alerts) state
        { workers := { state.workers with
            pcs := Function.update state.workers.pcs worker (.sinking eligible pending alerts rest) }
          tracker }

variable {hash : UInt32 → Nat} {config : FlowTrackerConfig}
  {state after : LockedWorkers ω σ R config} {event : LockedCells.Event ω ObserveCall (List Alert)}

/-- The workers as if `observe` happened at once when the mutex is given up. -/
def atomic (hash : UInt32 → Nat) (state : LockedWorkers ω σ R config) : AnalysisWorkers ω σ R where
  engine := { state.workers.engine with
    flowTracker := FlowTracker.after hash config (state.tracker.done.map Prod.fst) }
  pcs worker := (state.workers.pcs worker).observed (state.tracker.pcs worker).result
  sunk := state.workers.sunk
  batches := state.workers.batches

def Calling (state : LockedWorkers ω σ R config) : Prop :=
  ∀ worker call, (state.tracker.pcs worker).current = some call →
    ∃ eligible pending rest,
      state.workers.pcs worker = .observing eligible pending call.packet rest

theorem ObserveStep.tracker (step : ObserveStep hash config event state after) :
    LockedCells.Step (FlowTracker.lockedOperations hash config) event state.tracker after.tracker := by
  cases step with
  | call worker eligible pending packet rest order tracker due calls => exact calls
  | inside tracker works => exact works
  | finished worker call alerts tracker finishes => exact finishes
  | returned worker eligible pending packet rest call alerts tracker due returns => exact returns

section Calling

omit [DecidableEq ω] in
theorem Calling.stays (calling : Calling state) {workers : AnalysisWorkers ω σ R}
    (stays : AnalysisWorkers.Stays state.workers workers) : Calling { state with workers } := by
  intro worker call calls
  obtain ⟨eligible, pending, rest, inside⟩ := calling worker call calls
  exact ⟨eligible, pending, rest, (stays worker _ _ _ _ inside).trans inside⟩

theorem Calling.step (calling : Calling state) (step : ObserveStep hash config event state after) :
    Calling after := by
  intro worker call calls
  cases step with
  | call caller eligible pending packet rest order tracker due called =>
    obtain ⟨moved, -, -⟩ := called.called
    dsimp only at calls ⊢
    rw [moved] at calls
    by_cases same : worker = caller
    · subst same
      rw [Function.update_self] at calls
      cases calls
      exact ⟨eligible, pending, rest, due⟩
    · rw [Function.update_of_ne same] at calls
      exact calling worker call calls
  | inside tracker works =>
    obtain ⟨-, kept⟩ := works.inside_kept
    exact calling worker call ((kept worker).1.symm.trans calls)
  | finished caller own alerts tracker finishes =>
    obtain ⟨moved, -, current, -⟩ := finishes.finished
    dsimp only at calls ⊢
    rw [moved] at calls
    by_cases same : worker = caller
    · subst same
      rw [Function.update_self] at calls
      exact calling worker call (current.trans calls)
    · rw [Function.update_of_ne same] at calls
      exact calling worker call calls
  | returned caller eligible pending packet rest own alerts tracker due returns =>
    obtain ⟨moved, -, -⟩ := returns.returned
    dsimp only at calls ⊢
    rw [moved] at calls
    by_cases same : worker = caller
    · subst same
      rw [Function.update_self] at calls
      cases calls
    · rw [Function.update_of_ne same] at calls ⊢
      exact calling worker call calls

omit [DecidableEq ω] in
theorem Calling.no_result (calling : Calling state) {worker : ω}
    (outside : ∀ eligible pending packet rest,
      state.workers.pcs worker ≠ .observing eligible pending packet rest) :
    (state.tracker.pcs worker).result = none := by
  have called := calling worker
  cases place : state.tracker.pcs worker with
  | returning call alerts =>
    obtain ⟨eligible, pending, rest, inside⟩ := called call (by rw [place]; rfl)
    exact absurd inside (outside _ _ _ _)
  | _ => rfl

end Calling

section Atomic

omit [DecidableEq ω] in
theorem atomic_free {worker : ω} (none : (state.tracker.pcs worker).result = none) :
    (state.atomic hash).pcs worker = state.workers.pcs worker := by
  change (state.workers.pcs worker).observed (state.tracker.pcs worker).result = _
  rw [none, AnalyzePc.observed_none]

theorem atomic_moved (engine : AnalysisEngine σ R) {worker : ω} (pc : AnalyzePc R)
    (sunk : List Alert) (batches : List (List QueuedPacket))
    (none : (state.tracker.pcs worker).result = none) :
    ({ state with
        workers := ⟨engine, Function.update state.workers.pcs worker pc, sunk, batches⟩ } :
      LockedWorkers ω σ R config).atomic hash =
      ⟨{ engine with flowTracker := (state.atomic hash).engine.flowTracker },
        Function.update (state.atomic hash).pcs worker pc, sunk, batches⟩ := by
  unfold atomic
  congr 1
  funext other
  dsimp only
  by_cases same : other = worker
  · subst same
    rw [Function.update_self, Function.update_self, none, AnalyzePc.observed_none]
  · rw [Function.update_of_ne same, Function.update_of_ne same]

theorem atomic_step (calling : Calling state) {workers : AnalysisWorkers ω σ R}
    (step : AnalysisWorkers.Step hash state.workers workers)
    (stays : AnalysisWorkers.Stays state.workers workers) :
    AnalysisWorkers.Step hash (state.atomic hash) (({ state with workers } :
      LockedWorkers ω σ R config).atomic hash) := by
  have free {worker : ω} {pc : AnalyzePc R} (due : state.workers.pcs worker = pc)
      (outside : ∀ eligible pending packet rest, pc ≠ .observing eligible pending packet rest) :
      (state.tracker.pcs worker).result = none :=
    calling.no_result (by rw [due]; exact outside)
  cases step with
  | start worker batch eligible started outside filtered starts =>
    have none := free outside fun _ _ _ _ same => nomatch same
    rw [atomic_moved _ _ _ _ none]
    exact .start worker batch eligible started ((atomic_free none).trans outside) filtered starts
  | signature worker eligible pending packet rest due =>
    have none := free due fun _ _ _ _ same => nomatch same
    rw [atomic_moved _ _ _ _ none]
    exact .signature worker eligible pending packet rest ((atomic_free none).trans due)
  | observe worker eligible pending packet rest order observed due observes =>
    cases stays.not_moved due rfl
  | sink worker eligible pending alert alerts rest due =>
    have none := free due fun _ _ _ _ same => nomatch same
    rw [atomic_moved _ _ _ _ none]
    exact .sink worker eligible pending alert alerts rest ((atomic_free none).trans due)
  | nextPacket worker eligible pending rest due =>
    have none := free due fun _ _ _ _ same => nomatch same
    rw [atomic_moved _ _ _ _ none]
    exact .nextPacket worker eligible pending rest ((atomic_free none).trans due)
  | returnEarly worker pending due =>
    have none := free due fun _ _ _ _ same => nomatch same
    rw [atomic_moved _ _ _ _ none]
    exact .returnEarly worker pending ((atomic_free none).trans due)
  | wait worker eligible pending waited due nonempty waits =>
    have none := free due fun _ _ _ _ same => nomatch same
    rw [atomic_moved _ _ _ _ none]
    exact .wait worker eligible pending waited ((atomic_free none).trans due) nonempty waits
  | entropy worker values i packet rest entropy due found =>
    have none := free due fun _ _ _ _ same => nomatch same
    rw [atomic_moved _ _ _ _ none]
    exact .entropy worker values i packet rest entropy ((atomic_free none).trans due) found
  | done worker values i due =>
    have none := free due fun _ _ _ _ same => nomatch same
    rw [atomic_moved _ _ _ _ none]
    exact .done worker values i ((atomic_free none).trans due)

omit [DecidableEq ω] in
theorem atomic_stays {workers : AnalysisWorkers ω σ R}
    (stays : AnalysisWorkers.Stays state.workers workers) :
    AnalysisWorkers.Stays (state.atomic hash) (({ state with workers } :
      LockedWorkers ω σ R config).atomic hash) := by
  intro worker eligible pending packet rest at_observe
  have still := stays worker _ _ _ _ (AnalyzePc.of_observed at_observe)
  exact congrArg (AnalyzePc.observed · _) still

theorem atomic_acts (calling : Calling state) {workers : AnalysisWorkers ω σ R} {worker : ω}
    {batches : List (List QueuedPacket)} {alerts : List Alert}
    (acts : AnalysisWorkers.Acts hash worker state.workers workers batches alerts)
    (stays : AnalysisWorkers.Stays state.workers workers) :
    AnalysisWorkers.Acts hash worker (state.atomic hash) (({ state with workers } :
      LockedWorkers ω σ R config).atomic hash) batches alerts where
  step := atomic_step calling acts.step stays
  others other apart := congrArg (AnalyzePc.observed · _) (acts.others other apart)
  batches := acts.batches
  sunk := acts.sunk

theorem linearized_stays [Fintype ω] (calling : Calling state) {workers : AnalysisWorkers ω σ R}
    (step : AnalysisWorkers.Step hash state.workers workers)
    (stays : AnalysisWorkers.Stays state.workers workers) {calls : List ObserveCall}
    (linearized : (state.atomic hash).Linearized hash config calls) :
    (({ state with workers } : LockedWorkers ω σ R config).atomic hash).Linearized hash config
      calls := by
  obtain ⟨more, move, none⟩ := (atomic_step calling step stays).flow
  have next := linearized.move move
  rw [none (atomic_stays stays), List.append_nil] at next
  exact next

theorem observe_of_finished {thread : ω} {call : ObserveCall} {alerts : List Alert}
    {before tracker : LockedCells ω (Fin config.withShards.numShards) Shard ObserveCall (List Alert)}
    (linear : LockedCells.Linear (FlowTracker.lockedOperations hash config) (fun _ => {}) tracker)
    (finishes : LockedCells.Step (FlowTracker.lockedOperations hash config)
      (.finished thread call alerts) before tracker) :
    (FlowTracker.after hash config (before.done.map Prod.fst)).observe hash call =
      (FlowTracker.after hash config (tracker.done.map Prod.fst), alerts) := by
  obtain ⟨-, done, -, -⟩ := finishes.finished
  have results := linear.results
  obtain ⟨-, replayed⟩ :=
    @FlowTracker.Represents.replay hash config (tracker.done.map Prod.fst)
  rw [replayed, done, List.map_append, List.map_append, List.map_singleton, List.map_singleton,
    FlowTracker.replay_snoc, List.map_append] at results
  have last := List.append_inj_right' results rfl
  rw [done, List.map_append, List.map_singleton, FlowTracker.after_snoc]
  exact Prod.ext rfl (List.singleton_inj.mp last).symm

/-- From call to return, only the step that gives up the mutex shows to the atomic workers, as
    `observe` all at once. -/
theorem ObserveStep.atomic (calling : Calling state)
    (linear : LockedCells.Linear (FlowTracker.lockedOperations hash config) (fun _ => {})
      after.tracker)
    (step : ObserveStep hash config event state after) :
    (∃ worker call alerts, event = .finished worker call alerts ∧
      AnalysisWorkers.Acts hash worker (state.atomic hash) (after.atomic hash) [] [] ∧
      AnalysisWorkers.FlowMove hash (state.atomic hash) (after.atomic hash) [call] ∧
      after.tracker.done = state.tracker.done ++ [(call, alerts)]) ∨
    after.atomic hash = state.atomic hash ∧ after.tracker.done = state.tracker.done := by
  cases step with
  | call worker eligible pending packet rest order tracker due calls =>
    obtain ⟨moved, done, idle⟩ := calls.called
    refine .inr ⟨?_, done⟩
    unfold LockedWorkers.atomic
    dsimp only
    rw [done, moved]
    congr 1
    funext other
    by_cases same : other = worker
    · subst same
      rw [Function.update_self, idle]
      rfl
    · rw [Function.update_of_ne same]
  | inside tracker works =>
    obtain ⟨done, kept⟩ := works.inside_kept
    refine .inr ⟨?_, done⟩
    unfold LockedWorkers.atomic
    dsimp only
    rw [done]
    congr 1
    funext other
    rw [(kept other).2]
  | finished worker call alerts tracker finishes =>
    obtain ⟨moved, done, current, result⟩ := finishes.finished
    obtain ⟨eligible, pending, rest, inside⟩ := calling worker call current
    have observes := observe_of_finished linear finishes
    have due : (state.atomic hash).pcs worker = .observing eligible pending call.packet rest :=
      (atomic_free result).trans inside
    have others : ∀ other, other ≠ worker → tracker.pcs other = state.tracker.pcs other := by
      intro other apart
      rw [moved, Function.update_of_ne apart]
    have pcs : (({ state with tracker } : LockedWorkers ω σ R config).atomic hash).pcs =
        Function.update (state.atomic hash).pcs worker (.sinking eligible pending alerts rest) := by
      funext other
      by_cases same : other = worker
      · subst same
        rw [Function.update_self]
        change (state.workers.pcs other).observed (tracker.pcs other).result = _
        rw [inside, moved, Function.update_self]
        rfl
      · rw [Function.update_of_ne same]
        exact congrArg (fun place : CellPc Shard ObserveCall (List Alert) =>
          (state.workers.pcs other).observed place.result) (others other same)
    have next : AnalysisWorkers.Step hash (state.atomic hash) _ :=
      .observe worker eligible pending call.packet rest call.order _ due observes
    rw [← pcs] at next
    have acts : AnalysisWorkers.Acts hash worker (state.atomic hash) _ [] [] :=
      next.acts pcs (List.append_nil _).symm (List.append_nil _).symm
    refine .inl ⟨worker, call, alerts, rfl, acts, ?_, done⟩
    refine .observe worker _ call pcs (by rw [due]; rfl) ?_ (by rw [due]; rfl) rfl ?_ rfl
    · exact (congrArg Prod.snd observes).symm
    · exact (congrArg Prod.fst observes).symm
  | returned worker eligible pending packet rest call alerts tracker due returns =>
    obtain ⟨moved, done, returning⟩ := returns.returned
    refine .inr ⟨?_, done⟩
    unfold LockedWorkers.atomic
    dsimp only
    rw [done, moved]
    congr 1
    funext other
    by_cases same : other = worker
    · subst same
      rw [Function.update_self, Function.update_self, due, returning]
      rfl
    · rw [Function.update_of_ne same, Function.update_of_ne same]

end Atomic

end LockedWorkers

end NetSentinel
