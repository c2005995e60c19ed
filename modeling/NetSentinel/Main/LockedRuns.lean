import NetSentinel.Main.Locking

namespace NetSentinel

variable {ω σ R : Type} [DecidableEq ω] [Arithmetic R] {hash : UInt32 → Nat}

namespace Program

def withTracker (program : Program ω σ R) (flowTracker : FlowTracker) : Program ω σ R :=
  { program with analysis := program.analysis.withTracker flowTracker }

variable {config : ProgramConfig σ R} {program after : Program ω σ R}

theorem Step.withTracker (step : Step hash config program after)
    (stays : AnalysisWorkers.Stays program.analysis after.analysis) (tracker : FlowTracker) :
    Step hash config (program.withTracker tracker) (after.withTracker tracker) := by
  cases step with
  | pipeline pipeline step analyzed => exact .pipeline pipeline step analyzed
  | call worker ticket batch due idle => exact .call worker ticket batch due idle
  | trace worker batch packet rest output due prints =>
    exact .trace worker batch packet rest output due prints
  | analyze worker batch analysis due silent starts =>
    exact .analyze worker batch _ due silent (starts.withTracker stays tracker)
  | act worker batch analysis due silent acts =>
    exact .act worker batch _ due silent (acts.withTracker stays tracker)
  | raise worker batch alert analysis output due acts prints =>
    exact .raise worker batch alert _ output due (acts.withTracker stays tracker) prints
  | returns worker ticket batch due analyzing outside silent =>
    exact .returns worker ticket batch due analyzing outside silent
  | output output step => exact .output output step

theorem Step.tracker_kept (step : Step hash config program after)
    (stays : AnalysisWorkers.Stays program.analysis after.analysis) :
    after.analysis.engine.flowTracker = program.analysis.engine.flowTracker := by
  cases step with
  | analyze worker batch analysis due silent starts => exact starts.step.tracker_kept stays
  | act worker batch analysis due silent acts => exact acts.step.tracker_kept stays
  | raise worker batch alert analysis output due acts prints => exact acts.step.tracker_kept stays
  | _ => rfl

theorem Step.stays_or_observes (step : Step hash config program after) :
    AnalysisWorkers.Stays program.analysis after.analysis ∨
    ∃ worker eligible pending packet rest order,
      program.analysis.pcs worker = .observing eligible pending packet rest ∧
      program.output.idle worker ∧
      after = { program with
        analysis := { program.analysis with
          engine := { program.analysis.engine with
            flowTracker := (program.analysis.engine.flowTracker.observe hash ⟨packet, order⟩).1 }
          pcs := Function.update program.analysis.pcs worker (.sinking eligible pending
            (program.analysis.engine.flowTracker.observe hash ⟨packet, order⟩).2 rest) } } := by
  cases step with
  | analyze mover batch analysis due silent starts =>
    rcases starts.step.stays_or_observes with stays | ⟨worker, _, _, _, _, _, -, rfl⟩
    · exact .inl stays
    · have none := starts.batches
      simp at none
  | act mover batch analysis due silent acts =>
    rcases acts.step.stays_or_observes with
      stays | ⟨worker, eligible, pending, packet, rest, order, at_observe, rfl⟩
    · exact .inl stays
    · have same : worker = mover := by
        by_contra apart
        have still := acts.others worker apart
        dsimp only at still
        rw [Function.update_self, at_observe] at still
        cases still
      subst same
      exact .inr ⟨worker, eligible, pending, packet, rest, order, at_observe, silent, rfl⟩
  | raise mover batch alert analysis output due acts prints =>
    rcases acts.step.stays_or_observes with stays | ⟨worker, _, _, _, _, _, -, rfl⟩
    · exact .inl stays
    · have none := acts.sunk
      simp at none
  | _ => exact .inl fun _ _ _ _ _ _ => rfl

end Program

namespace LockedProgram

variable [Fintype ω] {config : ProgramConfig σ R} {state : LockedProgram ω σ R config.analysis.flow}

def Quiet {config : FlowTrackerConfig} (state : LockedProgram ω σ R config) : Prop :=
  ∀ worker, state.tracker.pcs worker = .idle

omit [DecidableEq ω] [Fintype ω] in
theorem atomic_of_quiet {config : FlowTrackerConfig} {state : LockedProgram ω σ R config}
    (quiet : state.Quiet) : state.atomic hash = state.program.withTracker
      (FlowTracker.after hash config (state.tracker.done.map Prod.fst)) := by
  have pcs : (fun worker => (state.program.analysis.pcs worker).observed
      (state.tracker.pcs worker).result) = state.program.analysis.pcs := by
    funext worker
    rw [quiet worker]
    exact AnalyzePc.observed_none _
  unfold atomic LockedWorkers.atomic Program.withTracker AnalysisWorkers.withTracker workers
  dsimp only
  rw [pcs]

omit [Fintype ω] in
theorem observe_step {program : Program ω σ R} {analysis : AnalysisWorkers ω σ R}
    {tracker later : LockedCells ω (Fin config.analysis.flow.withShards.numShards) Shard ObserveCall
      (List Alert)} {event : LockedCells.Event ω ObserveCall (List Alert)}
    (step : LockedWorkers.ObserveStep hash config.analysis.flow event ⟨program.analysis, tracker⟩
      ⟨analysis, later⟩)
    (silent : ∀ worker call, event = .call worker call → program.output.idle worker) :
    Step hash config ⟨program, tracker⟩ ⟨{ program with analysis }, later⟩ :=
  @Step.observe ω σ R _ _ hash config ⟨program, tracker⟩ event ⟨analysis, later⟩ step silent

omit [Fintype ω] in
theorem inside_leads
    {tracker : LockedCells ω (Fin config.analysis.flow.withShards.numShards) Shard ObserveCall
      (List Alert)}
    (leads : Relation.ReflTransGen
      (LockedCells.Step (FlowTracker.lockedOperations hash config.analysis.flow) .inside)
      state.tracker tracker) :
    (system ω hash config).Leads state { state with tracker } := by
  induction leads with
  | refl => exact .refl
  | tail _ step ih =>
    exact ih.tail (observe_step (.inside _ step) fun _ _ same => nomatch same)

omit [Fintype ω] in
theorem enters_observe {worker : ω} {eligible rest : List QueuedPacket}
    {pending : Option (PendingEntropy R)} {packet : QueuedPacket} {order : List UInt32}
    {shard : Fin config.analysis.flow.withShards.numShards}
    (due : state.program.analysis.pcs worker = .observing eligible pending packet rest)
    (outside : state.tracker.pcs worker = .idle) (silent : state.program.output.idle worker)
    (locks : (FlowTracker.lockedOperations hash config.analysis.flow).cell ⟨packet, order⟩ =
      some shard)
    (free : state.tracker.holder shard = none) :
    ∃ tracker, (system ω hash config).Leads state ⟨state.program, tracker⟩ ∧
      tracker.pcs = Function.update state.tracker.pcs worker (.working ⟨packet, order⟩ []
        ((FlowTracker.lockedOperations hash config.analysis.flow).phases ⟨packet, order⟩)) ∧
      tracker.holder = Function.update state.tracker.holder shard (some worker) := by
  obtain ⟨program, tracker⟩ := state
  have called : (system ω hash config).Leads ⟨program, tracker⟩ ⟨program, _⟩ :=
    .single (observe_step (.call worker eligible pending packet rest order _ due
      (.call worker _ outside)) fun _ _ same => by cases same; exact silent)
  have waits : Function.update tracker.pcs worker (.waiting ⟨packet, order⟩) worker =
    .waiting ⟨packet, order⟩ := Function.update_self _ _ _
  have locked : (system ω hash config).Leads ⟨program, tracker⟩ ⟨program, _⟩ :=
    called.tail (observe_step (.inside _ (.lock worker _ shard waits locks free))
      fun _ _ same => nomatch same)
  exact ⟨_, locked, Function.update_idem _ _ _, rfl⟩

omit [Fintype ω] in
theorem leaves_observe {worker : ω} {eligible rest : List QueuedPacket}
    {pending : Option (PendingEntropy R)} {packet : QueuedPacket} {call : ObserveCall}
    {alerts : List Alert} {phases : List (Shard × List Alert → Shard × List Alert)}
    {shard : Fin config.analysis.flow.withShards.numShards}
    (due : state.program.analysis.pcs worker = .observing eligible pending packet rest)
    (inside : state.tracker.pcs worker = .working call alerts phases)
    (locks : (FlowTracker.lockedOperations hash config.analysis.flow).cell call = some shard) :
    ∃ after, (system ω hash config).Leads state after ∧ after.tracker.pcs worker = .idle ∧
      after.program.pipeline = state.program.pipeline ∧
      ∀ other, other ≠ worker → after.tracker.pcs other = state.tracker.pcs other ∧
        after.program.analysis.pcs other = state.program.analysis.pcs other := by
  obtain ⟨program, tracker⟩ := state
  obtain ⟨later, result, leads, through, others⟩ := LockedCells.phases_done locks inside
  have worked : (system ω hash config).Leads ⟨program, tracker⟩ ⟨program, later⟩ :=
    inside_leads leads
  have finished : (system ω hash config).Leads ⟨program, tracker⟩ ⟨program, _⟩ := worked.tail
    (observe_step (.finished worker call result _ (.unlock worker call shard result through locks))
      fun _ _ same => nomatch same)
  have returned := finished.tail (observe_step
    (.returned worker eligible pending packet rest call result _ due
      (.leave worker call result (Function.update_self _ _ _)))
    fun _ _ same => nomatch same)
  refine ⟨_, returned, Function.update_self _ _ _, rfl, fun other apart => ⟨?_, ?_⟩⟩
  · dsimp only
    rw [Function.update_of_ne apart, Function.update_of_ne apart, others other apart]
  · exact Function.update_of_ne apart _ _

/-- A call of `observe` from its beginning to its end, with nobody else in `observe`. -/
theorem observe_leads (reachable : (system ω hash config).Reachable state) (quiet : state.Quiet)
    {worker : ω} {eligible rest : List QueuedPacket} {pending : Option (PendingEntropy R)}
    {packet : QueuedPacket}
    (due : state.program.analysis.pcs worker = .observing eligible pending packet rest)
    (silent : state.program.output.idle worker) (order : List UInt32) :
    ∃ after, (system ω hash config).Leads state after ∧ after.Quiet ∧
      after.atomic hash = { state.atomic hash with
        analysis := { (state.atomic hash).analysis with
          engine := { (state.atomic hash).analysis.engine with
            flowTracker :=
              ((state.atomic hash).analysis.engine.flowTracker.observe hash ⟨packet, order⟩).1 }
          pcs := Function.update (state.atomic hash).analysis.pcs worker (.sinking eligible pending
            ((state.atomic hash).analysis.engine.flowTracker.observe hash ⟨packet, order⟩).2
              rest) } } := by
  have linear := LockedCells.Linear.of_reachable (Sheltered.of_reachable reachable).tracker
  obtain ⟨program, tracker⟩ := state
  dsimp only at due silent linear
  have waits : ({ tracker with
      pcs := Function.update tracker.pcs worker (.waiting ⟨packet, order⟩) } :
    LockedCells ω (Fin config.analysis.flow.withShards.numShards) Shard ObserveCall
      (List Alert)).pcs worker = .waiting ⟨packet, order⟩ := Function.update_self _ _ _
  obtain ⟨later, ended, alerts, leads, finishes, others⟩ :=
    @LockedCells.operation_done _ _ _ _ _ _ _
      (FlowTracker.lockedOperations hash config.analysis.flow) _ _ _ waits
      fun cell _ => linear.unheld quiet cell
  obtain ⟨moved, done, -, -⟩ := finishes.finished
  have returns : ended.pcs worker = .returning ⟨packet, order⟩ alerts := by
    rw [moved, Function.update_self]
  have called : (system ω hash config).Leads ⟨program, tracker⟩ ⟨program, _⟩ :=
    .single (observe_step
      (.call worker eligible pending packet rest order _ due (.call worker _ (quiet worker)))
      fun _ _ same => by cases same; exact silent)
  have finished : (system ω hash config).Leads ⟨program, tracker⟩ ⟨program, ended⟩ :=
    (called.trans (inside_leads leads)).tail
      (observe_step (.finished worker _ alerts ended finishes) fun _ _ same => nomatch same)
  let after : LockedProgram ω σ R config.analysis.flow :=
    ⟨{ program with
        analysis := { program.analysis with
          pcs := Function.update program.analysis.pcs worker
            (.sinking eligible pending alerts rest) } },
      { ended with pcs := Function.update ended.pcs worker .idle }⟩
  have returned : (system ω hash config).Leads ⟨program, tracker⟩ after :=
    finished.tail (observe_step
      (.returned worker eligible pending packet rest _ alerts _ due (.leave worker _ alerts returns))
      fun _ _ same => nomatch same)
  have free : after.Quiet := by
    intro other
    change Function.update ended.pcs worker .idle other = .idle
    by_cases same : other = worker
    · rw [same, Function.update_self]
    · rw [Function.update_of_ne same, others other same]
      exact (Function.update_of_ne same _ _).trans (quiet other)
  have observes := LockedWorkers.observe_of_finished
    (.of_reachable (Sheltered.of_reachable (reachable.leads finished)).tracker) finishes
  rw [LockedCells.inside_done leads] at observes
  refine ⟨after, returned, free, ?_⟩
  have before : (⟨program, tracker⟩ : LockedProgram ω σ R _).atomic hash =
      program.withTracker (FlowTracker.after hash config.analysis.flow (tracker.done.map Prod.fst)) :=
    atomic_of_quiet quiet
  rw [before, atomic_of_quiet free]
  unfold Program.withTracker AnalysisWorkers.withTracker
  dsimp only
  rw [observes]

theorem unfolds_step (reachable : (system ω hash config).Reachable state) (quiet : state.Quiet)
    {after : Program ω σ R} (step : Program.Step hash config (state.atomic hash) after) :
    ∃ later, (system ω hash config).Leads state later ∧ later.Quiet ∧ later.atomic hash = after := by
  have before := @atomic_of_quiet _ _ _ _ hash _ _ quiet
  rcases step.stays_or_observes with
    stays | ⟨worker, eligible, pending, packet, rest, order, at_observe, silent, rfl⟩
  · have kept := step.tracker_kept stays
    have own := step.withTracker stays state.program.analysis.engine.flowTracker
    rw [before] at own stays kept
    let program := after.withTracker state.program.analysis.engine.flowTracker
    have stepped : Step hash config state { state with program } := .program program own stays
    have free : ({ state with program } : LockedProgram ω σ R config.analysis.flow).Quiet := quiet
    refine ⟨_, .single stepped, free, ?_⟩
    rw [atomic_of_quiet free]
    exact congrArg after.withTracker kept.symm
  · rw [before] at at_observe
    exact observe_leads reachable quiet at_observe silent order

/-- Each run of the program without mutexes is one with mutexes where nobody overlaps. -/
theorem unfolds (reachable : (system ω hash config).Reachable state) (quiet : state.Quiet)
    {after : Program ω σ R}
    (leads : (Program.system ω hash config).Leads (state.atomic hash) after) :
    ∃ later, (system ω hash config).Leads state later ∧ later.Quiet ∧ later.atomic hash = after := by
  induction leads with
  | refl => exact ⟨state, .refl, quiet, rfl⟩
  | tail _ step ih =>
    obtain ⟨later, leads, free, rfl⟩ := ih
    obtain ⟨last, more, still, same⟩ := unfolds_step (reachable.leads leads) free step
    exact ⟨last, leads.trans more, still, same⟩

theorem quiet_reachable {program : Program ω σ R}
    (reachable : (Program.system ω hash config).Reachable program) :
    ∃ state, (system ω hash config).Reachable state ∧ state.Quiet ∧ state.atomic hash = program := by
  obtain ⟨first, begins, leads⟩ := reachable
  have start : (system ω hash config).Reachable ⟨first, { cells := fun _ => {} }⟩ :=
    TransitionSystem.Reachable.first ⟨first, begins, rfl⟩
  have same : (⟨first, { cells := fun _ => {} }⟩ :
      LockedProgram ω σ R config.analysis.flow).atomic hash = first := by
    obtain ⟨pipeline, -, rfl⟩ := begins
    rfl
  rw [← same] at leads
  obtain ⟨later, run, quiet, ends⟩ := unfolds start (fun _ => rfl) leads
  exact ⟨later, start.leads run, quiet, ends⟩

/-- With mutexes the program can do exactly what it can do without, as seen from outside. -/
theorem atomic_reachable_iff {program : Program ω σ R} :
    (Program.system ω hash config).Reachable program ↔
      ∃ state, (system ω hash config).Reachable state ∧ state.atomic hash = program := by
  constructor
  · intro reachable
    obtain ⟨state, run, -, ends⟩ := quiet_reachable reachable
    exact ⟨state, run, ends⟩
  · rintro ⟨state, reachable, rfl⟩
    exact (Sheltered.of_reachable reachable).atomic

end LockedProgram

end NetSentinel
