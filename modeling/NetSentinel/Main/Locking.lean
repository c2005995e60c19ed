import NetSentinel.Analysis.Locking
import NetSentinel.Main.Summary

namespace NetSentinel

variable {ω σ R : Type} [DecidableEq ω] [Arithmetic R] {hash : UInt32 → Nat}

/-- The program with the mutexes of the shards. The shards are in `tracker`, and nothing looks at the
    tracker in `program`. -/
structure LockedProgram (ω σ R : Type) [Arithmetic R] (config : FlowTrackerConfig) where
  program : Program ω σ R
  tracker : LockedCells ω (Fin config.withShards.numShards) Shard ObserveCall (List Alert)

namespace LockedProgram

def workers {config : FlowTrackerConfig} (state : LockedProgram ω σ R config) :
    LockedWorkers ω σ R config where
  workers := state.program.analysis
  tracker := state.tracker

/-- While a worker is in `observe`, anything else goes on, and a worker that still prints has yet to
    call it. -/
inductive Step (hash : UInt32 → Nat) (config : ProgramConfig σ R) :
    LockedProgram ω σ R config.analysis.flow → LockedProgram ω σ R config.analysis.flow → Prop
  | program {state : LockedProgram ω σ R config.analysis.flow} (program : Program ω σ R)
      (step : Program.Step hash config state.program program)
      (stays : AnalysisWorkers.Stays state.program.analysis program.analysis) :
      Step hash config state { state with program }
  | observe {state : LockedProgram ω σ R config.analysis.flow}
      (event : LockedCells.Event ω ObserveCall (List Alert))
      (workers : LockedWorkers ω σ R config.analysis.flow)
      (step : LockedWorkers.ObserveStep hash config.analysis.flow event state.workers workers)
      (silent : ∀ worker call, event = .call worker call → state.program.output.idle worker) :
      Step hash config state
        { program := { state.program with analysis := workers.workers }
          tracker := workers.tracker }

def system (ω : Type) [DecidableEq ω] (hash : UInt32 → Nat) (config : ProgramConfig σ R) :
    TransitionSystem (LockedProgram ω σ R config.analysis.flow) where
  start state := ∃ program, (Program.system ω hash config).start program ∧
    state = ⟨program, { cells := fun _ => {} }⟩
  step := Step hash config

variable {config : ProgramConfig σ R} {state after : LockedProgram ω σ R config.analysis.flow}

/-- The program as if each call of `observe` happened at once. -/
def atomic (hash : UInt32 → Nat) {config : FlowTrackerConfig} (state : LockedProgram ω σ R config) :
    Program ω σ R :=
  { state.program with analysis := state.workers.atomic hash }

theorem atomic_program (calling : state.workers.Calling) {program : Program ω σ R}
    (step : Program.Step hash config state.program program)
    (stays : AnalysisWorkers.Stays state.program.analysis program.analysis) :
    Program.Step hash config (state.atomic hash)
      (({ state with program } : LockedProgram ω σ R config.analysis.flow).atomic hash) := by
  cases step with
  | pipeline pipeline step analyzed => exact .pipeline pipeline step analyzed
  | call worker ticket batch due idle => exact .call worker ticket batch due idle
  | trace worker batch packet rest output due prints =>
    exact .trace worker batch packet rest output due prints
  | analyze worker batch analysis due silent starts =>
    exact .analyze worker batch _ due silent (LockedWorkers.atomic_acts calling starts stays)
  | act worker batch analysis due silent acts =>
    exact .act worker batch _ due silent (LockedWorkers.atomic_acts calling acts stays)
  | raise worker batch alert analysis output due acts prints =>
    exact .raise worker batch alert _ output due (LockedWorkers.atomic_acts calling acts stays) prints
  | returns worker ticket batch due analyzing outside silent =>
    refine .returns worker ticket batch due analyzing ?_ silent
    change (state.program.analysis.pcs worker).observed (state.tracker.pcs worker).result = _
    rw [outside]
    rfl
  | output output step => exact .output output step

variable [Fintype ω]

/-- What is true of a program with mutexes besides its being, seen from outside, one without: who is
    in `observe` has called it there and does not print, and the calls are made in the order in which
    the mutexes are given up. -/
structure Sheltered (hash : UInt32 → Nat) (config : ProgramConfig σ R)
    (state : LockedProgram ω σ R config.analysis.flow) : Prop where
  atomic : (Program.system ω hash config).Reachable (state.atomic hash)
  tracker : (LockedCells.system ω (FlowTracker.lockedOperations hash config.analysis.flow)
    fun _ => {}).Reachable state.tracker
  calling : state.workers.Calling
  silent : ∀ worker call, (state.tracker.pcs worker).current = some call →
    state.program.output.idle worker
  linearized : (state.workers.atomic hash).Linearized hash config.analysis.flow
    (state.tracker.done.map Prod.fst)

omit [Fintype ω] in
theorem analyzing_of_calling (reachable : (Program.system ω hash config).Reachable (state.atomic hash))
    (calling : state.workers.Calling) {worker : ω} {call : ObserveCall}
    (inside : (state.tracker.pcs worker).current = some call) :
    ∃ batch, state.program.callbacks worker = .analyzing batch := by
  obtain ⟨eligible, pending, rest, at_packet⟩ := calling worker call inside
  have outside := (Program.Attached.of_reachable reachable).outside worker
  have busy : (state.atomic hash).analysis.pcs worker ≠ .outside := by
    change (state.program.analysis.pcs worker).observed (state.tracker.pcs worker).result ≠ _
    rw [show state.program.analysis.pcs worker = _ from at_packet]
    cases (state.tracker.pcs worker).result <;> exact nofun
  change (state.program.callbacks worker).inEngine = false → _ at outside
  cases place : state.program.callbacks worker with
  | idle => exact absurd (outside (by rw [place]; rfl)) busy
  | tracing batch rest => exact absurd (outside (by rw [place]; rfl)) busy
  | analyzing batch => exact ⟨batch, rfl⟩

theorem Sheltered.analyzing (sheltered : Sheltered hash config state) {worker : ω} {call : ObserveCall}
    (inside : (state.tracker.pcs worker).current = some call) :
    ∃ batch, state.program.callbacks worker = .analyzing batch :=
  analyzing_of_calling sheltered.atomic sheltered.calling inside

theorem Sheltered.silent_program (sheltered : Sheltered hash config state) {program : Program ω σ R}
    (step : Program.Step hash config state.program program)
    (stays : AnalysisWorkers.Stays state.program.analysis program.analysis) (worker : ω)
    (call : ObserveCall) (inside : (state.tracker.pcs worker).current = some call) :
    program.output.idle worker := by
  have idle := sheltered.silent worker call inside
  cases step with
  | trace mover batch packet rest output due prints =>
    refine prints.idle_kept idle fun caller => ?_
    obtain ⟨own, analyzing⟩ := sheltered.analyzing inside
    rw [Option.some.inj caller, analyzing] at due
    cases due
  | raise mover batch alert analysis output due acts prints =>
    refine prints.idle_kept idle fun caller => ?_
    obtain ⟨eligible, pending, rest, at_packet⟩ := sheltered.calling worker call inside
    rw [← Option.some.inj caller] at at_packet
    exact acts.outside_observe stays at_packet
  | output output step => exact step.idle_kept idle nofun
  | _ => exact idle

theorem Sheltered.linearized_program (sheltered : Sheltered hash config state)
    {program : Program ω σ R} (step : Program.Step hash config state.program program)
    (stays : AnalysisWorkers.Stays state.program.analysis program.analysis) :
    (({ state with program } : LockedProgram ω σ R config.analysis.flow).workers.atomic
      hash).Linearized hash config.analysis.flow (state.tracker.done.map Prod.fst) := by
  have engine {worker : ω} {workers : AnalysisWorkers ω σ R} {batches : List (List QueuedPacket)}
      {alerts : List Alert}
      (acts : AnalysisWorkers.Acts hash worker state.program.analysis workers batches alerts)
      (stays : AnalysisWorkers.Stays state.program.analysis workers) :=
    LockedWorkers.linearized_stays sheltered.calling acts.step stays sheltered.linearized
  cases step with
  | analyze worker batch analysis due silent starts => exact engine starts stays
  | act worker batch analysis due silent acts => exact engine acts stays
  | raise worker batch alert analysis output due acts prints => exact engine acts stays
  | _ => exact sheltered.linearized

theorem Sheltered.step (sheltered : Sheltered hash config state) (step : Step hash config state after) :
    Sheltered hash config after := by
  cases step with
  | program program step stays =>
    exact ⟨sheltered.atomic.next (atomic_program sheltered.calling step stays), sheltered.tracker,
      sheltered.calling.stays stays, sheltered.silent_program step stays,
      sheltered.linearized_program step stays⟩
  | observe event workers step silent =>
    have tracker := sheltered.tracker.next ⟨event, step.tracker⟩
    have seen := step.atomic sheltered.calling (.of_reachable tracker)
    refine ⟨?_, tracker, sheltered.calling.step step, fun worker call inside => ?_, ?_⟩
    · rcases seen with ⟨worker, call, alerts, rfl, acts, -⟩ | ⟨same, -⟩
      · obtain ⟨-, -, current, -⟩ := step.tracker.finished
        obtain ⟨batch, analyzing⟩ := sheltered.analyzing current
        exact sheltered.atomic.next
          (.act worker batch _ analyzing (sheltered.silent worker call current) acts)
      · change (Program.system ω hash config).Reachable
          { state.program with analysis := workers.atomic hash }
        rw [same]
        exact sheltered.atomic
    · by_cases before : (state.tracker.pcs worker).current = some call
      · exact sheltered.silent worker call before
      · exact silent worker call (step.tracker.caller inside before)
    · rcases seen with ⟨worker, call, alerts, -, -, move, done⟩ | ⟨same, done⟩
      · have next := sheltered.linearized.move move
        dsimp only
        rw [done, List.map_append, List.map_singleton]
        exact next
      · change (workers.atomic hash).Linearized hash config.analysis.flow
          (workers.tracker.done.map Prod.fst)
        rw [same, done]
        exact sheltered.linearized

theorem Sheltered.of_reachable (reachable : (system ω hash config).Reachable state) :
    Sheltered hash config state := by
  refine TransitionSystem.Reachable.invariant ?_ ?_ reachable
  · intro first start
    obtain ⟨program, begins, rfl⟩ := start
    obtain ⟨pipeline, starts, rfl⟩ := begins
    refine ⟨TransitionSystem.Reachable.first ⟨pipeline, starts, rfl⟩,
      TransitionSystem.Reachable.first rfl, (fun _ _ inside => nomatch inside),
      (fun _ _ inside => nomatch inside), .of_start rfl⟩
  · exact fun before after _ step sheltered => sheltered.step step

end LockedProgram

end NetSentinel
