import NetSentinel.Main.FlowAlerts
import NetSentinel.Queue.Handover
import NetSentinel.Workers.Schedule

namespace NetSentinel

namespace Schedule

variable {ω : Type} [DecidableEq ω] {stream items later arrived used : List QueuedPacket}
  {held after : ω → List QueuedPacket} {schedule : Schedule ω}

theorem reachable_append (reachable : (system ω stream).Reachable schedule)
    (more : List QueuedPacket) : (system ω (stream ++ more)).Reachable
      { schedule with queue := schedule.queue ++ more.zipIdx stream.length } := by
  let view (schedule : Schedule ω) : Schedule ω :=
    { schedule with queue := schedule.queue ++ more.zipIdx stream.length }
  change (system ω (stream ++ more)).Reachable (view schedule)
  refine TransitionSystem.Reachable.map ?_ ?_ reachable
  · intro first start
    rw [show first = _ from start]
    change _ = _
    rw [List.zipIdx_append, Nat.zero_add]
  · intro before after _ step
    refine .inl ?_
    cases step with
    | take worker taken rest idle nonempty front =>
      have front : before.queue ++ more.zipIdx stream.length =
          taken ++ (rest ++ more.zipIdx stream.length) := by
        rw [front, List.append_assoc]
      exact .take worker taken _ idle nonempty front
    | observe worker packet position rest order busy =>
      exact .observe worker packet position rest order busy

/-- The queue and what the workers have taken, without the positions. -/
structure Mirrors (stream items : List QueuedPacket) (held : ω → List QueuedPacket)
    (schedule : Schedule ω) : Prop where
  reachable : (system ω stream).Reachable schedule
  queue : schedule.queue.map Prod.fst = items
  batches : ∀ worker, (schedule.batch worker).map Prod.fst = held worker

theorem Mirrors.step (mirrors : Mirrors stream items held schedule) {calls : List ObserveCall}
    (handover : Handover items held arrived (calls.map ObserveCall.packet) later after) :
    ∃ next, Mirrors (stream ++ arrived) later after next ∧ next.calls = schedule.calls ++ calls := by
  obtain ⟨reachable, queue, batches⟩ := mirrors
  generalize same : calls.map ObserveCall.packet = used at handover
  cases handover with
  | keep =>
    rw [List.map_eq_nil_iff.mp same, List.append_nil, List.append_nil]
    exact ⟨schedule, ⟨reachable, queue, batches⟩, rfl⟩
  | arrive packet =>
    rw [List.map_eq_nil_iff.mp same, List.append_nil]
    refine ⟨_, ⟨reachable_append reachable [packet], ?_, batches⟩, rfl⟩
    rw [List.map_append, queue]
    rfl
  | take worker batch rest free nonempty front =>
    rw [List.map_eq_nil_iff.mp same, List.append_nil, List.append_nil]
    obtain ⟨taken, left, split, isBatch, isRest⟩ := List.map_eq_append_iff.mp (queue.trans front)
    have idle : schedule.batch worker = [] := List.map_eq_nil_iff.mp ((batches worker).trans free)
    have some : taken ≠ [] := by
      rintro rfl
      exact nonempty isBatch.symm
    refine ⟨_, ⟨reachable.next (.take worker taken left idle some split), isRest, fun other => ?_⟩,
      rfl⟩
    dsimp only
    by_cases own : other = worker
    · rw [own, Function.update_self, Function.update_self, isBatch]
    · rw [Function.update_of_ne own, Function.update_of_ne own, batches]
  | use worker packet rest next =>
    obtain ⟨call, none, rfl, rfl, ends⟩ := List.map_eq_cons_iff.mp same
    obtain rfl := List.map_eq_nil_iff.mp ends
    obtain ⟨⟨_, position⟩, left, split, rfl, isRest⟩ :=
      List.map_eq_cons_iff.mp ((batches worker).trans next)
    rw [List.append_nil]
    refine ⟨_, ⟨reachable.next (.observe worker call.packet position left call.order split), queue,
      fun other => ?_⟩, ?_⟩
    · dsimp only
      by_cases own : other = worker
      · rw [own, Function.update_self, Function.update_self, isRest]
      · rw [Function.update_of_ne own, Function.update_of_ne own, batches]
    · rw [Schedule.calls, List.map_append]
      rfl

end Schedule

namespace Program

variable {ω σ R : Type} [DecidableEq ω] [Arithmetic R] {hash : UInt32 → Nat}
  {config : ProgramConfig σ R} {program after : Program ω σ R}

def items (program : Program ω σ R) : List QueuedPacket :=
  program.pipeline.pool.threads.queue.items

def enqueued (program : Program ω σ R) : List QueuedPacket :=
  program.pipeline.pool.threads.history.enqueuedItems

def inCallback (program : Program ω σ R) (worker : ω) : Option (List QueuedPacket) :=
  match program.callbacks worker with
  | .idle => none
  | .tracing batch _ => some batch
  | .analyzing _ => some (program.analysis.pcs worker).ahead

def unobserved (program : Program ω σ R) (worker : ω) : List QueuedPacket :=
  (program.inCallback worker).getD (program.pipeline.pool.held worker)

omit [DecidableEq ω] in
theorem unobserved_analyzing {worker : ω} {batch : List QueuedPacket}
    (due : program.callbacks worker = .analyzing batch) :
    program.unobserved worker = (program.analysis.pcs worker).ahead := by
  rw [unobserved, inCallback, due]
  rfl

omit [DecidableEq ω] in
theorem unobserved_congr {worker : ω} (callbacks : after.callbacks worker = program.callbacks worker)
    (ahead : (after.analysis.pcs worker).ahead = (program.analysis.pcs worker).ahead)
    (held : after.pipeline.pool.held worker = program.pipeline.pool.held worker) :
    after.unobserved worker = program.unobserved worker := by
  unfold unobserved inCallback
  rw [callbacks, ahead, held]

theorem unobserved_moved {mover : ω} {pc : CallbackPc}
    (callbacks : after.callbacks = Function.update program.callbacks mover pc)
    (own : after.unobserved mover = program.unobserved mover)
    (others : ∀ other, other ≠ mover → after.analysis.pcs other = program.analysis.pcs other)
    (held : ∀ other, other ≠ mover →
      after.pipeline.pool.held other = program.pipeline.pool.held other) (worker : ω) :
    after.unobserved worker = program.unobserved worker := by
  by_cases same : worker = mover
  · rw [same, own]
  · refine unobserved_congr ?_ (congrArg AnalyzePc.ahead (others worker same)) (held worker same)
    rw [callbacks, Function.update_of_ne same]

theorem moved_handover {worker : ω} {batch : List QueuedPacket} {analysis : AnalysisWorkers ω σ R}
    {alerts : List Alert} (output : Output ω) (due : program.callbacks worker = .analyzing batch)
    (acts : AnalysisWorkers.Acts hash worker program.analysis analysis [] alerts)
    {calls : List ObserveCall}
    (move : AnalysisWorkers.FlowMove hash program.analysis analysis calls) :
    Handover program.items program.unobserved [] (calls.map ObserveCall.packet) program.items
      ({ program with analysis, output } : Program ω σ R).unobserved := by
  have same {other : ω} (ahead : (analysis.pcs other).ahead = (program.analysis.pcs other).ahead) :
      ({ program with analysis, output } : Program ω σ R).unobserved other =
        program.unobserved other := unobserved_congr rfl ahead rfl
  have keeps {mover : ω} {pc : AnalyzePc R}
      (pcs : analysis.pcs = Function.update program.analysis.pcs mover pc)
      (ahead : pc.ahead = (program.analysis.pcs mover).ahead) (other : ω) :
      (analysis.pcs other).ahead = (program.analysis.pcs other).ahead := by
    rw [pcs]
    exact Family.update_keeps AnalyzePc.ahead ahead other
  cases move with
  | start mover pc taken pcs was carried ahead sunk tracker batches =>
    cases List.append_cancel_left (batches.symm.trans acts.batches)
  | observe mover pc call pcs was carried ahead sunk tracker batches =>
    have mine : mover = worker := by
      by_contra apart
      have still := acts.others mover apart
      rw [pcs, Function.update_self] at still
      have longer := congrArg List.length ahead
      rw [still, List.length_cons] at longer
      omega
    subst mine
    have next : program.unobserved mover = call.packet :: pc.ahead :=
      (unobserved_analyzing due).trans ahead
    have moved : ({ program with analysis, output } : Program ω σ R).unobserved =
        Function.update program.unobserved mover pc.ahead := by
      funext other
      by_cases own : other = mover
      · subst own
        have now : ({ program with analysis, output } : Program ω σ R).unobserved other =
            (analysis.pcs other).ahead := unobserved_analyzing due
        rw [Function.update_self, now, pcs, Function.update_self]
      · rw [Function.update_of_ne own]
        exact same (congrArg AnalyzePc.ahead (acts.others other own))
    rw [moved]
    exact .use mover call.packet pc.ahead next
  | sink mover pc alert pcs carried ahead sunk tracker batches =>
    exact .of_same fun other => same (keeps pcs ahead other)
  | other mover pc more pcs carried ahead sunk stateless tracker batches =>
    exact .of_same fun other => same (keeps pcs ahead other)

omit [DecidableEq ω] in
theorem unobserved_of_idle {worker : ω} (idle : program.callbacks worker = .idle) :
    program.unobserved worker = program.pipeline.pool.held worker := by
  rw [unobserved, inCallback, idle]
  rfl

omit [DecidableEq ω] in
theorem unobserved_tracing {worker : ω} {batch rest : List QueuedPacket}
    (due : program.callbacks worker = .tracing batch rest) : program.unobserved worker = batch := by
  rw [unobserved, inCallback, due]
  rfl

theorem kept_handover (same : ∀ worker, after.unobserved worker = program.unobserved worker)
    (items : after.items = program.items) :
    Handover program.items program.unobserved [] [] after.items after.unobserved := by
  rw [items]
  exact .of_same same

theorem started_ahead (reachable : (system ω hash config).Reachable program) {worker : ω}
    {batch : List QueuedPacket} {analysis : AnalysisWorkers ω σ R}
    (due : program.callbacks worker = .tracing batch [])
    (starts : AnalysisWorkers.Acts hash worker program.analysis analysis [batch] []) :
    (analysis.pcs worker).ahead = batch := by
  have outside : program.analysis.pcs worker = .outside :=
    (Attached.of_reachable reachable).outside worker (by rw [due]; rfl)
  obtain ⟨calls, move, -⟩ := starts.step.flow
  have longer : analysis.batches ≠ program.analysis.batches := by
    rw [starts.batches]
    simp
  cases move with
  | start mover pc taken pcs was carried ahead sunk tracker batches =>
    have same : taken = batch :=
      List.singleton_inj.mp (List.append_cancel_left (batches.symm.trans starts.batches))
    by_cases mine : worker = mover
    · rw [pcs, mine, Function.update_self, ahead, same]
    · have still := starts.others mover fun other => mine other.symm
      rw [pcs, Function.update_self, was] at still
      rw [pcs, Function.update_of_ne mine, outside, ← same, ← ahead, still]
  | observe mover pc call pcs was carried ahead sunk tracker batches => exact absurd batches longer
  | sink mover pc alert pcs carried ahead sunk tracker batches => exact absurd batches longer
  | other mover pc more pcs carried ahead sunk stateless tracker batches =>
    exact absurd batches longer

/-- A step of the program is one of the schedule, or none, and makes the calls of the tracker that go
    with it. -/
theorem Step.handover (reachable : (system ω hash config).Reachable program)
    (step : Step hash config program after) :
    ∃ arrived calls, Handover program.items program.unobserved arrived
        (calls.map ObserveCall.packet) after.items after.unobserved ∧
      after.enqueued = program.enqueued ++ arrived ∧
      (AnalysisWorkers.Stays program.analysis after.analysis → calls = []) := by
  have attached := Attached.of_reachable reachable
  have working := WorkerPool.outside_of_working
    (Pipeline.pool_reachable (pipeline_reachable reachable))
  have quiet {after : Program ω σ R}
      (same : ∀ worker, after.unobserved worker = program.unobserved worker)
      (items : after.items = program.items) (enqueued : after.enqueued = program.enqueued) :
      ∃ arrived calls, Handover program.items program.unobserved arrived
          (calls.map ObserveCall.packet) after.items after.unobserved ∧
        after.enqueued = program.enqueued ++ arrived ∧
        (AnalysisWorkers.Stays program.analysis after.analysis → calls = []) :=
    ⟨[], [], kept_handover same items, enqueued.trans (List.append_nil _).symm, fun _ => rfl⟩
  cases step with
  | pipeline pipeline step stays =>
    have later : (system ω hash config).Reachable { program with pipeline } :=
      reachable.next (.pipeline pipeline step stays)
    rcases step.pool_step with ⟨event, moved⟩ | same
    · have outside := WorkerPool.outside_of_working
        (Pipeline.pool_reachable (pipeline_reachable later))
      obtain ⟨arrived, handover, enqueued⟩ := moved.handover stays outside
      refine ⟨arrived, [], handover.masked fun worker changed => ?_, enqueued, fun _ => rfl⟩
      have busy {batch : List QueuedPacket} (found : (program.callbacks worker).batch = some batch) :
          pipeline.pool.held worker = program.pipeline.pool.held worker := by
        obtain ⟨ticket, analyzing⟩ := attached.holds worker batch found
        have still := moved.analyzing_stays stays analyzing
        rw [WorkerPool.held_of_analyzing working analyzing, WorkerPool.held_of_analyzing outside still]
      cases place : program.callbacks worker with
      | idle => rw [inCallback, place]
      | tracing batch rest => exact absurd (busy (by rw [place]; rfl)) changed
      | analyzing batch => exact absurd (busy (by rw [place]; rfl)) changed
    · refine quiet (fun worker => ?_) ?_ ?_
      · unfold unobserved inCallback
        dsimp only
        rw [same]
      · exact congrArg (fun pool => pool.threads.queue.items) same
      · exact congrArg (fun pool => pool.threads.history.enqueuedItems) same
  | call worker ticket batch due idle =>
    refine quiet (unobserved_moved rfl ?_ (fun _ _ => rfl) fun _ _ => rfl) rfl rfl
    rw [unobserved_of_idle idle, WorkerPool.held_of_analyzing working due]
    exact unobserved_tracing (Function.update_self _ _ _)
  | trace worker batch packet rest output due prints =>
    refine quiet (unobserved_moved rfl ?_ (fun _ _ => rfl) fun _ _ => rfl) rfl rfl
    rw [unobserved_tracing due]
    exact unobserved_tracing (Function.update_self _ _ _)
  | analyze worker batch analysis due silent starts =>
    refine quiet (unobserved_moved rfl ?_ starts.others fun _ _ => rfl) rfl rfl
    rw [unobserved_tracing due, ← started_ahead reachable due starts]
    exact unobserved_analyzing (Function.update_self _ _ _)
  | act worker batch analysis due silent acts =>
    obtain ⟨calls, move, stays⟩ := acts.step.flow
    exact ⟨[], calls, moved_handover program.output due acts move, (List.append_nil _).symm, stays⟩
  | raise worker batch alert analysis output due acts prints =>
    obtain ⟨calls, move, stays⟩ := acts.step.flow
    exact ⟨[], calls, moved_handover output due acts move, (List.append_nil _).symm, stays⟩
  | returns worker ticket batch due analyzing outside silent =>
    have away := working worker (by rw [analyzing]; exact nofun)
    refine quiet (unobserved_moved rfl ?_ (fun _ _ => rfl) fun other apart => ?_) rfl rfl
    · rw [unobserved_analyzing due, outside, unobserved_of_idle (Function.update_self _ _ _)]
      unfold WorkerPool.held QueueThreads.holding
      dsimp only
      rw [away, Function.update_self]
      rfl
    · unfold WorkerPool.held
      dsimp only
      rw [Function.update_of_ne apart]
  | output output step => exact quiet (fun _ => rfl) rfl rfl

end Program

namespace Pipeline

variable {ω : Type} [DecidableEq ω] {config : PipelineConfig} {pipeline : Pipeline ω}

theorem enqueued_prefix (reachable : (system ω config).Reachable pipeline) :
    pipeline.pool.threads.history.enqueuedItems <+:
      Capture.accepted config.parse pipeline.capture.frames := by
  obtain ⟨sent, ordered⟩ := Conserved.of_reachable reachable
  rw [← sent]
  refine List.IsPrefix.trans ?_ (List.prefix_append _ _)
  by_cases waiting : ∃ call item, pipeline.pool.threads.fifo.calls () = some (call, .inl item)
  · obtain ⟨call, item, found⟩ := waiting
    have calls := ordered.open_call call item found
    exact ⟨[item], calls.symm⟩
  · push Not at waiting
    have calls := ordered.no_call waiting
    exact calls ▸ List.prefix_rfl

end Pipeline

namespace LockedProgram

variable {ω σ R : Type} [DecidableEq ω] [Fintype ω] [Arithmetic R] {hash : UInt32 → Nat}
  {config : ProgramConfig σ R} {state after : LockedProgram ω σ R config.analysis.flow}

/-- The schedule is where the program is, with the calls of `observe` in the order in which they gave
    up their mutexes. -/
def Scheduled (hash : UInt32 → Nat) (state : LockedProgram ω σ R config.analysis.flow)
    (schedule : Schedule ω) : Prop :=
  Schedule.Mirrors (state.atomic hash).enqueued (state.atomic hash).items
      (state.atomic hash).unobserved schedule ∧
    schedule.calls = state.tracker.done.map Prod.fst

theorem Scheduled.step {schedule : Schedule ω} (scheduled : Scheduled hash state schedule)
    (reachable : (system ω hash config).Reachable state) (step : Step hash config state after) :
    ∃ next, Scheduled hash after next := by
  have sheltered := Sheltered.of_reachable reachable
  obtain ⟨mirrors, calls⟩ := scheduled
  cases step with
  | program program step stays =>
    have atomic := atomic_program sheltered.calling step stays
    obtain ⟨arrived, more, handover, enqueued, none⟩ := atomic.handover sheltered.atomic
    obtain ⟨next, moved, observed⟩ := mirrors.step handover
    rw [← enqueued] at moved
    rw [none (LockedWorkers.atomic_stays stays), List.append_nil] at observed
    exact ⟨next, moved, observed.trans calls⟩
  | observe event workers step silent =>
    have tracker := sheltered.tracker.next ⟨event, step.tracker⟩
    rcases step.atomic sheltered.calling (.of_reachable tracker) with
      ⟨worker, call, alerts, rfl, acts, move, done⟩ | ⟨same, done⟩
    · obtain ⟨-, -, current, -⟩ := step.tracker.finished
      obtain ⟨batch, analyzing⟩ := sheltered.analyzing current
      have handover := @Program.moved_handover ω σ R _ _ hash (state.atomic hash) worker batch _ []
        state.program.output analyzing acts _ move
      obtain ⟨next, moved, observed⟩ := mirrors.step handover
      rw [List.append_nil] at moved
      refine ⟨next, moved, ?_⟩
      dsimp only
      rw [observed, calls, done, List.map_append]
      rfl
    · refine ⟨schedule, ?_, calls.trans (congrArg (List.map Prod.fst) done.symm)⟩
      change Schedule.Mirrors _ _ ({ state.program with
        analysis := workers.atomic hash } : Program ω σ R).unobserved _
      rw [same]
      exact mirrors

theorem scheduled_of_reachable (reachable : (system ω hash config).Reachable state) :
    ∃ schedule, Scheduled hash state schedule := by
  refine TransitionSystem.Reachable.invariant
    (P := fun state => ∃ schedule, Scheduled hash state schedule) ?_ ?_ reachable
  · intro first start
    obtain ⟨program, begins, rfl⟩ := start
    obtain ⟨⟨capture, ⟨threads, workers, analyzed, processed, batches⟩, main⟩, starts, rfl⟩ := begins
    obtain ⟨-, -, fresh, idle⟩ := starts
    dsimp only at fresh idle
    rw [show threads = _ from fresh]
    cases idle
    exact ⟨⟨[], fun _ => [], []⟩, ⟨TransitionSystem.Reachable.first rfl, rfl, fun _ => rfl⟩, rfl⟩
  · intro before after reached step scheduled
    obtain ⟨schedule, scheduled⟩ := scheduled
    exact scheduled.step reached step

theorem Scheduled.accepted {schedule : Schedule ω} (scheduled : Scheduled hash state schedule)
    (reachable : (system ω hash config).Reachable state) :
    ∃ queue, (Schedule.system ω (Capture.accepted config.pipeline.parse
      state.program.pipeline.capture.frames)).Reachable { schedule with queue } := by
  obtain ⟨more, whole⟩ := Pipeline.enqueued_prefix
    (Program.pipeline_reachable (Sheltered.of_reachable reachable).atomic)
  have longer := Schedule.reachable_append scheduled.1.reachable more
  rw [show (state.atomic hash).enqueued ++ more = _ from whole] at longer
  exact ⟨_, longer⟩

/-- In every run of the program the calls of `observe` come in an order that `Schedule` can reach on
    the accepted packets, and each worker has the batch that it has there. -/
theorem observed_on_schedule (reachable : (system ω hash config).Reachable state) :
    ∃ schedule : Schedule ω, (Schedule.system ω (Capture.accepted config.pipeline.parse
        state.program.pipeline.capture.frames)).Reachable schedule ∧
      schedule.calls = state.tracker.done.map Prod.fst ∧
      ∀ worker, (schedule.batch worker).map Prod.fst = (state.atomic hash).unobserved worker := by
  obtain ⟨schedule, scheduled⟩ := scheduled_of_reachable reachable
  obtain ⟨queue, runs⟩ := scheduled.accepted reachable
  exact ⟨{ schedule with queue }, runs, scheduled.2, scheduled.1.batches⟩

theorem overlapping_scans_are_scheduled :
    ∃ state : LockedProgram (Fin 2) Unit ℝ scanConfig.analysis.flow,
      (system (Fin 2) UInt32.toNat scanConfig).Reachable state ∧ state.tracker.done.length = 2 ∧
      ∃ schedule : Schedule (Fin 2),
        (Schedule.system (Fin 2) (eicarSources.map scanPacket)).Reachable schedule ∧
          schedule.calls = state.tracker.done.map Prod.fst := by
  obtain ⟨together, state, begins, -, leads, finished, frames⟩ := overlapping_run
  have reachable := begins.leads leads
  have sheltered := Sheltered.of_reachable reachable
  have accepted : Capture.accepted scanConfig.pipeline.parse state.program.pipeline.capture.frames =
      eicarSources.map scanPacket := by
    rw [frames]
    exact scan_accepted
  obtain ⟨packets, -⟩ := Program.flow_alerts_settled sheltered.atomic finished sheltered.linearized
  obtain ⟨schedule, runs, calls, -⟩ := observed_on_schedule reachable
  change List.Perm _ (Capture.accepted scanConfig.pipeline.parse state.program.pipeline.capture.frames)
    at packets
  rw [accepted] at packets
  have both := packets.length_eq
  rw [List.length_map, List.length_map] at both
  rw [accepted] at runs
  exact ⟨state, reachable, both, schedule, runs, calls⟩

end LockedProgram

theorem Program.linearized_on_schedule {ω σ R : Type} [DecidableEq ω] [Fintype ω] [Arithmetic R]
    {hash : UInt32 → Nat} {config : ProgramConfig σ R} {program : Program ω σ R}
    (reachable : (system ω hash config).Reachable program) :
    ∃ schedule : Schedule ω, (Schedule.system ω (Capture.accepted config.pipeline.parse
        program.pipeline.capture.frames)).Reachable schedule ∧
      program.analysis.Linearized hash config.analysis.flow schedule.calls := by
  obtain ⟨state, reached, -, rfl⟩ := LockedProgram.quiet_reachable reachable
  obtain ⟨schedule, scheduled⟩ := LockedProgram.scheduled_of_reachable reached
  obtain ⟨queue, runs⟩ := scheduled.accepted reached
  refine ⟨{ schedule with queue }, runs, ?_⟩
  rw [show Schedule.calls { schedule with queue } = _ from scheduled.2]
  exact (LockedProgram.Sheltered.of_reachable reached).linearized

end NetSentinel
