import NetSentinel.Analysis.Termination
import NetSentinel.Library.Termination
import NetSentinel.Main.Captures
import NetSentinel.Queue.Draining
import NetSentinel.Queue.Wakeups

namespace NetSentinel

open Family

def AlertPc.left : AlertPc → Nat
  | .outside => 0
  | .countingAll _ => 5
  | .countingType _ => 4

namespace Output

variable {ω : Type*} [DecidableEq ω] {quiet : Bool} {output after : Output ω} {event : Event ω}

def left (output : Output ω) (worker : ω) : Nat :=
  (output.alerting worker).left + (output.stdout.writers worker).left

def Event.cost : Event ω → Nat
  | .inside => 0
  | .printAlert _ _ => 6
  | .printPacket _ packet => (NetSentinel.printPacket packet).length + 3

structure Spends (output after : Output ω) (mover : ω) (cost : Nat) : Prop where
  others : ∀ other, other ≠ mover → after.left other = output.left other
  own : after.left mover < output.left mover + cost

theorem Spends.counting {mover : ω} {pc : AlertPc} {cost : Nat} (stdout : after.stdout = output.stdout)
    (alerting : after.alerting = Function.update output.alerting mover pc)
    (spends : pc.left < (output.alerting mover).left + cost) : Spends output after mover cost := by
  constructor
  · intro other apart
    unfold left
    rw [stdout, alerting, Function.update_of_ne apart]
  · unfold left
    rw [stdout, alerting, Function.update_self]
    omega

theorem Spends.writing {mover : ω} {pc : LogWriter (List Char)} {cost : Nat}
    (alerting : after.alerting = output.alerting)
    (writers : after.stdout.writers = Function.update output.stdout.writers mover pc)
    (spends : pc.left < (output.stdout.writers mover).left + cost) :
    Spends output after mover cost := by
  constructor
  · intro other apart
    unfold left
    rw [alerting, writers, Function.update_of_ne apart]
  · unfold left
    rw [alerting, writers, Function.update_self]
    omega

theorem Step.spends (step : Step quiet event output after) : ∃ mover,
    Spends output after mover event.cost ∧ ∀ worker, event.caller = some worker → mover = worker := by
  cases step with
  | printAlert worker alert idle =>
    refine ⟨worker, .counting rfl rfl ?_, fun caller same => Option.some.inj same⟩
    rw [idle.1]
    exact Nat.lt_succ_self 5
  | countAll worker alert due =>
    refine ⟨worker, .counting rfl rfl ?_, nofun⟩
    rw [due]
    exact Nat.lt_succ_self _
  | countQuietly worker alert due silent =>
    refine ⟨worker, .counting rfl rfl ?_, nofun⟩
    rw [due]
    exact Nat.succ_pos _
  | countAndPrint worker alert stdout due loud prints =>
    obtain ⟨mover, pc, writers, spends, caller⟩ := prints.spends
    obtain rfl := caller worker _ rfl
    refine ⟨mover, ⟨fun other apart => ?_, ?_⟩, nofun⟩
    · unfold left
      dsimp only
      rw [writers, Function.update_of_ne apart, Function.update_of_ne apart]
    · unfold left
      dsimp only
      rw [writers, Function.update_self, Function.update_self, due]
      simp only [AlertPc.left, Event.cost, LockedLog.Event.cost, List.length_singleton] at spends ⊢
      omega
  | printPacket worker packet stdout idle prints =>
    obtain ⟨mover, pc, writers, spends, caller⟩ := prints.spends
    obtain rfl := caller worker _ rfl
    exact ⟨mover, .writing rfl writers spends, fun worker same => Option.some.inj same⟩
  | stdout stdout prints =>
    obtain ⟨mover, pc, writers, spends, -⟩ := prints.spends
    exact ⟨mover, .writing rfl writers spends, nofun⟩

theorem counting_of_reachable (reachable : (system ω quiet).Reachable output) :
    ∀ worker, output.alerting worker = .outside ∨ output.stdout.writers worker = .idle := by
  refine TransitionSystem.Reachable.invariant (P := fun output : Output ω =>
    ∀ worker, output.alerting worker = .outside ∨ output.stdout.writers worker = .idle) ?_ ?_ reachable
  · intro first start worker
    rw [show first = _ from start]
    exact .inl rfl
  · intro before after _ moves counting worker
    obtain ⟨event, step⟩ := moves
    have wrote {event : LockedLog.Event ω (List Char)} {stdout : LockedLog ω (List Char)}
        (prints : LockedLog.Step event before.stdout stdout)
        (other : ∀ message, event ≠ .write worker message) :
        before.stdout.writers worker = .idle → stdout.writers worker = .idle := by
      intro idle
      rcases prints.idle_kept idle with still | ⟨message, same⟩
      · exact still
      · exact absurd same (other message)
    cases step with
    | printAlert mover alert idle =>
      by_cases same : worker = mover
      · subst same
        exact .inr idle.2
      · exact (counting worker).imp_left fun outside =>
          (Function.update_of_ne same _ _).trans outside
    | countAll mover alert due =>
      by_cases same : worker = mover
      · subst same
        exact .inr ((counting worker).resolve_left (by rw [due]; exact nofun))
      · exact (counting worker).imp_left fun outside =>
          (Function.update_of_ne same _ _).trans outside
    | countQuietly mover alert due silent =>
      by_cases same : worker = mover
      · exact .inl (by dsimp only; rw [same, Function.update_self])
      · exact (counting worker).imp_left fun outside =>
          (Function.update_of_ne same _ _).trans outside
    | countAndPrint mover alert stdout due loud prints =>
      by_cases same : worker = mover
      · exact .inl (by dsimp only; rw [same, Function.update_self])
      · refine (counting worker).imp
          (fun outside => (Function.update_of_ne same _ _).trans outside) (wrote prints ?_)
        exact fun message writes => same (LockedLog.Event.write.inj writes).1.symm
    | printPacket mover packet stdout idle prints =>
      by_cases same : worker = mover
      · subst same
        exact .inl idle.1
      · refine (counting worker).imp_right (wrote prints ?_)
        exact fun message writes => same (LockedLog.Event.write.inj writes).1.symm
    | stdout stdout prints => exact (counting worker).imp_right (wrote prints nofun)

theorem moves [Fintype ω] (reachable : (system ω quiet).Reachable output) {worker : ω}
    (busy : ¬ output.idle worker) : ∃ after, Step quiet .inside output after := by
  have counting := counting_of_reachable reachable worker
  by_cases idle : output.stdout.writers worker = .idle
  · cases place : output.alerting worker with
    | outside => exact absurd ⟨place, idle⟩ busy
    | countingAll alert => exact ⟨_, .countAll worker alert place⟩
    | countingType alert =>
      cases loud : quiet with
      | true => exact ⟨_, .countQuietly worker alert place rfl⟩
      | false => exact ⟨_, .countAndPrint worker alert _ place rfl (.write worker _ idle)⟩
  · obtain ⟨stdout, prints⟩ := LockedLog.moves (stdout_reachable reachable) idle
    exact ⟨_, .stdout stdout prints⟩

end Output

namespace QueueThreads

variable {π κ τ α : Type*} [DecidableEq π] [DecidableEq κ] [DecidableEq τ]

theorem Step.shutdowns_inside {event : Event π κ τ α} {state after : QueueThreads π κ τ α}
    (step : Step event state after) {closer : τ} (inside : state.shutdowns closer ≠ .outside) :
    after.shutdowns closer ≠ .outside ∨ event = .closed closer := by
  have moved {mover : τ} {pc : ShutdownPc} (still : pc ≠ .outside) :
      Function.update state.shutdowns mover pc closer ≠ .outside := by
    by_cases same : closer = mover
    · rw [same, Function.update_self]
      exact still
    · rwa [Function.update_of_ne same]
  cases step with
  | shutdownCall mover outside => exact .inl (moved nofun)
  | shutdownRun mover entering => exact .inl (moved nofun)
  | shutdownNotifyFull mover due => exact .inl (moved nofun)
  | shutdownNotifyEmpty mover due => exact .inl (moved nofun)
  | shutdownReturn mover done =>
    by_cases same : closer = mover
    · exact .inr (by rw [same])
    · exact .inl (by dsimp only; rwa [Function.update_of_ne same])
  | _ => exact .inl inside

end QueueThreads

theorem WorkerPool.Step.shutdowns_inside {π κ τ α : Type*} [DecidableEq π] [DecidableEq κ]
    [DecidableEq τ] {batchSize : Nat} {linger : Bool} {event : QueueThreads.Event π κ τ α}
    {pool after : WorkerPool π κ τ α} (step : Step batchSize linger event pool after) {closer : τ}
    (inside : pool.threads.shutdowns closer ≠ .outside) :
    after.threads.shutdowns closer ≠ .outside ∨ event = .closed closer := by
  rcases step.threads with ⟨inner, moved, same | ⟨-, consuming⟩, -⟩ | ⟨-, same⟩
  · rw [← same]
    exact moved.shutdowns_inside inside
  · rcases moved.shutdowns_inside inside with still | returns
    · exact .inl still
    · rw [returns] at consuming
      cases consuming
  · rw [same]
    exact .inl inside

theorem Pipeline.shutdown_underway {ω : Type} [DecidableEq ω] {config : PipelineConfig}
    {pipeline : Pipeline ω} (reachable : (system ω config).Reachable pipeline)
    (waits : pipeline.main = .inShutdown) : pipeline.pool.threads.shutdowns () ≠ .outside := by
  revert waits
  refine TransitionSystem.Reachable.invariant (P := fun pipeline : Pipeline ω =>
    pipeline.main = .inShutdown → pipeline.pool.threads.shutdowns () ≠ .outside) ?_ ?_ reachable
  · intro first start waits
    rw [start.2.1] at waits
    cases waits
  · intro before after _ step underway waits
    cases step with
    | pool pool step => exact (step.shutdowns_inside (underway waits)).resolve_right nofun
    | handle frame parsed capture pool handles pushes =>
      exact (pushes.shutdowns_inside (underway waits)).resolve_right nofun
    | handled result capture pool handled pushed =>
      exact (pushed.shutdowns_inside (underway waits)).resolve_right nofun
    | capture capture step => exact underway waits
    | requestStop => exact underway waits
    | shutdown pool closing step =>
      cases step with
      | queue _ threads outer step =>
        cases step with
        | shutdownCall _ outside =>
          dsimp only
          rw [Function.update_self]
          exact nofun
    | joinCapture joining returned => cases waits
    | closed pool closing step => cases waits
    | joinWorkers joining exited => cases waits

theorem Pipeline.Step.frames_kept {ω : Type} [DecidableEq ω] {config : PipelineConfig}
    {pipeline after : Pipeline ω} (step : Step config pipeline after)
    (returned : pipeline.capture.pc = .returned) :
    after.capture.pc = .returned ∧ after.capture.frames = pipeline.capture.frames := by
  cases step with
  | capture capture step => exact absurd returned step.running
  | handle frame parsed capture pool handles pushes => exact absurd returned handles.running
  | handled result capture pool handled pushed => exact absurd returned handled.running
  | _ => exact ⟨returned, rfl⟩

theorem AnalysisWorkers.Acts.spends {ω σ R : Type} [DecidableEq ω] [Arithmetic R]
    {hash : UInt32 → Nat} {worker : ω} {state after : AnalysisWorkers ω σ R}
    {batches : List (List QueuedPacket)} {alerts : List Alert}
    (acts : Acts hash worker state after batches alerts) :
    (after.pcs worker).left + 5 * alerts.length < (state.pcs worker).left + costs batches := by
  obtain ⟨mover, pc, taken, raised, pcs, moves, batches', sunk, spends⟩ := acts.step.spends
  have same : mover = worker := by
    by_contra apart
    have still := acts.others mover apart
    rw [pcs, Function.update_self] at still
    exact moves still
  subst same
  obtain rfl := List.append_cancel_left (batches'.symm.trans acts.batches)
  obtain rfl := List.append_cancel_left (sunk.symm.trans acts.sunk)
  rw [pcs, Function.update_self]
  exact spends

def traceCost (packets : List QueuedPacket) : Nat :=
  (packets.map fun packet => (printPacket packet).length + 3).sum

/-- What a batch costs from the call of the callback on, and what a packet on the queue does. -/
def batchPrice (batch : List QueuedPacket) : Nat := traceCost batch + 26 * batch.length + 15

def packetWeight (packet : QueuedPacket) : Nat := (printPacket packet).length + 42

theorem batchPrice_paid (batch : List QueuedPacket) (nonempty : batch ≠ []) :
    batchPrice batch < (batch.map packetWeight).sum + 3 := by
  have weights (packets : List QueuedPacket) : (packets.map packetWeight).sum =
      traceCost packets + 39 * packets.length := by
    induction packets with
    | nil => rfl
    | cons packet packets ih =>
      simp only [List.map_cons, List.sum_cons, ih, traceCost, packetWeight, List.length_cons]
      omega
  have longer := List.length_pos_of_ne_nil nonempty
  rw [weights, batchPrice]
  omega

namespace Program

variable {ω σ R : Type} [DecidableEq ω] [Arithmetic R] {hash : UInt32 → Nat}
  {config : ProgramConfig σ R} {program after : Program ω σ R}

/-- What a worker can still do for itself: in the pool, or in the callback once that has begun. -/
def ahead (program : Program ω σ R) (worker : ω) : Nat :=
  match program.callbacks worker with
  | .idle => program.pipeline.pool.left batchPrice worker
  | .tracing batch rest => traceCost rest + 26 * batch.length + 14
  | .analyzing _ => 11

def left (program : Program ω σ R) (worker : ω) : Nat :=
  program.ahead worker + (program.analysis.pcs worker).left + program.output.left worker

def mainLeft : MainPc → Nat
  | .joiningCapture => 4
  | .closing => 3
  | .inShutdown => 2
  | .joiningWorkers => 1
  | .finished => 0

def common (program : Program ω σ R) : Nat :=
  program.pipeline.pool.stored packetWeight + mainLeft program.pipeline.main +
    (!program.pipeline.capture.stopRequested).toNat

def work [Fintype ω] (program : Program ω σ R) : Nat :=
  (∑ worker, program.left worker) + program.common

theorem closed_of_reachable (reachable : (system ω hash config).Reachable program)
    (shutdown : program.pipeline.pool.threads.queue.shutdown) :
    WorkerPool.Closed config.pipeline.batchSize program.pipeline.pool := by
  have runs := pipeline_reachable reachable
  have pool := Pipeline.pool_reachable runs
  refine ⟨shutdown, ((Pipeline.Joined.of_reachable runs).after_shutdown shutdown).2, ?_,
    WorkerPool.outside_of_working pool, WorkerPool.busy_of_popping pool⟩
  refine WorkerPool.threads_invariant (P := fun threads => ∀ worker maxN,
    (threads.pops worker).maxN = some maxN → maxN = config.pipeline.batchSize) ?_ ?_ pool
  · intro threads start worker maxN asks
    rw [show threads = _ from start] at asks
    cases asks
  · intro event threads later step sized asked worker maxN asks
    rcases step.asks asks with before | ⟨linger, called⟩
    · exact asked worker maxN before
    · exact sized worker maxN linger called

omit [DecidableEq ω] in
theorem left_le {worker : ω} (callbacks : after.callbacks worker = program.callbacks worker)
    (pool : after.pipeline.pool.left batchPrice worker ≤ program.pipeline.pool.left batchPrice worker)
    (analysis : after.analysis.pcs worker = program.analysis.pcs worker)
    (output : after.output.left worker = program.output.left worker) :
    after.left worker ≤ program.left worker := by
  have ahead : after.ahead worker ≤ program.ahead worker := by
    unfold ahead
    rw [callbacks]
    split
    · exact pool
    · exact le_rfl
    · exact le_rfl
  unfold left
  rw [analysis, output]
  omega

omit [DecidableEq ω] in
theorem Attached.ahead_of_free (attached : Attached program) {worker : ω}
    (free : ∀ ticket batch, program.pipeline.pool.workers worker ≠ .analyzing ticket batch) :
    program.callbacks worker = .idle := by
  cases found : program.callbacks worker with
  | idle => rfl
  | tracing batch rest =>
    obtain ⟨ticket, busy⟩ := attached.holds worker batch (by rw [found]; rfl)
    exact absurd busy (free ticket batch)
  | analyzing batch =>
    obtain ⟨ticket, busy⟩ := attached.holds worker batch (by rw [found]; rfl)
    exact absurd busy (free ticket batch)

variable [Fintype ω]

theorem work_lt (mover : ω) (others : ∀ worker, worker ≠ mover → after.left worker ≤ program.left worker)
    (own : after.left mover + after.common < program.left mover + program.common) :
    after.work < program.work :=
  TransitionSystem.sum_spends mover others own

theorem pool_spends (attached : Attached program)
    (closed : WorkerPool.Closed config.pipeline.batchSize program.pipeline.pool)
    (positive : 1 ≤ config.pipeline.batchSize) {pool : WorkerPool Unit ω Unit QueuedPacket}
    (step : WorkerPool.Step config.pipeline.batchSize config.pipeline.linger .inside
      program.pipeline.pool pool) (stays : pool.analyzed = program.pipeline.pool.analyzed) :
    ({ program with pipeline := { program.pipeline with pool } } : Program ω σ R).work <
      program.work := by
  cases closed.drains positive batchPrice_paid step stays with
  | worker mover free others spends =>
    have idle := attached.ahead_of_free free
    refine work_lt mover (fun worker apart => left_le rfl (others worker apart) rfl rfl) ?_
    simp only [left, ahead, common, idle]
    omega
  | closer all spends =>
    refine Nat.add_lt_add_of_le_of_lt (Finset.sum_le_sum fun worker _ => ?_) ?_
    · exact left_le rfl (all worker) rfl rfl
    · simp only [common]
      omega

theorem pipeline_spends (reachable : (system ω hash config).Reachable program)
    (shutdown : program.pipeline.pool.threads.queue.shutdown)
    (positive : 1 ≤ config.pipeline.batchSize) {pipeline : Pipeline ω}
    (step : Pipeline.Step config.pipeline program.pipeline pipeline)
    (stays : pipeline.pool.analyzed = program.pipeline.pool.analyzed) :
    ({ program with pipeline } : Program ω σ R) = program ∨
      ({ program with pipeline } : Program ω σ R).work < program.work := by
  have joined := Pipeline.Joined.of_reachable (pipeline_reachable reachable)
  have returned := (joined.after_shutdown shutdown).1
  have late : ¬ (program.pipeline.main = .joiningCapture ∨ program.pipeline.main = .closing) := by
    intro early
    rw [(joined.early early).1] at shutdown
    cases shutdown
  have same (worker : ω) : program.left worker ≤ program.left worker := le_rfl
  cases step with
  | pool pool step =>
    exact .inr (pool_spends (Attached.of_reachable reachable) (closed_of_reachable reachable shutdown)
      positive step stays)
  | capture capture step => exact absurd returned step.running
  | handle frame parsed capture pool handles pushes => exact absurd returned handles.running
  | handled result capture pool handled pushed => exact absurd returned handled.running
  | requestStop =>
    cases stopped : program.pipeline.capture.stopRequested with
    | true =>
      left
      rw [← stopped]
    | false =>
      refine .inr (Nat.add_lt_add_of_le_of_lt (Finset.sum_le_sum fun worker _ => same worker) ?_)
      simp only [common, stopped, Bool.not_false, Bool.not_true, Bool.toNat_true, Bool.toNat_false]
      omega
  | joinCapture joining returned => exact absurd (.inl joining) late
  | shutdown pool closing step => exact absurd (.inr closing) late
  | closed pool closing step =>
    right
    cases step with
    | queue _ threads outer step =>
      cases step with
      | shutdownReturn _ done =>
        refine Nat.add_lt_add_of_le_of_lt (Finset.sum_le_sum fun worker _ => same worker) ?_
        simp only [common, closing, WorkerPool.stored, Function.update_self, ShutdownPc.left,
          mainLeft]
        omega
  | joinWorkers joining exited =>
    refine .inr (Nat.add_lt_add_of_le_of_lt (Finset.sum_le_sum fun worker _ => same worker) ?_)
    simp only [common, joining, mainLeft]
    omega

/-- Every step after the shutdown that changes anything uses up some work. -/
theorem Step.spends (reachable : (system ω hash config).Reachable program)
    (shutdown : program.pipeline.pool.threads.queue.shutdown)
    (positive : 1 ≤ config.pipeline.batchSize) (step : Step hash config program after) :
    after = program ∨ after.work < program.work := by
  have elsewhere {mover : ω} {pc : CallbackPc} {worker : ω} (apart : worker ≠ mover) :
      Function.update program.callbacks mover pc worker = program.callbacks worker :=
    Function.update_of_ne apart _ _
  cases step with
  | pipeline pipeline step stays => exact pipeline_spends reachable shutdown positive step stays
  | call mover ticket batch due idle =>
    refine .inr (work_lt mover (fun worker apart => left_le (elsewhere apart) le_rfl rfl rfl) ?_)
    simp only [left, ahead, common, Function.update_self, idle, WorkerPool.left, due, WorkerPc.left,
      batchPrice]
    have fewer : traceCost (if config.verbose then batch else []) ≤ traceCost batch := by
      split
      · exact le_rfl
      · exact Nat.zero_le _
    omega
  | trace mover batch packet rest output due prints =>
    obtain ⟨writer, spends, caller⟩ := prints.spends
    obtain rfl := caller mover rfl
    refine .inr (work_lt writer (fun worker apart => ?_) ?_)
    · exact left_le (elsewhere apart) le_rfl rfl (spends.others worker apart)
    · have own := spends.own
      simp only [left, ahead, common, Function.update_self, due, traceCost, List.map_cons,
        List.sum_cons, Output.Event.cost] at own ⊢
      omega
  | analyze mover batch analysis due silent starts =>
    have own := starts.spends
    refine .inr (work_lt mover (fun worker apart => ?_) ?_)
    · exact left_le (elsewhere apart) le_rfl (starts.others worker apart) rfl
    · simp only [left, ahead, common, Function.update_self, due, traceCost, List.map_nil,
        List.sum_nil, AnalysisWorkers.costs, List.map_singleton, List.sum_singleton,
        List.length_nil] at own ⊢
      omega
  | act mover batch analysis due silent acts =>
    have own := acts.spends
    refine .inr (work_lt mover (fun worker apart => ?_) ?_)
    · exact left_le rfl le_rfl (acts.others worker apart) rfl
    · simp only [left, ahead, common, due, AnalysisWorkers.costs, List.map_nil, List.sum_nil,
        List.length_nil] at own ⊢
      omega
  | raise mover batch alert analysis output due acts prints =>
    have raised := acts.spends
    obtain ⟨writer, spends, caller⟩ := prints.spends
    obtain rfl := caller mover rfl
    refine .inr (work_lt writer (fun worker apart => ?_) ?_)
    · exact left_le rfl le_rfl (acts.others worker apart) (spends.others worker apart)
    · have own := spends.own
      simp only [left, ahead, common, due, AnalysisWorkers.costs, List.map_nil, List.sum_nil,
        List.length_singleton, Output.Event.cost] at own raised ⊢
      omega
  | returns mover ticket batch due busy outside silent =>
    refine .inr (work_lt mover (fun worker apart => ?_) ?_)
    · refine left_le (elsewhere apart) (WorkerPool.left_le ?_ le_rfl le_rfl) rfl rfl
      exact Function.update_of_ne apart _ _
    · simp only [left, ahead, common, Function.update_self, due, WorkerPool.left, WorkerPc.left,
        WorkerPool.stored]
      omega
  | output output step =>
    obtain ⟨mover, spends, -⟩ := step.spends
    refine .inr (work_lt mover (fun worker apart => ?_) ?_)
    · exact left_le rfl le_rfl rfl (spends.others worker apart)
    · have own := spends.own
      simp only [left, ahead, common, Output.Event.cost] at own ⊢
      omega

omit [DecidableEq ω] in
theorem ne_of_work {after : Program ω σ R} (less : after.work < program.work) : after ≠ program := by
  rintro rfl
  exact Nat.lt_irrefl _ less

theorem callback_moves (reachable : (system ω hash config).Reachable program) {worker : ω}
    {ticket : Nat} {batch : List QueuedPacket}
    (busy : program.pipeline.pool.workers worker = .analyzing ticket batch) :
    ∃ after, Step hash config program after ∧ after ≠ program := by
  have attached := Attached.of_reachable reachable
  have analysis := analysis_reachable reachable
  have printing (busy : ¬ program.output.idle worker) :
      ∃ after, Step hash config program after ∧ after ≠ program := by
    obtain ⟨output, step⟩ := Output.moves (output_reachable reachable) busy
    refine ⟨_, .output output step, fun same => ?_⟩
    obtain ⟨mover, spends, -⟩ := step.spends
    have own := spends.own
    rw [show output = program.output from congrArg Program.output same] at own
    exact Nat.lt_irrefl _ own
  have moved {pc : CallbackPc} {after : Program ω σ R}
      (callbacks : after.callbacks = Function.update program.callbacks worker pc)
      (apart : pc ≠ program.callbacks worker) : after ≠ program := by
    rintro rfl
    have still := congrFun callbacks worker
    rw [Function.update_self] at still
    exact apart still.symm
  cases place : program.callbacks worker with
  | idle =>
    exact ⟨_, .call worker ticket batch busy place, moved rfl (by rw [place]; exact nofun)⟩
  | tracing taken rest =>
    by_cases idle : program.output.idle worker
    · cases rest with
      | cons packet rest =>
        refine ⟨_, .trace worker taken packet rest _ place
          (.printPacket worker packet _ idle (.write worker _ idle.2)), moved rfl fun same => ?_⟩
        rw [place] at same
        exact List.cons_ne_self packet rest (CallbackPc.tracing.inj same).2.symm
      | nil =>
        have outside := attached.outside worker (by rw [place]; rfl)
        exact ⟨_, .analyze worker taken _ place idle ⟨.start worker taken _ _ outside rfl rfl,
          fun other apart => Function.update_of_ne apart _ _, rfl, (List.append_nil _).symm⟩,
          moved rfl (by rw [place]; exact nofun)⟩
    · exact printing idle
  | analyzing taken =>
    by_cases idle : program.output.idle worker
    · by_cases outside : program.analysis.pcs worker = .outside
      · obtain ⟨other, held⟩ := attached.holds worker taken (by rw [place]; rfl)
        exact ⟨_, .returns worker other taken place held outside idle,
          moved rfl (by rw [place]; exact nofun)⟩
      · obtain ⟨after, alerts, step, others, batches, sunk, few⟩ := AnalysisWorkers.moves hash
          (AnalysisWorkers.inRange_of_reachable analysis worker) outside
        have acts : AnalysisWorkers.Acts hash worker program.analysis after [] alerts :=
          ⟨step, others, batches.trans (List.append_nil _).symm, sunk⟩
        have differs : after ≠ program.analysis := by
          rintro rfl
          have own := acts.spends
          simp only [AnalysisWorkers.costs, List.map_nil, List.sum_nil] at own
          omega
        cases alerts with
        | nil =>
          exact ⟨_, .act worker taken after place idle acts,
            fun same => differs (congrArg Program.analysis same)⟩
        | cons alert alerts =>
          obtain rfl : alerts = [] := List.eq_nil_of_length_eq_zero (Nat.le_zero.mp
            (Nat.le_of_succ_le_succ few))
          exact ⟨_, .raise worker taken alert after _ place acts (.printAlert worker alert idle),
            fun same => differs (congrArg Program.analysis same)⟩
    · exact printing idle

/-- After the shutdown something can change until `main` is through. -/
theorem moves (reachable : (system ω hash config).Reachable program)
    (shutdown : program.pipeline.pool.threads.queue.shutdown)
    (positive : 1 ≤ config.pipeline.batchSize) : program.pipeline.main = .finished ∨
      ∃ after, Step hash config program after ∧ after ≠ program := by
  have runs := pipeline_reachable reachable
  have joined := Pipeline.Joined.of_reachable runs
  have attached := Attached.of_reachable reachable
  have closed := closed_of_reachable reachable shutdown
  have late : ¬ (program.pipeline.main = .joiningCapture ∨ program.pipeline.main = .closing) := by
    intro early
    rw [(joined.early early).1] at shutdown
    cases shutdown
  have pooled {pool : WorkerPool Unit ω Unit QueuedPacket}
      (step : WorkerPool.Step config.pipeline.batchSize config.pipeline.linger .inside
        program.pipeline.pool pool) (stays : pool.analyzed = program.pipeline.pool.analyzed) :
      ∃ after, Step hash config program after ∧ after ≠ program :=
    ⟨_, .pipeline _ (.pool pool step) stays,
      ne_of_work (pool_spends attached closed positive step stays)⟩
  cases place : program.pipeline.main with
  | joiningCapture => exact absurd (.inl place) late
  | closing => exact absurd (.inr place) late
  | finished => exact .inl rfl
  | inShutdown =>
    right
    have underway := Pipeline.shutdown_underway runs place
    cases position : program.pipeline.pool.threads.shutdowns () with
    | outside => exact absurd position underway
    | entering => exact pooled (.queue .inside _ rfl (.shutdownRun () position)) rfl
    | notifyingFull => exact pooled (.queue .inside _ rfl (.shutdownNotifyFull () position)) rfl
    | notifyingEmpty => exact pooled (.queue .inside _ rfl (.shutdownNotifyEmpty () position)) rfl
    | returning =>
      refine ⟨_, .pipeline _ (.closed _ place (.queue _ _ rfl (.shutdownReturn () position))) rfl,
        fun same => ?_⟩
      have changed := congrArg (fun program => program.pipeline.main) same
      rw [place] at changed
      cases changed
  | joiningWorkers =>
    right
    by_cases exited : ∀ worker, program.pipeline.pool.workers worker = .exited
    · refine ⟨_, .pipeline _ (.joinWorkers place exited) rfl, fun same => ?_⟩
      have changed := congrArg (fun program => program.pipeline.main) same
      rw [place] at changed
      cases changed
    · obtain ⟨worker, running⟩ := not_forall.mp exited
      by_cases busy : ∃ ticket batch, program.pipeline.pool.workers worker = .analyzing ticket batch
      · obtain ⟨ticket, batch, busy⟩ := busy
        exact callback_moves reachable busy
      · obtain ⟨pool, step, stays⟩ := closed.moves config.pipeline.linger running
          fun ticket batch analyzing => busy ⟨ticket, batch, analyzing⟩
        exact pooled step stays

omit [Fintype ω] in
theorem stays_shut {run : Nat → Program ω σ R} (runs : (system ω hash config).Runs run)
    {closed : Nat}
    (shutdown : (run closed).pipeline.pool.threads.queue.shutdown) {later : Nat}
    (past : closed ≤ later) : (run later).pipeline.pool.threads.queue.shutdown := by
  induction later, past using Nat.le_induction with
  | base => exact shutdown
  | succ later past ih =>
    rcases runs later with ⟨step, -⟩ | ⟨-, same⟩
    · rcases Step.pipeline_step step with moved | same
      · rcases moved.pool_step with ⟨event, pooled⟩ | same
        · rcases pooled.threads with ⟨inner, queued, -⟩ | ⟨-, same⟩
          · have leads : (QueueThreads.system Unit ω Unit QueuedPacket
                config.pipeline.capacity).Leads _ _ := Relation.ReflTransGen.single ⟨inner, queued⟩
            exact (QueueThreads.ShutdownDrains.of_leads leads).closed ih
          · rwa [same]
        · rwa [same]
      · rwa [same]
    · rwa [same]

theorem finishes (positive : 1 ≤ config.pipeline.batchSize) {run : Nat → Program ω σ R}
    (runs : (system ω hash config).Runs run) (begins : (system ω hash config).Reachable (run 0))
    {closed : Nat} (shutdown : (run closed).pipeline.pool.threads.queue.shutdown) :
    ∃ later, closed ≤ later ∧ later ≤ closed + (run closed).work ∧
      (run later).pipeline.main = .finished := by
  refine runs.reaches (fun program => (system ω hash config).Reachable program ∧
    program.pipeline.pool.threads.queue.shutdown) (fun program => program.pipeline.main = .finished)
    work ?_ ?_ ?_
  · intro later past
    exact ⟨begins.leads (runs.leads later), stays_shut runs shutdown past⟩
  · intro program after holds step
    exact Step.spends holds.1 holds.2 positive step
  · intro program holds
    exact moves holds.1 holds.2 positive

/-- Once the queue is shut down, every run ends with `main` through, whatever the schedule and
    whatever the backend does, after at most as many steps as there is work left. -/
theorem main_finishes (positive : 1 ≤ config.pipeline.batchSize) {run : Nat → Program ω σ R}
    (runs : (system ω hash config).Runs run) (begins : (system ω hash config).start (run 0))
    {closed : Nat} (shutdown : (run closed).pipeline.pool.threads.queue.shutdown) :
    ∃ later, closed ≤ later ∧ later ≤ closed + (run closed).work ∧
      (run later).pipeline.main = .finished :=
  finishes positive runs (TransitionSystem.Reachable.first begins) shutdown

/-- The shutdown finds a packet on the queue, a worker with an alert to print, one that has been
    notified and one that sleeps. -/
theorem busy_shutdown_finishes : ∃ (run : Nat → Program (Fin 3) Unit ℝ) (closed later : Nat),
    (system (Fin 3) UInt32.toNat { eicarConfig with verbose := false }).Runs run ∧
      (run closed).pipeline.pool.threads.queue.items = [eicarPacket 0x0A000003] ∧
      (run closed).output.alerting 0 = .countingAll (signatureAlert (eicarPacket 0x0A000001)) ∧
      ((run closed).pipeline.pool.threads.pops 2).parked ∧
      (run closed).pipeline.main = .inShutdown ∧
        closed ≤ later ∧ (run later).pipeline.main = .finished := by
  let config : ProgramConfig Unit ℝ := { eicarConfig with verbose := false }
  have one := eicar_accepted [0x0A000001]
  have room : (Capture.accepted config.pipeline.parse ([0x0A000001].map eicarFrame)).length ≤
      config.pipeline.capacity := by
    rw [show config.pipeline.parse = Frame.parse from rfl, one]
    decide
  obtain ⟨delivered, history, ahead⟩ := @readAhead_reachable (Fin 3) Unit ℝ _ _ UInt32.toNat config
    rfl ([0x0A000001].map eicarFrame) room
  rw [show config.pipeline.parse = Frame.parse from rfl, one] at ahead
  have popping := ahead.next
    (.pipeline _ (.pool _ (.popBatch 0 _ rfl (.popCall 0 1 false rfl))) rfl)
  have taken := popping.next
    (.pipeline _ (.pool _ (.queue .inside _ rfl (.popRun 0 false 1 _ _ rfl))) rfl)
  have notified := taken.next
    (.pipeline _ (.pool _ (.queue .inside _ rfl (.popNotifyFull 0 _ _ _ rfl))) rfl)
  have popped := notified.next
    (.pipeline _ (.pool _ (.popped 0 _ _ _ rfl (.popReturn 0 _ _ rfl))) rfl)
  have called := popped.next (.call 0 _ _ rfl rfl)
  have started := called.next (.analyze 0 _ _ rfl ⟨rfl, rfl⟩
    (AnalysisWorkers.Step.acts (.start 0 _ _ _ rfl rfl rfl) rfl rfl (List.append_nil _).symm))
  have raised := started.next (.raise 0 _ _ _ _ rfl
    (AnalysisWorkers.Step.acts (.signature 0 _ _ _ _ rfl) rfl (List.append_nil _).symm
      (congrArg ([] ++ ·) (eicarPacket_raises 0x0A000001)))
    (.printAlert 0 _ ⟨rfl, rfl⟩))
  have other := raised.next
    (.pipeline _ (.pool _ (.popBatch 1 _ rfl (.popCall 1 1 false rfl))) rfl)
  have waits := other.next
    (.pipeline _ (.pool _ (.queue .inside _ rfl (.popRun 1 false 1 _ _ rfl))) rfl)
  have third := waits.next
    (.pipeline _ (.pool _ (.popBatch 2 _ rfl (.popCall 2 1 false rfl))) rfl)
  have sleeps := third.next
    (.pipeline _ (.pool _ (.queue .inside _ rfl (.popRun 2 false 1 _ _ rfl))) rfl)
  have reading := sleeps.next (.pipeline _ (.capture _ (.inner rfl)) rfl)
  have parses : Frame.parse (eicarFrame 0x0A000003) = some _ := EthernetFrame.parse_frame _ _ _
  have handling := reading.next (.pipeline _ (.capture _ (.takes rfl parses)) rfl)
  have entering := handling.next (.pipeline _
    (.handle _ _ _ _ (.handle _ _ rfl) (.queue _ _ rfl (.pushCall () _ rfl))) rfl)
  have notifying := entering.next
    (.pipeline _ (.pool _ (.queue .inside _ rfl (.pushRun () _ _ rfl))) rfl)
  have returning := notifying.next
    (.pipeline _ (.pool _ (.queue .inside _ rfl (.pushNotify () _ _ rfl (.wakes 1 rfl)))) rfl)
  have counting := returning.next
    (.pipeline _ (.handled true _ _ (.handled rfl) (.queue _ _ rfl (.pushReturn () _ _ rfl))) rfl)
  have checking := counting.next (.pipeline _ (.capture _ (.count rfl)) rfl)
  have again := checking.next (.pipeline _ (.capture _ (.again rfl rfl)) rfl)
  have reading := again.next (.pipeline _ (.capture _ (.inner rfl)) rfl)
  have done := reading.next (.pipeline _ (.capture _ (.read .endOrError rfl)) rfl)
  have returned := done.next (.pipeline _ (.capture _ (.outer true rfl)) rfl)
  have joined := returned.next (.pipeline _ (.joinCapture rfl rfl) rfl)
  have entering := joined.next
    (.pipeline _ (.shutdown _ rfl (.queue _ _ rfl (.shutdownCall () rfl))) rfl)
  have closed := entering.next
    (.pipeline _ (.pool _ (.queue .inside _ rfl (.shutdownRun () rfl))) rfl)
  obtain ⟨first, begins, leads⟩ := closed
  obtain ⟨run, time, runs, starts, reaches⟩ := TransitionSystem.exists_runs_through leads
  have shutdown : (run time).pipeline.pool.threads.queue.shutdown := by
    rw [reaches]
  obtain ⟨later, past, -, finished⟩ := main_finishes (by decide) runs (starts ▸ begins) shutdown
  refine ⟨run, time, later, runs, ?_, ?_, ?_, ?_, past, finished⟩
  · rw [reaches]
    exact congrArg (fun packet => [packet]) ((eicarSegment 0x0A000003).describe_decoded 133 {})
  · rw [reaches]
    rfl
  · rw [reaches]
    rfl
  · rw [reaches]

omit [Fintype ω] in
theorem frames_kept (leads : (system ω hash config).Leads program after)
    (returned : program.pipeline.capture.pc = .returned) :
    after.pipeline.capture.pc = .returned ∧
      after.pipeline.capture.frames = program.pipeline.capture.frames := by
  induction leads with
  | refl => exact ⟨returned, rfl⟩
  | tail _ step ih =>
    rcases Step.pipeline_step step with moved | same
    · obtain ⟨pc, frames⟩ := moved.frames_kept ih.1
      exact ⟨pc, frames.trans ih.2⟩
    · rw [same]
      exact ih

theorem finishes_after (positive : 1 ≤ config.pipeline.batchSize)
    (reachable : (system ω hash config).Reachable program)
    (shutdown : program.pipeline.pool.threads.queue.shutdown) :
    ∃ after, (system ω hash config).Leads program after ∧ after.pipeline.main = .finished := by
  obtain ⟨run, runs, begins⟩ := TransitionSystem.exists_runs (system ω hash config) program
  have closed : (run 0).pipeline.pool.threads.queue.shutdown := by
    rw [begins]
    exact shutdown
  obtain ⟨later, -, -, finished⟩ := finishes positive runs (begins ▸ reachable) closed
  exact ⟨run later, begins ▸ runs.leads later, finished⟩

theorem finishes_from (positive : 1 ≤ config.pipeline.batchSize)
    (reachable : (system ω hash config).Reachable program) {delivered : Int32} {frames : List Frame}
    (waits : program.pipeline.capture = ⟨.inner, false, delivered, frames⟩)
    (joining : program.pipeline.main = .joiningCapture) :
    ∃ after, (system ω hash config).Leads program after ∧ after.pipeline.main = .finished ∧
      after.pipeline.capture.frames = frames := by
  obtain ⟨closed, begins, shutdown, read⟩ := closes reachable waits joining
  have along := reachable.leads begins
  obtain ⟨after, leads, finished⟩ := finishes_after positive along shutdown
  have joined := Pipeline.Joined.of_reachable (pipeline_reachable along)
  have returned := (joined.after_shutdown shutdown).1
  exact ⟨after, begins.trans leads, finished, (frames_kept leads returned).2.trans read⟩

/-- What fits the queue can be captured and worked off, whatever the backend does. -/
theorem capture_finishes (ω : Type) [DecidableEq ω] [Fintype ω] (hash : UInt32 → Nat)
    (config : ProgramConfig σ R) (positive : 1 ≤ config.pipeline.batchSize)
    (unlimited : config.pipeline.maxPackets = 0) (frames : List Frame)
    (room : (Capture.accepted config.pipeline.parse frames).length ≤ config.pipeline.capacity) :
    ∃ program, (system ω hash config).Reachable program ∧ program.pipeline.main = .finished ∧
      program.pipeline.capture.frames = frames := by
  obtain ⟨delivered, history, ahead⟩ := readAhead_reachable (ω := ω) unlimited frames room
  obtain ⟨after, leads, finished, read⟩ := finishes_from positive ahead rfl rfl
  exact ⟨after, ahead.leads leads, finished, read⟩

theorem eicar_finishes (ω : Type) [DecidableEq ω] [Fintype ω] (hash : UInt32 → Nat)
    (config : ProgramConfig σ R) (captures : config.pipeline = eicarPipeline) :
    ∃ program, (system ω hash config).Reachable program ∧ program.pipeline.main = .finished ∧
      program.pipeline.capture.frames = eicarSources.map eicarFrame := by
  refine capture_finishes ω hash config ?_ ?_ _ ?_
  · rw [captures]
    decide
  · rw [captures]
    rfl
  · rw [captures, show eicarPipeline.parse = Frame.parse from rfl, eicar_accepted]
    decide

end Program

end NetSentinel
