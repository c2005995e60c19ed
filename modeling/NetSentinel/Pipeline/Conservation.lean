import NetSentinel.Pipeline.System

namespace NetSentinel

def CapturePc.pending : CapturePc → List QueuedPacket
  | .handling frame parsed => [makeQueuedPacket frame.data parsed]
  | _ => []

def Capture.Event.pushed : Capture.Event → List QueuedPacket
  | .handle frame parsed => [makeQueuedPacket frame.data parsed]
  | _ => []

theorem Capture.Step.accepted {selectable : Bool} {maxPackets : Int32}
    {parse : Frame → Option ParsedPacket} {event : Event} {capture after : Capture}
    (step : Step selectable maxPackets parse event capture after) {sent : List QueuedPacket}
    (before : sent ++ capture.pc.pending = Capture.accepted parse capture.frames) :
    sent ++ event.pushed ++ after.pc.pending = Capture.accepted parse after.frames := by
  have quiet : ∀ {pc : CapturePc}, capture.pc.pending = [] → pc.pending = [] →
      sent ++ [] ++ pc.pending = Capture.accepted parse capture.frames := by
    intro pc nothing still
    rw [still, List.append_nil, ← nothing]
    exact before
  cases step with
  | start starting => exact quiet (by rw [starting]; rfl) rfl
  | outer done testing =>
    refine quiet (by rw [testing]; rfl) ?_
    split
    · split <;> rfl
    · rfl
  | poll outcome polling =>
    have nothing : capture.pc.pending = [] := by rw [polling]; rfl
    cases outcome <;> exact quiet nothing rfl
  | inner testing =>
    refine quiet (by rw [testing]; rfl) ?_
    split <;> rfl
  | read outcome reading =>
    have nothing : capture.pc.pending = [] := by rw [reading]; rfl
    cases outcome with
    | frame frame =>
      have grown := accepted_append parse capture.frames frame
      rw [nothing, List.append_nil] at before
      show sent ++ [] ++ _ = Capture.accepted parse (capture.frames ++ [frame])
      rw [grown, ← before, List.append_nil, Capture.read]
      cases parsed : parse frame with
      | none => rfl
      | some packet => rfl
    | nothingReady => exact quiet nothing rfl
    | endOrError => exact quiet nothing rfl
  | handle frame parsed handling =>
    rw [handling] at before
    exact (List.append_nil _).trans before
  | handled handling => exact quiet (by rw [handling]; rfl) rfl
  | count counting => exact quiet (by rw [counting]; rfl) rfl
  | check checking =>
    refine quiet (by rw [checking]; rfl) ?_
    split <;> rfl

theorem Capture.Step.running {selectable : Bool} {maxPackets : Int32}
    {parse : Frame → Option ParsedPacket} {event : Event} {capture after : Capture}
    (step : Step selectable maxPackets parse event capture after) : capture.pc ≠ .returned := by
  cases step <;> simp [*]

theorem Capture.Step.not_in_handler {selectable : Bool} {maxPackets : Int32}
    {parse : Frame → Option ParsedPacket} {capture after : Capture}
    (step : Step selectable maxPackets parse .inside capture after) : capture.pc ≠ .inHandler := by
  cases step <;> simp [*]

theorem WorkerPool.Step.pushed_outside {π κ σ α : Type*} [DecidableEq π] [DecidableEq κ]
    [DecidableEq σ] {batchSize : Nat} {linger : Bool} {pool after : WorkerPool π κ σ α}
    {producer : π} {result : Bool}
    (step : Step batchSize linger (.pushed producer result) pool after) :
    after.threads.pushes producer = .outside := by
  cases step with
  | queue event threads outer step =>
    cases step with
    | pushReturn => exact Function.update_self producer _ _

namespace Pipeline

variable {ω : Type*} {config : PipelineConfig} {pipeline after : Pipeline ω}

/-- `main` shuts the queue down only after the capture thread has returned, and the capture thread
    is in `push` only while it handles a packet. -/
structure Joined (pipeline : Pipeline ω) : Prop where
  early : pipeline.main = .joiningCapture ∨ pipeline.main = .closing →
    pipeline.pool.threads.queue.shutdown = false ∧
      pipeline.pool.threads.shutdowns () = .outside
  late : pipeline.main ≠ .joiningCapture → pipeline.capture.pc = .returned
  idle : pipeline.capture.pc ≠ .inHandler → pipeline.pool.threads.pushes () = .outside

theorem Joined.after_shutdown (joined : Joined pipeline)
    (closed : pipeline.pool.threads.queue.shutdown) :
    pipeline.capture.pc = .returned ∧ pipeline.pool.threads.pushes () = .outside := by
  have late : pipeline.main ≠ .joiningCapture := by
    intro early
    rw [(joined.early (.inl early)).1] at closed
    cases closed
  have returned := joined.late late
  exact ⟨returned, joined.idle (by simp [returned])⟩

variable [DecidableEq ω]

theorem Joined.early_step {event : QueueThreads.Event Unit ω Unit QueuedPacket}
    {pool : WorkerPool Unit ω Unit QueuedPacket} (joined : Joined pipeline)
    (step : WorkerPool.Step config.batchSize config.linger event pipeline.pool pool)
    (quiet : event ≠ .shutdown ())
    (early : pipeline.main = .joiningCapture ∨ pipeline.main = .closing) :
    pool.threads.queue.shutdown = false ∧ pool.threads.shutdowns () = .outside := by
  obtain ⟨running, outside⟩ := joined.early early
  refine ⟨step.stays_open running fun _ => outside, ?_⟩
  rcases step.shutdowns_outside outside with still | called
  · exact still
  · exact absurd called quiet

theorem Joined.idle_step {event : QueueThreads.Event Unit ω Unit QueuedPacket}
    {pool : WorkerPool Unit ω Unit QueuedPacket} (joined : Joined pipeline)
    (step : WorkerPool.Step config.batchSize config.linger event pipeline.pool pool)
    (quiet : ∀ packet, event ≠ .push () packet) (idle : pipeline.capture.pc ≠ .inHandler) :
    pool.threads.pushes () = .outside := by
  rcases step.pushes_outside (joined.idle idle) with still | ⟨packet, called⟩
  · exact still
  · exact absurd called (quiet packet)

theorem Joined.of_reachable (reachable : (system ω config).Reachable pipeline) :
    Joined pipeline := by
  refine TransitionSystem.Reachable.invariant ?_ ?_ reachable
  · intro first start
    obtain ⟨capture, main, threads, -⟩ := start
    have threads : first.pool.threads = _ := threads
    refine ⟨fun _ => ?_, fun late => absurd main late, fun _ => ?_⟩
    · rw [threads]
      exact ⟨rfl, rfl⟩
    · rw [threads]
  · intro before after _ step joined
    cases step with
    | pool pool step =>
      exact ⟨joined.early_step step (by simp), joined.late, joined.idle_step step (by simp)⟩
    | capture capture step =>
      refine ⟨joined.early, fun late => ?_, fun _ => joined.idle step.not_in_handler⟩
      exact absurd (joined.late late) step.running
    | handle frame parsed capture pool handles pushes =>
      refine ⟨joined.early_step pushes (by simp), fun late => ?_, fun idle => ?_⟩
      · exact absurd (joined.late late) handles.running
      · cases handles
        exact absurd rfl idle
    | handled result capture pool handled pushed =>
      refine ⟨joined.early_step pushed (by simp), fun late => ?_, fun _ => pushed.pushed_outside⟩
      exact absurd (joined.late late) handled.running
    | requestStop => exact ⟨joined.early, joined.late, joined.idle⟩
    | joinCapture joining returned =>
      exact ⟨fun _ => joined.early (.inl joining), fun _ => returned, joined.idle⟩
    | shutdown pool closing step =>
      refine ⟨by simp, fun _ => joined.late (by simp [closing]), joined.idle_step step (by simp)⟩
    | closed pool closing step =>
      exact ⟨by simp, fun _ => joined.late (by simp [closing]), joined.idle_step step (by simp)⟩
    | joinWorkers joining exited =>
      exact ⟨by simp, fun _ => joined.late (by simp [joining]), joined.idle⟩

structure Conserved (config : PipelineConfig) (pipeline : Pipeline ω) : Prop where
  sent : pipeline.pool.threads.history.calls ++ pipeline.capture.pc.pending =
    Capture.accepted config.parse pipeline.capture.frames
  ordered : pipeline.pool.threads.fifo.SentInOrder

theorem Conserved.sent_step (conserved : Conserved config pipeline)
    (step : Step config pipeline after) :
    after.pool.threads.history.calls ++ after.capture.pc.pending =
      Capture.accepted config.parse after.capture.frames := by
  have sent := conserved.sent
  have silent : ∀ {event : QueueThreads.Event Unit ω Unit QueuedPacket}
      {pool : WorkerPool Unit ω Unit QueuedPacket},
      WorkerPool.Step config.batchSize config.linger event pipeline.pool pool →
        event.called = [] → pool.threads.history.calls = pipeline.pool.threads.history.calls := by
    intro event pool moved quiet
    rw [moved.calls, quiet, List.append_nil]
  cases step with
  | pool pool moved =>
    dsimp only
    rw [silent moved rfl]
    exact sent
  | capture capture moved =>
    have next := moved.accepted sent
    rwa [show Capture.Event.inside.pushed = [] from rfl, List.append_nil] at next
  | handle frame parsed capture pool handles pushes =>
    dsimp only
    rw [pushes.calls]
    exact handles.accepted sent
  | handled result capture pool handled pushed =>
    dsimp only
    have next := handled.accepted sent
    rw [silent pushed rfl]
    rwa [show Capture.Event.handled.pushed = [] from rfl, List.append_nil] at next
  | requestStop => exact sent
  | joinCapture joining returned => exact sent
  | shutdown pool closing moved =>
    dsimp only
    rw [silent moved rfl]
    exact sent
  | closed pool closing moved =>
    dsimp only
    rw [silent moved rfl]
    exact sent
  | joinWorkers joining exited => exact sent

theorem Conserved.ordered_step (joined : Joined pipeline) (conserved : Conserved config pipeline)
    (step : Step config pipeline after) : after.pool.threads.fifo.SentInOrder := by
  have finished : pipeline.pool.threads.fifo.closed →
      pipeline.pool.threads.fifo.calls () = none := by
    intro closed
    exact congrArg PushPc.view (joined.after_shutdown closed).2
  rcases step.pool_step with ⟨event, moved⟩ | same
  · rcases moved.threads with ⟨inner, inside, -⟩ | ⟨-, same⟩
    · rcases inside.refines with seen | unseen
      · exact conserved.ordered.step finished seen
      · rw [unseen]
        exact conserved.ordered
    · rw [same]
      exact conserved.ordered
  · rw [same]
    exact conserved.ordered

theorem Conserved.of_reachable (reachable : (system ω config).Reachable pipeline) :
    Conserved config pipeline := by
  refine TransitionSystem.Reachable.invariant ?_ ?_ reachable
  · intro first start
    obtain ⟨capture, main, threads, -⟩ := start
    have threads : first.pool.threads = _ := threads
    constructor
    · rw [threads, capture]
      rfl
    · rw [threads]
      constructor <;> simp [QueueThreads.fifo, PushPc.view, FifoHistory.enqueuedItems]
  · intro before after earlier step conserved
    exact ⟨conserved.sent_step step, conserved.ordered_step (Joined.of_reachable earlier) step⟩

theorem drained_of_exited (reachable : (system ω config).Reachable pipeline) {worker : ω}
    (exited : pipeline.pool.workers worker = .exited) :
    pipeline.pool.threads.queue.items = [] ∧ pipeline.capture.pc = .returned ∧
      pipeline.pool.threads.pushes () = .outside := by
  have finished := WorkerPool.exited_finished (pool_reachable reachable) worker exited
  rw [PacketQueue.isFinished, Bool.and_eq_true, List.isEmpty_iff] at finished
  exact ⟨finished.2, (Joined.of_reachable reachable).after_shutdown finished.1⟩

theorem taken_of_exited (reachable : (system ω config).Reachable pipeline) {worker : ω}
    (exited : pipeline.pool.workers worker = .exited) :
    pipeline.pool.threads.history.taken =
      Capture.accepted config.parse pipeline.capture.frames := by
  obtain ⟨empty, returned, outside⟩ := drained_of_exited reachable exited
  have conserved := Conserved.of_reachable reachable
  have enqueued : pipeline.pool.threads.history.calls =
      pipeline.pool.threads.history.enqueuedItems := by
    refine conserved.ordered.no_call fun call item => ?_
    simp [QueueThreads.fifo, outside, PushPc.view]
  have order : pipeline.pool.threads.history.enqueuedItems =
      pipeline.pool.threads.history.taken ++ pipeline.pool.threads.queue.items :=
    (FifoState.Ordered.of_reachable (fifo_reachable reachable)).conserved
  have nothing : pipeline.capture.pc.pending = [] := by
    rw [returned]
    rfl
  calc pipeline.pool.threads.history.taken
      = pipeline.pool.threads.history.enqueuedItems := by rw [order, empty, List.append_nil]
    _ = pipeline.pool.threads.history.calls ++ pipeline.capture.pc.pending := by
      rw [nothing, List.append_nil, enqueued]
    _ = Capture.accepted config.parse pipeline.capture.frames := conserved.sent

theorem processed_of_exited [Fintype ω] [Nonempty ω]
    (reachable : (system ω config).Reachable pipeline)
    (exited : ∀ worker, pipeline.pool.workers worker = .exited) :
    pipeline.pool.processed.toNat =
      (Capture.accepted config.parse pipeline.capture.frames).length % 2 ^ 64 := by
  obtain ⟨-, processed⟩ := WorkerPool.analyzed_of_exited (pool_reachable reachable) exited
  rw [processed, taken_of_exited reachable (exited (Classical.arbitrary ω)), UInt64.toNat_ofNat']

/-- Packets are conserved from the capture to the analysis, under any schedule. -/
theorem packets_are_conserved [Fintype ω] [Nonempty ω]
    (reachable : (system ω config).Reachable pipeline) :
    (∀ entry ∈ pipeline.pool.threads.history.answers, entry.2 = true) ∧
    (∀ worker, pipeline.pool.workers worker = .exited →
      pipeline.pool.threads.queue.items = [] ∧ pipeline.capture.pc = .returned ∧
        pipeline.pool.threads.pushes () = .outside) ∧
    (0 < config.maxPackets →
      ((Capture.accepted config.parse pipeline.capture.frames).length : Int) ≤
        config.maxPackets.toInt) ∧
    ((∀ worker, pipeline.pool.workers worker = .exited) →
      pipeline.pool.analyzed.Perm pipeline.pool.threads.history.removals ∧
      (pipeline.pool.threads.history.removals.map Prod.snd).flatten =
        Capture.accepted config.parse pipeline.capture.frames ∧
      pipeline.pool.processed.toNat =
        (Capture.accepted config.parse pipeline.capture.frames).length % 2 ^ 64) := by
  refine ⟨(Conserved.of_reachable reachable).ordered.answers, ?_, ?_, ?_⟩
  · exact fun worker exited => drained_of_exited reachable exited
  · exact (counted_of_reachable reachable).within_limit
  · intro exited
    obtain ⟨analyzed, -⟩ := WorkerPool.analyzed_of_exited (pool_reachable reachable) exited
    refine ⟨analyzed, ?_, processed_of_exited reachable exited⟩
    rw [FifoHistory.removals_flatten]
    exact taken_of_exited reachable (exited (Classical.arbitrary ω))

def smallConfig : PipelineConfig where
  selectable := false
  parse _ := some {}
  capacity := 1
  batchSize := 1
  linger := false

def betweenFrames (count : Nat) (delivered : Int32) (wanted : Nat)
    (history : FifoHistory QueuedPacket) (analyzed : List (Nat × List QueuedPacket))
    (batches : UInt64) : Pipeline Unit where
  capture := ⟨.inner, false, delivered, List.replicate count ⟨[], 0, {}⟩⟩
  pool := ⟨⟨⟨[], 1, wanted, false⟩, fun _ => .outside, fun _ => .outside, fun _ => .outside, history⟩,
    fun _ => .looping, analyzed, UInt64.ofNat count, batches⟩
  main := .joiningCapture

theorem betweenFrames_succ {count : Nat} {delivered : Int32} {wanted : Nat}
    {history : FifoHistory QueuedPacket} {analyzed : List (Nat × List QueuedPacket)}
    {batches : UInt64} (reachable : (system Unit smallConfig).Reachable
      (betweenFrames count delivered wanted history analyzed batches)) :
    ∃ delivered history analyzed batches, (system Unit smallConfig).Reachable
      (betweenFrames (count + 1) delivered 1 history analyzed batches) := by
  have reading := reachable.next (.capture _ (.inner rfl))
  have handling := reading.next (.capture _ (.read (.frame ⟨[], 0, {}⟩) rfl))
  have entering := handling.next
    (.handle ⟨[], 0, {}⟩ {} _ _ (.handle _ _ rfl) (.queue _ _ rfl (.pushCall () _ rfl)))
  have notifying := entering.next (.pool _ (.queue .inside _ rfl (.pushRun () _ _ rfl)))
  have returning := notifying.next
    (.pool _ (.queue .inside _ rfl (.pushNotify () _ _ rfl (.nobody fun _ => rfl))))
  have counting := returning.next
    (.handled true _ _ (.handled rfl) (.queue _ _ rfl (.pushReturn () _ _ rfl)))
  have checking := counting.next (.capture _ (.count rfl))
  have inner := checking.next (.capture _ (.check rfl))
  have popping := inner.next (.pool _ (.popBatch () _ rfl (.popCall () 1 false rfl)))
  have taken := popping.next (.pool _ (.queue .inside _ rfl (.popRun () false 1 _ _ rfl)))
  have notified := taken.next (.pool _ (.queue .inside _ rfl (.popNotifyFull () _ _ _ rfl)))
  have popped := notified.next (.pool _ (.popped () _ _ _ rfl (.popReturn () _ _ rfl)))
  have analyzed := popped.next (.pool _ (.analyze () _ _ rfl))
  have counted := analyzed.next (.pool _ (.count () _ rfl))
  have looping := counted.next (.pool _ (.countBatch () rfl))
  refine ⟨?_, ?_, ?_, ?_, ?again⟩
  case again =>
    rw [betweenFrames, List.replicate_succ', UInt64.ofNat_add]
    exact looping

theorem accepted_small (count : Nat) :
    (Capture.accepted smallConfig.parse (List.replicate count ⟨[], 0, {}⟩)).length = count := by
  have everything : Capture.accepted smallConfig.parse =
      List.map fun frame => makeQueuedPacket frame.data {} :=
    List.filterMap_eq_map
  rw [everything, List.length_map, List.length_replicate]

theorem betweenFrames_reachable (count : Nat) : ∃ delivered wanted history analyzed batches,
    (system Unit smallConfig).Reachable
      (betweenFrames count delivered wanted history analyzed batches) := by
  induction count with
  | zero =>
    have start : (system Unit smallConfig).Reachable
        ⟨{}, ⟨⟨⟨[], 1, 1, false⟩, fun _ => .outside, fun _ => .outside, fun _ => .outside, {}⟩,
          fun _ => .looping, [], 0, 0⟩, .joiningCapture⟩ :=
      TransitionSystem.Reachable.first ⟨rfl, rfl, rfl, rfl⟩
    have outer := start.next (.capture _ (.start rfl))
    exact ⟨0, 1, {}, [], 0, outer.next (.capture _ (.outer false rfl))⟩
  | succ count ih =>
    obtain ⟨delivered, wanted, history, analyzed, batches, reachable⟩ := ih
    obtain ⟨delivered, history, analyzed, batches, again⟩ := betweenFrames_succ reachable
    exact ⟨delivered, 1, history, analyzed, batches, again⟩

theorem run_of_length (count : Nat) : ∃ pipeline : Pipeline Unit,
    (system Unit smallConfig).Reachable pipeline ∧
      (∀ worker, pipeline.pool.workers worker = .exited) ∧
        (Capture.accepted smallConfig.parse pipeline.capture.frames).length = count ∧
          pipeline.main = .finished := by
  obtain ⟨delivered, wanted, history, analyzed, batches, reachable⟩ :=
    betweenFrames_reachable count
  have reading := reachable.next (.capture _ (.inner rfl))
  have done := reading.next (.capture _ (.read .endOrError rfl))
  have returned := done.next (.capture _ (.outer true rfl))
  have joined := returned.next (.joinCapture rfl rfl)
  have entering := joined.next (.shutdown _ rfl (.queue _ _ rfl (.shutdownCall () rfl)))
  have closed := entering.next (.pool _ (.queue .inside _ rfl (.shutdownRun () rfl)))
  have notified := closed.next (.pool _ (.queue .inside _ rfl (.shutdownNotifyFull () rfl)))
  have woken := notified.next (.pool _ (.queue .inside _ rfl (.shutdownNotifyEmpty () rfl)))
  have joining := woken.next (.closed _ rfl (.queue _ _ rfl (.shutdownReturn () rfl)))
  have popping := joining.next (.pool _ (.popBatch () _ rfl (.popCall () 1 false rfl)))
  have nothing := popping.next (.pool _ (.queue .inside _ rfl (.popRun () false 1 _ _ rfl)))
  have checking := nothing.next (.pool _ (.popped () _ _ _ rfl (.popReturn () _ _ rfl)))
  have exited := checking.next (.pool _ (.check () rfl))
  have finished := exited.next (.joinWorkers rfl fun _ => rfl)
  exact ⟨_, finished, fun _ => rfl, accepted_small count, rfl⟩

theorem one_packet_is_conserved : ∃ pipeline : Pipeline Unit,
    pipeline.pool.processed.toNat = 1 ∧
      (pipeline.pool.threads.history.removals.map Prod.snd).flatten.length = 1 ∧
        pipeline.pool.analyzed.Perm pipeline.pool.threads.history.removals := by
  obtain ⟨pipeline, reachable, exited, length, -⟩ := run_of_length 1
  obtain ⟨-, -, -, conserved⟩ := packets_are_conserved reachable
  obtain ⟨analyzed, flattened, processed⟩ := conserved exited
  exact ⟨pipeline, processed.trans (by rw [length]; rfl), by rw [flattened, length], analyzed⟩

/-- The 64 bits of `processed_` do not hold the number of packets of an endless enough capture. -/
theorem processed_count_wraps : ∃ pipeline : Pipeline Unit,
    (system Unit smallConfig).Reachable pipeline ∧
      (∀ worker, pipeline.pool.workers worker = .exited) ∧
        pipeline.pool.processed.toNat ≠
          (Capture.accepted smallConfig.parse pipeline.capture.frames).length := by
  obtain ⟨pipeline, reachable, exited, length, -⟩ := run_of_length (2 ^ 64)
  refine ⟨pipeline, reachable, exited, ?_⟩
  rw [processed_of_exited reachable exited, length]
  decide

end Pipeline

end NetSentinel
