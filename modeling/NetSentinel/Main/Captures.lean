import NetSentinel.Capture.FrameParse
import NetSentinel.Main.Callbacks

namespace NetSentinel

namespace Capture

variable {selectable : Bool} {maxPackets : Int32} {parse : Frame → Option ParsedPacket}
  {capture : Capture} {frame : Frame}

theorem Step.skips (reading : capture.pc = .reading) (unknown : parse frame = none) :
    Step selectable maxPackets parse .inside capture
      { capture with pc := .checking, frames := capture.frames ++ [frame] } := by
  have step : Step selectable maxPackets parse .inside capture _ := .read (.frame frame) reading
  rw [Capture.read, unknown] at step
  exact step

theorem Step.takes {parsed : ParsedPacket} (reading : capture.pc = .reading)
    (parses : parse frame = some parsed) :
    Step selectable maxPackets parse .inside capture
      { capture with pc := .handling frame parsed, frames := capture.frames ++ [frame] } := by
  have step : Step selectable maxPackets parse .inside capture _ := .read (.frame frame) reading
  rw [Capture.read, parses] at step
  exact step

theorem Step.again (checking : capture.pc = .checking) (unlimited : maxPackets = 0) :
    Step selectable maxPackets parse .inside capture { capture with pc := .inner } := by
  have step : Step selectable maxPackets parse .inside capture _ := .check checking
  have going : ¬ (0 < maxPackets ∧ maxPackets ≤ capture.delivered) := by
    rw [unlimited]
    exact fun limited => absurd limited.1 (by decide)
  rw [if_neg going] at step
  exact step

end Capture

theorem QueueThreads.Step.enqueues {π κ τ α : Type*} [DecidableEq π] [DecidableEq κ] [DecidableEq τ]
    {state : QueueThreads π κ τ α} {producer : π} {call : Nat} {packet : α}
    (ready : (state.pushes producer).ready = some (call, packet))
    (room : state.queue.items.length < state.queue.capacity)
    (running : state.queue.shutdown = false) :
    ∃ pc history, (pc = .notifying call ∨ pc = .returning call true) ∧
      Step .inside state
        { state with
          queue := { state.queue with items := state.queue.items ++ [packet] }
          pushes := Function.update state.pushes producer pc
          history } := by
  have step : Step .inside state _ := .pushRun producer call packet ready
  rcases state.queue.push_cases call packet with ⟨full, -⟩ | ⟨stopped, -⟩ | ⟨-, -, queue, pc⟩
  · omega
  · rw [running] at stopped
    cases stopped
  · rw [queue] at step
    exact ⟨_, _, pc.imp_right And.left, step⟩

namespace Program

variable {ω σ R : Type} [DecidableEq ω] [Arithmetic R] {hash : UInt32 → Nat}
  {config : ProgramConfig σ R}

/-- The capture thread has got these frames and waits for more, and no worker has begun. -/
def readAhead (ω : Type) (config : ProgramConfig σ R) (frames : List Frame)
    (packets : List QueuedPacket) (delivered : Int32) (history : FifoHistory QueuedPacket) :
    Program ω σ R where
  pipeline :=
    { capture := ⟨.inner, false, delivered, frames⟩
      pool := ⟨⟨⟨packets, config.pipeline.capacity, 1, false⟩, fun _ => .outside, fun _ => .outside,
        fun _ => .outside, history⟩, fun _ => .looping, [], 0, 0⟩
      main := .joiningCapture }
  analysis := ⟨.new config.analysis config.backend config.backendState, fun _ => .outside, [], []⟩

theorem readAhead_first : (system ω hash config).Reachable (readAhead ω config [] [] 0 {}) := by
  let pipeline : Pipeline ω :=
    { (readAhead ω config [] [] 0 {}).pipeline with capture := {} }
  have start : (system ω hash config).Reachable { readAhead ω config [] [] 0 {} with pipeline } :=
    TransitionSystem.Reachable.first ⟨pipeline, ⟨rfl, rfl, rfl, rfl⟩, rfl⟩
  have outer := start.next (.pipeline _ (.capture _ (.start rfl)) rfl)
  have entered := outer.next (.pipeline _ (.capture _ (.outer false rfl)) rfl)
  cases selectable : config.pipeline.selectable with
  | true =>
    rw [selectable] at entered
    exact entered.next (.pipeline _ (.capture _ (.poll .readable rfl)) rfl)
  | false =>
    rw [selectable] at entered
    exact entered

theorem push_reachable {program : Program ω σ R} {call : Nat} {packet : QueuedPacket}
    (reachable : (system ω hash config).Reachable program)
    (entering : program.pipeline.pool.threads.pushes () = .entering call packet)
    (room : program.pipeline.pool.threads.queue.items.length <
      program.pipeline.pool.threads.queue.capacity)
    (running : program.pipeline.pool.threads.queue.shutdown = false)
    (awake : ∀ worker, (program.pipeline.pool.threads.pops worker).parked = false) :
    ∃ history, (system ω hash config).Reachable
      { program with
        pipeline := { program.pipeline with
          pool := { program.pipeline.pool with
            threads := { program.pipeline.pool.threads with
              queue := { program.pipeline.pool.threads.queue with
                items := program.pipeline.pool.threads.queue.items ++ [packet] }
              pushes := fun _ => .returning call true
              history } } } } := by
  have ready : (program.pipeline.pool.threads.pushes ()).ready = some (call, packet) := by
    rw [entering]
    rfl
  obtain ⟨pc, history, rfl | rfl, enqueues⟩ := QueueThreads.Step.enqueues ready room running
  · have notifying := reachable.next (.pipeline _ (.pool _ (.queue .inside _ rfl enqueues)) rfl)
    exact ⟨history, notifying.next
      (.pipeline _ (.pool _ (.queue .inside _ rfl (.pushNotify () _ _ rfl (.nobody awake)))) rfl)⟩
  · exact ⟨history, reachable.next (.pipeline _ (.pool _ (.queue .inside _ rfl enqueues)) rfl)⟩

variable {frames : List Frame} {packets : List QueuedPacket} {delivered : Int32}
  {history : FifoHistory QueuedPacket} {frame : Frame}

theorem readAhead_skips (unlimited : config.pipeline.maxPackets = 0)
    (reachable : (system ω hash config).Reachable (readAhead ω config frames packets delivered history))
    (unknown : config.pipeline.parse frame = none) :
    (system ω hash config).Reachable
      (readAhead ω config (frames ++ [frame]) packets delivered history) := by
  have reading := reachable.next (.pipeline _ (.capture _ (.inner rfl)) rfl)
  have checking := reading.next (.pipeline _ (.capture _ (.skips rfl unknown)) rfl)
  exact checking.next (.pipeline _ (.capture _ (.again rfl unlimited)) rfl)

theorem readAhead_takes (unlimited : config.pipeline.maxPackets = 0)
    (reachable : (system ω hash config).Reachable (readAhead ω config frames packets delivered history))
    {parsed : ParsedPacket} (parses : config.pipeline.parse frame = some parsed)
    (room : packets.length < config.pipeline.capacity) :
    ∃ delivered history, (system ω hash config).Reachable (readAhead ω config (frames ++ [frame])
      (packets ++ [makeQueuedPacket frame.data parsed]) delivered history) := by
  have reading := reachable.next (.pipeline _ (.capture _ (.inner rfl)) rfl)
  have handling := reading.next (.pipeline _ (.capture _ (.takes rfl parses)) rfl)
  have entering := handling.next (.pipeline _
    (.handle frame parsed _ _ (.handle _ _ rfl) (.queue _ _ rfl (.pushCall () _ rfl))) rfl)
  obtain ⟨enqueued, returning⟩ := push_reachable entering rfl room rfl fun _ => rfl
  have counting := returning.next
    (.pipeline _ (.handled true _ _ (.handled rfl) (.queue _ _ rfl (.pushReturn () _ _ rfl))) rfl)
  have checking := counting.next (.pipeline _ (.capture _ (.count rfl)) rfl)
  exact ⟨_, _, checking.next (.pipeline _ (.capture _ (.again rfl unlimited)) rfl)⟩

theorem readAhead_reachable (unlimited : config.pipeline.maxPackets = 0) (frames : List Frame)
    (room : (Capture.accepted config.pipeline.parse frames).length ≤ config.pipeline.capacity) :
    ∃ delivered history, (system ω hash config).Reachable (readAhead ω config frames
      (Capture.accepted config.pipeline.parse frames) delivered history) := by
  induction frames using List.reverseRecOn with
  | nil => exact ⟨_, _, readAhead_first⟩
  | append_singleton frames frame ih =>
    rw [Capture.accepted_append] at room ⊢
    cases parses : config.pipeline.parse frame with
    | none =>
      rw [parses, Option.map_none, Option.toList_none, List.append_nil] at room
      obtain ⟨delivered, history, reachable⟩ := ih room
      rw [Option.map_none, Option.toList_none, List.append_nil]
      exact ⟨_, _, readAhead_skips unlimited reachable parses⟩
    | some parsed =>
      rw [parses, Option.map_some, Option.toList_some, List.length_append, List.length_singleton] at room
      obtain ⟨delivered, history, reachable⟩ := ih (Nat.le_of_succ_le room)
      rw [Option.map_some, Option.toList_some]
      exact readAhead_takes unlimited reachable parses room

theorem closes {program : Program ω σ R} (reachable : (system ω hash config).Reachable program)
    (waits : program.pipeline.capture = ⟨.inner, false, delivered, frames⟩)
    (joining : program.pipeline.main = .joiningCapture) :
    ∃ after, (system ω hash config).Leads program after ∧
      after.pipeline.pool.threads.queue.shutdown ∧ after.pipeline.capture.frames = frames := by
  have joined := Pipeline.Joined.of_reachable (pipeline_reachable reachable)
  obtain ⟨-, outside⟩ := joined.early (.inl joining)
  obtain ⟨⟨capture, pool, main⟩, callbacks, analysis, output⟩ := program
  dsimp only at waits joining outside
  subst waits joining
  have reading : (system ω hash config).Leads
      ⟨⟨⟨.inner, false, delivered, frames⟩, pool, .joiningCapture⟩, callbacks, analysis, output⟩ _ :=
    .single (.pipeline _ (.capture _ (.inner rfl)) rfl)
  have done := reading.tail (.pipeline _ (.capture _ (.read .endOrError rfl)) rfl)
  have returned := done.tail (.pipeline _ (.capture _ (.outer true rfl)) rfl)
  have joined := returned.tail (.pipeline _ (.joinCapture rfl rfl) rfl)
  have entering := joined.tail
    (.pipeline _ (.shutdown _ rfl (.queue _ _ rfl (.shutdownCall () outside))) rfl)
  have called : Function.update pool.threads.shutdowns () .entering () = .entering :=
    Function.update_self _ _ _
  have closed := entering.tail
    (.pipeline _ (.pool _ (.queue .inside _ rfl (.shutdownRun () called))) rfl)
  exact ⟨_, closed, rfl, rfl⟩

end Program

section Eicar

/-- A TCP segment with the EICAR string, in a frame with options and padding. -/
def eicarSegment (srcIp : UInt32) : EthernetFrame :=
  .optionsFrame srcIp (tcpFlagAck ||| tcpFlagPsh) eicarPayload
    (by rw [eicarPayload_length]; decide)

def eicarFrame (srcIp : UInt32) : Frame := ⟨(eicarSegment srcIp).bytes, 133, {}⟩

def eicarPacket (srcIp : UInt32) : QueuedPacket := (eicarSegment srcIp).decoded 133 {}

def eicarSources : List UInt32 := [0x0A000001, 0x0A000003]

theorem eicar_accepted (sources : List UInt32) :
    Capture.accepted Frame.parse (sources.map eicarFrame) = sources.map eicarPacket := by
  induction sources with
  | nil => rfl
  | cons srcIp sources ih =>
    rw [List.map_cons, List.map_cons, ← ih]
    exact EthernetFrame.accepted _ _ _ _

theorem eicarPacket_listed (srcIp : UInt32) :
    SignatureDatabase.new.matchesPayload (eicarPacket srcIp).payload = true := eicarPayload_listed

theorem eicarPacket_raises (srcIp : UInt32) :
    signatureAlerts SignatureDatabase.new (eicarPacket srcIp) =
      [signatureAlert (eicarPacket srcIp)] := by
  have nonempty : 0 < (eicarPacket srcIp).payload.length := by
    rw [show (eicarPacket srcIp).payload = eicarPayload from rfl, eicarPayload_length]
    decide
  rw [signatureAlerts, if_pos ⟨nonempty, eicarPacket_listed srcIp⟩]

def eicarPipeline : PipelineConfig :=
  { selectable := false, parse := Frame.parse, capacity := 2, batchSize := 1, linger := false }

noncomputable def eicarConfig : ProgramConfig Unit ℝ where
  pipeline := eicarPipeline
  backend := cpuEntropyBackend
  backendState := ()
  verbose := true

end Eicar

end NetSentinel
