import NetSentinel.Capture.Loop
import NetSentinel.Queue.Custody

namespace NetSentinel

/-- Where `main` is once the threads run: joining the capture thread, calling `shutdown`, joining
    the workers, or past all that. -/
inductive MainPc where
  | joiningCapture
  | closing
  | inShutdown
  | joiningWorkers
  | finished
deriving DecidableEq

structure Pipeline (ω : Type*) where
  capture : Capture
  pool : WorkerPool Unit ω Unit QueuedPacket
  main : MainPc

/-- What `main` sets up: where the frames come from and the options `-c`, `-q`, `-b` and `-L`. -/
structure PipelineConfig where
  selectable : Bool
  parse : Frame → Option ParsedPacket
  maxPackets : Int32 := 0
  capacity : Nat := 4096
  batchSize : Nat := 64
  linger : Bool := true

namespace Pipeline

variable {ω : Type*} [DecidableEq ω]

/-- The handler of the capture thread pushes the packet; `main` shuts the queue down. The stop flag
    can be set at any time. -/
inductive Step (config : PipelineConfig) : Pipeline ω → Pipeline ω → Prop
  | pool {pipeline : Pipeline ω} (pool : WorkerPool Unit ω Unit QueuedPacket)
      (step : WorkerPool.Step config.batchSize config.linger .inside pipeline.pool pool) :
      Step config pipeline { pipeline with pool }
  | capture {pipeline : Pipeline ω} (capture : Capture)
      (step : Capture.Step config.selectable config.maxPackets config.parse .inside
        pipeline.capture capture) :
      Step config pipeline { pipeline with capture }
  | handle {pipeline : Pipeline ω} (frame : Frame) (parsed : ParsedPacket) (capture : Capture)
      (pool : WorkerPool Unit ω Unit QueuedPacket)
      (handles : Capture.Step config.selectable config.maxPackets config.parse
        (.handle frame parsed) pipeline.capture capture)
      (pushes : WorkerPool.Step config.batchSize config.linger
        (.push () (makeQueuedPacket frame.data parsed)) pipeline.pool pool) :
      Step config pipeline { pipeline with capture, pool }
  | handled {pipeline : Pipeline ω} (result : Bool) (capture : Capture)
      (pool : WorkerPool Unit ω Unit QueuedPacket)
      (handled : Capture.Step config.selectable config.maxPackets config.parse .handled
        pipeline.capture capture)
      (pushed : WorkerPool.Step config.batchSize config.linger (.pushed () result)
        pipeline.pool pool) :
      Step config pipeline { pipeline with capture, pool }
  | requestStop {pipeline : Pipeline ω} :
      Step config pipeline
        { pipeline with capture := { pipeline.capture with stopRequested := true } }
  | joinCapture {pipeline : Pipeline ω} (joining : pipeline.main = .joiningCapture)
      (returned : pipeline.capture.pc = .returned) :
      Step config pipeline { pipeline with main := .closing }
  | shutdown {pipeline : Pipeline ω} (pool : WorkerPool Unit ω Unit QueuedPacket)
      (closing : pipeline.main = .closing)
      (step : WorkerPool.Step config.batchSize config.linger (.shutdown ()) pipeline.pool pool) :
      Step config pipeline { pipeline with pool, main := .inShutdown }
  | closed {pipeline : Pipeline ω} (pool : WorkerPool Unit ω Unit QueuedPacket)
      (closing : pipeline.main = .inShutdown)
      (step : WorkerPool.Step config.batchSize config.linger (.closed ()) pipeline.pool pool) :
      Step config pipeline { pipeline with pool, main := .joiningWorkers }
  | joinWorkers {pipeline : Pipeline ω} (joining : pipeline.main = .joiningWorkers)
      (exited : ∀ worker, pipeline.pool.workers worker = .exited) :
      Step config pipeline { pipeline with main := .finished }

def system (ω : Type*) [DecidableEq ω] (config : PipelineConfig) :
    TransitionSystem (Pipeline ω) where
  start pipeline := pipeline.capture = {} ∧ pipeline.main = .joiningCapture ∧
    (WorkerPool.system Unit ω Unit QueuedPacket config.capacity config.batchSize config.linger).start
      pipeline.pool
  step := Step config

variable {config : PipelineConfig} {pipeline after : Pipeline ω}

theorem Step.pool_step (step : Step config pipeline after) :
    (∃ event, WorkerPool.Step config.batchSize config.linger event pipeline.pool after.pool) ∨
      after.pool = pipeline.pool := by
  cases step with
  | pool pool step => exact .inl ⟨_, step⟩
  | handle frame parsed capture pool handles pushes => exact .inl ⟨_, pushes⟩
  | handled result capture pool handled pushed => exact .inl ⟨_, pushed⟩
  | shutdown pool closing step => exact .inl ⟨_, step⟩
  | closed pool closing step => exact .inl ⟨_, step⟩
  | _ => exact .inr rfl

theorem pool_reachable (reachable : (system ω config).Reachable pipeline) :
    (WorkerPool.system Unit ω Unit QueuedPacket config.capacity config.batchSize
      config.linger).Reachable pipeline.pool := by
  refine reachable.map ?_ ?_
  · exact fun first start => start.2.2
  · exact fun before after _ step => Step.pool_step step

theorem fifo_reachable (reachable : (system ω config).Reachable pipeline) :
    (FifoState.system Unit QueuedPacket config.capacity).Reachable pipeline.pool.threads.fifo :=
  QueueThreads.fifo_reachable (WorkerPool.threads_reachable (pool_reachable reachable))

theorem counted_of_reachable (reachable : (system ω config).Reachable pipeline) :
    Capture.Counted config.maxPackets config.parse pipeline.capture := by
  refine TransitionSystem.Reachable.invariant (P := fun pipeline =>
    Capture.Counted config.maxPackets config.parse pipeline.capture) ?_ ?_ reachable
  · intro first start
    rw [start.1]
    exact Capture.Counted.initial
  · intro before after _ step counted
    cases step with
    | capture capture step => exact counted.step step
    | handle frame parsed capture pool handles pushes => exact counted.step handles
    | handled result capture pool handled pushed => exact counted.step handled
    | requestStop => exact ⟨counted.fresh, counted.counted, counted.limited⟩
    | _ => exact counted

end Pipeline

end NetSentinel
