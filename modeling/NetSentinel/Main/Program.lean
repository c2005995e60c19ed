import NetSentinel.Analysis.Linearized
import NetSentinel.Main.Output
import NetSentinel.Pipeline.Conservation

namespace NetSentinel

open Family

/-- Where a worker is in the callback that `main` gives to the pool: outside, in the loop that
    prints the packets of its batch under `-v`, or in `analyze_batch`. -/
inductive CallbackPc where
  | idle
  | tracing (batch rest : List QueuedPacket)
  | analyzing (batch : List QueuedPacket)

/-- The capture thread, the queue and the workers, what the workers do in the callback, the engine
    they share and the output of the process. -/
structure Program (ω σ R : Type) [Arithmetic R] where
  pipeline : Pipeline ω
  callbacks : ω → CallbackPc := fun _ => .idle
  analysis : AnalysisWorkers ω σ R
  output : Output ω := {}

/-- `verbose` and `quiet` are the options `-v` and `-s`. -/
structure ProgramConfig (σ R : Type) [Arithmetic R] where
  pipeline : PipelineConfig
  analysis : AnalysisConfig R := {}
  backend : EntropyBackend σ R
  backendState : σ
  verbose : Bool := false
  quiet : Bool := false

namespace Program

variable {ω σ R : Type} [DecidableEq ω] [Arithmetic R]

inductive Step (hash : UInt32 → Nat) (config : ProgramConfig σ R) :
    Program ω σ R → Program ω σ R → Prop
  | pipeline {program : Program ω σ R} (pipeline : Pipeline ω)
      (step : Pipeline.Step config.pipeline program.pipeline pipeline)
      (stays : pipeline.pool.analyzed = program.pipeline.pool.analyzed) :
      Step hash config program { program with pipeline }
  | call {program : Program ω σ R} (worker : ω) (ticket : Nat) (batch : List QueuedPacket)
      (due : program.pipeline.pool.workers worker = .analyzing ticket batch)
      (idle : program.callbacks worker = .idle) :
      Step hash config program
        { program with
          callbacks := Function.update program.callbacks worker
            (.tracing batch (if config.verbose then batch else [])) }
  | trace {program : Program ω σ R} (worker : ω) (batch : List QueuedPacket) (packet : QueuedPacket)
      (rest : List QueuedPacket) (output : Output ω)
      (due : program.callbacks worker = .tracing batch (packet :: rest))
      (prints : Output.Step config.quiet (.printPacket worker packet) program.output output) :
      Step hash config program
        { program with
          callbacks := Function.update program.callbacks worker (.tracing batch rest)
          output }
  | analyze {program : Program ω σ R} (worker : ω) (batch : List QueuedPacket)
      (analysis : AnalysisWorkers ω σ R) (due : program.callbacks worker = .tracing batch [])
      (silent : program.output.idle worker)
      (starts : AnalysisWorkers.Acts hash worker program.analysis analysis [batch] []) :
      Step hash config program
        { program with
          callbacks := Function.update program.callbacks worker (.analyzing batch)
          analysis }
  | act {program : Program ω σ R} (worker : ω) (batch : List QueuedPacket)
      (analysis : AnalysisWorkers ω σ R) (due : program.callbacks worker = .analyzing batch)
      (silent : program.output.idle worker)
      (acts : AnalysisWorkers.Acts hash worker program.analysis analysis [] []) :
      Step hash config program { program with analysis }
  | raise {program : Program ω σ R} (worker : ω) (batch : List QueuedPacket) (alert : Alert)
      (analysis : AnalysisWorkers ω σ R) (output : Output ω)
      (due : program.callbacks worker = .analyzing batch)
      (acts : AnalysisWorkers.Acts hash worker program.analysis analysis [] [alert])
      (prints : Output.Step config.quiet (.printAlert worker alert) program.output output) :
      Step hash config program { program with analysis, output }
  | returns {program : Program ω σ R} (worker : ω) (ticket : Nat) (batch : List QueuedPacket)
      (due : program.callbacks worker = .analyzing batch)
      (analyzing : program.pipeline.pool.workers worker = .analyzing ticket batch)
      (outside : program.analysis.pcs worker = .outside) (silent : program.output.idle worker) :
      Step hash config program
        { program with
          pipeline := { program.pipeline with
            pool := { program.pipeline.pool with
              workers := Function.update program.pipeline.pool.workers worker
                (.counting batch.length)
              analyzed := program.pipeline.pool.analyzed ++ [(ticket, batch)] } }
          callbacks := Function.update program.callbacks worker .idle }
  | output {program : Program ω σ R} (output : Output ω)
      (step : Output.Step config.quiet .inside program.output output) :
      Step hash config program { program with output }

def system (ω : Type) [DecidableEq ω] (hash : UInt32 → Nat) (config : ProgramConfig σ R) :
    TransitionSystem (Program ω σ R) where
  start program := ∃ pipeline, (Pipeline.system ω config.pipeline).start pipeline ∧
    program = { pipeline, analysis := ⟨.new config.analysis config.backend config.backendState,
      fun _ => .outside, [], []⟩ }
  step := Step hash config

variable {hash : UInt32 → Nat} {config : ProgramConfig σ R} {program after : Program ω σ R}

theorem Step.pipeline_step (step : Step hash config program after) :
    Pipeline.Step config.pipeline program.pipeline after.pipeline ∨
      after.pipeline = program.pipeline := by
  cases step with
  | pipeline pipeline step stays => exact .inl step
  | returns worker ticket batch due analyzing outside silent =>
    exact .inl (.pool _ (.analyze worker ticket batch analyzing))
  | _ => exact .inr rfl

theorem pipeline_reachable (reachable : (system ω hash config).Reachable program) :
    (Pipeline.system ω config.pipeline).Reachable program.pipeline := by
  refine reachable.map ?_ ?_
  · intro first start
    obtain ⟨pipeline, begins, rfl⟩ := start
    exact begins
  · exact fun before after _ step => Step.pipeline_step step

theorem analysis_reachable (reachable : (system ω hash config).Reachable program) :
    (AnalysisWorkers.systemWith hash ω config.analysis config.backend
      config.backendState).Reachable program.analysis := by
  refine reachable.map ?_ ?_
  · intro first start
    obtain ⟨pipeline, begins, rfl⟩ := start
    rfl
  · intro before after _ step
    cases step with
    | analyze worker batch analysis due silent starts => exact .inl starts.step
    | act worker batch analysis due silent acts => exact .inl acts.step
    | raise worker batch alert analysis output due acts prints => exact .inl acts.step
    | _ => exact .inr rfl

theorem output_reachable (reachable : (system ω hash config).Reachable program) :
    (Output.system ω config.quiet).Reachable program.output := by
  refine reachable.map ?_ ?_
  · intro first start
    obtain ⟨pipeline, begins, rfl⟩ := start
    rfl
  · intro before after _ step
    cases step with
    | trace worker batch packet rest output due prints => exact .inl ⟨_, prints⟩
    | raise worker batch alert analysis output due acts prints => exact .inl ⟨_, prints⟩
    | output output step => exact .inl ⟨_, step⟩
    | _ => exact .inr rfl

theorem raised_is_sunk (reachable : (system ω hash config).Reachable program) :
    program.output.raised = program.analysis.sunk := by
  refine TransitionSystem.Reachable.invariant
    (P := fun program => program.output.raised = program.analysis.sunk) ?_ ?_ reachable
  · intro first start
    obtain ⟨pipeline, begins, rfl⟩ := start
    rfl
  · intro before after _ step same
    cases step with
    | trace worker batch packet rest output due prints =>
      cases prints
      exact same
    | analyze worker batch analysis due silent starts =>
      dsimp only
      rw [starts.sunk, List.append_nil, same]
    | act worker batch analysis due silent acts =>
      dsimp only
      rw [acts.sunk, List.append_nil, same]
    | raise worker batch alert analysis output due acts prints =>
      cases prints
      dsimp only
      rw [acts.sunk, same]
    | output output step =>
      cases step <;> exact same
    | _ => exact same

end Program

end NetSentinel
