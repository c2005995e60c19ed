import NetSentinel.Capture.FrameParse
import NetSentinel.Gpu.EntropyBackend
import NetSentinel.Main.Backends
import NetSentinel.Pipeline.Batches

namespace NetSentinel

variable {ω σ R : Type} [DecidableEq ω] [Arithmetic R] {hash : UInt32 → Nat}

open Classical in
/-- A backend that does not start on packets it is not made for. -/
noncomputable def EntropyBackend.within (backend : EntropyBackend σ R)
    (fits : List QueuedPacket → Prop) : EntropyBackend σ R where
  start state packets := if fits packets then backend.start state packets else (state, none)

section Within

variable {backend : EntropyBackend σ R} {fits : List QueuedPacket → Prop}

end Within

namespace AnalysisWorkers

def withBackend (state : AnalysisWorkers ω σ R) (backend : EntropyBackend σ R) :
    AnalysisWorkers ω σ R :=
  { state with engine := { state.engine with backend } }

variable {state after : AnalysisWorkers ω σ R} {backend : EntropyBackend σ R} {worker : ω}
  {batches : List (List QueuedPacket)} {alerts : List Alert}

/-- A step goes the same way with any other backend that starts alike on the batch it takes up. -/
theorem Step.withBackend (step : Step hash state after)
    (alike : ∀ batch, after.batches = state.batches ++ [batch] → ∀ own,
      state.engine.backend.start own (eligiblePackets state.engine.config batch) =
        backend.start own (eligiblePackets state.engine.config batch)) :
    Step hash (state.withBackend backend) (after.withBackend backend) := by
  cases step with
  | start worker batch eligible started outside filtered starts =>
    refine .start worker batch eligible started outside filtered ?_
    rw [← starts, ← filtered]
    unfold AnalysisEngine.startEntropy
    split
    · rfl
    · exact (alike batch rfl _).symm
  | signature worker eligible pending packet rest due => exact .signature worker _ _ _ _ due
  | observe worker eligible pending packet rest order observed due observes =>
    exact .observe worker _ _ _ _ order observed due observes
  | sink worker eligible pending alert alerts rest due => exact .sink worker _ _ _ _ _ due
  | nextPacket worker eligible pending rest due => exact .nextPacket worker _ _ _ due
  | returnEarly worker pending due => exact .returnEarly worker _ due
  | wait worker eligible pending waited due nonempty waits =>
    exact .wait worker _ _ _ due nonempty waits
  | entropy worker values i packet rest entropy due found =>
    exact .entropy worker _ _ _ _ _ due found
  | done worker values i due => exact .done worker _ _ due

theorem Acts.withBackend (acts : Acts hash worker state after batches alerts)
    (alike : ∀ batch ∈ batches, ∀ own,
      state.engine.backend.start own (eligiblePackets state.engine.config batch) =
        backend.start own (eligiblePackets state.engine.config batch)) :
    Acts hash worker (state.withBackend backend) (after.withBackend backend) batches alerts where
  step := by
    refine acts.step.withBackend fun batch taken => alike batch ?_
    have same := List.append_cancel_left (acts.batches.symm.trans taken)
    rw [same]
    exact List.mem_singleton_self batch
  others := acts.others
  batches := acts.batches
  sunk := acts.sunk

end AnalysisWorkers

namespace Program

def withBackend (program : Program ω σ R) (backend : EntropyBackend σ R) : Program ω σ R :=
  { program with analysis := program.analysis.withBackend backend }

variable {config : ProgramConfig σ R} {program after : Program ω σ R}
  {backend : EntropyBackend σ R}

theorem Step.withBackend (step : Step hash config program after)
    (alike : ∀ worker batch, program.callbacks worker = .tracing batch [] → ∀ own,
      program.analysis.engine.backend.start own
          (eligiblePackets program.analysis.engine.config batch) =
        backend.start own (eligiblePackets program.analysis.engine.config batch)) :
    Step hash { config with backend } (program.withBackend backend) (after.withBackend backend) := by
  cases step with
  | pipeline pipeline step stays => exact .pipeline pipeline step stays
  | call worker ticket batch due idle => exact .call worker ticket batch due idle
  | trace worker batch packet rest output due prints =>
    exact .trace worker batch packet rest output due prints
  | analyze worker batch analysis due silent starts =>
    refine .analyze worker batch _ due silent (starts.withBackend fun other member => ?_)
    rw [List.mem_singleton.mp member]
    exact alike worker batch due
  | act worker batch analysis due silent acts =>
    exact .act worker batch _ due silent (acts.withBackend nofun)
  | raise worker batch alert analysis output due acts prints =>
    exact .raise worker batch alert _ output due (acts.withBackend nofun) prints
  | returns worker ticket batch due analyzing outside silent =>
    exact .returns worker ticket batch due analyzing outside silent
  | output output step => exact .output output step

variable [Fintype ω]

end Program

namespace Process

variable [Fintype ω]

end Process

section Gpu

open Gpu

namespace Process

variable [Fintype ω]

end Process

end Gpu

end NetSentinel
