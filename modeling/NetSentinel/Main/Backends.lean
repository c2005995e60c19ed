import NetSentinel.Analysis.OnCpu
import NetSentinel.Main.Fallbacks

namespace NetSentinel

variable {ω σ R : Type} [DecidableEq ω] [Arithmetic R] {hash : UInt32 → Nat}

namespace AnalysisWorkers

variable {state after : AnalysisWorkers ω σ R} {worker : ω} {batches : List (List QueuedPacket)}
  {alerts : List Alert}

theorem Acts.onCpu (acts : Acts hash worker state after batches alerts)
    (sound : ∀ worker, (state.pcs worker).Sound) :
    Acts hash worker state.onCpu after.onCpu batches alerts where
  step := acts.step.onCpu sound
  others other apart := congrArg AnalyzePc.onCpu (acts.others other apart)
  batches := acts.batches
  sunk := acts.sunk

theorem Acts.of_onCpu {cpu : AnalysisWorkers ω Unit R}
    (acts : Acts hash worker state.onCpu cpu batches alerts)
    (sound : ∀ worker, (state.pcs worker).Sound) :
    ∃ after, Acts hash worker state after batches alerts ∧ after.onCpu = cpu := by
  obtain ⟨after, step, rfl⟩ := acts.step.of_onCpu sound
  obtain ⟨mover, pc, pcs, moved⟩ := step.mover
  refine ⟨after, ⟨step, fun other apart => ?_, acts.batches, acts.sunk⟩, rfl⟩
  have same : mover = worker := by
    by_contra apart
    have still := acts.others mover apart
    change (after.pcs mover).onCpu = (state.pcs mover).onCpu at still
    rw [pcs, Function.update_self] at still
    exact moved still
  rw [pcs, same, Function.update_of_ne apart]

end AnalysisWorkers

def ProgramConfig.onCpu (config : ProgramConfig σ R) : ProgramConfig Unit R where
  pipeline := config.pipeline
  analysis := config.analysis
  backend := cpuEntropyBackend
  backendState := ()
  verbose := config.verbose
  quiet := config.quiet

namespace Program

/-- All of the program but what it knows of its backend. -/
def onCpu (program : Program ω σ R) : Program ω Unit R where
  pipeline := program.pipeline
  callbacks := program.callbacks
  analysis := program.analysis.onCpu
  output := program.output

variable {config : ProgramConfig σ R} {program after : Program ω σ R}

theorem Step.onCpu (step : Step hash config program after)
    (sound : ∀ worker, (program.analysis.pcs worker).Sound) :
    Step hash config.onCpu program.onCpu after.onCpu := by
  cases step with
  | pipeline pipeline step stays => exact .pipeline pipeline step stays
  | call worker ticket batch due idle => exact .call worker ticket batch due idle
  | trace worker batch packet rest output due prints =>
    exact .trace worker batch packet rest output due prints
  | analyze worker batch analysis due silent starts =>
    exact .analyze worker batch _ due silent (starts.onCpu sound)
  | act worker batch analysis due silent acts =>
    exact .act worker batch _ due silent (acts.onCpu sound)
  | raise worker batch alert analysis output due acts prints =>
    exact .raise worker batch alert _ output due (acts.onCpu sound) prints
  | returns worker ticket batch due analyzing outside silent =>
    exact .returns worker ticket batch due analyzing (congrArg AnalyzePc.onCpu outside) silent
  | output output step => exact .output output step

theorem Step.of_onCpu {cpu : Program ω Unit R} (step : Step hash config.onCpu program.onCpu cpu)
    (sound : ∀ worker, (program.analysis.pcs worker).Sound) :
    ∃ after, Step hash config program after ∧ after.onCpu = cpu := by
  cases step with
  | pipeline pipeline step stays => exact ⟨_, .pipeline pipeline step stays, rfl⟩
  | call worker ticket batch due idle => exact ⟨_, .call worker ticket batch due idle, rfl⟩
  | trace worker batch packet rest output due prints =>
    exact ⟨_, .trace worker batch packet rest output due prints, rfl⟩
  | analyze worker batch analysis due silent starts =>
    obtain ⟨own, ownStarts, rfl⟩ := starts.of_onCpu sound
    exact ⟨_, .analyze worker batch own due silent ownStarts, rfl⟩
  | act worker batch analysis due silent acts =>
    obtain ⟨own, ownActs, rfl⟩ := acts.of_onCpu sound
    exact ⟨_, .act worker batch own due silent ownActs, rfl⟩
  | raise worker batch alert analysis output due acts prints =>
    obtain ⟨own, ownActs, rfl⟩ := acts.of_onCpu sound
    exact ⟨_, .raise worker batch alert own output due ownActs prints, rfl⟩
  | returns worker ticket batch due analyzing outside silent =>
    exact ⟨_, .returns worker ticket batch due analyzing (AnalyzePc.outside_of_onCpu outside) silent,
      rfl⟩
  | output output step => exact ⟨_, .output output step, rfl⟩

theorem start_onCpu (begins : (system ω hash config).start program) :
    (system ω hash config.onCpu).start program.onCpu := by
  obtain ⟨pipeline, starts, rfl⟩ := begins
  exact ⟨pipeline, starts, rfl⟩

theorem start_of_onCpu {cpu : Program ω Unit R} (begins : (system ω hash config.onCpu).start cpu) :
    ∃ program, (system ω hash config).start program ∧ program.onCpu = cpu := by
  obtain ⟨pipeline, starts, rfl⟩ := begins
  exact ⟨_, ⟨pipeline, starts, rfl⟩, rfl⟩

variable [Fintype ω]

theorem reachable_onCpu (behaves : config.backend.FailsOrAgrees)
    (reachable : (system ω hash config).Reachable program) :
    (system ω hash config.onCpu).Reachable program.onCpu := by
  refine reachable.map (fun first begins => start_onCpu begins) ?_
  intro before after earlier step
  have reported := AnalysisWorkers.Reported.of_reachable behaves (analysis_reachable earlier)
  exact .inl (Step.onCpu step reported.sound)

theorem reachable_of_onCpu (behaves : config.backend.FailsOrAgrees) {cpu : Program ω Unit R}
    (reachable : (system ω hash config.onCpu).Reachable cpu) :
    ∃ program, (system ω hash config).Reachable program ∧ program.onCpu = cpu := by
  refine TransitionSystem.Reachable.invariant (P := fun cpu : Program ω Unit R =>
    ∃ program, (system ω hash config).Reachable program ∧ program.onCpu = cpu) ?_ ?_ reachable
  · intro first begins
    obtain ⟨program, starts, same⟩ := start_of_onCpu begins
    exact ⟨program, TransitionSystem.Reachable.first starts, same⟩
  · intro before after _ step found
    obtain ⟨program, earlier, rfl⟩ := found
    have reported := AnalysisWorkers.Reported.of_reachable behaves (analysis_reachable earlier)
    obtain ⟨next, moves, rfl⟩ := Step.of_onCpu step reported.sound
    exact ⟨next, earlier.next moves, rfl⟩

theorem cpu_never_falls_back {cpu : Program ω Unit R}
    (reachable : (system ω hash config.onCpu).Reachable cpu)
    (finished : cpu.pipeline.main = .finished) : cpu.analysis.engine.fallbacks = 0 := by
  have exited := Pipeline.exited_of_finished (pipeline_reachable reachable) finished
  have attached := Attached.of_reachable reachable
  have idle := attached.callbacks_idle exited
  have counted := AnalysisWorkers.fallbacks_of_finished (analysis_reachable reachable)
    fun worker => attached.outside worker (by rw [idle worker]; rfl)
  rw [counted, show config.onCpu.backend = cpuEntropyBackend from rfl,
    show config.onCpu.backendState = () from rfl, failedBatches_cpu]
  rfl

end Program

def ProcessConfig.onCpu (config : ProcessConfig σ R) : ProcessConfig Unit R where
  toProgramConfig := config.toProgramConfig.onCpu
  source := config.source
  backendName := cpuBackendName

namespace Process

variable [Fintype ω] {config : ProcessConfig σ R} {program : Program ω σ R} {pc : PrintPc}

def heading (ω : Type) [Fintype ω] (config : ProcessConfig σ R) (pc : PrintPc) : List (List Char) :=
  if pc = .banner then [] else [banner ω config]

def trailer (config : ProcessConfig σ R) (program : Program ω σ R) (pc : PrintPc) :
    List (List Char) :=
  if pc = .exited then warningLines config program else []

omit [DecidableEq ω] [Fintype ω] in
theorem closing_onCpu (never : pc = .exited → program.onCpu.analysis.engine.fallbacks = 0)
    (figures : Figures) : closing config program figures pc =
      closing config.onCpu program.onCpu figures pc ++ trailer config program pc := by
  cases pc with
  | exited =>
    have silent : warningLines config.onCpu program.onCpu = [] := by
      rw [warningLines, never rfl]
      rfl
    rw [closing, closing, silent, List.append_nil]
    rfl
  | _ => exact (List.append_nil _).symm

theorem told_onCpu_iff
    (never : pc = .exited → program.onCpu.analysis.engine.fallbacks = 0)
    (started : pc ≠ .banner) (body : List (List Char)) :
    Told hash config.onCpu ⟨program.onCpu, pc, heading ω config.onCpu pc ++ body⟩ ↔
      Told hash config
        ⟨program, pc, heading ω config pc ++ body ++ trailer config program pc⟩ := by
  have heads (config : ProcessConfig σ R) : heading ω config pc = [banner ω config] := if_neg started
  have cpuHeads : heading ω config.onCpu pc = [banner ω config.onCpu] := if_neg started
  have same (figures : Figures) :
      [banner ω config.onCpu] ++ body = [banner ω config.onCpu] ++ program.output.stdout.log ++
          closing config.onCpu program.onCpu figures pc ↔
        [banner ω config] ++ body ++ trailer config program pc =
          [banner ω config] ++ program.output.stdout.log ++ closing config program figures pc := by
    rw [closing_onCpu never, ← List.append_assoc ([banner ω config] ++ _), List.append_left_inj,
      List.append_assoc, List.append_assoc, List.append_right_inj, List.append_right_inj]
  rw [heads, cpuHeads]
  constructor
  · intro told
    obtain ⟨figures, decimal, stdout⟩ := told.after started
    exact ⟨fun first => absurd first started, told.joined,
      fun _ => ⟨figures, decimal, (same figures).mp stdout⟩⟩
  · intro told
    obtain ⟨figures, decimal, stdout⟩ := told.after started
    exact ⟨fun first => absurd first started, told.joined,
      fun _ => ⟨figures, decimal, (same figures).mpr stdout⟩⟩

theorem reachable_of_onCpu (behaves : config.backend.FailsOrAgrees) {cpu : Program ω Unit R}
    {body : List (List Char)} (reachable : (system ω hash config.onCpu).Reachable
      ⟨cpu, pc, heading ω config.onCpu pc ++ body⟩) :
    ∃ program, program.onCpu = cpu ∧ (system ω hash config).Reachable
      ⟨program, pc, heading ω config pc ++ body ++ trailer config program pc⟩ := by
  obtain ⟨run, told⟩ := reachable_iff.mp reachable
  by_cases first : pc = .banner
  · subst first
    obtain ⟨nothing, begins⟩ := told.before rfl
    obtain rfl : body = [] := nothing
    obtain ⟨program, starts, same⟩ := Program.start_of_onCpu begins
    exact ⟨program, same, TransitionSystem.Reachable.first ⟨program, starts, rfl⟩⟩
  · obtain ⟨program, twin, rfl⟩ := Program.reachable_of_onCpu behaves run
    have never : pc = .exited → program.onCpu.analysis.engine.fallbacks = 0 := by
      rintro rfl
      exact Program.cpu_never_falls_back run (told.joined nofun nofun)
    exact ⟨program, rfl, reachable_iff.mpr ⟨twin, (told_onCpu_iff never first body).mp told⟩⟩

theorem reachable_onCpu (behaves : config.backend.FailsOrAgrees) {body : List (List Char)}
    (reachable : (system ω hash config).Reachable
      ⟨program, pc, heading ω config pc ++ body ++ trailer config program pc⟩) :
    (system ω hash config.onCpu).Reachable
      ⟨program.onCpu, pc, heading ω config.onCpu pc ++ body⟩ := by
  obtain ⟨run, told⟩ := reachable_iff.mp reachable
  by_cases first : pc = .banner
  · subst first
    obtain ⟨nothing, begins⟩ := told.before rfl
    obtain rfl : body = [] := (List.append_nil _).symm.trans nothing
    exact TransitionSystem.Reachable.first ⟨_, Program.start_onCpu begins, rfl⟩
  · have twin := Program.reachable_onCpu behaves run
    have never : pc = .exited → program.onCpu.analysis.engine.fallbacks = 0 := by
      rintro rfl
      exact Program.cpu_never_falls_back twin (told.joined nofun nofun)
    exact reachable_iff.mpr ⟨twin, (told_onCpu_iff never first body).mpr told⟩

/-- Whether the backend works, fails or works again shows nowhere but in its name in the banner and
    in the warning at the end: apart from these two lines, the process can print what it can with the
    CPU, with the program in the same states. -/
theorem backend_is_unobservable (behaves : config.backend.FailsOrAgrees) (cpu : Program ω Unit R)
    (pc : PrintPc) (body : List (List Char)) :
    (system ω hash config.onCpu).Reachable ⟨cpu, pc, heading ω config.onCpu pc ++ body⟩ ↔
      ∃ program, program.onCpu = cpu ∧ (system ω hash config).Reachable
        ⟨program, pc, heading ω config pc ++ body ++ trailer config program pc⟩ := by
  constructor
  · exact reachable_of_onCpu behaves
  · rintro ⟨program, rfl, reachable⟩
    exact reachable_onCpu behaves reachable

theorem lost_dispatch_is_unobservable : ∃ (cpu : Program (Fin 2) Unit ℝ)
    (program : Program (Fin 2) Bool ℝ) (body : List (List Char)),
    (system (Fin 2) UInt32.toNat flakyProcess.onCpu).Reachable
      ⟨cpu, .exited, [banner (Fin 2) flakyProcess.onCpu] ++ body⟩ ∧
    program.pipeline.capture.frames = eicarSources.map eicarFrame ∧ program.onCpu = cpu ∧
    (system (Fin 2) UInt32.toNat flakyProcess).Reachable
      ⟨program, .exited, [banner (Fin 2) flakyProcess] ++ body ++
        [warningLine 1 "gpu (Apple M1)".toList]⟩ := by
  obtain ⟨program, figures, reachable, frames, warns⟩ := @eicar_falls_back UInt32.toNat
    flakyProcess rfl rfl rfl flakyBackend_losesFirst
  rw [← List.append_assoc, List.append_assoc [_]] at reachable
  refine ⟨program.onCpu, program, _, ?_, frames, rfl, reachable⟩
  refine (backend_is_unobservable flakyBackend_failsOrAgrees _ .exited _).mpr ⟨program, rfl, ?_⟩
  rw [trailer, if_pos rfl, warns]
  exact reachable

end Process

end NetSentinel
