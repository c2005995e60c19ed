import NetSentinel.Analysis.FallbackCount
import NetSentinel.Main.Process
import NetSentinel.Pipeline.Batches

namespace NetSentinel

section Failed

variable {σ R : Type} [Arithmetic R] (config : AnalysisConfig R) (backend : EntropyBackend σ R)

theorem failedBatches_le (first : σ) (batches : List (List QueuedPacket)) :
    failedBatches config backend first (batches.map callsOf) ≤ batches.length := by
  induction batches generalizing first with
  | nil => exact Nat.le_refl 0
  | cons batch batches ih =>
    have rest := ih (backend.startBatch config first batch).1
    have one (pending : Option (PendingEntropy R)) (eligible : List QueuedPacket) :
        fallsBack eligible pending ≤ 1 := by
      unfold fallsBack
      split
      · exact Nat.zero_le 1
      · split <;> decide
    rw [List.map_cons, failedBatches_cons, List.length_cons, Nat.add_comm]
    exact Nat.add_le_add rest (one _ _)

theorem failedBatches_cpu (batches : List (List QueuedPacket)) :
    failedBatches config cpuEntropyBackend () (batches.map callsOf) = 0 := by
  induction batches with
  | nil => rfl
  | cons batch batches ih =>
    rw [List.map_cons, failedBatches_cons, EntropyBackend.startBatch, fallsBack, ih]
    by_cases none : eligiblePackets config batch = []
    · rw [if_pos none]
    · rw [if_neg none, if_neg none]
      simp [cpuEntropyBackend, answerFails, readyEntropy, cpuEntropies]

end Failed

theorem length_le_flatten {α : Type*} {batches : List (List α)}
    (nonempty : ∀ batch ∈ batches, 1 ≤ batch.length) : batches.length ≤ batches.flatten.length := by
  rw [List.length_flatten]
  have most := List.card_nsmul_le_sum (batches.map List.length) 1 fun length member => by
    obtain ⟨batch, found, rfl⟩ := List.mem_map.mp member
    exact nonempty batch found
  simpa using most

namespace Program

variable {ω σ R : Type} [DecidableEq ω] [Fintype ω] [Nonempty ω] [Arithmetic R]
  {hash : UInt32 → Nat} {config : ProgramConfig σ R} {program : Program ω σ R}

theorem fallbacks_counted (reachable : (system ω hash config).Reachable program)
    (finished : program.pipeline.main = .finished) : ∃ batches : List (List QueuedPacket),
    batches.Perm (program.pipeline.pool.threads.history.removals.map Prod.snd) ∧
    program.analysis.engine.fallbacks = .ofNat
      (failedBatches config.analysis config.backend config.backendState (batches.map callsOf)) ∧
    failedBatches config.analysis config.backend config.backendState (batches.map callsOf) ≤
      (Capture.accepted config.pipeline.parse program.pipeline.capture.frames).length := by
  have done := Finished.of_reachable reachable finished
  have counted :=
    AnalysisWorkers.fallbacks_of_finished (analysis_reachable reachable) done.outside
  have failed := failedBatches_le config.analysis config.backend config.backendState
    program.analysis.batches
  have nonempty : ∀ batch ∈ program.analysis.batches, 1 ≤ batch.length := by
    intro batch member
    obtain ⟨entry, removed, rfl⟩ := List.mem_map.mp (done.batches.mem_iff.mp member)
    exact FifoHistory.removals_nonempty _ removed
  have packets := length_le_flatten nonempty
  rw [done.batches.flatten.length_eq, done.packets] at packets
  exact ⟨program.analysis.batches, done.batches, counted, failed.trans packets⟩

end Program

namespace Process

variable {ω σ R : Type} [DecidableEq ω] [Fintype ω] [Nonempty ω] [Arithmetic R]
  {hash : UInt32 → Nat} {config : ProcessConfig σ R} {process : Process ω σ R}

/-- The process ends with a warning exactly if the backend has failed, and the warning has the number
    of the batches it failed for. -/
theorem fallback_warning (reachable : (system ω hash config).Reachable process)
    (exited : process.pc = .exited)
    (few : (Capture.accepted config.pipeline.parse process.program.pipeline.capture.frames).length <
      2 ^ 64) : ∃ (batches : List (List QueuedPacket)) (figures : Figures),
    batches.Perm (process.program.pipeline.pool.threads.history.removals.map Prod.snd) ∧
    process.stdout = [banner ω config] ++ process.program.output.stdout.log ++
      (summaryLines process.program figures ++
        let failed := failedBatches config.analysis config.backend config.backendState
          (batches.map callsOf)
        if failed = 0 then [] else
          ["warning: ".toList ++ unsignedText failed ++
            " batch(es) fell back to CPU entropy after a ".toList ++ config.backendName ++
            " failure\n".toList]) := by
  obtain ⟨finished, figures, -, stdout⟩ := stdout_of_exited reachable exited
  obtain ⟨batches, order, counted, most⟩ :=
    Program.fallbacks_counted (program_reachable reachable) finished
  refine ⟨batches, figures, order, ?_⟩
  rw [stdout, warningLines, counted]
  generalize failedBatches config.analysis config.backend config.backendState
    (batches.map callsOf) = failed at most
  have exact_count := UInt64.toNat_ofNat_of_lt' (Nat.lt_of_le_of_lt most few)
  dsimp only
  by_cases none : failed = 0
  · rw [if_pos none, none]
    rfl
  · have positive : 0 < UInt64.ofNat failed := by
      rw [UInt64.lt_iff_toNat_lt, exact_count]
      exact Nat.pos_of_ne_zero none
    rw [if_neg none, if_pos positive]
    unfold warningLine
    rw [exact_count]

end Process

section Flaky

theorem eicar_eligible (srcIp : UInt32) :
    eligiblePackets ({} : AnalysisConfig ℝ) [eicarPacket srcIp] = [eicarPacket srcIp] := by
  have long : 32 ≤ (eicarPacket srcIp).payload.length := by
    rw [show (eicarPacket srcIp).payload = eicarPayload from rfl, eicarPayload_length]
    decide
  simp [eligiblePackets, long]

/-- Of the packets with the EICAR string, it fails for the first one and for no other. -/
structure EntropyBackend.LosesFirst (backend : EntropyBackend Bool ℝ) : Prop where
  after : ∀ worked srcIp, (backend.start worked [eicarPacket srcIp]).1 = true
  fails : ∀ worked srcIp,
    answerFails [eicarPacket srcIp] (backend.start worked [eicarPacket srcIp]).2 = !worked

theorem EntropyBackend.LosesFirst.failures {backend : EntropyBackend Bool ℝ}
    (loses : backend.LosesFirst) {batches : List (List QueuedPacket)} (some : batches ≠ [])
    (alone : ∀ batch ∈ batches, ∃ srcIp, batch = [eicarPacket srcIp]) :
    failedBatches {} backend false (batches.map callsOf) = 1 := by
  have starts (worked : Bool) (srcIp : UInt32) :
      backend.startBatch {} worked [eicarPacket srcIp] =
        backend.start worked [eicarPacket srcIp] := by
    rw [EntropyBackend.startBatch, eicar_eligible, if_neg (List.cons_ne_nil _ _)]
  have falls (worked : Bool) (srcIp : UInt32) :
      fallsBack [eicarPacket srcIp] (backend.start worked [eicarPacket srcIp]).2 =
        if worked then 0 else 1 := by
    rw [fallsBack, if_neg (List.cons_ne_nil _ _), loses.fails]
    cases worked <;> rfl
  have later : ∀ batches : List (List QueuedPacket),
      (∀ batch ∈ batches, ∃ srcIp, batch = [eicarPacket srcIp]) →
        failedBatches {} backend true (batches.map callsOf) = 0 := by
    intro batches
    induction batches with
    | nil => exact fun _ => rfl
    | cons batch batches ih =>
      intro alone
      obtain ⟨srcIp, rfl⟩ := alone batch List.mem_cons_self
      rw [List.map_cons, failedBatches_cons, starts, eicar_eligible, falls, loses.after, if_pos rfl,
        Nat.zero_add]
      exact ih fun other member => alone other (List.mem_cons_of_mem _ member)
  cases batches with
  | nil => exact absurd rfl some
  | cons batch batches =>
    obtain ⟨srcIp, rfl⟩ := alone batch List.mem_cons_self
    have rest := later batches fun other member => alone other (List.mem_cons_of_mem _ member)
    rw [List.map_cons, failedBatches_cons, starts, eicar_eligible, falls, loses.after, rest]
    rfl

/-- A backend that loses its first dispatch while the worker waits for it. -/
noncomputable def flakyBackend : EntropyBackend Bool ℝ where
  start worked packets :=
    (true, some (if worked then readyEntropy (cpuEntropies packets)
      else ⟨fun entropies => (false, entropies)⟩))

theorem flakyBackend_failsOrAgrees : flakyBackend.FailsOrAgrees := by
  intro worked packets
  cases worked with
  | true => exact .computed _ fun _ => rfl
  | false => exact .waitFails _ fun _ => rfl

theorem flakyBackend_losesFirst : flakyBackend.LosesFirst where
  after _ _ := rfl
  fails worked _ := by cases worked <;> rfl

variable {ω : Type} [DecidableEq ω] [Fintype ω] [Nonempty ω] {σ : Type}

theorem eicar_batches {hash : UInt32 → Nat} {config : ProgramConfig σ ℝ} {program : Program ω σ ℝ}
    (parses : config.pipeline.parse = Frame.parse) (single : config.pipeline.batchSize = 1)
    (reachable : (Program.system ω hash config).Reachable program)
    (finished : program.pipeline.main = .finished) {sources : List UInt32} (some : sources ≠ [])
    (frames : program.pipeline.capture.frames = sources.map eicarFrame)
    {batches : List (List QueuedPacket)}
    (order : batches.Perm (program.pipeline.pool.threads.history.removals.map Prod.snd)) :
    batches ≠ [] ∧ ∀ batch ∈ batches, ∃ srcIp, batch = [eicarPacket srcIp] := by
  have packets := (Program.Finished.of_reachable reachable finished).packets
  rw [parses, frames, eicar_accepted] at packets
  constructor
  · rintro rfl
    rw [order.nil_eq.symm] at packets
    exact some (List.map_eq_nil_iff.mp packets.symm)
  · intro batch member
    have listed := order.mem_iff.mp member
    obtain ⟨entry, removed, rfl⟩ := List.mem_map.mp listed
    have least := FifoHistory.removals_nonempty _ removed
    have most := WorkerPool.removals_le
      (Pipeline.pool_reachable (Program.pipeline_reachable reachable)) removed
    rw [single] at most
    obtain ⟨packet, alone⟩ := List.length_eq_one_iff.mp (Nat.le_antisymm most least)
    have accepted : packet ∈ sources.map eicarPacket := by
      rw [← packets]
      exact List.mem_flatten.mpr ⟨_, listed, by rw [alone]; exact List.mem_singleton_self _⟩
    obtain ⟨srcIp, -, rfl⟩ := List.mem_map.mp accepted
    exact ⟨srcIp, alone⟩

theorem Process.eicar_falls_back {hash : UInt32 → Nat} {config : ProcessConfig Bool ℝ}
    (captures : config.pipeline = eicarPipeline) (analysis : config.analysis = {})
    (first : config.backendState = false) (loses : config.backend.LosesFirst) :
    ∃ (program : Program (Fin 2) Bool ℝ) (figures : Figures),
      (system (Fin 2) hash config).Reachable ⟨program, .exited, [banner (Fin 2) config] ++
        program.output.stdout.log ++
          (summaryLines program figures ++ [warningLine 1 config.backendName])⟩ ∧
      program.pipeline.capture.frames = eicarSources.map eicarFrame ∧
      warningLines config program = [warningLine 1 config.backendName] := by
  obtain ⟨⟨program, pc, printed⟩, reachable, exited, frames⟩ :=
    eicar_exits (Fin 2) hash config captures
  obtain ⟨finished, figures, -, stdout⟩ := stdout_of_exited reachable exited
  obtain ⟨batches, order, counted, -⟩ :=
    Program.fallbacks_counted (program_reachable reachable) finished
  have sources : eicarSources ≠ [] := List.cons_ne_nil _ _
  have parses : config.pipeline.parse = Frame.parse := by
    rw [captures]
    rfl
  have single : config.pipeline.batchSize = 1 := by
    rw [captures]
    rfl
  obtain ⟨some, alone⟩ := eicar_batches parses single (program_reachable reachable) finished sources
    frames order
  have once : program.analysis.engine.fallbacks = 1 := by
    rw [counted, analysis, first, loses.failures some alone]
    rfl
  have warns : warningLines config program = [warningLine 1 config.backendName] := by
    rw [warningLines, once]
    rfl
  dsimp only at exited stdout
  rw [warns] at stdout
  subst exited stdout
  exact ⟨program, figures, reachable, frames, warns⟩

noncomputable def flakyProcess : ProcessConfig Bool ℝ where
  pipeline := eicarPipeline
  backend := flakyBackend
  backendState := false
  verbose := true
  source := "eicar.pcap".toList
  backendName := gpuBackendName "Apple M1".toList

end Flaky

namespace Process

theorem lost_dispatch_is_reported : ∃ (process : Process (Fin 2) Bool ℝ) (figures : Figures),
    (system (Fin 2) UInt32.toNat flakyProcess).Reachable process ∧
      process.program.pipeline.capture.frames = eicarSources.map eicarFrame ∧
      process.stdout = [banner (Fin 2) flakyProcess] ++ process.program.output.stdout.log ++
        (summaryLines process.program figures ++
          ["warning: ".toList ++ ['1'] ++ " batch(es) fell back to CPU entropy after a ".toList ++
            "gpu (Apple M1)".toList ++ " failure\n".toList]) := by
  obtain ⟨process, reachable, exited, frames⟩ :=
    eicar_exits (Fin 2) UInt32.toNat flakyProcess rfl
  have few : (Capture.accepted flakyProcess.pipeline.parse
      process.program.pipeline.capture.frames).length < 2 ^ 64 := by
    rw [frames, show flakyProcess.pipeline.parse = Frame.parse from rfl, eicar_accepted]
    decide
  obtain ⟨batches, figures, order, stdout⟩ := fallback_warning reachable exited few
  obtain ⟨finished, -⟩ := stdout_of_exited reachable exited
  have sources : eicarSources ≠ [] := List.cons_ne_nil _ _
  obtain ⟨some, alone⟩ :=
    eicar_batches rfl rfl (program_reachable reachable) finished sources frames order
  have failed : failedBatches flakyProcess.analysis flakyProcess.backend flakyProcess.backendState
      (batches.map callsOf) = 1 := flakyBackend_losesFirst.failures some alone
  rw [failed] at stdout
  exact ⟨process, figures, reachable, frames, stdout⟩

end Process

end NetSentinel
