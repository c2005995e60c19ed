import NetSentinel.Analysis.SingleWorker
import NetSentinel.Main.Fallbacks
import NetSentinel.Queue.SingleWorker

namespace NetSentinel

open Family

def alertLines (quiet : Bool) (alerts : List Alert) : List (List (List Char)) :=
  if quiet then [] else alerts.map fun alert => [alertLine alert]

def traceLines (verbose : Bool) (packets : List QueuedPacket) : List (List (List Char)) :=
  if verbose then packets.map printPacket else []

@[simp] theorem alertLines_nil (quiet : Bool) : alertLines quiet [] = [] := by
  cases quiet <;> rfl

theorem alertLines_append (quiet : Bool) (alerts more : List Alert) :
    alertLines quiet (alerts ++ more) = alertLines quiet alerts ++ alertLines quiet more := by
  cases quiet with
  | true => rfl
  | false => exact List.map_append

def AlertPc.alerts : AlertPc → List Alert
  | .outside => []
  | .countingAll alert => [alert]
  | .countingType alert => [alert]

namespace Output

variable {ω : Type*} [DecidableEq ω] [Unique ω] {quiet : Bool} {output after : Output ω}
  {event : Event ω}

def Event.lines (quiet : Bool) : Event ω → List (List (List Char))
  | .inside => []
  | .printAlert _ alert => alertLines quiet [alert]
  | .printPacket _ packet => [NetSentinel.printPacket packet]

/-- What a worker without others has printed, or prints as soon as it has counted. -/
def told (quiet : Bool) (output : Output ω) : List (List (List Char)) :=
  output.stdout.messages ++ alertLines quiet (output.alerting default).alerts

theorem Step.told (step : Step quiet event output after) :
    after.told quiet = output.told quiet ++ event.lines quiet := by
  unfold Output.told
  cases step with
  | printAlert worker alert idle =>
    dsimp only
    rw [at_default idle.1, update_default]
    simp [AlertPc.alerts, Event.lines]
  | countAll worker alert due =>
    dsimp only
    rw [at_default due, update_default]
    exact (List.append_nil _).symm
  | countQuietly worker alert due silent =>
    dsimp only
    rw [update_default, silent]
    exact (List.append_nil _).symm
  | countAndPrint worker alert stdout due loud prints =>
    dsimp only
    rw [at_default due, update_default, loud]
    cases prints
    simp [AlertPc.alerts, Event.lines, alertLines]
  | printPacket worker packet stdout idle prints =>
    rw [at_default idle.1]
    cases prints
    simp [AlertPc.alerts, Event.lines]
  | stdout stdout prints =>
    cases prints <;> exact (List.append_nil _).symm

theorem told_of_idle (reachable : (system ω quiet).Reachable output)
    (idle : ∀ worker, output.idle worker) : output.stdout.log = (output.told quiet).flatten := by
  have log := LockedLog.log_of_unique (stdout_reachable reachable)
  rw [(idle default).2] at log
  unfold told
  rw [(idle default).1]
  simpa [AlertPc.alerts, LogWriter.unwritten] using log

end Output

namespace Program

variable {ω σ R : Type} [DecidableEq ω] [Arithmetic R] {hash : UInt32 → Nat}
  {config : ProgramConfig σ R} {program after : Program ω σ R}

def batchLines (config : ProgramConfig σ R) (packets : List QueuedPacket) (alerts : List Alert) :
    List (List (List Char)) :=
  traceLines config.verbose packets ++ alertLines config.quiet alerts

def batchesLines (hash : UInt32 → Nat) (config : ProgramConfig σ R) (tracker : FlowTracker) :
    List (List ObserveCall) → List (List (List Char))
  | [] => []
  | batch :: batches =>
    batchLines config (packetsOf batch)
        (batchAlerts hash config.analysis SignatureDatabase.new tracker batch) ++
      batchesLines hash config (packetRules hash SignatureDatabase.new tracker batch).1 batches

theorem batchesLines_snoc (tracker : FlowTracker) (batches : List (List ObserveCall))
    (batch : List ObserveCall) :
    batchesLines hash config tracker (batches ++ [batch]) =
      batchesLines hash config tracker batches ++
        batchLines config (packetsOf batch) (batchAlerts hash config.analysis SignatureDatabase.new
          (packetRules hash SignatureDatabase.new tracker batches.flatten).1 batch) := by
  induction batches generalizing tracker with
  | nil => exact List.append_nil _
  | cons head batches ih =>
    rw [List.cons_append, batchesLines, ih, batchesLines, List.flatten_cons, packetRules_append,
      List.append_assoc]

variable [Unique ω]

/-- Where the only worker is, when it has done these batches and told these lines. -/
def Turn (hash : UInt32 → Nat) (config : ProgramConfig σ R) (first : FlowTracker)
    (done : List (List ObserveCall)) (analysis : AnalysisWorkers ω σ R)
    (told : List (List (List Char))) : CallbackPc → Prop
  | .idle => analysis.Between hash config.analysis first done ∧
      told = batchesLines hash config first done
  | .tracing batch rest => analysis.Between hash config.analysis first done ∧
      ∃ traced, (if config.verbose then batch else []) = traced ++ rest ∧
        told = batchesLines hash config first done ++ traced.map printPacket
  | .analyzing batch =>
    (∃ made sunk, analysis.Inside hash config.analysis first done made batch sunk ∧
      told = batchesLines hash config first done ++ batchLines config batch sunk) ∨
    ∃ made, packetsOf made = batch ∧
      analysis.Between hash config.analysis first (done ++ [made]) ∧
        told = batchesLines hash config first (done ++ [made])

def InTurn (hash : UInt32 → Nat) (config : ProgramConfig σ R) (first : FlowTracker)
    (program : Program ω σ R) : Prop :=
  ∃ done : List (List ObserveCall),
    program.pipeline.pool.analyzed.map Prod.snd = done.map packetsOf ∧
      Turn hash config first done program.analysis (program.output.told config.quiet)
        (program.callbacks default)

section InTurn

variable {first : FlowTracker} {done : List (List ObserveCall)} {batch : List QueuedPacket}
  {told : List (List (List Char))} {mover : ω} {analysis : AnalysisWorkers ω σ R}
  {alerts : List Alert}

theorem Turn.acts
    (turn : Turn hash config first done program.analysis told (.analyzing batch))
    (reported : program.analysis.Reported config.analysis config.backend)
    (acts : AnalysisWorkers.Acts hash mover program.analysis analysis [] alerts) :
    Turn hash config first done analysis (told ++ alertLines config.quiet alerts)
      (.analyzing batch) := by
  rcases turn with ⟨made, sunk, inside, lines⟩ | ⟨made, whole, between, lines⟩
  · obtain ⟨more, moreSunk, next⟩ :=
      inside.step reported.config reported.signatures reported.sound acts.step
    rw [acts.sunk] at moreSunk
    rw [← List.append_cancel_left moreSunk] at next
    have further : told ++ alertLines config.quiet alerts =
        batchesLines hash config first done ++ batchLines config batch (sunk ++ alerts) := by
      rw [lines, batchLines, batchLines, alertLines_append, List.append_assoc, List.append_assoc]
    cases next with
    | further now inside => exact .inl ⟨now, sunk ++ alerts, inside, further⟩
    | through whole all between =>
      refine .inr ⟨made, whole, between, ?_⟩
      rw [further, batchesLines_snoc, whole, all]
  · obtain ⟨other, inside⟩ := between.step reported.config acts.step
    have batches := acts.batches
    rw [inside.batches, ← between.batches] at batches
    cases List.append_cancel_left batches

theorem Turn.starts (turn : Turn hash config first done program.analysis told (.tracing batch []))
    (reported : program.analysis.Reported config.analysis config.backend)
    (starts : AnalysisWorkers.Acts hash mover program.analysis analysis [batch] []) :
    Turn hash config first done analysis told (.analyzing batch) := by
  obtain ⟨between, traced, split, lines⟩ := turn
  obtain ⟨other, inside⟩ := between.step reported.config starts.step
  have batches := starts.batches
  rw [inside.batches, ← between.batches] at batches
  obtain rfl : other = batch := by
    simpa using List.append_cancel_left batches
  refine .inl ⟨[], [], inside, ?_⟩
  rw [lines, batchLines, alertLines_nil, List.append_nil, traceLines]
  rw [List.append_nil] at split
  rw [← split]
  cases config.verbose <;> rfl

theorem InTurn.step (inTurn : InTurn hash config first program)
    (reported : program.analysis.Reported config.analysis config.backend)
    (step : Step hash config program after) : InTurn hash config first after := by
  obtain ⟨done, analyzed, turn⟩ := inTurn
  cases step with
  | pipeline pipeline step stays =>
    refine ⟨done, ?_, turn⟩
    rw [stays]
    exact analyzed
  | call worker ticket batch due idle =>
    rw [at_default idle] at turn
    refine ⟨done, analyzed, ?_⟩
    dsimp only
    rw [update_default]
    exact ⟨turn.1, [], rfl, turn.2.trans (List.append_nil _).symm⟩
  | trace worker batch packet rest output due prints =>
    rw [at_default due] at turn
    obtain ⟨between, traced, split, lines⟩ := turn
    refine ⟨done, analyzed, ?_⟩
    dsimp only
    rw [update_default]
    refine ⟨between, traced ++ [packet], ?_, ?_⟩
    · rw [split, List.append_assoc]
      rfl
    · rw [prints.told, lines, List.map_append, List.append_assoc]
      rfl
  | analyze worker batch analysis due silent starts =>
    rw [at_default due] at turn
    refine ⟨done, analyzed, ?_⟩
    dsimp only
    rw [update_default]
    exact turn.starts reported starts
  | act worker batch analysis due silent acts =>
    rw [at_default due] at turn
    have next := turn.acts reported acts
    rw [alertLines_nil, List.append_nil] at next
    refine ⟨done, analyzed, ?_⟩
    dsimp only
    rw [at_default due]
    exact next
  | raise worker batch alert analysis output due acts prints =>
    rw [at_default due] at turn
    refine ⟨done, analyzed, ?_⟩
    dsimp only
    rw [at_default due, prints.told]
    exact turn.acts reported acts
  | returns worker ticket batch due analyzing outside silent =>
    rw [at_default due] at turn
    rcases turn with ⟨made, sunk, inside, lines⟩ | ⟨made, whole, between, lines⟩
    · exact (inside.at_mover outside).elim
    · refine ⟨done ++ [made], ?_, ?_⟩
      · dsimp only
        rw [List.map_append, List.map_append, analyzed, ← whole]
        rfl
      · dsimp only
        rw [update_default]
        exact ⟨between, lines⟩
  | output output step =>
    refine ⟨done, analyzed, ?_⟩
    dsimp only
    rw [step.told]
    exact (List.append_nil _).symm ▸ turn

theorem InTurn.of_reachable (behaves : config.backend.FailsOrAgrees)
    (reachable : (system ω hash config).Reachable program) :
    InTurn hash config (FlowTracker.new config.analysis.flow) program := by
  refine TransitionSystem.Reachable.invariant ?_ ?_ reachable
  · intro initial start
    obtain ⟨pipeline, begins, rfl⟩ := start
    obtain ⟨-, -, -, pool⟩ := begins
    have nothing : pipeline.pool.analyzed = [] := by
      rw [pool]
    refine ⟨[], ?_, ⟨rfl, rfl, rfl, rfl⟩, ?_⟩
    · rw [nothing]
      rfl
    · exact alertLines_nil config.quiet
  · intro before after earlier step inTurn
    have reported := AnalysisWorkers.Reported.of_reachable behaves (analysis_reachable earlier)
    exact InTurn.step inTurn reported step

end InTurn

theorem worked_off (behaves : config.backend.FailsOrAgrees)
    (reachable : (system ω hash config).Reachable program)
    (finished : program.pipeline.main = .finished) : ∃ batches : List (List ObserveCall),
    packetsOf batches.flatten =
      Capture.accepted config.pipeline.parse program.pipeline.capture.frames ∧
    batches.map packetsOf =
      program.pipeline.pool.threads.history.removals.map Prod.snd ∧
    program.analysis.batches = batches.map packetsOf ∧
    program.output.raised = batchesAlerts hash config.analysis SignatureDatabase.new
      (FlowTracker.new config.analysis.flow) batches ∧
    program.output.stdout.log =
      (batchesLines hash config (FlowTracker.new config.analysis.flow) batches).flatten := by
  have whole := Finished.of_reachable reachable finished
  have runs := pipeline_reachable reachable
  have exited := Pipeline.exited_of_finished runs finished
  have idle := (Attached.of_reachable reachable).callbacks_idle exited default
  have inOrder := WorkerPool.analyzed_in_turn (Pipeline.pool_reachable runs) exited
  obtain ⟨done, analyzed, turn⟩ := InTurn.of_reachable behaves reachable
  rw [idle] at turn
  obtain ⟨between, lines⟩ := turn
  rw [inOrder] at analyzed
  refine ⟨done, ?_, analyzed.symm, between.batches, ?_, ?_⟩
  · rw [← whole.packets, analyzed, packetsOf, List.map_flatten]
    rfl
  · rw [raised_is_sunk reachable]
    exact between.sunk
  · rw [Output.told_of_idle (output_reachable reachable) whole.silent, lines]

end Program

theorem failedBatches_packetsOf {σ R : Type} [Arithmetic R] (config : AnalysisConfig R)
    (backend : EntropyBackend σ R) (first : σ) (batches : List (List ObserveCall)) :
    failedBatches config backend first ((batches.map packetsOf).map callsOf) =
      failedBatches config backend first batches := by
  induction batches generalizing first with
  | nil => rfl
  | cons batch batches ih =>
    rw [List.map_cons, List.map_cons, failedBatches, failedBatches, callsOf_packets]
    simp only [ih]
    rfl

namespace Process

variable {ω σ R : Type} [DecidableEq ω] [Unique ω] [Arithmetic R] {hash : UInt32 → Nat}
  {config : ProcessConfig σ R} {process : Process ω σ R}

def sequentialStdout (hash : UInt32 → Nat) (config : ProcessConfig σ R) (figures : Figures)
    (batches : List (List ObserveCall)) : List (List Char) :=
  let packets := packetsOf batches.flatten
  let tracker := FlowTracker.new config.analysis.flow
  let alerts := batchesAlerts hash config.analysis SignatureDatabase.new tracker batches
  let fallbacks := UInt64.ofNat
    (failedBatches config.analysis config.backend config.backendState batches)
  bannerLine config.source 1 config.pipeline.capacity config.pipeline.batchSize
      config.backendName ::
    ((Program.batchesLines hash config.toProgramConfig tracker batches).flatten ++
      (summaryOf packets alerts figures ++
        if 0 < fallbacks then [warningLine fallbacks config.backendName] else []))

/-- With one worker the whole process is the engine called batch by batch: the batches are the
    accepted packets in their order, and the alerts and every line of the output follow from them,
    up to the figures of the summary. -/
theorem single_worker_output (behaves : config.backend.FailsOrAgrees)
    (reachable : (system ω hash config).Reachable process) (exited : process.pc = .exited) :
    ∃ (batches : List (List ObserveCall)) (figures : Figures), figures.Decimal ∧
      packetsOf batches.flatten =
        Capture.accepted config.pipeline.parse process.program.pipeline.capture.frames ∧
      batches.map packetsOf =
        process.program.pipeline.pool.threads.history.removals.map Prod.snd ∧
      process.program.output.raised = batchesAlerts hash config.analysis SignatureDatabase.new
        (FlowTracker.new config.analysis.flow) batches ∧
      process.stdout = sequentialStdout hash config figures batches := by
  have runs := program_reachable reachable
  obtain ⟨finished, figures, decimal, stdout⟩ := stdout_of_exited reachable exited
  obtain ⟨batches, packets, removed, worked, raised, log⟩ := Program.worked_off behaves runs finished
  have outside := (Program.Finished.of_reachable runs finished).outside
  have fallbacks := AnalysisWorkers.fallbacks_of_finished (Program.analysis_reachable runs) outside
  rw [worked, failedBatches_packetsOf] at fallbacks
  rw [summaryLines_eq runs finished, warningLines, fallbacks, log, raised, ← packets] at stdout
  refine ⟨batches, figures, decimal, packets, removed, raised, ?_⟩
  rw [stdout, List.append_assoc, banner, Fintype.card_unique]
  rfl

theorem eq_singletons {α : Type*} {batches : List (List α)}
    (single : ∀ batch ∈ batches, ∃ x, batch = [x]) :
    batches = batches.flatten.map fun x => [x] := by
  induction batches with
  | nil => rfl
  | cons batch batches ih =>
    obtain ⟨x, rfl⟩ := single batch List.mem_cons_self
    rw [List.flatten_cons, List.map_append,
      ← ih fun other member => single other (List.mem_cons_of_mem _ member)]
    rfl

/-- One worker takes two packets, and the backend fails for the first one. -/
theorem eicar_is_worked_off_alone : ∃ (process : Process Unit Bool ℝ)
    (batches : List (List ObserveCall)) (figures : Figures) (later : List (List Char)),
    (system Unit UInt32.toNat flakyProcess).Reachable process ∧
    batches.map packetsOf = eicarSources.map (fun srcIp => [eicarPacket srcIp]) ∧
    process.stdout = sequentialStdout UInt32.toNat flakyProcess figures batches ∧
    process.stdout = ["capturing from eicar.pcap ... (1 worker(s), queue capacity 2, ".toList ++
        "batch size 1, entropy on gpu (Apple M1))\n".toList] ++
      printPacket (eicarPacket 0x0A000001) ++
        [alertLine (signatureAlert (eicarPacket 0x0A000001))] ++ later ++
          [warningLine 1 "gpu (Apple M1)".toList] := by
  obtain ⟨process, reachable, exited, frames⟩ :=
    eicar_exits Unit UInt32.toNat flakyProcess rfl
  obtain ⟨batches, figures, -, packets, removed, -, stdout⟩ :=
    single_worker_output flakyBackend_failsOrAgrees reachable exited
  obtain ⟨finished, -⟩ := stdout_of_exited reachable exited
  have sources : eicarSources ≠ [] := List.cons_ne_nil _ _
  obtain ⟨some, alone⟩ :=
    eicar_batches rfl rfl (program_reachable reachable) finished sources frames (.refl _)
  rw [← removed] at some alone
  rw [frames, show flakyProcess.pipeline.parse = Frame.parse from rfl, eicar_accepted] at packets
  have single : batches.map packetsOf = eicarSources.map (fun srcIp => [eicarPacket srcIp]) := by
    have singletons := eq_singletons fun batch member => by
      obtain ⟨srcIp, same⟩ := alone batch member
      exact ⟨eicarPacket srcIp, same⟩
    have flat : (batches.map packetsOf).flatten = eicarSources.map eicarPacket := by
      rw [← packets, packetsOf, List.map_flatten]
      rfl
    rw [singletons, flat]
    rfl
  have once : failedBatches flakyProcess.analysis flakyProcess.backend flakyProcess.backendState
      batches = 1 := by
    rw [← failedBatches_packetsOf]
    exact flakyBackend_losesFirst.failures some alone
  obtain ⟨batch, others, rfl, head, -⟩ := List.map_eq_cons_iff.mp single
  obtain ⟨call, rfl, packet⟩ := List.map_eq_singleton_iff.mp head
  have raises : ∃ alerts, batchAlerts UInt32.toNat flakyProcess.analysis SignatureDatabase.new
      (FlowTracker.new flakyProcess.analysis.flow) [call] =
        signatureAlert (eicarPacket 0x0A000001) :: alerts := by
    rw [batchAlerts, packetRules, packet, eicarPacket_raises]
    exact ⟨_, rfl⟩
  obtain ⟨alerts, raises⟩ := raises
  have lines : ∃ more, (Program.batchesLines UInt32.toNat flakyProcess.toProgramConfig
      (FlowTracker.new flakyProcess.analysis.flow) ([call] :: others)).flatten =
        printPacket (eicarPacket 0x0A000001) ++
          ([alertLine (signatureAlert (eicarPacket 0x0A000001))] ++ more) := by
    rw [Program.batchesLines, Program.batchLines, raises, packetsOf, List.map_singleton, packet]
    exact ⟨_, rfl⟩
  obtain ⟨more, lines⟩ := lines
  have printed : ∃ summary, sequentialStdout UInt32.toNat flakyProcess figures ([call] :: others) =
      bannerLine "eicar.pcap".toList 1 2 1 "gpu (Apple M1)".toList ::
        (printPacket (eicarPacket 0x0A000001) ++
          ([alertLine (signatureAlert (eicarPacket 0x0A000001))] ++ more) ++
            (summary ++ [warningLine 1 "gpu (Apple M1)".toList])) := by
    unfold sequentialStdout
    dsimp only
    rw [once, lines]
    exact ⟨_, rfl⟩
  obtain ⟨summary, printed⟩ := printed
  have heading : bannerLine "eicar.pcap".toList 1 2 1 "gpu (Apple M1)".toList =
      "capturing from eicar.pcap ... (1 worker(s), queue capacity 2, ".toList ++
        "batch size 1, entropy on gpu (Apple M1))\n".toList := rfl
  refine ⟨process, [call] :: others, figures, more ++ summary, reachable, single, stdout, ?_⟩
  rw [stdout, printed, heading]
  simp only [List.append_assoc, List.cons_append, List.nil_append]

end Process

end NetSentinel
