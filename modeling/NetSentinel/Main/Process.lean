import NetSentinel.Main.AlertText
import NetSentinel.Main.Summary

namespace NetSentinel

section Lines

/-- `engine.backend_name()` without `-g`. -/
def cpuBackendName : List Char := "cpu".toList

def gpuBackendName (deviceName : List Char) : List Char := "gpu (".toList ++ deviceName ++ ")".toList

/-- What `printf` makes of the `double`s of the summary, which are times and ratios of times but for
    the average of the batch sizes. -/
structure Figures where
  seconds : List Char
  packetsPerSecond : List Char
  averageBatch : List Char
  blockedPercent : List Char
  captureSeconds : List Char
  waitingPercent : List Char

/-- No floating point number is printed with more than these characters. -/
def Decimal (text : List Char) : Prop := ∀ c ∈ text, c ∈ "0123456789.-infa".toList

instance (text : List Char) : Decidable (Decimal text) := List.decidableBAll _ text

structure Figures.Decimal (figures : Figures) : Prop where
  seconds : NetSentinel.Decimal figures.seconds
  packetsPerSecond : NetSentinel.Decimal figures.packetsPerSecond
  averageBatch : NetSentinel.Decimal figures.averageBatch
  blockedPercent : NetSentinel.Decimal figures.blockedPercent
  captureSeconds : NetSentinel.Decimal figures.captureSeconds
  waitingPercent : NetSentinel.Decimal figures.waitingPercent

def bannerLine (source : List Char) (numWorkers queueCapacity batchSize : Nat)
    (backendName : List Char) : List Char :=
  "capturing from ".toList ++ source ++ " ... (".toList ++ unsignedText numWorkers ++
    " worker(s), queue capacity ".toList ++ unsignedText queueCapacity ++ ", batch size ".toList ++
    unsignedText batchSize ++ ", entropy on ".toList ++ backendName ++ ")\n".toList

def doneLine (delivered : Int32) (processed alertCount : UInt64) (figures : Figures) : List Char :=
  "done — ".toList ++ signedText delivered.toInt ++ " packet(s) captured, ".toList ++
    unsignedText processed.toNat ++ " processed, ".toList ++ unsignedText alertCount.toNat ++
    " alert(s), ".toList ++ figures.seconds ++ "s, ".toList ++ figures.packetsPerSecond ++
    " packets/sec, avg batch ".toList ++ figures.averageBatch ++ "\n".toList

def byTypeLine (alertsByType : AnomalyType → UInt64) : List Char :=
  "alerts by type: port_scan=".toList ++ unsignedText (alertsByType .portScan).toNat ++
    " syn_flood=".toList ++ unsignedText (alertsByType .synFlood).toNat ++
    " high_entropy=".toList ++ unsignedText (alertsByType .highEntropyPayload).toNat ++
    " signature=".toList ++ unsignedText (alertsByType .signatureMatch).toNat ++ "\n".toList

def waitingLine (figures : Figures) : List Char :=
  "waiting: capture thread blocked on a full queue ".toList ++ figures.blockedPercent ++
    "% of its ".toList ++ figures.captureSeconds ++ "s, workers waiting for packets ".toList ++
    figures.waitingPercent ++ "% of their time\n".toList

def warningLine (backendFallbacks : UInt64) (backendName : List Char) : List Char :=
  "warning: ".toList ++ unsignedText backendFallbacks.toNat ++
    " batch(es) fell back to CPU entropy after a ".toList ++ backendName ++ " failure\n".toList

end Lines

/-- Which line `main` prints next: the banner before the threads start, then those of the summary. -/
inductive PrintPc where
  | banner
  | running
  | byType
  | waiting
  | warning
  | exited
deriving DecidableEq

/-- The program and `main`, which prints to the same standard output. -/
structure Process (ω σ R : Type) [Arithmetic R] where
  program : Program ω σ R
  pc : PrintPc := .banner
  stdout : List (List Char) := []

/-- `source` is the interface or file of `-i` and `-r`, `backendName` what the backend calls itself. -/
structure ProcessConfig (σ R : Type) [Arithmetic R] extends ProgramConfig σ R where
  source : List Char
  backendName : List Char

namespace Process

variable {ω σ R : Type} [DecidableEq ω] [Fintype ω] [Arithmetic R]

def banner (ω : Type) [Fintype ω] (config : ProcessConfig σ R) : List Char :=
  bannerLine config.source (Fintype.card ω) config.pipeline.capacity config.pipeline.batchSize
    config.backendName

inductive Step (hash : UInt32 → Nat) (config : ProcessConfig σ R) :
    Process ω σ R → Process ω σ R → Prop
  | banner {process : Process ω σ R} (first : process.pc = .banner) :
      Step hash config process
        { process with
          pc := .running
          stdout := process.stdout ++ [banner ω config] }
  | program {process : Process ω σ R} (program : Program ω σ R) (printed : List (List Char))
      (started : process.pc ≠ .banner) (runs : process.pc ≠ .exited)
      (step : Program.Step hash config.toProgramConfig process.program program)
      (log : program.output.stdout.log = process.program.output.stdout.log ++ printed) :
      Step hash config process { process with program, stdout := process.stdout ++ printed }
  | done {process : Process ω σ R} (figures : Figures) (decimal : figures.Decimal)
      (running : process.pc = .running) (joined : process.program.pipeline.main = .finished) :
      Step hash config process
        { process with
          pc := .byType
          stdout := process.stdout ++
            [doneLine process.program.pipeline.capture.delivered
              process.program.pipeline.pool.processed process.program.output.alertCount figures] }
  | byType {process : Process ω σ R} (due : process.pc = .byType) :
      Step hash config process
        { process with
          pc := .waiting
          stdout := process.stdout ++ [byTypeLine process.program.output.alertsByType] }
  | waiting {process : Process ω σ R} (figures : Figures) (decimal : figures.Decimal)
      (due : process.pc = .waiting) :
      Step hash config process
        { process with pc := .warning, stdout := process.stdout ++ [waitingLine figures] }
  | warning {process : Process ω σ R} (due : process.pc = .warning)
      (failed : 0 < process.program.analysis.engine.fallbacks) :
      Step hash config process
        { process with
          pc := .exited
          stdout := process.stdout ++
            [warningLine process.program.analysis.engine.fallbacks config.backendName] }
  | noWarning {process : Process ω σ R} (due : process.pc = .warning)
      (worked : ¬ 0 < process.program.analysis.engine.fallbacks) :
      Step hash config process { process with pc := .exited }

def system (ω : Type) [DecidableEq ω] [Fintype ω] (hash : UInt32 → Nat)
    (config : ProcessConfig σ R) : TransitionSystem (Process ω σ R) where
  start process := ∃ program, (Program.system ω hash config.toProgramConfig).start program ∧
    process = { program }
  step := Step hash config

variable {hash : UInt32 → Nat} {config : ProcessConfig σ R} {process after : Process ω σ R}

omit [DecidableEq ω] in
def warningLines (config : ProcessConfig σ R) (program : Program ω σ R) : List (List Char) :=
  if 0 < program.analysis.engine.fallbacks then
    [warningLine program.analysis.engine.fallbacks config.backendName]
  else []

def summaryLines (program : Program ω σ R) (figures : Figures) : List (List Char) :=
  [doneLine program.pipeline.capture.delivered program.pipeline.pool.processed
      program.output.alertCount figures,
    byTypeLine program.output.alertsByType, waitingLine figures]

def summaryOf (packets : List QueuedPacket) (alerts : List Alert) (figures : Figures) :
    List (List Char) :=
  [doneLine (.ofNat packets.length) (.ofNat packets.length) (.ofNat alerts.length) figures,
    byTypeLine fun type => .ofNat (ofTypeCount type alerts), waitingLine figures]

end Process

section Kept

variable {ω σ R : Type} [DecidableEq ω] [Arithmetic R] {hash : UInt32 → Nat}
  {config : ProgramConfig σ R} {program after : Program ω σ R}

theorem Output.Step.log_grows {quiet : Bool} {event : Event ω} {output after : Output ω}
    (step : Step quiet event output after) :
    ∃ printed, after.stdout.log = output.stdout.log ++ printed := by
  cases step with
  | countAndPrint worker alert stdout due loud prints => exact prints.log_grows
  | printPacket worker packet stdout idle prints => exact prints.log_grows
  | stdout stdout prints => exact prints.log_grows
  | _ => exact ⟨[], (List.append_nil _).symm⟩

theorem Output.Step.busy {quiet : Bool} {output after : Output ω}
    (step : Step quiet .inside output after) : ∃ worker, ¬ output.idle worker := by
  have counting {worker : ω} {pc : AlertPc} (due : output.alerting worker = pc)
      (inside : pc ≠ .outside) : ∃ worker, ¬ output.idle worker :=
    ⟨worker, fun idle => inside (due.symm.trans idle.1)⟩
  cases step with
  | countAll worker alert due => exact counting due nofun
  | countQuietly worker alert due silent => exact counting due nofun
  | countAndPrint worker alert stdout due loud prints => exact counting due nofun
  | stdout stdout prints =>
    obtain ⟨worker, writes⟩ := prints.busy
    exact ⟨worker, fun idle => writes idle.2⟩

namespace Program

theorem Step.log_grows (step : Step hash config program after) :
    ∃ printed, after.output.stdout.log = program.output.stdout.log ++ printed := by
  cases step with
  | trace worker batch packet rest output due prints => exact prints.log_grows
  | raise worker batch alert analysis output due acts prints => exact prints.log_grows
  | output output step => exact step.log_grows
  | _ => exact ⟨[], (List.append_nil _).symm⟩

structure Kept (program after : Program ω σ R) : Prop where
  main : after.pipeline.main = program.pipeline.main
  delivered : after.pipeline.capture.delivered = program.pipeline.capture.delivered
  processed : after.pipeline.pool.processed = program.pipeline.pool.processed
  analysis : after.analysis = program.analysis
  output : after.output = program.output

theorem pipeline_kept {pipeline : Pipeline ω}
    (runs : (Pipeline.system ω config.pipeline).Reachable program.pipeline)
    (finished : program.pipeline.main = .finished)
    (step : Pipeline.Step config.pipeline program.pipeline pipeline) :
    Kept program { program with pipeline } := by
  have exited := Pipeline.exited_of_finished runs finished
  have returned := (Pipeline.Joined.of_reachable runs).late (by simp [finished])
  have never {worker : ω} {pc : WorkerPc QueuedPacket}
      (due : program.pipeline.pool.workers worker = pc) (alive : pc ≠ .exited) : False :=
    alive (due.symm.trans (exited worker))
  cases step with
  | pool pool step =>
    cases step with
    | queue _ threads outer step => exact ⟨rfl, rfl, rfl, rfl, rfl⟩
    | popBatch worker threads loops step => exact (never loops nofun).elim
    | popped worker ticket batch threads pops step => exact (never pops nofun).elim
    | analyze worker ticket batch due => exact (never due nofun).elim
    | count worker size due => exact (never due nofun).elim
    | countBatch worker due => exact (never due nofun).elim
    | check worker due => exact (never due nofun).elim
  | capture capture step => exact absurd returned step.running
  | handle frame parsed capture pool handles pushes => exact absurd returned handles.running
  | handled result capture pool handled pushed => exact absurd returned handled.running
  | requestStop => exact ⟨rfl, rfl, rfl, rfl, rfl⟩
  | joinCapture joining returned => cases joining.symm.trans finished
  | shutdown pool closing step => cases closing.symm.trans finished
  | closed pool closing step => cases closing.symm.trans finished
  | joinWorkers joining exited => cases joining.symm.trans finished

/-- Once the workers are joined, nothing changes that `main` still prints. -/
theorem Step.kept (step : Step hash config program after)
    (reachable : (system ω hash config).Reachable program)
    (finished : program.pipeline.main = .finished) : Kept program after := by
  have exited := Pipeline.exited_of_finished (pipeline_reachable reachable) finished
  have attached := Attached.of_reachable reachable
  have outside := attached.callbacks_idle exited
  have never {worker : ω} {pc : CallbackPc} (due : program.callbacks worker = pc)
      (inside : pc ≠ .idle) : False := inside (due.symm.trans (outside worker))
  cases step with
  | pipeline pipeline step stays =>
    exact pipeline_kept (pipeline_reachable reachable) finished step
  | call worker ticket batch due idle => cases due.symm.trans (exited worker)
  | trace worker batch packet rest output due prints => exact (never due nofun).elim
  | analyze worker batch analysis due silent starts => exact (never due nofun).elim
  | act worker batch analysis due silent acts => exact (never due nofun).elim
  | raise worker batch alert analysis output due acts prints => exact (never due nofun).elim
  | returns worker ticket batch due analyzing away silent => exact (never due nofun).elim
  | output output step =>
    obtain ⟨worker, busy⟩ := step.busy
    refine absurd (attached.silent worker ?_) busy
    rw [outside worker]
    rfl

end Program

end Kept

namespace Process

variable {ω σ R : Type} [DecidableEq ω] [Fintype ω] [Arithmetic R] {hash : UInt32 → Nat}
  {config : ProcessConfig σ R} {process after : Process ω σ R}

theorem program_reachable (reachable : (system ω hash config).Reachable process) :
    (Program.system ω hash config.toProgramConfig).Reachable process.program := by
  refine reachable.map ?_ ?_
  · intro first start
    obtain ⟨program, begins, rfl⟩ := start
    exact begins
  · intro before after _ step
    cases step with
    | program program printed started runs step log => exact .inl step
    | _ => exact .inr rfl

def closing (config : ProcessConfig σ R) (program : Program ω σ R) (figures : Figures) :
    PrintPc → List (List Char)
  | .banner => []
  | .running => []
  | .byType => (summaryLines program figures).take 1
  | .waiting => (summaryLines program figures).take 2
  | .warning => summaryLines program figures
  | .exited => summaryLines program figures ++ warningLines config program

/-- What `main` has printed tells how far it is, and the program is through by then. -/
structure Told (hash : UInt32 → Nat) (config : ProcessConfig σ R) (process : Process ω σ R) :
    Prop where
  before : process.pc = .banner → process.stdout = [] ∧
    (Program.system ω hash config.toProgramConfig).start process.program
  joined : process.pc ≠ .banner → process.pc ≠ .running →
    process.program.pipeline.main = .finished
  after : process.pc ≠ .banner → ∃ figures : Figures, figures.Decimal ∧
    process.stdout = [banner ω config] ++ process.program.output.stdout.log ++
      closing config process.program figures process.pc

theorem Told.summary (told : Told hash config process) {pc : PrintPc} (due : process.pc = pc)
    (started : pc ≠ .banner) (past : pc ≠ .running) : process.program.pipeline.main = .finished ∧
      ∃ figures : Figures, figures.Decimal ∧
        process.stdout = [banner ω config] ++ process.program.output.stdout.log ++
          closing config process.program figures pc := by
  subst due
  exact ⟨told.joined started past, told.after started⟩

omit [DecidableEq ω] [Fintype ω] in
theorem closing_kept {program after : Program ω σ R} (kept : Program.Kept program after)
    (figures : Figures) (pc : PrintPc) :
    closing config after figures pc = closing config program figures pc := by
  have summary : summaryLines after figures = summaryLines program figures := by
    unfold summaryLines
    rw [kept.delivered, kept.processed, kept.output]
  have warning : warningLines config after = warningLines config program := by
    unfold warningLines
    rw [kept.analysis]
  cases pc <;> simp only [closing, summary, warning]

theorem Told.step (told : Told hash config process)
    (reachable : (system ω hash config).Reachable process) (step : Step hash config process after) :
    Told hash config after := by
  cases step with
  | banner first =>
    obtain ⟨nothing, begins⟩ := told.before first
    have log : process.program.output.stdout.log = [] := by
      obtain ⟨pipeline, -, same⟩ := begins
      rw [same]
    refine ⟨nofun, fun _ other => absurd rfl other, fun _ => ?_⟩
    refine ⟨⟨[], [], [], [], [], []⟩, ⟨nofun, nofun, nofun, nofun, nofun, nofun⟩, ?_⟩
    dsimp only
    rw [nothing, log]
    rfl
  | program program printed started runs step log =>
    obtain ⟨figures, decimal, stdout⟩ := told.after started
    refine ⟨fun first => absurd first started, fun _ later => ?_, fun _ => ⟨figures, decimal, ?_⟩⟩
    · have finished := told.joined started later
      exact (step.kept (program_reachable reachable) finished).main.trans finished
    · dsimp only
      by_cases running : process.pc = .running
      · rw [stdout, log, running, closing, closing, List.append_nil, List.append_nil,
          List.append_assoc]
      · have kept := step.kept (program_reachable reachable) (told.joined started running)
        rw [kept.output, List.self_eq_append_right] at log
        rw [closing_kept kept, kept.output, log, List.append_nil]
        exact stdout
  | done figures decimal running joined =>
    obtain ⟨earlier, -, stdout⟩ := told.after (by rw [running]; exact nofun)
    refine ⟨nofun, fun _ _ => joined, fun _ => ⟨figures, decimal, ?_⟩⟩
    dsimp only
    rw [stdout, running, closing, List.append_nil]
    rfl
  | byType due =>
    obtain ⟨joined, figures, decimal, stdout⟩ := told.summary due nofun nofun
    refine ⟨nofun, fun _ _ => joined, fun _ => ⟨figures, decimal, ?_⟩⟩
    dsimp only
    rw [stdout, List.append_assoc]
    rfl
  | waiting figures decimal due =>
    obtain ⟨joined, earlier, decimals, stdout⟩ := told.summary due nofun nofun
    let all : Figures :=
      { earlier with
        blockedPercent := figures.blockedPercent
        captureSeconds := figures.captureSeconds
        waitingPercent := figures.waitingPercent }
    refine ⟨nofun, fun _ _ => joined, fun _ => ⟨all, ?_, ?_⟩⟩
    · exact ⟨decimals.seconds, decimals.packetsPerSecond, decimals.averageBatch,
        decimal.blockedPercent, decimal.captureSeconds, decimal.waitingPercent⟩
    · dsimp only
      rw [stdout, List.append_assoc]
      rfl
  | warning due failed =>
    obtain ⟨joined, figures, decimal, stdout⟩ := told.summary due nofun nofun
    refine ⟨nofun, fun _ _ => joined, fun _ => ⟨figures, decimal, ?_⟩⟩
    dsimp only
    rw [stdout, closing, closing, warningLines, if_pos failed, List.append_assoc,
      List.append_assoc]
  | noWarning due worked =>
    obtain ⟨joined, figures, decimal, stdout⟩ := told.summary due nofun nofun
    refine ⟨nofun, fun _ _ => joined, fun _ => ⟨figures, decimal, ?_⟩⟩
    dsimp only
    rw [stdout, closing, closing, warningLines, if_neg worked, List.append_nil]

theorem Told.of_reachable (reachable : (system ω hash config).Reachable process) :
    Told hash config process := by
  refine TransitionSystem.Reachable.invariant ?_ ?_ reachable
  · intro first start
    obtain ⟨program, begins, rfl⟩ := start
    exact ⟨fun _ => ⟨rfl, begins⟩, fun other => absurd rfl other, fun other => absurd rfl other⟩
  · exact fun before after earlier step told => told.step earlier step

theorem stdout_of_exited (reachable : (system ω hash config).Reachable process)
    (exited : process.pc = .exited) : process.program.pipeline.main = .finished ∧
      ∃ figures : Figures, figures.Decimal ∧
        process.stdout = [banner ω config] ++ process.program.output.stdout.log ++
          (summaryLines process.program figures ++ warningLines config process.program) :=
  (Told.of_reachable reachable).summary exited nofun nofun

/-- Whatever the program can do, it does so while `main` waits. -/
theorem running_of_program {program : Program ω σ R}
    (reachable : (Program.system ω hash config.toProgramConfig).Reachable program) :
    (system ω hash config).Reachable
      ⟨program, .running, [banner ω config] ++ program.output.stdout.log⟩ := by
  refine TransitionSystem.Reachable.invariant (P := fun program : Program ω σ R =>
    (system ω hash config).Reachable
      ⟨program, .running, [banner ω config] ++ program.output.stdout.log⟩) ?_ ?_ reachable
  · intro first begins
    have start : (system ω hash config).Reachable { program := first } :=
      TransitionSystem.Reachable.first ⟨first, begins, rfl⟩
    obtain ⟨pipeline, -, rfl⟩ := begins
    exact start.next (.banner rfl)
  · intro before after _ step running
    obtain ⟨printed, log⟩ := Program.Step.log_grows step
    have next := running.next (.program after printed nofun nofun step log)
    rw [log, ← List.append_assoc]
    exact next

theorem summary_of_program {program : Program ω σ R}
    (reachable : (Program.system ω hash config.toProgramConfig).Reachable program)
    (finished : program.pipeline.main = .finished) {figures : Figures} (decimal : figures.Decimal)
    {pc : PrintPc} (past : pc ≠ .banner) : (system ω hash config).Reachable
      ⟨program, pc, [banner ω config] ++ program.output.stdout.log ++
        closing config program figures pc⟩ := by
  have printed {now next : PrintPc} {line : List Char}
      (more : closing config program figures next = closing config program figures now ++ [line])
      (prints : (system ω hash config).Reachable ⟨program, next,
        [banner ω config] ++ program.output.stdout.log ++ closing config program figures now ++
          [line]⟩) : (system ω hash config).Reachable ⟨program, next,
      [banner ω config] ++ program.output.stdout.log ++ closing config program figures next⟩ := by
    rw [more, ← List.append_assoc]
    exact prints
  have running := running_of_program reachable
  have done := running.next (.done figures decimal rfl finished)
  have byType :=
    @printed .byType .waiting _ rfl (done.next (.byType rfl))
  have waiting :=
    @printed .waiting .warning _ rfl (byType.next (.waiting figures decimal rfl))
  cases pc with
  | banner => exact absurd rfl past
  | running =>
    rw [closing, List.append_nil]
    exact running
  | byType => exact done
  | waiting => exact byType
  | warning => exact waiting
  | exited =>
    rw [closing, ← List.append_assoc]
    by_cases failed : 0 < program.analysis.engine.fallbacks
    · rw [warningLines, if_pos failed]
      exact waiting.next (.warning rfl failed)
    · rw [warningLines, if_neg failed, List.append_nil]
      exact waiting.next (.noWarning rfl failed)

theorem reachable_iff : (system ω hash config).Reachable process ↔
    (Program.system ω hash config.toProgramConfig).Reachable process.program ∧
      Told hash config process := by
  constructor
  · exact fun reachable => ⟨program_reachable reachable, .of_reachable reachable⟩
  · rintro ⟨reachable, told⟩
    obtain ⟨program, pc, stdout⟩ := process
    by_cases first : pc = .banner
    · subst first
      obtain ⟨nothing, begins⟩ := told.before rfl
      dsimp only at nothing
      subst nothing
      exact TransitionSystem.Reachable.first ⟨program, begins, rfl⟩
    · obtain ⟨figures, decimal, printed⟩ := told.after first
      dsimp only at printed
      rw [printed]
      by_cases waits : pc = .running
      · rw [waits, closing, List.append_nil]
        exact running_of_program reachable
      · exact summary_of_program reachable (told.joined first waits) decimal first

variable [Nonempty ω]

theorem summaryLines_eq {program : Program ω σ R}
    (reachable : (Program.system ω hash config.toProgramConfig).Reachable program)
    (finished : program.pipeline.main = .finished) (figures : Figures) :
    summaryLines program figures =
      summaryOf (Capture.accepted config.pipeline.parse program.pipeline.capture.frames)
        program.output.raised figures := by
  have runs := Program.pipeline_reachable reachable
  have returned := (Pipeline.Joined.of_reachable runs).late (by simp [finished])
  have exited := Pipeline.exited_of_finished runs finished
  have done := Program.Finished.of_reachable reachable finished
  obtain ⟨alerts, types, -⟩ :=
    Output.output_of_idle (Program.output_reachable reachable) done.silent
  obtain ⟨-, delivered⟩ := Pipeline.at_return runs returned
  have processed : program.pipeline.pool.processed = .ofNat
      (Capture.accepted config.pipeline.parse program.pipeline.capture.frames).length := by
    apply UInt64.toNat_inj.mp
    rw [Pipeline.processed_of_exited runs exited, UInt64.toNat_ofNat']
  rw [summaryLines, delivered, processed, alerts, funext types]
  rfl

section Eicar

theorem eicar_exits (ω : Type) [DecidableEq ω] [Fintype ω] (hash : UInt32 → Nat)
    (config : ProcessConfig σ R) (captures : config.pipeline = eicarPipeline) :
    ∃ process, (system ω hash config).Reachable process ∧ process.pc = .exited ∧
      process.program.pipeline.capture.frames = eicarSources.map eicarFrame := by
  obtain ⟨program, reachable, finished, frames⟩ :=
    Program.eicar_finishes ω hash config.toProgramConfig captures
  have decimal : (⟨"0.001".toList, "2000".toList, "1.0".toList, "0".toList, "0.001".toList,
      "50".toList⟩ : Figures).Decimal := by
    constructor <;> decide
  have exited : (system ω hash config).Reachable ⟨program, .exited, _⟩ :=
    summary_of_program reachable finished decimal nofun
  exact ⟨_, exited, rfl, frames⟩

end Eicar

end Process

end NetSentinel
