import NetSentinel.Analysis.AnalysisEngine
import NetSentinel.Analysis.RealEntropy

namespace NetSentinel

variable {σ R : Type} [Arithmetic R]

/-- The call fails to start, its `wait` fails, or the number of results is wrong. -/
def answerFails (packets : List QueuedPacket) : Option (PendingEntropy R) → Bool
  | none => true
  | some pending => !(pending.wait []).1 || (pending.wait []).2.length != packets.length

theorem waitOrFallBack_of_answer {packets : List QueuedPacket} {pending : Option (PendingEntropy R)}
    (answer : EntropyAnswer packets pending) :
    waitOrFallBack pending packets = (answerFails packets pending, cpuEntropies packets) := by
  cases answer with
  | notStarted => rfl
  | waitFails pending fails => simp [waitOrFallBack, answerFails, fails, cpuEntropyBackend_compute]
  | wrongCount pending count =>
    obtain ⟨succeeds, differs⟩ := count []
    simp [waitOrFallBack, answerFails, succeeds, differs, cpuEntropyBackend_compute]
  | computed pending agrees =>
    simp [waitOrFallBack, answerFails, agrees, cpuEntropies]

def computedAlerts (config : AnalysisConfig R) (eligible : List QueuedPacket) : List Alert :=
  eligible.flatMap fun packet => entropyAlertsFor config packet (shannonEntropy packet.payload)

theorem entropyAlerts_of_computed (config : AnalysisConfig R) (before : List R)
    (eligible : List QueuedPacket) :
    entropyAlerts config (before ++ cpuEntropies eligible) before.length eligible =
      some (computedAlerts config eligible) := by
  induction eligible generalizing before with
  | nil => rfl
  | cons packet eligible ih =>
    have found : (before ++ cpuEntropies (packet :: eligible))[before.length]? =
        some (shannonEntropy packet.payload : R) := by
      simp [cpuEntropies]
    have rest := ih (before ++ [shannonEntropy packet.payload])
    rw [List.length_append, List.length_singleton, List.append_assoc] at rest
    have whole : before ++ cpuEntropies (packet :: eligible) =
        before ++ ([shannonEntropy packet.payload] ++ cpuEntropies eligible : List R) := rfl
    rw [← whole] at rest
    simp [entropyAlerts, found, rest, computedAlerts]

def entropyRule (config : AnalysisConfig R) (packets : List QueuedPacket) : List Alert :=
  computedAlerts config (eligiblePackets config packets)

def batchAlerts (hash : UInt32 → Nat) (config : AnalysisConfig R) (signatures : SignatureDatabase)
    (tracker : FlowTracker) (batch : List ObserveCall) : List Alert :=
  (packetRules hash signatures tracker batch).2 ++
    entropyRule config (batch.map ObserveCall.packet)

def batchesAlerts (hash : UInt32 → Nat) (config : AnalysisConfig R)
    (signatures : SignatureDatabase) : FlowTracker → List (List ObserveCall) → List Alert
  | _, [] => []
  | tracker, batch :: batches =>
    batchAlerts hash config signatures tracker batch ++
      batchesAlerts hash config signatures (packetRules hash signatures tracker batch).1 batches

def failedBatches (config : AnalysisConfig R) (backend : EntropyBackend σ R) :
    σ → List (List ObserveCall) → Nat
  | _, [] => 0
  | state, batch :: batches =>
    let eligible := eligiblePackets config (batch.map ObserveCall.packet)
    if eligible = [] then failedBatches config backend state batches
    else
      let started := backend.start state eligible
      (if answerFails eligible started.2 then 1 else 0) +
        failedBatches config backend started.1 batches

namespace AnalysisEngine

variable (hash : UInt32 → Nat)

def afterBatch (engine : AnalysisEngine σ R) (batch : List ObserveCall) : AnalysisEngine σ R :=
  let eligible := eligiblePackets engine.config (batch.map ObserveCall.packet)
  let ruled := packetRules hash engine.signatures engine.flowTracker batch
  if eligible = [] then { engine with flowTracker := ruled.1 }
  else
    let started := engine.backend.start engine.backendState eligible
    { engine with
      backendState := started.1
      flowTracker := ruled.1
      fallbacks := engine.fallbacks + if answerFails eligible started.2 then 1 else 0 }

section AfterBatch

variable (engine : AnalysisEngine σ R) (batch : List ObserveCall)

@[simp] theorem afterBatch_config : (engine.afterBatch hash batch).config = engine.config := by
  unfold afterBatch
  dsimp only
  split <;> rfl

@[simp] theorem afterBatch_backend : (engine.afterBatch hash batch).backend = engine.backend := by
  unfold afterBatch
  dsimp only
  split <;> rfl

@[simp] theorem afterBatch_signatures :
    (engine.afterBatch hash batch).signatures = engine.signatures := by
  unfold afterBatch
  dsimp only
  split <;> rfl

@[simp] theorem afterBatch_flowTracker : (engine.afterBatch hash batch).flowTracker =
    (packetRules hash engine.signatures engine.flowTracker batch).1 := by
  unfold afterBatch
  dsimp only
  split <;> rfl

theorem afterBatch_fallbacks (batches : List (List ObserveCall)) :
    (engine.afterBatch hash batch).fallbacks + UInt64.ofNat (failedBatches engine.config
        engine.backend (engine.afterBatch hash batch).backendState batches) =
      engine.fallbacks + UInt64.ofNat (failedBatches engine.config engine.backend
        engine.backendState (batch :: batches)) := by
  rw [failedBatches]
  unfold afterBatch
  dsimp only
  split
  · rfl
  · rw [UInt64.ofNat_add, ← UInt64.add_assoc]
    split <;> rfl

theorem analyzeBatch_eq (behaves : engine.backend.FailsOrAgrees) :
    engine.analyzeBatch hash batch = some (engine.afterBatch hash batch,
      batchAlerts hash engine.config engine.signatures engine.flowTracker batch) := by
  unfold analyzeBatch startEntropy afterBatch batchAlerts
  dsimp only
  by_cases none : eligiblePackets engine.config (batch.map ObserveCall.packet) = []
  · simp [none, entropyRule, computedAlerts]
  · have answer := waitOrFallBack_of_answer (behaves engine.backendState
      (eligiblePackets engine.config (batch.map ObserveCall.packet)))
    have alerts := entropyAlerts_of_computed engine.config []
      (eligiblePackets engine.config (batch.map ObserveCall.packet))
    rw [List.nil_append, List.length_nil] at alerts
    simp only [none, if_false, answer, alerts]
    rfl

end AfterBatch

/-- Alerts and fallbacks of a run of batches with a backend that fails or agrees. -/
theorem analyzeBatches_eq (engine : AnalysisEngine σ R) (behaves : engine.backend.FailsOrAgrees)
    (batches : List (List ObserveCall)) :
    ∃ after, engine.analyzeBatches hash batches = some (after,
        batchesAlerts hash engine.config engine.signatures engine.flowTracker batches) ∧
      after.fallbacks = engine.fallbacks + UInt64.ofNat
        (failedBatches engine.config engine.backend engine.backendState batches) := by
  induction batches generalizing engine with
  | nil => exact ⟨engine, rfl, (UInt64.add_zero _).symm⟩
  | cons batch batches ih =>
    obtain ⟨after, run, fallbacks⟩ := ih (engine.afterBatch hash batch) (by simpa using behaves)
    refine ⟨after, ?_, ?_⟩
    · rw [analyzeBatches, analyzeBatch_eq hash engine batch behaves]
      simp [run, batchesAlerts]
    · rw [fallbacks, afterBatch_config, afterBatch_backend, afterBatch_fallbacks]

/-- A backend that fails or agrees changes no alert, and what it changes is the count of the
    batches it failed on, in 64 bits. -/
theorem backend_failures_are_invisible (config : AnalysisConfig R) (backend : EntropyBackend σ R)
    (state : σ) (behaves : backend.FailsOrAgrees) (batches : List (List ObserveCall)) :
    ∃ engine reference alerts,
      (new config backend state).analyzeBatches hash batches = some (engine, alerts) ∧
      (new config cpuEntropyBackend ()).analyzeBatches hash batches = some (reference, alerts) ∧
      engine.fallbacks.toNat = failedBatches config backend state batches % 2 ^ 64 := by
  obtain ⟨engine, run, fallbacks⟩ := analyzeBatches_eq hash (new config backend state) behaves batches
  obtain ⟨reference, cpuRun, -⟩ := analyzeBatches_eq hash (new config cpuEntropyBackend ())
    cpuEntropyBackend_failsOrAgrees batches
  refine ⟨engine, reference, _, run, cpuRun, ?_⟩
  rw [fallbacks, show (new config backend state).fallbacks = 0 from rfl, UInt64.zero_add,
    UInt64.toNat_ofNat']
  rfl

def deadBackend : EntropyBackend Unit ℝ where
  start _ _ := ((), none)

theorem deadBackend_failsOrAgrees : deadBackend.FailsOrAgrees := fun _ _ => .notStarted

def longPacket : ObserveCall where
  packet := { payload := List.replicate 32 0 }

theorem failedBatches_replicate (count : Nat) :
    failedBatches {} deadBackend () (List.replicate count [longPacket]) = count := by
  induction count with
  | zero => rfl
  | succ count ih =>
    have eligible : eligiblePackets ({} : AnalysisConfig ℝ) ([longPacket].map ObserveCall.packet) =
        [longPacket.packet] := rfl
    rw [List.replicate_succ, failedBatches, eligible]
    dsimp only
    rw [if_neg (List.cons_ne_nil _ _), ih]
    exact Nat.add_comm _ _

theorem dead_backend_is_invisible : ∃ (engine : AnalysisEngine Unit ℝ)
    (reference : AnalysisEngine Unit ℝ) (alerts : List Alert),
    (new {} deadBackend ()).analyzeBatches UInt32.toNat [[longPacket]] = some (engine, alerts) ∧
      (new {} cpuEntropyBackend ()).analyzeBatches UInt32.toNat [[longPacket]] =
        some (reference, alerts) ∧
      engine.fallbacks.toNat = 1 := by
  obtain ⟨engine, reference, alerts, run, cpuRun, fallbacks⟩ := backend_failures_are_invisible
    UInt32.toNat {} deadBackend () deadBackend_failsOrAgrees [[longPacket]]
  refine ⟨engine, reference, alerts, run, cpuRun, ?_⟩
  rw [fallbacks, show [[longPacket]] = List.replicate 1 [longPacket] from rfl,
    failedBatches_replicate, Nat.mod_eq_of_lt (by decide)]

/-- The 64 bits of `fallbacks_` do not hold the number of failures of an endless enough run. -/
theorem fallback_count_wraps : ∃ (batches : List (List ObserveCall)) (engine : AnalysisEngine Unit ℝ)
    (alerts : List Alert),
    (new {} deadBackend ()).analyzeBatches UInt32.toNat batches = some (engine, alerts) ∧
      engine.fallbacks.toNat ≠ failedBatches {} deadBackend () batches := by
  obtain ⟨engine, run, fallbacks⟩ := analyzeBatches_eq UInt32.toNat (new {} deadBackend ())
    deadBackend_failsOrAgrees (List.replicate (2 ^ 64) [longPacket])
  refine ⟨_, engine, _, run, ?_⟩
  rw [fallbacks]
  simp only [new, failedBatches_replicate]
  decide

end AnalysisEngine

end NetSentinel
