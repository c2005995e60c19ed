import NetSentinel.Analysis.Linearized

namespace NetSentinel

open Family

variable {ω σ R : Type} [Arithmetic R]

def fallsBack (eligible : List QueuedPacket) (pending : Option (PendingEntropy R)) : Nat :=
  if eligible = [] then 0 else if answerFails eligible pending then 1 else 0

theorem waitOrFallBack_fails (pending : Option (PendingEntropy R)) (eligible : List QueuedPacket) :
    (waitOrFallBack pending eligible).1 = answerFails eligible pending := by
  cases pending with
  | none => rfl
  | some pending =>
    by_cases succeeds : (pending.wait []).1
    · by_cases length : (pending.wait []).2.length = eligible.length
      · simp [waitOrFallBack, answerFails, succeeds, length]
      · simp [waitOrFallBack, answerFails, succeeds, length]
    · simp [waitOrFallBack, answerFails, succeeds]

namespace EntropyBackend

variable (config : AnalysisConfig R) (backend : EntropyBackend σ R)

/-- The backend is not called for a batch without an eligible packet. -/
def startBatch (state : σ) (batch : List QueuedPacket) : σ × Option (PendingEntropy R) :=
  if eligiblePackets config batch = [] then (state, none)
  else backend.start state (eligiblePackets config batch)

def afterBatches (first : σ) (batches : List (List QueuedPacket)) : σ :=
  batches.foldl (fun state batch => (backend.startBatch config state batch).1) first

theorem afterBatches_snoc (first : σ) (batches : List (List QueuedPacket))
    (batch : List QueuedPacket) : backend.afterBatches config first (batches ++ [batch]) =
      (backend.startBatch config (backend.afterBatches config first batches) batch).1 := by
  rw [afterBatches, List.foldl_append]
  rfl

end EntropyBackend

/-- The batches as calls of the tracker, whose iteration order is nothing to the backend. -/
def callsOf (batch : List QueuedPacket) : List ObserveCall := batch.map fun packet => ⟨packet, []⟩

theorem callsOf_packets (batch : List QueuedPacket) :
    (callsOf batch).map ObserveCall.packet = batch := by
  rw [callsOf, List.map_map]
  exact List.map_id batch

section Failed

variable (config : AnalysisConfig R) (backend : EntropyBackend σ R)

theorem failedBatches_cons (first : σ) (batch : List QueuedPacket)
    (batches : List (List ObserveCall)) :
    failedBatches config backend first (callsOf batch :: batches) =
      fallsBack (eligiblePackets config batch) (backend.startBatch config first batch).2 +
        failedBatches config backend (backend.startBatch config first batch).1 batches := by
  rw [failedBatches, callsOf_packets, EntropyBackend.startBatch, fallsBack]
  by_cases none : eligiblePackets config batch = []
  · simp only [none, if_true, Nat.zero_add]
  · simp only [none, if_false]

theorem failedBatches_snoc (first : σ) (batches : List (List QueuedPacket))
    (batch : List QueuedPacket) :
    failedBatches config backend first ((batches ++ [batch]).map callsOf) =
      failedBatches config backend first (batches.map callsOf) +
        fallsBack (eligiblePackets config batch)
          (backend.startBatch config (backend.afterBatches config first batches) batch).2 := by
  induction batches generalizing first with
  | nil => exact (failedBatches_cons config backend first batch []).trans (Nat.add_comm _ _)
  | cons head batches ih =>
    rw [List.cons_append, List.map_cons, List.map_cons, failedBatches_cons, failedBatches_cons, ih,
      Nat.add_assoc]
    rfl

end Failed

def AnalyzePc.failing : AnalyzePc R → Nat
  | .outside => 0
  | .packets eligible pending _ => fallsBack eligible pending
  | .observing eligible pending _ _ => fallsBack eligible pending
  | .sinking eligible pending _ _ => fallsBack eligible pending
  | .entropies _ _ _ => 0

namespace AnalysisWorkers

variable [DecidableEq ω] [Fintype ω] {hash : UInt32 → Nat} {config : AnalysisConfig R}
  {backend : EntropyBackend σ R} {first : σ} {state after : AnalysisWorkers ω σ R}

/-- The backend has been called batch by batch, and `fallbacks_` is the number of its failures but
    for those that the workers have not come across yet. -/
structure FallbacksCounted (config : AnalysisConfig R) (backend : EntropyBackend σ R) (first : σ)
    (state : AnalysisWorkers ω σ R) : Prop where
  sameConfig : state.engine.config = config
  sameBackend : state.engine.backend = backend
  called : state.engine.backendState = backend.afterBatches config first state.batches
  counted : ∃ counted, state.engine.fallbacks = UInt64.ofNat counted ∧
    counted + ∑ worker, (state.pcs worker).failing =
      failedBatches config backend first (state.batches.map callsOf)

theorem FallbacksCounted.step (before : FallbacksCounted config backend first state)
    (step : Step hash state after) : FallbacksCounted config backend first after := by
  obtain ⟨sameConfig, sameBackend, called, counted, stored, total⟩ := before
  have still {worker : ω} {pc : AnalyzePc R} (same : pc.failing = (state.pcs worker).failing) :
      counted + ∑ other, (Function.update state.pcs worker pc other).failing =
        failedBatches config backend first (state.batches.map callsOf) := by
    rw [sum_update_same AnalyzePc.failing state.pcs same]
    exact total
  cases step with
  | start worker batch eligible started outside filtered starts =>
    have same : started = backend.startBatch config
        (backend.afterBatches config first state.batches) batch := by
      rw [← starts, ← filtered, AnalysisEngine.startEntropy, EntropyBackend.startBatch, sameConfig,
        sameBackend, called]
    refine ⟨sameConfig, sameBackend, ?_, counted, stored, ?_⟩
    · rw [EntropyBackend.afterBatches_snoc, same]
    · have moved := sum_update AnalyzePc.failing state.pcs worker (.packets eligible started.2 batch)
      rw [outside] at moved
      have fresh : (AnalyzePc.packets eligible started.2 batch).failing =
          fallsBack (eligiblePackets config batch) (backend.startBatch config
            (backend.afterBatches config first state.batches) batch).2 := by
        rw [← same, ← sameConfig, filtered]
        rfl
      rw [fresh] at moved
      have nothing : (AnalyzePc.outside : AnalyzePc R).failing = 0 := rfl
      rw [failedBatches_snoc]
      dsimp only
      omega
  | signature worker eligible pending packet rest due =>
    exact ⟨sameConfig, sameBackend, called, counted, stored, still (by rw [due]; rfl)⟩
  | observe worker eligible pending packet rest order observed due observes =>
    exact ⟨sameConfig, sameBackend, called, counted, stored, still (by rw [due]; rfl)⟩
  | sink worker eligible pending alert alerts rest due =>
    exact ⟨sameConfig, sameBackend, called, counted, stored, still (by rw [due]; rfl)⟩
  | nextPacket worker eligible pending rest due =>
    exact ⟨sameConfig, sameBackend, called, counted, stored, still (by rw [due]; rfl)⟩
  | returnEarly worker pending due =>
    exact ⟨sameConfig, sameBackend, called, counted, stored, still (by rw [due]; rfl)⟩
  | wait worker eligible pending waited due nonempty waits =>
    have moved := sum_update AnalyzePc.failing state.pcs worker (.entropies waited.2 0 eligible)
    rw [due] at moved
    have fails : (if waited.1 then 1 else 0) = fallsBack eligible pending := by
      rw [← waits, waitOrFallBack_fails, fallsBack, if_neg nonempty]
    refine ⟨sameConfig, sameBackend, called, counted + fallsBack eligible pending, ?_, ?_⟩
    · rw [UInt64.ofNat_add, ← fails, ← stored]
      dsimp only
      split <;> rfl
    · have spent : (AnalyzePc.packets eligible pending []).failing =
          fallsBack eligible pending := rfl
      have nothing : (AnalyzePc.entropies waited.2 0 eligible).failing = 0 := rfl
      dsimp only
      omega
  | entropy worker values i packet rest entropy due found =>
    exact ⟨sameConfig, sameBackend, called, counted, stored, still (by rw [due]; rfl)⟩
  | done worker values i due =>
    exact ⟨sameConfig, sameBackend, called, counted, stored, still (by rw [due]; rfl)⟩

theorem FallbacksCounted.of_reachable
    (reachable : (systemWith hash ω config backend first).Reachable state) :
    FallbacksCounted config backend first state := by
  refine TransitionSystem.Reachable.invariant ?_ ?_ reachable
  · intro initial start
    rw [show initial = _ from start]
    exact ⟨rfl, rfl, rfl, 0, rfl, by simp [AnalyzePc.failing, failedBatches]⟩
  · exact fun before after _ step counted => counted.step step

/-- In every interleaving the count is that of the calls of the backend, one after the other. -/
theorem fallbacks_of_finished (reachable : (systemWith hash ω config backend first).Reachable state)
    (finished : ∀ worker, state.pcs worker = .outside) :
    state.engine.fallbacks =
      UInt64.ofNat (failedBatches config backend first (state.batches.map callsOf)) := by
  obtain ⟨-, -, -, counted, stored, total⟩ := FallbacksCounted.of_reachable reachable
  rw [sum_of_idle AnalyzePc.failing finished rfl, Nat.add_zero] at total
  rw [stored, total]

end AnalysisWorkers

end NetSentinel
