import NetSentinel.Analysis.Fallback

namespace NetSentinel

theorem FlowTracker.observe_types (hash : UInt32 → Nat) (tracker : FlowTracker) (call : ObserveCall)
    {alert : Alert} (raised : alert ∈ (tracker.observe hash call).2) :
    alert.type = .portScan ∨ alert.type = .synFlood := by
  unfold FlowTracker.observe at raised
  dsimp only at raised
  split at raised
  · rcases List.mem_append.mp raised with scan | flood
    · exact .inl (PerIpState.observePortScan_type _ _ _ scan)
    · exact .inr (PerIpState.observeSynFlood_type _ _ _ flood)
  · cases raised

theorem signatureAlerts_type {signatures : SignatureDatabase} {packet : QueuedPacket} {alert : Alert}
    (raised : alert ∈ signatureAlerts signatures packet) : alert.type = .signatureMatch := by
  unfold signatureAlerts at raised
  split at raised
  · rw [List.mem_singleton.mp raised]
    rfl
  · cases raised

variable {σ R : Type} [Arithmetic R]

theorem entropyAlertsFor_type {config : AnalysisConfig R} {packet : QueuedPacket} {entropy : R}
    {alert : Alert} (raised : alert ∈ entropyAlertsFor config packet entropy) :
    alert.type = .highEntropyPayload := by
  unfold entropyAlertsFor at raised
  split at raised
  · rw [List.mem_singleton.mp raised]
    rfl
  · cases raised

theorem entropyRule_append (config : AnalysisConfig R) (packets more : List QueuedPacket) :
    entropyRule config (packets ++ more) = entropyRule config packets ++ entropyRule config more := by
  simp [entropyRule, computedAlerts, eligiblePackets]

theorem entropyRule_type {config : AnalysisConfig R} {packets : List QueuedPacket} {alert : Alert}
    (raised : alert ∈ entropyRule config packets) : alert.type = .highEntropyPayload := by
  obtain ⟨packet, -, raised⟩ := List.mem_flatMap.mp raised
  exact entropyAlertsFor_type raised

section PacketRules

variable (hash : UInt32 → Nat) (signatures : SignatureDatabase)

theorem packetRules_append (tracker : FlowTracker) (batch more : List ObserveCall) :
    packetRules hash signatures tracker (batch ++ more) =
      ((packetRules hash signatures (packetRules hash signatures tracker batch).1 more).1,
        (packetRules hash signatures tracker batch).2 ++
          (packetRules hash signatures (packetRules hash signatures tracker batch).1 more).2) := by
  induction batch generalizing tracker with
  | nil => rfl
  | cons call batch ih => simp [packetRules, ih]

theorem packetRules_type {tracker : FlowTracker} {batch : List ObserveCall} {alert : Alert}
    (raised : alert ∈ (packetRules hash signatures tracker batch).2) :
    alert.type ≠ .highEntropyPayload := by
  induction batch generalizing tracker with
  | nil => cases raised
  | cons call batch ih =>
    rcases List.mem_append.mp raised with first | rest
    · rcases List.mem_append.mp first with signature | flow
      · rw [signatureAlerts_type signature]
        decide
      · rcases tracker.observe_types hash call flow with scan | flood
        · rw [scan]
          decide
        · rw [flood]
          decide
    · exact ih rest

end PacketRules

def ofType (type : AnomalyType) (alerts : List Alert) : List Alert :=
  alerts.filter fun alert => alert.type = type

theorem ofType_append (type : AnomalyType) (alerts more : List Alert) :
    ofType type (alerts ++ more) = ofType type alerts ++ ofType type more :=
  List.filter_append alerts more

theorem ofType_eq_nil {type : AnomalyType} {alerts : List Alert}
    (none : ∀ alert ∈ alerts, alert.type ≠ type) : ofType type alerts = [] := by
  simpa [ofType] using none

/-- Entropy alerts come out at the end of their batch, the others with their packets, and no type is
    raised in both places. -/
theorem batchesAlerts_ofType (hash : UInt32 → Nat) (config : AnalysisConfig R)
    (signatures : SignatureDatabase) (tracker : FlowTracker) (batches : List (List ObserveCall))
    (type : AnomalyType) :
    ofType type (batchesAlerts hash config signatures tracker batches) =
      ofType type (packetRules hash signatures tracker batches.flatten).2 ++
        ofType type (entropyRule config (batches.flatten.map ObserveCall.packet)) := by
  induction batches generalizing tracker with
  | nil => rfl
  | cons batch batches ih =>
    rw [batchesAlerts, ofType_append, ih, batchAlerts, ofType_append, List.flatten_cons,
      packetRules_append, List.map_append, entropyRule_append, ofType_append, ofType_append]
    by_cases entropy : type = .highEntropyPayload
    · have quiet : ∀ (tracker : FlowTracker) (batch : List ObserveCall),
          ofType type (packetRules hash signatures tracker batch).2 = [] := by
        intro tracker batch
        rw [entropy]
        exact ofType_eq_nil fun alert raised => packetRules_type hash signatures raised
      rw [quiet, quiet]
      rfl
    · have quiet : ∀ packets : List QueuedPacket, ofType type (entropyRule config packets) = [] := by
        intro packets
        refine ofType_eq_nil fun alert raised same => ?_
        rw [entropyRule_type raised] at same
        exact entropy same.symm
      rw [quiet, quiet]
      simp

namespace AnalysisEngine

theorem batching_keeps_verdicts (hash : UInt32 → Nat) (engine : AnalysisEngine σ R)
    (behaves : engine.backend.FailsOrAgrees) {left right : List (List ObserveCall)}
    (same : left.flatten = right.flatten) :
    ∃ one other, engine.analyzeBatches hash left = some one ∧
      engine.analyzeBatches hash right = some other ∧
      ∀ type, ofType type one.2 = ofType type other.2 := by
  obtain ⟨one, run, -⟩ := analyzeBatches_eq hash engine behaves left
  obtain ⟨other, rerun, -⟩ := analyzeBatches_eq hash engine behaves right
  refine ⟨_, _, run, rerun, fun type => ?_⟩
  dsimp only
  rw [batchesAlerts_ofType, batchesAlerts_ofType, same]

end AnalysisEngine

end NetSentinel
