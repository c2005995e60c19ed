import NetSentinel.Main.Termination

namespace NetSentinel

section Rules

variable {R : Type} [Arithmetic R]

/-- The rule that `analyze_batch` applies to the entropy of a packet. -/
def highEntropy (config : AnalysisConfig R) (packet : QueuedPacket) : Bool :=
  config.entropyMinPayloadBytes ≤ packet.payload.length ∧
    Arithmetic.atLeast (shannonEntropy packet.payload) config.entropyThreshold

theorem packetAlerts_signatures (config : AnalysisConfig R) (signatures : SignatureDatabase)
    (packet : QueuedPacket) :
    (packetAlerts config signatures packet).countP (fun alert => alert.type = .signatureMatch) =
      if signatures.matchesPayload packet.payload then 1 else 0 := by
  have listed := SignatureDatabase.matchesPayload_iff signatures packet.payload
  have entropy : ∀ (rule : Prop) [Decidable rule],
      (if rule then [entropyAlert packet (shannonEntropy packet.payload : R)] else []).countP
        (fun alert => alert.type = .signatureMatch) = 0 := by
    intro rule _
    split <;> rfl
  rw [packetAlerts, List.countP_append, entropy, add_zero]
  simp only [← listed]
  split <;> rfl

theorem packetAlerts_entropies (config : AnalysisConfig R) (signatures : SignatureDatabase)
    (packet : QueuedPacket) :
    (packetAlerts config signatures packet).countP
        (fun alert => alert.type = .highEntropyPayload) =
      if highEntropy config packet then 1 else 0 := by
  have signature : ∀ (rule : Prop) [Decidable rule],
      (if rule then [signatureAlert packet] else []).countP
        (fun alert => alert.type = .highEntropyPayload) = 0 := by
    intro rule _
    split <;> rfl
  rw [packetAlerts, List.countP_append, signature, zero_add, highEntropy]
  simp only [decide_eq_true_eq]
  split <;> rfl

theorem countP_flatMap_of_one {α β : Type*} {raise : α → List β} {isOf : β → Bool} {rule : α → Bool}
    (one : ∀ item, (raise item).countP isOf = if rule item then 1 else 0) (items : List α) :
    (items.flatMap raise).countP isOf = items.countP rule := by
  induction items with
  | nil => rfl
  | cons item items ih =>
    rw [List.flatMap_cons, List.countP_append, ih, one, List.countP_cons, add_comm]

theorem length_eq_types (alerts : List Alert) :
    alerts.length = ofTypeCount .portScan alerts + ofTypeCount .synFlood alerts +
      ofTypeCount .highEntropyPayload alerts + ofTypeCount .signatureMatch alerts := by
  induction alerts with
  | nil => rfl
  | cons alert alerts ih =>
    have counted (type : AnomalyType) : ofTypeCount type (alert :: alerts : List Alert) =
        ofTypeCount type alerts + if alert.type = type then 1 else 0 := by
      rw [ofTypeCount, ← Multiset.cons_coe, Multiset.countP_cons]
      rfl
    simp only [counted, List.length_cons, ih]
    cases alert.type <;> simp <;> omega

theorem ofTypeCount_filter {type : AnomalyType} (keep : Alert → Bool)
    (kept : ∀ alert, alert.type = type → keep alert) (alerts : List Alert) :
    ofTypeCount type alerts = (alerts.filter keep).countP fun alert => alert.type = type := by
  rw [List.countP_filter]
  refine (Multiset.coe_countP _ _).trans (List.countP_congr fun alert _ => ?_)
  simp only [decide_eq_true_eq, Bool.and_eq_true]
  exact ⟨fun same => ⟨same, kept alert same⟩, fun both => both.1⟩

theorem stateless_iff (alert : Alert) :
    alert.stateless ↔ alert.type = .signatureMatch ∨ alert.type = .highEntropyPayload :=
  decide_eq_true_iff

end Rules

namespace Program

variable {ω σ R : Type} [DecidableEq ω] [Fintype ω] [Nonempty ω] [Arithmetic R]
  {hash : UInt32 → Nat} {config : ProgramConfig σ R} {program : Program ω σ R}

theorem payload_alerts (behaves : config.backend.FailsOrAgrees)
    (reachable : (system ω hash config).Reachable program)
    (finished : program.pipeline.main = .finished) :
    (program.output.raised.filter Alert.stateless).Perm
      ((Capture.accepted config.pipeline.parse program.pipeline.capture.frames).flatMap
        (packetAlerts config.analysis SignatureDatabase.new)) := by
  have done := Finished.of_reachable reachable finished
  have reported := AnalysisWorkers.payload_rules_report behaves (analysis_reachable reachable)
    done.outside
  rw [raised_is_sunk reachable, ← done.packets]
  exact reported.trans (done.batches.flatten.flatMap_right _)

theorem signatures_raised (behaves : config.backend.FailsOrAgrees)
    (reachable : (system ω hash config).Reachable program)
    (finished : program.pipeline.main = .finished) :
    ofTypeCount .signatureMatch program.output.raised =
      (Capture.accepted config.pipeline.parse program.pipeline.capture.frames).countP
        fun packet => SignatureDatabase.new.matchesPayload packet.payload := by
  have reported := payload_alerts behaves reachable finished
  rw [ofTypeCount_filter _ fun alert same => (stateless_iff alert).mpr (.inl same),
    reported.countP_eq,
    countP_flatMap_of_one (packetAlerts_signatures config.analysis SignatureDatabase.new)]

theorem entropies_raised (behaves : config.backend.FailsOrAgrees)
    (reachable : (system ω hash config).Reachable program)
    (finished : program.pipeline.main = .finished) :
    ofTypeCount .highEntropyPayload program.output.raised =
      (Capture.accepted config.pipeline.parse program.pipeline.capture.frames).countP
        (highEntropy config.analysis) := by
  have reported := payload_alerts behaves reachable finished
  rw [ofTypeCount_filter _ fun alert same => (stateless_iff alert).mpr (.inr same),
    reported.countP_eq,
    countP_flatMap_of_one (packetAlerts_entropies config.analysis SignatureDatabase.new)]

/-- The summary counts what the rules by payload find in the accepted packets, whatever the workers,
    the batches, the options that only print and the backend, and the total is that of the types. -/
theorem summary_counts (behaves : config.backend.FailsOrAgrees)
    (reachable : (system ω hash config).Reachable program)
    (finished : program.pipeline.main = .finished) :
    program.output.alertsByType .signatureMatch = UInt64.ofNat
      ((Capture.accepted config.pipeline.parse program.pipeline.capture.frames).countP
        fun packet => SignatureDatabase.new.matchesPayload packet.payload) ∧
    program.output.alertsByType .highEntropyPayload = UInt64.ofNat
      ((Capture.accepted config.pipeline.parse program.pipeline.capture.frames).countP
        (highEntropy config.analysis)) ∧
    program.output.alertCount =
      program.output.alertsByType .portScan + program.output.alertsByType .synFlood +
        program.output.alertsByType .highEntropyPayload +
        program.output.alertsByType .signatureMatch := by
  have done := Finished.of_reachable reachable finished
  obtain ⟨all, types, -⟩ := Output.output_of_idle (output_reachable reachable) done.silent
  refine ⟨?_, ?_, ?_⟩
  · rw [types, signatures_raised behaves reachable finished]
  · rw [types, entropies_raised behaves reachable finished]
  · rw [all, types, types, types, types, length_eq_types, UInt64.ofNat_add, UInt64.ofNat_add,
      UInt64.ofNat_add]

theorem eicar_raised (behaves : config.backend.FailsOrAgrees)
    (parses : config.pipeline.parse = Frame.parse)
    (reachable : (system ω hash config).Reachable program)
    (finished : program.pipeline.main = .finished) {sources : List UInt32}
    (frames : program.pipeline.capture.frames = sources.map eicarFrame) :
    ∀ srcIp ∈ sources, signatureAlert (eicarPacket srcIp) ∈ program.output.raised := by
  intro srcIp member
  have reported := payload_alerts behaves reachable finished
  rw [parses, frames, eicar_accepted] at reported
  have raises : signatureAlert (eicarPacket srcIp) ∈
      packetAlerts config.analysis SignatureDatabase.new (eicarPacket srcIp) := by
    rw [packetAlerts_eq, eicarPacket_raises]
    exact List.mem_append_left _ (List.mem_singleton_self _)
  have listed := reported.mem_iff.mpr
    (List.mem_flatMap_of_mem (List.mem_map_of_mem (f := eicarPacket) member) raises)
  exact List.mem_of_mem_filter listed

theorem eicar_is_counted : ∃ program : Program (Fin 2) Unit ℝ,
    (system (Fin 2) UInt32.toNat eicarConfig).Reachable program ∧
      program.pipeline.capture.frames = eicarSources.map eicarFrame ∧
        program.output.alertsByType .signatureMatch = 2 := by
  obtain ⟨program, reachable, finished, frames⟩ :=
    eicar_finishes (Fin 2) UInt32.toNat eicarConfig rfl
  obtain ⟨signatures, -, -⟩ := summary_counts cpuEntropyBackend_failsOrAgrees reachable finished
  refine ⟨program, reachable, frames, ?_⟩
  rw [signatures, frames, show eicarConfig.pipeline.parse = Frame.parse from rfl, eicar_accepted]
  simp [eicarSources, eicarPacket_listed]

/-- When the program is through, the flow rules have raised what one sequential run over the accepted
    packets raises, a run that keeps the order within each batch that came off the queue. -/
theorem flow_alerts_settled (reachable : (system ω hash config).Reachable program)
    (finished : program.pipeline.main = .finished) {calls : List ObserveCall}
    (linearized : program.analysis.Linearized hash config.analysis.flow calls) :
    (calls.map ObserveCall.packet).Perm
      (Capture.accepted config.pipeline.parse program.pipeline.capture.frames) ∧
    (∀ entry ∈ program.pipeline.pool.threads.history.removals,
      entry.2.Sublist (calls.map ObserveCall.packet)) ∧
    (program.output.raised.filter fun alert => !alert.stateless).Perm
      (AnalysisWorkers.flowAlerts hash config.analysis.flow calls) ∧
    ∀ type, type = .portScan ∨ type = .synFlood → program.output.alertsByType type =
      UInt64.ofNat (ofTypeCount type (AnalysisWorkers.flowAlerts hash config.analysis.flow calls)) := by
  have done := Finished.of_reachable reachable finished
  obtain ⟨-, types, -⟩ := Output.output_of_idle (output_reachable reachable) done.silent
  obtain ⟨packets, ordered, alerts⟩ := linearized.settled done.outside
  rw [← raised_is_sunk reachable] at alerts
  refine ⟨?_, fun entry member => ?_, alerts, fun type flow => ?_⟩
  · rw [← done.packets]
    exact packets.trans done.batches.flatten
  · exact ordered entry.2 (done.batches.mem_iff.mpr (List.mem_map_of_mem member))
  · have stateful (alert : Alert) (same : alert.type = type) : (!alert.stateless) = true := by
      rcases flow with rfl | rfl <;> simp [Alert.stateless, same]
    rw [types, ofTypeCount_filter _ stateful, alerts.countP_eq]
    rfl

end Program

end NetSentinel
