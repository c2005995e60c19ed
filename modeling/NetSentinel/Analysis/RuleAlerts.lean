import NetSentinel.Analysis.Linearized

namespace NetSentinel

open Family

variable {R : Type} [Arithmetic R]

/-- The alerts that the four rules make. A source can have as many distinct ports as there are, and
    as many unanswered SYNs as there are 4-tuples. -/
inductive RuleAlert (config : AnalysisConfig R) : Alert → Prop
  | signature (packet : QueuedPacket) : RuleAlert config (signatureAlert packet)
  | entropy (packet : QueuedPacket) (entropy : R) : RuleAlert config (entropyAlert packet entropy)
  | portScan (packet : ParsedPacket) (distinctPorts : Nat) (few : distinctPorts ≤ 2 ^ 16) :
      RuleAlert config (portScanAlert config.flow packet distinctPorts)
  | synFlood (packet : ParsedPacket) (pending : Nat) (few : pending ≤ 2 ^ 96) :
      RuleAlert config (synFloodAlert config.flow packet pending)

section Counts

theorem length_le_of_code {α : Type*} {code : α → Nat} {bound : Nat}
    (injective : Function.Injective code) (below : ∀ item, code item < bound) {items : List α}
    (nodup : items.Nodup) : items.length ≤ bound := by
  have coded : items.map code ⊆ List.range bound := by
    intro number member
    obtain ⟨item, -, rfl⟩ := List.mem_map.mp member
    exact List.mem_range.mpr (below item)
  have most := (List.subperm_of_subset (nodup.map injective) coded).length_le
  rwa [List.length_map, List.length_range] at most

theorem ports_few (portCounts : Tally.Counts UInt16) : portCounts.keys.length ≤ 2 ^ 16 :=
  length_le_of_code (fun _ _ => UInt16.toNat_inj.mp) UInt16.toNat_lt portCounts.keys_nodup

def FlowKey.code (key : FlowKey) : Nat :=
  ((key.srcIp.toNat * 2 ^ 32 + key.dstIp.toNat) * 2 ^ 16 + key.srcPort.toNat) * 2 ^ 16 +
    key.dstPort.toNat

theorem FlowKey.code_injective : Function.Injective FlowKey.code := by
  intro key other same
  have dstIp := key.dstIp.toNat_lt
  have srcPort := key.srcPort.toNat_lt
  have dstPort := key.dstPort.toNat_lt
  have dstIp' := other.dstIp.toNat_lt
  have srcPort' := other.srcPort.toNat_lt
  have dstPort' := other.dstPort.toNat_lt
  unfold code at same
  cases key
  cases other
  simp only [FlowKey.mk.injEq, ← UInt32.toNat_inj, ← UInt16.toNat_inj]
  simp only at same dstIp srcPort dstPort dstIp' srcPort' dstPort'
  omega

theorem FlowKey.code_lt (key : FlowKey) : key.code < 2 ^ 96 := by
  have srcIp := key.srcIp.toNat_lt
  have dstIp := key.dstIp.toNat_lt
  have srcPort := key.srcPort.toNat_lt
  have dstPort := key.dstPort.toNat_lt
  unfold code
  omega

theorem syns_few (pendingSyns : AList fun _ : FlowKey => Int) :
    pendingSyns.keys.length ≤ 2 ^ 96 :=
  length_le_of_code FlowKey.code_injective FlowKey.code_lt pendingSyns.keys_nodup

end Counts

section Rules

variable {config : AnalysisConfig R} {alert : Alert}

theorem RuleAlert.of_record {packet : ParsedPacket} {record : PerIpState}
    (raised : alert ∈ (record.observe config.flow packet).2) : RuleAlert config alert := by
  rcases List.mem_append.mp raised with scan | flood
  · unfold PerIpState.observePortScan at scan
    split at scan
    · dsimp only at scan
      split at scan
      · rw [List.mem_singleton.mp scan]
        exact .portScan packet _ (ports_few _)
      · cases scan
    · cases scan
  · unfold PerIpState.observeSynFlood at flood
    split at flood
    · dsimp only at flood
      split at flood
      · rw [List.mem_singleton.mp flood]
        exact .synFlood packet _ (syns_few _)
      · cases flood
    · cases flood

theorem RuleAlert.of_observe {hash : UInt32 → Nat} {tracker : FlowTracker} {call : ObserveCall}
    (sameConfig : tracker.config = config.flow.withShards)
    (raised : alert ∈ (tracker.observe hash call).2) : RuleAlert config alert := by
  unfold FlowTracker.observe at raised
  dsimp only at raised
  split at raised
  · unfold FlowTracker.touch at raised
    dsimp only at raised
    rw [sameConfig, PerIpState.observe_withShards] at raised
    exact .of_record raised
  · cases raised

theorem RuleAlert.of_signatures {signatures : SignatureDatabase} {packet : QueuedPacket}
    (raised : alert ∈ signatureAlerts signatures packet) : RuleAlert config alert := by
  unfold signatureAlerts at raised
  split at raised
  · rw [List.mem_singleton.mp raised]
    exact .signature packet
  · cases raised

theorem RuleAlert.of_entropy {sameConfig : AnalysisConfig R} {packet : QueuedPacket} {entropy : R}
    (raised : alert ∈ entropyAlertsFor sameConfig packet entropy) : RuleAlert config alert := by
  unfold entropyAlertsFor at raised
  split at raised
  · rw [List.mem_singleton.mp raised]
    exact .entropy packet entropy
  · cases raised

end Rules

namespace AnalysisWorkers

variable {ω σ : Type} [DecidableEq ω] {hash : UInt32 → Nat} {config : AnalysisConfig R}
  {state after : AnalysisWorkers ω σ R}

/-- All alerts, those on the way to the sink included, come from the rules. -/
structure ByRules (config : AnalysisConfig R) (state : AnalysisWorkers ω σ R) : Prop where
  tracker : state.engine.flowTracker.config = config.flow.withShards
  sunk : ∀ alert ∈ state.sunk, RuleAlert config alert
  carried : ∀ worker, ∀ alert ∈ (state.pcs worker).carried, RuleAlert config alert

theorem ByRules.moved (byRules : ByRules config state) {mover : ω} {pc : AnalyzePc R}
    (own : ∀ alert ∈ pc.carried, RuleAlert config alert) (worker : ω) :
    ∀ alert ∈ (Function.update state.pcs mover pc worker).carried, RuleAlert config alert := by
  rcases update_seen AnalyzePc.carried (rfl : _ = (Function.update state.pcs mover pc worker).carried)
    with ⟨-, new⟩ | ⟨-, old⟩
  · rw [← new]
    exact own
  · rw [← old]
    exact byRules.carried worker

theorem ByRules.step (byRules : ByRules config state) (step : Step hash state after) :
    ByRules config after := by
  have nothing : ∀ alert ∈ ([] : List Alert), RuleAlert config alert := nofun
  have told {alerts : List Alert} (more : ∀ alert ∈ alerts, RuleAlert config alert) :
      ∀ alert ∈ state.sunk ++ alerts, RuleAlert config alert := by
    intro alert member
    rcases List.mem_append.mp member with before | now
    · exact byRules.sunk alert before
    · exact more alert now
  cases step with
  | start worker batch eligible started outside filtered starts =>
    exact ⟨byRules.tracker, byRules.sunk, byRules.moved nothing⟩
  | signature worker eligible pending packet rest due =>
    exact ⟨byRules.tracker, told fun alert raised => .of_signatures raised, byRules.moved nothing⟩
  | observe worker eligible pending packet rest order observed due observes =>
    subst observes
    refine ⟨?_, byRules.sunk, byRules.moved fun alert raised => .of_observe byRules.tracker raised⟩
    exact (FlowTracker.observe_config hash _ _).trans byRules.tracker
  | sink worker eligible pending alert alerts rest due =>
    have own := byRules.carried worker
    rw [due] at own
    refine ⟨byRules.tracker, told fun other same => ?_, byRules.moved fun other later => ?_⟩
    · rw [List.mem_singleton.mp same]
      exact own alert List.mem_cons_self
    · exact own other (List.mem_cons_of_mem alert later)
  | nextPacket worker eligible pending rest due =>
    exact ⟨byRules.tracker, byRules.sunk, byRules.moved nothing⟩
  | returnEarly worker pending due =>
    exact ⟨byRules.tracker, byRules.sunk, byRules.moved nothing⟩
  | wait worker eligible pending waited due nonempty waits =>
    exact ⟨byRules.tracker, byRules.sunk, byRules.moved nothing⟩
  | entropy worker values i packet rest entropy due found =>
    exact ⟨byRules.tracker, told fun alert raised => .of_entropy raised, byRules.moved nothing⟩
  | done worker values i due =>
    exact ⟨byRules.tracker, byRules.sunk, byRules.moved nothing⟩

theorem ByRules.of_reachable {backend : EntropyBackend σ R} {backendState : σ}
    (reachable : (systemWith hash ω config backend backendState).Reachable state) :
    ByRules config state := by
  refine TransitionSystem.Reachable.invariant ?_ ?_ reachable
  · intro first start
    rw [show first = _ from start]
    exact ⟨rfl, nofun, nofun⟩
  · exact fun before after _ step byRules => byRules.step step

end AnalysisWorkers

end NetSentinel
