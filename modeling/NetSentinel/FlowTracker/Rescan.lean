import Mathlib.Data.Set.Card
import NetSentinel.FlowTracker.Projection

namespace NetSentinel

def raised (type : AnomalyType) (alerts : List Alert) : Bool :=
  alerts.any fun alert => alert.type == type

namespace Rescan

/-- The reference detector keeps the whole history of a source and rescans it on every packet. -/
def attemptsSince (cutoff : Int) (packets : List ParsedPacket) : List ParsedPacket :=
  packets.filter fun packet => packet.isConnectionAttempt && decide (cutoff ≤ packet.nowMs)

def distinctPorts (cutoff : Int) (packets : List ParsedPacket) : Nat :=
  ((attemptsSince cutoff packets).map ParsedPacket.dstPort).dedup.length

def Quiet (config : FlowTrackerConfig) (type : AnomalyType) (log : List Observation)
    (nowMs : Int) : Prop :=
  ∀ observation ∈ log, raised type observation.alerts →
    observation.packet.nowMs ≤ nowMs - config.alertDebounceMs

def PortScan (config : FlowTrackerConfig) (log : List Observation) (packet : ParsedPacket) :
    Prop :=
  packet.isConnectionAttempt ∧
    config.portScanDistinctPortThreshold ≤
      distinctPorts (packet.nowMs - config.portScanWindowMs)
        (log.map Observation.packet ++ [packet]) ∧
    Quiet config .portScan log packet.nowMs

open Classical in
noncomputable def portScanAlerts (config : FlowTrackerConfig) (log : List Observation)
    (packet : ParsedPacket) : List Alert :=
  if PortScan config log packet then
    [portScanAlert config packet
      (distinctPorts (packet.nowMs - config.portScanWindowMs)
        (log.map Observation.packet ++ [packet]))]
  else []

def Opens (key : FlowKey) (packet : ParsedPacket) : Prop :=
  packet.transport = .tcp ∧ packet.isSyn ∧ ¬ packet.isAck ∧ packet.flowKey = key

def Closes (key : FlowKey) (packet : ParsedPacket) : Prop :=
  packet.transport = .tcp ∧ packet.isAck ∧ packet.flowKey = key

/-- The most recent SYN on `key` is no older than `cutoff` and no ACK came after it. -/
def HalfOpen (cutoff : Int) (packets : List ParsedPacket) (key : FlowKey) : Prop :=
  ∃ before syn later, packets = before ++ syn :: later ∧ Opens key syn ∧ cutoff ≤ syn.nowMs ∧
    ∀ packet ∈ later, ¬ Opens key packet ∧ ¬ Closes key packet

def SynFlood (config : FlowTrackerConfig) (log : List Observation) (packet : ParsedPacket) :
    Prop :=
  packet.transport = .tcp ∧
    config.synFloodPendingThreshold ≤
      {key | HalfOpen (packet.nowMs - config.synFloodWindowMs)
        (log.map Observation.packet ++ [packet]) key}.ncard ∧
    Quiet config .synFlood log packet.nowMs

open Classical in
noncomputable def synFloodAlerts (config : FlowTrackerConfig) (log : List Observation)
    (packet : ParsedPacket) : List Alert :=
  if SynFlood config log packet then
    [synFloodAlert config packet
      {key | HalfOpen (packet.nowMs - config.synFloodWindowMs)
        (log.map Observation.packet ++ [packet]) key}.ncard]
  else []

structure StampFollows (config : FlowTrackerConfig) (type : AnomalyType) (log : List Observation)
    (since : Int) (lastAlertMs : Option Int) : Prop where
  past : ∀ observation ∈ log, observation.packet.nowMs ≤ since
  quiet : ∀ nowMs, since ≤ nowMs →
    (Quiet config type log nowMs ↔
      ∀ last, lastAlertMs = some last → config.alertDebounceMs ≤ nowMs - last)

theorem StampFollows.empty (config : FlowTrackerConfig) (type : AnomalyType) (since : Int) :
    StampFollows config type [] since none where
  past := by simp
  quiet := by simp [Quiet]

theorem StampFollows.later {config : FlowTrackerConfig} {type : AnomalyType}
    {log : List Observation} {since nowMs : Int} {lastAlertMs : Option Int}
    (follows : StampFollows config type log since lastAlertMs) (later : since ≤ nowMs) :
    StampFollows config type log nowMs lastAlertMs where
  past observation member := (follows.past observation member).trans later
  quiet next bound := follows.quiet next (later.trans bound)

theorem StampFollows.forget {config : FlowTrackerConfig} {type : AnomalyType}
    {log : List Observation} {since : Int} (debounce : 0 ≤ config.alertDebounceMs)
    (stale : ∀ observation ∈ log, observation.packet.nowMs < since - config.alertDebounceMs) :
    StampFollows config type log since none where
  past observation member := by
    have := stale observation member
    omega
  quiet nowMs later := by
    simp only [reduceCtorEq, false_implies, implies_true, iff_true]
    intro observation member _
    have := stale observation member
    omega

theorem StampFollows.past_snoc {config : FlowTrackerConfig} {type : AnomalyType}
    {log : List Observation} {since : Int} {lastAlertMs : Option Int} {packet : ParsedPacket}
    (follows : StampFollows config type log since lastAlertMs) (later : since ≤ packet.nowMs)
    (alerts : List Alert) :
    ∀ observation ∈ log ++ [⟨packet, alerts⟩], observation.packet.nowMs ≤ packet.nowMs := by
  intro observation member
  rcases List.mem_append.mp member with old | new
  · exact (follows.past observation old).trans later
  · rw [List.mem_singleton.mp new]

theorem StampFollows.silent {config : FlowTrackerConfig} {type : AnomalyType}
    {log : List Observation} {since : Int} {lastAlertMs : Option Int} {packet : ParsedPacket}
    {alerts : List Alert} (follows : StampFollows config type log since lastAlertMs)
    (later : since ≤ packet.nowMs) (none : raised type alerts = false) :
    StampFollows config type (log ++ [⟨packet, alerts⟩]) packet.nowMs lastAlertMs := by
  refine ⟨follows.past_snoc later alerts, fun next bound => ?_⟩
  rw [← follows.quiet next (later.trans bound)]
  simp [Quiet, or_imp, forall_and, none]

theorem StampFollows.stamped {config : FlowTrackerConfig} {type : AnomalyType}
    {log : List Observation} {since : Int} {lastAlertMs : Option Int} {packet : ParsedPacket}
    {alerts : List Alert} (follows : StampFollows config type log since lastAlertMs)
    (later : since ≤ packet.nowMs) (alerted : raised type alerts = true) :
    StampFollows config type (log ++ [⟨packet, alerts⟩]) packet.nowMs (some packet.nowMs) := by
  refine ⟨follows.past_snoc later alerts, fun next bound => ?_⟩
  simp only [Option.some.injEq, forall_eq']
  constructor
  · intro quiet
    have elapsed := quiet ⟨packet, alerts⟩ (by simp) alerted
    dsimp only at elapsed
    omega
  · intro elapsed observation member _
    have old := follows.past_snoc later alerts observation member
    omega

theorem StampFollows.ruleFires {config : FlowTrackerConfig} {type : AnomalyType}
    {log : List Observation} {since : Int} {lastAlertMs : Option Int} {threshold count : Nat}
    {packet : ParsedPacket} {alerts : List Alert}
    (follows : StampFollows config type log since lastAlertMs) (later : since ≤ packet.nowMs)
    (fired : raised type alerts =
      (NetSentinel.ruleFires config threshold count lastAlertMs packet.nowMs).1) :
    (raised type alerts ↔ threshold ≤ count ∧ Quiet config type log packet.nowMs) ∧
      StampFollows config type (log ++ [⟨packet, alerts⟩]) packet.nowMs
        (NetSentinel.ruleFires config threshold count lastAlertMs packet.nowMs).2 := by
  have now := follows.quiet packet.nowMs later
  unfold NetSentinel.ruleFires debounceAllows at *
  by_cases reached : threshold ≤ count
  · simp only [reached, if_true, true_and] at fired ⊢
    cases lastAlertMs with
    | none =>
      simp only at fired now ⊢
      exact ⟨by simp [fired, now], follows.stamped later fired⟩
    | some last =>
      simp only [Option.some.injEq, forall_eq'] at fired now ⊢
      by_cases recent : packet.nowMs - last < config.alertDebounceMs
      · simp only [recent, if_true] at fired ⊢
        exact ⟨by simp [fired, now, recent], follows.silent later fired⟩
      · simp only [recent, if_false] at fired ⊢
        exact ⟨by simp [fired, now, Int.not_lt.mp recent], follows.stamped later fired⟩
  · simp only [reached, if_false, false_and, iff_false, Bool.not_eq_true] at fired ⊢
    exact ⟨fired, follows.silent later fired⟩

end Rescan

end NetSentinel
