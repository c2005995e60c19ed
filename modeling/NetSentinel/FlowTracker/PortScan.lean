import NetSentinel.FlowTracker.Representation
import NetSentinel.FlowTracker.Rescan

namespace NetSentinel.Rescan

open SlidingWindow

def attemptEntries (packets : List ParsedPacket) : List (Int × UInt16) :=
  (packets.filter ParsedPacket.isConnectionAttempt).map fun packet =>
    (packet.nowMs, packet.dstPort)

theorem attemptEntries_snoc (packets : List ParsedPacket) (packet : ParsedPacket) :
    attemptEntries (packets ++ [packet]) =
      if packet.isConnectionAttempt then
        attemptEntries packets ++ [(packet.nowMs, packet.dstPort)]
      else attemptEntries packets := by
  unfold attemptEntries
  rw [List.filter_append]
  split
  · rename_i attempt
    simp [attempt]
  · rename_i other
    simp [other]

theorem attemptsSince_ports (cutoff : Int) (packets : List ParsedPacket) :
    (attemptsSince cutoff packets).map ParsedPacket.dstPort =
      ((attemptEntries packets).filter fun entry => decide (cutoff ≤ entry.1)).map Prod.snd := by
  unfold attemptsSince attemptEntries
  rw [List.filter_map, List.filter_filter, List.map_map]
  congr 1
  congr 1
  funext packet
  simp [Bool.and_comm]

structure PortsFollow (config : FlowTrackerConfig) (log : List Observation) (since : Int)
    (state : PerIpState) : Prop where
  sorted : state.recentDstPorts.Pairwise fun a b => a.1 ≤ b.1
  past : ∀ entry ∈ state.recentDstPorts, entry.1 ≤ since
  window : ∀ nowMs, since ≤ nowMs →
    state.recentDstPorts.filter (fun entry => decide (nowMs - config.portScanWindowMs ≤ entry.1)) =
      (attemptEntries (log.map Observation.packet)).filter fun entry =>
        decide (nowMs - config.portScanWindowMs ≤ entry.1)
  tallied : state.PortsTallied
  stamp : StampFollows config .portScan log since state.lastPortScanAlertMs

theorem PortsFollow.fresh (config : FlowTrackerConfig) (since : Int) :
    PortsFollow config [] since {} where
  sorted := List.Pairwise.nil
  past := by simp
  window := by simp [attemptEntries]
  tallied := Tally.Exact.empty
  stamp := StampFollows.empty _ _ _

theorem PortsFollow.later {config : FlowTrackerConfig} {log : List Observation}
    {since nowMs : Int} {state : PerIpState} (follows : PortsFollow config log since state)
    (later : since ≤ nowMs) : PortsFollow config log nowMs state where
  sorted := follows.sorted
  past entry member := (follows.past entry member).trans later
  window next bound := follows.window next (later.trans bound)
  tallied := follows.tallied
  stamp := follows.stamp.later later

theorem mem_attemptEntries {log : List Observation} {entry : Int × UInt16}
    (member : entry ∈ attemptEntries (log.map Observation.packet)) :
    ∃ observation ∈ log, entry.1 = observation.packet.nowMs := by
  obtain ⟨packet, kept, rfl⟩ := List.mem_map.mp member
  obtain ⟨observation, here, rfl⟩ := List.mem_map.mp (List.mem_filter.mp kept).1
  exact ⟨observation, here, rfl⟩

theorem PortsFollow.forget {config : FlowTrackerConfig} {log : List Observation} {since : Int}
    (debounce : 0 ≤ config.alertDebounceMs)
    (staleWindow : ∀ observation ∈ log,
      observation.packet.nowMs < since - config.portScanWindowMs)
    (staleStamp : ∀ observation ∈ log,
      observation.packet.nowMs < since - config.alertDebounceMs) :
    PortsFollow config log since {} where
  sorted := List.Pairwise.nil
  past := by simp
  window nowMs later := by
    symm
    rw [List.filter_nil, List.filter_eq_nil_iff]
    intro entry member
    obtain ⟨observation, here, same⟩ := mem_attemptEntries member
    have := staleWindow observation here
    simp only [same, decide_eq_true_eq]
    omega
  tallied := Tally.Exact.empty
  stamp := StampFollows.forget debounce staleStamp

section Step

variable {config : FlowTrackerConfig} {log : List Observation} {since : Int} {state : PerIpState}
  {packet : ParsedPacket}

theorem PortsFollow.pushed_sorted (follows : PortsFollow config log since state)
    (later : since ≤ packet.nowMs) :
    (state.recentDstPorts ++ [(packet.nowMs, packet.dstPort)]).Pairwise fun a b => a.1 ≤ b.1 := by
  rw [List.pairwise_append]
  refine ⟨follows.sorted, List.pairwise_singleton _ _, ?_⟩
  intro old member new isNew
  rw [List.mem_singleton.mp isNew]
  exact (follows.past old member).trans later

theorem PortsFollow.attempt_window (follows : PortsFollow config log since state)
    (later : since ≤ packet.nowMs) (attempt : packet.isConnectionAttempt) :
    (state.recordAttempt config packet).recentDstPorts =
      (attemptEntries (log.map Observation.packet ++ [packet])).filter fun entry =>
        decide (packet.nowMs - config.portScanWindowMs ≤ entry.1) := by
  have front := StaleFirst.of_sorted (packet.nowMs - config.portScanWindowMs)
    (follows.pushed_sorted later)
  unfold PerIpState.recordAttempt expirePorts
  dsimp only
  rw [front.popExpired_queue, attemptEntries_snoc, if_pos attempt, List.filter_append,
    List.filter_append, follows.window packet.nowMs later]

theorem PortsFollow.attempt_tallied (follows : PortsFollow config log since state)
    (bound : state.recentDstPorts.length + 1 < 2^32) :
    (state.recordAttempt config packet).PortsTallied :=
  PerIpState.expirePorts_exact (PerIpState.pushed_exact follows.tallied _ _) (by simpa using bound)

theorem PortsFollow.attempt_count (follows : PortsFollow config log since state)
    (later : since ≤ packet.nowMs) (attempt : packet.isConnectionAttempt)
    (bound : state.recentDstPorts.length + 1 < 2^32) :
    (state.recordAttempt config packet).portCounts.keys.length =
      distinctPorts (packet.nowMs - config.portScanWindowMs)
        (log.map Observation.packet ++ [packet]) := by
  rw [(follows.attempt_tallied bound).size, distinctPorts, attemptsSince_ports,
    follows.attempt_window later attempt]

theorem raised_portScan (alert : Alert) (flood : List Alert) (fires : Bool)
    (scan : alert.type = .portScan) (other : raised .portScan flood = false) :
    raised .portScan ((if fires then [alert] else []) ++ flood) = fires := by
  unfold raised at *
  cases fires <;> simp [scan, other]

theorem observeSynFlood_raises_no_portScan (config : FlowTrackerConfig) (packet : ParsedPacket)
    (state : PerIpState) :
    raised .portScan (state.observeSynFlood config packet).2 = false := by
  refine List.any_eq_false.mpr fun alert flood => ?_
  simp [PerIpState.observeSynFlood_type config packet state flood]

theorem PortsFollow.attempt (follows : PortsFollow config log since state)
    (later : since ≤ packet.nowMs) (attempt : packet.isConnectionAttempt)
    (bound : state.recentDstPorts.length + 1 < 2^32) {alerts : List Alert} {after : PerIpState}
    (ports : after.recentDstPorts = (state.recordAttempt config packet).recentDstPorts)
    (counts : after.portCounts = (state.recordAttempt config packet).portCounts)
    (stamp : StampFollows config .portScan (log ++ [⟨packet, alerts⟩]) packet.nowMs
      after.lastPortScanAlertMs) :
    PortsFollow config (log ++ [⟨packet, alerts⟩]) packet.nowMs after where
  sorted := by
    rw [ports]
    exact (follows.pushed_sorted later).sublist (popExpired_sublist _ _ _ _)
  past entry member := by
    rw [ports] at member
    rcases List.mem_append.mp (popExpired_mem member) with old | new
    · exact (follows.past entry old).trans later
    · rw [List.mem_singleton.mp new]
  window nowMs bound := by
    rw [ports, List.map_append, List.map_singleton, attemptEntries_snoc, if_pos attempt,
      List.filter_append, ← follows.window nowMs (later.trans bound), ← List.filter_append]
    exact popExpired_filter (by omega) _ _ _
  tallied := by
    unfold PerIpState.PortsTallied
    rw [ports, counts]
    exact follows.attempt_tallied bound
  stamp := stamp

theorem PortsFollow.other (follows : PortsFollow config log since state)
    (later : since ≤ packet.nowMs) (other : ¬ packet.isConnectionAttempt) {alerts : List Alert}
    (none : raised .portScan alerts = false) {after : PerIpState}
    (ports : after.recentDstPorts = state.recentDstPorts)
    (counts : after.portCounts = state.portCounts)
    (stamp : after.lastPortScanAlertMs = state.lastPortScanAlertMs) :
    PortsFollow config (log ++ [⟨packet, alerts⟩]) packet.nowMs after where
  sorted := ports ▸ follows.sorted
  past entry member := (follows.past entry (ports ▸ member)).trans later
  window nowMs bound := by
    rw [ports, List.map_append, List.map_singleton, attemptEntries_snoc, if_neg other]
    exact follows.window nowMs (later.trans bound)
  tallied := by
    unfold PerIpState.PortsTallied
    rw [ports, counts]
    exact follows.tallied
  stamp := stamp ▸ follows.stamp.silent later none

theorem PortsFollow.observe (follows : PortsFollow config log since state)
    (later : since ≤ packet.nowMs)
    (bound : packet.isConnectionAttempt → state.recentDstPorts.length + 1 < 2^32) :
    (state.observePortScan config packet).2 = portScanAlerts config log packet ∧
      (raised .portScan (state.observe config packet).2 ↔ PortScan config log packet) ∧
      PortsFollow config (log ++ [⟨packet, (state.observe config packet).2⟩]) packet.nowMs
        (state.observe config packet).1 := by
  have flood := observeSynFlood_raises_no_portScan config packet state
  rw [PerIpState.observe_eq]
  by_cases attempt : packet.isConnectionAttempt
  · have count := follows.attempt_count later attempt (bound attempt)
    have fired := raised_portScan
      (portScanAlert config packet (state.recordAttempt config packet).portCounts.keys.length)
      (state.observeSynFlood config packet).2
      (ruleFires config config.portScanDistinctPortThreshold
        (state.recordAttempt config packet).portCounts.keys.length state.lastPortScanAlertMs
        packet.nowMs).1 rfl flood
    obtain ⟨verdict, stamp⟩ := follows.stamp.ruleFires later fired
    have reference : PortScan config log packet ↔
        config.portScanDistinctPortThreshold ≤
          (state.recordAttempt config packet).portCounts.keys.length ∧
        Quiet config .portScan log packet.nowMs := by
      simp [PortScan, attempt, count]
    rw [PerIpState.observePortScan_eq config packet state attempt]
    refine ⟨?_, verdict.trans reference.symm,
      follows.attempt later attempt (bound attempt) rfl rfl stamp⟩
    rw [fired, ← reference] at verdict
    unfold portScanAlerts
    rw [← count]
    by_cases scan : PortScan config log packet
    · rw [if_pos (verdict.mpr scan), if_pos scan]
    · rw [if_neg (mt verdict.mp scan), if_neg scan]
  · rw [PerIpState.observePortScan_other config packet state attempt]
    have none : ¬ PortScan config log packet := fun scan => attempt scan.1
    refine ⟨by simp [portScanAlerts, none], by simp [flood, none], ?_⟩
    exact follows.other later attempt flood rfl rfl rfl

end Step

end NetSentinel.Rescan
