import NetSentinel.FlowTracker.Eviction
import NetSentinel.FlowTracker.PortScan
import NetSentinel.Workers.Schedule

namespace NetSentinel.Rescan

open SlidingWindow

/-- What the port half of a record keeps in any order of the timestamps, counters wrapped or not:
    the deque is the tail of the source's attempts, and every counted port is in it. -/
structure PortsTrail (packets : List ParsedPacket) (state : PerIpState) : Prop where
  tail : state.recentDstPorts <:+ attemptEntries packets
  backed : Tally.Backed state.portCounts (state.recentDstPorts.map Prod.snd)

theorem PortsTrail.fresh (packets : List ParsedPacket) : PortsTrail packets {} where
  tail := List.nil_suffix
  backed := Tally.Backed.empty

section Step

variable {config : FlowTrackerConfig} {packets : List ParsedPacket} {packet : ParsedPacket}
  {state : PerIpState}

theorem PortsTrail.pushed_tail (trail : PortsTrail packets state)
    (attempt : packet.isConnectionAttempt) :
    state.recentDstPorts ++ [(packet.nowMs, packet.dstPort)] <:+
      attemptEntries (packets ++ [packet]) := by
  rw [attemptEntries_snoc, if_pos attempt]
  obtain ⟨expired, whole⟩ := trail.tail
  exact ⟨expired, by rw [← whole, List.append_assoc]⟩

theorem PortsTrail.recordAttempt_backed (trail : PortsTrail packets state)
    (config : FlowTrackerConfig) (packet : ParsedPacket) :
    Tally.Backed (state.recordAttempt config packet).portCounts
      ((state.recordAttempt config packet).recentDstPorts.map Prod.snd) := by
  refine popExpired_invariant
    (fun queue (counts : Tally.Counts UInt16) => Tally.Backed counts (queue.map Prod.snd))
    ?_ _ _ ?_
  · intro entry rest counts _ backed
    exact Tally.Backed.decrement backed
  · rw [List.map_append, List.map_singleton]
    exact trail.backed.increment packet.dstPort

theorem PortsTrail.observe (trail : PortsTrail packets state) :
    PortsTrail (packets ++ [packet]) (state.observe config packet).1 := by
  rw [PerIpState.observe_eq]
  by_cases attempt : packet.isConnectionAttempt
  · obtain ⟨ports, counts⟩ := PerIpState.observePortScan_attempt config packet state attempt
    constructor
    · dsimp only
      rw [ports]
      apply List.IsSuffix.trans _ (trail.pushed_tail attempt)
      unfold PerIpState.recordAttempt expirePorts
      dsimp only
      rw [popExpired_queue]
      exact List.dropWhile_suffix _
    · dsimp only
      rw [ports, counts]
      exact trail.recordAttempt_backed config packet
  · rw [PerIpState.observePortScan_other config packet state attempt]
    refine ⟨?_, trail.backed⟩
    rw [attemptEntries_snoc, if_neg attempt]
    exact trail.tail

theorem recordAttempt_window (front : StaleFirst (packet.nowMs - config.portScanWindowMs)
      (state.recentDstPorts ++ [(packet.nowMs, packet.dstPort)])) :
    (state.recordAttempt config packet).recentDstPorts =
      (state.recentDstPorts ++ [(packet.nowMs, packet.dstPort)]).filter fun entry =>
        decide (packet.nowMs - config.portScanWindowMs ≤ entry.1) := by
  unfold PerIpState.recordAttempt expirePorts
  dsimp only
  rw [front.popExpired_queue]

theorem PortsTrail.count_le (trail : PortsTrail packets state)
    (attempt : packet.isConnectionAttempt)
    (front : StaleFirst (packet.nowMs - config.portScanWindowMs)
      (state.recentDstPorts ++ [(packet.nowMs, packet.dstPort)])) :
    (state.recordAttempt config packet).portCounts.keys.length ≤
      distinctPorts (packet.nowMs - config.portScanWindowMs) (packets ++ [packet]) := by
  have backed := trail.recordAttempt_backed config packet
  rw [recordAttempt_window front] at backed
  rw [distinctPorts, attemptsSince_ports]
  exact backed.size_le (((trail.pushed_tail attempt).sublist.filter _).map _).subset

theorem raised_portScan_count (raises : raised .portScan (state.observe config packet).2) :
    packet.isConnectionAttempt ∧ config.portScanDistinctPortThreshold ≤
      (state.recordAttempt config packet).portCounts.keys.length := by
  rw [PerIpState.observe_eq] at raises
  have flood := observeSynFlood_raises_no_portScan config packet state
  by_cases attempt : packet.isConnectionAttempt
  · refine ⟨attempt, ?_⟩
    rw [PerIpState.observePortScan_eq config packet state attempt] at raises
    rw [raised_portScan _ _ _ rfl flood] at raises
    unfold ruleFires at raises
    split at raises
    · rename_i reached
      exact reached
    · cases raises
  · rw [PerIpState.observePortScan_other config packet state attempt] at raises
    rw [show raised .portScan ([] ++ (state.observeSynFlood config packet).2) = false from flood]
      at raises
    cases raises

end Step

end NetSentinel.Rescan

namespace NetSentinel.FlowTracker

open Rescan SlidingWindow

variable (hash : UInt32 → Nat)

/-- The deque of `ip`, as this call finds it, has no attempt older than the trailing window behind one
    inside it. -/
def ScanOrder (config : FlowTrackerConfig) (ip : UInt32) (before : List ObserveCall)
    (call : ObserveCall) : Prop :=
  call.packet.parsed.isFrom ip → call.packet.parsed.isConnectionAttempt →
    StaleFirst (call.packet.parsed.nowMs - config.portScanWindowMs)
      ((((after hash config before).recordOf hash ip).getD {}).recentDstPorts ++
        [(call.packet.parsed.nowMs, call.packet.parsed.dstPort)])

theorem record_trails (config : FlowTrackerConfig) (ip : UInt32) (calls : List ObserveCall) :
    PortsTrail (sourcePackets ip calls) (((after hash config calls).recordOf hash ip).getD {}) := by
  refine record_rule hash (fun calls => PortsTrail (sourcePackets ip calls))
    (PortsTrail.fresh _) calls ?_ ?_ ?_
  · intro before call _ mine trail
    rw [sourcePackets_mine mine]
    exact trail.observe
  · intro before call _ other trail
    rw [sourcePackets_other other]
    exact trail
  · intro before call _ _ _ _ _
    exact PortsTrail.fresh _

/-- In every run of the workers whose observations are in scan order, no attempt older than the
    window is counted and every port-scan alert is justified by its window. -/
theorem scan_alerts_justified {ω : Type*} [DecidableEq ω] (config : FlowTrackerConfig)
    (ip : UInt32) (stream : List QueuedPacket)
    (run : {schedule : Schedule ω // (Schedule.system ω stream).Reachable schedule})
    (inOrder : ∀ before call, before ++ [call] <+: run.1.calls →
      ScanOrder hash config ip before call) :
    ∀ before call, before ++ [call] <+: run.1.calls → call.packet.parsed.isFrom ip →
      (call.packet.parsed.isConnectionAttempt →
        ∀ record, (after hash config (before ++ [call])).recordOf hash ip = some record →
          ∀ entry ∈ record.recentDstPorts,
            call.packet.parsed.nowMs - config.portScanWindowMs ≤ entry.1) ∧
      (raised .portScan ((after hash config before).observe hash call).2 →
        config.portScanDistinctPortThreshold ≤
          distinctPorts (call.packet.parsed.nowMs - config.portScanWindowMs)
            (sourcePackets ip before ++ [call.packet.parsed])) := by
  intro before call isPrefix mine
  have ordered := inOrder before call isPrefix mine
  have trail := record_trails hash config ip before
  obtain ⟨alerts, updated⟩ := observe_self hash (after hash config before) mine
  rw [after_config, PerIpState.observe_withShards] at alerts updated
  constructor
  · intro attempt record present entry member
    rw [after_snoc, updated] at present
    cases present
    rw [PerIpState.observe_eq] at member
    dsimp only at member
    rw [(PerIpState.observePortScan_attempt config _ _ attempt).1,
      recordAttempt_window (ordered attempt)] at member
    exact of_decide_eq_true (List.mem_filter.mp member).2
  · intro raises
    rw [alerts] at raises
    obtain ⟨attempt, reached⟩ := raised_portScan_count raises
    exact reached.trans (trail.count_le attempt (ordered attempt))

def scanProbe (dstPort : UInt16) (timestampMs : Int) : QueuedPacket :=
  makeTestPacket 1 2 40000 dstPort tcpFlagSyn timestampMs .tcp

instance (config : FlowTrackerConfig) (ip : UInt32) (before : List ObserveCall)
    (call : ObserveCall) : Decidable (ScanOrder hash config ip before call) :=
  inferInstanceAs (Decidable (_ → _ → List.Pairwise _ _))

def swappedScan : List QueuedPacket :=
  [scanProbe 1 4, scanProbe 2 6, scanProbe 3 15, scanProbe 4 20]

def swappedScanCalls : List ObserveCall :=
  [⟨scanProbe 2 6, [1]⟩, ⟨scanProbe 1 4, [1]⟩, ⟨scanProbe 4 20, [1]⟩, ⟨scanProbe 3 15, [1]⟩]

def swappedScanConfig : FlowTrackerConfig :=
  { portScanDistinctPortThreshold := 2, portScanWindowMs := 10, alertDebounceMs := 0 }

theorem swapped_scan_run :
    ∃ run : {schedule : Schedule (Fin 2) //
        (Schedule.system (Fin 2) swappedScan).Reachable schedule},
      run.1.calls = swappedScanCalls := by
  have start : (Schedule.system (Fin 2) swappedScan).Reachable
      ⟨swappedScan.zipIdx, fun _ => [], []⟩ := TransitionSystem.Reachable.first rfl
  have early := start.next
    (Schedule.Step.take 0 [(scanProbe 1 4, 0)] _ rfl (List.cons_ne_nil _ _) rfl)
  have late := early.next
    (Schedule.Step.take 1 [(scanProbe 2 6, 1)] _ rfl (List.cons_ne_nil _ _) rfl)
  have first := late.next (Schedule.Step.observe 1 (scanProbe 2 6) 1 _ [1] rfl)
  have second := first.next (Schedule.Step.observe 0 (scanProbe 1 4) 0 _ [1] rfl)
  have more := second.next
    (Schedule.Step.take 0 [(scanProbe 3 15, 2)] _ rfl (List.cons_ne_nil _ _) rfl)
  have last := more.next
    (Schedule.Step.take 1 [(scanProbe 4 20, 3)] _ rfl (List.cons_ne_nil _ _) rfl)
  have third := last.next (Schedule.Step.observe 1 (scanProbe 4 20) 3 _ [1] rfl)
  have fourth := third.next (Schedule.Step.observe 0 (scanProbe 3 15) 2 _ [1] rfl)
  exact ⟨⟨_, fourth⟩, rfl⟩

/-- The workers swap two pairs of probes, and the first pair has left the deque when the second
    comes. -/
theorem swapped_scan_is_justified :
    raised .portScan ((after UInt32.toNat swappedScanConfig (swappedScanCalls.take 3)).observe
      UInt32.toNat ⟨scanProbe 3 15, [1]⟩).2 ∧
    2 ≤ distinctPorts (15 - 10)
      [(scanProbe 2 6).parsed, (scanProbe 1 4).parsed, (scanProbe 4 20).parsed,
        (scanProbe 3 15).parsed] := by
  obtain ⟨run, calls⟩ := swapped_scan_run
  have inOrder : ∀ before call, before ++ [call] <+: run.1.calls →
      ScanOrder UInt32.toNat swappedScanConfig 1 before call := by
    rw [calls]
    have none : ∀ before call, before ++ [call] <+: [] →
        ScanOrder UInt32.toNat swappedScanConfig 1 before call := by simp
    have first : ∀ before call, before ++ [call] <+: swappedScanCalls.take 1 →
        ScanOrder UInt32.toNat swappedScanConfig 1 before call :=
      forall_step_snoc.mpr ⟨none, by decide⟩
    have second : ∀ before call, before ++ [call] <+: swappedScanCalls.take 2 →
        ScanOrder UInt32.toNat swappedScanConfig 1 before call :=
      forall_step_snoc.mpr ⟨first, by decide⟩
    have third : ∀ before call, before ++ [call] <+: swappedScanCalls.take 3 →
        ScanOrder UInt32.toNat swappedScanConfig 1 before call :=
      forall_step_snoc.mpr ⟨second, by decide⟩
    exact forall_step_snoc.mpr ⟨third, by decide⟩
  have alert : raised .portScan ((after UInt32.toNat swappedScanConfig
      (swappedScanCalls.take 3)).observe UInt32.toNat ⟨scanProbe 3 15, [1]⟩).2 := by
    decide
  have justified := scan_alerts_justified UInt32.toNat swappedScanConfig 1 swappedScan run inOrder
    (swappedScanCalls.take 3) ⟨scanProbe 3 15, [1]⟩ (by rw [calls]; rfl) (by decide)
  exact ⟨alert, justified.2 alert⟩

theorem slow_scan_run :
    ∃ run : {schedule : Schedule (Fin 2) // (Schedule.system (Fin 2)
        [scanProbe 1 0, scanProbe 2 10000, scanProbe 3 10001]).Reachable schedule},
      run.1.calls = [⟨scanProbe 2 10000, [1]⟩, ⟨scanProbe 1 0, [1]⟩, ⟨scanProbe 3 10001, [1]⟩] := by
  have start : (Schedule.system (Fin 2)
      [scanProbe 1 0, scanProbe 2 10000, scanProbe 3 10001]).Reachable
        ⟨[(scanProbe 1 0, 0), (scanProbe 2 10000, 1), (scanProbe 3 10001, 2)], fun _ => [], []⟩ :=
    TransitionSystem.Reachable.first rfl
  have early := start.next (Schedule.Step.take 0 [(scanProbe 1 0, 0)]
    [(scanProbe 2 10000, 1), (scanProbe 3 10001, 2)] rfl (List.cons_ne_nil _ _) rfl)
  have late := early.next (Schedule.Step.take 1
    [(scanProbe 2 10000, 1), (scanProbe 3 10001, 2)] [] rfl (List.cons_ne_nil _ _) rfl)
  have first := late.next (Schedule.Step.observe 1 (scanProbe 2 10000) 1 _ [1] rfl)
  have second := first.next (Schedule.Step.observe 0 (scanProbe 1 0) 0 _ [1] rfl)
  have third := second.next (Schedule.Step.observe 1 (scanProbe 3 10001) 2 _ [1] rfl)
  exact ⟨⟨_, third⟩, rfl⟩

/-- The probe of time 0, queued behind the one of time 10000, is still counted at time 10001. -/
theorem overtaken_scan_is_unjustified :
    ([scanProbe 1 0, scanProbe 2 10000, scanProbe 3 10001].Pairwise fun a b =>
      a.parsed.nowMs ≤ b.parsed.nowMs) ∧
    (∃ run : {schedule : Schedule (Fin 2) // (Schedule.system (Fin 2)
        [scanProbe 1 0, scanProbe 2 10000, scanProbe 3 10001]).Reachable schedule},
      run.1.calls =
        [⟨scanProbe 2 10000, [1]⟩, ⟨scanProbe 1 0, [1]⟩, ⟨scanProbe 3 10001, [1]⟩]) ∧
    Retained UInt32.toNat { portScanDistinctPortThreshold := 3 } 1
      [⟨scanProbe 2 10000, [1]⟩, ⟨scanProbe 1 0, [1]⟩, ⟨scanProbe 3 10001, [1]⟩] ∧
    raised .portScan ((after UInt32.toNat { portScanDistinctPortThreshold := 3 }
      [⟨scanProbe 2 10000, [1]⟩, ⟨scanProbe 1 0, [1]⟩]).observe UInt32.toNat
        ⟨scanProbe 3 10001, [1]⟩).2 = true ∧
    distinctPorts (10001 - 5000)
      [(scanProbe 2 10000).parsed, (scanProbe 1 0).parsed, (scanProbe 3 10001).parsed] = 2 :=
  ⟨by decide, slow_scan_run, Retained.of_only _ _ (by decide), by decide, by decide⟩

end NetSentinel.FlowTracker
