import NetSentinel.FlowTracker.Eviction
import NetSentinel.FlowTracker.Refinement

namespace NetSentinel.Rescan

/-- From time `since` on, the record answers both rules as its source's whole history would. -/
structure Follows (config : FlowTrackerConfig) (log : List Observation) (since : Int)
    (state : PerIpState) : Prop where
  ports : PortsFollow config log since state
  syns : SynsFollow config log since state

section Step

variable {config : FlowTrackerConfig} {log : List Observation} {since : Int} {state : PerIpState}

theorem Follows.fresh (config : FlowTrackerConfig) (since : Int) : Follows config [] since {} where
  ports := PortsFollow.fresh config since
  syns := SynsFollow.fresh config since

theorem Follows.later {nowMs : Int} (follows : Follows config log since state)
    (later : since ≤ nowMs) : Follows config log nowMs state where
  ports := follows.ports.later later
  syns := follows.syns.later later

theorem Follows.forget (debounce : 0 ≤ config.alertDebounceMs)
    (ports : config.portScanWindowMs ≤ config.idleTtlMs)
    (syns : config.synFloodWindowMs ≤ config.idleTtlMs)
    (alerts : config.alertDebounceMs ≤ config.idleTtlMs)
    (idle : ∀ observation ∈ log, observation.packet.nowMs < since - config.idleTtlMs) :
    Follows config log since {} := by
  have stale (window : Int) (covered : window ≤ config.idleTtlMs) :
      ∀ observation ∈ log, observation.packet.nowMs < since - window := by
    intro observation member
    have := idle observation member
    omega
  exact ⟨PortsFollow.forget debounce (stale _ ports) (stale _ alerts),
    SynsFollow.forget debounce (stale _ syns) (stale _ alerts)⟩

theorem Follows.observe {packet : ParsedPacket} (follows : Follows config log since state)
    (later : since ≤ packet.nowMs)
    (bound : packet.isConnectionAttempt → state.recentDstPorts.length + 1 < 2^32) :
    (state.observe config packet).2 =
        portScanAlerts config log packet ++ synFloodAlerts config log packet ∧
      Follows config (log ++ [⟨packet, (state.observe config packet).2⟩]) packet.nowMs
        (state.observe config packet).1 := by
  obtain ⟨scan, -, ports⟩ := follows.ports.observe later bound
  obtain ⟨flood, -, syns⟩ := follows.syns.observe later
  refine ⟨?_, ports, syns⟩
  rw [PerIpState.observe_eq, scan, flood]

theorem Follows.observe_length {packet : ParsedPacket} {other : PerIpState}
    (follows : Follows config log since state) (same : Follows config log since other)
    (later : since ≤ packet.nowMs)
    (shorter : state.recentDstPorts.length ≤ other.recentDstPorts.length) :
    (state.observe config packet).1.recentDstPorts.length ≤
      (other.observe config packet).1.recentDstPorts.length := by
  rw [PerIpState.observe_eq, PerIpState.observe_eq]
  dsimp only
  by_cases attempt : packet.isConnectionAttempt
  · rw [(PerIpState.observePortScan_attempt config packet state attempt).1,
      (PerIpState.observePortScan_attempt config packet other attempt).1,
      follows.ports.attempt_window later attempt, same.ports.attempt_window later attempt]
  · rw [PerIpState.observePortScan_other config packet state attempt,
      PerIpState.observePortScan_other config packet other attempt]
    exact shorter

end Step

end NetSentinel.Rescan

namespace NetSentinel.FlowTracker

open Rescan

variable (hash : UInt32 → Nat)

def StreamOrdered (calls : List ObserveCall) : Prop :=
  calls.Pairwise fun a b => a.packet.parsed.nowMs ≤ b.packet.parsed.nowMs

/-- The hard ceiling never removes the record of `ip`: what the idle loop of a sweep leaves of it,
    the sweep leaves. -/
def CapSpares (config : FlowTrackerConfig) (ip : UInt32) (calls : List ObserveCall) : Prop :=
  ∀ before call, before ++ [call] <+: calls → call.packet.parsed.hasIp →
    config.sweepIntervalPackets ≤
      ((after hash config before).touch hash call.packet.parsed).1.observationsSinceSweep + 1 →
    ip ∈ evictIdle (call.packet.parsed.nowMs - config.idleTtlMs) call.packet.parsed.srcIp call.order
      ((after hash config before).touch hash call.packet.parsed).1.perIp →
    ip ∈ evictStale config call.order call.packet.parsed.nowMs call.packet.parsed.srcIp
      ((after hash config before).touch hash call.packet.parsed).1.perIp

theorem StreamOrdered.before_last {calls : List ObserveCall} {call earlier : ObserveCall}
    (ordered : StreamOrdered (calls ++ [call])) (member : earlier ∈ calls) :
    earlier.packet.parsed.nowMs ≤ call.packet.parsed.nowMs := by
  unfold StreamOrdered at ordered
  rw [List.pairwise_append] at ordered
  exact ordered.2.2 earlier member call (by simp)

theorem StreamOrdered.initial {calls before : List ObserveCall} (ordered : StreamOrdered calls)
    (isPrefix : before <+: calls) : StreamOrdered before := ordered.sublist isPrefix.sublist

theorem evictStale_withShards (config : FlowTrackerConfig) (order : List UInt32) (nowMs : Int)
    (keepIp : UInt32) (perIp : IpMap) :
    evictStale config.withShards order nowMs keepIp perIp =
      evictStale config order nowMs keepIp perIp := by
  unfold evictStale FlowTrackerConfig.withShards
  split <;> rfl

theorem CapSpares.snoc_own {config : FlowTrackerConfig} {ip : UInt32} {calls : List ObserveCall}
    {call : ObserveCall} (spares : CapSpares hash config ip calls)
    (mine : call.packet.parsed.isFrom ip) : CapSpares hash config ip (calls ++ [call]) := by
  refine forall_step_snoc.mpr ⟨spares, fun _ _ _ => ?_⟩
  obtain ⟨-, source⟩ : call.packet.parsed.hasIp ∧ call.packet.parsed.srcIp = ip := by
    simpa [ParsedPacket.isFrom] using mine
  rw [← source, ← AList.lookup_isSome, evictStale_keeps, AList.lookup_isSome]
  exact mem_touch hash _ _

theorem CapSpares.swept_idle {config : FlowTrackerConfig} {ip : UInt32}
    {calls before : List ObserveCall} {call : ObserveCall} {record : PerIpState}
    (spares : CapSpares hash config ip calls) (isPrefix : before ++ [call] <+: calls)
    (other : ¬ call.packet.parsed.isFrom ip)
    (present : (after hash config before).recordOf hash ip = some record)
    (gone : (after hash config (before ++ [call])).recordOf hash ip = none) :
    record.lastSeenMs < call.packet.parsed.nowMs - config.idleTtlMs := by
  rw [after_snoc] at gone
  cases hasIp : call.packet.parsed.hasIp with
  | false =>
    rw [observe_without_ip hash _ call hasIp, present] at gone
    cases gone
  | true =>
    have apart : ip ≠ call.packet.parsed.srcIp := by
      intro same
      simp [ParsedPacket.isFrom, hasIp, same] at other
    simp only [observe, hasIp, ↓reduceIte, recordOf, setShard_shardFor] at gone
    split at gone
    · rename_i sameShard
      have found : ((after hash config before).touch hash call.packet.parsed).1.perIp.lookup ip =
          some record := by
        rw [← present]
        simp [touch, recordOf, shardFor, sameShard, AList.lookup_insert_ne apart]
      unfold Shard.sweepIfDue at gone
      split at gone
      · rename_i due
        rw [after_config, FlowTrackerConfig.withShards_sweepIntervalPackets] at due
        rw [after_config] at gone
        have survives := spares before call isPrefix hasIp due
        apply evictIdle_removes found
        intro kept
        have stays := AList.lookup_isSome.mpr (survives kept)
        rw [evictStale_withShards] at gone
        rw [gone] at stays
        cases stays
      · rw [found] at gone
        cases gone
    · unfold recordOf at present
      rw [present] at gone
      cases gone

theorem mem_sourceLog {config : FlowTrackerConfig} {ip : UInt32} {calls : List ObserveCall}
    {observation : Observation} (member : observation ∈ sourceLog hash config ip calls) :
    ∃ call ∈ calls, call.packet.parsed = observation.packet := by
  have packet := List.mem_map_of_mem (f := Observation.packet) member
  rw [sourceLog_packets] at packet
  exact List.mem_map.mp (List.mem_filter.mp packet).1

theorem StreamOrdered.log_past {config : FlowTrackerConfig} {ip : UInt32}
    {calls : List ObserveCall} {call : ObserveCall} (ordered : StreamOrdered (calls ++ [call])) :
    ∀ observation ∈ sourceLog hash config ip calls,
      observation.packet.nowMs ≤ call.packet.parsed.nowMs := by
  intro observation member
  obtain ⟨earlier, here, same⟩ := mem_sourceLog hash member
  rw [← same]
  exact ordered.before_last here

theorem replay_packets (config : FlowTrackerConfig) (calls : List ObserveCall) :
    (replay hash config calls).2.map Observation.packet =
      calls.map fun call => call.packet.parsed := by
  induction calls using List.reverseRecOn with
  | nil => rfl
  | append_singleton calls call ih => simp [replay_snoc, ih]

theorem sourceLog_only (config : FlowTrackerConfig) {ip : UInt32} {calls : List ObserveCall}
    (only : ∀ call ∈ calls, call.packet.parsed.isFrom ip) :
    sourceLog hash config ip calls = (replay hash config calls).2 := by
  unfold sourceLog
  rw [List.filter_eq_self]
  intro observation member
  have packet := List.mem_map_of_mem (f := Observation.packet) member
  rw [replay_packets] at packet
  obtain ⟨call, here, same⟩ := List.mem_map.mp packet
  rw [← same]
  exact only call here

theorem lastSeen_latest {config : FlowTrackerConfig} {ip : UInt32} {calls : List ObserveCall}
    {record : PerIpState} (ordered : StreamOrdered calls)
    (present : (after hash config calls).recordOf hash ip = some record) :
    ∀ observation ∈ sourceLog hash config ip calls,
      observation.packet.nowMs ≤ record.lastSeenMs := by
  induction calls using List.reverseRecOn generalizing record with
  | nil =>
    intro observation member
    cases member
  | append_singleton calls call ih =>
    rw [after_snoc] at present
    by_cases mine : call.packet.parsed.isFrom ip
    · rw [(observe_self hash _ mine).2] at present
      cases present
      rw [PerIpState.observe_eq, sourceLog_mine hash mine]
      intro observation member
      rcases List.mem_append.mp member with old | new
      · exact ordered.log_past hash observation old
      · rw [List.mem_singleton.mp new]
    · rw [sourceLog_other hash mine]
      rcases observe_other hash (after hash config calls) mine with same | gone
      · rw [same] at present
        exact ih (ordered.initial (List.prefix_append _ _)) present
      · rw [gone] at present
        cases present

def SoloBounded (config : FlowTrackerConfig) (packets : List ParsedPacket) : Prop :=
  ∀ before packet, before ++ [packet] <+: packets → packet.isConnectionAttempt →
    (PerIpState.replay config before).1.recentDstPorts.length + 1 < 2^32

structure Agree (config : FlowTrackerConfig) (log : List Observation) (packets : List ParsedPacket)
    (since : Int) (record : PerIpState) : Prop where
  sameLog : log = (PerIpState.replay config packets).2
  actual : Follows config log since record
  solo : Follows config log since (PerIpState.replay config packets).1
  shorter : record.recentDstPorts.length ≤
    (PerIpState.replay config packets).1.recentDstPorts.length

theorem Agree.later {config : FlowTrackerConfig} {log : List Observation}
    {packets : List ParsedPacket} {since nowMs : Int} {record : PerIpState}
    (agree : Agree config log packets since record) (later : since ≤ nowMs) :
    Agree config log packets nowMs record where
  sameLog := agree.sameLog
  actual := agree.actual.later later
  solo := agree.solo.later later
  shorter := agree.shorter

theorem Agree.observe {config : FlowTrackerConfig} {log : List Observation}
    {packets : List ParsedPacket} {packet : ParsedPacket} {record : PerIpState}
    (agree : Agree config log packets packet.nowMs record)
    (bound : packet.isConnectionAttempt →
      (PerIpState.replay config packets).1.recentDstPorts.length + 1 < 2^32) :
    Agree config (log ++ [⟨packet, (record.observe config packet).2⟩]) (packets ++ [packet])
      packet.nowMs (record.observe config packet).1 := by
  have shorter := agree.shorter
  have actualBound (attempt : packet.isConnectionAttempt) :
      record.recentDstPorts.length + 1 < 2^32 := by
    have := bound attempt
    omega
  obtain ⟨actualAlerts, actual⟩ := agree.actual.observe le_rfl actualBound
  obtain ⟨soloAlerts, solo⟩ := agree.solo.observe le_rfl bound
  have sameAlerts := actualAlerts.trans soloAlerts.symm
  refine ⟨?_, actual, ?_, ?_⟩
  · rw [PerIpState.replay_snoc, sameAlerts, ← agree.sameLog]
  · rw [PerIpState.replay_snoc, sameAlerts]
    exact solo
  · rw [PerIpState.replay_snoc]
    exact agree.actual.observe_length agree.solo le_rfl shorter

theorem agree_run {config : FlowTrackerConfig} {ip : UInt32} {calls : List ObserveCall}
    (debounce : 0 ≤ config.alertDebounceMs)
    (ports : config.portScanWindowMs ≤ config.idleTtlMs)
    (syns : config.synFloodWindowMs ≤ config.idleTtlMs)
    (alerts : config.alertDebounceMs ≤ config.idleTtlMs)
    (ordered : StreamOrdered calls) (spares : CapSpares hash config ip calls)
    (bounded : SoloBounded config (sourcePackets ip calls)) (nowMs : Int)
    (past : ∀ call ∈ calls, call.packet.parsed.nowMs ≤ nowMs) :
    Agree config (sourceLog hash config ip calls) (sourcePackets ip calls) nowMs
      (((after hash config calls).recordOf hash ip).getD {}) := by
  refine record_rule hash (fun calls record => ∀ nowMs,
    (∀ call ∈ calls, call.packet.parsed.nowMs ≤ nowMs) →
      Agree config (sourceLog hash config ip calls) (sourcePackets ip calls) nowMs record)
    ?_ calls ?_ ?_ ?_ nowMs past
  · intro nowMs _
    exact ⟨rfl, Follows.fresh config nowMs, Follows.fresh config nowMs, le_rfl⟩
  · intro before call isPrefix mine earlier nowMs past
    have now := earlier call.packet.parsed.nowMs fun earlier member =>
      (ordered.initial isPrefix).before_last member
    have longer := sourcePackets_mono ip isPrefix
    rw [sourcePackets_mine mine] at longer ⊢
    rw [sourceLog_mine hash mine]
    exact (now.observe (bounded _ _ longer)).later (past call (by simp))
  · intro before call _ other earlier nowMs past
    rw [sourceLog_other hash other, sourcePackets_other other]
    exact earlier nowMs fun earlier member => past earlier (List.mem_append_left _ member)
  · intro before call isPrefix other present gone earlier nowMs past
    rw [sourceLog_other hash other, sourcePackets_other other]
    have now := earlier nowMs fun earlier member => past earlier (List.mem_append_left _ member)
    obtain ⟨record, found⟩ := Option.isSome_iff_exists.mp present
    have idle := spares.swept_idle hash isPrefix other found gone
    have latest := lastSeen_latest hash
      (ordered.initial ((List.prefix_append before [call]).trans isPrefix)) found
    have current := past call (by simp)
    refine ⟨now.sameLog, Follows.forget debounce ports syns alerts ?_, now.solo, Nat.zero_le _⟩
    intro observation member
    have := latest observation member
    omega

theorem sourcePackets_only {ip : UInt32} {calls : List ObserveCall}
    (only : ∀ call ∈ calls, call.packet.parsed.isFrom ip) :
    sourcePackets ip calls = calls.map fun call => call.packet.parsed := by
  unfold sourcePackets
  rw [List.filter_eq_self]
  intro packet member
  obtain ⟨call, here, rfl⟩ := List.mem_map.mp member
  exact only call here

theorem AttemptsBounded.solo {config : FlowTrackerConfig} {ip : UInt32} {solo : List ObserveCall}
    (only : ∀ call ∈ solo, call.packet.parsed.isFrom ip)
    (bounded : AttemptsBounded hash config ip solo) :
    SoloBounded config (sourcePackets ip solo) := by
  intro before packet isPrefix attempt
  rw [sourcePackets_only only] at isPrefix
  obtain ⟨rest, whole⟩ := isPrefix
  obtain ⟨front, back, rfl, fronts, -⟩ := List.map_eq_append_iff.mp whole.symm
  obtain ⟨earlier, last, rfl, same, single⟩ := List.map_eq_append_iff.mp fronts
  obtain ⟨call, rfl, rfl⟩ := List.map_eq_singleton_iff.mp single
  have inside : earlier ++ [call] <+: earlier ++ [call] ++ back := List.prefix_append _ _
  have mine := only call (by simp)
  have retained : Retained hash config ip earlier :=
    Retained.of_only hash config fun call member => only call (by simp [member])
  have bound := bounded earlier call inside mine attempt
  rw [(retained.projection hash).1, sourcePackets_only fun call member => only call (by simp [member]),
    same] at bound
  exact bound

/-- Other sources, shards and sweeps neither add, remove nor change an alert of a source, as long
    as its own run never queues 2^32 attempts at once. -/
theorem source_noninterference (config : FlowTrackerConfig) (ip : UInt32)
    (calls solo : List ObserveCall) (debounce : 0 ≤ config.alertDebounceMs)
    (ports : config.portScanWindowMs ≤ config.idleTtlMs)
    (syns : config.synFloodWindowMs ≤ config.idleTtlMs)
    (alerts : config.alertDebounceMs ≤ config.idleTtlMs)
    (ordered : StreamOrdered calls) (spares : CapSpares hash config ip calls)
    (own : (solo.map fun call => call.packet.parsed) = sourcePackets ip calls)
    (bounded : AttemptsBounded hash config ip solo) :
    sourceLog hash config ip calls = (replay hash config solo).2 := by
  have only : ∀ call ∈ solo, call.packet.parsed.isFrom ip := by
    intro call member
    have here := List.mem_map_of_mem (f := fun call : ObserveCall => call.packet.parsed) member
    rw [own] at here
    exact (List.mem_filter.mp here).2
  have packets : sourcePackets ip solo = sourcePackets ip calls := by
    rw [sourcePackets_only only, own]
  have soloBounded := bounded.solo hash only
  have soloLog := ((Retained.of_only hash config only).projection hash).2
  rw [packets] at soloBounded soloLog
  have whole : sourceLog hash config ip solo = (replay hash config solo).2 :=
    sourceLog_only hash config only
  rw [← whole, soloLog]
  cases calls using List.reverseRecOn with
  | nil => rfl
  | append_singleton calls call =>
    have agree := agree_run hash debounce ports syns alerts ordered spares soloBounded
      call.packet.parsed.nowMs fun earlier member => by
        rcases List.mem_append.mp member with old | new
        · exact ordered.before_last old
        · rw [List.mem_singleton.mp new]
    exact agree.sameLog

def wrapConfig : FlowTrackerConfig where
  numShards := 1
  portScanWindowMs := 0
  portScanDistinctPortThreshold := 1
  synFloodWindowMs := 0
  alertDebounceMs := 0
  idleTtlMs := 0
  sweepIntervalPackets := 1

def udpAttempt (srcIp : UInt32) (timestampMs : Int) (order : List UInt32) : ObserveCall :=
  ⟨makeTestPacket srcIp 9 40000 80 0 timestampMs .udp, order⟩

theorem repeated_attempts (n : Nat) :
    (PerIpState.replay wrapConfig (List.replicate n (udpAttempt 1 0 [1]).packet.parsed)).1.recentDstPorts =
        List.replicate n (0, 80) ∧
      Tally.Exact (PerIpState.replay wrapConfig
        (List.replicate n (udpAttempt 1 0 [1]).packet.parsed)).1.portCounts (List.replicate n 80) ∧
      (PerIpState.replay wrapConfig
        (List.replicate n (udpAttempt 1 0 [1]).packet.parsed)).1.lastSeenMs = 0 := by
  induction n with
  | zero => exact ⟨rfl, Tally.Exact.empty, rfl⟩
  | succ n ih =>
    obtain ⟨ports, counts, -⟩ := ih
    rw [List.replicate_succ', PerIpState.replay_snoc, PerIpState.observe_eq]
    dsimp only
    rw [(PerIpState.observePortScan_attempt wrapConfig _ _ (by decide)).1,
      (PerIpState.observePortScan_attempt wrapConfig _ _ (by decide)).2]
    have time : (udpAttempt 1 0 [1]).packet.parsed.nowMs = 0 := rfl
    have port : (udpAttempt 1 0 [1]).packet.parsed.dstPort = 80 := rfl
    unfold PerIpState.recordAttempt expirePorts
    dsimp only
    have counted := counts.increment 80
    rw [ports, time, port]
    rw [← List.replicate_succ', List.replicate_succ] at counted ⊢
    exact ⟨rfl, counted, rfl⟩

theorem decrement_twice {counts : Tally.Counts UInt16} {port : UInt16}
    (value : ∀ key, counts.lookup key = if key = port then some 2 else none) :
    Tally.decrement (Tally.decrement counts port) port = ∅ := by
  apply Tally.eq_empty_of_lookup
  intro key
  by_cases same : key = port
  · subst same
    rw [Tally.decrement_lookup_self, Tally.decrement_lookup_self, value, if_pos rfl]
    decide
  · rw [Tally.decrement_lookup_ne _ same, Tally.decrement_lookup_ne _ same, value, if_neg same]

theorem wrapped_attempt_is_lost {state : PerIpState} {m : Nat} (wraps : UInt32.ofNat (m + 3) = 2)
    (ports : state.recentDstPorts = List.replicate (m + 2) (0, 80))
    (counts : Tally.Exact state.portCounts (List.replicate (m + 2) 80)) :
    (state.recordAttempt wrapConfig (udpAttempt 1 1 [1]).packet.parsed).portCounts = ∅ := by
  have counted := counts.increment 80
  rw [← List.replicate_succ'] at counted
  have value : ∀ key, (Tally.increment state.portCounts 80).lookup key =
      if key = 80 then some 2 else none := by
    intro key
    rw [counted key, List.count_replicate]
    by_cases same : key = 80
    · subst same
      rw [if_pos rfl, if_pos (beq_self_eq_true _), if_neg (Nat.succ_ne_zero _)]
      exact congrArg some wraps
    · simp [same, Ne.symm same]
  unfold PerIpState.recordAttempt expirePorts
  dsimp only
  rw [ports, List.replicate_succ, List.replicate_succ, List.cons_append, List.cons_append]
  have time : (udpAttempt 1 1 [1]).packet.parsed.nowMs - wrapConfig.portScanWindowMs = 1 := rfl
  have port : (udpAttempt 1 1 [1]).packet.parsed.dstPort = 80 := rfl
  rw [time, port]
  unfold SlidingWindow.popExpired
  rw [if_pos (by decide)]
  unfold SlidingWindow.popExpired
  rw [if_pos (by decide), decrement_twice value]
  refine SlidingWindow.popExpired_invariant (fun _ (counts : Tally.Counts UInt16) => counts = ∅)
    ?_ _ _ rfl
  intro entry rest counts _ empty
  subst empty
  simp [Tally.decrement]

def wrapSolo (n : Nat) : List ObserveCall :=
  List.replicate n (udpAttempt 1 0 [1]) ++ [udpAttempt 1 1 [1]]

def wrapCalls (n : Nat) : List ObserveCall :=
  List.replicate n (udpAttempt 1 0 [1]) ++ [udpAttempt 2 1 [2, 1]] ++ [udpAttempt 1 1 [1, 2]]

theorem attempts_only (n : Nat) :
    ∀ call ∈ List.replicate n (udpAttempt 1 0 [1]), call.packet.parsed.isFrom 1 := by
  intro call member
  rw [List.eq_of_mem_replicate member]
  decide

theorem attempts_packets (n : Nat) :
    sourcePackets 1 (List.replicate n (udpAttempt 1 0 [1])) =
      List.replicate n (udpAttempt 1 0 [1]).packet.parsed := by
  rw [sourcePackets_only (attempts_only n), List.map_replicate]

theorem attempts_record (n : Nat) :
    ((after UInt32.toNat wrapConfig (List.replicate n (udpAttempt 1 0 [1]))).recordOf
      UInt32.toNat 1).getD {} =
    (PerIpState.replay wrapConfig (List.replicate n (udpAttempt 1 0 [1]).packet.parsed)).1 := by
  rw [← attempts_packets]
  exact ((Retained.of_only UInt32.toNat wrapConfig (attempts_only n)).projection UInt32.toNat).1

theorem wrap_single (calls : List ObserveCall) :
    (after UInt32.toNat wrapConfig calls).shards.length = 1 :=
  after_shards_length UInt32.toNat wrapConfig calls

theorem attempts_recordOf (n : Nat) (ip : UInt32) :
    ((after UInt32.toNat wrapConfig (List.replicate (n + 1) (udpAttempt 1 0 [1]))).recordOf
      UInt32.toNat ip).isSome ↔ ip = 1 := by
  constructor
  · intro present
    obtain ⟨record, found⟩ := Option.isSome_iff_exists.mp present
    obtain ⟨call, member, source⟩ := recordOf_seen UInt32.toNat found
    rw [List.eq_of_mem_replicate member] at source
    have same : ((1 : UInt32) == ip) = true := source
    exact (beq_iff_eq.mp same).symm
  · intro same
    subst same
    rw [List.replicate_succ', after_snoc, (observe_self UInt32.toNat _ (by decide)).2]
    rfl

theorem attempts_valid (n : Nat) :
    ValidOrders UInt32.toNat wrapConfig (List.replicate n (udpAttempt 1 0 [1])) := by
  induction n with
  | zero => exact ValidOrders.empty _ _
  | succ n ih =>
    rw [List.replicate_succ']
    apply ih.snoc
    apply Iterates.of_single _ (wrap_single _) (by decide)
    intro ip
    cases n with
    | zero =>
      rw [show after UInt32.toNat wrapConfig (List.replicate 0 _) = new wrapConfig from rfl,
        recordOf_new]
      simp [udpAttempt, makeTestPacket]
    | succ n =>
      rw [attempts_recordOf]
      simp [udpAttempt, makeTestPacket]

theorem attempts_idle (n : Nat) :
    (after UInt32.toNat wrapConfig
      (List.replicate (n + 1) (udpAttempt 1 0 [1]) ++ [udpAttempt 2 1 [2, 1]])).recordOf
        UInt32.toNat 1 = none ∧
      Iterates UInt32.toNat
        (after UInt32.toNat wrapConfig (List.replicate (n + 1) (udpAttempt 1 0 [1])))
        (udpAttempt 2 1 [2, 1]) := by
  have iterates : Iterates UInt32.toNat
      (after UInt32.toNat wrapConfig (List.replicate (n + 1) (udpAttempt 1 0 [1])))
      (udpAttempt 2 1 [2, 1]) := by
    apply Iterates.of_single _ (wrap_single _) (by decide)
    intro ip
    rw [attempts_recordOf]
    simp [udpAttempt, makeTestPacket]
  refine ⟨?_, iterates⟩
  obtain ⟨record, found⟩ := Option.isSome_iff_exists.mp ((attempts_recordOf n 1).mpr rfl)
  have seen := (repeated_attempts (n + 1)).2.2
  rw [← attempts_record, found, Option.getD_some] at seen
  rw [after_snoc]
  apply observe_sweeps_idle UInt32.toNat (wrap_single _) rfl (by decide) _ iterates found
  · rw [seen, after_config]
    decide
  · rw [after_config]
    exact Nat.le_add_left 1 _

theorem attempts_spared (n : Nat) :
    CapSpares UInt32.toNat wrapConfig 1 (List.replicate n (udpAttempt 1 0 [1])) := by
  induction n with
  | zero =>
    intro before call isPrefix
    simp at isPrefix
  | succ n ih =>
    rw [List.replicate_succ']
    exact ih.snoc_own _ (by decide)

theorem wrapCalls_spared (n : Nat) :
    CapSpares UInt32.toNat wrapConfig 1 (wrapCalls (n + 1)) := by
  apply CapSpares.snoc_own _ _ (by decide)
  refine forall_step_snoc.mpr ⟨attempts_spared (n + 1), fun _ _ survives => ?_⟩
  obtain ⟨record, found⟩ := Option.isSome_iff_exists.mp ((attempts_recordOf n 1).mpr rfl)
  have seen := (repeated_attempts (n + 1)).2.2
  rw [← attempts_record, found, Option.getD_some] at seen
  have here : ((after UInt32.toNat wrapConfig (List.replicate (n + 1) (udpAttempt 1 0 [1]))).touch
      UInt32.toNat (udpAttempt 2 1 [2, 1]).packet.parsed).1.perIp.lookup 1 = some record := by
    rw [← found]
    unfold touch recordOf
    dsimp only
    rw [AList.lookup_insert_ne (by decide),
      single_shardFor UInt32.toNat (wrap_single _) 1 (udpAttempt 2 1 [2, 1]).packet.parsed.srcIp]
  have idle : record.lastSeenMs <
      (udpAttempt 2 1 [2, 1]).packet.parsed.nowMs - wrapConfig.idleTtlMs := by
    rw [seen]
    decide
  exact (not_mem_evictIdle here (by decide) (by decide) idle survives).elim

theorem wrapCalls_valid (n : Nat) : ValidOrders UInt32.toNat wrapConfig (wrapCalls (n + 1)) := by
  apply ValidOrders.snoc _ ((attempts_valid (n + 1)).snoc _ (attempts_idle n).2)
  apply Iterates.of_single _ (wrap_single _) (by decide)
  intro ip
  constructor
  · intro listed
    rcases List.mem_pair.mp listed with rfl | rfl
    · exact .inl rfl
    · right
      rw [after_snoc, (observe_self UInt32.toNat _ (by decide)).2]
      rfl
  · rintro (rfl | tracked)
    · decide
    · obtain ⟨record, found⟩ := Option.isSome_iff_exists.mp tracked
      obtain ⟨call, member, source⟩ := recordOf_seen UInt32.toNat found
      rcases List.mem_append.mp member with old | new
      · rw [List.eq_of_mem_replicate old] at source
        have same : ((1 : UInt32) == ip) = true := source
        exact List.mem_pair.mpr (.inl (beq_iff_eq.mp same).symm)
      · rw [List.mem_singleton.mp new] at source
        have same : ((2 : UInt32) == ip) = true := source
        exact List.mem_pair.mpr (.inr (beq_iff_eq.mp same).symm)

theorem wrapCalls_ordered (n : Nat) : StreamOrdered (wrapCalls n) := by
  unfold StreamOrdered wrapCalls
  rw [List.append_assoc, List.pairwise_append]
  refine ⟨List.pairwise_replicate.mpr (.inr le_rfl), by decide, ?_⟩
  intro earlier old later new
  rw [List.eq_of_mem_replicate old]
  revert later
  decide

theorem wrapCalls_own (n : Nat) :
    ((wrapSolo n).map fun call => call.packet.parsed) = sourcePackets 1 (wrapCalls n) := by
  unfold wrapSolo wrapCalls
  rw [sourcePackets_mine (by decide), sourcePackets_other (by decide), attempts_packets]
  simp [udpAttempt]

theorem swept_source_sees_the_same :
    sourceLog UInt32.toNat wrapConfig 1 (wrapCalls 1) =
      (replay UInt32.toNat wrapConfig (wrapSolo 1)).2 :=
  source_noninterference UInt32.toNat wrapConfig 1 (wrapCalls 1) (wrapSolo 1) (by decide)
    (by decide) (by decide) (by decide) (wrapCalls_ordered 1) (wrapCalls_spared 0)
    (wrapCalls_own 1) (AttemptsBounded.of_length _ (by decide))

theorem wrapped_attempt_is_silent {m : Nat} (wraps : UInt32.ofNat (m + 3) = 2) :
    ((PerIpState.replay wrapConfig
      (List.replicate (m + 2) (udpAttempt 1 0 [1]).packet.parsed)).1.observe wrapConfig
        (udpAttempt 1 1 [1]).packet.parsed).2 = [] := by
  obtain ⟨ports, counts, -⟩ := repeated_attempts (m + 2)
  have lost := wrapped_attempt_is_lost wraps ports counts
  rw [PerIpState.observe_eq, PerIpState.observePortScan_eq _ _ _ (by decide),
    PerIpState.observeSynFlood_other _ _ _ (by decide), lost]
  rfl

theorem wrapped_runs_differ {m : Nat} (wraps : UInt32.ofNat (m + 3) = 2) :
    sourceLog UInt32.toNat wrapConfig 1 (wrapCalls (m + 2)) ≠
      (replay UInt32.toNat wrapConfig (wrapSolo (m + 2))).2 := by
  intro same
  have only : ∀ call ∈ wrapSolo (m + 2), call.packet.parsed.isFrom 1 := by
    intro call member
    rcases List.mem_append.mp member with old | new
    · exact attempts_only _ call old
    · rw [List.mem_singleton.mp new]
      decide
  have alone : sourceLog UInt32.toNat wrapConfig 1 (wrapSolo (m + 2)) = _ :=
    sourceLog_mine UInt32.toNat (by decide)
  have whole : sourceLog UInt32.toNat wrapConfig 1 (wrapCalls (m + 2)) = _ :=
    sourceLog_mine UInt32.toNat (by decide)
  rw [attempts_record, wrapped_attempt_is_silent wraps] at alone
  rw [(attempts_idle (m + 1)).1] at whole
  rw [← sourceLog_only UInt32.toNat wrapConfig only, alone, whole] at same
  have last := (List.append_inj' same rfl).2
  rw [List.cons.injEq, Observation.mk.injEq] at last
  revert last
  decide

/-- In a run of 2^32 + 1 equal attempts the source's own counter wraps and its last attempt goes
    unseen; in the whole stream the record is forgotten in between and the same attempt is
    reported. -/
theorem wrapped_counter_interferes :
    (0 ≤ wrapConfig.alertDebounceMs ∧ wrapConfig.portScanWindowMs ≤ wrapConfig.idleTtlMs ∧
      wrapConfig.synFloodWindowMs ≤ wrapConfig.idleTtlMs ∧
      wrapConfig.alertDebounceMs ≤ wrapConfig.idleTtlMs) ∧
    StreamOrdered (wrapCalls 4294967297) ∧
    ValidOrders UInt32.toNat wrapConfig (wrapCalls 4294967297) ∧
    CapSpares UInt32.toNat wrapConfig 1 (wrapCalls 4294967297) ∧
    ((wrapSolo 4294967297).map fun call => call.packet.parsed) =
      sourcePackets 1 (wrapCalls 4294967297) ∧
    sourceLog UInt32.toNat wrapConfig 1 (wrapCalls 4294967297) ≠
      (replay UInt32.toNat wrapConfig (wrapSolo 4294967297)).2 := by
  have wraps : UInt32.ofNat (4294967295 + 3) = 2 := by decide
  exact ⟨by decide, wrapCalls_ordered _, wrapCalls_valid 4294967296, wrapCalls_spared 4294967296,
    wrapCalls_own _, wrapped_runs_differ wraps⟩

end NetSentinel.FlowTracker
