import NetSentinel.FlowTracker.Eviction
import NetSentinel.FlowTracker.PortScan
import NetSentinel.FlowTracker.SynFlood

namespace NetSentinel

open Rescan

/-- The stamp `debounce_allows` is asked about for alerts of this type. -/
def PerIpState.lastAlertMs (state : PerIpState) : AnomalyType → Option Int
  | .portScan => state.lastPortScanAlertMs
  | .synFlood => state.lastSynFloodAlertMs
  | _ => none

theorem ruleFires_stamps {config : FlowTrackerConfig} {threshold count : Nat} {last : Option Int}
    {nowMs : Int} (fires : (ruleFires config threshold count last nowMs).1 = true) :
    (ruleFires config threshold count last nowMs).2 = some nowMs ∧
      ∀ t, last = some t → config.alertDebounceMs ≤ nowMs - t := by
  unfold ruleFires debounceAllows at *
  split at fires
  · rename_i reached
    rw [if_pos reached]
    cases last with
    | none => exact ⟨rfl, by simp⟩
    | some t =>
      dsimp only at fires ⊢
      split at fires
      · cases fires
      · rename_i elapsed
        rw [if_neg elapsed]
        refine ⟨rfl, fun t' same => ?_⟩
        cases same
        omega
  · cases fires

theorem ruleFires_silent {config : FlowTrackerConfig} {threshold count : Nat} {last : Option Int}
    {nowMs : Int} (silent : (ruleFires config threshold count last nowMs).1 = false) :
    (ruleFires config threshold count last nowMs).2 = last := by
  unfold ruleFires debounceAllows at *
  split at silent
  · rename_i reached
    rw [if_pos reached]
    cases last with
    | none => cases silent
    | some t =>
      dsimp only at silent ⊢
      split at silent
      · rename_i recent
        rw [if_pos recent]
      · cases silent
  · rename_i below
    rw [if_neg below]

/-- One observation against one rule: an alert needs an old enough stamp and renews it, and
    without an alert the stamp stays. -/
structure Debounced (config : FlowTrackerConfig) (type : AnomalyType) (nowMs : Int)
    (alerts : List Alert) (earlier later : Option Int) : Prop where
  renewed : raised type alerts = true →
    later = some nowMs ∧ ∀ t, earlier = some t → config.alertDebounceMs ≤ nowMs - t
  unchanged : raised type alerts = false → later = earlier

theorem Debounced.of_ruleFires {config : FlowTrackerConfig} {type : AnomalyType}
    {threshold count : Nat} {last : Option Int} {nowMs : Int} {alerts : List Alert}
    (fired : raised type alerts = (ruleFires config threshold count last nowMs).1) :
    Debounced config type nowMs alerts last (ruleFires config threshold count last nowMs).2 where
  renewed raises := ruleFires_stamps (fired ▸ raises)
  unchanged silent := ruleFires_silent (fired ▸ silent)

theorem Debounced.of_silent {config : FlowTrackerConfig} {type : AnomalyType} {nowMs : Int}
    {alerts : List Alert} (stamp : Option Int) (silent : raised type alerts = false) :
    Debounced config type nowMs alerts stamp stamp where
  renewed raises := by
    rw [silent] at raises
    cases raises
  unchanged _ := rfl

namespace PerIpState

variable (config : FlowTrackerConfig) (packet : ParsedPacket) (state : PerIpState)

theorem observe_alerts_once (type : AnomalyType) :
    ((state.observe config packet).2.filter fun alert => alert.type == type).length ≤ 1 := by
  rw [observe_eq]
  dsimp only
  rcases observePortScan_alerts config packet state with scan | ⟨ports, scan⟩ <;>
    rcases observeSynFlood_alerts config packet state with flood | ⟨pending, flood⟩ <;>
    cases type <;> simp [scan, flood, portScanAlert, synFloodAlert]

theorem observe_alerts_source :
    ∀ alert ∈ (state.observe config packet).2, alert.srcIp = packet.srcIp := by
  rw [observe_eq]
  dsimp only
  rcases observePortScan_alerts config packet state with scan | ⟨ports, scan⟩ <;>
    rcases observeSynFlood_alerts config packet state with flood | ⟨pending, flood⟩ <;>
    simp [scan, flood, portScanAlert, synFloodAlert]

theorem observe_raises_rule {type : AnomalyType}
    (raises : raised type (state.observe config packet).2) :
    type = .portScan ∨ type = .synFlood := by
  rw [observe_eq] at raises
  unfold raised at raises
  rcases observePortScan_alerts config packet state with scan | ⟨ports, scan⟩ <;>
    rcases observeSynFlood_alerts config packet state with flood | ⟨pending, flood⟩ <;>
    simp [scan, flood, portScanAlert, synFloodAlert] at raises <;> tauto

theorem observePortScan_debounced :
    Debounced config .portScan packet.nowMs (state.observe config packet).2
      state.lastPortScanAlertMs (state.observe config packet).1.lastPortScanAlertMs := by
  have flood := observeSynFlood_raises_no_portScan config packet state
  rw [observe_eq]
  by_cases attempt : packet.isConnectionAttempt
  · rw [observePortScan_eq config packet state attempt]
    exact Debounced.of_ruleFires (raised_portScan _ _ _ rfl flood)
  · rw [observePortScan_other config packet state attempt]
    exact Debounced.of_silent _ flood

theorem observeSynFlood_debounced :
    Debounced config .synFlood packet.nowMs (state.observe config packet).2
      state.lastSynFloodAlertMs (state.observe config packet).1.lastSynFloodAlertMs := by
  have scan := observePortScan_raises_no_synFlood config packet state
  rw [observe_eq]
  by_cases tcp : packet.transport = .tcp
  · rw [observeSynFlood_eq config packet state tcp]
    exact Debounced.of_ruleFires (raised_synFlood _ _ _ rfl scan)
  · rw [observeSynFlood_other config packet state tcp]
    apply Debounced.of_silent
    simpa [raised] using scan

theorem observe_debounced (type : AnomalyType) :
    Debounced config type packet.nowMs (state.observe config packet).2
      (state.lastAlertMs type) ((state.observe config packet).1.lastAlertMs type) := by
  cases type with
  | portScan => exact observePortScan_debounced config packet state
  | synFlood => exact observeSynFlood_debounced config packet state
  | highEntropyPayload =>
    apply Debounced.of_silent none
    by_contra raises
    simpa using observe_raises_rule config packet state (Bool.of_not_eq_false raises)
  | signatureMatch =>
    apply Debounced.of_silent none
    by_contra raises
    simpa using observe_raises_rule config packet state (Bool.of_not_eq_false raises)

@[simp] theorem observe_lastSeenMs :
    (state.observe config packet).1.lastSeenMs = packet.nowMs := by
  rw [observe_eq]

end PerIpState

namespace FlowTracker

variable (hash : UInt32 → Nat)

/-- The sweep of this call drops the record of `ip`, which is not idle, because the shard is over
    its ceiling. -/
structure DroppedAtCap (tracker : FlowTracker) (call : ObserveCall) (ip : UInt32) : Prop where
  due : tracker.config.sweepIntervalPackets ≤
    (tracker.touch hash call.packet.parsed).1.observationsSinceSweep + 1
  notIdle : ip ∈ evictIdle (call.packet.parsed.nowMs - tracker.config.idleTtlMs)
    call.packet.parsed.srcIp call.order (tracker.touch hash call.packet.parsed).1.perIp
  overCap : tracker.config.maxTrackedIpsPerShard <
    (evictIdle (call.packet.parsed.nowMs - tracker.config.idleTtlMs) call.packet.parsed.srcIp
      call.order (tracker.touch hash call.packet.parsed).1.perIp).keys.length
  dropped : (tracker.observe hash call).1.recordOf hash ip = none

theorem observe_sweeps {tracker : FlowTracker} {call : ObserveCall} {ip : UInt32}
    {record : PerIpState} (other : ¬ call.packet.parsed.isFrom ip)
    (present : tracker.recordOf hash ip = some record)
    (gone : (tracker.observe hash call).1.recordOf hash ip = none) :
    record.lastSeenMs < call.packet.parsed.nowMs - tracker.config.idleTtlMs ∨
      DroppedAtCap hash tracker call ip := by
  cases hasIp : call.packet.parsed.hasIp with
  | false =>
    rw [observe_without_ip hash tracker call hasIp, present] at gone
    cases gone
  | true =>
    have apart : ip ≠ call.packet.parsed.srcIp := by
      intro same
      simp [ParsedPacket.isFrom, hasIp, same] at other
    have swept := gone
    simp only [observe, hasIp, ↓reduceIte, recordOf, setShard_shardFor] at swept
    split at swept
    · rename_i sameShard
      have found : (tracker.touch hash call.packet.parsed).1.perIp.lookup ip = some record := by
        have same : tracker.shardFor hash call.packet.parsed.srcIp = tracker.shardFor hash ip := by
          simp only [shardFor, sameShard]
        unfold recordOf at present
        simpa [touch, AList.lookup_insert_ne apart, same] using present
      unfold Shard.sweepIfDue at swept
      split at swept
      · rename_i due
        by_cases survives : ip ∈ evictIdle
            (call.packet.parsed.nowMs - tracker.config.idleTtlMs) call.packet.parsed.srcIp
            call.order (tracker.touch hash call.packet.parsed).1.perIp
        · right
          refine ⟨due, survives, ?_, gone⟩
          by_contra fits
          unfold evictStale at swept
          rw [evictOverCap_of_le (Nat.not_lt.mp fits)] at swept
          exact AList.lookup_eq_none.mp swept survives
        · exact .inl (evictIdle_removes found survives)
      · rw [found] at swept
        cases swept
    · unfold recordOf at present
      rw [present] at swept
      cases swept

theorem observe_alert_source {tracker : FlowTracker} {call : ObserveCall} {alert : Alert}
    (member : alert ∈ (tracker.observe hash call).2) : call.packet.parsed.isFrom alert.srcIp := by
  cases hasIp : call.packet.parsed.hasIp with
  | false =>
    rw [observe_without_ip hash tracker call hasIp] at member
    cases member
  | true =>
    have mine : call.packet.parsed.isFrom call.packet.parsed.srcIp := by
      simp [ParsedPacket.isFrom, hasIp]
    rw [(observe_self hash tracker mine).1] at member
    rw [PerIpState.observe_alerts_source _ _ _ alert member]
    exact mine

theorem observe_alerts_once (tracker : FlowTracker) (call : ObserveCall) (type : AnomalyType) :
    ((tracker.observe hash call).2.filter fun alert => alert.type == type).length ≤ 1 := by
  cases hasIp : call.packet.parsed.hasIp with
  | false =>
    rw [observe_without_ip hash tracker call hasIp]
    exact Nat.zero_le 1
  | true =>
    have mine : call.packet.parsed.isFrom call.packet.parsed.srcIp := by
      simp [ParsedPacket.isFrom, hasIp]
    rw [(observe_self hash tracker mine).1]
    exact PerIpState.observe_alerts_once _ _ _ type

section Remembered

variable {hash} {config : FlowTrackerConfig} {ip : UInt32} {type : AnomalyType}
  {before between : List ObserveCall} {first : ObserveCall}

/-- For as long as the debounce lasts, only the ceiling makes the tracker forget an alert. -/
theorem alert_remembered (idleCovers : config.alertDebounceMs ≤ config.idleTtlMs)
    (mine : first.packet.parsed.isFrom ip)
    (raises : raised type ((after hash config before).observe hash first).2 = true)
    (soon : ∀ call ∈ between, first.packet.parsed.nowMs ≤ call.packet.parsed.nowMs ∧
      call.packet.parsed.nowMs - first.packet.parsed.nowMs < config.alertDebounceMs)
    (kept : ∀ passed call left, between = passed ++ call :: left →
      ¬ DroppedAtCap hash (after hash config (before ++ first :: passed)) call ip) :
    ∃ record, (after hash config (before ++ first :: between)).recordOf hash ip = some record ∧
      first.packet.parsed.nowMs ≤ record.lastSeenMs ∧
      ∃ t, record.lastAlertMs type = some t ∧ first.packet.parsed.nowMs ≤ t := by
  induction between using List.reverseRecOn with
  | nil =>
    rw [(observe_self hash _ mine).1, after_config, PerIpState.observe_withShards] at raises
    have renewed := ((PerIpState.observe_debounced config first.packet.parsed _ type).renewed
      raises).1
    exact ⟨_, recordOf_mine hash mine, by simp, _, renewed, le_rfl⟩
  | append_singleton between call ih =>
    obtain ⟨record, present, seen, t, stamp, later⟩ := ih
      (fun call member => soon call (List.mem_append_left _ member))
      (fun passed _ left split => kept passed _ (left ++ [call]) (by simp [split]))
    obtain ⟨ordered, recent⟩ := soon call (by simp)
    have notDropped := kept between call [] (by simp)
    rw [← List.cons_append, ← List.append_assoc]
    by_cases source : call.packet.parsed.isFrom ip
    · have next : (after hash config (before ++ first :: between ++ [call])).recordOf hash ip = _ :=
        recordOf_mine hash source
      rw [present, Option.getD_some] at next
      have debounced := PerIpState.observe_debounced config call.packet.parsed record type
      refine ⟨_, next, by simpa using ordered, ?_⟩
      cases again : raised type (record.observe config call.packet.parsed).2 with
      | true => exact ⟨_, (debounced.renewed again).1, ordered⟩
      | false => exact ⟨t, (debounced.unchanged again).trans stamp, later⟩
    · refine ⟨record, ?_, seen, t, stamp, later⟩
      rw [after_snoc]
      rcases observe_other hash (after hash config (before ++ first :: between)) source with
        same | gone
      · rw [same, present]
      · rcases observe_sweeps hash source present gone with idle | capped
        · rw [after_config, FlowTrackerConfig.withShards_idleTtlMs] at idle
          omega
        · exact (notDropped capped).elim

end Remembered

/-- Where the idle time outlasts the debounce, an alert is repeated within the debounce only after
    the hard ceiling has dropped the record that carried the stamp. -/
theorem realert_follows_cap_drop (config : FlowTrackerConfig)
    (idleCovers : config.alertDebounceMs ≤ config.idleTtlMs) (calls : List ObserveCall)
    (ordered : calls.Pairwise fun a b => a.packet.parsed.nowMs ≤ b.packet.parsed.nowMs) :
    (∀ before call, before ++ [call] <+: calls → ∀ type,
      (((after hash config before).observe hash call).2.filter
        fun alert => alert.type == type).length ≤ 1) ∧
    ∀ before first between second, before ++ first :: between ++ [second] <+: calls →
      ∀ alert ∈ ((after hash config before).observe hash first).2,
        ∀ again ∈ ((after hash config (before ++ first :: between)).observe hash second).2,
          again.type = alert.type → again.srcIp = alert.srcIp →
          second.packet.parsed.nowMs - first.packet.parsed.nowMs < config.alertDebounceMs →
          ∃ passed call left, between = passed ++ call :: left ∧
            DroppedAtCap hash (after hash config (before ++ first :: passed)) call alert.srcIp := by
  refine ⟨fun before call _ type => observe_alerts_once hash _ call type, ?_⟩
  intro before first between second isPrefix alert here again there sameType sameSource soon
  by_contra kept
  push Not at kept
  have mine := observe_alert_source hash here
  have mineAgain := observe_alert_source hash there
  rw [sameSource] at mineAgain
  have raises : raised alert.type ((after hash config before).observe hash first).2 = true :=
    List.any_eq_true.mpr ⟨alert, here, by simp⟩
  have repeats : raised alert.type
      ((after hash config (before ++ first :: between)).observe hash second).2 = true :=
    List.any_eq_true.mpr ⟨again, there, by simp [sameType]⟩
  have sorted := ordered.sublist isPrefix.sublist
  rw [List.append_assoc, List.cons_append] at sorted
  have sorted := (List.pairwise_cons.mp (List.pairwise_append.mp sorted).2.1)
  have bounds : ∀ call ∈ between, first.packet.parsed.nowMs ≤ call.packet.parsed.nowMs ∧
      call.packet.parsed.nowMs - first.packet.parsed.nowMs < config.alertDebounceMs := by
    intro call member
    have early := sorted.1 call (by simp [member])
    have late := (List.pairwise_append.mp sorted.2).2.2 call member second (by simp)
    omega
  obtain ⟨record, present, -, t, stamp, later⟩ :=
    alert_remembered idleCovers mine raises bounds kept
  rw [(observe_self hash _ mineAgain).1, present, after_config, PerIpState.observe_withShards]
    at repeats
  have elapsed := ((PerIpState.observe_debounced config second.packet.parsed record
    alert.type).renewed repeats).2 t stamp
  omega

def oneRecord : FlowTrackerConfig where
  numShards := 1
  portScanDistinctPortThreshold := 1
  sweepIntervalPackets := 1
  maxTrackedIpsPerShard := 1

def probeOf (ip : UInt32) (timestampMs : Int) (order : List UInt32) : ObserveCall :=
  ⟨makeTestPacket ip 9 40000 80 tcpFlagSyn timestampMs .tcp, order⟩

theorem cap_drop_run_valid : ValidOrders UInt32.toNat oneRecord
    [probeOf 1 0 [1], probeOf 3 1 [1, 3], probeOf 1 2 [3, 1]] := by
  have start := ValidOrders.empty UInt32.toNat oneRecord
  have first : ValidOrders UInt32.toNat oneRecord ([] ++ [probeOf 1 0 [1]]) :=
    start.snoc UInt32.toNat (by decide)
  have second : ValidOrders UInt32.toNat oneRecord
      ([] ++ [probeOf 1 0 [1]] ++ [probeOf 3 1 [1, 3]]) := first.snoc UInt32.toNat (by decide)
  exact second.snoc UInt32.toNat (by decide)

/-- Between two probes of address 1 a probe of address 3 pushes its record over the ceiling. -/
theorem cap_drop_realerts :
    0 ≤ oneRecord.alertDebounceMs ∧ oneRecord.alertDebounceMs ≤ oneRecord.idleTtlMs ∧
    ([probeOf 1 0 [1], probeOf 3 1 [1, 3], probeOf 1 2 [3, 1]].Pairwise fun a b =>
      a.packet.parsed.nowMs ≤ b.packet.parsed.nowMs) ∧
    ValidOrders UInt32.toNat oneRecord [probeOf 1 0 [1], probeOf 3 1 [1, 3], probeOf 1 2 [3, 1]] ∧
    ((after UInt32.toNat oneRecord []).observe UInt32.toNat (probeOf 1 0 [1])).2.map
      (fun alert => (alert.type, alert.srcIp)) = [(.portScan, 1)] ∧
    ((after UInt32.toNat oneRecord [probeOf 1 0 [1], probeOf 3 1 [1, 3]]).observe UInt32.toNat
      (probeOf 1 2 [3, 1])).2.map (fun alert => (alert.type, alert.srcIp)) = [(.portScan, 1)] ∧
    (probeOf 1 2 [3, 1]).packet.parsed.nowMs - (probeOf 1 0 [1]).packet.parsed.nowMs <
      oneRecord.alertDebounceMs :=
  ⟨by decide, by decide, by decide, cap_drop_run_valid, by decide, by decide, by decide⟩

theorem capped_realert_is_explained :
    ∃ passed call left, [probeOf 3 1 [1, 3]] = passed ++ call :: left ∧
      DroppedAtCap UInt32.toNat
        (after UInt32.toNat oneRecord ([] ++ probeOf 1 0 [1] :: passed)) call 1 := by
  have explained := (realert_follows_cap_drop UInt32.toNat oneRecord (by decide)
    [probeOf 1 0 [1], probeOf 3 1 [1, 3], probeOf 1 2 [3, 1]] (by decide)).2
    [] (probeOf 1 0 [1]) [probeOf 3 1 [1, 3]] (probeOf 1 2 [3, 1]) List.prefix_rfl
  exact explained (portScanAlert oneRecord (probeOf 1 0 [1]).packet.parsed 1)
    (List.mem_singleton_self _) (portScanAlert oneRecord (probeOf 1 2 [3, 1]).packet.parsed 1)
    (List.mem_singleton_self _) rfl rfl (by decide)

end FlowTracker

end NetSentinel
