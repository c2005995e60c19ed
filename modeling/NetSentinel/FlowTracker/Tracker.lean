import Mathlib.Algebra.GroupWithZero.Nat
import NetSentinel.FlowTracker.Record

namespace NetSentinel

abbrev IpMap := AList fun _ : UInt32 => PerIpState

structure Shard where
  perIp : IpMap := ∅
  observationsSinceSweep : Nat := 0

/-- The first loop of `evict_stale`, over the map in its iteration order `order`. -/
def evictIdle (idleCutoff : Int) (keepIp : UInt32) : List UInt32 → IpMap → IpMap
  | [], perIp => perIp
  | ip :: order, perIp =>
    match perIp.lookup ip with
    | some record =>
      if ip ≠ keepIp ∧ record.lastSeenMs < idleCutoff then
        evictIdle idleCutoff keepIp order (perIp.erase ip)
      else evictIdle idleCutoff keepIp order perIp
    | none => evictIdle idleCutoff keepIp order perIp

/-- The second loop of `evict_stale`: the hard ceiling. -/
def evictOverCap (cap : Nat) (keepIp : UInt32) : List UInt32 → IpMap → IpMap
  | [], perIp => perIp
  | ip :: order, perIp =>
    if cap < perIp.keys.length then
      if ip = keepIp then evictOverCap cap keepIp order perIp
      else evictOverCap cap keepIp order (perIp.erase ip)
    else perIp

/-- The hash map's iteration order is the parameter `order`. Erasing does not reorder what is
    left, so the second loop meets the survivors in the same order. -/
def evictStale (config : FlowTrackerConfig) (order : List UInt32) (nowMs : Int) (keepIp : UInt32)
    (perIp : IpMap) : IpMap :=
  let survivors := evictIdle (nowMs - config.idleTtlMs) keepIp order perIp
  evictOverCap config.maxTrackedIpsPerShard keepIp
    (order.filter fun ip => decide (ip ∈ survivors)) survivors

def Shard.sweepIfDue (config : FlowTrackerConfig) (order : List UInt32) (nowMs : Int)
    (keepIp : UInt32) (shard : Shard) : Shard :=
  if config.sweepIntervalPackets ≤ shard.observationsSinceSweep + 1 then
    { perIp := evictStale config order nowMs keepIp shard.perIp, observationsSinceSweep := 0 }
  else { shard with observationsSinceSweep := shard.observationsSinceSweep + 1 }

def FlowTrackerConfig.withShards (config : FlowTrackerConfig) : FlowTrackerConfig :=
  if config.numShards = 0 then { config with numShards := 1 } else config

theorem FlowTrackerConfig.withShards_pos (config : FlowTrackerConfig) :
    0 < config.withShards.numShards := by
  unfold withShards
  split
  · exact Nat.one_pos
  · rename_i nonzero
    exact Nat.pos_of_ne_zero nonzero

theorem FlowTrackerConfig.withShards_numShards (config : FlowTrackerConfig) :
    config.withShards.numShards = if config.numShards = 0 then 1 else config.numShards := by
  unfold withShards
  split <;> rfl

@[simp] theorem FlowTrackerConfig.withShards_sweepIntervalPackets (config : FlowTrackerConfig) :
    config.withShards.sweepIntervalPackets = config.sweepIntervalPackets := by
  unfold withShards
  split <;> rfl

@[simp] theorem FlowTrackerConfig.withShards_maxTrackedIpsPerShard (config : FlowTrackerConfig) :
    config.withShards.maxTrackedIpsPerShard = config.maxTrackedIpsPerShard := by
  unfold withShards
  split <;> rfl

@[simp] theorem FlowTrackerConfig.withShards_idleTtlMs (config : FlowTrackerConfig) :
    config.withShards.idleTtlMs = config.idleTtlMs := by
  unfold withShards
  split <;> rfl

structure FlowTracker where
  config : FlowTrackerConfig
  shards : List Shard
  nonempty : 0 < shards.length

/-- One call of `observe`, with the iteration order the shard's map has if this call sweeps it. -/
structure ObserveCall where
  packet : QueuedPacket
  order : List UInt32 := []

def ParsedPacket.isFrom (ip : UInt32) (packet : ParsedPacket) : Bool :=
  packet.hasIp && packet.srcIp == ip

namespace FlowTracker

def new (config : FlowTrackerConfig) : FlowTracker where
  config := config.withShards
  shards := List.replicate config.withShards.numShards {}
  nonempty := by simpa using config.withShards_pos

variable (hash : UInt32 → Nat)

/-- `hash` is `std::hash<uint32_t>`. -/
def shardIndex (tracker : FlowTracker) (ip : UInt32) : Nat := hash ip % tracker.shards.length

theorem shardIndex_lt (tracker : FlowTracker) (ip : UInt32) :
    tracker.shardIndex hash ip < tracker.shards.length := Nat.mod_lt _ tracker.nonempty

def shardFor (tracker : FlowTracker) (ip : UInt32) : Shard :=
  tracker.shards.get ⟨tracker.shardIndex hash ip, tracker.shardIndex_lt hash ip⟩

def setShard (tracker : FlowTracker) (ip : UInt32) (shard : Shard) : FlowTracker where
  config := tracker.config
  shards := tracker.shards.set (tracker.shardIndex hash ip) shard
  nonempty := by simpa using tracker.nonempty

def recordOf (tracker : FlowTracker) (ip : UInt32) : Option PerIpState :=
  (tracker.shardFor hash ip).perIp.lookup ip

def touch (tracker : FlowTracker) (packet : ParsedPacket) : Shard × List Alert :=
  let shard := tracker.shardFor hash packet.srcIp
  let result := ((shard.perIp.lookup packet.srcIp).getD {}).observe tracker.config packet
  ({ shard with perIp := shard.perIp.insert packet.srcIp result.1 }, result.2)

def observe (tracker : FlowTracker) (call : ObserveCall) : FlowTracker × List Alert :=
  let packet := call.packet.parsed
  if packet.hasIp then
    let touched := tracker.touch hash packet
    (tracker.setShard hash packet.srcIp
      (touched.1.sweepIfDue tracker.config call.order packet.nowMs packet.srcIp), touched.2)
  else (tracker, [])

def trackedIpCount (tracker : FlowTracker) : Nat :=
  (tracker.shards.map fun shard => shard.perIp.keys.length).sum

end FlowTracker

theorem lookup_erase_or (perIp : IpMap) (ip other : UInt32) :
    (perIp.erase ip).lookup other = perIp.lookup other ∨ (perIp.erase ip).lookup other = none := by
  by_cases same : other = ip
  · subst same
    exact .inr (AList.lookup_erase _ _)
  · exact .inl (AList.lookup_erase_ne same)

theorem evictIdle_lookup (idleCutoff : Int) (keepIp : UInt32) (order : List UInt32)
    (perIp : IpMap) (ip : UInt32) :
    (evictIdle idleCutoff keepIp order perIp).lookup ip = perIp.lookup ip ∨
      (evictIdle idleCutoff keepIp order perIp).lookup ip = none := by
  induction order generalizing perIp with
  | nil => exact .inl rfl
  | cons head order ih =>
    unfold evictIdle
    cases perIp.lookup head with
    | none => exact ih perIp
    | some record =>
      by_cases evict : head ≠ keepIp ∧ record.lastSeenMs < idleCutoff
      · simp only [if_pos evict]
        rcases ih (perIp.erase head) with same | gone
        · rw [same]
          exact lookup_erase_or perIp head ip
        · exact .inr gone
      · simp only [if_neg evict]
        exact ih perIp

theorem evictIdle_keeps (idleCutoff : Int) (keepIp : UInt32) (order : List UInt32)
    (perIp : IpMap) :
    (evictIdle idleCutoff keepIp order perIp).lookup keepIp = perIp.lookup keepIp := by
  induction order generalizing perIp with
  | nil => rfl
  | cons head order ih =>
    unfold evictIdle
    cases perIp.lookup head with
    | none => exact ih perIp
    | some record =>
      by_cases evict : head ≠ keepIp ∧ record.lastSeenMs < idleCutoff
      · simp only [if_pos evict, ih]
        exact AList.lookup_erase_ne (Ne.symm evict.1)
      · simp only [if_neg evict, ih]

theorem evictOverCap_lookup (cap : Nat) (keepIp : UInt32) (order : List UInt32)
    (perIp : IpMap) (ip : UInt32) :
    (evictOverCap cap keepIp order perIp).lookup ip = perIp.lookup ip ∨
      (evictOverCap cap keepIp order perIp).lookup ip = none := by
  induction order generalizing perIp with
  | nil => exact .inl rfl
  | cons head order ih =>
    unfold evictOverCap
    split
    · split
      · exact ih perIp
      · rcases ih (perIp.erase head) with same | gone
        · rw [same]
          exact lookup_erase_or perIp head ip
        · exact .inr gone
    · exact .inl rfl

theorem evictOverCap_keeps (cap : Nat) (keepIp : UInt32) (order : List UInt32)
    (perIp : IpMap) :
    (evictOverCap cap keepIp order perIp).lookup keepIp = perIp.lookup keepIp := by
  induction order generalizing perIp with
  | nil => rfl
  | cons head order ih =>
    unfold evictOverCap
    split
    · split
      · exact ih perIp
      · rename_i other
        rw [ih]
        exact AList.lookup_erase_ne (Ne.symm other)
    · rfl

theorem evictStale_lookup (config : FlowTrackerConfig) (order : List UInt32) (nowMs : Int)
    (keepIp : UInt32) (perIp : IpMap) (ip : UInt32) :
    (evictStale config order nowMs keepIp perIp).lookup ip = perIp.lookup ip ∨
      (evictStale config order nowMs keepIp perIp).lookup ip = none := by
  unfold evictStale
  rcases evictOverCap_lookup config.maxTrackedIpsPerShard keepIp _ _ ip with same | gone
  · rw [same]
    exact evictIdle_lookup _ _ _ _ ip
  · exact .inr gone

theorem evictStale_keeps (config : FlowTrackerConfig) (order : List UInt32) (nowMs : Int)
    (keepIp : UInt32) (perIp : IpMap) :
    (evictStale config order nowMs keepIp perIp).lookup keepIp = perIp.lookup keepIp := by
  unfold evictStale
  rw [evictOverCap_keeps, evictIdle_keeps]

theorem Shard.sweepIfDue_lookup (config : FlowTrackerConfig) (order : List UInt32) (nowMs : Int)
    (keepIp : UInt32) (shard : Shard) (ip : UInt32) :
    (shard.sweepIfDue config order nowMs keepIp).perIp.lookup ip = shard.perIp.lookup ip ∨
      (shard.sweepIfDue config order nowMs keepIp).perIp.lookup ip = none := by
  unfold sweepIfDue
  split
  · exact evictStale_lookup _ _ _ _ _ ip
  · exact .inl rfl

theorem Shard.sweepIfDue_keeps (config : FlowTrackerConfig) (order : List UInt32) (nowMs : Int)
    (keepIp : UInt32) (shard : Shard) :
    (shard.sweepIfDue config order nowMs keepIp).perIp.lookup keepIp =
      shard.perIp.lookup keepIp := by
  unfold sweepIfDue
  split
  · exact evictStale_keeps _ _ _ _ _
  · rfl

namespace FlowTracker

variable (hash : UInt32 → Nat)

theorem recordOf_new (config : FlowTrackerConfig) (ip : UInt32) :
    (new config).recordOf hash ip = none := by
  simp [recordOf, shardFor, new]

@[simp] theorem setShard_shardIndex (tracker : FlowTracker) (ip other : UInt32) (shard : Shard) :
    (tracker.setShard hash ip shard).shardIndex hash other = tracker.shardIndex hash other := by
  simp [shardIndex, setShard]

theorem setShard_shardFor (tracker : FlowTracker) (ip other : UInt32) (shard : Shard) :
    (tracker.setShard hash ip shard).shardFor hash other =
      if tracker.shardIndex hash ip = tracker.shardIndex hash other then shard
      else tracker.shardFor hash other := by
  simp only [shardFor, setShard_shardIndex]
  simp only [setShard, List.get_eq_getElem, List.getElem_set]

theorem single_shardFor {tracker : FlowTracker} (single : tracker.shards.length = 1)
    (ip other : UInt32) : tracker.shardFor hash ip = tracker.shardFor hash other := by
  have same : tracker.shardIndex hash ip = tracker.shardIndex hash other := by
    simp [shardIndex, single, Nat.mod_one]
  simp only [shardFor, same]

theorem observe_without_ip (tracker : FlowTracker) (call : ObserveCall)
    (noIp : call.packet.parsed.hasIp = false) : tracker.observe hash call = (tracker, []) := by
  simp [observe, noIp]

@[simp] theorem observe_config (tracker : FlowTracker) (call : ObserveCall) :
    (tracker.observe hash call).1.config = tracker.config := by
  unfold observe
  dsimp only
  split <;> rfl

theorem observe_self (tracker : FlowTracker) {call : ObserveCall} {ip : UInt32}
    (mine : call.packet.parsed.isFrom ip) :
    (tracker.observe hash call).2 =
        (((tracker.recordOf hash ip).getD {}).observe tracker.config call.packet.parsed).2 ∧
      (tracker.observe hash call).1.recordOf hash ip =
        some (((tracker.recordOf hash ip).getD {}).observe tracker.config
          call.packet.parsed).1 := by
  obtain ⟨hasIp, source⟩ : call.packet.parsed.hasIp ∧ call.packet.parsed.srcIp = ip := by
    simpa [ParsedPacket.isFrom] using mine
  subst source
  simp [observe, touch, hasIp, recordOf, setShard_shardFor, Shard.sweepIfDue_keeps]

theorem observe_other (tracker : FlowTracker) {call : ObserveCall} {ip : UInt32}
    (other : ¬ call.packet.parsed.isFrom ip) :
    (tracker.observe hash call).1.recordOf hash ip = tracker.recordOf hash ip ∨
      (tracker.observe hash call).1.recordOf hash ip = none := by
  cases hasIp : call.packet.parsed.hasIp with
  | false =>
    left
    rw [observe_without_ip hash tracker call hasIp]
  | true =>
    have apart : ip ≠ call.packet.parsed.srcIp := by
      intro same
      simp [ParsedPacket.isFrom, hasIp, same] at other
    simp only [observe, hasIp, ↓reduceIte, recordOf, setShard_shardFor]
    split
    · rename_i sameShard
      have found : tracker.shardFor hash call.packet.parsed.srcIp = tracker.shardFor hash ip := by
        simp only [shardFor, sameShard]
      rcases Shard.sweepIfDue_lookup tracker.config call.order call.packet.parsed.nowMs
        call.packet.parsed.srcIp _ ip with same | gone
      · left
        rw [same]
        simp [touch, AList.lookup_insert_ne apart, found]
      · exact .inr gone
    · exact .inl rfl

end FlowTracker

end NetSentinel
