import Mathlib.Algebra.Order.BigOperators.Group.List
import Mathlib.Algebra.Order.Group.Nat
import NetSentinel.FlowTracker.Projection

namespace NetSentinel

def IpMap.live (idleCutoff : Int) (keepIp : UInt32) (perIp : IpMap) : List UInt32 :=
  perIp.keys.filter fun ip =>
    decide (ip = keepIp) || (perIp.lookup ip).any fun record => idleCutoff ≤ record.lastSeenMs

theorem IpMap.mem_live {idleCutoff : Int} {keepIp : UInt32} {perIp : IpMap} {ip : UInt32} :
    ip ∈ perIp.live idleCutoff keepIp ↔
      ip ∈ perIp ∧ (ip = keepIp ∨
        ∃ record, perIp.lookup ip = some record ∧ idleCutoff ≤ record.lastSeenMs) := by
  simp [live, AList.mem_keys, Option.any_eq_true]

theorem mem_evictIdle {idleCutoff : Int} {keepIp : UInt32} {order : List UInt32} {perIp : IpMap}
    {ip : UInt32} :
    ip ∈ evictIdle idleCutoff keepIp order perIp ↔
      ip ∈ perIp ∧ (ip ∈ order → ip ∈ perIp.live idleCutoff keepIp) := by
  induction order generalizing perIp with
  | nil => simp [evictIdle]
  | cons head order ih =>
    unfold evictIdle
    cases found : perIp.lookup head with
    | none =>
      have absent := AList.lookup_eq_none.mp found
      have different (present : ip ∈ perIp) : ip ≠ head := fun same => absent (same ▸ present)
      simp only [ih, List.mem_cons]
      grind
    | some record =>
      by_cases evict : head ≠ keepIp ∧ record.lastSeenMs < idleCutoff
      · simp only [if_pos evict, ih, AList.mem_erase, IpMap.mem_live]
        by_cases same : ip = head
        · subst same
          have old := Int.not_le.mpr evict.2
          simp [evict.1, found, old]
        · simp [same, AList.lookup_erase_ne same]
      · simp only [if_neg evict, ih, List.mem_cons]
        by_cases same : ip = head
        · subst same
          have kept : ip ∈ perIp → ip ∈ perIp.live idleCutoff keepIp := by
            intro present
            rw [IpMap.mem_live]
            refine ⟨present, ?_⟩
            by_cases keep : ip = keepIp
            · exact .inl keep
            · exact .inr ⟨record, found, by
                by_contra old
                exact evict ⟨keep, Int.not_le.mp old⟩⟩
          tauto
        · simp [same]

theorem evictIdle_removes {idleCutoff : Int} {keepIp ip : UInt32} {order : List UInt32}
    {perIp : IpMap} {record : PerIpState} (found : perIp.lookup ip = some record)
    (removed : ip ∉ evictIdle idleCutoff keepIp order perIp) : record.lastSeenMs < idleCutoff := by
  have present : ip ∈ perIp := AList.lookup_isSome.mp (by simp [found])
  by_contra recent
  apply removed
  rw [mem_evictIdle]
  refine ⟨present, fun _ => IpMap.mem_live.mpr ⟨present, .inr ⟨record, found, ?_⟩⟩⟩
  omega

theorem not_mem_evictIdle {idleCutoff : Int} {keepIp ip : UInt32} {order : List UInt32}
    {perIp : IpMap} {record : PerIpState} (found : perIp.lookup ip = some record)
    (listed : ip ∈ order) (other : ip ≠ keepIp) (idle : record.lastSeenMs < idleCutoff) :
    ip ∉ evictIdle idleCutoff keepIp order perIp := by
  intro kept
  have live := (IpMap.mem_live.mp ((mem_evictIdle.mp kept).2 listed)).2
  obtain ⟨left, here, recent⟩ := live.resolve_left other
  rw [found] at here
  cases here
  omega

theorem evictIdle_perm_live {idleCutoff : Int} {keepIp : UInt32} {order : List UInt32}
    {perIp : IpMap} (iterates : order.Perm perIp.keys) :
    (evictIdle idleCutoff keepIp order perIp).keys.Perm (perIp.live idleCutoff keepIp) := by
  have distinct : (perIp.live idleCutoff keepIp).Nodup := perIp.keys_nodup.filter _
  rw [List.perm_ext_iff_of_nodup (AList.keys_nodup _) distinct]
  intro ip
  rw [← AList.mem_keys, mem_evictIdle, iterates.mem_iff, ← AList.mem_keys]
  constructor
  · rintro ⟨present, live⟩
    exact live present
  · intro live
    exact ⟨(IpMap.mem_live.mp live).1, fun _ => live⟩

theorem evictOverCap_of_le {cap : Nat} {keepIp : UInt32} {order : List UInt32} {perIp : IpMap}
    (fits : perIp.keys.length ≤ cap) : evictOverCap cap keepIp order perIp = perIp := by
  cases order with
  | nil => rfl
  | cons head order => simp [evictOverCap, Nat.not_lt.mpr fits]

theorem erase_length {perIp : IpMap} {ip : UInt32} (present : ip ∈ perIp) :
    (perIp.erase ip).keys.length + 1 = perIp.keys.length := by
  have member := AList.mem_keys.mp present
  have positive := List.length_pos_of_mem member
  rw [AList.keys_erase, List.length_erase_of_mem member]
  omega

theorem length_of_only {perIp : IpMap} {keepIp : UInt32} (present : keepIp ∈ perIp)
    (only : ∀ ip ∈ perIp, ip = keepIp) : perIp.keys.length = 1 := by
  have same : perIp.keys.Perm [keepIp] := by
    rw [List.perm_ext_iff_of_nodup perIp.keys_nodup (List.nodup_singleton _)]
    intro ip
    rw [List.mem_singleton, ← AList.mem_keys]
    exact ⟨only ip, fun equal => equal ▸ present⟩
  exact same.length_eq

theorem evictOverCap_length {cap : Nat} {keepIp : UInt32} {order : List UInt32} {perIp : IpMap}
    (keeps : keepIp ∈ perIp) (distinct : order.Nodup) (present : ∀ ip ∈ order, ip ∈ perIp)
    (covers : ∀ ip ∈ perIp, ip ∈ order ∨ ip = keepIp) :
    (evictOverCap cap keepIp order perIp).keys.length =
      min perIp.keys.length (max cap 1) := by
  induction order generalizing perIp with
  | nil =>
    have single := length_of_only keeps fun ip member => (covers ip member).resolve_left (by simp)
    simp only [evictOverCap, single]
    omega
  | cons head order ih =>
    obtain ⟨fresh, distinct⟩ := List.nodup_cons.mp distinct
    unfold evictOverCap
    split
    · rename_i tooMany
      split
      · rename_i keep
        apply ih keeps distinct (fun ip member => present ip (List.mem_cons_of_mem _ member))
        intro ip member
        rcases covers ip member with inOrder | same
        · rcases List.mem_cons.mp inOrder with rfl | inOrder
          · exact .inr keep
          · exact .inl inOrder
        · exact .inr same
      · rename_i other
        have here := present head List.mem_cons_self
        have shorter := erase_length here
        have stays : keepIp ∈ perIp.erase head := AList.mem_erase.mpr ⟨Ne.symm other, keeps⟩
        have positive := List.length_pos_of_mem (AList.mem_keys.mp stays)
        rw [ih stays distinct]
        · omega
        · intro ip member
          exact AList.mem_erase.mpr
            ⟨fun same => fresh (same ▸ member), present ip (List.mem_cons_of_mem _ member)⟩
        · intro ip member
          obtain ⟨different, member⟩ := AList.mem_erase.mp member
          exact (covers ip member).imp_left fun inOrder =>
            (List.mem_cons.mp inOrder).resolve_left different
    · omega

theorem evictStale_length (config : FlowTrackerConfig) {order : List UInt32} (nowMs : Int)
    {keepIp : UInt32} {perIp : IpMap} (keeps : keepIp ∈ perIp)
    (iterates : order.Perm perIp.keys) :
    (evictStale config order nowMs keepIp perIp).keys.length =
      min (perIp.live (nowMs - config.idleTtlMs) keepIp).length
        (max config.maxTrackedIpsPerShard 1) := by
  unfold evictStale
  dsimp only
  rw [evictOverCap_length, (evictIdle_perm_live iterates).length_eq]
  · rw [← AList.lookup_isSome, evictIdle_keeps, AList.lookup_isSome]
    exact keeps
  · exact (iterates.nodup_iff.mpr perIp.keys_nodup).filter _
  · simp
  · intro ip member
    have here := AList.mem_keys.mp (mem_evictIdle.mp member).1
    exact .inl (by simp [iterates.mem_iff, here, member])

theorem evictStale_kept {config : FlowTrackerConfig} {order : List UInt32} {nowMs : Int}
    {keepIp ip : UInt32} {perIp : IpMap} {record : PerIpState}
    (iterates : order.Perm perIp.keys)
    (kept : (evictStale config order nowMs keepIp perIp).lookup ip = some record) :
    perIp.lookup ip = some record ∧
      (ip = keepIp ∨ nowMs - config.idleTtlMs ≤ record.lastSeenMs) := by
  unfold evictStale at kept
  have survives : (evictIdle (nowMs - config.idleTtlMs) keepIp order perIp).lookup ip =
      some record := by
    rcases evictOverCap_lookup config.maxTrackedIpsPerShard keepIp
      (order.filter fun ip =>
        decide (ip ∈ evictIdle (nowMs - config.idleTtlMs) keepIp order perIp))
      (evictIdle (nowMs - config.idleTtlMs) keepIp order perIp) ip with same | gone
    · exact same ▸ kept
    · rw [gone] at kept
      cases kept
  have before : perIp.lookup ip = some record := by
    rcases evictIdle_lookup (nowMs - config.idleTtlMs) keepIp order perIp ip with same | gone
    · exact same ▸ survives
    · rw [gone] at survives
      cases survives
  have member : ip ∈ evictIdle (nowMs - config.idleTtlMs) keepIp order perIp :=
    AList.lookup_isSome.mp (by simp [survives])
  have live := (mem_evictIdle.mp member).2
    (iterates.mem_iff.mpr (AList.mem_keys.mp (mem_evictIdle.mp member).1))
  refine ⟨before, (IpMap.mem_live.mp live).2.imp_right ?_⟩
  rintro ⟨record', found, recent⟩
  rw [before] at found
  cases found
  exact recent

theorem evictStale_drops_live {config : FlowTrackerConfig} {order : List UInt32} {nowMs : Int}
    {keepIp ip : UInt32} {perIp : IpMap} (iterates : order.Perm perIp.keys)
    (live : ip ∈ perIp.live (nowMs - config.idleTtlMs) keepIp)
    (dropped : ip ∉ evictStale config order nowMs keepIp perIp) :
    config.maxTrackedIpsPerShard <
      (perIp.live (nowMs - config.idleTtlMs) keepIp).length := by
  by_contra fits
  apply dropped
  unfold evictStale
  rw [evictOverCap_of_le]
  · exact mem_evictIdle.mpr ⟨(IpMap.mem_live.mp live).1, fun _ => live⟩
  · rw [(evictIdle_perm_live iterates).length_eq]
    exact Nat.not_lt.mp fits

namespace FlowTracker

variable (hash : UInt32 → Nat)

def Iterates (tracker : FlowTracker) (call : ObserveCall) : Prop :=
  call.packet.parsed.hasIp →
    call.order.Perm (tracker.touch hash call.packet.parsed).1.perIp.keys

def ValidOrders (config : FlowTrackerConfig) (calls : List ObserveCall) : Prop :=
  ∀ before call, before ++ [call] <+: calls → Iterates hash (after hash config before) call

instance (tracker : FlowTracker) (call : ObserveCall) : Decidable (Iterates hash tracker call) :=
  inferInstanceAs (Decidable (_ → _))

theorem ValidOrders.empty (config : FlowTrackerConfig) : ValidOrders hash config [] := by
  intro before call isPrefix
  simp at isPrefix

theorem ValidOrders.snoc {config : FlowTrackerConfig} {calls : List ObserveCall}
    {call : ObserveCall} (valid : ValidOrders hash config calls)
    (iterates : Iterates hash (after hash config calls) call) :
    ValidOrders hash config (calls ++ [call]) := forall_step_snoc.mpr ⟨valid, iterates⟩

theorem observe_sweeps_idle {tracker : FlowTracker} {call : ObserveCall} {ip : UInt32}
    {record : PerIpState} (single : tracker.shards.length = 1)
    (hasIp : call.packet.parsed.hasIp) (other : ip ≠ call.packet.parsed.srcIp)
    (due : tracker.config.sweepIntervalPackets ≤
      (tracker.touch hash call.packet.parsed).1.observationsSinceSweep + 1)
    (iterates : Iterates hash tracker call)
    (present : tracker.recordOf hash ip = some record)
    (idle : record.lastSeenMs < call.packet.parsed.nowMs - tracker.config.idleTtlMs) :
    (tracker.observe hash call).1.recordOf hash ip = none := by
  have sameShard : tracker.shardIndex hash call.packet.parsed.srcIp = tracker.shardIndex hash ip := by
    simp [shardIndex, single, Nat.mod_one]
  simp only [observe, hasIp, ↓reduceIte, recordOf, setShard_shardFor, if_pos sameShard]
  unfold Shard.sweepIfDue
  rw [if_pos due]
  cases kept : (evictStale tracker.config call.order call.packet.parsed.nowMs
    call.packet.parsed.srcIp (tracker.touch hash call.packet.parsed).1.perIp).lookup ip with
  | none => rfl
  | some left =>
    obtain ⟨before, live⟩ := evictStale_kept (iterates hasIp) kept
    have same : left = record := by
      unfold recordOf at present
      rw [single_shardFor hash single ip call.packet.parsed.srcIp] at present
      simp only [touch, AList.lookup_insert_ne other] at before
      rw [before] at present
      exact Option.some.inj present
    subst same
    have := live.resolve_left other
    omega

theorem Iterates.of_single {tracker : FlowTracker} {call : ObserveCall}
    (single : tracker.shards.length = 1) (distinct : call.order.Nodup)
    (lists : ∀ ip, ip ∈ call.order ↔
      ip = call.packet.parsed.srcIp ∨ (tracker.recordOf hash ip).isSome) :
    Iterates hash tracker call := by
  intro _
  rw [List.perm_ext_iff_of_nodup distinct (AList.keys_nodup _)]
  intro ip
  rw [lists, ← AList.mem_keys]
  simp only [touch, AList.mem_insert, recordOf, AList.lookup_isSome]
  rw [single_shardFor hash single ip call.packet.parsed.srcIp]

/-- The shard has taken in at most one new record for each observation since its last sweep. -/
def ShardBounded (config : FlowTrackerConfig) (shard : Shard) : Prop :=
  shard.perIp.keys.length ≤ max config.maxTrackedIpsPerShard 1 + shard.observationsSinceSweep ∧
    shard.observationsSinceSweep < config.sweepIntervalPackets

theorem touch_keys_length (tracker : FlowTracker) (packet : ParsedPacket) :
    (tracker.touch hash packet).1.perIp.keys.length ≤
      (tracker.shardFor hash packet.srcIp).perIp.keys.length + 1 := by
  simp only [touch, AList.keys_insert, List.length_cons]
  have := (List.erase_sublist (a := packet.srcIp)
    (l := (tracker.shardFor hash packet.srcIp).perIp.keys)).length_le
  omega

theorem mem_touch (tracker : FlowTracker) (packet : ParsedPacket) :
    packet.srcIp ∈ (tracker.touch hash packet).1.perIp := by
  simp [touch]

theorem ShardBounded.sweepIfDue {config : FlowTrackerConfig} {before touched : Shard}
    {order : List UInt32} {nowMs : Int} {keepIp : UInt32} (bounded : ShardBounded config before)
    (grown : touched.perIp.keys.length ≤ before.perIp.keys.length + 1)
    (sameCount : touched.observationsSinceSweep = before.observationsSinceSweep)
    (keeps : keepIp ∈ touched.perIp) (iterates : order.Perm touched.perIp.keys) :
    ShardBounded config (touched.sweepIfDue config order nowMs keepIp) := by
  obtain ⟨size, count⟩ := bounded
  unfold Shard.sweepIfDue
  split
  · have length := evictStale_length config nowMs keeps iterates
    refine ⟨?_, ?_⟩
    · dsimp only
      omega
    · dsimp only
      omega
  · refine ⟨?_, ?_⟩
    · dsimp only
      omega
    · dsimp only
      omega

theorem observe_shards_bounded {tracker : FlowTracker} {call : ObserveCall}
    (bounded : ∀ shard ∈ tracker.shards, ShardBounded tracker.config shard)
    (iterates : Iterates hash tracker call) :
    ∀ shard ∈ (tracker.observe hash call).1.shards, ShardBounded tracker.config shard := by
  cases hasIp : call.packet.parsed.hasIp with
  | false =>
    rw [observe_without_ip hash tracker call hasIp]
    exact bounded
  | true =>
    have touched : ShardBounded tracker.config
        ((tracker.touch hash call.packet.parsed).1.sweepIfDue tracker.config call.order
          call.packet.parsed.nowMs call.packet.parsed.srcIp) :=
      (bounded _ (List.getElem_mem (tracker.shardIndex_lt hash _))).sweepIfDue
        (touch_keys_length hash tracker _) rfl (mem_touch hash tracker _) (iterates hasIp)
    intro shard member
    simp only [observe, hasIp, if_true, setShard] at member
    rcases List.mem_or_eq_of_mem_set member with old | rfl
    · exact bounded shard old
    · exact touched

theorem after_shards_length (config : FlowTrackerConfig) (calls : List ObserveCall) :
    (after hash config calls).shards.length = config.withShards.numShards := by
  induction calls using List.reverseRecOn with
  | nil => simp [after, replay, new]
  | append_singleton calls call ih =>
    rw [after_snoc, ← ih]
    unfold observe
    dsimp only
    split
    · simp [setShard]
    · rfl

theorem after_shards_bounded {config : FlowTrackerConfig} {calls : List ObserveCall}
    (interval : 1 ≤ config.sweepIntervalPackets) (valid : ValidOrders hash config calls) :
    ∀ shard ∈ (after hash config calls).shards, ShardBounded config.withShards shard := by
  induction calls using List.reverseRecOn with
  | nil =>
    intro shard member
    have empty := List.eq_of_mem_replicate (show shard ∈ List.replicate _ {} from member)
    subst empty
    exact ⟨Nat.zero_le _, by simpa using Nat.lt_of_lt_of_le Nat.one_pos interval⟩
  | append_singleton calls call ih =>
    obtain ⟨shorter, iterates⟩ := forall_step_snoc.mp valid
    have earlier := ih shorter
    rw [after_snoc]
    rw [← after_config hash config calls] at earlier ⊢
    exact observe_shards_bounded hash earlier iterates

theorem trackedIpCount_le {tracker : FlowTracker} {bound : Nat}
    (bounded : ∀ shard ∈ tracker.shards, shard.perIp.keys.length ≤ bound) :
    tracker.trackedIpCount ≤ tracker.shards.length * bound := by
  have total := List.sum_le_card_nsmul (tracker.shards.map fun shard => shard.perIp.keys.length)
    bound (by simpa using bounded)
  simpa [trackedIpCount] using total

/-- Bounded tracking with minimal forgetting: the bound holds after every run, and every sweep
    keeps all it can. `observe` only sweeps a shard it has just put the packet's source into. -/
theorem tracking_bounded (config : FlowTrackerConfig)
    (interval : 1 ≤ config.sweepIntervalPackets) (calls : List ObserveCall)
    (valid : ValidOrders hash config calls) :
    (∀ shard ∈ (after hash config calls).shards,
      shard.perIp.keys.length ≤
        max config.maxTrackedIpsPerShard 1 + config.sweepIntervalPackets - 1) ∧
    (after hash config calls).trackedIpCount ≤
      (if config.numShards = 0 then 1 else config.numShards) *
        (max config.maxTrackedIpsPerShard 1 + config.sweepIntervalPackets - 1) ∧
    ∀ (perIp : IpMap) (order : List UInt32) (nowMs : Int) (keepIp : UInt32),
      order.Perm perIp.keys → keepIp ∈ perIp →
      (evictStale config order nowMs keepIp perIp).keys.length =
          min (perIp.live (nowMs - config.idleTtlMs) keepIp).length
            (max config.maxTrackedIpsPerShard 1) ∧
        keepIp ∈ evictStale config order nowMs keepIp perIp ∧
        (∀ ip record, (evictStale config order nowMs keepIp perIp).lookup ip = some record →
          perIp.lookup ip = some record ∧
            (ip = keepIp ∨ nowMs - config.idleTtlMs ≤ record.lastSeenMs)) ∧
        ∀ ip ∈ perIp.live (nowMs - config.idleTtlMs) keepIp,
          ip ∉ evictStale config order nowMs keepIp perIp →
          config.maxTrackedIpsPerShard <
            (perIp.live (nowMs - config.idleTtlMs) keepIp).length := by
  have shards : ∀ shard ∈ (after hash config calls).shards, shard.perIp.keys.length ≤
      max config.maxTrackedIpsPerShard 1 + config.sweepIntervalPackets - 1 := by
    intro shard member
    have bounded := after_shards_bounded hash interval valid shard member
    simp only [ShardBounded, FlowTrackerConfig.withShards_maxTrackedIpsPerShard,
      FlowTrackerConfig.withShards_sweepIntervalPackets] at bounded
    omega
  refine ⟨shards, ?_, ?_⟩
  · have total := trackedIpCount_le shards
    rw [after_shards_length, FlowTrackerConfig.withShards_numShards] at total
    exact total
  · intro perIp order nowMs keepIp iterates keeps
    refine ⟨evictStale_length config nowMs keeps iterates, ?_, ?_, ?_⟩
    · rw [← AList.lookup_isSome, evictStale_keeps, AList.lookup_isSome]
      exact keeps
    · intro ip record kept
      exact evictStale_kept iterates kept
    · intro ip live dropped
      exact evictStale_drops_live iterates live dropped

theorem two_sources_under_cap_one :
    (after UInt32.toNat { sweepIntervalPackets := 1, maxTrackedIpsPerShard := 1, numShards := 1 }
      [⟨makeTestPacket 1 9 40000 80 tcpFlagSyn 0 .tcp, [1]⟩,
        ⟨makeTestPacket 2 9 40000 80 tcpFlagSyn 5 .tcp, [1, 2]⟩]).trackedIpCount ≤ 1 := by
  have first : ValidOrders UInt32.toNat
      { sweepIntervalPackets := 1, maxTrackedIpsPerShard := 1, numShards := 1 }
      [⟨makeTestPacket 1 9 40000 80 tcpFlagSyn 0 .tcp, [1]⟩] :=
    (ValidOrders.empty _ _).snoc _ (by decide)
  have second : ValidOrders UInt32.toNat
      { sweepIntervalPackets := 1, maxTrackedIpsPerShard := 1, numShards := 1 }
      [⟨makeTestPacket 1 9 40000 80 tcpFlagSyn 0 .tcp, [1]⟩,
        ⟨makeTestPacket 2 9 40000 80 tcpFlagSyn 5 .tcp, [1, 2]⟩] :=
    first.snoc _ (by decide)
  exact (tracking_bounded UInt32.toNat _ (by decide) _ second).2.1

end FlowTracker

end NetSentinel
