import NetSentinel.FlowTracker.Projection
import NetSentinel.Library.LockedCells

namespace NetSentinel

open CellOperations

section Phases

variable (config : FlowTrackerConfig) (packet : ParsedPacket)

def onRecord (rule : PerIpState → PerIpState × List Alert) (state : Shard × List Alert) :
    Shard × List Alert :=
  let result := rule ((state.1.perIp.lookup packet.srcIp).getD {})
  ({ state.1 with perIp := state.1.perIp.insert packet.srcIp result.1 }, state.2 ++ result.2)

/-- What `observe` does under the mutex of the shard, in the parts of its body. -/
def observePhases (call : ObserveCall) : List (Shard × List Alert → Shard × List Alert) :=
  let packet := call.packet.parsed
  [onRecord packet fun state => ({ state with lastSeenMs := packet.nowMs }, []),
    onRecord packet (PerIpState.observePortScan config packet),
    onRecord packet (PerIpState.observeSynFlood config packet),
    fun state => (state.1.sweepIfDue config call.order packet.nowMs packet.srcIp, state.2)]

theorem onRecord_onRecord (rule next : PerIpState → PerIpState × List Alert)
    (state : Shard × List Alert) : onRecord packet next (onRecord packet rule state) =
      onRecord packet (fun record =>
        ((next (rule record).1).1, (rule record).2 ++ (next (rule record).1).2)) state := by
  unfold onRecord
  dsimp only
  rw [AList.lookup_insert, AList.insert_insert, Option.getD_some, List.append_assoc]

theorem finish_observePhases (call : ObserveCall) (shard : Shard) :
    finish (observePhases config call) (shard, []) =
      let packet := call.packet.parsed
      let result := ((shard.perIp.lookup packet.srcIp).getD {}).observe config packet
      (Shard.sweepIfDue config call.order packet.nowMs packet.srcIp
        { shard with perIp := shard.perIp.insert packet.srcIp result.1 }, result.2) := by
  unfold observePhases finish
  simp only [List.foldl_cons, List.foldl_nil, onRecord_onRecord]
  rfl

end Phases

namespace FlowTracker

variable (hash : UInt32 → Nat) (config : FlowTrackerConfig)

/-- `observe` with the mutexes of the shards. A packet that is not IPv4 needs none. -/
def lockedOperations :
    CellOperations (Fin config.withShards.numShards) Shard ObserveCall (List Alert) where
  cell call :=
    if call.packet.parsed.hasIp then
      some ⟨hash call.packet.parsed.srcIp % config.withShards.numShards,
        Nat.mod_lt _ config.withShards_pos⟩
    else none
  phases := observePhases config.withShards
  nothing := []

variable {hash config}

structure Represents (cells : Fin config.withShards.numShards → Shard) (tracker : FlowTracker) :
    Prop where
  config : tracker.config = config.withShards
  shards : tracker.shards = List.ofFn cells

theorem set_ofFn {α : Type*} {n : Nat} (cells : Fin n → α) (i : Fin n) (value : α) :
    (List.ofFn cells).set i value = List.ofFn (Function.update cells i value) := by
  apply List.ext_getElem
  · rw [List.length_set, List.length_ofFn, List.length_ofFn]
  · intro k below _
    rw [List.getElem_set, List.getElem_ofFn, List.getElem_ofFn]
    by_cases same : i.val = k
    · rw [if_pos same, show (⟨k, _⟩ : Fin n) = i from Fin.ext same.symm, Function.update_self]
    · rw [if_neg same, Function.update_of_ne fun equal => same (congrArg Fin.val equal).symm]

variable {cells : Fin config.withShards.numShards → Shard} {tracker : FlowTracker}

theorem Represents.shardIndex (represents : Represents cells tracker) (ip : UInt32) :
    tracker.shardIndex hash ip = hash ip % config.withShards.numShards := by
  rw [FlowTracker.shardIndex, represents.shards, List.length_ofFn]

theorem Represents.shardFor (represents : Represents cells tracker) (ip : UInt32) :
    tracker.shardFor hash ip =
      cells ⟨hash ip % config.withShards.numShards, Nat.mod_lt _ config.withShards_pos⟩ := by
  have found : tracker.shards[tracker.shardIndex hash ip]? =
      some (tracker.shardFor hash ip) := List.getElem?_eq_getElem (tracker.shardIndex_lt hash ip)
  rw [represents.shards, represents.shardIndex, List.getElem?_ofFn,
    dif_pos (Nat.mod_lt _ config.withShards_pos)] at found
  exact (Option.some.inj found).symm

theorem Represents.observe (represents : Represents cells tracker) (call : ObserveCall) :
    Represents ((lockedOperations hash config).apply cells call).1 (tracker.observe hash call).1 ∧
      ((lockedOperations hash config).apply cells call).2 = (tracker.observe hash call).2 := by
  by_cases ip : call.packet.parsed.hasIp
  · have works : (lockedOperations hash config).cell call = some _ := if_pos ip
    have observed : tracker.observe hash call = _ := if_pos ip
    have phases : finish ((lockedOperations hash config).phases call) (_, []) = _ :=
      finish_observePhases config.withShards call (tracker.shardFor hash call.packet.parsed.srcIp)
    rw [CellOperations.apply, works, observed]
    dsimp only
    rw [← represents.shardFor]
    change Represents (Function.update _ _ (finish _ (_, [])).1) _ ∧ (finish _ (_, [])).2 = _
    rw [phases]
    refine ⟨⟨represents.config, ?_⟩, ?_⟩
    · unfold FlowTracker.setShard FlowTracker.touch
      dsimp only
      rw [represents.shards, represents.shardIndex, represents.config]
      exact set_ofFn _ ⟨_, _⟩ _
    · unfold FlowTracker.touch
      dsimp only
      rw [represents.config]
  · have works : (lockedOperations hash config).cell call = none := if_neg ip
    have observed : tracker.observe hash call = (tracker, []) := if_neg ip
    rw [CellOperations.apply, works, observed]
    exact ⟨represents, rfl⟩

theorem Represents.new : @Represents config (fun _ => {}) (FlowTracker.new config) := by
  refine ⟨rfl, ?_⟩
  rw [List.ofFn_const]
  rfl

theorem Represents.replay (calls : List ObserveCall) :
    Represents ((lockedOperations hash config).replay (fun _ => {}) calls).1
        (FlowTracker.after hash config calls) ∧
      ((lockedOperations hash config).replay (fun _ => {}) calls).2 =
        (FlowTracker.replay hash config calls).2.map Observation.alerts := by
  induction calls using List.reverseRecOn with
  | nil => exact ⟨Represents.new, rfl⟩
  | append_singleton calls call ih =>
    obtain ⟨represents, results⟩ := ih
    obtain ⟨next, result⟩ := represents.observe call
    rw [CellOperations.replay_snoc, FlowTracker.after_snoc, FlowTracker.replay_snoc, List.map_append,
      results, result]
    exact ⟨next, rfl⟩

end FlowTracker

end NetSentinel
