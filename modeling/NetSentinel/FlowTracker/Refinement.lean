import NetSentinel.FlowTracker.PortScan
import NetSentinel.FlowTracker.SynFlood

namespace NetSentinel.FlowTracker

open Rescan

variable (hash : UInt32 → Nat)

def TimeOrdered (ip : UInt32) (calls : List ObserveCall) : Prop :=
  (sourcePackets ip calls).Pairwise fun a b => a.nowMs ≤ b.nowMs

instance (ip : UInt32) (calls : List ObserveCall) : Decidable (TimeOrdered ip calls) :=
  inferInstanceAs (Decidable (List.Pairwise _ _))

theorem TimeOrdered.before_last {ip : UInt32} {calls : List ObserveCall} {call earlier : ObserveCall}
    (ordered : TimeOrdered ip (calls ++ [call])) (mine : call.packet.parsed.isFrom ip)
    (member : earlier ∈ calls) (source : earlier.packet.parsed.isFrom ip) :
    earlier.packet.parsed.nowMs ≤ call.packet.parsed.nowMs := by
  unfold TimeOrdered at ordered
  rw [sourcePackets_mine mine, List.pairwise_append] at ordered
  apply ordered.2.2
  · exact List.mem_filter.mpr ⟨List.mem_map_of_mem member, source⟩
  · exact List.mem_singleton_self _

theorem TimeOrdered.initial {ip : UInt32} {calls before : List ObserveCall}
    (ordered : TimeOrdered ip calls) (isPrefix : before <+: calls) : TimeOrdered ip before :=
  ordered.sublist (sourcePackets_mono ip isPrefix).sublist

theorem Retained.follows {config : FlowTrackerConfig} {ip : UInt32} {calls : List ObserveCall}
    {Follows : List Observation → Int → PerIpState → Prop}
    (retained : Retained hash config ip calls) (ordered : TimeOrdered ip calls)
    (fresh : ∀ since, Follows [] since {})
    (later : ∀ log since nowMs record, since ≤ nowMs → Follows log since record →
      Follows log nowMs record)
    (step : ∀ before call log, before ++ [call] <+: calls → call.packet.parsed.isFrom ip →
      Follows log call.packet.parsed.nowMs (((after hash config before).recordOf hash ip).getD {}) →
      Follows
        (log ++ [⟨call.packet.parsed, ((((after hash config before).recordOf hash ip).getD
          {}).observe config call.packet.parsed).2⟩])
        call.packet.parsed.nowMs
        ((((after hash config before).recordOf hash ip).getD {}).observe config
          call.packet.parsed).1)
    (nowMs : Int)
    (past : ∀ call ∈ calls, call.packet.parsed.isFrom ip → call.packet.parsed.nowMs ≤ nowMs) :
    Follows (sourceLog hash config ip calls) nowMs
      (((after hash config calls).recordOf hash ip).getD {}) := by
  refine record_rule hash (fun calls record => ∀ nowMs,
    (∀ call ∈ calls, call.packet.parsed.isFrom ip → call.packet.parsed.nowMs ≤ nowMs) →
      Follows (sourceLog hash config ip calls) nowMs record) ?_ calls ?_ ?_ ?_ nowMs past
  · intro nowMs _
    exact fresh nowMs
  · intro before call isPrefix mine earlier nowMs past
    have now := earlier call.packet.parsed.nowMs fun earlier member source =>
      (ordered.initial isPrefix).before_last mine member source
    rw [sourceLog_mine hash mine]
    exact later _ _ _ _ (past call (by simp) mine) (step before call _ isPrefix mine now)
  · intro before call _ other earlier nowMs past
    rw [sourceLog_other hash other]
    exact earlier nowMs fun earlier member => past earlier (List.mem_append_left _ member)
  · intro before call isPrefix _ present gone _
    exact (retained.never_swept hash isPrefix present gone).elim

theorem sourceLog_packets (config : FlowTrackerConfig) (ip : UInt32) (calls : List ObserveCall) :
    (sourceLog hash config ip calls).map Observation.packet = sourcePackets ip calls := by
  induction calls using List.reverseRecOn with
  | nil => rfl
  | append_singleton calls call ih =>
    by_cases mine : call.packet.parsed.isFrom ip
    · rw [sourceLog_mine hash mine, sourcePackets_mine mine, List.map_append, ih]
      rfl
    · rw [sourceLog_other hash mine, sourcePackets_other mine, ih]

theorem Retained.portsFollow {config : FlowTrackerConfig} {ip : UInt32} {calls : List ObserveCall}
    (retained : Retained hash config ip calls) (ordered : TimeOrdered ip calls)
    (bounded : AttemptsBounded hash config ip calls) (nowMs : Int)
    (past : ∀ call ∈ calls, call.packet.parsed.isFrom ip → call.packet.parsed.nowMs ≤ nowMs) :
    PortsFollow config (sourceLog hash config ip calls) nowMs
      (((after hash config calls).recordOf hash ip).getD {}) := by
  apply retained.follows hash ordered (PortsFollow.fresh config) _ _ nowMs past
  · intro log since nowMs record bound follows
    exact follows.later bound
  · intro before call log isPrefix mine follows
    exact (follows.observe le_rfl (bounded before call isPrefix mine)).2.2

theorem Retained.synsFollow {config : FlowTrackerConfig} {ip : UInt32} {calls : List ObserveCall}
    (retained : Retained hash config ip calls) (ordered : TimeOrdered ip calls) (nowMs : Int)
    (past : ∀ call ∈ calls, call.packet.parsed.isFrom ip → call.packet.parsed.nowMs ≤ nowMs) :
    SynsFollow config (sourceLog hash config ip calls) nowMs
      (((after hash config calls).recordOf hash ip).getD {}) := by
  apply retained.follows hash ordered (SynsFollow.fresh config) _ _ nowMs past
  · intro log since nowMs record bound follows
    exact follows.later bound
  · intro before call log isPrefix mine follows
    exact (follows.observe le_rfl).2.2

/-- The incremental port-scan rule answers every packet as a rescan of the source's whole history
    does. -/
theorem port_scan_refines_rescan (config : FlowTrackerConfig) (ip : UInt32)
    (calls : List ObserveCall) (call : ObserveCall) (mine : call.packet.parsed.isFrom ip)
    (ordered : TimeOrdered ip (calls ++ [call])) (retained : Retained hash config ip calls)
    (bounded : AttemptsBounded hash config ip (calls ++ [call])) :
    raised .portScan ((after hash config calls).observe hash call).2 ↔
      PortScan config (sourceLog hash config ip calls) call.packet.parsed := by
  obtain ⟨shorter, bound⟩ := forall_step_snoc.mp bounded
  have follows := retained.portsFollow hash (ordered.initial (List.prefix_append _ _)) shorter
    call.packet.parsed.nowMs (fun earlier member => ordered.before_last mine member)
  rw [(observe_self hash _ mine).1, after_config, PerIpState.observe_withShards]
  exact (follows.observe le_rfl (bound mine)).2.1

theorem second_probe_is_a_scan :
    PortScan { portScanDistinctPortThreshold := 2 }
      (sourceLog UInt32.toNat { portScanDistinctPortThreshold := 2 } 1
        [⟨makeTestPacket 1 2 40000 80 tcpFlagSyn 0 .tcp, []⟩])
      (makeTestPacket 1 2 40000 81 tcpFlagSyn 10 .tcp).parsed :=
  (port_scan_refines_rescan UInt32.toNat { portScanDistinctPortThreshold := 2 } 1
    [⟨makeTestPacket 1 2 40000 80 tcpFlagSyn 0 .tcp, []⟩]
    ⟨makeTestPacket 1 2 40000 81 tcpFlagSyn 10 .tcp, []⟩ (by decide) (by decide)
    (Retained.of_only _ _ (by decide)) (AttemptsBounded.of_length _ (by decide))).mp (by decide)

/-- The pending map holds exactly the half-open 4-tuples of the source's whole history, and the
    SYN-flood rule answers as a rescan of that history does. -/
theorem syn_flood_refines_rescan (config : FlowTrackerConfig) (ip : UInt32)
    (calls : List ObserveCall) (call : ObserveCall) (mine : call.packet.parsed.isFrom ip)
    (tcp : call.packet.parsed.transport = .tcp)
    (ordered : TimeOrdered ip (calls ++ [call])) (retained : Retained hash config ip calls) :
    (∃ record, (after hash config (calls ++ [call])).recordOf hash ip = some record ∧
      ∀ key, key ∈ record.pendingSyns ↔
        HalfOpen (call.packet.parsed.nowMs - config.synFloodWindowMs)
          ((sourceLog hash config ip calls).map Observation.packet ++ [call.packet.parsed]) key) ∧
    (raised .synFlood ((after hash config calls).observe hash call).2 ↔
      SynFlood config (sourceLog hash config ip calls) call.packet.parsed) := by
  have follows := retained.synsFollow hash (ordered.initial (List.prefix_append _ _))
    call.packet.parsed.nowMs (fun earlier member => ordered.before_last mine member)
  obtain ⟨alerts, updated⟩ := observe_self hash (after hash config calls) mine
  rw [after_snoc, updated, alerts, after_config, PerIpState.observe_withShards]
  refine ⟨⟨_, rfl, fun key => ?_⟩, (follows.observe le_rfl).2.1⟩
  rw [← follows.pending_iff_halfOpen le_rfl tcp, PerIpState.observe_eq]
  dsimp only
  rw [(PerIpState.observeSynFlood_tcp config call.packet.parsed _ tcp).1]

theorem second_unanswered_syn_is_a_flood :
    SynFlood { synFloodPendingThreshold := 2 }
      (sourceLog UInt32.toNat { synFloodPendingThreshold := 2 } 1
        [⟨makeTestPacket 1 2 40000 80 tcpFlagSyn 0 .tcp, []⟩])
      (makeTestPacket 1 2 40001 80 tcpFlagSyn 10 .tcp).parsed :=
  (syn_flood_refines_rescan UInt32.toNat { synFloodPendingThreshold := 2 } 1
    [⟨makeTestPacket 1 2 40000 80 tcpFlagSyn 0 .tcp, []⟩]
    ⟨makeTestPacket 1 2 40001 80 tcpFlagSyn 10 .tcp, []⟩ (by decide) (by decide) (by decide)
    (Retained.of_only _ _ (by decide))).2.mp (by decide)

end NetSentinel.FlowTracker
