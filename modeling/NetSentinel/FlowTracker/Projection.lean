import Mathlib.Data.List.Induction
import NetSentinel.FlowTracker.Tracker

namespace NetSentinel

structure Observation where
  packet : ParsedPacket
  alerts : List Alert
deriving DecidableEq, Repr

def PerIpState.replay (config : FlowTrackerConfig) (packets : List ParsedPacket) :
    PerIpState × List Observation :=
  packets.foldl (fun run packet =>
    ((run.1.observe config packet).1, run.2 ++ [⟨packet, (run.1.observe config packet).2⟩]))
    ({}, [])

theorem PerIpState.observe_withShards (config : FlowTrackerConfig) (packet : ParsedPacket)
    (state : PerIpState) :
    state.observe config.withShards packet = state.observe config packet := by
  unfold FlowTrackerConfig.withShards
  split <;> rfl

theorem PerIpState.replay_snoc (config : FlowTrackerConfig) (packets : List ParsedPacket)
    (packet : ParsedPacket) :
    replay config (packets ++ [packet]) =
      (((replay config packets).1.observe config packet).1,
        (replay config packets).2 ++
          [⟨packet, ((replay config packets).1.observe config packet).2⟩]) := by
  simp [replay, List.foldl_append]

theorem forall_step_snoc {α : Type*} {P : List α → α → Prop} {steps : List α} {last : α} :
    (∀ before step, before ++ [step] <+: steps ++ [last] → P before step) ↔
      (∀ before step, before ++ [step] <+: steps → P before step) ∧ P steps last := by
  constructor
  · intro all
    exact ⟨fun before step isPrefix => all before step (isPrefix.trans (List.prefix_append _ _)),
      all steps last List.prefix_rfl⟩
  · rintro ⟨shorter, final⟩ before step isPrefix
    rcases List.prefix_concat_iff.mp isPrefix with same | inside
    · obtain ⟨rfl, rfl⟩ : before = steps ∧ step = last := by simpa using same
      exact final
    · exact shorter before step inside

namespace FlowTracker

variable (hash : UInt32 → Nat)

def replay (config : FlowTrackerConfig) (calls : List ObserveCall) :
    FlowTracker × List Observation :=
  calls.foldl (fun run call =>
    ((run.1.observe hash call).1,
      run.2 ++ [⟨call.packet.parsed, (run.1.observe hash call).2⟩])) (new config, [])

def after (config : FlowTrackerConfig) (calls : List ObserveCall) : FlowTracker :=
  (replay hash config calls).1

def sourcePackets (ip : UInt32) (calls : List ObserveCall) : List ParsedPacket :=
  (calls.map fun call => call.packet.parsed).filter (·.isFrom ip)

theorem sourcePackets_mine {ip : UInt32} {calls : List ObserveCall} {call : ObserveCall}
    (mine : call.packet.parsed.isFrom ip) :
    sourcePackets ip (calls ++ [call]) = sourcePackets ip calls ++ [call.packet.parsed] := by
  simp [sourcePackets, mine]

theorem sourcePackets_other {ip : UInt32} {calls : List ObserveCall} {call : ObserveCall}
    (other : ¬ call.packet.parsed.isFrom ip) :
    sourcePackets ip (calls ++ [call]) = sourcePackets ip calls := by
  simp [sourcePackets, other]

theorem sourcePackets_mono (ip : UInt32) {calls before : List ObserveCall}
    (isPrefix : before <+: calls) : sourcePackets ip before <+: sourcePackets ip calls :=
  (isPrefix.map _).filter _

def sourceLog (config : FlowTrackerConfig) (ip : UInt32) (calls : List ObserveCall) :
    List Observation :=
  (replay hash config calls).2.filter fun observation => observation.packet.isFrom ip

/-- No sweep of the run removes the record of `ip`. -/
def Retained (config : FlowTrackerConfig) (ip : UInt32) (calls : List ObserveCall) : Prop :=
  ∀ before call, before ++ [call] <+: calls →
    ((after hash config before).recordOf hash ip).isSome →
    ((after hash config (before ++ [call])).recordOf hash ip).isSome

theorem replay_snoc (config : FlowTrackerConfig) (calls : List ObserveCall) (call : ObserveCall) :
    replay hash config (calls ++ [call]) =
      (((after hash config calls).observe hash call).1,
        (replay hash config calls).2 ++
          [⟨call.packet.parsed, ((after hash config calls).observe hash call).2⟩]) := by
  simp [after, replay, List.foldl_append]

theorem after_snoc (config : FlowTrackerConfig) (calls : List ObserveCall) (call : ObserveCall) :
    after hash config (calls ++ [call]) = ((after hash config calls).observe hash call).1 := by
  rw [after, replay_snoc]

theorem sourceLog_snoc (config : FlowTrackerConfig) (ip : UInt32) (calls : List ObserveCall)
    (call : ObserveCall) :
    sourceLog hash config ip (calls ++ [call]) =
      if call.packet.parsed.isFrom ip then
        sourceLog hash config ip calls ++
          [⟨call.packet.parsed, ((after hash config calls).observe hash call).2⟩]
      else sourceLog hash config ip calls := by
  unfold sourceLog
  rw [replay_snoc, List.filter_append]
  split
  · rename_i mine
    simp [mine]
  · rename_i other
    simp [other]

@[simp] theorem after_config (config : FlowTrackerConfig) (calls : List ObserveCall) :
    (after hash config calls).config = config.withShards := by
  induction calls using List.reverseRecOn with
  | nil => rfl
  | append_singleton calls call ih => rw [after_snoc, observe_config, ih]

theorem Retained.initial {config : FlowTrackerConfig} {ip : UInt32}
    {calls shorter : List ObserveCall} (retained : Retained hash config ip calls)
    (isPrefix : shorter <+: calls) : Retained hash config ip shorter :=
  fun before call next => retained before call (next.trans isPrefix)

/-- The rule for runs: the record of `ip` changes only by observing a packet of `ip`, or is swept by
    the call of another source and starts afresh. -/
theorem record_rule {config : FlowTrackerConfig} {ip : UInt32}
    (P : List ObserveCall → PerIpState → Prop) (start : P [] {}) (calls : List ObserveCall)
    (mine : ∀ before call, before ++ [call] <+: calls → call.packet.parsed.isFrom ip →
      P before (((after hash config before).recordOf hash ip).getD {}) →
      P (before ++ [call]) ((((after hash config before).recordOf hash ip).getD {}).observe config
        call.packet.parsed).1)
    (other : ∀ before call, before ++ [call] <+: calls → ¬ call.packet.parsed.isFrom ip →
      P before (((after hash config before).recordOf hash ip).getD {}) →
      P (before ++ [call]) (((after hash config before).recordOf hash ip).getD {}))
    (swept : ∀ before call, before ++ [call] <+: calls → ¬ call.packet.parsed.isFrom ip →
      ((after hash config before).recordOf hash ip).isSome →
      (after hash config (before ++ [call])).recordOf hash ip = none →
      P before (((after hash config before).recordOf hash ip).getD {}) →
      P (before ++ [call]) {}) :
    P calls (((after hash config calls).recordOf hash ip).getD {}) := by
  induction calls using List.reverseRecOn with
  | nil =>
    rw [show after hash config [] = new config from rfl, recordOf_new]
    exact start
  | append_singleton calls call ih =>
    have longer {before : List ObserveCall} (isPrefix : before <+: calls) :
        before <+: calls ++ [call] := isPrefix.trans (List.prefix_append _ _)
    have earlier := ih (fun before next isPrefix => mine before next (longer isPrefix))
      (fun before next isPrefix => other before next (longer isPrefix))
      (fun before next isPrefix => swept before next (longer isPrefix))
    by_cases source : call.packet.parsed.isFrom ip
    · rw [after_snoc, (observe_self hash _ source).2, after_config, PerIpState.observe_withShards]
      exact mine calls call List.prefix_rfl source earlier
    · have kept := other calls call List.prefix_rfl source earlier
      rcases observe_other hash (after hash config calls) source with same | gone
      · rw [after_snoc, same]
        exact kept
      · cases present : (after hash config calls).recordOf hash ip with
        | none =>
          rw [present] at kept
          rw [after_snoc, gone]
          exact kept
        | some record =>
          have removed := gone
          rw [← after_snoc] at removed
          rw [removed]
          exact swept calls call List.prefix_rfl source (by simp [present]) removed earlier

theorem record_invariant {config : FlowTrackerConfig} {ip : UInt32} (P : PerIpState → Prop)
    (start : P {}) (calls : List ObserveCall)
    (step : ∀ before call, before ++ [call] <+: calls → call.packet.parsed.isFrom ip →
      P (((after hash config before).recordOf hash ip).getD {}) →
      P ((((after hash config before).recordOf hash ip).getD {}).observe config
        call.packet.parsed).1) :
    P (((after hash config calls).recordOf hash ip).getD {}) :=
  record_rule hash (fun _ => P) start calls step (fun _ _ _ _ kept => kept)
    (fun _ _ _ _ _ _ _ => start)

theorem Retained.never_swept {config : FlowTrackerConfig} {ip : UInt32} {calls before : List ObserveCall}
    {call : ObserveCall} (retained : Retained hash config ip calls)
    (isPrefix : before ++ [call] <+: calls)
    (present : ((after hash config before).recordOf hash ip).isSome) :
    (after hash config (before ++ [call])).recordOf hash ip ≠ none := by
  intro gone
  have kept := retained before call isPrefix present
  rw [gone] at kept
  cases kept

theorem Retained.of_only (config : FlowTrackerConfig) {ip : UInt32} {calls : List ObserveCall}
    (only : ∀ call ∈ calls, call.packet.parsed.isFrom ip) : Retained hash config ip calls := by
  intro before call isPrefix _
  have mine := only call (isPrefix.mem (by simp))
  rw [after_snoc, (observe_self hash _ mine).2]
  rfl

theorem recordOf_mine {config : FlowTrackerConfig} {ip : UInt32} {calls : List ObserveCall}
    {call : ObserveCall} (mine : call.packet.parsed.isFrom ip) :
    (after hash config (calls ++ [call])).recordOf hash ip =
      some ((((after hash config calls).recordOf hash ip).getD {}).observe config
        call.packet.parsed).1 := by
  rw [after_snoc, (observe_self hash _ mine).2, after_config, PerIpState.observe_withShards]

theorem Retained.recordOf_other {config : FlowTrackerConfig} {ip : UInt32}
    {calls : List ObserveCall} {call : ObserveCall}
    (retained : Retained hash config ip (calls ++ [call]))
    (other : ¬ call.packet.parsed.isFrom ip) :
    (after hash config (calls ++ [call])).recordOf hash ip =
      (after hash config calls).recordOf hash ip := by
  rw [after_snoc]
  rcases observe_other hash (after hash config calls) other with same | gone
  · exact same
  · rw [gone]
    cases present : (after hash config calls).recordOf hash ip with
    | none => rfl
    | some record =>
      rw [← after_snoc] at gone
      exact (retained.never_swept hash List.prefix_rfl (by simp [present]) gone).elim

theorem sourceLog_mine {config : FlowTrackerConfig} {ip : UInt32} {calls : List ObserveCall}
    {call : ObserveCall} (mine : call.packet.parsed.isFrom ip) :
    sourceLog hash config ip (calls ++ [call]) =
      sourceLog hash config ip calls ++
        [⟨call.packet.parsed, ((((after hash config calls).recordOf hash ip).getD {}).observe config
          call.packet.parsed).2⟩] := by
  rw [sourceLog_snoc, if_pos mine, (observe_self hash _ mine).1, after_config,
    PerIpState.observe_withShards]

theorem sourceLog_other {config : FlowTrackerConfig} {ip : UInt32} {calls : List ObserveCall}
    {call : ObserveCall} (other : ¬ call.packet.parsed.isFrom ip) :
    sourceLog hash config ip (calls ++ [call]) = sourceLog hash config ip calls := by
  rw [sourceLog_snoc, if_neg other]

theorem sourceLog_mono (config : FlowTrackerConfig) (ip : UInt32) {before calls : List ObserveCall}
    (isPrefix : before <+: calls) :
    sourceLog hash config ip before <+: sourceLog hash config ip calls := by
  obtain ⟨rest, rfl⟩ := isPrefix
  induction rest using List.reverseRecOn with
  | nil => simp
  | append_singleton rest call ih =>
    rw [← List.append_assoc, sourceLog_snoc]
    split
    · exact ih.trans (List.prefix_append _ _)
    · exact ih

/-- While its record is retained, a source sees the run of a single record over its own packets:
    shards, sweeps and other sources play no part. -/
theorem Retained.projection {config : FlowTrackerConfig} {ip : UInt32} {calls : List ObserveCall}
    (retained : Retained hash config ip calls) :
    ((after hash config calls).recordOf hash ip).getD {} =
        (PerIpState.replay config (sourcePackets ip calls)).1 ∧
      sourceLog hash config ip calls =
        (PerIpState.replay config (sourcePackets ip calls)).2 := by
  refine record_rule hash (fun calls record =>
    record = (PerIpState.replay config (sourcePackets ip calls)).1 ∧
      sourceLog hash config ip calls = (PerIpState.replay config (sourcePackets ip calls)).2)
    ⟨rfl, rfl⟩ calls ?_ ?_ ?_
  · intro before call _ mine earlier
    obtain ⟨record, log⟩ := earlier
    rw [sourceLog_mine hash mine, sourcePackets_mine mine, PerIpState.replay_snoc, log, record]
    exact ⟨rfl, rfl⟩
  · intro before call _ other earlier
    rw [sourceLog_other hash other, sourcePackets_other other]
    exact earlier
  · intro before call isPrefix _ present gone _
    exact (retained.never_swept hash isPrefix present gone).elim

theorem recordOf_seen {config : FlowTrackerConfig} {ip : UInt32} {calls : List ObserveCall}
    {record : PerIpState} (present : (after hash config calls).recordOf hash ip = some record) :
    ∃ call ∈ calls, call.packet.parsed.isFrom ip := by
  induction calls using List.reverseRecOn with
  | nil =>
    rw [show after hash config [] = new config from rfl, recordOf_new] at present
    cases present
  | append_singleton calls call ih =>
    by_cases mine : call.packet.parsed.isFrom ip
    · exact ⟨call, by simp, mine⟩
    · rw [after_snoc] at present
      rcases observe_other hash (after hash config calls) mine with same | gone
      · rw [same] at present
        obtain ⟨earlier, member, source⟩ := ih present
        exact ⟨earlier, List.mem_append_left _ member, source⟩
      · rw [gone] at present
        cases present

/-- The deque of `ip` never holds 2^32 attempts, the one being queued included. -/
def AttemptsBounded (config : FlowTrackerConfig) (ip : UInt32) (calls : List ObserveCall) : Prop :=
  ∀ before call, before ++ [call] <+: calls → call.packet.parsed.isFrom ip →
    call.packet.parsed.isConnectionAttempt →
    (((after hash config before).recordOf hash ip).getD {}).recentDstPorts.length + 1 < 2^32

end FlowTracker

end NetSentinel
