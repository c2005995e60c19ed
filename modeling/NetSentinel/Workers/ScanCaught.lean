import Mathlib.Data.List.Infix
import NetSentinel.Workers.ScanOrder

namespace NetSentinel.PerIpState

variable {config : FlowTrackerConfig} {packet : ParsedPacket} {state : PerIpState}

theorem observe_keeps_entry {entry : Int × UInt16} (member : entry ∈ state.recentDstPorts)
    (fresh : packet.isConnectionAttempt → packet.nowMs - config.portScanWindowMs ≤ entry.1) :
    entry ∈ (state.observe config packet).1.recentDstPorts := by
  rw [observe_eq]
  dsimp only
  by_cases attempt : packet.isConnectionAttempt
  · rw [(observePortScan_attempt config packet state attempt).1]
    apply SlidingWindow.mem_popExpired_of_fresh _ (fresh attempt)
    exact List.mem_append_left _ member
  · rw [observePortScan_other config packet state attempt]
    exact member

theorem observe_queues_attempt (attempt : packet.isConnectionAttempt)
    (window : 0 ≤ config.portScanWindowMs) :
    (packet.nowMs, packet.dstPort) ∈ (state.observe config packet).1.recentDstPorts := by
  rw [observe_eq]
  dsimp only
  rw [(observePortScan_attempt config packet state attempt).1]
  apply SlidingWindow.mem_popExpired_of_fresh (by simp)
  dsimp only
  omega

theorem observe_raises_or_stamped (attempt : packet.isConnectionAttempt)
    (reached : config.portScanDistinctPortThreshold ≤
      (state.observe config packet).1.portCounts.keys.length) :
    (∃ alert ∈ (state.observe config packet).2,
      alert.type = .portScan ∧ alert.srcIp = packet.srcIp) ∨
      state.lastPortScanAlertMs ≠ none := by
  rw [observe_eq] at reached ⊢
  dsimp only at reached ⊢
  rw [(observePortScan_attempt config packet state attempt).2] at reached
  rw [observePortScan_eq config packet state attempt]
  unfold ruleFires debounceAllows
  rw [if_pos reached]
  cases stamp : state.lastPortScanAlertMs with
  | none => exact .inl ⟨_, List.mem_append_left _ (List.mem_singleton_self _), rfl, rfl⟩
  | some last => exact .inr (Option.some_ne_none last)

theorem observe_stamps (stamped : (state.observe config packet).1.lastPortScanAlertMs ≠ none) :
    (∃ alert ∈ (state.observe config packet).2,
      alert.type = .portScan ∧ alert.srcIp = packet.srcIp) ∨
      state.lastPortScanAlertMs ≠ none := by
  rw [observe_eq] at stamped ⊢
  dsimp only at stamped ⊢
  by_cases attempt : packet.isConnectionAttempt
  · rw [observePortScan_eq config packet state attempt] at stamped ⊢
    cases stamp : state.lastPortScanAlertMs with
    | some last => exact .inr (Option.some_ne_none last)
    | none =>
      left
      rw [stamp] at stamped
      unfold ruleFires debounceAllows at stamped ⊢
      split at stamped
      · rename_i reached
        rw [if_pos reached]
        exact ⟨_, List.mem_append_left _ (List.mem_singleton_self _), rfl, rfl⟩
      · exact (stamped rfl).elim
  · rw [observePortScan_other config packet state attempt] at stamped
    exact .inr stamped

end NetSentinel.PerIpState

namespace NetSentinel.FlowTracker

open Rescan

variable (hash : UInt32 → Nat) {config : FlowTrackerConfig} {ip : UInt32}

/-- A port-scan alert for `ip` was returned during the life of the record it has now. -/
def ScanCaught (config : FlowTrackerConfig) (ip : UInt32) (calls : List ObserveCall) : Prop :=
  ∃ earlier call rest, calls = earlier ++ call :: rest ∧ call.packet.parsed.isFrom ip ∧
    (∃ alert ∈ ((after hash config earlier).observe hash call).2,
      alert.type = .portScan ∧ alert.srcIp = ip) ∧
    ∀ seen, seen <+: rest →
      ((after hash config (earlier ++ call :: seen)).recordOf hash ip).isSome

variable {hash} {calls : List ObserveCall} {call : ObserveCall}

theorem ScanCaught.kept (caught : ScanCaught hash config ip calls)
    (present : ((after hash config (calls ++ [call])).recordOf hash ip).isSome) :
    ScanCaught hash config ip (calls ++ [call]) := by
  obtain ⟨earlier, raiser, rest, rfl, mine, alerted, alive⟩ := caught
  have shape : earlier ++ raiser :: rest ++ [call] = earlier ++ raiser :: (rest ++ [call]) := by
    simp
  rw [shape] at present ⊢
  refine ⟨earlier, raiser, rest ++ [call], rfl, mine, alerted, fun seen isPrefix => ?_⟩
  rcases List.prefix_concat_iff.mp isPrefix with whole | inside
  · rw [whole]
    simpa using present
  · exact alive seen inside

theorem ScanCaught.now (mine : call.packet.parsed.isFrom ip)
    (raises : ∃ alert ∈ ((((after hash config calls).recordOf hash ip).getD {}).observe config
      call.packet.parsed).2, alert.type = .portScan ∧ alert.srcIp = call.packet.parsed.srcIp) :
    ScanCaught hash config ip (calls ++ [call]) := by
  obtain ⟨-, source⟩ : call.packet.parsed.hasIp ∧ call.packet.parsed.srcIp = ip := by
    simpa [ParsedPacket.isFrom] using mine
  refine ⟨calls, call, [], rfl, mine, ?_, fun seen isPrefix => ?_⟩
  · rw [(observe_self hash (after hash config calls) mine).1, after_config,
      PerIpState.observe_withShards]
    rwa [source] at raises
  · rw [List.prefix_nil.mp isPrefix, recordOf_mine hash mine]
    rfl

theorem ScanCaught.of_stamp (calls : List ObserveCall) :
    (((after hash config calls).recordOf hash ip).getD {}).lastPortScanAlertMs ≠ none →
      ScanCaught hash config ip calls := by
  induction calls using List.reverseRecOn with
  | nil =>
    rw [show after hash config [] = new config from rfl, recordOf_new]
    intro stamped
    exact (stamped rfl).elim
  | append_singleton calls call ih =>
    intro stamped
    by_cases mine : call.packet.parsed.isFrom ip
    · have present : (after hash config (calls ++ [call])).recordOf hash ip = _ :=
        recordOf_mine hash mine
      rw [present, Option.getD_some] at stamped
      rcases PerIpState.observe_stamps stamped with raises | earlier
      · exact ScanCaught.now mine raises
      · exact (ih earlier).kept (by rw [present]; rfl)
    · cases present : (after hash config (calls ++ [call])).recordOf hash ip with
      | none =>
        rw [present] at stamped
        exact (stamped rfl).elim
      | some record =>
        have same : (after hash config (calls ++ [call])).recordOf hash ip =
            (after hash config calls).recordOf hash ip := by
          rw [after_snoc] at present ⊢
          exact (observe_other hash _ mine).resolve_right (by simp [present])
        rw [same] at stamped
        exact (ih stamped).kept (by rw [present]; rfl)

theorem ScanCaught.of_reached (mine : call.packet.parsed.isFrom ip)
    (attempt : call.packet.parsed.isConnectionAttempt)
    (reached : config.portScanDistinctPortThreshold ≤
      (((after hash config (calls ++ [call])).recordOf hash ip).getD {}).portCounts.keys.length) :
    ScanCaught hash config ip (calls ++ [call]) := by
  rw [recordOf_mine hash mine, Option.getD_some] at reached
  rcases PerIpState.observe_raises_or_stamped attempt reached with raises | stamped
  · exact ScanCaught.now mine raises
  · apply (ScanCaught.of_stamp calls stamped).kept
    rw [recordOf_mine hash mine]
    rfl

theorem sourcePackets_append (ip : UInt32) (before later : List ObserveCall) :
    sourcePackets ip (before ++ later) = sourcePackets ip before ++ sourcePackets ip later := by
  simp [sourcePackets]

/-- An attempt stays in the deque while its record lives and no later cutoff passes it. -/
theorem attempt_stays_queued {before later : List ObserveCall} {probe : ObserveCall}
    (mine : probe.packet.parsed.isFrom ip) (attempt : probe.packet.parsed.isConnectionAttempt)
    (within : ∀ packet ∈ sourcePackets ip (probe :: later), packet.isConnectionAttempt →
      packet.nowMs ≤ probe.packet.parsed.nowMs + config.portScanWindowMs)
    (alive : ∀ seen, seen <+: later →
      ((after hash config (before ++ probe :: seen)).recordOf hash ip).isSome) :
    (probe.packet.parsed.nowMs, probe.packet.parsed.dstPort) ∈
      (((after hash config (before ++ probe :: later)).recordOf hash ip).getD {}).recentDstPorts := by
  induction later using List.reverseRecOn with
  | nil =>
    rw [recordOf_mine hash mine, Option.getD_some]
    apply PerIpState.observe_queues_attempt attempt
    have := within probe.packet.parsed (by simp [sourcePackets, mine]) attempt
    omega
  | append_singleton later call ih =>
    have queued := ih
      (fun packet member => within packet
        ((sourcePackets_mono ip ⟨[call], by simp⟩).subset member))
      (fun seen isPrefix => alive seen (isPrefix.trans (List.prefix_append _ _)))
    have present := alive (later ++ [call]) List.prefix_rfl
    rw [← List.cons_append, ← List.append_assoc] at present ⊢
    by_cases source : call.packet.parsed.isFrom ip
    · rw [recordOf_mine hash source, Option.getD_some]
      apply PerIpState.observe_keeps_entry queued
      intro isAttempt
      have := within call.packet.parsed (by simp [sourcePackets, source]) isAttempt
      dsimp only
      omega
    · have same : (after hash config (before ++ probe :: later ++ [call])).recordOf hash ip =
          (after hash config (before ++ probe :: later)).recordOf hash ip := by
        rw [after_snoc] at present ⊢
        exact (observe_other hash _ source).resolve_right (Option.isSome_iff_ne_none.mp present)
      rw [same]
      exact queued

theorem attempts_length_mono (ip : UInt32) {shorter : List ObserveCall} (isPrefix : shorter <+: calls) :
    (attemptEntries (sourcePackets ip shorter)).length ≤
      (attemptEntries (sourcePackets ip calls)).length := by
  unfold attemptEntries
  simpa using ((sourcePackets_mono ip isPrefix).sublist.filter _).length_le

theorem AttemptsBounded.of_attempts (config : FlowTrackerConfig)
    (few : (attemptEntries (sourcePackets ip calls)).length < 2^32) :
    AttemptsBounded hash config ip calls := by
  intro before call isPrefix mine attempt
  have queued := (record_trails hash config ip before).tail.length_le
  have total := attempts_length_mono ip isPrefix
  rw [sourcePackets_mine mine, attemptEntries_snoc, if_pos attempt, List.length_append,
    List.length_singleton] at total
  omega

section Scan

variable {before later rest : List ObserveCall} {first : ObserveCall}
  (observed : rest ⊆ later)
  (attempts : ∀ probe ∈ first :: rest,
    probe.packet.parsed.isFrom ip ∧ probe.packet.parsed.isConnectionAttempt)
  (within : ∀ probe ∈ first :: rest, ∀ packet ∈ sourcePackets ip (before ++ first :: later),
    packet.isConnectionAttempt →
      packet.nowMs ≤ probe.packet.parsed.nowMs + config.portScanWindowMs)
  (alive : ∀ seen, seen <+: later →
    ((after hash config (before ++ first :: seen)).recordOf hash ip).isSome)

include observed attempts within alive

theorem scan_stays_queued : ∀ probe ∈ first :: rest,
    (probe.packet.parsed.nowMs, probe.packet.parsed.dstPort) ∈
      (((after hash config (before ++ first :: later)).recordOf hash ip).getD {}).recentDstPorts := by
  intro probe member
  obtain ⟨mine, attempt⟩ := attempts probe member
  have near := within probe member
  rcases List.mem_cons.mp member with rfl | inRest
  · apply attempt_stays_queued mine attempt _ alive
    intro packet here
    apply near packet
    rw [sourcePackets_append]
    exact List.mem_append_right _ here
  · obtain ⟨passed, next, rfl⟩ := List.append_of_mem (observed inRest)
    have shape (seen : List ObserveCall) : before ++ first :: (passed ++ probe :: seen) =
        before ++ first :: passed ++ probe :: seen := by simp
    rw [shape] at near ⊢
    apply attempt_stays_queued mine attempt
    · intro packet here
      apply near packet
      rw [sourcePackets_append]
      exact List.mem_append_right _ here
    · intro seen isPrefix
      have aligned : passed ++ probe :: seen <+: passed ++ probe :: next :=
        (List.prefix_append_right_inj passed).mpr (List.cons_prefix_cons.mpr ⟨rfl, isPrefix⟩)
      rw [← shape]
      exact alive _ aligned

theorem scan_reaches_threshold
    (few : (attemptEntries (sourcePackets ip (before ++ first :: later))).length < 2^32)
    (distinct : config.portScanDistinctPortThreshold ≤
      ((first :: rest).map fun probe => probe.packet.parsed.dstPort).dedup.length) :
    config.portScanDistinctPortThreshold ≤
      (((after hash config (before ++ first :: later)).recordOf hash ip).getD
        {}).portCounts.keys.length := by
  have queued := scan_stays_queued observed attempts within alive
  have tallied := (record_tallied hash (AttemptsBounded.of_attempts config few)).1
  have subset : ((first :: rest).map fun probe => probe.packet.parsed.dstPort).dedup ⊆
      ((((after hash config (before ++ first :: later)).recordOf hash ip).getD
        {}).recentDstPorts.map Prod.snd).dedup := by
    intro port member
    obtain ⟨probe, here, rfl⟩ := List.mem_map.mp (List.mem_dedup.mp member)
    exact List.mem_dedup.mpr (List.mem_map.mpr ⟨_, queued probe here, rfl⟩)
  rw [tallied.size]
  exact distinct.trans (List.subperm_of_subset (List.nodup_dedup _) subset).length_le

end Scan

/-- Whatever the order of the observations, a scan within its window raises the alert while its
    record lives: expiry keeps every probe of it, and the debounce only swallows an alert where an
    earlier one of the same record stands. -/
theorem scan_is_caught (hash : UInt32 → Nat) (config : FlowTrackerConfig) (ip : UInt32)
    (before : List ObserveCall) (first : ObserveCall) (rest later : List ObserveCall)
    (observed : rest ⊆ later)
    (attempts : ∀ probe ∈ first :: rest,
      probe.packet.parsed.isFrom ip ∧ probe.packet.parsed.isConnectionAttempt)
    (few : (attemptEntries (sourcePackets ip (before ++ first :: later))).length < 2^32)
    (distinct : config.portScanDistinctPortThreshold ≤
      ((first :: rest).map fun probe => probe.packet.parsed.dstPort).dedup.length)
    (within : ∀ probe ∈ first :: rest, ∀ packet ∈ sourcePackets ip (before ++ first :: later),
      packet.isConnectionAttempt →
        packet.nowMs ≤ probe.packet.parsed.nowMs + config.portScanWindowMs)
    (alive : ∀ seen, seen <+: later →
      ((after hash config (before ++ first :: seen)).recordOf hash ip).isSome) :
    ScanCaught hash config ip (before ++ first :: later) := by
  have reached := scan_reaches_threshold observed attempts within alive few distinct
  -- Only an attempt of `ip` evaluates the rule: calls after the last one are peeled off.
  induction later using List.reverseRecOn with
  | nil =>
    obtain ⟨mine, attempt⟩ := attempts first List.mem_cons_self
    exact ScanCaught.of_reached mine attempt reached
  | append_singleton later call ih =>
    have present := alive (later ++ [call]) List.prefix_rfl
    have shorter : before ++ first :: later <+: before ++ first :: (later ++ [call]) :=
      ⟨[call], by simp⟩
    rw [← List.cons_append, ← List.append_assoc] at reached present ⊢
    by_cases probes : call.packet.parsed.isFrom ip ∧ call.packet.parsed.isConnectionAttempt
    · exact ScanCaught.of_reached probes.1 probes.2 reached
    · have inside : rest ⊆ later := by
        intro probe member
        rcases List.mem_append.mp (observed member) with early | new
        · exact early
        · rw [List.mem_singleton.mp new] at member
          exact (probes (attempts call (List.mem_cons_of_mem _ member))).elim
      have few' := (attempts_length_mono ip shorter).trans_lt few
      have within' : ∀ probe ∈ first :: rest,
          ∀ packet ∈ sourcePackets ip (before ++ first :: later), packet.isConnectionAttempt →
            packet.nowMs ≤ probe.packet.parsed.nowMs + config.portScanWindowMs :=
        fun probe member packet here =>
          within probe member packet ((sourcePackets_mono ip shorter).subset here)
      have alive' : ∀ seen, seen <+: later →
          ((after hash config (before ++ first :: seen)).recordOf hash ip).isSome :=
        fun seen isPrefix => alive seen (isPrefix.trans (List.prefix_append _ _))
      have caught := ih inside few' within' alive'
        (scan_reaches_threshold inside attempts within' alive' few' distinct)
      exact caught.kept present

theorem scrambled_scan_is_caught :
    ScanCaught UInt32.toNat { portScanDistinctPortThreshold := 3 } 1
      [⟨scanProbe 2 5000, [1]⟩, ⟨scanProbe 1 0, [1]⟩, ⟨scanProbe 3 7, [1]⟩] := by
  apply scan_is_caught UInt32.toNat { portScanDistinctPortThreshold := 3 } 1 []
    ⟨scanProbe 2 5000, [1]⟩ [⟨scanProbe 1 0, [1]⟩, ⟨scanProbe 3 7, [1]⟩]
    [⟨scanProbe 1 0, [1]⟩, ⟨scanProbe 3 7, [1]⟩] (List.Subset.refl _)
  · decide
  · decide
  · decide
  · decide
  · have alive : ∀ seen ∈ [⟨scanProbe 1 0, [1]⟩, ⟨scanProbe 3 7, [1]⟩].inits,
        ((after UInt32.toNat { portScanDistinctPortThreshold := 3 }
          ([] ++ ⟨scanProbe 2 5000, [1]⟩ :: seen)).recordOf UInt32.toNat 1).isSome := by decide
    intro seen isPrefix
    exact alive seen ((List.mem_inits _ _).mpr isPrefix)

end NetSentinel.FlowTracker
