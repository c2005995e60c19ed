import NetSentinel.FlowTracker.Projection

namespace NetSentinel.PerIpState

variable (config : FlowTrackerConfig) (packet : ParsedPacket) (state : PerIpState)

theorem observePortScan_frame :
    (state.observePortScan config packet).1 =
      { state with
        recentDstPorts := (state.observePortScan config packet).1.recentDstPorts
        portCounts := (state.observePortScan config packet).1.portCounts
        lastPortScanAlertMs := (state.observePortScan config packet).1.lastPortScanAlertMs } := by
  unfold observePortScan
  split <;> rfl

theorem observePortScan_seen (seenMs : Int) :
    observePortScan config packet { state with lastSeenMs := seenMs } =
      ({ (state.observePortScan config packet).1 with lastSeenMs := seenMs },
        (state.observePortScan config packet).2) := by
  unfold observePortScan
  split <;> rfl

theorem recordFlags_frame (ports : List (Int × UInt16)) (counts : Tally.Counts UInt16)
    (stamp : Option Int) (seenMs : Int) :
    recordFlags packet
        { state with
          recentDstPorts := ports, portCounts := counts
          lastPortScanAlertMs := stamp, lastSeenMs := seenMs } =
      { state.recordFlags packet with
        recentDstPorts := ports, portCounts := counts
        lastPortScanAlertMs := stamp, lastSeenMs := seenMs } := by
  unfold recordFlags
  split_ifs <;> rfl

theorem observeSynFlood_frame (ports : List (Int × UInt16)) (counts : Tally.Counts UInt16)
    (stamp : Option Int) (seenMs : Int) :
    observeSynFlood config packet
        { state with
          recentDstPorts := ports, portCounts := counts
          lastPortScanAlertMs := stamp, lastSeenMs := seenMs } =
      ({ (state.observeSynFlood config packet).1 with
          recentDstPorts := ports, portCounts := counts
          lastPortScanAlertMs := stamp, lastSeenMs := seenMs },
        (state.observeSynFlood config packet).2) := by
  unfold observeSynFlood recordHandshake
  rw [recordFlags_frame]
  split
  · unfold recordFlags
    split_ifs <;> rfl
  · rfl

theorem observe_eq :
    state.observe config packet =
      ({ (state.observeSynFlood config packet).1 with
          recentDstPorts := (state.observePortScan config packet).1.recentDstPorts
          portCounts := (state.observePortScan config packet).1.portCounts
          lastSeenMs := packet.nowMs
          lastPortScanAlertMs := (state.observePortScan config packet).1.lastPortScanAlertMs },
        (state.observePortScan config packet).2 ++ (state.observeSynFlood config packet).2) := by
  have frame : { (state.observePortScan config packet).1 with lastSeenMs := packet.nowMs } =
      { state with
        recentDstPorts := (state.observePortScan config packet).1.recentDstPorts
        portCounts := (state.observePortScan config packet).1.portCounts
        lastPortScanAlertMs := (state.observePortScan config packet).1.lastPortScanAlertMs
        lastSeenMs := packet.nowMs } := by
    conv_lhs => rw [observePortScan_frame]
  unfold observe
  simp only [observePortScan_seen, frame, observeSynFlood_frame]

theorem observePortScan_eq (attempt : packet.isConnectionAttempt) :
    state.observePortScan config packet =
      ({ state.recordAttempt config packet with
          lastPortScanAlertMs :=
            (ruleFires config config.portScanDistinctPortThreshold
              (state.recordAttempt config packet).portCounts.keys.length
              state.lastPortScanAlertMs packet.nowMs).2 },
        if (ruleFires config config.portScanDistinctPortThreshold
            (state.recordAttempt config packet).portCounts.keys.length
            state.lastPortScanAlertMs packet.nowMs).1 then
          [portScanAlert config packet (state.recordAttempt config packet).portCounts.keys.length]
        else []) := by
  unfold observePortScan
  rw [if_pos attempt]
  rfl

theorem observePortScan_attempt (attempt : packet.isConnectionAttempt) :
    (state.observePortScan config packet).1.recentDstPorts =
        (state.recordAttempt config packet).recentDstPorts ∧
      (state.observePortScan config packet).1.portCounts =
        (state.recordAttempt config packet).portCounts := by
  simp [observePortScan, attempt]

theorem observePortScan_other (other : ¬ packet.isConnectionAttempt) :
    state.observePortScan config packet = (state, []) := by
  simp [observePortScan, other]

theorem observeSynFlood_eq (tcp : packet.transport = .tcp) :
    state.observeSynFlood config packet =
      ({ state.recordHandshake config packet with
          lastSynFloodAlertMs :=
            (ruleFires config config.synFloodPendingThreshold
              (state.recordHandshake config packet).pendingSyns.keys.length
              state.lastSynFloodAlertMs packet.nowMs).2 },
        if (ruleFires config config.synFloodPendingThreshold
            (state.recordHandshake config packet).pendingSyns.keys.length
            state.lastSynFloodAlertMs packet.nowMs).1 then
          [synFloodAlert config packet
            (state.recordHandshake config packet).pendingSyns.keys.length]
        else []) := by
  have stamp : (state.recordHandshake config packet).lastSynFloodAlertMs =
      state.lastSynFloodAlertMs := by
    unfold recordHandshake recordFlags
    split_ifs <;> rfl
  unfold observeSynFlood
  rw [if_pos tcp, ← stamp]

theorem observeSynFlood_tcp (tcp : packet.transport = .tcp) :
    (state.observeSynFlood config packet).1.pendingSyns =
        (state.recordHandshake config packet).pendingSyns ∧
      (state.observeSynFlood config packet).1.pendingSynOrder =
        (state.recordHandshake config packet).pendingSynOrder := by
  simp [observeSynFlood, tcp]

theorem observeSynFlood_other (other : ¬ packet.transport = .tcp) :
    state.observeSynFlood config packet = (state, []) := by
  simp [observeSynFlood, other]

def PortsTallied (state : PerIpState) : Prop :=
  Tally.Exact state.portCounts (state.recentDstPorts.map Prod.snd)

def SynsQueued (state : PerIpState) : Prop :=
  ∀ key t, state.pendingSyns.lookup key = some t → (t, key) ∈ state.pendingSynOrder

/-- From here on the expiry loop never looks up a port that `port_counts` lacks. -/
def EveryPopFound (cutoff : Int) : List (Int × UInt16) → Tally.Counts UInt16 → Prop
  | [], _ => True
  | entry :: rest, counts =>
    entry.1 < cutoff →
      entry.2 ∈ counts ∧ EveryPopFound cutoff rest (Tally.decrement counts entry.2)

theorem everyPopFound_of_exact (cutoff : Int) (ports : List (Int × UInt16))
    (counts : Tally.Counts UInt16) (tallied : Tally.Exact counts (ports.map Prod.snd))
    (bound : ports.length < 2^32) : EveryPopFound cutoff ports counts := by
  induction ports generalizing counts with
  | nil => trivial
  | cons entry rest ih =>
    intro _
    rw [List.map_cons] at tallied
    rw [List.length_cons] at bound
    have occurrences := List.count_le_length (a := entry.2) (l := rest.map Prod.snd)
    rw [List.length_map] at occurrences
    exact ⟨(tallied.mem_iff _).mpr List.mem_cons_self,
      ih _ (tallied.decrement (by omega)) (by omega)⟩

theorem pushed_exact {state : PerIpState} (tallied : state.PortsTallied) (t : Int) (port : UInt16) :
    Tally.Exact (Tally.increment state.portCounts port)
      ((state.recentDstPorts ++ [(t, port)]).map Prod.snd) := by
  rw [List.map_append]
  exact tallied.increment port

theorem expirePorts_exact {cutoff : Int} {ports : List (Int × UInt16)}
    {counts : Tally.Counts UInt16} (tallied : Tally.Exact counts (ports.map Prod.snd))
    (bound : ports.length < 2^32) :
    Tally.Exact (expirePorts cutoff ports counts).2
      ((expirePorts cutoff ports counts).1.map Prod.snd) := by
  refine (SlidingWindow.popExpired_invariant
    (fun ports counts => Tally.Exact counts (ports.map Prod.snd) ∧ ports.length < 2^32)
    ?_ ports counts ⟨tallied, bound⟩).1
  rintro entry rest counts - ⟨tallied, bound⟩
  rw [List.map_cons] at tallied
  rw [List.length_cons] at bound
  have occurrences := List.count_le_length (a := entry.2) (l := rest.map Prod.snd)
  rw [List.length_map] at occurrences
  exact ⟨tallied.decrement (by omega), by omega⟩

theorem PortsTallied.observe {config : FlowTrackerConfig} {packet : ParsedPacket}
    {state : PerIpState} (tallied : state.PortsTallied)
    (bound : packet.isConnectionAttempt → state.recentDstPorts.length + 1 < 2^32) :
    (state.observe config packet).1.PortsTallied := by
  rw [observe_eq]
  unfold PortsTallied
  dsimp only
  by_cases attempt : packet.isConnectionAttempt
  · obtain ⟨ports, counts⟩ := observePortScan_attempt config packet state attempt
    rw [ports, counts]
    exact expirePorts_exact (pushed_exact tallied _ _) (by simpa using bound attempt)
  · rw [observePortScan_other config packet state attempt]
    exact tallied

theorem observe_length_le (config : FlowTrackerConfig) (packet : ParsedPacket)
    (state : PerIpState) :
    (state.observe config packet).1.recentDstPorts.length ≤
      state.recentDstPorts.length + if packet.isConnectionAttempt then 1 else 0 := by
  rw [observe_eq]
  dsimp only
  by_cases attempt : packet.isConnectionAttempt
  · rw [(observePortScan_attempt config packet state attempt).1, if_pos attempt]
    have kept := (SlidingWindow.popExpired_sublist (packet.nowMs - config.portScanWindowMs)
      (fun counts entry => Tally.decrement counts entry.2)
      (state.recentDstPorts ++ [(packet.nowMs, packet.dstPort)])
      (Tally.increment state.portCounts packet.dstPort)).length_le
    rw [List.length_append, List.length_singleton] at kept
    exact kept
  · rw [observePortScan_other config packet state attempt]
    exact Nat.le_add_right _ _

theorem dropSyn_lookup {pending : AList fun _ : FlowKey => Int} {entry : Int × FlowKey}
    {key : FlowKey} {t : Int} (found : (dropSyn pending entry).lookup key = some t) :
    pending.lookup key = some t ∧ (t, key) ≠ entry := by
  unfold dropSyn at found
  split at found
  · rename_i own
    by_cases same : key = entry.2
    · rw [same, AList.lookup_erase] at found
      cases found
    · rw [AList.lookup_erase_ne same] at found
      exact ⟨found, fun equal => same (congrArg Prod.snd equal)⟩
  · rename_i moved
    refine ⟨found, ?_⟩
    rintro rfl
    exact moved found

theorem expireSyns_queued (cutoff : Int) {order : List (Int × FlowKey)}
    {pending : AList fun _ : FlowKey => Int}
    (queued : ∀ key t, pending.lookup key = some t → (t, key) ∈ order) :
    ∀ key t, (expireSyns cutoff order pending).2.lookup key = some t →
      (t, key) ∈ (expireSyns cutoff order pending).1 := by
  refine SlidingWindow.popExpired_invariant
    (fun order (pending : AList fun _ : FlowKey => Int) =>
      ∀ key t, pending.lookup key = some t → (t, key) ∈ order) ?_ order pending queued
  intro entry rest pending _ queued key t found
  obtain ⟨before, other⟩ := dropSyn_lookup found
  exact (List.mem_cons.mp (queued key t before)).resolve_left other

theorem SynsQueued.recordFlags {packet : ParsedPacket} {state : PerIpState}
    (queued : state.SynsQueued) : (state.recordFlags packet).SynsQueued := by
  intro key t found
  unfold PerIpState.recordFlags at found ⊢
  split at found
  · rename_i opens
    rw [if_pos opens]
    by_cases same : key = packet.flowKey
    · subst same
      rw [AList.lookup_insert] at found
      simp [Option.some.inj found]
    · rw [AList.lookup_insert_ne same] at found
      exact List.mem_append_left _ (queued key t found)
  · rename_i keeps
    rw [if_neg keeps]
    split at found
    · rename_i closes
      rw [if_pos closes]
      by_cases same : key = packet.flowKey
      · subst same
        rw [AList.lookup_erase] at found
        cases found
      · rw [AList.lookup_erase_ne same] at found
        exact queued key t found
    · rename_i ignores
      rw [if_neg ignores]
      exact queued key t found

theorem SynsQueued.observe {config : FlowTrackerConfig} {packet : ParsedPacket}
    {state : PerIpState} (queued : state.SynsQueued) :
    (state.observe config packet).1.SynsQueued := by
  rw [observe_eq]
  unfold SynsQueued
  dsimp only
  by_cases tcp : packet.transport = .tcp
  · obtain ⟨pending, order⟩ := observeSynFlood_tcp config packet state tcp
    rw [pending, order]
    exact expireSyns_queued _ queued.recordFlags
  · rw [observeSynFlood_other config packet state tcp]
    exact queued

end NetSentinel.PerIpState

namespace NetSentinel.FlowTracker

variable (hash : UInt32 → Nat)

theorem record_tallied {config : FlowTrackerConfig} {ip : UInt32} {calls : List ObserveCall}
    (bounded : AttemptsBounded hash config ip calls) :
    (((after hash config calls).recordOf hash ip).getD {}).PortsTallied ∧
      (((after hash config calls).recordOf hash ip).getD {}).recentDstPorts.length < 2^32 := by
  refine record_invariant hash
    (fun record => record.PortsTallied ∧ record.recentDstPorts.length < 2^32)
    ⟨Tally.Exact.empty, by decide⟩ calls ?_
  rintro before call isPrefix mine ⟨tallied, short⟩
  have bound := bounded before call isPrefix mine
  have length := PerIpState.observe_length_le config call.packet.parsed
    (((after hash config before).recordOf hash ip).getD {})
  refine ⟨tallied.observe bound, ?_⟩
  split at length
  · rename_i attempt
    have := bound attempt
    omega
  · omega

theorem recentDstPorts_length_le (config : FlowTrackerConfig) (ip : UInt32)
    (calls : List ObserveCall) :
    (((after hash config calls).recordOf hash ip).getD {}).recentDstPorts.length ≤
      calls.length := by
  refine record_rule hash (fun calls record => record.recentDstPorts.length ≤ calls.length)
    le_rfl calls ?_ ?_ ?_
  · intro before call _ _ bound
    have length := PerIpState.observe_length_le config call.packet.parsed
      (((after hash config before).recordOf hash ip).getD {})
    rw [List.length_append, List.length_singleton]
    split at length <;> omega
  · intro before call _ _ bound
    rw [List.length_append]
    omega
  · intro before call _ _ _ _ _
    exact Nat.zero_le _

theorem AttemptsBounded.of_length {config : FlowTrackerConfig} {ip : UInt32}
    {calls : List ObserveCall} (short : calls.length < 2^32) :
    AttemptsBounded hash config ip calls := by
  intro before call isPrefix _ _
  have queued := recentDstPorts_length_le hash config ip before
  have fits := isPrefix.length_le
  rw [List.length_append, List.length_singleton] at fits
  omega

theorem record_queued (config : FlowTrackerConfig) (ip : UInt32) (calls : List ObserveCall) :
    (((after hash config calls).recordOf hash ip).getD {}).SynsQueued := by
  refine record_invariant hash PerIpState.SynsQueued ?_ calls ?_
  · intro key t found
    simp at found
  · intro before call _ _ queued
    exact queued.observe

/-- The representation invariant of a tracked record, whatever the order of the timestamps. -/
theorem tracked_record_represents (config : FlowTrackerConfig) (calls : List ObserveCall)
    (ip : UInt32) (record : PerIpState)
    (tracked : (after hash config calls).recordOf hash ip = some record) :
    (AttemptsBounded hash config ip calls →
      (∀ port, port ∈ record.portCounts ↔ ∃ t, (t, port) ∈ record.recentDstPorts) ∧
      (∀ port n, record.portCounts.lookup port = some n →
        n ≠ 0 ∧ n.toNat = (record.recentDstPorts.map Prod.snd).count port) ∧
      record.portCounts.keys.length = (record.recentDstPorts.map Prod.snd).dedup.length ∧
      ∀ packet : ParsedPacket, record.recentDstPorts.length + 1 < 2^32 →
        PerIpState.EveryPopFound (packet.nowMs - config.portScanWindowMs)
          (record.recentDstPorts ++ [(packet.nowMs, packet.dstPort)])
          (Tally.increment record.portCounts packet.dstPort)) ∧
    (∀ key t, record.pendingSyns.lookup key = some t → (t, key) ∈ record.pendingSynOrder) ∧
    (record.pendingSynOrder = [] → record.pendingSyns = ∅) := by
  have queued := record_queued hash config ip calls
  rw [tracked, Option.getD_some] at queued
  refine ⟨fun bounded => ?_, queued, fun drained => ?_⟩
  · obtain ⟨tallied, short⟩ := record_tallied hash bounded
    rw [tracked, Option.getD_some] at tallied short
    refine ⟨fun port => ?_, fun port n found => ?_, tallied.size, fun packet bound => ?_⟩
    · rw [tallied.mem_iff]
      simp
    · have occurrences := List.count_le_length (a := port) (l := record.recentDstPorts.map Prod.snd)
      rw [List.length_map] at occurrences
      exact tallied.value_of_lookup found (by omega)
    · exact PerIpState.everyPopFound_of_exact _ _ _ (PerIpState.pushed_exact tallied _ _)
        (by simpa using bound)
  · apply Tally.eq_empty_of_lookup
    intro key
    cases found : record.pendingSyns.lookup key with
    | none => rfl
    | some t => simpa [drained] using queued key t found

theorem repeated_port_is_counted_once :
    (((after UInt32.toNat {}
      [⟨makeTestPacket 1 2 40000 80 tcpFlagSyn 7 .tcp, []⟩,
        ⟨makeTestPacket 1 2 40000 80 tcpFlagSyn 3 .tcp, []⟩]).recordOf UInt32.toNat 1).get
          (by decide)).portCounts.keys.length =
      ((((after UInt32.toNat {}
        [⟨makeTestPacket 1 2 40000 80 tcpFlagSyn 7 .tcp, []⟩,
          ⟨makeTestPacket 1 2 40000 80 tcpFlagSyn 3 .tcp, []⟩]).recordOf UInt32.toNat 1).get
            (by decide)).recentDstPorts.map Prod.snd).dedup.length :=
  ((tracked_record_represents UInt32.toNat {} _ 1 _ (Option.some_get (by decide)).symm).1
    (AttemptsBounded.of_length _ (by decide))).2.2.1

end NetSentinel.FlowTracker
