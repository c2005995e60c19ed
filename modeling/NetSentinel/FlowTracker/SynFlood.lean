import NetSentinel.FlowTracker.Representation
import NetSentinel.FlowTracker.Rescan

namespace NetSentinel.Rescan

open SlidingWindow

instance (key : FlowKey) (packet : ParsedPacket) : Decidable (Opens key packet) :=
  inferInstanceAs (Decidable (_ ∧ _))

instance (key : FlowKey) (packet : ParsedPacket) : Decidable (Closes key packet) :=
  inferInstanceAs (Decidable (_ ∧ _))

def openSince (key : FlowKey) (packets : List ParsedPacket) : Option Int :=
  packets.foldl (fun stamp packet =>
    if Opens key packet then some packet.nowMs else if Closes key packet then none else stamp) none

theorem openSince_snoc (key : FlowKey) (packets : List ParsedPacket) (packet : ParsedPacket) :
    openSince key (packets ++ [packet]) =
      if Opens key packet then some packet.nowMs
      else if Closes key packet then none else openSince key packets := by
  simp [openSince, List.foldl_append]

theorem snoc_eq_split {α : Type*} {front before later : List α} {last middle : α} :
    front ++ [last] = before ++ middle :: later ↔
      (later = [] ∧ last = middle ∧ front = before) ∨
        ∃ init, later = init ++ [last] ∧ front = before ++ middle :: init := by
  constructor
  · intro split
    rcases List.eq_nil_or_concat' later with rfl | ⟨init, final, rfl⟩
    · obtain ⟨fronts, lasts⟩ := List.append_inj' split rfl
      exact .inl ⟨rfl, by simpa using lasts, fronts⟩
    · rw [← List.cons_append, ← List.append_assoc] at split
      obtain ⟨fronts, lasts⟩ := List.append_inj' split rfl
      obtain rfl : last = final := by simpa using lasts
      exact .inr ⟨init, rfl, fronts⟩
  · rintro (⟨rfl, rfl, rfl⟩ | ⟨init, rfl, rfl⟩) <;> simp

theorem openSince_eq_some_iff {key : FlowKey} {packets : List ParsedPacket} {t : Int} :
    openSince key packets = some t ↔
      ∃ before syn later, packets = before ++ syn :: later ∧ Opens key syn ∧ syn.nowMs = t ∧
        ∀ packet ∈ later, ¬ Opens key packet ∧ ¬ Closes key packet := by
  induction packets using List.reverseRecOn generalizing t with
  | nil => simp [openSince]
  | append_singleton packets last ih =>
    rw [openSince_snoc]
    constructor
    · intro stamp
      split at stamp
      · rename_i opens
        exact ⟨packets, last, [], rfl, opens, Option.some.inj stamp, by simp⟩
      · rename_i noSyn
        split at stamp
        · cases stamp
        · rename_i noAck
          obtain ⟨before, syn, later, rfl, opens, same, quiet⟩ := ih.mp stamp
          refine ⟨before, syn, later ++ [last], by simp, opens, same, ?_⟩
          intro packet member
          rcases List.mem_append.mp member with old | new
          · exact quiet packet old
          · rw [List.mem_singleton.mp new]
            exact ⟨noSyn, noAck⟩
    · rintro ⟨before, syn, later, split, opens, same, quiet⟩
      rcases snoc_eq_split.mp split with ⟨rfl, rfl, rfl⟩ | ⟨init, rfl, rfl⟩
      · rw [if_pos opens, same]
      · obtain ⟨noSyn, noAck⟩ := quiet last (by simp)
        rw [if_neg noSyn, if_neg noAck]
        exact ih.mpr ⟨before, syn, init, rfl, opens, same,
          fun packet member => quiet packet (List.mem_append_left _ member)⟩

theorem halfOpen_iff {cutoff : Int} {packets : List ParsedPacket} {key : FlowKey} :
    HalfOpen cutoff packets key ↔ ∃ t, openSince key packets = some t ∧ cutoff ≤ t := by
  simp only [openSince_eq_some_iff]
  constructor
  · rintro ⟨before, syn, later, split, opens, recent, quiet⟩
    exact ⟨syn.nowMs, ⟨before, syn, later, split, opens, rfl, quiet⟩, recent⟩
  · rintro ⟨t, ⟨before, syn, later, split, opens, rfl, quiet⟩, recent⟩
    exact ⟨before, syn, later, split, opens, recent, quiet⟩

theorem openSince_past {log : List Observation} {key : FlowKey} {t : Int}
    (opened : openSince key (log.map Observation.packet) = some t) :
    ∃ observation ∈ log, observation.packet.nowMs = t := by
  obtain ⟨before, syn, later, split, -, stamp, -⟩ := openSince_eq_some_iff.mp opened
  have member : syn ∈ log.map Observation.packet := by simp [split]
  obtain ⟨observation, here, rfl⟩ := List.mem_map.mp member
  exact ⟨observation, here, stamp⟩

theorem recordFlags_lookup {packet : ParsedPacket} (tcp : packet.transport = .tcp)
    (state : PerIpState) (key : FlowKey) :
    (state.recordFlags packet).pendingSyns.lookup key =
      if Opens key packet then some packet.nowMs
      else if Closes key packet then none else state.pendingSyns.lookup key := by
  unfold PerIpState.recordFlags Opens Closes
  rcases Bool.eq_false_or_eq_true packet.isSyn with syn | syn <;>
    rcases Bool.eq_false_or_eq_true packet.isAck with ack | ack <;>
    by_cases same : packet.flowKey = key
  all_goals simp [syn, ack, same, tcp]
  all_goals first
    | rw [← same, AList.lookup_insert]
    | rw [AList.lookup_insert_ne (Ne.symm same)]
    | rw [← same, AList.lookup_erase]
    | rw [AList.lookup_erase_ne (Ne.symm same)]

theorem recordFlags_order (packet : ParsedPacket) (state : PerIpState) :
    (state.recordFlags packet).pendingSynOrder = state.pendingSynOrder ∨
      (state.recordFlags packet).pendingSynOrder =
        state.pendingSynOrder ++ [(packet.nowMs, packet.flowKey)] := by
  unfold PerIpState.recordFlags
  split_ifs
  · exact .inr rfl
  · exact .inl rfl
  · exact .inl rfl

theorem expireSyns_subset {cutoff : Int} {order : List (Int × FlowKey)}
    {pending : AList fun _ : FlowKey => Int} {key : FlowKey} {t : Int}
    (found : (expireSyns cutoff order pending).2.lookup key = some t) :
    pending.lookup key = some t := by
  refine SlidingWindow.popExpired_invariant
    (fun _ (left : AList fun _ : FlowKey => Int) =>
      left.lookup key = some t → pending.lookup key = some t) ?_ order pending id found
  intro entry rest left _ before found
  exact before (PerIpState.dropSyn_lookup found).1

theorem expireSyns_lookup {cutoff : Int} {order : List (Int × FlowKey)}
    {pending : AList fun _ : FlowKey => Int} (front : StaleFirst cutoff order)
    (queued : ∀ key t, pending.lookup key = some t → (t, key) ∈ order) (key : FlowKey) (t : Int) :
    (expireSyns cutoff order pending).2.lookup key = some t ↔
      pending.lookup key = some t ∧ cutoff ≤ t := by
  constructor
  · intro found
    have kept := PerIpState.expireSyns_queued cutoff queued key t found
    unfold expireSyns at kept
    rw [front.popExpired_queue, List.mem_filter, decide_eq_true_eq] at kept
    exact ⟨expireSyns_subset found, kept.2⟩
  · rintro ⟨found, recent⟩
    refine SlidingWindow.popExpired_invariant
      (fun _ (pending : AList fun _ : FlowKey => Int) => pending.lookup key = some t) ?_
      order pending found
    intro entry rest pending expired found
    unfold dropSyn
    split
    · rename_i own
      have different : key ≠ entry.2 := by
        rintro rfl
        rw [own] at found
        cases found
        omega
      rw [AList.lookup_erase_ne different]
      exact found
    · exact found

structure SynsFollow (config : FlowTrackerConfig) (log : List Observation) (since : Int)
    (state : PerIpState) : Prop where
  sorted : state.pendingSynOrder.Pairwise fun a b => a.1 ≤ b.1
  past : ∀ entry ∈ state.pendingSynOrder, entry.1 ≤ since
  queued : state.SynsQueued
  pending : ∀ nowMs, since ≤ nowMs → ∀ key t, nowMs - config.synFloodWindowMs ≤ t →
    (state.pendingSyns.lookup key = some t ↔
      openSince key (log.map Observation.packet) = some t)
  stamp : StampFollows config .synFlood log since state.lastSynFloodAlertMs

theorem SynsFollow.fresh (config : FlowTrackerConfig) (since : Int) :
    SynsFollow config [] since {} where
  sorted := List.Pairwise.nil
  past := by simp
  queued key t found := by simp at found
  pending := by simp [openSince]
  stamp := StampFollows.empty _ _ _

theorem SynsFollow.later {config : FlowTrackerConfig} {log : List Observation}
    {since nowMs : Int} {state : PerIpState} (follows : SynsFollow config log since state)
    (later : since ≤ nowMs) : SynsFollow config log nowMs state where
  sorted := follows.sorted
  past entry member := (follows.past entry member).trans later
  queued := follows.queued
  pending next bound := follows.pending next (later.trans bound)
  stamp := follows.stamp.later later

theorem SynsFollow.forget {config : FlowTrackerConfig} {log : List Observation} {since : Int}
    (debounce : 0 ≤ config.alertDebounceMs)
    (staleWindow : ∀ observation ∈ log,
      observation.packet.nowMs < since - config.synFloodWindowMs)
    (staleStamp : ∀ observation ∈ log,
      observation.packet.nowMs < since - config.alertDebounceMs) :
    SynsFollow config log since {} where
  sorted := List.Pairwise.nil
  past := by simp
  queued key t found := by simp at found
  pending nowMs later key t recent := by
    rw [AList.lookup_empty]
    refine iff_of_false (by simp) fun opened => ?_
    obtain ⟨observation, here, same⟩ := openSince_past opened
    have := staleWindow observation here
    omega
  stamp := StampFollows.forget debounce staleStamp

section Step

variable {config : FlowTrackerConfig} {log : List Observation} {since : Int} {state : PerIpState}
  {packet : ParsedPacket}

theorem SynsFollow.flags_sorted (follows : SynsFollow config log since state)
    (later : since ≤ packet.nowMs) :
    (state.recordFlags packet).pendingSynOrder.Pairwise fun a b => a.1 ≤ b.1 := by
  rcases recordFlags_order packet state with same | pushed
  · rw [same]
    exact follows.sorted
  · rw [pushed, List.pairwise_append]
    refine ⟨follows.sorted, List.pairwise_singleton _ _, ?_⟩
    intro old member new isNew
    rw [List.mem_singleton.mp isNew]
    exact (follows.past old member).trans later

theorem SynsFollow.flags_past (follows : SynsFollow config log since state)
    (later : since ≤ packet.nowMs) :
    ∀ entry ∈ (state.recordFlags packet).pendingSynOrder, entry.1 ≤ packet.nowMs := by
  intro entry member
  rcases recordFlags_order packet state with same | pushed
  · rw [same] at member
    exact (follows.past entry member).trans later
  · rw [pushed] at member
    rcases List.mem_append.mp member with old | new
    · exact (follows.past entry old).trans later
    · rw [List.mem_singleton.mp new]

theorem SynsFollow.flags_pending (follows : SynsFollow config log since state)
    (tcp : packet.transport = .tcp) {nowMs t : Int} (later : since ≤ nowMs) (key : FlowKey)
    (recent : nowMs - config.synFloodWindowMs ≤ t) :
    (state.recordFlags packet).pendingSyns.lookup key = some t ↔
      openSince key (log.map Observation.packet ++ [packet]) = some t := by
  rw [recordFlags_lookup tcp, openSince_snoc]
  by_cases opens : Opens key packet
  · simp [opens]
  · by_cases closes : Closes key packet
    · simp [opens, closes]
    · simp [opens, closes, follows.pending nowMs later key t recent]

theorem handshake_lookup (front : StaleFirst (packet.nowMs - config.synFloodWindowMs)
      (state.recordFlags packet).pendingSynOrder)
    (queued : state.SynsQueued) (key : FlowKey) (t : Int) :
    (state.recordHandshake config packet).pendingSyns.lookup key = some t ↔
      (state.recordFlags packet).pendingSyns.lookup key = some t ∧
        packet.nowMs - config.synFloodWindowMs ≤ t :=
  expireSyns_lookup front queued.recordFlags key t

theorem SynsFollow.pending_iff_halfOpen (follows : SynsFollow config log since state)
    (later : since ≤ packet.nowMs) (tcp : packet.transport = .tcp) (key : FlowKey) :
    key ∈ (state.recordHandshake config packet).pendingSyns ↔
      HalfOpen (packet.nowMs - config.synFloodWindowMs)
        (log.map Observation.packet ++ [packet]) key := by
  have front := StaleFirst.of_sorted (packet.nowMs - config.synFloodWindowMs)
    (follows.flags_sorted later)
  rw [← AList.lookup_isSome, Option.isSome_iff_exists, halfOpen_iff]
  refine exists_congr fun t => ?_
  rw [handshake_lookup front follows.queued]
  exact and_congr_left fun recent => follows.flags_pending tcp later key recent

theorem SynsFollow.pending_count (follows : SynsFollow config log since state)
    (later : since ≤ packet.nowMs) (tcp : packet.transport = .tcp) :
    (state.recordHandshake config packet).pendingSyns.keys.length =
      {key | HalfOpen (packet.nowMs - config.synFloodWindowMs)
        (log.map Observation.packet ++ [packet]) key}.ncard := by
  have members : {key | HalfOpen (packet.nowMs - config.synFloodWindowMs)
      (log.map Observation.packet ++ [packet]) key} =
      ((state.recordHandshake config packet).pendingSyns.keys.toFinset : Set FlowKey) := by
    ext key
    rw [Set.mem_ofPred_eq, ← follows.pending_iff_halfOpen later tcp, AList.mem_keys,
      Finset.mem_coe, List.mem_toFinset]
  rw [members, Set.ncard_coe_finset, List.toFinset_card_of_nodup (AList.keys_nodup _)]

theorem raised_synFlood (alert : Alert) (scan : List Alert) (fires : Bool)
    (flood : alert.type = .synFlood) (other : raised .synFlood scan = false) :
    raised .synFlood (scan ++ if fires then [alert] else []) = fires := by
  unfold raised at *
  cases fires <;> simp [flood, other]

theorem observePortScan_raises_no_synFlood (config : FlowTrackerConfig) (packet : ParsedPacket)
    (state : PerIpState) :
    raised .synFlood (state.observePortScan config packet).2 = false := by
  refine List.any_eq_false.mpr fun alert scan => ?_
  simp [PerIpState.observePortScan_type config packet state scan]

theorem SynsFollow.tcp (follows : SynsFollow config log since state)
    (later : since ≤ packet.nowMs) (tcp : packet.transport = .tcp) {alerts : List Alert}
    {after : PerIpState}
    (pendingSyns : after.pendingSyns = (state.recordHandshake config packet).pendingSyns)
    (order : after.pendingSynOrder = (state.recordHandshake config packet).pendingSynOrder)
    (stamp : StampFollows config .synFlood (log ++ [⟨packet, alerts⟩]) packet.nowMs
      after.lastSynFloodAlertMs) :
    SynsFollow config (log ++ [⟨packet, alerts⟩]) packet.nowMs after where
  sorted := by
    rw [order]
    exact (follows.flags_sorted later).sublist (popExpired_sublist _ _ _ _)
  past entry member := by
    rw [order] at member
    exact follows.flags_past later entry (popExpired_mem member)
  queued := by
    unfold PerIpState.SynsQueued
    rw [pendingSyns, order]
    exact PerIpState.expireSyns_queued _ follows.queued.recordFlags
  pending nowMs bound key t recent := by
    have front := StaleFirst.of_sorted (packet.nowMs - config.synFloodWindowMs)
      (follows.flags_sorted later)
    rw [pendingSyns, handshake_lookup front follows.queued, List.map_append, List.map_singleton,
      ← follows.flags_pending tcp (later.trans bound) key recent]
    exact and_iff_left (by omega)
  stamp := stamp

theorem SynsFollow.other (follows : SynsFollow config log since state)
    (later : since ≤ packet.nowMs) (other : ¬ packet.transport = .tcp) {alerts : List Alert}
    (none : raised .synFlood alerts = false) {after : PerIpState}
    (pendingSyns : after.pendingSyns = state.pendingSyns)
    (order : after.pendingSynOrder = state.pendingSynOrder)
    (stamp : after.lastSynFloodAlertMs = state.lastSynFloodAlertMs) :
    SynsFollow config (log ++ [⟨packet, alerts⟩]) packet.nowMs after where
  sorted := order ▸ follows.sorted
  past entry member := (follows.past entry (order ▸ member)).trans later
  queued := by
    unfold PerIpState.SynsQueued
    rw [pendingSyns, order]
    exact follows.queued
  pending nowMs bound key t recent := by
    have noSyn : ¬ Opens key packet := fun opens => other opens.1
    have noAck : ¬ Closes key packet := fun closes => other closes.1
    rw [pendingSyns, List.map_append, List.map_singleton, openSince_snoc, if_neg noSyn,
      if_neg noAck]
    exact follows.pending nowMs (later.trans bound) key t recent
  stamp := stamp ▸ follows.stamp.silent later none

theorem SynsFollow.observe (follows : SynsFollow config log since state)
    (later : since ≤ packet.nowMs) :
    (state.observeSynFlood config packet).2 = synFloodAlerts config log packet ∧
      (raised .synFlood (state.observe config packet).2 ↔ SynFlood config log packet) ∧
      SynsFollow config (log ++ [⟨packet, (state.observe config packet).2⟩]) packet.nowMs
        (state.observe config packet).1 := by
  have scan := observePortScan_raises_no_synFlood config packet state
  rw [PerIpState.observe_eq]
  by_cases tcp : packet.transport = .tcp
  · have count := follows.pending_count later tcp
    have fired := raised_synFlood
      (synFloodAlert config packet (state.recordHandshake config packet).pendingSyns.keys.length)
      (state.observePortScan config packet).2
      (ruleFires config config.synFloodPendingThreshold
        (state.recordHandshake config packet).pendingSyns.keys.length state.lastSynFloodAlertMs
        packet.nowMs).1 rfl scan
    obtain ⟨verdict, stamp⟩ := follows.stamp.ruleFires later fired
    have reference : SynFlood config log packet ↔
        config.synFloodPendingThreshold ≤
          (state.recordHandshake config packet).pendingSyns.keys.length ∧
        Quiet config .synFlood log packet.nowMs := by
      simp only [SynFlood, tcp, count, true_and]
    rw [PerIpState.observeSynFlood_eq config packet state tcp]
    refine ⟨?_, verdict.trans reference.symm, follows.tcp later tcp rfl rfl stamp⟩
    rw [fired, ← reference] at verdict
    unfold synFloodAlerts
    rw [← count]
    by_cases flood : SynFlood config log packet
    · rw [if_pos (verdict.mpr flood), if_pos flood]
    · rw [if_neg (mt verdict.mp flood), if_neg flood]
  · rw [PerIpState.observeSynFlood_other config packet state tcp, List.append_nil]
    have none : ¬ SynFlood config log packet := fun flood => tcp flood.1
    refine ⟨by simp [synFloodAlerts, none], by simp [scan, none], ?_⟩
    exact follows.other later tcp scan rfl rfl rfl

end Step

end NetSentinel.Rescan
