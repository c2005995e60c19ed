import Mathlib.Data.Finset.Max
import NetSentinel.FlowTracker.Refinement
import NetSentinel.Workers.Schedule

namespace NetSentinel.Rescan

open SlidingWindow

def keyOf (entry : QueuedPacket × Nat) : FlowKey := entry.1.parsed.flowKey

def IsSyn (ip : UInt32) (entry : QueuedPacket × Nat) : Prop :=
  entry.1.parsed.isFrom ip ∧ Opens (keyOf entry) entry.1.parsed

def IsAck (ip : UInt32) (entry : QueuedPacket × Nat) : Prop :=
  entry.1.parsed.isFrom ip ∧ Closes (keyOf entry) entry.1.parsed

/-- In capture order `syn` is still inside the window at `last`, with no ACK on its 4-tuple by then. -/
def Unanswered (config : FlowTrackerConfig) (ip : UInt32) (stream : List QueuedPacket)
    (syn last : QueuedPacket × Nat) : Prop :=
  last.1.parsed.nowMs - config.synFloodWindowMs ≤ syn.1.parsed.nowMs ∧
    ∀ ack ∈ stream.zipIdx, syn.2 < ack.2 → ack.2 ≤ last.2 → IsAck ip ack → keyOf ack ≠ keyOf syn

def IsNewest (ip : UInt32) (seen : List (QueuedPacket × Nat)) (entry : QueuedPacket × Nat) : Prop :=
  IsSyn ip entry ∧ ∀ syn ∈ seen, IsSyn ip syn → syn.2 < entry.2

/-- The newest SYN finds nothing stale behind something young in the deque and overtakes no ACK on
    another pending 4-tuple; a SYN that was overtaken is still unanswered at those that overtook it;
    and a packet with ACK overtakes no SYN on its own 4-tuple. -/
structure KeepsHandshakes (config : FlowTrackerConfig) (ip : UInt32) (stream : List QueuedPacket)
    (seen : List (QueuedPacket × Nat)) (state : PerIpState) (entry : QueuedPacket × Nat) :
    Prop where
  expires : IsNewest ip seen entry →
    StaleFirst (entry.1.parsed.nowMs - config.synFloodWindowMs)
      (state.pendingSynOrder ++ [(entry.1.parsed.nowMs, keyOf entry)])
  answers : IsNewest ip seen entry → ∀ ack ∈ stream.zipIdx, IsAck ip ack → ack.2 < entry.2 →
    ack ∉ seen → keyOf ack ≠ keyOf entry → keyOf ack ∉ state.pendingSyns
  overtaken : IsSyn ip entry → ∀ later ∈ seen, IsSyn ip later → entry.2 < later.2 →
    Unanswered config ip stream entry later
  ack : IsAck ip entry → ∀ syn ∈ stream.zipIdx, IsSyn ip syn → keyOf syn = keyOf entry →
    syn.2 < entry.2 → syn ∈ seen

section Decidable

variable (config : FlowTrackerConfig) (ip : UInt32) (stream : List QueuedPacket)
  (seen : List (QueuedPacket × Nat)) (state : PerIpState) (entry last : QueuedPacket × Nat)

instance : Decidable (IsSyn ip entry) := inferInstanceAs (Decidable (_ ∧ Opens _ _))

instance : Decidable (IsAck ip entry) := inferInstanceAs (Decidable (_ ∧ Closes _ _))

instance : Decidable (Unanswered config ip stream entry last) :=
  inferInstanceAs (Decidable (_ ∧ _))

instance : Decidable (IsNewest ip seen entry) := inferInstanceAs (Decidable (_ ∧ _))

instance (cutoff : Int) (queue : List (Int × FlowKey)) : Decidable (StaleFirst cutoff queue) :=
  inferInstanceAs (Decidable (List.Pairwise _ _))

instance : Decidable (KeepsHandshakes config ip stream seen state entry) :=
  @decidable_of_iff _ (_ ∧ _ ∧ _ ∧ _)
    ⟨fun ⟨expires, answers, overtaken, ack⟩ => ⟨expires, answers, overtaken, ack⟩,
      fun ⟨expires, answers, overtaken, ack⟩ => ⟨expires, answers, overtaken, ack⟩⟩
    (@instDecidableAnd _ _ inferInstance
      (@instDecidableAnd _ _ inferInstance (@instDecidableAnd _ _ inferInstance inferInstance)))

end Decidable

structure StillOpen (config : FlowTrackerConfig) (ip : UInt32) (stream : List QueuedPacket)
    (seen : List (QueuedPacket × Nat)) (syn : QueuedPacket × Nat) : Prop where
  member : syn ∈ seen
  opens : IsSyn ip syn
  answered : ∀ ack ∈ seen, IsAck ip ack → keyOf ack = keyOf syn → ack.2 < syn.2
  unanswered : ∀ last ∈ seen, IsSyn ip last → Unanswered config ip stream syn last

/-- What is pending in a record whose source's packets were observed without such overtaking. -/
structure HandshakesTrail (config : FlowTrackerConfig) (ip : UInt32) (stream : List QueuedPacket)
    (seen : List (QueuedPacket × Nat)) (state : PerIpState) : Prop where
  captured : ∀ entry ∈ seen, entry ∈ stream.zipIdx
  queued : state.SynsQueued
  acksInOrder : ∀ ack ∈ seen, IsAck ip ack → ∀ syn ∈ stream.zipIdx, IsSyn ip syn →
    keyOf syn = keyOf ack → syn.2 < ack.2 → syn ∈ seen
  pending : ∀ key t, state.pendingSyns.lookup key = some t →
    ∃ syn, StillOpen config ip stream seen syn ∧ keyOf syn = key ∧ syn.1.parsed.nowMs = t

theorem HandshakesTrail.fresh (config : FlowTrackerConfig) (ip : UInt32)
    (stream : List QueuedPacket) : HandshakesTrail config ip stream [] {} where
  captured := by simp
  queued key t found := by simp at found
  acksInOrder := by simp
  pending key t found := by simp at found

theorem zipIdx_same_position {stream : List QueuedPacket} {one other : QueuedPacket × Nat}
    (first : one ∈ stream.zipIdx) (second : other ∈ stream.zipIdx) (same : one.2 = other.2) :
    one = other := by
  have here := (List.mk_mem_zipIdx_iff_getElem? (x := one.1) (i := one.2) (l := stream)).mp first
  have there := (List.mk_mem_zipIdx_iff_getElem? (x := other.1) (i := other.2) (l := stream)).mp second
  rw [same, there] at here
  exact Prod.ext (Option.some.inj here).symm same

theorem IsSyn.not_isAck {ip : UInt32} {entry : QueuedPacket × Nat} (syn : IsSyn ip entry) :
    ¬ IsAck ip entry := fun ack => syn.2.2.2.1 ack.2.2.1

theorem recordFlags_opens {packet : ParsedPacket} {key : FlowKey} (opens : Opens key packet)
    (state : PerIpState) :
    (state.recordFlags packet).pendingSynOrder = state.pendingSynOrder ++ [(packet.nowMs, key)] := by
  obtain ⟨-, syn, noAck, same⟩ := opens
  simp [PerIpState.recordFlags, syn, noAck, same]

section Step

variable {config : FlowTrackerConfig} {ip : UInt32} {stream : List QueuedPacket}
  {seen : List (QueuedPacket × Nat)} {state : PerIpState} {entry syn last : QueuedPacket × Nat}

theorem Unanswered.earlier (unanswered : Unanswered config ip stream syn last)
    {before : QueuedPacket × Nat} (first : before.2 ≤ last.2)
    (older : before.1.parsed.nowMs ≤ last.1.parsed.nowMs) :
    Unanswered config ip stream syn before := by
  obtain ⟨recent, silent⟩ := unanswered
  exact ⟨by omega, fun ack captured after upTo => silent ack captured after (upTo.trans first)⟩

theorem StillOpen.quiet (still : StillOpen config ip stream seen syn) (noSyn : ¬ IsSyn ip entry)
    (notAnswered : IsAck ip entry → keyOf entry ≠ keyOf syn) :
    StillOpen config ip stream (seen ++ [entry]) syn := by
  refine ⟨List.mem_append_left _ still.member, still.opens, ?_, ?_⟩
  · intro ack member closes same
    rcases List.mem_append.mp member with before | new
    · exact still.answered ack before closes same
    · rw [List.mem_singleton.mp new] at closes same
      exact (notAnswered closes same).elim
  · intro last member opensLast
    rcases List.mem_append.mp member with before | new
    · exact still.unanswered last before opensLast
    · rw [List.mem_singleton.mp new] at opensLast
      exact (noSyn opensLast).elim

theorem StillOpen.observes_syn (still : StillOpen config ip stream seen syn) (opens : IsSyn ip entry)
    (unanswered : Unanswered config ip stream syn entry) :
    StillOpen config ip stream (seen ++ [entry]) syn := by
  refine ⟨List.mem_append_left _ still.member, still.opens, ?_, ?_⟩
  · intro ack member closes same
    rcases List.mem_append.mp member with before | new
    · exact still.answered ack before closes same
    · rw [List.mem_singleton.mp new] at closes
      exact (opens.not_isAck closes).elim
  · intro last member opensLast
    rcases List.mem_append.mp member with before | new
    · exact still.unanswered last before opensLast
    · rwa [List.mem_singleton.mp new]

theorem HandshakesTrail.captured_snoc (trail : HandshakesTrail config ip stream seen state)
    (here : entry ∈ stream.zipIdx) : ∀ other ∈ seen ++ [entry], other ∈ stream.zipIdx := by
  intro other member
  rcases List.mem_append.mp member with before | new
  · exact trail.captured other before
  · rw [List.mem_singleton.mp new]
    exact here

theorem HandshakesTrail.acksInOrder_snoc (trail : HandshakesTrail config ip stream seen state)
    (keeps : KeepsHandshakes config ip stream seen state entry) :
    ∀ ack ∈ seen ++ [entry], IsAck ip ack → ∀ syn ∈ stream.zipIdx, IsSyn ip syn →
      keyOf syn = keyOf ack → syn.2 < ack.2 → syn ∈ seen ++ [entry] := by
  intro ack member closes syn captured opens same first
  apply List.mem_append_left
  rcases List.mem_append.mp member with before | new
  · exact trail.acksInOrder ack before closes syn captured opens same first
  · rw [List.mem_singleton.mp new] at closes same first
    exact keeps.ack closes syn captured opens same first

theorem HandshakesTrail.quiet (trail : HandshakesTrail config ip stream seen state)
    (here : entry ∈ stream.zipIdx) (noSyn : ¬ IsSyn ip entry)
    (keeps : KeepsHandshakes config ip stream seen state entry) {after : PerIpState}
    (queued : after.SynsQueued)
    (pending : ∀ key t, after.pendingSyns.lookup key = some t →
      state.pendingSyns.lookup key = some t ∧ (IsAck ip entry → keyOf entry ≠ key)) :
    HandshakesTrail config ip stream (seen ++ [entry]) after := by
  refine ⟨trail.captured_snoc here, queued, trail.acksInOrder_snoc keeps, ?_⟩
  intro key t found
  obtain ⟨foundBefore, notAnswered⟩ := pending key t found
  obtain ⟨syn, still, same, time⟩ := trail.pending key t foundBefore
  exact ⟨syn, still.quiet noSyn (same ▸ notAnswered), same, time⟩

theorem HandshakesTrail.newest_or_overtaken (trail : HandshakesTrail config ip stream seen state)
    (here : entry ∈ stream.zipIdx) (fresh : entry ∉ seen) (opens : IsSyn ip entry) :
    IsNewest ip seen entry ∨ ∃ later ∈ seen, IsSyn ip later ∧ entry.2 < later.2 := by
  by_cases ahead : ∀ syn ∈ seen, IsSyn ip syn → syn.2 < entry.2
  · exact .inl ⟨opens, ahead⟩
  · push Not at ahead
    obtain ⟨later, member, opensLater, notBefore⟩ := ahead
    refine .inr ⟨later, member, opensLater, Nat.lt_of_le_of_ne notBefore fun same => fresh ?_⟩
    rwa [zipIdx_same_position here (trail.captured later member) same]

theorem HandshakesTrail.own (trail : HandshakesTrail config ip stream seen state)
    (here : entry ∈ stream.zipIdx) (fresh : entry ∉ seen) (opens : IsSyn ip entry)
    (unanswered : ∀ last ∈ seen ++ [entry], IsSyn ip last → Unanswered config ip stream entry last) :
    StillOpen config ip stream (seen ++ [entry]) entry := by
  refine ⟨by simp, opens, ?_, unanswered⟩
  intro ack member closes same
  rcases List.mem_append.mp member with old | new
  · rcases Nat.lt_trichotomy ack.2 entry.2 with before | position | later
    · exact before
    · exact (fresh (zipIdx_same_position (trail.captured ack old) here position ▸ old)).elim
    · exact (fresh (trail.acksInOrder ack old closes entry here opens same.symm later)).elim
  · rw [List.mem_singleton.mp new] at closes
    exact (opens.not_isAck closes).elim

theorem HandshakesTrail.own_unanswered (trail : HandshakesTrail config ip stream seen state)
    (here : entry ∈ stream.zipIdx) (fresh : entry ∉ seen) (opens : IsSyn ip entry)
    (keeps : KeepsHandshakes config ip stream seen state entry)
    (timely : ∀ earlier ∈ stream.zipIdx, ∀ later ∈ stream.zipIdx, earlier.2 < later.2 →
      earlier.1.parsed.nowMs ≤ later.1.parsed.nowMs)
    (recent : IsNewest ip seen entry → 0 ≤ config.synFloodWindowMs)
    (member : last ∈ seen ++ [entry]) (opensLast : IsSyn ip last) :
    Unanswered config ip stream entry last := by
  have captured := trail.captured_snoc here last member
  by_cases late : entry.2 < last.2
  · have before : last ∈ seen := by
      refine (List.mem_append.mp member).resolve_right fun new => ?_
      rw [List.mem_singleton.mp new] at late
      exact Nat.lt_irrefl _ late
    exact keeps.overtaken opens last before opensLast late
  · rcases trail.newest_or_overtaken here fresh opens with newest | ⟨later, seenLater, opensLater, first⟩
    · have wide := recent newest
      have older : last.1.parsed.nowMs ≤ entry.1.parsed.nowMs := by
        rcases Nat.lt_or_eq_of_le (Nat.le_of_not_lt late) with before | same
        · exact timely last captured entry here before
        · rw [zipIdx_same_position captured here same]
      exact ⟨by omega, fun ack _ after upTo => by omega⟩
    · exact (keeps.overtaken opens later seenLater opensLater first).earlier (by omega)
        (timely last captured later (trail.captured later seenLater) (by omega))

theorem HandshakesTrail.kept_unanswered (trail : HandshakesTrail config ip stream seen state)
    (here : entry ∈ stream.zipIdx) (fresh : entry ∉ seen) (opens : IsSyn ip entry)
    (keeps : KeepsHandshakes config ip stream seen state entry)
    (timely : ∀ earlier ∈ stream.zipIdx, ∀ later ∈ stream.zipIdx, earlier.2 < later.2 →
      earlier.1.parsed.nowMs ≤ later.1.parsed.nowMs)
    (still : StillOpen config ip stream seen syn) (apart : keyOf syn ≠ keyOf entry)
    (pending : keyOf syn ∈ state.pendingSyns)
    (recent : IsNewest ip seen entry →
      entry.1.parsed.nowMs - config.synFloodWindowMs ≤ syn.1.parsed.nowMs) :
    Unanswered config ip stream syn entry := by
  rcases trail.newest_or_overtaken here fresh opens with newest | ⟨later, member, opensLater, first⟩
  · refine ⟨recent newest, fun ack captured after upTo closes same => ?_⟩
    have unseen : ack ∉ seen := by
      intro observed
      have := still.answered ack observed closes same
      omega
    have before : ack.2 < entry.2 := by
      refine Nat.lt_of_le_of_ne upTo fun position => ?_
      rw [zipIdx_same_position captured here position] at closes
      exact opens.not_isAck closes
    exact keeps.answers newest ack captured closes before unseen (same ▸ apart) (same ▸ pending)
  · exact (still.unanswered later member opensLater).earlier (Nat.le_of_lt first)
      (timely entry here later (trail.captured later member) first)

theorem HandshakesTrail.observes_syn (trail : HandshakesTrail config ip stream seen state)
    (here : entry ∈ stream.zipIdx) (fresh : entry ∉ seen) (opens : IsSyn ip entry)
    (keeps : KeepsHandshakes config ip stream seen state entry)
    (timely : ∀ earlier ∈ stream.zipIdx, ∀ later ∈ stream.zipIdx, earlier.2 < later.2 →
      earlier.1.parsed.nowMs ≤ later.1.parsed.nowMs)
    {after : PerIpState} (queued : after.SynsQueued)
    (pending : ∀ key t, after.pendingSyns.lookup key = some t →
      key = keyOf entry ∧ t = entry.1.parsed.nowMs ∨
        key ≠ keyOf entry ∧ state.pendingSyns.lookup key = some t)
    (recent : IsNewest ip seen entry → ∀ key t,
      after.pendingSyns.lookup key = some t → entry.1.parsed.nowMs - config.synFloodWindowMs ≤ t) :
    HandshakesTrail config ip stream (seen ++ [entry]) after := by
  refine ⟨trail.captured_snoc here, queued, trail.acksInOrder_snoc keeps, ?_⟩
  intro key t found
  rcases pending key t found with ⟨rfl, rfl⟩ | ⟨apart, foundBefore⟩
  · refine ⟨entry, trail.own here fresh opens fun last => ?_, rfl, rfl⟩
    refine trail.own_unanswered here fresh opens keeps timely fun newest => ?_
    have := recent newest _ _ found
    omega
  · obtain ⟨syn, still, rfl, rfl⟩ := trail.pending key t foundBefore
    have known : keyOf syn ∈ state.pendingSyns := AList.lookup_isSome.mp (by simp [foundBefore])
    exact ⟨syn, still.observes_syn opens (trail.kept_unanswered here fresh opens keeps timely still
      apart known fun newest => recent newest _ _ found), rfl, rfl⟩

theorem HandshakesTrail.other (trail : HandshakesTrail config ip stream seen state)
    (here : entry ∈ stream.zipIdx) (foreign : ¬ entry.1.parsed.isFrom ip) :
    HandshakesTrail config ip stream (seen ++ [entry]) state := by
  refine trail.quiet here (fun opens => foreign opens.1) ⟨?_, ?_, ?_, ?_⟩ trail.queued
    fun key t found => ⟨found, fun closes => (foreign closes.1).elim⟩
  · exact fun newest => (foreign newest.1.1).elim
  · exact fun newest => (foreign newest.1.1).elim
  · exact fun opens => (foreign opens.1).elim
  · exact fun closes => (foreign closes.1).elim

theorem HandshakesTrail.observe (trail : HandshakesTrail config ip stream seen state)
    (here : entry ∈ stream.zipIdx) (fresh : entry ∉ seen) (mine : entry.1.parsed.isFrom ip)
    (keeps : KeepsHandshakes config ip stream seen state entry)
    (timely : ∀ earlier ∈ stream.zipIdx, ∀ later ∈ stream.zipIdx, earlier.2 < later.2 →
      earlier.1.parsed.nowMs ≤ later.1.parsed.nowMs) :
    HandshakesTrail config ip stream (seen ++ [entry])
      (state.observe config entry.1.parsed).1 := by
  have queued : (state.observe config entry.1.parsed).1.SynsQueued := trail.queued.observe
  rw [PerIpState.observe_eq] at queued ⊢
  by_cases tcp : entry.1.parsed.transport = .tcp
  · obtain ⟨pending, -⟩ := PerIpState.observeSynFlood_tcp config entry.1.parsed state tcp
    have flagged {key : FlowKey} {t : Int}
        (found : (state.recordHandshake config entry.1.parsed).pendingSyns.lookup key = some t) :
        (if Opens key entry.1.parsed then some entry.1.parsed.nowMs
          else if Closes key entry.1.parsed then none else state.pendingSyns.lookup key) = some t := by
      rw [← recordFlags_lookup tcp]
      exact expireSyns_subset found
    by_cases opens : Opens (keyOf entry) entry.1.parsed
    · refine trail.observes_syn here fresh ⟨mine, opens⟩ keeps timely queued ?_ ?_
      · intro key t found
        dsimp only at found
        rw [pending] at found
        have before := flagged found
        by_cases same : key = keyOf entry
        · rw [if_pos (same ▸ opens)] at before
          exact .inl ⟨same, (Option.some.inj before).symm⟩
        · have notOpens : ¬ Opens key entry.1.parsed := fun opened => same opened.2.2.2.symm
          have notCloses : ¬ Closes key entry.1.parsed := fun closes => same closes.2.2.symm
          rw [if_neg notOpens, if_neg notCloses] at before
          exact .inr ⟨same, before⟩
      · intro newest key t found
        have front := keeps.expires newest
        rw [← recordFlags_opens opens state] at front
        dsimp only at found
        rw [pending, handshake_lookup front trail.queued] at found
        exact found.2
    · refine trail.quiet here (fun syn => opens syn.2) keeps queued fun key t found => ?_
      dsimp only at found
      rw [pending] at found
      have before := flagged found
      have notOpens : ¬ Opens key entry.1.parsed := by
        rintro ⟨overTcp, syn, noAck, -⟩
        exact opens ⟨overTcp, syn, noAck, rfl⟩
      rw [if_neg notOpens] at before
      by_cases closes : Closes key entry.1.parsed
      · rw [if_pos closes] at before
        cases before
      · rw [if_neg closes] at before
        exact ⟨before, fun ack same => closes (same ▸ ack.2)⟩
  · rw [PerIpState.observeSynFlood_other config entry.1.parsed state tcp] at queued ⊢
    exact trail.quiet here (fun syn => tcp syn.2.1) keeps queued
      fun key t found => ⟨found, fun ack => (tcp ack.2.1).elim⟩

end Step

theorem raised_synFlood_count {config : FlowTrackerConfig} {state : PerIpState}
    {packet : ParsedPacket} (raises : raised .synFlood (state.observe config packet).2) :
    packet.transport = .tcp ∧ config.synFloodPendingThreshold ≤
      (state.observe config packet).1.pendingSyns.keys.length := by
  rw [PerIpState.observe_eq] at raises ⊢
  have scan := observePortScan_raises_no_synFlood config packet state
  by_cases tcp : packet.transport = .tcp
  · refine ⟨tcp, ?_⟩
    dsimp only
    rw [(PerIpState.observeSynFlood_tcp config packet state tcp).1]
    rw [PerIpState.observeSynFlood_eq config packet state tcp, raised_synFlood _ _ _ rfl scan]
      at raises
    unfold ruleFires at raises
    split at raises
    · rename_i reached
      exact reached
    · cases raises
  · rw [PerIpState.observeSynFlood_other config packet state tcp, List.append_nil] at raises
    rw [scan] at raises
    cases raises

def entryPackets (ip : UInt32) (entries : List (QueuedPacket × Nat)) : List ParsedPacket :=
  (entries.map fun entry => entry.1.parsed).filter (·.isFrom ip)

theorem HalfOpen.kept {cutoff : Int} {packets : List ParsedPacket} {key : FlowKey}
    (halfOpen : HalfOpen cutoff packets key) {more : List ParsedPacket}
    (unanswered : ∀ packet ∈ more, ¬ Closes key packet)
    (recent : ∀ packet ∈ more, cutoff ≤ packet.nowMs) : HalfOpen cutoff (packets ++ more) key := by
  induction more using List.reverseRecOn with
  | nil => rwa [List.append_nil]
  | append_singleton more packet ih =>
    have before := ih (fun other member => unanswered other (List.mem_append_left _ member))
      fun other member => recent other (List.mem_append_left _ member)
    rw [← List.append_assoc, halfOpen_iff, openSince_snoc]
    by_cases opens : Opens key packet
    · exact ⟨packet.nowMs, if_pos opens, recent packet (by simp)⟩
    · rw [if_neg opens, if_neg (unanswered packet (by simp))]
      exact halfOpen_iff.mp before

theorem halfOpen_of_unanswered {config : FlowTrackerConfig} {ip : UInt32}
    {stream : List QueuedPacket} {front back : List (QueuedPacket × Nat)}
    {syn last : QueuedPacket × Nat} (split : stream.zipIdx = front ++ last :: back)
    (timely : ∀ earlier ∈ stream.zipIdx, ∀ later ∈ stream.zipIdx, earlier.2 < later.2 →
      earlier.1.parsed.nowMs ≤ later.1.parsed.nowMs)
    (captured : syn ∈ stream.zipIdx) (notLater : syn.2 ≤ last.2) (opens : IsSyn ip syn)
    (mine : last.1.parsed.isFrom ip) (unanswered : Unanswered config ip stream syn last) :
    HalfOpen (last.1.parsed.nowMs - config.synFloodWindowMs)
      (entryPackets ip front ++ [last.1.parsed]) (keyOf syn) := by
  obtain ⟨recent, silent⟩ := unanswered
  have increasing := Schedule.zipIdx_increasing stream
  have whole : entryPackets ip front ++ [last.1.parsed] = entryPackets ip (front ++ [last]) := by
    simp [entryPackets, mine]
  have upTo : syn ∈ front ++ [last] := by
    rw [split] at captured increasing
    rcases List.mem_append.mp captured with before | notBefore
    · exact List.mem_append_left _ before
    · rcases List.mem_cons.mp notBefore with same | after
      · exact List.mem_append_right _ (List.mem_singleton.mpr same)
      · have := (List.pairwise_cons.mp (List.pairwise_append.mp increasing).2.1).1 syn after
        omega
  obtain ⟨first, second, parts⟩ := List.append_of_mem upTo
  have inStream : stream.zipIdx = first ++ syn :: (second ++ back) := by
    rw [split, List.append_cons front, parts, List.append_assoc, List.cons_append]
  have packets : entryPackets ip (front ++ [last]) =
      (entryPackets ip first ++ [syn.1.parsed]) ++ entryPackets ip second := by
    rw [parts]
    simp [entryPackets, opens.1]
  have opened : HalfOpen (last.1.parsed.nowMs - config.synFloodWindowMs)
      (entryPackets ip first ++ [syn.1.parsed]) (keyOf syn) :=
    ⟨entryPackets ip first, syn.1.parsed, [], rfl, opens.2, recent, by simp⟩
  have later {packet : ParsedPacket} (member : packet ∈ entryPackets ip second) :
      ∃ entry ∈ stream.zipIdx, entry.1.parsed = packet ∧ packet.isFrom ip ∧ syn.2 < entry.2 ∧
        entry.2 ≤ last.2 := by
    obtain ⟨kept, source⟩ := List.mem_filter.mp member
    obtain ⟨entry, inSecond, rfl⟩ := List.mem_map.mp kept
    refine ⟨entry, by rw [inStream]; simp [inSecond], rfl, source, ?_, ?_⟩
    · rw [inStream] at increasing
      exact (List.pairwise_cons.mp (List.pairwise_append.mp increasing).2.1).1 entry
        (List.mem_append_left _ inSecond)
    · have inFront : entry ∈ front ++ [last] := by
        rw [parts]
        simp [inSecond]
      rcases List.mem_append.mp inFront with before | final
      · rw [split] at increasing
        exact Nat.le_of_lt ((List.pairwise_append.mp increasing).2.2 entry before last (by simp))
      · rw [List.mem_singleton.mp final]
  rw [whole, packets]
  refine opened.kept (fun packet member closes => ?_) fun packet member => ?_
  · obtain ⟨entry, there, rfl, source, after, bound⟩ := later member
    exact silent entry there after bound ⟨source, closes.1, closes.2.1, rfl⟩ closes.2.2
  · obtain ⟨entry, there, rfl, -, after, -⟩ := later member
    have := timely syn captured entry there after
    omega

theorem exists_newest {ip : UInt32} {seen : List (QueuedPacket × Nat)}
    {syn : QueuedPacket × Nat} (member : syn ∈ seen) (opens : IsSyn ip syn) :
    ∃ last ∈ seen, IsSyn ip last ∧ ∀ other ∈ seen, IsSyn ip other → other.2 ≤ last.2 := by
  classical
  obtain ⟨last, found, newest⟩ := (seen.filter (IsSyn ip ·)).toFinset.exists_max_image Prod.snd
    ⟨syn, by simp [member, opens]⟩
  simp only [List.mem_toFinset, List.mem_filter, decide_eq_true_eq] at found newest
  exact ⟨last, found.1, found.2, fun other here opened => newest other ⟨here, opened⟩⟩

end NetSentinel.Rescan

namespace NetSentinel.FlowTracker

open Rescan

variable (hash : UInt32 → Nat)

theorem halfOpen_lt_threshold {config : FlowTrackerConfig} {ip : UInt32}
    {front : List ObserveCall} {call : ObserveCall} {rest : List ObserveCall}
    (retained : Retained hash config ip (front ++ call :: rest))
    (ordered : TimeOrdered ip (front ++ call :: rest))
    (quiet : ∀ observation ∈ sourceLog hash config ip (front ++ call :: rest),
      raised .synFlood observation.alerts = false)
    (mine : call.packet.parsed.isFrom ip) (tcp : call.packet.parsed.transport = .tcp)
    {keys : List FlowKey} (distinct : keys.Nodup)
    (halfOpen : ∀ key ∈ keys, HalfOpen (call.packet.parsed.nowMs - config.synFloodWindowMs)
      (sourcePackets ip front ++ [call.packet.parsed]) key) :
    keys.length < config.synFloodPendingThreshold := by
  have upTo : front ++ [call] <+: front ++ call :: rest := ⟨rest, by simp⟩
  have quietUpTo : ∀ observation ∈ sourceLog hash config ip (front ++ [call]),
      raised .synFlood observation.alerts = false := fun observation member =>
    quiet observation ((sourceLog_mono hash config ip upTo).subset member)
  have follows := (retained.initial hash (List.prefix_append _ _)).synsFollow hash
    (ordered.initial (List.prefix_append _ _)) call.packet.parsed.nowMs
    (fun earlier member => (ordered.initial upTo).before_last mine member)
  rw [sourceLog_mine hash mine] at quietUpTo
  have calm : Quiet config .synFlood (sourceLog hash config ip front) call.packet.parsed.nowMs := by
    intro observation member raises
    rw [quietUpTo observation (List.mem_append_left _ member)] at raises
    cases raises
  have silent := quietUpTo _ (List.mem_append_right _ (List.mem_singleton_self _))
  have verdict := (follows.observe le_rfl).2.1
  rw [silent] at verdict
  have fits : ¬ config.synFloodPendingThreshold ≤ _ := fun reached =>
    Bool.noConfusion (verdict.mpr ⟨tcp, reached, calm⟩)
  rw [← follows.pending_count le_rfl tcp] at fits
  have covered : keys ⊆ (PerIpState.recordHandshake config call.packet.parsed
      (((after hash config front).recordOf hash ip).getD {})).pendingSyns.keys := by
    intro key member
    rw [← AList.mem_keys, follows.pending_iff_halfOpen le_rfl tcp, sourceLog_packets]
    exact halfOpen key member
  have := (List.subperm_of_subset distinct covered).length_le
  omega

theorem capture_split {stream : List QueuedPacket} {capture : List ObserveCall}
    (same : (capture.map fun call => call.packet) = stream)
    {front back : List (QueuedPacket × Nat)} {entry : QueuedPacket × Nat}
    (split : stream.zipIdx = front ++ entry :: back) (ip : UInt32) :
    ∃ before call rest, capture = before ++ call :: rest ∧ call.packet = entry.1 ∧
      sourcePackets ip before = entryPackets ip front := by
  have packets := congrArg (List.map Prod.fst) split
  rw [List.zipIdx_map_fst, ← same, List.map_append, List.map_cons] at packets
  obtain ⟨before, others, rfl, fronts, tail⟩ := List.map_eq_append_iff.mp packets
  obtain ⟨call, rest, rfl, found, -⟩ := List.map_eq_cons_iff.mp tail
  refine ⟨before, call, rest, rfl, found, ?_⟩
  have parsed := congrArg (List.map QueuedPacket.parsed) fronts
  rw [List.map_map, List.map_map] at parsed
  exact congrArg (List.filter (·.isFrom ip)) parsed

theorem trail_lt_threshold {config : FlowTrackerConfig} {ip : UInt32}
    {stream : List QueuedPacket} {capture : List ObserveCall}
    (same : (capture.map fun call => call.packet) = stream)
    (retained : Retained hash config ip capture) (ordered : TimeOrdered ip capture)
    (quiet : ∀ observation ∈ sourceLog hash config ip capture,
      raised .synFlood observation.alerts = false)
    (timely : ∀ earlier ∈ stream.zipIdx, ∀ later ∈ stream.zipIdx, earlier.2 < later.2 →
      earlier.1.parsed.nowMs ≤ later.1.parsed.nowMs)
    {seen : List (QueuedPacket × Nat)} {state : PerIpState} {entry : QueuedPacket × Nat}
    (trail : HandshakesTrail config ip stream seen state) (here : entry ∈ stream.zipIdx)
    (mine : entry.1.parsed.isFrom ip) (tcp : entry.1.parsed.transport = .tcp) :
    state.pendingSyns.keys.length < config.synFloodPendingThreshold := by
  have below {last : QueuedPacket × Nat} {front back : List (QueuedPacket × Nat)}
      (split : stream.zipIdx = front ++ last :: back) (source : last.1.parsed.isFrom ip)
      (overTcp : last.1.parsed.transport = .tcp) {keys : List FlowKey} (distinct : keys.Nodup)
      (halfOpen : ∀ key ∈ keys, HalfOpen (last.1.parsed.nowMs - config.synFloodWindowMs)
        (entryPackets ip front ++ [last.1.parsed]) key) :
      keys.length < config.synFloodPendingThreshold := by
    obtain ⟨before, call, rest, rfl, found, packets⟩ := capture_split same split ip
    rw [← packets] at halfOpen
    rw [← found] at source overTcp halfOpen
    exact halfOpen_lt_threshold hash retained ordered quiet source overTcp distinct halfOpen
  by_cases empty : state.pendingSyns.keys = []
  · obtain ⟨front, back, split⟩ := List.append_of_mem here
    rw [empty]
    exact below split mine tcp List.nodup_nil (by simp)
  · have opened {key : FlowKey} (member : key ∈ state.pendingSyns.keys) :
        ∃ syn, StillOpen config ip stream seen syn ∧ keyOf syn = key := by
      obtain ⟨t, found⟩ := Option.isSome_iff_exists.mp
        (AList.lookup_isSome.mpr (AList.mem_keys.mpr member))
      obtain ⟨syn, still, same, -⟩ := trail.pending key t found
      exact ⟨syn, still, same⟩
    obtain ⟨key, member⟩ := List.exists_mem_of_ne_nil _ empty
    obtain ⟨syn, still, -⟩ := opened member
    obtain ⟨last, seenLast, opensLast, newest⟩ := exists_newest still.member still.opens
    obtain ⟨front, back, split⟩ := List.append_of_mem (trail.captured last seenLast)
    refine below split opensLast.1 opensLast.2.1 (AList.keys_nodup _) fun key member => ?_
    obtain ⟨syn, still, rfl⟩ := opened member
    exact halfOpen_of_unanswered split timely (trail.captured syn still.member)
      (newest syn still.member still.opens) still.opens opensLast.1
      (still.unanswered last seenLast opensLast)

def seenEntries (observed : List (ObserveCall × Nat)) : List (QueuedPacket × Nat) :=
  observed.map fun entry => (entry.1.packet, entry.2)

/-- This observation of the run overtakes no handshake packet of `ip` that it matters to. -/
def HandshakeOrder (config : FlowTrackerConfig) (ip : UInt32) (stream : List QueuedPacket)
    (before : List (ObserveCall × Nat)) (entry : ObserveCall × Nat) : Prop :=
  KeepsHandshakes config ip stream (seenEntries before)
    (((after hash config (before.map Prod.fst)).recordOf hash ip).getD {})
    (entry.1.packet, entry.2)

theorem zipIdx_timely {stream : List QueuedPacket}
    (ordered : stream.Pairwise fun a b => a.parsed.nowMs ≤ b.parsed.nowMs) :
    ∀ earlier ∈ stream.zipIdx, ∀ later ∈ stream.zipIdx, earlier.2 < later.2 →
      earlier.1.parsed.nowMs ≤ later.1.parsed.nowMs := by
  intro earlier first later second before
  obtain ⟨bound, here⟩ := List.getElem?_eq_some_iff.mp
    (List.mk_mem_zipIdx_iff_getElem?.mp (show (earlier.1, earlier.2) ∈ _ from first))
  obtain ⟨boundLater, there⟩ := List.getElem?_eq_some_iff.mp
    (List.mk_mem_zipIdx_iff_getElem?.mp (show (later.1, later.2) ∈ _ from second))
  rw [← here, ← there]
  exact List.pairwise_iff_getElem.mp ordered earlier.2 later.2 bound boundLater before

theorem observed_trail {config : FlowTrackerConfig} {ip : UInt32} {stream : List QueuedPacket}
    (ordered : stream.Pairwise fun a b => a.parsed.nowMs ≤ b.parsed.nowMs)
    {observed : List (ObserveCall × Nat)}
    (captured : ∀ entry ∈ observed, (entry.1.packet, entry.2) ∈ stream.zipIdx)
    (once : (observed.map Prod.snd).Nodup)
    (retained : Retained hash config ip (observed.map Prod.fst))
    (inOrder : ∀ before entry, before ++ [entry] <+: observed →
      HandshakeOrder hash config ip stream before entry) :
    HandshakesTrail config ip stream (seenEntries observed)
      (((after hash config (observed.map Prod.fst)).recordOf hash ip).getD {}) := by
  induction observed using List.reverseRecOn with
  | nil =>
    rw [show after hash config (List.map Prod.fst []) = new config from rfl, recordOf_new]
    exact HandshakesTrail.fresh config ip stream
  | append_singleton observed entry ih =>
    obtain ⟨earlier, keeps⟩ := forall_step_snoc.mp inOrder
    rw [List.map_append, List.nodup_append] at once
    rw [List.map_append] at retained ⊢
    have trail := ih (fun other member => captured other (List.mem_append_left _ member)) once.1
      (retained.initial hash (List.prefix_append _ _)) earlier
    have here := captured entry (by simp)
    have fresh : (entry.1.packet, entry.2) ∉ seenEntries observed := by
      intro member
      obtain ⟨other, seenOther, same⟩ := List.mem_map.mp member
      have position := congrArg Prod.snd same
      exact once.2.2 other.2 (List.mem_map_of_mem seenOther) entry.2 (by simp) position
    have longer : seenEntries (observed ++ [entry]) =
        seenEntries observed ++ [(entry.1.packet, entry.2)] := by simp [seenEntries]
    rw [longer]
    by_cases mine : entry.1.packet.parsed.isFrom ip
    · rw [List.map_singleton, recordOf_mine hash mine, Option.getD_some]
      exact trail.observe here fresh mine keeps (zipIdx_timely ordered)
    · rw [List.map_singleton] at retained ⊢
      rw [retained.recordOf_other hash mine]
      exact trail.other here mine

/-- In every run of the workers that keeps handshakes in order, a source whose packets raise no
    SYN flood in capture order raises none. -/
theorem ordered_handshakes_raise_no_flood {ω : Type*} [DecidableEq ω]
    (config : FlowTrackerConfig) (ip : UInt32) (stream : List QueuedPacket)
    (ordered : stream.Pairwise fun a b => a.parsed.nowMs ≤ b.parsed.nowMs)
    (capture : List ObserveCall) (same : (capture.map fun call => call.packet) = stream)
    (captureRetained : Retained hash config ip capture)
    (quiet : ∀ observation ∈ sourceLog hash config ip capture,
      raised .synFlood observation.alerts = false)
    (run : {schedule : Schedule ω // (Schedule.system ω stream).Reachable schedule})
    (retained : Retained hash config ip run.1.calls)
    (inOrder : ∀ before entry, before ++ [entry] <+: run.1.observed →
      HandshakeOrder hash config ip stream before entry) :
    ∀ observation ∈ sourceLog hash config ip run.1.calls,
      raised .synFlood observation.alerts = false := by
  have placed := Schedule.Placed.of_reachable run.2
  have captureOrdered : TimeOrdered ip capture := by
    unfold TimeOrdered sourcePackets
    rw [← same, List.pairwise_map] at ordered
    have parsed : (capture.map fun call => call.packet.parsed).Pairwise fun a b =>
      a.nowMs ≤ b.nowMs := List.pairwise_map.mpr ordered
    exact parsed.filter _
  have upTo : ∀ observed, observed <+: run.1.observed →
      ∀ observation ∈ sourceLog hash config ip (observed.map Prod.fst),
        raised .synFlood observation.alerts = false := by
    intro observed isPrefix
    induction observed using List.reverseRecOn with
    | nil =>
      intro observation member
      cases member
    | append_singleton observed entry ih =>
      have shorter := (List.prefix_append observed [entry]).trans isPrefix
      rw [List.map_append, List.map_singleton]
      by_cases mine : entry.1.packet.parsed.isFrom ip
      · rw [sourceLog_mine hash mine]
        intro observation member
        rcases List.mem_append.mp member with old | new
        · exact ih shorter observation old
        · rw [List.mem_singleton.mp new]
          dsimp only
          by_contra raises
          rw [Bool.not_eq_false] at raises
          obtain ⟨tcp, reached⟩ := raised_synFlood_count raises
          have trail := observed_trail hash ordered
            (fun other here => placed.seen other (isPrefix.subset here))
            (placed.seenOnce.sublist (isPrefix.sublist.map _))
            (retained.initial hash (isPrefix.map _))
            (fun before next inside => inOrder before next (inside.trans isPrefix))
          rw [List.map_append, List.map_singleton, recordOf_mine hash mine, Option.getD_some]
            at trail
          have below := trail_lt_threshold hash same captureRetained captureOrdered quiet (zipIdx_timely ordered) trail
            (placed.seen entry (isPrefix.subset (by simp))) mine tcp
          omega
      · rw [sourceLog_other hash mine]
        exact ih shorter
  exact upTo run.1.observed List.prefix_rfl

def handshakePacket (srcPort : UInt16) (tcpFlags : UInt8) (timestampMs : Int) : QueuedPacket :=
  makeTestPacket 1 2 srcPort 80 tcpFlags timestampMs .tcp

def handshakes : List QueuedPacket :=
  [handshakePacket 40000 tcpFlagSyn 0, handshakePacket 40000 tcpFlagAck 1,
    handshakePacket 40001 tcpFlagSyn 2, handshakePacket 40001 tcpFlagAck 3]

def handshakeConfig : FlowTrackerConfig := { synFloodPendingThreshold := 2 }

instance (config : FlowTrackerConfig) (ip : UInt32) (stream : List QueuedPacket)
    (before : List (ObserveCall × Nat)) (entry : ObserveCall × Nat) :
    Decidable (HandshakeOrder hash config ip stream before entry) :=
  inferInstanceAs (Decidable (KeepsHandshakes _ _ _ _ _ _))

def swappedHandshakes : List QueuedPacket :=
  [handshakePacket 40000 tcpFlagSyn 0, handshakePacket 40001 tcpFlagSyn 1,
    handshakePacket 40000 tcpFlagAck 2, handshakePacket 40001 tcpFlagAck 3,
    handshakePacket 40002 tcpFlagSyn 4]

def swappedConfig : FlowTrackerConfig := { synFloodPendingThreshold := 3 }

def swappedObserved : List (ObserveCall × Nat) :=
  [(⟨handshakePacket 40001 tcpFlagSyn 1, [1]⟩, 1), (⟨handshakePacket 40000 tcpFlagSyn 0, [1]⟩, 0),
    (⟨handshakePacket 40000 tcpFlagAck 2, [1]⟩, 2), (⟨handshakePacket 40001 tcpFlagAck 3, [1]⟩, 3),
    (⟨handshakePacket 40002 tcpFlagSyn 4, [1]⟩, 4)]

theorem swapped_handshake_run :
    ∃ run : {schedule : Schedule (Fin 2) //
        (Schedule.system (Fin 2) swappedHandshakes).Reachable schedule},
      run.1.observed = swappedObserved := by
  have start : (Schedule.system (Fin 2) swappedHandshakes).Reachable
      ⟨swappedHandshakes.zipIdx, fun _ => [], []⟩ := TransitionSystem.Reachable.first rfl
  have early := start.next (Schedule.Step.take 0 (swappedHandshakes.zipIdx.take 1) _ rfl
    (List.cons_ne_nil _ _) rfl)
  have late := early.next (Schedule.Step.take 1 (swappedHandshakes.zipIdx.drop 1) [] rfl
    (List.cons_ne_nil _ _) rfl)
  have first := late.next (Schedule.Step.observe 1 (handshakePacket 40001 tcpFlagSyn 1) 1 _ [1] rfl)
  have second := first.next
    (Schedule.Step.observe 0 (handshakePacket 40000 tcpFlagSyn 0) 0 _ [1] rfl)
  have third := second.next
    (Schedule.Step.observe 1 (handshakePacket 40000 tcpFlagAck 2) 2 _ [1] rfl)
  have fourth := third.next
    (Schedule.Step.observe 1 (handshakePacket 40001 tcpFlagAck 3) 3 _ [1] rfl)
  have fifth := fourth.next
    (Schedule.Step.observe 1 (handshakePacket 40002 tcpFlagSyn 4) 4 _ [1] rfl)
  exact ⟨⟨_, fifth⟩, rfl⟩

/-- The second SYN overtakes the first, before either is answered. -/
theorem swapped_handshakes_raise_no_flood :
    (sourceLog UInt32.toNat swappedConfig 1 (swappedObserved.map Prod.fst)).any
      (fun observation => raised .synFlood observation.alerts) = false := by
  obtain ⟨run, observed⟩ := swapped_handshake_run
  have calls : run.1.calls = swappedObserved.map Prod.fst := congrArg (List.map Prod.fst) observed
  have retained : Retained UInt32.toNat swappedConfig 1 run.1.calls := by
    rw [calls]
    exact Retained.of_only _ _ (by decide)
  have inOrder : ∀ before entry, before ++ [entry] <+: run.1.observed →
      HandshakeOrder UInt32.toNat swappedConfig 1 swappedHandshakes before entry := by
    rw [observed]
    have none : ∀ before entry, before ++ [entry] <+: [] →
        HandshakeOrder UInt32.toNat swappedConfig 1 swappedHandshakes before entry := by simp
    have first : ∀ before entry, before ++ [entry] <+: swappedObserved.take 1 →
        HandshakeOrder UInt32.toNat swappedConfig 1 swappedHandshakes before entry :=
      forall_step_snoc.mpr ⟨none, by decide⟩
    have second : ∀ before entry, before ++ [entry] <+: swappedObserved.take 2 →
        HandshakeOrder UInt32.toNat swappedConfig 1 swappedHandshakes before entry :=
      forall_step_snoc.mpr ⟨first, by decide⟩
    have third : ∀ before entry, before ++ [entry] <+: swappedObserved.take 3 →
        HandshakeOrder UInt32.toNat swappedConfig 1 swappedHandshakes before entry :=
      forall_step_snoc.mpr ⟨second, by decide⟩
    have fourth : ∀ before entry, before ++ [entry] <+: swappedObserved.take 4 →
        HandshakeOrder UInt32.toNat swappedConfig 1 swappedHandshakes before entry :=
      forall_step_snoc.mpr ⟨third, by decide⟩
    exact forall_step_snoc.mpr ⟨fourth, by decide⟩
  have quiet := ordered_handshakes_raise_no_flood UInt32.toNat swappedConfig 1 swappedHandshakes
    (by decide) (swappedHandshakes.map fun packet => ⟨packet, [1]⟩) (by decide)
    (Retained.of_only _ _ (by decide)) (by decide) run retained inOrder
  rw [← calls, List.any_eq_false]
  intro observation member
  rw [quiet observation member]
  exact Bool.false_ne_true

theorem handshake_run_overtaken :
    ∃ run : {schedule : Schedule (Fin 2) //
        (Schedule.system (Fin 2) handshakes).Reachable schedule},
      run.1.calls =
        [⟨handshakePacket 40000 tcpFlagAck 1, [1]⟩, ⟨handshakePacket 40000 tcpFlagSyn 0, [1]⟩,
          ⟨handshakePacket 40001 tcpFlagSyn 2, [1]⟩, ⟨handshakePacket 40001 tcpFlagAck 3, [1]⟩] := by
  have start : (Schedule.system (Fin 2) handshakes).Reachable
      ⟨handshakes.zipIdx, fun _ => [], []⟩ := TransitionSystem.Reachable.first rfl
  have early := start.next (Schedule.Step.take 0 [(handshakePacket 40000 tcpFlagSyn 0, 0)]
    [(handshakePacket 40000 tcpFlagAck 1, 1), (handshakePacket 40001 tcpFlagSyn 2, 2),
      (handshakePacket 40001 tcpFlagAck 3, 3)] rfl (List.cons_ne_nil _ _) rfl)
  have late := early.next (Schedule.Step.take 1
    [(handshakePacket 40000 tcpFlagAck 1, 1), (handshakePacket 40001 tcpFlagSyn 2, 2),
      (handshakePacket 40001 tcpFlagAck 3, 3)] [] rfl (List.cons_ne_nil _ _) rfl)
  have first := late.next (Schedule.Step.observe 1 (handshakePacket 40000 tcpFlagAck 1) 1 _ [1] rfl)
  have second := first.next
    (Schedule.Step.observe 0 (handshakePacket 40000 tcpFlagSyn 0) 0 _ [1] rfl)
  have third := second.next
    (Schedule.Step.observe 1 (handshakePacket 40001 tcpFlagSyn 2) 2 _ [1] rfl)
  have fourth := third.next
    (Schedule.Step.observe 1 (handshakePacket 40001 tcpFlagAck 3) 3 _ [1] rfl)
  exact ⟨⟨_, fourth⟩, rfl⟩

/-- Every SYN is answered before the next in capture order, yet two of them are pending at once in
    the run in which the first ACK overtakes its SYN. -/
theorem overtaken_handshake_invents_flood :
    (handshakes.Pairwise fun a b => a.parsed.nowMs ≤ b.parsed.nowMs) ∧
    Retained UInt32.toNat handshakeConfig 1 (handshakes.map fun packet => ⟨packet, [1]⟩) ∧
    (∀ observation ∈ sourceLog UInt32.toNat handshakeConfig 1
        (handshakes.map fun packet => ⟨packet, [1]⟩),
      raised .synFlood observation.alerts = false) ∧
    ∃ run : {schedule : Schedule (Fin 2) //
        (Schedule.system (Fin 2) handshakes).Reachable schedule},
      Retained UInt32.toNat handshakeConfig 1 run.1.calls ∧
      ∃ observation ∈ sourceLog UInt32.toNat handshakeConfig 1 run.1.calls,
        raised .synFlood observation.alerts = true := by
  obtain ⟨run, calls⟩ := handshake_run_overtaken
  refine ⟨by decide, Retained.of_only _ _ (by decide), by decide, run, ?_⟩
  rw [calls]
  exact ⟨Retained.of_only _ _ (by decide), by decide⟩

end NetSentinel.FlowTracker
