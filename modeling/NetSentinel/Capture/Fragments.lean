import NetSentinel.Capture.Trailer
import NetSentinel.FlowTracker.Tracker

namespace NetSentinel

open ByteBuffer Layout

namespace Layout

/-- The low 13 bits of the flags and the fragment offset, in units of eight bytes. -/
def fragmentOffset (data : List UInt8) : Nat := (u16At data 20 &&& 0x1FFF).toNat

/-- What was captured of the datagram behind its IPv4 header is `segment` from the position on that
    the fragment offset names. -/
def CarriesPartOf (segment data : List UInt8) : Prop :=
  let carried := min (datagramEnd data) data.length - transportOffset data
  slice data (transportOffset data) carried = slice segment (8 * fragmentOffset data) carried

instance (segment data : List UInt8) : Decidable (CarriesPartOf segment data) :=
  inferInstanceAs (Decidable (_ = _))

end Layout

def setFragmentField (data : List UInt8) (field : UInt16) : List UInt8 :=
  (data.set 20 (field >>> 8).toUInt8).set 21 field.toUInt8

section FragmentField

variable {data : List UInt8} (field : UInt16)

@[simp] theorem setFragmentField_length : (setFragmentField data field).length = data.length := by
  unfold setFragmentField
  rw [List.length_set, List.length_set]

theorem slice_setFragmentField {offset count : Nat} (outside : offset + count ≤ 20 ∨ 22 ≤ offset) :
    slice (setFragmentField data field) offset count = slice data offset count := by
  unfold setFragmentField
  rw [slice_set (by omega), slice_set (by omega)]

theorem fragmentOffset_set (long : 22 ≤ data.length) :
    fragmentOffset (setFragmentField data field) = field.toNat % 2 ^ 13 := by
  have halves : (field >>> 8).toUInt8.toNat * 256 + field.toUInt8.toNat = field.toNat := by
    have bound := field.toNat_lt
    simp only [UInt16.toNat_toUInt8, UInt16.toNat_shiftRight, UInt16.reduceToNat,
      Nat.shiftRight_eq_div_pow, Nat.reduceMod]
    omega
  have written : u16At (setFragmentField data field) 20 = field := by
    rw [u16At_eq (by rw [setFragmentField_length]; omega)]
    simp only [setFragmentField, List.getElem_set_self, List.getElem_set_ne, ne_eq,
      Nat.reduceEqDiff, not_false_eq_true]
    rw [halves, UInt16.ofNat_toNat]
  unfold fragmentOffset
  rw [written, UInt16.toNat_and]
  exact Nat.and_two_pow_sub_one_eq_mod field.toNat 13

theorem loads_beside_field {caplen offset count : Nat} (loads : Loads data caplen offset count) :
    offset + count ≤ 20 ∨ 22 ≤ offset := by
  have late : transport data caplen = .tcp ∨ transport data caplen = .udp →
      34 ≤ transportOffset data := by
    rintro (tcp | udp)
    · exact ((transport_tcp_iff data caplen).mp tcp).1.start
    · exact ((transport_udp_iff data caplen).mp udp).1.start
  cases loads with
  | dataOffset ip tcp fits => have start := ip.start; omega
  | srcPort known => have start := late known; omega
  | dstPort known => have start := late known; omega
  | flags found => have start := late (.inl found); omega
  | _ => omega

theorem parsePacket_setFragmentField {caplen : UInt32} (captured : caplen.toNat ≤ data.length)
    (wireLength : UInt32) (ts : Timeval) :
    parsePacket (some (setFragmentField data field)) caplen wireLength ts =
      parsePacket (some data) caplen wireLength ts := by
  rw [parsePacket_eq wireLength ts captured,
    parsePacket_eq wireLength ts (captured.trans (setFragmentField_length field).ge)]
  have same : describe data caplen wireLength ts =
      describe (setFragmentField data field) caplen wireLength ts :=
    describe_of_loads (fun loads => (slice_setFragmentField field (loads_beside_field loads)).symm)
      wireLength ts
  rw [same]

theorem makeQueuedPacket_setFragmentField {caplen wireLength : UInt32} {ts : Timeval} :
    makeQueuedPacket (setFragmentField data field) (describe data caplen wireLength ts) =
      makeQueuedPacket data (describe data caplen wireLength ts) := by
  by_cases unknown : transport data caplen.toNat = .unknown
  · have nowhere : (describe data caplen wireLength ts).payload = none := if_pos unknown
    unfold makeQueuedPacket
    rw [nowhere]
  · have start : (describe data caplen wireLength ts).payload =
        some (payloadOffset data (transport data caplen.toNat)) := if_neg unknown
    have late : 34 ≤ payloadOffset data (transport data caplen.toNat) := by
      have header := (known_transport_inside unknown).1.start
      unfold payloadOffset
      omega
    have copied : (makeQueuedPacket (setFragmentField data field)
        (describe data caplen wireLength ts)).payload =
          (makeQueuedPacket data (describe data caplen wireLength ts)).payload := by
      rw [makeQueuedPacket_payload _ start, makeQueuedPacket_payload _ start,
        slice_setFragmentField field (by omega)]
    exact congrArg (QueuedPacket.mk _) copied

end FragmentField

namespace Layout

variable {data segment : List UInt8} {k : Nat} (carries : CarriesPartOf segment data)

include carries

theorem CarriesPartOf.load {count : Nat}
    (inside : transportOffset data + (k + count) ≤ min (datagramEnd data) data.length) :
    slice data (transportOffset data + k) count =
      slice segment (8 * fragmentOffset data + k) count := by
  have fits : k + count ≤ min (datagramEnd data) data.length - transportOffset data := by omega
  rw [← slice_slice fits, ← slice_slice fits]
  exact congrArg (fun bytes => slice bytes k count) carries

theorem CarriesPartOf.load8
    (inside : transportOffset data + (k + 1) ≤ min (datagramEnd data) data.length) :
    u8At data (transportOffset data + k) = u8At segment (8 * fragmentOffset data + k) :=
  congrArg (UInt8.ofNat ∘ decode) (carries.load inside)

theorem CarriesPartOf.load16
    (inside : transportOffset data + (k + 2) ≤ min (datagramEnd data) data.length) :
    u16At data (transportOffset data + k) = u16At segment (8 * fragmentOffset data + k) :=
  congrArg (UInt16.ofNat ∘ decode) (carries.load inside)

end Layout

/-- The parser takes the first bytes behind the IPv4 header for the transport header: the beginning
    of the segment in a first fragment, some place in its middle in a later one. What the flags and
    the fragment offset say makes no difference to it, nor to the flow rules. -/
theorem fragments_are_read_as_headers (data : List UInt8) (caplen wireLength : UInt32)
    (ts : Timeval) (captured : data.length = caplen.toNat) (pkt : ParsedPacket)
    (parsed : parsePacket (some data) caplen wireLength ts = .ok (some pkt)) :
    (∀ segment, CarriesPartOf segment data → HeaderInDatagram data caplen.toNat →
      pkt.transport = .tcp ∨ pkt.transport = .udp →
        pkt.srcPort = u16At segment (8 * fragmentOffset data) ∧
        pkt.dstPort = u16At segment (8 * fragmentOffset data + 2) ∧
        (pkt.transport = .tcp → pkt.tcpFlags = u8At segment (8 * fragmentOffset data + 13))) ∧
    ∀ field,
      (22 ≤ data.length → fragmentOffset (setFragmentField data field) = field.toNat % 2 ^ 13) ∧
      parsePacket (some (setFragmentField data field)) caplen wireLength ts = .ok (some pkt) ∧
      ∀ (hash : UInt32 → Nat) (tracker : FlowTracker) (order : List UInt32),
        tracker.observe hash ⟨makeQueuedPacket (setFragmentField data field) pkt, order⟩ =
          tracker.observe hash ⟨makeQueuedPacket data pkt, order⟩ := by
  have described : pkt = describe data caplen wireLength ts := by
    rw [parsePacket_eq wireLength ts captured.ge] at parsed
    split at parsed
    · cases parsed
    · exact (Option.some.inj (Except.ok.inj parsed)).symm
  refine ⟨fun segment carries header known => ?_, fun field => ⟨?_, ?_, ?_⟩⟩
  · subst described
    have ports := ports_inside header known
    have whole : transportOffset data + 8 ≤ data.length := by
      rw [captured]
      rcases known with tcp | udp
      · have fits := ((transport_tcp_iff data caplen.toNat).mp tcp).2.2.1
        unfold tcpHeaderSize at fits
        omega
      · exact ((transport_udp_iff data caplen.toNat).mp udp).2.2
    refine ⟨?_, ?_, fun tcp => ?_⟩
    · exact (if_pos known).trans (carries.load16 (k := 0) (by omega))
    · exact (if_pos known).trans (carries.load16 (k := 2) (by omega))
    · have flags := tcp_header_inside header tcp
      have fits := ((transport_tcp_iff data caplen.toNat).mp tcp).2.2.1
      unfold tcpHeaderSize at fits
      exact (if_pos tcp).trans (carries.load8 (k := 13) (by omega))
  · exact fragmentOffset_set field
  · rw [parsePacket_setFragmentField field captured.ge]
    exact parsed
  · intro hash tracker order
    rw [described, makeQueuedPacket_setFragmentField]

/-- The twenty bytes at position 8 of a segment, sent as a fragment of their own. -/
def lateFragment : List UInt8 :=
  [1, 2, 3, 4, 5, 6, 7, 8, 9, 10, 11, 12, 8, 0] ++
  [0x45, 0, 0, 40, 0, 7, 0, 1, 64, 6, 0, 0, 10, 0, 0, 1, 10, 0, 0, 2] ++
  [0x9c, 0x40, 0, 22, 0, 0, 0, 0, 0, 0, 0, 0, 0x50, 2, 0, 0, 0, 0, 0, 0]

/-- Data in the middle of a segment is taken for a connection attempt and a pending SYN. -/
theorem late_fragment_is_counted :
    ∃ pkt, parsePacket (some lateFragment) 54 54 {} = .ok (some pkt) ∧ pkt.transport = .tcp ∧
      fragmentOffset lateFragment ≠ 0 ∧ pkt.isConnectionAttempt ∧
      ((FlowTracker.new { portScanDistinctPortThreshold := 1, synFloodPendingThreshold := 1 }).observe
        UInt32.toNat ⟨makeQueuedPacket lateFragment pkt, [167772161]⟩).2.map
          (fun alert => (alert.type, alert.srcIp)) =
        [(.portScan, 167772161), (.synFlood, 167772161)] :=
  ⟨describe lateFragment 54 54 {}, by decide, by decide, by decide, by decide, by decide⟩

theorem late_fragment_is_read_at_8 :
    ∃ pkt, parsePacket (some lateFragment) 54 54 {} = .ok (some pkt) ∧
      pkt.dstPort = u16At (List.replicate 8 0 ++ lateFragment.drop 34) 10 := by
  have parsed : parsePacket (some lateFragment) 54 54 {} =
      .ok (some (describe lateFragment 54 54 {})) := by decide
  obtain ⟨carried, -⟩ :=
    fragments_are_read_as_headers lateFragment 54 54 {} (by decide) _ parsed
  have read := carried (List.replicate 8 0 ++ lateFragment.drop 34) (by decide) (by decide)
    (.inl (by decide))
  exact ⟨_, parsed, read.2.1⟩

end NetSentinel
