import NetSentinel.Capture.Loads
import NetSentinel.Capture.Safety

namespace NetSentinel

open ByteBuffer Layout

theorem parsePacket_take {data : List UInt8} {caplen : UInt32} (wireLength : UInt32)
    (ts : Timeval) (captured : caplen.toNat ≤ data.length) :
    parsePacket (some (data.take caplen.toNat)) caplen wireLength ts =
      parsePacket (some data) caplen wireLength ts := by
  have exact : caplen.toNat ≤ (data.take caplen.toNat).length := by
    rw [List.length_take]
    omega
  rw [parsePacket_eq wireLength ts exact, parsePacket_eq wireLength ts captured]
  split
  · rfl
  · rename_i whole
    rw [describe_of_loads fun loads => ?_]
    exact slice_take (loads.inside (Nat.not_lt.mp whole))

section Monotone

variable {data : List UInt8} {shorter longer : Nat}

theorem hasIp_mono (ordered : shorter ≤ longer) (ip : HasIp data shorter) : HasIp data longer := by
  obtain ⟨fixed, ipv4, version, long, inside⟩ := ip
  exact ⟨fixed.trans ordered, ipv4, version, long, inside.trans ordered⟩

theorem transport_mono (ordered : shorter ≤ longer) (known : transport data shorter ≠ .unknown) :
    transport data longer = transport data shorter := by
  cases found : transport data shorter with
  | unknown => exact (known found).elim
  | tcp =>
    obtain ⟨ip, tcp, fixed, long, inside⟩ := (transport_tcp_iff data shorter).mp found
    exact (transport_tcp_iff data longer).mpr
      ⟨hasIp_mono ordered ip, tcp, fixed.trans ordered, long, inside.trans ordered⟩
  | udp =>
    obtain ⟨ip, udp, fixed⟩ := (transport_udp_iff data shorter).mp found
    exact (transport_udp_iff data longer).mpr ⟨hasIp_mono ordered ip, udp, fixed.trans ordered⟩
  | icmp =>
    obtain ⟨ip, icmp⟩ := (transport_icmp_iff data shorter).mp found
    exact (transport_icmp_iff data longer).mpr ⟨hasIp_mono ordered ip, icmp⟩

theorem payloadLength_mono (ordered : shorter ≤ longer) (transport : Transport) :
    payloadLength data shorter transport =
      min (payloadLength data longer transport) (shorter - payloadOffset data transport) := by
  unfold payloadLength
  omega

end Monotone

theorem makeQueuedPacket_payload (data : List UInt8) {parsed : ParsedPacket} {offset : Nat}
    (start : parsed.payload = some offset) :
    (makeQueuedPacket data parsed).payload = slice data offset parsed.payloadLength := by
  unfold makeQueuedPacket slice
  simp only [start]
  split
  · rfl
  · rename_i none
    rw [Nat.eq_zero_of_not_pos none, List.take_zero]

/-- What a capture of the first `c1` bytes reports, a capture of the first `c2` confirms, and its
    payload is the part of the longer one that was captured. -/
theorem truncation_is_monotone (data : List UInt8) (c1 c2 wireLength : UInt32) (ts : Timeval)
    (ordered : c1 ≤ c2) (within : c2.toNat ≤ data.length) (p1 : ParsedPacket)
    (parsed : parsePacket (some (data.take c1.toNat)) c1 wireLength ts = .ok (some p1)) :
    ∃ p2, parsePacket (some (data.take c2.toNat)) c2 wireLength ts = .ok (some p2) ∧
      p2.srcMac = p1.srcMac ∧ p2.dstMac = p1.dstMac ∧
      (p1.hasIp → p2.hasIp ∧ p2.srcIp = p1.srcIp ∧ p2.dstIp = p1.dstIp ∧ p2.ttl = p1.ttl ∧
        p2.ipProtocol = p1.ipProtocol) ∧
      (p1.transport ≠ .unknown → p2.transport = p1.transport ∧ p2.srcPort = p1.srcPort ∧
        p2.dstPort = p1.dstPort ∧ p2.tcpFlags = p1.tcpFlags ∧
        ∃ offset, p1.payload = some offset ∧ p2.payload = some offset ∧
          p1.payloadLength = min p2.payloadLength (c1.toNat - offset) ∧
          (makeQueuedPacket (data.take c1.toNat) p1).payload =
            (makeQueuedPacket (data.take c2.toNat) p2).payload.take
              (min p2.payloadLength (c1.toNat - offset))) := by
  have shorter : c1.toNat ≤ c2.toNat := ordered
  rw [parsePacket_take wireLength ts (shorter.trans within),
    parsePacket_eq wireLength ts (shorter.trans within)] at parsed
  split at parsed
  · cases parsed
  · rename_i whole
    cases parsed
    refine ⟨describe data c2 wireLength ts, ?_, rfl, rfl, ?_, ?_⟩
    · rw [parsePacket_take wireLength ts within, parsePacket_eq wireLength ts within,
        if_neg (by omega)]
    · intro ip
      have ip1 : HasIp data c1.toNat := of_decide_eq_true ip
      have ip2 : HasIp data c2.toNat := hasIp_mono shorter ip1
      unfold describe
      simp only [ip1, ip2, decide_true, if_true, and_self]
    · intro known
      have found : transport data c2.toNat = transport data c1.toNat := transport_mono shorter known
      have known2 : (describe data c2 wireLength ts).transport ≠ .unknown := found.trans_ne known
      have start1 : (describe data c1 wireLength ts).payload =
          some (payloadOffset data (transport data c1.toNat)) := if_neg known
      have start2 : (describe data c2 wireLength ts).payload =
          some (payloadOffset data (transport data c1.toNat)) := by
        rw [← found]
        exact if_neg known2
      have length1 : (describe data c1 wireLength ts).payloadLength =
          payloadLength data c1.toNat (transport data c1.toNat) := if_neg known
      have length2 : (describe data c2 wireLength ts).payloadLength =
          payloadLength data c2.toNat (transport data c1.toNat) := by
        rw [← found]
        exact if_neg known2
      have clamped : payloadLength data c1.toNat (transport data c1.toNat) = _ :=
        payloadLength_mono shorter (transport data c1.toNat)
      rw [← length1, ← length2] at clamped
      refine ⟨found, ?_, ?_, ?_, _, start1, start2, clamped, ?_⟩
      · unfold describe
        simp only [found]
      · unfold describe
        simp only [found]
      · unfold describe
        simp only [found]
      · have inside1 := describe_payload_inside start1
        have inside2 := describe_payload_inside start2
        rw [makeQueuedPacket_payload _ start1, makeQueuedPacket_payload _ start2, slice_take inside1,
          slice_take inside2, clamped]
        unfold slice
        rw [List.take_take]
        congr 1
        omega

def udpFrame : List UInt8 :=
  [1, 2, 3, 4, 5, 6, 7, 8, 9, 10, 11, 12, 8, 0] ++
  [0x45, 0, 0, 34, 0, 0, 0, 0, 64, 17, 0, 0, 10, 0, 0, 1, 10, 0, 0, 2] ++
  [0x9c, 0x40, 0, 53, 0, 14, 0, 0] ++ [97, 98, 99, 100, 101, 102]

theorem cut_udp_frame_agrees :
    ∃ p2, parsePacket (some (udpFrame.take 48)) 48 48 {} = .ok (some p2) ∧
      p2.transport = .udp ∧ p2.payload = some 42 ∧ 2 = min p2.payloadLength 2 := by
  have parsed : parsePacket (some (udpFrame.take 44)) 44 48 {} =
      .ok (some (describe udpFrame 44 48 {})) := rfl
  obtain ⟨p2, longer, -, -, -, known⟩ := truncation_is_monotone udpFrame 44 48 48 {} (by decide)
    (by decide) (describe udpFrame 44 48 {}) parsed
  obtain ⟨transport, -, -, -, offset, start, start2, length, -⟩ := known (by decide)
  cases start
  exact ⟨p2, longer, transport, start2, length⟩

end NetSentinel
