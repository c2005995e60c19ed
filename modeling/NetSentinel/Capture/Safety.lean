import NetSentinel.Capture.Layout

namespace NetSentinel

open Layout

variable {data : List UInt8} {caplen wireLength : UInt32} {ts : Timeval}

theorem known_transport_inside (known : transport data caplen.toNat ≠ .unknown) :
    HasIp data caplen.toNat ∧
      payloadOffset data (transport data caplen.toNat) ≤ caplen.toNat := by
  cases found : transport data caplen.toNat with
  | unknown => exact (known found).elim
  | tcp =>
    obtain ⟨ip, -, -, -, inside⟩ := (transport_tcp_iff data caplen.toNat).mp found
    exact ⟨ip, inside⟩
  | udp =>
    obtain ⟨ip, -, inside⟩ := (transport_udp_iff data caplen.toNat).mp found
    exact ⟨ip, inside⟩
  | icmp =>
    have ip := ((transport_icmp_iff data caplen.toNat).mp found).1
    exact ⟨ip, ip.2.2.2.2⟩

theorem describe_payload_inside {offset : Nat}
    (payload : (describe data caplen wireLength ts).payload = some offset) :
    offset + (describe data caplen wireLength ts).payloadLength ≤ caplen.toNat := by
  unfold describe at payload ⊢
  dsimp only at payload ⊢
  by_cases known : transport data caplen.toNat = .unknown
  · rw [if_pos known] at payload
    cases payload
  · rw [if_neg known] at payload ⊢
    cases payload
    have inside := (known_transport_inside known).2
    unfold payloadLength
    omega

theorem describe_unknown (unknown : (describe data caplen wireLength ts).transport = .unknown) :
    (describe data caplen wireLength ts).payload = none ∧
      (describe data caplen wireLength ts).payloadLength = 0 ∧
      (describe data caplen wireLength ts).srcPort = 0 ∧
      (describe data caplen wireLength ts).dstPort = 0 ∧
      (describe data caplen wireLength ts).tcpFlags = 0 := by
  unfold describe at unknown ⊢
  dsimp only at unknown ⊢
  simp [unknown]

theorem makeQueuedPacket_length {parsed : ParsedPacket}
    (inside : ∀ offset, parsed.payload = some offset → offset + parsed.payloadLength ≤ data.length)
    (empty : parsed.payload = none → parsed.payloadLength = 0) :
    (makeQueuedPacket data parsed).payload.length = parsed.payloadLength := by
  unfold makeQueuedPacket
  dsimp only
  cases start : parsed.payload with
  | none => exact (empty start).symm
  | some offset =>
    have fits := inside offset start
    dsimp only
    split
    · rw [List.length_take, List.length_drop]
      omega
    · rename_i none
      exact (Nat.eq_zero_of_not_pos none).symm

/-- No read and no subtraction of the parser faults on a buffer of exactly `caplen` bytes, and the
    payload it reports can be copied out of that buffer. -/
theorem parser_stays_inside_capture (data : Option (List UInt8)) (caplen wireLength : UInt32)
    (ts : Timeval) (captured : ∀ bytes, data = some bytes → bytes.length = caplen.toNat) :
    ∃ result, parsePacket data caplen wireLength ts = .ok result ∧
      ∀ pkt, result = some pkt →
        (∀ offset, pkt.payload = some offset → offset + pkt.payloadLength ≤ caplen.toNat) ∧
        (∀ bytes, data = some bytes →
          (makeQueuedPacket bytes pkt).payload.length = pkt.payloadLength) ∧
        (pkt.transport = .unknown → pkt.payload = none ∧ pkt.payloadLength = 0 ∧
          pkt.srcPort = 0 ∧ pkt.dstPort = 0 ∧ pkt.tcpFlags = 0) ∧
        (pkt.transport ≠ .unknown → pkt.hasIp) := by
  cases data with
  | none => exact ⟨none, rfl, fun pkt none => nomatch none⟩
  | some bytes =>
    have exact := captured bytes rfl
    refine ⟨_, parsePacket_eq wireLength ts exact.ge, fun pkt found => ?_⟩
    split at found
    · cases found
    · cases found
      refine ⟨fun offset => describe_payload_inside, ?_, describe_unknown, ?_⟩
      · intro same buffer
        cases buffer
        apply makeQueuedPacket_length
        · intro offset start
          rw [exact]
          exact describe_payload_inside start
        · intro absent
          by_cases unknown : (describe bytes caplen wireLength ts).transport = .unknown
          · exact (describe_unknown unknown).2.1
          · have start : (describe bytes caplen wireLength ts).payload ≠ none := by
              unfold describe at unknown ⊢
              simp [show ¬ transport bytes caplen.toNat = .unknown from unknown]
            exact (start absent).elim
      · intro known
        exact decide_eq_true (known_transport_inside known).1

/-- Three bytes of payload behind a TCP header with an option word, and two bytes of trailer that
    the total length leaves out. -/
def clampedFrame : List UInt8 :=
  [1, 2, 3, 4, 5, 6, 7, 8, 9, 10, 11, 12, 8, 0] ++
    [0x45, 0, 0, 47, 0, 0, 0, 0, 64, 6, 0, 0, 10, 0, 0, 1, 10, 0, 0, 2] ++
      [0, 80, 1, 187, 0, 0, 0, 0, 0, 0, 0, 0, 0x60, 0x18, 0, 0, 0, 0, 0, 0, 2, 4, 5, 180] ++
        [7, 8, 9, 0, 0]

theorem clamped_payload_stays_inside :
    ∃ pkt, parsePacket (some clampedFrame) 63 63 {} = .ok (some pkt) ∧ pkt.payload = some 58 ∧
      58 + pkt.payloadLength ≤ (63 : UInt32).toNat ∧ pkt.payloadLength = 3 ∧
        (makeQueuedPacket clampedFrame pkt).payload.length = 3 ∧ pkt.hasIp := by
  obtain ⟨result, parses, inside⟩ := parser_stays_inside_capture (some clampedFrame) 63 63 {}
    (by rintro bytes ⟨⟩; decide)
  have reads : parsePacket (some clampedFrame) 63 63 {} = .ok (some _) := rfl
  obtain rfl := Except.ok.inj (parses.symm.trans reads)
  obtain ⟨payload, copied, -, known⟩ := inside _ rfl
  exact ⟨_, parses, rfl, payload 58 rfl, rfl, copied _ rfl, known (by decide)⟩

end NetSentinel
