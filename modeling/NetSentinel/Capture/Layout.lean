import NetSentinel.Capture.Parser

namespace NetSentinel

open ByteBuffer

def u8At (data : List UInt8) (offset : Nat) : UInt8 := UInt8.ofNat (number data offset 1)

def u16At (data : List UInt8) (offset : Nat) : UInt16 := UInt16.ofNat (number data offset 2)

def u32At (data : List UInt8) (offset : Nat) : UInt32 := UInt32.ofNat (number data offset 4)

def macAt (data : List UInt8) (offset : Nat) : Vector UInt8 6 := toMac (slice data offset 6)

section Reads

variable {data : List UInt8} {offset : Nat}

theorem readU8_of_fits (fits : offset + 1 ≤ data.length) :
    readU8 data offset = .ok (u8At data offset) := by
  unfold readU8
  rw [readNumber_of_fits fits]
  rfl

theorem readU16_of_fits (fits : offset + 2 ≤ data.length) :
    readU16 data offset = .ok (u16At data offset) := by
  unfold readU16
  rw [readNumber_of_fits fits]
  rfl

theorem readU32_of_fits (fits : offset + 4 ≤ data.length) :
    readU32 data offset = .ok (u32At data offset) := by
  unfold readU32
  rw [readNumber_of_fits fits]
  rfl

theorem readMac_of_fits (fits : offset + 6 ≤ data.length) :
    readMac data offset = .ok (macAt data offset) := by
  unfold readMac
  rw [read_of_fits fits]
  rfl

end Reads

namespace Layout

variable (data : List UInt8) (caplen : Nat)

def transportOffset : Nat := ethernetHeaderSize + ipHeaderBytes (u8At data 14)

def HasIp : Prop :=
  ethernetHeaderSize + ipv4HeaderSize ≤ caplen ∧ u16At data 12 = ethertypeIpv4 ∧
    ipVersion (u8At data 14) = 4 ∧ ipv4HeaderSize ≤ ipHeaderBytes (u8At data 14) ∧
    transportOffset data ≤ caplen

instance : Decidable (HasIp data caplen) := inferInstanceAs (Decidable (_ ∧ _))

def transport : Transport :=
  if HasIp data caplen then
    if u8At data 23 = ipprotoTcp then
      if transportOffset data + tcpHeaderSize ≤ caplen ∧
          tcpHeaderSize ≤ tcpHeaderBytes (u8At data (transportOffset data + 12)) ∧
          transportOffset data + tcpHeaderBytes (u8At data (transportOffset data + 12)) ≤ caplen
      then .tcp else .unknown
    else if u8At data 23 = ipprotoUdp then
      if transportOffset data + udpHeaderSize ≤ caplen then .udp else .unknown
    else if u8At data 23 = ipprotoIcmp then .icmp
    else .unknown
  else .unknown

theorem transport_tcp_iff : transport data caplen = .tcp ↔
    HasIp data caplen ∧ u8At data 23 = ipprotoTcp ∧
      transportOffset data + tcpHeaderSize ≤ caplen ∧
      tcpHeaderSize ≤ tcpHeaderBytes (u8At data (transportOffset data + 12)) ∧
      transportOffset data + tcpHeaderBytes (u8At data (transportOffset data + 12)) ≤ caplen := by
  unfold transport
  split_ifs <;> grind

theorem transport_udp_iff : transport data caplen = .udp ↔
    HasIp data caplen ∧ u8At data 23 = ipprotoUdp ∧
      transportOffset data + udpHeaderSize ≤ caplen := by
  have apart : ipprotoUdp ≠ ipprotoTcp := by decide
  unfold transport
  split_ifs <;> grind

theorem transport_icmp_iff : transport data caplen = .icmp ↔
    HasIp data caplen ∧ u8At data 23 = ipprotoIcmp := by
  have tcp : ipprotoIcmp ≠ ipprotoTcp := by decide
  have udp : ipprotoIcmp ≠ ipprotoUdp := by decide
  unfold transport
  split_ifs <;> grind

def transportHeaderBytes : Transport → Nat
  | .tcp => tcpHeaderBytes (u8At data (transportOffset data + 12))
  | .udp => udpHeaderSize
  | .icmp => 0
  | .unknown => 0

def payloadOffset (transport : Transport) : Nat :=
  transportOffset data + transportHeaderBytes data transport

/-- What the datagram claims to carry behind its transport header. -/
def claimedLength (transport : Transport) : Nat :=
  (u16At data 16).toNat - ipHeaderBytes (u8At data 14) - transportHeaderBytes data transport

def payloadLength (transport : Transport) : Nat :=
  min (caplen - payloadOffset data transport) (claimedLength data transport)

end Layout

open Layout in
/-- What the bytes of a frame say, field by field, where `caplen` of them were captured. -/
def describe (data : List UInt8) (caplen wireLength : UInt32) (ts : Timeval) : ParsedPacket :=
  let ip := HasIp data caplen.toNat
  let transport := Layout.transport data caplen.toNat
  { timestamp := ts
    captureLength := caplen
    wireLength := wireLength
    srcMac := macAt data 6
    dstMac := macAt data 0
    hasIp := decide ip
    srcIp := if ip then u32At data 26 else 0
    dstIp := if ip then u32At data 30 else 0
    ttl := if ip then u8At data 22 else 0
    ipProtocol := if ip then u8At data 23 else 0
    transport := transport
    srcPort :=
      if transport = .tcp ∨ transport = .udp then u16At data (transportOffset data) else 0
    dstPort :=
      if transport = .tcp ∨ transport = .udp then u16At data (transportOffset data + 2) else 0
    tcpFlags := if transport = .tcp then u8At data (transportOffset data + 13) else 0
    payload := if transport = .unknown then none else some (payloadOffset data transport)
    payloadLength :=
      if transport = .unknown then 0 else payloadLength data caplen.toNat transport }

section Refinement

variable {data : List UInt8} {caplen : Nat}

theorem subOrZero_eq (minuend subtrahend : Nat) :
    subOrZero minuend subtrahend = .ok (minuend - subtrahend) := by
  unfold subOrZero
  split
  · rename_i longer
    exact sub_of_le (Nat.le_of_lt longer)
  · rename_i short
    rw [Nat.sub_eq_zero_of_le (Nat.not_lt.mp short)]
    rfl

theorem ipPayloadAvailable_eq (offset headerBytes : Nat) :
    ipPayloadAvailable caplen offset headerBytes = .ok (caplen - (offset + headerBytes)) := by
  unfold ipPayloadAvailable
  split
  · rw [sub_of_le (by omega), ← Nat.sub_sub]
    exact sub_of_le (by omega)
  · rename_i short
    rw [Nat.sub_eq_zero_of_le (Nat.not_lt.mp short)]
    rfl

theorem withPayload_eq {payloadOffset ipPayloadLength headerBytes : Nat} (pkt : ParsedPacket)
    (inside : payloadOffset ≤ caplen) :
    withPayload caplen payloadOffset ipPayloadLength headerBytes pkt =
      .ok { pkt with
        payload := some payloadOffset
        payloadLength := min (caplen - payloadOffset) (ipPayloadLength - headerBytes) } := by
  unfold withPayload
  rw [if_pos inside, sub_of_le inside, subOrZero_eq]
  rfl

theorem parseTcp_eq (captured : caplen ≤ data.length) (offset ipPayloadLength : Nat)
    (pkt : ParsedPacket) :
    parseTcp data caplen offset ipPayloadLength pkt =
      .ok (if offset + tcpHeaderSize ≤ caplen ∧
          tcpHeaderSize ≤ tcpHeaderBytes (u8At data (offset + 12)) ∧
          offset + tcpHeaderBytes (u8At data (offset + 12)) ≤ caplen then
        { pkt with
          transport := .tcp
          srcPort := u16At data offset
          dstPort := u16At data (offset + 2)
          tcpFlags := u8At data (offset + 13)
          payload := some (offset + tcpHeaderBytes (u8At data (offset + 12)))
          payloadLength := min (caplen - (offset + tcpHeaderBytes (u8At data (offset + 12))))
            (ipPayloadLength - tcpHeaderBytes (u8At data (offset + 12))) }
        else pkt) := by
  unfold parseTcp
  by_cases header : caplen < offset + tcpHeaderSize
  · rw [if_pos header, if_neg (fun whole => Nat.not_le.mpr header whole.1)]
    rfl
  · have fixed : offset + tcpHeaderSize ≤ caplen := Nat.not_lt.mp header
    unfold tcpHeaderSize at fixed
    rw [if_neg header, readU8_of_fits (by omega)]
    dsimp only [bind, Except.bind]
    by_cases malformed : tcpHeaderBytes (u8At data (offset + 12)) < tcpHeaderSize ∨
        caplen < offset + tcpHeaderBytes (u8At data (offset + 12))
    · rw [if_pos malformed, if_neg (by omega)]
      rfl
    · rw [if_neg malformed, if_pos (by omega), readU16_of_fits (by omega),
        readU16_of_fits (by omega), readU8_of_fits (by omega)]
      exact withPayload_eq _ (by omega)

theorem parseUdp_eq (captured : caplen ≤ data.length) (offset ipPayloadLength : Nat)
    (pkt : ParsedPacket) :
    parseUdp data caplen offset ipPayloadLength pkt =
      .ok (if offset + udpHeaderSize ≤ caplen then
        { pkt with
          transport := .udp
          srcPort := u16At data offset
          dstPort := u16At data (offset + 2)
          payload := some (offset + udpHeaderSize)
          payloadLength := min (caplen - (offset + udpHeaderSize))
            (ipPayloadLength - udpHeaderSize) }
        else pkt) := by
  unfold parseUdp
  by_cases header : caplen < offset + udpHeaderSize
  · rw [if_pos header, if_neg (Nat.not_le.mpr header)]
    rfl
  · have fixed : offset + udpHeaderSize ≤ caplen := Nat.not_lt.mp header
    rw [if_neg header, if_pos fixed]
    unfold udpHeaderSize at fixed
    rw [readU16_of_fits (by omega), readU16_of_fits (by omega)]
    exact withPayload_eq _ (Nat.not_lt.mp header)

open Layout

theorem parseIpv4_eq (captured : caplen ≤ data.length) (ipv4 : u16At data 12 = ethertypeIpv4)
    (pkt : ParsedPacket) :
    parseIpv4 data caplen ethernetHeaderSize pkt =
      if HasIp data caplen then
        parseTransport data caplen (transportOffset data)
          (min (caplen - transportOffset data)
            ((u16At data 16).toNat - ipHeaderBytes (u8At data 14)))
          { pkt with
            hasIp := true
            srcIp := u32At data 26
            dstIp := u32At data 30
            ttl := u8At data 22
            ipProtocol := u8At data 23 }
      else .ok pkt := by
  unfold parseIpv4
  by_cases header : caplen < ethernetHeaderSize + ipv4HeaderSize
  · rw [if_pos header, if_neg (fun ip => Nat.not_le.mpr header ip.1)]
    rfl
  · have fixed : ethernetHeaderSize + ipv4HeaderSize ≤ caplen := Nat.not_lt.mp header
    have bytes : 34 ≤ caplen := fixed
    rw [if_neg header, readU8_of_fits (by unfold ethernetHeaderSize; omega)]
    change (if ipVersion (u8At data 14) ≠ 4 then _ else _) = _
    by_cases version : ipVersion (u8At data 14) = 4
    · rw [if_neg (not_not.mpr version)]
      change (if ipHeaderBytes (u8At data 14) < ipv4HeaderSize ∨ caplen < transportOffset data
        then pure pkt else _) = _
      by_cases malformed : ipHeaderBytes (u8At data 14) < ipv4HeaderSize ∨
          caplen < transportOffset data
      · have noIp : ¬ HasIp data caplen := fun ip =>
          malformed.elim (Nat.not_lt.mpr ip.2.2.2.1) (Nat.not_lt.mpr ip.2.2.2.2)
        rw [if_pos malformed, if_neg noIp]
        rfl
      · obtain ⟨long, inside⟩ := not_or.mp malformed
        have ip : HasIp data caplen :=
          ⟨fixed, ipv4, version, Nat.not_lt.mp long, Nat.not_lt.mp inside⟩
        rw [if_neg malformed, if_pos ip]
        simp only [ethernetHeaderSize, Nat.reduceAdd]
        rw [readU32_of_fits (by omega), readU32_of_fits (by omega), readU8_of_fits (by omega),
          readU8_of_fits (by omega), readU16_of_fits (by omega), ipPayloadAvailable_eq]
        change Except.bind (subOrZero (u16At data 16).toNat (ipHeaderBytes (u8At data 14))) _ = _
        rw [subOrZero_eq]
        rfl
    · rw [if_pos version, if_neg (fun ip => version ip.2.2.1)]
      rfl

end Refinement

section Describe

open Layout

variable {data : List UInt8} {caplen : UInt32} (wireLength : UInt32) (ts : Timeval)

theorem describe_without_transport (ip : HasIp data caplen.toNat)
    (found : transport data caplen.toNat = .unknown) :
    describe data caplen wireLength ts =
      { timestamp := ts, captureLength := caplen, wireLength := wireLength
        srcMac := macAt data 6, dstMac := macAt data 0, hasIp := true
        srcIp := u32At data 26, dstIp := u32At data 30, ttl := u8At data 22
        ipProtocol := u8At data 23 } := by
  unfold describe
  simp only [found, ip, decide_true, if_true, reduceCtorEq, or_self, if_false]

theorem parseTransport_eq (captured : caplen.toNat ≤ data.length) (ip : HasIp data caplen.toNat) :
    parseTransport data caplen.toNat (transportOffset data)
        (min (caplen.toNat - transportOffset data)
          ((u16At data 16).toNat - ipHeaderBytes (u8At data 14)))
        { timestamp := ts, captureLength := caplen, wireLength := wireLength
          srcMac := macAt data 6, dstMac := macAt data 0, hasIp := true
          srcIp := u32At data 26, dstIp := u32At data 30, ttl := u8At data 22
          ipProtocol := u8At data 23 } =
      .ok (describe data caplen wireLength ts) := by
  unfold parseTransport
  dsimp only
  by_cases tcp : u8At data 23 = ipprotoTcp
  · rw [if_pos tcp, parseTcp_eq captured]
    congr 1
    split
    · rename_i header
      have found : transport data caplen.toNat = .tcp := by
        simp only [transport, if_pos ip, if_pos tcp, if_pos header]
      unfold describe
      simp only [found, ip, payloadOffset, transportHeaderBytes, payloadLength, claimedLength,
        decide_true, if_true, reduceCtorEq, or_false, if_false]
      congr 1
      omega
    · rename_i header
      rw [describe_without_transport wireLength ts ip]
      simp only [transport, if_pos ip, if_pos tcp, if_neg header]
  · rw [if_neg tcp]
    by_cases udp : u8At data 23 = ipprotoUdp
    · rw [if_pos udp, parseUdp_eq captured]
      congr 1
      split
      · rename_i header
        have found : transport data caplen.toNat = .udp := by
          simp only [transport, if_pos ip, if_neg tcp, if_pos udp, if_pos header]
        unfold describe
        simp only [found, ip, payloadOffset, transportHeaderBytes, payloadLength, claimedLength,
          decide_true, if_true, reduceCtorEq, or_true, if_false]
        congr 1
        omega
      · rename_i header
        rw [describe_without_transport wireLength ts ip]
        simp only [transport, if_pos ip, if_neg tcp, if_pos udp, if_neg header]
    · rw [if_neg udp]
      by_cases icmp : u8At data 23 = ipprotoIcmp
      · rw [if_pos icmp]
        unfold parseIcmp describe
        rw [if_pos ip.2.2.2.2]
        have found : transport data caplen.toNat = .icmp := by
          simp only [transport, if_pos ip, if_neg tcp, if_neg udp, if_pos icmp]
        simp only [found, ip, payloadOffset, transportHeaderBytes, payloadLength, claimedLength,
          decide_true, if_true, reduceCtorEq, or_self, if_false, Nat.add_zero, Nat.sub_zero]
        rfl
      · rw [if_neg icmp, describe_without_transport wireLength ts ip]
        · rfl
        · simp only [transport, if_pos ip, if_neg tcp, if_neg udp, if_neg icmp]

theorem describe_without_ip (noIp : ¬ HasIp data caplen.toNat) :
    describe data caplen wireLength ts =
      { timestamp := ts, captureLength := caplen, wireLength := wireLength
        srcMac := macAt data 6, dstMac := macAt data 0 } := by
  have found : transport data caplen.toNat = .unknown := by
    simp only [transport, if_neg noIp]
  unfold describe
  simp only [found, noIp, decide_false, if_false, if_true, reduceCtorEq, or_self]

theorem parsePacket_eq (captured : caplen.toNat ≤ data.length) :
    parsePacket (some data) caplen wireLength ts =
      .ok (if caplen.toNat < ethernetHeaderSize then none
        else some (describe data caplen wireLength ts)) := by
  unfold parsePacket
  dsimp only
  split
  · rfl
  · rename_i whole
    have bytes : 14 ≤ caplen.toNat := Nat.not_lt.mp whole
    rw [readMac_of_fits (by omega), readMac_of_fits (by omega), readU16_of_fits (by omega)]
    change (if u16At data 12 ≠ ethertypeIpv4 then _ else _) = _
    by_cases ipv4 : u16At data 12 = ethertypeIpv4
    · rw [if_neg (not_not.mpr ipv4), parseIpv4_eq captured ipv4]
      split
      · rename_i ip
        rw [parseTransport_eq wireLength ts captured ip]
        rfl
      · rename_i noIp
        rw [describe_without_ip wireLength ts noIp]
        rfl
    · rw [if_pos ipv4, describe_without_ip wireLength ts (fun ip => ipv4 ip.2.1)]
      rfl

end Describe

end NetSentinel
