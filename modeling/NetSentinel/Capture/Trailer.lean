import NetSentinel.Capture.Truncation

namespace NetSentinel

open ByteBuffer

structure Report where
  hasIp : Bool
  srcIp : UInt32
  dstIp : UInt32
  transport : Transport
  srcPort : UInt16
  dstPort : UInt16
  tcpFlags : UInt8
  payloadLength : Nat
  payload : List UInt8
deriving DecidableEq, Repr

def report (data : List UInt8) (pkt : ParsedPacket) : Report where
  hasIp := pkt.hasIp
  srcIp := pkt.srcIp
  dstIp := pkt.dstIp
  transport := pkt.transport
  srcPort := pkt.srcPort
  dstPort := pkt.dstPort
  tcpFlags := pkt.tcpFlags
  payloadLength := pkt.payloadLength
  payload := (makeQueuedPacket data pkt).payload

def reportOf (data : List UInt8) (caplen wireLength : UInt32) (ts : Timeval) :
    Except Fault (Option Report) := do
  let parsed ← parsePacket (some data) caplen wireLength ts
  return parsed.map (report data)

namespace Layout

variable (data : List UInt8) (caplen : Nat)

def datagramEnd : Nat :=
  ethernetHeaderSize +
    max (u16At data 16).toNat (max (ipHeaderBytes (u8At data 14)) ipv4HeaderSize)

/-- A data offset that the parser refuses. -/
def MalformedTcp : Prop :=
  tcpHeaderBytes (u8At data (transportOffset data + 12)) < tcpHeaderSize ∨
    caplen < transportOffset data + tcpHeaderBytes (u8At data (transportOffset data + 12))

/-- The ports, the data offset and the flags of a TCP header, or the ports of a UDP header, lie
    within the datagram if the header fits the capture at all. The flags need not do so where the
    data offset is within the datagram and malformed. -/
def HeaderInDatagram : Prop :=
  HasIp data caplen →
    (u8At data 23 = ipprotoTcp → transportOffset data + tcpHeaderSize ≤ caplen →
      transportOffset data + 14 ≤ datagramEnd data ∨
        transportOffset data + 13 = datagramEnd data ∧ MalformedTcp data caplen) ∧
    (u8At data 23 = ipprotoUdp → transportOffset data + udpHeaderSize ≤ caplen →
      transportOffset data + 4 ≤ datagramEnd data)

instance : Decidable (MalformedTcp data caplen) := inferInstanceAs (Decidable (_ ∨ _))

instance : Decidable (HeaderInDatagram data caplen) := inferInstanceAs (Decidable (_ → _))

theorem fixed_le_datagramEnd : 34 ≤ datagramEnd data := by
  unfold datagramEnd ethernetHeaderSize ipv4HeaderSize
  omega

end Layout

open Layout

/-- Frames that share the datagram of `data` are reported like `data`. -/
def TrailerIgnored (data : List UInt8) (caplen : UInt32) : Prop :=
  ∀ other : List UInt8, other.length = caplen.toNat →
    other.take (datagramEnd data) = data.take (datagramEnd data) →
      ∀ wireLength otherLength ts otherTs,
        reportOf other caplen otherLength otherTs = reportOf data caplen wireLength ts

section Description

variable {data : List UInt8} {caplen : UInt32}

theorem reportOf_eq (captured : caplen.toNat ≤ data.length) (wireLength : UInt32) (ts : Timeval) :
    reportOf data caplen wireLength ts =
      .ok (if caplen.toNat < ethernetHeaderSize then none
        else some (report data (describe data caplen wireLength ts))) := by
  unfold reportOf
  rw [parsePacket_eq wireLength ts captured]
  split <;> rfl

end Description

section SharedDatagram

variable {a b : List UInt8} {caplen : Nat}

theorem u8At_congr {bound offset : Nat} (agree : a.take bound = b.take bound)
    (fits : offset + 1 ≤ bound) : u8At a offset = u8At b offset :=
  congrArg UInt8.ofNat (number_congr agree fits)

theorem hasIp_congr {bound : Nat} (agree : a.take bound = b.take bound) (fixed : 34 ≤ bound) :
    HasIp a caplen ↔ HasIp b caplen := by
  have ethertype : u16At a 12 = u16At b 12 :=
    congrArg UInt16.ofNat (number_congr agree (by omega))
  unfold HasIp transportOffset
  rw [ethertype, u8At_congr agree (by omega)]

theorem transportOffset_congr {bound : Nat} (agree : a.take bound = b.take bound)
    (fixed : 34 ≤ bound) : transportOffset a = transportOffset b := by
  unfold transportOffset
  rw [u8At_congr agree (by omega)]

theorem tcp_header_inside (header : HeaderInDatagram a caplen)
    (found : transport a caplen = .tcp) : transportOffset a + 14 ≤ datagramEnd a := by
  obtain ⟨ip, tcp, fits, long, inside⟩ := (transport_tcp_iff a caplen).mp found
  rcases (header ip).1 tcp fits with whole | ⟨-, malformed⟩
  · exact whole
  · rcases malformed with short | cut
    · exact absurd long (Nat.not_le.mpr short)
    · exact absurd inside (Nat.not_le.mpr cut)

theorem ports_inside (header : HeaderInDatagram a caplen)
    (known : transport a caplen = .tcp ∨ transport a caplen = .udp) :
    transportOffset a + 4 ≤ datagramEnd a := by
  rcases known with tcp | udp
  · have whole := tcp_header_inside header tcp
    omega
  · obtain ⟨ip, protocol, fits⟩ := (transport_udp_iff a caplen).mp udp
    exact (header ip).2 protocol fits

theorem loads_inside (header : HeaderInDatagram a caplen) {offset count : Nat}
    (loads : Loads a caplen offset count) : offset + count ≤ datagramEnd a := by
  have fixed := fixed_le_datagramEnd a
  cases loads with
  | dataOffset ip tcp fits =>
    rcases (header ip).1 tcp fits with whole | ⟨ends, -⟩
    · omega
    · omega
  | srcPort known => have inside := ports_inside header known; omega
  | dstPort known => have inside := ports_inside header known; omega
  | flags found => have inside := tcp_header_inside header found; omega
  | _ => omega

theorem payload_inside_datagram (found : Transport) (some : 0 < payloadLength a caplen found) :
    payloadOffset a found + payloadLength a caplen found ≤ datagramEnd a := by
  unfold payloadLength claimedLength payloadOffset transportOffset at *
  unfold datagramEnd
  omega

end SharedDatagram

theorem copied_payload_agrees {a b : List UInt8} (caplen : UInt32)
    (agree : a.take (datagramEnd a) = b.take (datagramEnd a)) (wireLength : UInt32)
    (ts : Timeval) :
    (makeQueuedPacket a (describe a caplen wireLength ts)).payload =
      (makeQueuedPacket b (describe a caplen wireLength ts)).payload := by
  by_cases unknown : transport a caplen.toNat = .unknown
  · have nowhere : (describe a caplen wireLength ts).payload = none := if_pos unknown
    unfold makeQueuedPacket
    rw [nowhere]
  · have start : (describe a caplen wireLength ts).payload =
        some (payloadOffset a (transport a caplen.toNat)) := if_neg unknown
    have length : (describe a caplen wireLength ts).payloadLength =
        payloadLength a caplen.toNat (transport a caplen.toNat) := if_neg unknown
    rw [makeQueuedPacket_payload a start, makeQueuedPacket_payload b start, length]
    by_cases some : 0 < payloadLength a caplen.toNat (transport a caplen.toNat)
    · exact slice_congr agree (payload_inside_datagram _ some)
    · rw [Nat.eq_zero_of_not_pos some]
      rfl

theorem report_agrees {a b : List UInt8} {caplen : UInt32}
    (agree : a.take (datagramEnd a) = b.take (datagramEnd a))
    (header : HeaderInDatagram a caplen.toNat) (wireLength otherLength : UInt32)
    (ts otherTs : Timeval) :
    report a (describe a caplen wireLength ts) =
      report b (describe b caplen otherLength otherTs) := by
  have same : describe a caplen otherLength otherTs = describe b caplen otherLength otherTs :=
    describe_of_loads (fun loads => slice_congr agree (loads_inside header loads)) otherLength
      otherTs
  have copied := copied_payload_agrees caplen agree otherLength otherTs
  calc report a (describe a caplen wireLength ts)
      = report a (describe a caplen otherLength otherTs) := rfl
    _ = report b (describe a caplen otherLength otherTs) := by
      unfold report
      rw [copied]
    _ = report b (describe b caplen otherLength otherTs) := by rw [same]

section Tampering

variable {data : List UInt8} {caplen : UInt32} {i : Nat} {byte : UInt8}

theorem slice_cons {offset : Nat} (inside : offset < data.length) (count : Nat) :
    slice data offset (count + 1) = data[offset] :: slice data (offset + 1) count := by
  unfold slice
  rw [List.drop_eq_getElem_cons inside, List.take_succ_cons]

theorem u8At_eq (inside : i < data.length) : u8At data i = data[i] := by
  unfold u8At number
  rw [slice_cons inside, slice, List.take_zero]
  simp [decode]

theorem u8At_set (inside : i < data.length) : u8At (data.set i byte) i = byte := by
  rw [u8At_eq (by rwa [List.length_set]), List.getElem_set_self]

theorem u16At_eq (inside : i + 1 < data.length) :
    u16At data i = UInt16.ofNat ((data[i]).toNat * 256 + (data[i + 1]).toNat) := by
  unfold u16At number
  rw [slice_cons (by omega), slice_cons inside, slice, List.take_zero]
  simp [decode]

theorem u16At_low (inside : i + 1 < data.length) :
    (u16At data i).toNat % 256 = (u8At data (i + 1)).toNat := by
  have small := (data[i + 1]).toNat_lt
  rw [u16At_eq inside, u8At_eq inside, UInt16.toNat_ofNat']
  omega

theorem TrailerIgnored.tampered (ignored : TrailerIgnored data caplen)
    (captured : data.length = caplen.toNat) (ip : HasIp data caplen.toNat)
    (past : datagramEnd data ≤ i) (byte : UInt8) :
    report (data.set i byte) (describe (data.set i byte) caplen 0 {}) =
      report data (describe data caplen 0 {}) := by
  have whole : ¬ caplen.toNat < ethernetHeaderSize := by
    have bytes : 34 ≤ caplen.toNat := ip.1
    unfold ethernetHeaderSize
    omega
  have length : (data.set i byte).length = caplen.toNat := by rw [List.length_set, captured]
  have same := ignored (data.set i byte) length (List.take_set_of_le past) 0 0 {} {}
  rw [reportOf_eq length.ge, reportOf_eq captured.ge, if_neg whole, if_neg whole] at same
  exact Option.some.inj (Except.ok.inj same)

theorem next_ne (byte : UInt8) : byte + 1 ≠ byte := by
  intro same
  have number := congrArg UInt8.toNat same
  rw [UInt8.toNat_add] at number
  have one : (1 : UInt8).toNat = 1 := rfl
  omega

theorem TrailerIgnored.udp (ignored : TrailerIgnored data caplen)
    (captured : data.length = caplen.toNat) (ip : HasIp data caplen.toNat)
    (udp : u8At data 23 = ipprotoUdp)
    (fits : transportOffset data + udpHeaderSize ≤ caplen.toNat) :
    transportOffset data + 4 ≤ datagramEnd data := by
  by_contra short
  have header := ip.start
  have inside : transportOffset data + 3 < data.length := by
    unfold udpHeaderSize at fits
    omega
  let forged := data.set (transportOffset data + 3) (u8At data (transportOffset data + 3) + 1)
  have agree : data.take (transportOffset data + 3) = forged.take (transportOffset data + 3) :=
    (List.take_set_of_le le_rfl).symm
  have start : transportOffset data = transportOffset forged :=
    transportOffset_congr agree (by omega)
  have found : transport data caplen.toNat = .udp :=
    (transport_udp_iff data caplen.toNat).mpr ⟨ip, udp, fits⟩
  have forgedFound : transport forged caplen.toNat = .udp := by
    refine (transport_udp_iff forged caplen.toNat).mpr ⟨?_, ?_, ?_⟩
    · exact (hasIp_congr agree (by omega)).mp ip
    · rwa [← u8At_congr agree (by omega)]
    · rwa [← start]
  have same := congrArg Report.dstPort
    (ignored.tampered captured ip (i := transportOffset data + 3) (by omega)
      (u8At data (transportOffset data + 3) + 1))
  have ports : u16At forged (transportOffset data + 2) = u16At data (transportOffset data + 2) := by
    have left : (describe forged caplen 0 {}).dstPort = u16At forged (transportOffset data + 2) := by
      rw [start]
      exact if_pos (.inr forgedFound)
    have right : (describe data caplen 0 {}).dstPort = u16At data (transportOffset data + 2) :=
      if_pos (.inr found)
    exact left.symm.trans (same.trans right)
  have within : transportOffset data + 2 + 1 < forged.length := by
    rw [List.length_set]
    omega
  have low := u16At_low within
  rw [ports, u16At_low (by omega), u8At_set inside] at low
  exact next_ne _ (UInt8.toNat_inj.mp low.symm)

theorem TrailerIgnored.tcp (ignored : TrailerIgnored data caplen)
    (captured : data.length = caplen.toNat) (ip : HasIp data caplen.toNat)
    (tcp : u8At data 23 = ipprotoTcp)
    (fits : transportOffset data + tcpHeaderSize ≤ caplen.toNat) :
    transportOffset data + 14 ≤ datagramEnd data ∨
      transportOffset data + 13 = datagramEnd data ∧ MalformedTcp data caplen.toNat := by
  have start := ip.start
  have bytes : transportOffset data + 20 ≤ data.length := by
    unfold tcpHeaderSize at fits
    omega
  by_cases malformed : MalformedTcp data caplen.toNat
  · by_contra outside
    obtain ⟨short, beyond⟩ := not_or.mp outside
    have apart : transportOffset data + 13 ≠ datagramEnd data := fun ends =>
      beyond ⟨ends, malformed⟩
    let forged := data.set (transportOffset data + 12) 0x50
    have agree : data.take (transportOffset data + 12) = forged.take (transportOffset data + 12) :=
      (List.take_set_of_le le_rfl).symm
    have same := congrArg Report.transport
      (ignored.tampered captured ip (i := transportOffset data + 12) (by omega) 0x50)
    have found : transport forged caplen.toNat = .tcp := by
      rw [transport_tcp_iff, ← transportOffset_congr agree (by omega), u8At_set (by omega)]
      refine ⟨(hasIp_congr agree (by omega)).mp ip, ?_, fits, by decide, fits⟩
      rwa [← u8At_congr agree (by omega)]
    have really : transport data caplen.toNat = .tcp := same.symm.trans found
    obtain ⟨-, -, -, long, inside⟩ := (transport_tcp_iff data caplen.toNat).mp really
    rcases malformed with early | cut
    · exact Nat.not_le.mpr early long
    · exact Nat.not_le.mpr cut inside
  · left
    by_contra short
    obtain ⟨long, inside⟩ := not_or.mp malformed
    let forged := data.set (transportOffset data + 13) (u8At data (transportOffset data + 13) + 1)
    have agree : data.take (transportOffset data + 13) = forged.take (transportOffset data + 13) :=
      (List.take_set_of_le le_rfl).symm
    have found : transport data caplen.toNat = .tcp := (transport_tcp_iff data caplen.toNat).mpr
      ⟨ip, tcp, fits, Nat.not_lt.mp long, Nat.not_lt.mp inside⟩
    have forgedFound : transport forged caplen.toNat = .tcp := by
      rw [transport_tcp_iff, ← transportOffset_congr agree (by omega)]
      rw [← u8At_congr agree (by omega), ← u8At_congr agree (by omega)]
      exact ⟨(hasIp_congr agree (by omega)).mp ip, tcp, fits, Nat.not_lt.mp long,
        Nat.not_lt.mp inside⟩
    have same := congrArg Report.tcpFlags
      (ignored.tampered captured ip (i := transportOffset data + 13) (by omega)
        (u8At data (transportOffset data + 13) + 1))
    have left : (describe forged caplen 0 {}).tcpFlags =
        u8At forged (transportOffset data + 13) := by
      rw [transportOffset_congr agree (by omega)]
      exact if_pos forgedFound
    have right : (describe data caplen 0 {}).tcpFlags = u8At data (transportOffset data + 13) :=
      if_pos found
    have flags := left.symm.trans (same.trans right)
    rw [u8At_set (by omega)] at flags
    exact next_ne _ flags

end Tampering

/-- What comes behind the datagram has no say in the report exactly where no header byte that is
    read lies there. -/
theorem trailer_ignored_iff (data : List UInt8) (caplen : UInt32)
    (captured : data.length = caplen.toNat) :
    TrailerIgnored data caplen ↔ HeaderInDatagram data caplen.toNat := by
  constructor
  · exact fun ignored ip => ⟨ignored.tcp captured ip, ignored.udp captured ip⟩
  · intro header other length agree wireLength otherLength ts otherTs
    rw [reportOf_eq length.ge, reportOf_eq captured.ge,
      report_agrees agree.symm header wireLength otherLength ts otherTs]

theorem whole_udp_frame_ignores_trailer : TrailerIgnored udpFrame 48 :=
  (trailer_ignored_iff udpFrame 48 (by decide)).mpr (by decide)

/-- A datagram of 20 bytes that says it carries UDP, with eight bytes of padding behind it. -/
def paddedFrame (padding : List UInt8) : List UInt8 :=
  [1, 2, 3, 4, 5, 6, 7, 8, 9, 10, 11, 12, 8, 0] ++
  [0x45, 0, 0, 20, 0, 0, 0, 0, 64, 17, 0, 0, 10, 0, 0, 1, 10, 0, 0, 2] ++ padding

/-- Two paddings of one datagram pass for probes of two ports. -/
theorem padding_forges_ports :
    (paddedFrame [0, 0, 0, 0, 0, 0, 0, 0]).length = 42 ∧
    (paddedFrame [4, 0, 0, 22, 0, 0, 0, 0]).length = 42 ∧
    (paddedFrame [0, 0, 0, 0, 0, 0, 0, 0]).take
        (datagramEnd (paddedFrame [0, 0, 0, 0, 0, 0, 0, 0])) =
      (paddedFrame [4, 0, 0, 22, 0, 0, 0, 0]).take
        (datagramEnd (paddedFrame [0, 0, 0, 0, 0, 0, 0, 0])) ∧
    reportOf (paddedFrame [0, 0, 0, 0, 0, 0, 0, 0]) 42 42 {} ≠
      reportOf (paddedFrame [4, 0, 0, 22, 0, 0, 0, 0]) 42 42 {} := by
  decide

end NetSentinel
