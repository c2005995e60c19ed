import NetSentinel.Capture.Truncation

namespace NetSentinel

open ByteBuffer

def net16 (value : UInt16) : List UInt8 := encode 2 value.toNat

def net32 (value : UInt32) : List UInt8 := encode 4 value.toNat

/-- Two nibbles, the header's length in 32-bit words being one of them. -/
def nibbles (upper lower : Fin 16) : UInt8 := UInt8.ofNat (upper.val * 16 + lower.val)

structure TcpSegment where
  srcPort : UInt16
  dstPort : UInt16
  seqNum : UInt32
  ackNum : UInt32
  dataOffset : Fin 16
  reserved : Fin 16
  flags : UInt8
  windowSize : UInt16
  checksum : UInt16
  urgentPointer : UInt16
  options : List UInt8
  payload : List UInt8
  minimal : 5 ≤ dataOffset.val
  optionsFill : tcpHeaderSize + options.length = dataOffset.val * 4

structure UdpDatagram where
  srcPort : UInt16
  dstPort : UInt16
  checksum : UInt16
  payload : List UInt8

inductive Segment where
  | tcp (segment : TcpSegment)
  | udp (datagram : UdpDatagram)
  | icmp (message : List UInt8)

namespace TcpSegment

def header (segment : TcpSegment) : List UInt8 :=
  net16 segment.srcPort ++ (net16 segment.dstPort ++ (net32 segment.seqNum ++
    (net32 segment.ackNum ++ ([nibbles segment.dataOffset segment.reserved] ++ ([segment.flags] ++
      (net16 segment.windowSize ++ (net16 segment.checksum ++
        (net16 segment.urgentPointer ++ segment.options))))))))

def bytes (segment : TcpSegment) : List UInt8 := segment.header ++ segment.payload

end TcpSegment

namespace UdpDatagram

def header (datagram : UdpDatagram) : List UInt8 :=
  net16 datagram.srcPort ++ (net16 datagram.dstPort ++
    (encode 2 (udpHeaderSize + datagram.payload.length) ++ net16 datagram.checksum))

def bytes (datagram : UdpDatagram) : List UInt8 := datagram.header ++ datagram.payload

end UdpDatagram

namespace Segment

def header : Segment → List UInt8
  | .tcp segment => segment.header
  | .udp datagram => datagram.header
  | .icmp _ => []

def bytes : Segment → List UInt8
  | .tcp segment => segment.bytes
  | .udp datagram => datagram.bytes
  | .icmp message => message

def protocol : Segment → UInt8
  | .tcp _ => ipprotoTcp
  | .udp _ => ipprotoUdp
  | .icmp _ => ipprotoIcmp

def transport : Segment → Transport
  | .tcp _ => .tcp
  | .udp _ => .udp
  | .icmp _ => .icmp

def srcPort : Segment → UInt16
  | .tcp segment => segment.srcPort
  | .udp datagram => datagram.srcPort
  | .icmp _ => 0

def dstPort : Segment → UInt16
  | .tcp segment => segment.dstPort
  | .udp datagram => datagram.dstPort
  | .icmp _ => 0

def flags : Segment → UInt8
  | .tcp segment => segment.flags
  | .udp _ => 0
  | .icmp _ => 0

def payload : Segment → List UInt8
  | .tcp segment => segment.payload
  | .udp datagram => datagram.payload
  | .icmp message => message

end Segment

/-- An unfragmented IPv4 datagram: of the flags and the fragment offset only the three flag bits
    may be set. -/
structure Datagram where
  ihl : Fin 16
  dscpEcn : UInt8
  identification : UInt16
  flags : Fin 8
  ttl : UInt8
  headerChecksum : UInt16
  srcIp : UInt32
  dstIp : UInt32
  options : List UInt8
  segment : Segment
  minimal : 5 ≤ ihl.val
  optionsFill : ipv4HeaderSize + options.length = ihl.val * 4
  fits : ihl.val * 4 + segment.bytes.length ≤ 65535

namespace Datagram

def totalLength (datagram : Datagram) : Nat :=
  datagram.ihl.val * 4 + datagram.segment.bytes.length

def header (datagram : Datagram) : List UInt8 :=
  [nibbles 4 datagram.ihl] ++ ([datagram.dscpEcn] ++ (encode 2 datagram.totalLength ++
    (net16 datagram.identification ++ (encode 2 (datagram.flags.val * 2^13) ++
      ([datagram.ttl] ++ ([datagram.segment.protocol] ++ (net16 datagram.headerChecksum ++
        (net32 datagram.srcIp ++ (net32 datagram.dstIp ++ datagram.options)))))))))

end Datagram

structure EthernetFrame where
  dstMac : Vector UInt8 6
  srcMac : Vector UInt8 6
  datagram : Datagram
  padding : List UInt8
  fits : ethernetHeaderSize + datagram.totalLength + padding.length < 2^32

instance : Inhabited EthernetFrame where
  default :=
    { dstMac := Vector.replicate 6 0, srcMac := Vector.replicate 6 0, padding := []
      datagram :=
        { ihl := 5, dscpEcn := 0, identification := 0, flags := 0, ttl := 64, headerChecksum := 0
          srcIp := 0, dstIp := 0, options := [], segment := .icmp []
          minimal := le_rfl, optionsFill := rfl, fits := by decide }
      fits := by decide }

namespace EthernetFrame

def bytes (frame : EthernetFrame) : List UInt8 :=
  frame.dstMac.toList ++ (frame.srcMac.toList ++ (net16 ethertypeIpv4 ++
    (frame.datagram.header ++ (frame.datagram.segment.bytes ++ frame.padding))))

def caplen (frame : EthernetFrame) : UInt32 := UInt32.ofNat frame.bytes.length

end EthernetFrame

theorem nibbles_upper (upper lower : Fin 16) : (nibbles upper lower >>> 4).toNat = upper.val := by
  revert upper lower
  decide

theorem nibbles_lower (upper lower : Fin 16) :
    (nibbles upper lower &&& 0x0F).toNat = lower.val := by
  revert upper lower
  decide

section Fields

variable {before rest : List UInt8} {offset : Nat}

theorem u8At_append_right (past : before.length ≤ offset) :
    u8At (before ++ rest) offset = u8At rest (offset - before.length) :=
  congrArg UInt8.ofNat (number_append_right past)

theorem u16At_append_right (past : before.length ≤ offset) :
    u16At (before ++ rest) offset = u16At rest (offset - before.length) :=
  congrArg UInt16.ofNat (number_append_right past)

theorem u32At_append_right (past : before.length ≤ offset) :
    u32At (before ++ rest) offset = u32At rest (offset - before.length) :=
  congrArg UInt32.ofNat (number_append_right past)

theorem u8At_field (value : UInt8) : u8At ([value] ++ rest) 0 = value := by
  simp [u8At, number, slice, decode]

theorem u16At_number {n : Nat} (fits : n < 256 ^ 2) : u16At (encode 2 n ++ rest) 0 = UInt16.ofNat n :=
  congrArg UInt16.ofNat (number_field fits rest)

theorem u16At_field (value : UInt16) : u16At (net16 value ++ rest) 0 = value := by
  unfold net16
  rw [u16At_number value.toNat_lt, UInt16.ofNat_toNat]

theorem u32At_field (value : UInt32) : u32At (net32 value ++ rest) 0 = value := by
  unfold u32At net32
  rw [number_field value.toNat_lt, UInt32.ofNat_toNat]

@[simp] theorem net16_length (value : UInt16) : (net16 value).length = 2 := encode_length 2 _

@[simp] theorem net32_length (value : UInt32) : (net32 value).length = 4 := encode_length 4 _

theorem toMac_toList (mac : Vector UInt8 6) : toMac mac.toList = mac := by
  unfold toMac
  ext i
  simp

end Fields

theorem Datagram.header_length (datagram : Datagram) :
    datagram.header.length = datagram.ihl.val * 4 := by
  have fill := datagram.optionsFill
  unfold ipv4HeaderSize at fill
  simp only [header, List.length_append, List.length_singleton, net16_length, net32_length,
    encode_length]
  omega

theorem TcpSegment.header_length (segment : TcpSegment) :
    segment.header.length = segment.dataOffset.val * 4 := by
  have fill := segment.optionsFill
  unfold tcpHeaderSize at fill
  simp only [header, List.length_append, List.length_singleton, net16_length, net32_length]
  omega

theorem UdpDatagram.header_length (datagram : UdpDatagram) :
    datagram.header.length = udpHeaderSize := by
  simp [header, udpHeaderSize]

theorem Segment.bytes_eq (segment : Segment) : segment.bytes = segment.header ++ segment.payload := by
  cases segment <;> rfl

section Ports

variable (rest : List UInt8)

theorem TcpSegment.srcPort_read (segment : TcpSegment) :
    u16At (segment.bytes ++ rest) 0 = segment.srcPort := by
  simp only [bytes, header, List.append_assoc, u16At_field]

theorem TcpSegment.dstPort_read (segment : TcpSegment) :
    u16At (segment.bytes ++ rest) 2 = segment.dstPort := by
  simp (disch := simp) only [bytes, header, List.append_assoc, u16At_append_right, net16_length,
    Nat.reduceSub, u16At_field]

theorem TcpSegment.dataOffset_read (segment : TcpSegment) :
    u8At (segment.bytes ++ rest) 12 = nibbles segment.dataOffset segment.reserved := by
  simp (disch := simp) only [bytes, header, List.append_assoc, u8At_append_right, net16_length,
    net32_length, Nat.reduceSub, u8At_field]

theorem TcpSegment.flags_read (segment : TcpSegment) :
    u8At (segment.bytes ++ rest) 13 = segment.flags := by
  simp (disch := simp) only [bytes, header, List.append_assoc, u8At_append_right, net16_length,
    net32_length, List.length_singleton, Nat.reduceSub, u8At_field]

theorem UdpDatagram.srcPort_read (datagram : UdpDatagram) :
    u16At (datagram.bytes ++ rest) 0 = datagram.srcPort := by
  simp only [bytes, header, List.append_assoc, u16At_field]

theorem UdpDatagram.dstPort_read (datagram : UdpDatagram) :
    u16At (datagram.bytes ++ rest) 2 = datagram.dstPort := by
  simp (disch := simp) only [bytes, header, List.append_assoc, u16At_append_right, net16_length,
    Nat.reduceSub, u16At_field]

end Ports

namespace EthernetFrame

open Layout

variable (frame : EthernetFrame)

theorem bytes_length :
    frame.bytes.length = ethernetHeaderSize + frame.datagram.totalLength + frame.padding.length := by
  simp only [bytes, List.length_append, Vector.length_toList, net16_length,
    Datagram.header_length, Datagram.totalLength, ethernetHeaderSize]
  omega

theorem caplen_toNat : frame.caplen.toNat = frame.bytes.length := by
  have fits := frame.fits
  rw [← bytes_length] at fits
  exact UInt32.toNat_ofNat_of_lt' fits

theorem srcMac_read : macAt frame.bytes 6 = frame.srcMac := by
  have field := slice_field frame.srcMac.toList (net16 ethertypeIpv4 ++
    (frame.datagram.header ++ (frame.datagram.segment.bytes ++ frame.padding)))
  rw [Vector.length_toList] at field
  unfold macAt bytes
  rw [slice_append_right (by simp), Vector.length_toList, Nat.sub_self, field, toMac_toList]

theorem dstMac_read : macAt frame.bytes 0 = frame.dstMac := by
  have field := slice_field frame.dstMac.toList (frame.srcMac.toList ++ (net16 ethertypeIpv4 ++
    (frame.datagram.header ++ (frame.datagram.segment.bytes ++ frame.padding))))
  rw [Vector.length_toList] at field
  unfold macAt bytes
  rw [field, toMac_toList]

theorem ethertype_read : u16At frame.bytes 12 = ethertypeIpv4 := by
  unfold bytes
  rw [u16At_append_right (by simp), u16At_append_right (by simp)]
  simpa using u16At_field ethertypeIpv4

theorem versionIhl_read : u8At frame.bytes 14 = nibbles 4 frame.datagram.ihl := by
  simp (disch := simp) only [bytes, Datagram.header, List.append_assoc, u8At_append_right,
    Vector.length_toList, net16_length, Nat.reduceSub, u8At_field]

theorem totalLength_read : u16At frame.bytes 16 = UInt16.ofNat frame.datagram.totalLength := by
  have fits : frame.datagram.totalLength < 256 ^ 2 := Nat.lt_succ_of_le frame.datagram.fits
  simp (disch := simp) only [bytes, Datagram.header, List.append_assoc, u16At_append_right,
    Vector.length_toList, net16_length, List.length_singleton, Nat.reduceSub, u16At_number fits]

theorem ttl_read : u8At frame.bytes 22 = frame.datagram.ttl := by
  simp (disch := simp) only [bytes, Datagram.header, List.append_assoc, u8At_append_right,
    Vector.length_toList, net16_length, encode_length, List.length_singleton, Nat.reduceSub,
    u8At_field]

theorem protocol_read : u8At frame.bytes 23 = frame.datagram.segment.protocol := by
  simp (disch := simp) only [bytes, Datagram.header, List.append_assoc, u8At_append_right,
    Vector.length_toList, net16_length, encode_length, List.length_singleton, Nat.reduceSub,
    u8At_field]

theorem srcIp_read : u32At frame.bytes 26 = frame.datagram.srcIp := by
  simp (disch := simp) only [bytes, Datagram.header, List.append_assoc, u32At_append_right,
    Vector.length_toList, net16_length, encode_length, List.length_singleton, Nat.reduceSub,
    u32At_field]

theorem dstIp_read : u32At frame.bytes 30 = frame.datagram.dstIp := by
  simp (disch := simp) only [bytes, Datagram.header, List.append_assoc, u32At_append_right,
    Vector.length_toList, net16_length, net32_length, encode_length, List.length_singleton,
    Nat.reduceSub, u32At_field]

theorem ipHeaderBytes_read :
    ipHeaderBytes (u8At frame.bytes 14) = frame.datagram.ihl.val * 4 := by
  rw [versionIhl_read]
  unfold ipHeaderBytes
  rw [nibbles_lower]

theorem transportOffset_read :
    transportOffset frame.bytes = ethernetHeaderSize + frame.datagram.ihl.val * 4 := by
  unfold transportOffset
  rw [ipHeaderBytes_read]

theorem hasIp_read : HasIp frame.bytes frame.caplen.toNat := by
  have minimal := frame.datagram.minimal
  have length := frame.bytes_length
  unfold Datagram.totalLength at length
  unfold HasIp
  rw [transportOffset_read, ipHeaderBytes_read, ethertype_read, versionIhl_read, caplen_toNat]
  refine ⟨?_, rfl, ?_, ?_, by omega⟩
  · unfold ipv4HeaderSize
    omega
  · apply UInt8.toNat_inj.mp
    exact nibbles_upper 4 frame.datagram.ihl
  · unfold ipv4HeaderSize
    omega

theorem bytes_split : ∃ front : List UInt8,
    front.length = transportOffset frame.bytes ∧
      frame.bytes = front ++ (frame.datagram.segment.bytes ++ frame.padding) := by
  refine ⟨frame.dstMac.toList ++ (frame.srcMac.toList ++ (net16 ethertypeIpv4 ++
    frame.datagram.header)), ?_, ?_⟩
  · simp only [transportOffset_read, List.length_append, Vector.length_toList, net16_length,
      Datagram.header_length, ethernetHeaderSize]
    omega
  · simp only [bytes, List.append_assoc]

theorem u8At_segment (shift : Nat) : u8At frame.bytes (transportOffset frame.bytes + shift) =
    u8At (frame.datagram.segment.bytes ++ frame.padding) shift := by
  obtain ⟨front, length, split⟩ := frame.bytes_split
  rw [← length, split, u8At_append_right (by omega), Nat.add_sub_cancel_left]

theorem u16At_segment (shift : Nat) : u16At frame.bytes (transportOffset frame.bytes + shift) =
    u16At (frame.datagram.segment.bytes ++ frame.padding) shift := by
  obtain ⟨front, length, split⟩ := frame.bytes_split
  rw [← length, split, u16At_append_right (by omega), Nat.add_sub_cancel_left]

theorem segment_inside :
    frame.caplen.toNat = transportOffset frame.bytes + frame.datagram.segment.header.length +
      frame.datagram.segment.payload.length + frame.padding.length := by
  rw [caplen_toNat, bytes_length, transportOffset_read, Datagram.totalLength, Segment.bytes_eq,
    List.length_append]
  omega

theorem transportHeaderBytes_read :
    transportHeaderBytes frame.bytes frame.datagram.segment.transport =
      frame.datagram.segment.header.length := by
  cases found : frame.datagram.segment with
  | tcp segment =>
    have offset := frame.u8At_segment 12
    rw [found] at offset
    change tcpHeaderBytes (u8At frame.bytes (transportOffset frame.bytes + 12)) = _
    rw [offset, Segment.header, TcpSegment.header_length, Segment.bytes, TcpSegment.dataOffset_read]
    exact congrArg (· * 4) (nibbles_upper _ _)
  | udp datagram => exact datagram.header_length.symm
  | icmp message => rfl

theorem transport_read :
    transport frame.bytes frame.caplen.toNat = frame.datagram.segment.transport := by
  have ip := frame.hasIp_read
  have protocol := frame.protocol_read
  have header := frame.transportHeaderBytes_read
  have inside := frame.segment_inside
  cases found : frame.datagram.segment with
  | tcp segment =>
    have minimal := segment.minimal
    have length := segment.header_length
    rw [found] at protocol header inside
    change tcpHeaderBytes (u8At frame.bytes (transportOffset frame.bytes + 12)) = _ at header
    simp only [Segment.header] at header inside
    apply (transport_tcp_iff _ _).mpr
    rw [header]
    unfold tcpHeaderSize
    exact ⟨ip, protocol, by omega, by omega, by omega⟩
  | udp datagram =>
    have length := datagram.header_length
    rw [found] at protocol inside
    simp only [Segment.header] at inside
    apply (transport_udp_iff _ _).mpr
    exact ⟨ip, protocol, by omega⟩
  | icmp message =>
    rw [found] at protocol
    exact (transport_icmp_iff _ _).mpr ⟨ip, protocol⟩

theorem payloadLength_read :
    payloadLength frame.bytes frame.caplen.toNat frame.datagram.segment.transport =
      frame.datagram.segment.payload.length := by
  have inside := frame.segment_inside
  have fits : frame.datagram.totalLength < 65536 := Nat.lt_succ_of_le frame.datagram.fits
  have total : (UInt16.ofNat frame.datagram.totalLength).toNat = frame.datagram.totalLength :=
    UInt16.toNat_ofNat_of_lt' fits
  unfold payloadLength payloadOffset claimedLength
  rw [transportHeaderBytes_read, totalLength_read, total, ipHeaderBytes_read, Datagram.totalLength,
    Segment.bytes_eq, List.length_append]
  omega

theorem payload_read :
    slice frame.bytes (payloadOffset frame.bytes frame.datagram.segment.transport)
      frame.datagram.segment.payload.length = frame.datagram.segment.payload := by
  obtain ⟨front, length, split⟩ := frame.bytes_split
  unfold payloadOffset
  rw [transportHeaderBytes_read, ← length]
  conv_lhs => rw [split, Segment.bytes_eq]
  rw [List.append_assoc, slice_append_right (by omega), Nat.add_sub_cancel_left,
    slice_append_right le_rfl, Nat.sub_self]
  exact slice_field _ _

def decoded (wireLength : UInt32) (ts : Timeval) : QueuedPacket where
  parsed :=
    { timestamp := ts
      captureLength := frame.caplen
      wireLength := wireLength
      srcMac := frame.srcMac
      dstMac := frame.dstMac
      hasIp := true
      srcIp := frame.datagram.srcIp
      dstIp := frame.datagram.dstIp
      ttl := frame.datagram.ttl
      ipProtocol := frame.datagram.segment.protocol
      transport := frame.datagram.segment.transport
      srcPort := frame.datagram.segment.srcPort
      dstPort := frame.datagram.segment.dstPort
      tcpFlags := frame.datagram.segment.flags }
  payload := frame.datagram.segment.payload

theorem ports_read (wireLength : UInt32) (ts : Timeval) :
    (describe frame.bytes frame.caplen wireLength ts).srcPort = frame.datagram.segment.srcPort ∧
      (describe frame.bytes frame.caplen wireLength ts).dstPort = frame.datagram.segment.dstPort ∧
      (describe frame.bytes frame.caplen wireLength ts).tcpFlags = frame.datagram.segment.flags := by
  have word := frame.u16At_segment
  have byte := frame.u8At_segment 13
  have start := word 0
  rw [Nat.add_zero] at start
  unfold describe
  dsimp only
  rw [transport_read, start, word 2, byte]
  cases frame.datagram.segment with
  | tcp segment =>
    exact ⟨segment.srcPort_read _, segment.dstPort_read _, segment.flags_read _⟩
  | udp datagram =>
    exact ⟨datagram.srcPort_read _, datagram.dstPort_read _, rfl⟩
  | icmp message => exact ⟨rfl, rfl, rfl⟩

theorem describe_payload (wireLength : UInt32) (ts : Timeval) :
    (describe frame.bytes frame.caplen wireLength ts).payload =
        some (payloadOffset frame.bytes frame.datagram.segment.transport) ∧
      (describe frame.bytes frame.caplen wireLength ts).payloadLength =
        frame.datagram.segment.payload.length := by
  have known : frame.datagram.segment.transport ≠ .unknown := by
    cases frame.datagram.segment <;> exact Transport.noConfusion
  unfold describe
  dsimp only
  rw [transport_read, if_neg known, if_neg known, payloadLength_read]
  exact ⟨rfl, rfl⟩

theorem describe_parsed (wireLength : UInt32) (ts : Timeval) :
    { describe frame.bytes frame.caplen wireLength ts with payload := none, payloadLength := 0 } =
      (frame.decoded wireLength ts).parsed := by
  have ip := frame.hasIp_read
  obtain ⟨srcPort, dstPort, flags⟩ := frame.ports_read wireLength ts
  unfold decoded
  dsimp only
  rw [srcPort, dstPort, flags]
  unfold describe
  dsimp only
  congr 1
  · exact frame.srcMac_read
  · exact frame.dstMac_read
  · exact decide_eq_true ip
  · exact (if_pos ip).trans frame.srcIp_read
  · exact (if_pos ip).trans frame.dstIp_read
  · exact (if_pos ip).trans frame.ttl_read
  · exact (if_pos ip).trans frame.protocol_read
  · exact frame.transport_read

theorem describe_decoded (wireLength : UInt32) (ts : Timeval) :
    makeQueuedPacket frame.bytes (describe frame.bytes frame.caplen wireLength ts) =
      frame.decoded wireLength ts := by
  obtain ⟨start, length⟩ := frame.describe_payload wireLength ts
  have payload := makeQueuedPacket_payload frame.bytes start
  rw [length, payload_read] at payload
  exact congrArg₂ QueuedPacket.mk (frame.describe_parsed wireLength ts) payload

theorem parse_bytes (wireLength : UInt32) (ts : Timeval) :
    parsePacket (some frame.bytes) frame.caplen wireLength ts =
      .ok (some (describe frame.bytes frame.caplen wireLength ts)) := by
  have runt : ¬ frame.caplen.toNat < ethernetHeaderSize := by
    have bytes : 34 ≤ frame.caplen.toNat := frame.hasIp_read.1
    unfold ethernetHeaderSize
    omega
  rw [parsePacket_eq wireLength ts frame.caplen_toNat.le, if_neg runt]

/-- Parsing a whole captured frame gives back what went into it: no option or padding byte ends up
    in the payload and no byte of the payload is missing. -/
theorem parse_undoes_encoding (wireLength : UInt32) (ts : Timeval) :
    ∃ parsed, parsePacket (some frame.bytes) frame.caplen wireLength ts = .ok (some parsed) ∧
      makeQueuedPacket frame.bytes parsed = frame.decoded wireLength ts :=
  ⟨_, frame.parse_bytes wireLength ts, frame.describe_decoded wireLength ts⟩

/-- A TCP segment behind a word of IPv4 options and one of TCP options, with padding after it. -/
def optionsFrame (srcIp : UInt32) (flags : UInt8) (payload : List UInt8)
    (short : payload.length ≤ 1000) : EthernetFrame where
  dstMac := Vector.replicate 6 2
  srcMac := Vector.replicate 6 1
  padding := [0, 0, 0]
  datagram :=
    { ihl := 6, dscpEcn := 0, identification := 7, flags := 2, ttl := 64, headerChecksum := 0
      srcIp, dstIp := 0x0A000002, options := [1, 1, 1, 0]
      segment := .tcp
        { srcPort := 40000, dstPort := 80, seqNum := 1, ackNum := 1, dataOffset := 6, reserved := 0
          flags, windowSize := 512, checksum := 0, urgentPointer := 0
          options := [2, 4, 5, 180], payload, minimal := by decide, optionsFill := rfl }
      minimal := by decide, optionsFill := rfl
      fits := by
        simp [Segment.bytes, TcpSegment.bytes, TcpSegment.header]
        omega }
  fits := by
    simp [Datagram.totalLength, Segment.bytes, TcpSegment.bytes, TcpSegment.header,
      ethernetHeaderSize]
    omega

theorem options_frame_parses : ∃ parsed,
    parsePacket (some (optionsFrame 0x0A000001 tcpFlagAck [7, 8, 9] (by decide)).bytes) 68 68 {} =
      .ok (some parsed) ∧ parsed.srcPort = 40000 ∧
        (makeQueuedPacket (optionsFrame 0x0A000001 tcpFlagAck [7, 8, 9] (by decide)).bytes parsed).payload =
          [7, 8, 9] := by
  obtain ⟨parsed, parses, made⟩ :=
    (optionsFrame 0x0A000001 tcpFlagAck [7, 8, 9] (by decide)).parse_undoes_encoding 68 {}
  refine ⟨parsed, parses, ?_, congrArg QueuedPacket.payload made⟩
  exact congrArg (fun packet => packet.parsed.srcPort) made

end EthernetFrame

end NetSentinel
