import NetSentinel.Library.ByteBuffer
import NetSentinel.Packet

namespace NetSentinel

open ByteBuffer

def ethertypeIpv4 : UInt16 := 0x0800

def ipprotoIcmp : UInt8 := 1

def ipprotoTcp : UInt8 := 6

def ipprotoUdp : UInt8 := 17

def ethernetHeaderSize : Nat := 14

def ipv4HeaderSize : Nat := 20

def tcpHeaderSize : Nat := 20

def udpHeaderSize : Nat := 8

/-- The field readers: a load through the overlaid header, in host byte order. -/
def readU8 (data : List UInt8) (offset : Nat) : Except Fault UInt8 := do
  return UInt8.ofNat (← readNumber data offset 1)

def readU16 (data : List UInt8) (offset : Nat) : Except Fault UInt16 := do
  return UInt16.ofNat (← readNumber data offset 2)

def readU32 (data : List UInt8) (offset : Nat) : Except Fault UInt32 := do
  return UInt32.ofNat (← readNumber data offset 4)

def toMac (bytes : List UInt8) : Vector UInt8 6 := Vector.ofFn fun i => bytes.getD i 0

def readMac (data : List UInt8) (offset : Nat) : Except Fault (Vector UInt8 6) := do
  return toMac (← read data offset 6)

/-- The upper nibble of `version_ihl`. -/
def ipVersion (versionIhl : UInt8) : UInt8 := versionIhl >>> 4

def ipHeaderBytes (versionIhl : UInt8) : Nat := (versionIhl &&& 0x0F).toNat * 4

def tcpHeaderBytes (dataOffsetReserved : UInt8) : Nat := (dataOffsetReserved >>> 4).toNat * 4

/-- `minuend > subtrahend ? minuend - subtrahend : 0`. -/
def subOrZero (minuend subtrahend : Nat) : Except Fault Nat :=
  if subtrahend < minuend then sub minuend subtrahend else pure 0

def ipPayloadAvailable (caplen offset headerBytes : Nat) : Except Fault Nat :=
  if offset + headerBytes < caplen then do
    let rest ← sub caplen offset
    sub rest headerBytes
  else pure 0

/-- The last step of the TCP and UDP branches. -/
def withPayload (caplen payloadOffset ipPayloadLength headerBytes : Nat) (pkt : ParsedPacket) :
    Except Fault ParsedPacket :=
  if payloadOffset ≤ caplen then do
    let captured ← sub caplen payloadOffset
    let claimed ← subOrZero ipPayloadLength headerBytes
    return { pkt with payload := some payloadOffset, payloadLength := min captured claimed }
  else return pkt

def parseTcp (data : List UInt8) (caplen offset ipPayloadLength : Nat) (pkt : ParsedPacket) :
    Except Fault ParsedPacket :=
  if caplen < offset + tcpHeaderSize then return pkt
  else do
    let headerBytes := tcpHeaderBytes (← readU8 data (offset + 12))
    if headerBytes < tcpHeaderSize ∨ caplen < offset + headerBytes then return pkt
    else
      let srcPort ← readU16 data offset
      let dstPort ← readU16 data (offset + 2)
      let tcpFlags ← readU8 data (offset + 13)
      withPayload caplen (offset + headerBytes) ipPayloadLength headerBytes
        { pkt with transport := .tcp, srcPort, dstPort, tcpFlags }

def parseUdp (data : List UInt8) (caplen offset ipPayloadLength : Nat) (pkt : ParsedPacket) :
    Except Fault ParsedPacket :=
  if caplen < offset + udpHeaderSize then return pkt
  else do
    let srcPort ← readU16 data offset
    let dstPort ← readU16 data (offset + 2)
    withPayload caplen (offset + udpHeaderSize) ipPayloadLength udpHeaderSize
      { pkt with transport := .udp, srcPort, dstPort }

def parseIcmp (caplen offset ipPayloadLength : Nat) (pkt : ParsedPacket) : ParsedPacket :=
  if offset ≤ caplen then
    { pkt with transport := .icmp, payload := some offset, payloadLength := ipPayloadLength }
  else { pkt with transport := .icmp }

def parseTransport (data : List UInt8) (caplen offset ipPayloadLength : Nat) (pkt : ParsedPacket) :
    Except Fault ParsedPacket :=
  if pkt.ipProtocol = ipprotoTcp then parseTcp data caplen offset ipPayloadLength pkt
  else if pkt.ipProtocol = ipprotoUdp then parseUdp data caplen offset ipPayloadLength pkt
  else if pkt.ipProtocol = ipprotoIcmp then return parseIcmp caplen offset ipPayloadLength pkt
  else return pkt

def parseIpv4 (data : List UInt8) (caplen offset : Nat) (pkt : ParsedPacket) :
    Except Fault ParsedPacket :=
  if caplen < offset + ipv4HeaderSize then return pkt
  else do
    let versionIhl ← readU8 data offset
    if ipVersion versionIhl ≠ 4 then return pkt
    else
      let headerBytes := ipHeaderBytes versionIhl
      if headerBytes < ipv4HeaderSize ∨ caplen < offset + headerBytes then return pkt
      else
        let srcIp ← readU32 data (offset + 12)
        let dstIp ← readU32 data (offset + 16)
        let ttl ← readU8 data (offset + 8)
        let ipProtocol ← readU8 data (offset + 9)
        let ipTotalLength ← readU16 data (offset + 2)
        let available ← ipPayloadAvailable caplen offset headerBytes
        let claimed ← subOrZero ipTotalLength.toNat headerBytes
        parseTransport data caplen (offset + headerBytes) (min available claimed)
          { pkt with hasIp := true, srcIp, dstIp, ttl, ipProtocol }

/-- `data` is the buffer that the pointer leads to, with `none` for the null pointer. -/
def parsePacket (data : Option (List UInt8)) (caplen wireLength : UInt32) (ts : Timeval) :
    Except Fault (Option ParsedPacket) :=
  match data with
  | none => .ok none
  | some data =>
    if caplen.toNat < ethernetHeaderSize then .ok none
    else do
      let srcMac ← readMac data 6
      let dstMac ← readMac data 0
      let ethertype ← readU16 data 12
      let pkt : ParsedPacket :=
        { timestamp := ts, captureLength := caplen, wireLength, srcMac, dstMac }
      if ethertype ≠ ethertypeIpv4 then return some pkt
      else return some (← parseIpv4 data caplen.toNat ethernetHeaderSize pkt)

end NetSentinel
