import Mathlib.Data.Vector.Basic

namespace NetSentinel

inductive Transport where
  | unknown | tcp | udp | icmp
deriving DecidableEq, Repr

/-- Unbounded where the source has the `time_t` and `suseconds_t` of its platform, so that a signed
    overflow is out of scope. -/
structure Timeval where
  tvSec : Int := 0
  tvUsec : Int := 0
deriving DecidableEq, Repr

def tcpFlagFin : UInt8 := 0x01
def tcpFlagSyn : UInt8 := 0x02
def tcpFlagRst : UInt8 := 0x04
def tcpFlagPsh : UInt8 := 0x08
def tcpFlagAck : UInt8 := 0x10
def tcpFlagUrg : UInt8 := 0x20

/-- Addresses and ports are in host byte order. The payload pointer is an offset into the
    captured bytes, with `none` for the null pointer. -/
structure ParsedPacket where
  timestamp : Timeval := {}
  captureLength : UInt32 := 0
  wireLength : UInt32 := 0
  srcMac : Vector UInt8 6 := Vector.replicate 6 0
  dstMac : Vector UInt8 6 := Vector.replicate 6 0
  hasIp : Bool := false
  srcIp : UInt32 := 0
  dstIp : UInt32 := 0
  ttl : UInt8 := 0
  ipProtocol : UInt8 := 0
  transport : Transport := .unknown
  srcPort : UInt16 := 0
  dstPort : UInt16 := 0
  tcpFlags : UInt8 := 0
  payload : Option Nat := none
  payloadLength : Nat := 0
deriving DecidableEq, Repr

/-- A parsed packet that owns its payload bytes; `parsed` is the source's `meta`. -/
structure QueuedPacket where
  parsed : ParsedPacket := {}
  payload : List UInt8 := []
deriving DecidableEq, Repr

/-- The payload is copied out of the captured bytes `data` and the pointer is cleared. -/
def makeQueuedPacket (data : List UInt8) (parsed : ParsedPacket) : QueuedPacket where
  parsed := { parsed with payload := none, payloadLength := 0 }
  payload :=
    match parsed.payload with
    | some offset =>
      if 0 < parsed.payloadLength then (data.drop offset).take parsed.payloadLength else []
    | none => []

/-- The packet builder of the repository's own tests. -/
def makeTestPacket (srcIp dstIp : UInt32) (srcPort dstPort : UInt16) (tcpFlags : UInt8)
    (timestampMs : Int) (transport : Transport) : QueuedPacket where
  parsed :=
    { hasIp := true, srcIp, dstIp, srcPort, dstPort, tcpFlags, transport
      timestamp := ⟨timestampMs.tdiv 1000, timestampMs.tmod 1000 * 1000⟩ }

end NetSentinel
