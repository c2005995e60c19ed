import NetSentinel.FlowTracker.Record

namespace NetSentinel

/-- What `snprintf` leaves in a buffer of `size` bytes. -/
def takeBytes : Nat → List Char → List Char
  | _, [] => []
  | room, c :: text => if c.utf8Size ≤ room then c :: takeBytes (room - c.utf8Size) text else []

def snprintf (size : Nat) (text : List Char) : List Char := takeBytes (size - 1) text

/-- `%u` and its relatives. -/
def unsignedText (value : Nat) : List Char := Nat.toDigits 10 value

/-- `%ld`. -/
def signedText (value : Int) : List Char :=
  if value < 0 then '-' :: unsignedText value.natAbs else unsignedText value.natAbs

/-- `%06ld`: the sign stands in front of the zeros. -/
def zeroPadded (width : Nat) (value : Int) : List Char :=
  if value < 0 then '-' :: (unsignedText value.natAbs).leftpad (width - 1) '0'
  else (unsignedText value.natAbs).leftpad width '0'

def hexByte (value : UInt8) : List Char := (Nat.toDigits 16 value.toNat).leftpad 2 '0'

def macToString (mac : Vector UInt8 6) : List Char :=
  snprintf 18 (hexByte mac[0] ++ ":".toList ++ hexByte mac[1] ++ ":".toList ++ hexByte mac[2] ++
    ":".toList ++ hexByte mac[3] ++ ":".toList ++ hexByte mac[4] ++ ":".toList ++ hexByte mac[5])

def ipv4ToString (hostOrderIp : UInt32) : List Char :=
  snprintf 16 (unsignedText ((hostOrderIp >>> 24) &&& 0xFF).toNat ++ ".".toList ++
    unsignedText ((hostOrderIp >>> 16) &&& 0xFF).toNat ++ ".".toList ++
    unsignedText ((hostOrderIp >>> 8) &&& 0xFF).toNat ++ ".".toList ++
    unsignedText (hostOrderIp &&& 0xFF).toNat)

def transportToString : Transport → List Char
  | .tcp => "TCP".toList
  | .udp => "UDP".toList
  | .icmp => "ICMP".toList
  | .unknown => "?".toList

def tcpFlagsToString (flags : UInt8) : List Char :=
  let letter (flag : UInt8) (name : Char) := if flags &&& flag ≠ 0 then [name] else []
  let s := letter tcpFlagSyn 'S' ++ letter tcpFlagAck 'A' ++ letter tcpFlagFin 'F' ++
    letter tcpFlagRst 'R' ++ letter tcpFlagPsh 'P' ++ letter tcpFlagUrg 'U'
  if s = [] then "-".toList else s

def anomalyTypeToString : AnomalyType → List Char
  | .portScan => "PORT_SCAN".toList
  | .highEntropyPayload => "HIGH_ENTROPY_PAYLOAD".toList
  | .synFlood => "SYN_FLOOD".toList
  | .signatureMatch => "SIGNATURE_MATCH".toList

def formatAlert (alert : Alert) : List Char :=
  snprintf 256
    (if alert.dstPort ≠ 0 ∨ alert.srcPort ≠ 0 then
      "[ALERT] ".toList ++ (anomalyTypeToString alert.type).rightpad 21 ' ' ++ " src=".toList ++
        ipv4ToString alert.srcIp ++ ":".toList ++ unsignedText alert.srcPort.toNat ++
        " dst=".toList ++ ipv4ToString alert.dstIp ++ ":".toList ++
        unsignedText alert.dstPort.toNat ++ " — ".toList ++ alert.detail.toList
    else
      "[ALERT] ".toList ++ (anomalyTypeToString alert.type).rightpad 21 ' ' ++ " src=".toList ++
        ipv4ToString alert.srcIp ++ " — ".toList ++ alert.detail.toList)

/-- What `print_alert` hands to `printf`. -/
def alertLine (alert : Alert) : List Char := formatAlert alert ++ "\n".toList

def hasPorts (transport : Transport) : Bool := transport = .tcp ∨ transport = .udp

/-- The calls of `printf` in `print_packet`. -/
def printPacket (q : QueuedPacket) : List (List Char) :=
  let pkt := q.parsed
  let port (value : UInt16) := if hasPorts pkt.transport then [":".toList ++ unsignedText value.toNat] else []
  ("[".toList ++ signedText pkt.timestamp.tvSec ++ ".".toList ++ zeroPadded 6 pkt.timestamp.tvUsec ++
      "] len=".toList ++ unsignedText pkt.wireLength.toNat ++ " cap=".toList ++
      unsignedText pkt.captureLength.toNat ++ "  ".toList ++ macToString pkt.srcMac ++
      " -> ".toList ++ macToString pkt.dstMac) ::
    if pkt.hasIp then
      ["  ".toList ++ ipv4ToString pkt.srcIp] ++ port pkt.srcPort ++
        [" -> ".toList ++ ipv4ToString pkt.dstIp] ++ port pkt.dstPort ++
        [" proto=".toList ++ transportToString pkt.transport ++ " ttl=".toList ++
          unsignedText pkt.ttl.toNat] ++
        (if pkt.transport = .tcp then [" flags=".toList ++ tcpFlagsToString pkt.tcpFlags] else []) ++
        [" payload=".toList ++ unsignedText q.payload.length ++ "B\n".toList]
    else ["  (non-IPv4)\n".toList]

end NetSentinel
