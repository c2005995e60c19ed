import NetSentinel.Packet
import NetSentinel.Library.SlidingWindow
import NetSentinel.Library.Tally

namespace NetSentinel

inductive AnomalyType where
  | portScan | highEntropyPayload | synFlood | signatureMatch
deriving DecidableEq, Repr

structure Alert where
  type : AnomalyType
  srcIp : UInt32
  dstIp : UInt32 := 0
  srcPort : UInt16 := 0
  dstPort : UInt16 := 0
  detail : String := ""
deriving DecidableEq, Repr

/-- Times are `int64_t` milliseconds in the source and unbounded here: a signed overflow, which is
    undefined there, is out of scope. -/
structure FlowTrackerConfig where
  numShards : Nat := 16
  portScanWindowMs : Int := 5000
  portScanDistinctPortThreshold : Nat := 10
  synFloodWindowMs : Int := 2000
  synFloodPendingThreshold : Nat := 20
  alertDebounceMs : Int := 2000
  idleTtlMs : Int := 60000
  sweepIntervalPackets : Nat := 256
  maxTrackedIpsPerShard : Nat := 1024
deriving DecidableEq, Repr

structure FlowKey where
  srcIp : UInt32
  dstIp : UInt32
  srcPort : UInt16
  dstPort : UInt16
deriving DecidableEq, Repr

/-- The two deques have their front at the head of the list. -/
structure PerIpState where
  recentDstPorts : List (Int × UInt16) := []
  portCounts : Tally.Counts UInt16 := ∅
  pendingSyns : AList (fun _ : FlowKey => Int) := ∅
  pendingSynOrder : List (Int × FlowKey) := []
  lastSeenMs : Int := 0
  lastPortScanAlertMs : Option Int := none
  lastSynFloodAlertMs : Option Int := none

/-- Integer division truncates, as in C++. -/
def timevalToMs (tv : Timeval) : Int := tv.tvSec * 1000 + tv.tvUsec.tdiv 1000

namespace ParsedPacket

def nowMs (packet : ParsedPacket) : Int := timevalToMs packet.timestamp

def isSyn (packet : ParsedPacket) : Bool := packet.tcpFlags &&& tcpFlagSyn != 0

def isAck (packet : ParsedPacket) : Bool := packet.tcpFlags &&& tcpFlagAck != 0

def flowKey (packet : ParsedPacket) : FlowKey :=
  ⟨packet.srcIp, packet.dstIp, packet.srcPort, packet.dstPort⟩

def isConnectionAttempt (packet : ParsedPacket) : Bool :=
  match packet.transport with
  | .tcp => packet.isSyn && !packet.isAck
  | .udp => 1024 ≤ packet.srcPort
  | _ => false

end ParsedPacket

def debounceAllows (config : FlowTrackerConfig) (lastAlertMs : Option Int) (nowMs : Int) :
    Bool × Option Int :=
  match lastAlertMs with
  | some last =>
    if nowMs - last < config.alertDebounceMs then (false, some last) else (true, some nowMs)
  | none => (true, some nowMs)

def ruleFires (config : FlowTrackerConfig) (threshold count : Nat) (lastAlertMs : Option Int)
    (nowMs : Int) : Bool × Option Int :=
  if threshold ≤ count then debounceAllows config lastAlertMs nowMs else (false, lastAlertMs)

def expirePorts (cutoff : Int) (recentDstPorts : List (Int × UInt16))
    (portCounts : Tally.Counts UInt16) : List (Int × UInt16) × Tally.Counts UInt16 :=
  SlidingWindow.popExpired cutoff (fun counts entry => Tally.decrement counts entry.2)
    recentDstPorts portCounts

/-- A queued SYN takes its pending entry with it only if that entry is still its own: a newer SYN
    on the same 4-tuple has moved the stamp on. -/
def dropSyn (pendingSyns : AList fun _ : FlowKey => Int) (entry : Int × FlowKey) :
    AList fun _ : FlowKey => Int :=
  if pendingSyns.lookup entry.2 = some entry.1 then pendingSyns.erase entry.2 else pendingSyns

def expireSyns (cutoff : Int) (pendingSynOrder : List (Int × FlowKey))
    (pendingSyns : AList fun _ : FlowKey => Int) :
    List (Int × FlowKey) × AList fun _ : FlowKey => Int :=
  SlidingWindow.popExpired cutoff dropSyn pendingSynOrder pendingSyns

def portScanAlert (config : FlowTrackerConfig) (packet : ParsedPacket) (distinctPorts : Nat) :
    Alert where
  type := .portScan
  srcIp := packet.srcIp
  dstIp := packet.dstIp
  detail := s!"{distinctPorts} distinct ports in {config.portScanWindowMs}ms"

def synFloodAlert (config : FlowTrackerConfig) (packet : ParsedPacket) (pending : Nat) :
    Alert where
  type := .synFlood
  srcIp := packet.srcIp
  detail := s!"{pending} pending SYNs in {config.synFloodWindowMs}ms"

namespace PerIpState

def recordAttempt (config : FlowTrackerConfig) (packet : ParsedPacket) (state : PerIpState) :
    PerIpState :=
  let expired := expirePorts (packet.nowMs - config.portScanWindowMs)
    (state.recentDstPorts ++ [(packet.nowMs, packet.dstPort)])
    (Tally.increment state.portCounts packet.dstPort)
  { state with recentDstPorts := expired.1, portCounts := expired.2 }

def observePortScan (config : FlowTrackerConfig) (packet : ParsedPacket) (state : PerIpState) :
    PerIpState × List Alert :=
  if packet.isConnectionAttempt then
    let state := state.recordAttempt config packet
    let distinctPorts := state.portCounts.keys.length
    let fires := ruleFires config config.portScanDistinctPortThreshold distinctPorts
      state.lastPortScanAlertMs packet.nowMs
    ({ state with lastPortScanAlertMs := fires.2 },
      if fires.1 then [portScanAlert config packet distinctPorts] else [])
  else (state, [])

/-- A SYN opens or refreshes its 4-tuple; any packet with ACK closes it, while the queued order
    entry stays behind. -/
def recordFlags (packet : ParsedPacket) (state : PerIpState) : PerIpState :=
  if packet.isSyn && !packet.isAck then
    { state with
      pendingSyns := state.pendingSyns.insert packet.flowKey packet.nowMs
      pendingSynOrder := state.pendingSynOrder ++ [(packet.nowMs, packet.flowKey)] }
  else if packet.isAck then
    { state with pendingSyns := state.pendingSyns.erase packet.flowKey }
  else state

def recordHandshake (config : FlowTrackerConfig) (packet : ParsedPacket) (state : PerIpState) :
    PerIpState :=
  let state := state.recordFlags packet
  let expired := expireSyns (packet.nowMs - config.synFloodWindowMs) state.pendingSynOrder
    state.pendingSyns
  { state with pendingSynOrder := expired.1, pendingSyns := expired.2 }

def observeSynFlood (config : FlowTrackerConfig) (packet : ParsedPacket) (state : PerIpState) :
    PerIpState × List Alert :=
  if packet.transport = .tcp then
    let state := state.recordHandshake config packet
    let pending := state.pendingSyns.keys.length
    let fires := ruleFires config config.synFloodPendingThreshold pending
      state.lastSynFloodAlertMs packet.nowMs
    ({ state with lastSynFloodAlertMs := fires.2 },
      if fires.1 then [synFloodAlert config packet pending] else [])
  else (state, [])

/-- What `observe` does to the record of the packet's source, up to the sweep. -/
def observe (config : FlowTrackerConfig) (packet : ParsedPacket) (state : PerIpState) :
    PerIpState × List Alert :=
  let seen := { state with lastSeenMs := packet.nowMs }
  let scan := seen.observePortScan config packet
  let flood := scan.1.observeSynFlood config packet
  (flood.1, scan.2 ++ flood.2)

variable (config : FlowTrackerConfig) (packet : ParsedPacket) (state : PerIpState)

theorem observePortScan_alerts : (state.observePortScan config packet).2 = [] ∨
    ∃ distinctPorts, (state.observePortScan config packet).2 =
      [portScanAlert config packet distinctPorts] := by
  unfold observePortScan
  split
  · dsimp only
    split
    · exact .inr ⟨_, rfl⟩
    · exact .inl rfl
  · exact .inl rfl

theorem observeSynFlood_alerts : (state.observeSynFlood config packet).2 = [] ∨
    ∃ pending, (state.observeSynFlood config packet).2 = [synFloodAlert config packet pending] := by
  unfold observeSynFlood
  split
  · dsimp only
    split
    · exact .inr ⟨_, rfl⟩
    · exact .inl rfl
  · exact .inl rfl

theorem observePortScan_type {alert : Alert}
    (raised : alert ∈ (state.observePortScan config packet).2) : alert.type = .portScan := by
  rcases observePortScan_alerts config packet state with none | ⟨distinctPorts, one⟩
  · rw [none] at raised
    cases raised
  · rw [one] at raised
    rw [List.mem_singleton.mp raised]
    rfl

theorem observeSynFlood_type {alert : Alert}
    (raised : alert ∈ (state.observeSynFlood config packet).2) : alert.type = .synFlood := by
  rcases observeSynFlood_alerts config packet state with none | ⟨pending, one⟩
  · rw [none] at raised
    cases raised
  · rw [one] at raised
    rw [List.mem_singleton.mp raised]
    rfl

end PerIpState

end NetSentinel
