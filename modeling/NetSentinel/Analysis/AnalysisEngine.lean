import NetSentinel.Analysis.EntropyBackend
import NetSentinel.Analysis.SignatureDb
import NetSentinel.FlowTracker.Tracker

namespace NetSentinel

variable {σ R : Type} [Arithmetic R]

structure AnalysisConfig (R : Type) [Arithmetic R] where
  flow : FlowTrackerConfig := {}
  entropyThreshold : R := ((7 : Nat) : R)
  entropyMinPayloadBytes : Nat := 32

def alertFor (type : AnomalyType) (packet : QueuedPacket) : Alert where
  type
  srcIp := packet.parsed.srcIp
  dstIp := packet.parsed.dstIp
  srcPort := packet.parsed.srcPort
  dstPort := packet.parsed.dstPort

def signatureAlert (packet : QueuedPacket) : Alert :=
  { alertFor .signatureMatch packet with detail := "payload matches a known-bad signature hash" }

/-- The detail is printed into a buffer of 96 characters, the terminator included. -/
def entropyAlert (packet : QueuedPacket) (entropy : R) : Alert :=
  let detail := s!"entropy={Arithmetic.twoDecimals entropy} bits/byte over {packet.payload.length}B"
  { alertFor .highEntropyPayload packet with detail := String.ofList (detail.toList.take 95) }

def signatureAlerts (signatures : SignatureDatabase) (packet : QueuedPacket) : List Alert :=
  if 0 < packet.payload.length ∧ signatures.matchesPayload packet.payload then
    [signatureAlert packet]
  else []

/-- The body of the last loop of `analyze_batch`. -/
def entropyAlertsFor (config : AnalysisConfig R) (packet : QueuedPacket) (entropy : R) :
    List Alert :=
  if Arithmetic.atLeast entropy config.entropyThreshold then [entropyAlert packet entropy] else []

/-- The last loop of `analyze_batch` from index `i` on. Its result is `none` when `entropies[i]` is
    out of range. -/
def entropyAlerts (config : AnalysisConfig R) (entropies : List R) (i : Nat) :
    List QueuedPacket → Option (List Alert)
  | [] => some []
  | packet :: eligible => do
    let entropy ← entropies[i]?
    let alerts ← entropyAlerts config entropies (i + 1) eligible
    return entropyAlertsFor config packet entropy ++ alerts

def eligiblePackets (config : AnalysisConfig R) (batch : List QueuedPacket) : List QueuedPacket :=
  batch.filter fun packet => config.entropyMinPayloadBytes ≤ packet.payload.length

/-- The results of the backend, or those of the CPU where it failed, and whether it did. -/
def waitOrFallBack (pending : Option (PendingEntropy R)) (eligible : List QueuedPacket) :
    Bool × List R :=
  match pending with
  | some pending =>
    let waited := pending.wait []
    if waited.1 = false ∨ waited.2.length ≠ eligible.length then
      (true, (cpuEntropyBackend.compute () eligible waited.2).2.2)
    else (false, waited.2)
  | none => (true, (cpuEntropyBackend.compute () eligible []).2.2)

def packetRules (hash : UInt32 → Nat) (signatures : SignatureDatabase) :
    FlowTracker → List ObserveCall → FlowTracker × List Alert
  | tracker, [] => (tracker, [])
  | tracker, call :: batch =>
    let observed := tracker.observe hash call
    let rest := packetRules hash signatures observed.1 batch
    (rest.1, signatureAlerts signatures call.packet ++ observed.2 ++ rest.2)

structure AnalysisEngine (σ R : Type) [Arithmetic R] where
  config : AnalysisConfig R
  backend : EntropyBackend σ R
  backendState : σ
  fallbacks : UInt64 := 0
  flowTracker : FlowTracker
  signatures : SignatureDatabase

namespace AnalysisEngine

def new (config : AnalysisConfig R) (backend : EntropyBackend σ R) (backendState : σ) :
    AnalysisEngine σ R where
  config
  backend
  backendState
  flowTracker := FlowTracker.new config.flow
  signatures := SignatureDatabase.new

/-- The backend is not called when no payload is long enough. -/
def startEntropy (engine : AnalysisEngine σ R) (eligible : List QueuedPacket) :
    σ × Option (PendingEntropy R) :=
  if eligible = [] then (engine.backendState, none)
  else engine.backend.start engine.backendState eligible

variable (hash : UInt32 → Nat)

/-- The batch, packet by packet with the iteration order a sweep would meet, and the alerts in the
    order in which the sink gets them. -/
def analyzeBatch (engine : AnalysisEngine σ R) (batch : List ObserveCall) :
    Option (AnalysisEngine σ R × List Alert) :=
  let eligible := eligiblePackets engine.config (batch.map ObserveCall.packet)
  let started := engine.startEntropy eligible
  let ruled := packetRules hash engine.signatures engine.flowTracker batch
  let engine := { engine with backendState := started.1, flowTracker := ruled.1 }
  if eligible = [] then some (engine, ruled.2)
  else do
    let waited := waitOrFallBack started.2 eligible
    let alerts ← entropyAlerts engine.config waited.2 0 eligible
    return ({ engine with fallbacks := engine.fallbacks + if waited.1 then 1 else 0 },
      ruled.2 ++ alerts)

def analyzeBatches (engine : AnalysisEngine σ R) :
    List (List ObserveCall) → Option (AnalysisEngine σ R × List Alert)
  | [] => some (engine, [])
  | batch :: batches => do
    let first ← engine.analyzeBatch hash batch
    let rest ← analyzeBatches first.1 batches
    return (rest.1, first.2 ++ rest.2)

end AnalysisEngine

end NetSentinel
