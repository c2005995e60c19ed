import NetSentinel.Analysis.Entropy
import NetSentinel.Packet

namespace NetSentinel

/-- What `start` returns. `wait` is given what its output holds before the call and says whether it
    succeeded and what the output holds afterwards. -/
structure PendingEntropy (R : Type*) where
  wait : List R → Bool × List R

structure EntropyBackend (σ R : Type*) where
  start : σ → List QueuedPacket → σ × Option (PendingEntropy R)

def EntropyBackend.compute {σ R : Type*} (backend : EntropyBackend σ R) (state : σ)
    (packets : List QueuedPacket) (entropies : List R) : σ × Bool × List R :=
  match backend.start state packets with
  | (state, some pending) => (state, pending.wait entropies)
  | (state, none) => (state, false, entropies)

def readyEntropy {R : Type*} (values : List R) : PendingEntropy R where
  wait _ := (true, values)

section Cpu

variable {R : Type*} [Arithmetic R]

def cpuEntropies (packets : List QueuedPacket) : List R :=
  packets.map fun packet => shannonEntropy packet.payload

def cpuEntropyBackend : EntropyBackend Unit R where
  start _ packets := ((), some (readyEntropy (cpuEntropies packets)))

theorem cpuEntropyBackend_compute (packets : List QueuedPacket) (entropies : List R) :
    (cpuEntropyBackend.compute () packets entropies).2.2 = cpuEntropies packets := rfl

/-- The ways a call of a backend may go: it fails to start, its `wait` fails and leaves anything in
    its output, it returns a wrong number of results, or it returns what the CPU computes. -/
inductive EntropyAnswer (packets : List QueuedPacket) : Option (PendingEntropy R) → Prop
  | notStarted : EntropyAnswer packets none
  | waitFails (pending : PendingEntropy R) (fails : ∀ entropies, (pending.wait entropies).1 = false) :
      EntropyAnswer packets (some pending)
  | wrongCount (pending : PendingEntropy R)
      (count : ∀ entropies, (pending.wait entropies).1 = true ∧
        (pending.wait entropies).2.length ≠ packets.length) :
      EntropyAnswer packets (some pending)
  | computed (pending : PendingEntropy R)
      (agrees : ∀ entropies, pending.wait entropies = (true, cpuEntropies packets)) :
      EntropyAnswer packets (some pending)

def EntropyBackend.FailsOrAgrees {σ : Type*} (backend : EntropyBackend σ R) : Prop :=
  ∀ state packets, EntropyAnswer packets (backend.start state packets).2

theorem cpuEntropyBackend_failsOrAgrees :
    (cpuEntropyBackend : EntropyBackend Unit R).FailsOrAgrees :=
  fun _ _ => .computed _ fun _ => rfl

end Cpu

end NetSentinel
