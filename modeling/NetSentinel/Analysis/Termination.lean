import NetSentinel.Analysis.Linearized
import NetSentinel.FlowTracker.Debounce

namespace NetSentinel

variable {R : Type} [Arithmetic R]

theorem PerIpState.observe_length (config : FlowTrackerConfig) (packet : ParsedPacket)
    (state : PerIpState) : (state.observe config packet).2.length ≤ 2 := by
  rw [observe_eq]
  dsimp only
  rcases observePortScan_alerts config packet state with scan | ⟨ports, scan⟩ <;>
    rcases observeSynFlood_alerts config packet state with flood | ⟨pending, flood⟩ <;>
      simp [scan, flood]

theorem FlowTracker.observe_length (hash : UInt32 → Nat) (tracker : FlowTracker)
    (call : ObserveCall) : (tracker.observe hash call).2.length ≤ 2 := by
  unfold observe
  dsimp only
  split
  · exact PerIpState.observe_length _ _ _
  · exact Nat.zero_le 2

theorem signatureAlerts_length (signatures : SignatureDatabase) (packet : QueuedPacket) :
    (signatureAlerts signatures packet).length ≤ 1 := by
  unfold signatureAlerts
  split
  · exact le_rfl
  · exact Nat.zero_le 1

theorem entropyAlertsFor_length (config : AnalysisConfig R) (packet : QueuedPacket) (entropy : R) :
    (entropyAlertsFor config packet entropy).length ≤ 1 := by
  unfold entropyAlertsFor
  split
  · exact le_rfl
  · exact Nat.zero_le 1

/-- What is left of a call of `analyze_batch`, where an alert counts for six. -/
def AnalyzePc.left : AnalyzePc R → Nat
  | .outside => 0
  | .packets eligible _ rest => 20 * rest.length + 6 * eligible.length + 2
  | .observing eligible _ _ rest => 20 * rest.length + 6 * eligible.length + 16
  | .sinking eligible _ alerts rest =>
    20 * rest.length + 6 * alerts.length + 6 * eligible.length + 3
  | .entropies _ _ rest => 6 * rest.length + 1

def AnalyzePc.InRange : AnalyzePc R → Prop
  | .entropies values i rest => i + rest.length = values.length
  | _ => True

theorem waitOrFallBack_length (pending : Option (PendingEntropy R)) (eligible : List QueuedPacket) :
    (waitOrFallBack pending eligible).2.length = eligible.length := by
  have computed (entropies : List R) :
      (cpuEntropyBackend.compute () eligible entropies).2.2.length = eligible.length := by
    rw [cpuEntropyBackend_compute, cpuEntropies, List.length_map]
  unfold waitOrFallBack
  cases pending with
  | none => exact computed []
  | some pending =>
    dsimp only
    split
    · exact computed (pending.wait []).2
    · rename_i right
      exact not_not.mp fun wrong => right (.inr wrong)

namespace AnalysisWorkers

open Family

variable {ω σ : Type} [DecidableEq ω] {hash : UInt32 → Nat} {state after : AnalysisWorkers ω σ R}

/-- What the batches that are handed in bring with them, and one more for each. -/
def costs (batches : List (List QueuedPacket)) : Nat :=
  (batches.map fun batch => 26 * batch.length + 3).sum

theorem Step.spends (step : Step hash state after) : ∃ mover pc batches alerts,
    after.pcs = Function.update state.pcs mover pc ∧ pc ≠ state.pcs mover ∧
      after.batches = state.batches ++ batches ∧ after.sunk = state.sunk ++ alerts ∧
        pc.left + 5 * alerts.length < (state.pcs mover).left + costs batches := by
  have nothing {α : Type} (list : List α) : list = list ++ [] := (List.append_nil list).symm
  cases step with
  | start worker batch eligible started outside filtered starts =>
    refine ⟨worker, _, [batch], [], rfl, by simp [outside], rfl, nothing _, ?_⟩
    have fewer : eligible.length ≤ batch.length := filtered ▸ List.length_filter_le _ _
    simp only [outside, AnalyzePc.left, costs, List.map_singleton, List.sum_singleton,
      List.length_nil]
    omega
  | signature worker eligible pending packet rest due =>
    refine ⟨worker, _, [], _, rfl, by simp [due], nothing _, rfl, ?_⟩
    have few := signatureAlerts_length state.engine.signatures packet
    simp only [due, AnalyzePc.left, List.length_cons]
    omega
  | observe worker eligible pending packet rest order observed due observes =>
    refine ⟨worker, _, [], [], rfl, by simp [due], nothing _, nothing _, ?_⟩
    have few := FlowTracker.observe_length hash state.engine.flowTracker ⟨packet, order⟩
    rw [observes] at few
    simp only [due, AnalyzePc.left, List.length_nil]
    omega
  | sink worker eligible pending alert alerts rest due =>
    refine ⟨worker, _, [], [alert], rfl, by simp [due], nothing _, rfl, ?_⟩
    simp only [due, AnalyzePc.left, List.length_cons, List.length_nil]
    omega
  | nextPacket worker eligible pending rest due =>
    refine ⟨worker, _, [], [], rfl, by simp [due], nothing _, nothing _, ?_⟩
    simp only [due, AnalyzePc.left, List.length_nil]
    omega
  | returnEarly worker pending due =>
    refine ⟨worker, _, [], [], rfl, by simp [due], nothing _, nothing _, ?_⟩
    simp only [due, AnalyzePc.left, List.length_nil]
    omega
  | wait worker eligible pending waited due nonempty waits =>
    refine ⟨worker, _, [], [], rfl, by simp [due], nothing _, nothing _, ?_⟩
    simp only [due, AnalyzePc.left, List.length_nil]
    omega
  | entropy worker values i packet rest entropy due found =>
    refine ⟨worker, _, [], _, rfl, by simp [due], nothing _, rfl, ?_⟩
    have few := entropyAlertsFor_length state.engine.config packet entropy
    simp only [due, AnalyzePc.left, List.length_cons]
    omega
  | done worker values i due =>
    refine ⟨worker, _, [], [], rfl, by simp [due], nothing _, nothing _, ?_⟩
    simp only [due, AnalyzePc.left, List.length_nil]
    omega

theorem Step.inRange (step : Step hash state after)
    (inRange : ∀ worker, (state.pcs worker).InRange) : ∀ worker, (after.pcs worker).InRange := by
  have kept {mover : ω} {pc : AnalyzePc R} (own : pc.InRange) (worker : ω) :
      (Function.update state.pcs mover pc worker).InRange := by
    by_cases same : worker = mover
    · rw [same, Function.update_self]
      exact own
    · rw [Function.update_of_ne same]
      exact inRange worker
  cases step with
  | wait worker eligible pending waited due nonempty waits =>
    refine kept ?_
    rw [← waits]
    exact (Nat.zero_add _).trans (waitOrFallBack_length pending eligible).symm
  | entropy worker values i packet rest entropy due found =>
    have own := inRange worker
    rw [due] at own
    refine kept ?_
    exact (Nat.succ_add_eq_add_succ i rest.length).trans own
  | start => exact kept trivial
  | signature => exact kept trivial
  | observe => exact kept trivial
  | sink => exact kept trivial
  | nextPacket => exact kept trivial
  | returnEarly => exact kept trivial
  | done => exact kept trivial

theorem inRange_of_reachable {config : AnalysisConfig R} {backend : EntropyBackend σ R}
    {backendState : σ} (reachable : (systemWith hash ω config backend backendState).Reachable state) :
    ∀ worker, (state.pcs worker).InRange := by
  refine TransitionSystem.Reachable.invariant
    (P := fun state => ∀ worker, (state.pcs worker).InRange) ?_ ?_ reachable
  · intro first start worker
    rw [show first = _ from start]
    trivial
  · exact fun before after _ step inRange => Step.inRange step inRange

theorem moves (hash : UInt32 → Nat) {worker : ω} (inRange : (state.pcs worker).InRange)
    (inside : state.pcs worker ≠ .outside) : ∃ after alerts, Step hash state after ∧
      (∀ other, other ≠ worker → after.pcs other = state.pcs other) ∧
        after.batches = state.batches ∧ after.sunk = state.sunk ++ alerts ∧ alerts.length ≤ 1 := by
  have others {pc : AnalyzePc R} (other : ω) (apart : other ≠ worker) :
      Function.update state.pcs worker pc other = state.pcs other :=
    Function.update_of_ne apart _ _
  have silent : state.sunk = state.sunk ++ [] := (List.append_nil _).symm
  cases place : state.pcs worker with
  | outside => exact absurd place inside
  | packets eligible pending rest =>
    cases rest with
    | cons packet rest =>
      exact ⟨_, _, .signature worker eligible pending packet rest place, others, rfl, rfl,
        signatureAlerts_length _ _⟩
    | nil =>
      cases eligible with
      | nil => exact ⟨_, [], .returnEarly worker pending place, others, rfl, silent, Nat.zero_le 1⟩
      | cons packet eligible =>
        exact ⟨_, [], .wait worker _ pending _ place (List.cons_ne_nil _ _) rfl, others, rfl, silent,
          Nat.zero_le 1⟩
  | observing eligible pending packet rest =>
    exact ⟨_, [], .observe worker eligible pending packet rest [] _ place rfl, others, rfl, silent,
      Nat.zero_le 1⟩
  | sinking eligible pending alerts rest =>
    cases alerts with
    | nil => exact ⟨_, [], .nextPacket worker eligible pending rest place, others, rfl, silent,
        Nat.zero_le 1⟩
    | cons alert alerts =>
      exact ⟨_, [alert], .sink worker eligible pending alert alerts rest place, others, rfl, rfl,
        le_rfl⟩
  | entropies values i rest =>
    cases rest with
    | nil => exact ⟨_, [], .done worker values i place, others, rfl, silent, Nat.zero_le 1⟩
    | cons packet rest =>
      rw [place] at inRange
      have range : i + (packet :: rest).length = values.length := inRange
      rw [List.length_cons] at range
      have found : values[i]? = some values[i] := List.getElem?_eq_getElem (by omega)
      exact ⟨_, _, .entropy worker values i packet rest _ place found, others, rfl, rfl,
        entropyAlertsFor_length _ _ _⟩

end AnalysisWorkers

end NetSentinel
