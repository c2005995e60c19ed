import NetSentinel.Analysis.Workers
import NetSentinel.FlowTracker.Projection

namespace NetSentinel

open Family

variable {R : Type} [Arithmetic R]

namespace AnalyzePc

def ahead : AnalyzePc R → List QueuedPacket
  | .outside => []
  | .packets _ _ rest => rest
  | .observing _ _ packet rest => packet :: rest
  | .sinking _ _ _ rest => rest
  | .entropies _ _ _ => []

def carried : AnalyzePc R → List Alert
  | .sinking _ _ alerts _ => alerts
  | _ => []

end AnalyzePc

namespace AnalysisWorkers

variable {ω σ : Type} [DecidableEq ω]

def systemWith (hash : UInt32 → Nat) (ω : Type) [DecidableEq ω] (config : AnalysisConfig R)
    (backend : EntropyBackend σ R) (backendState : σ) :
    TransitionSystem (AnalysisWorkers ω σ R) where
  start state := state = ⟨AnalysisEngine.new config backend backendState, fun _ => .outside, [], []⟩
  step := Step hash

variable {hash : UInt32 → Nat} {state after : AnalysisWorkers ω σ R} {calls : List ObserveCall}

def flowAlerts (hash : UInt32 → Nat) (config : FlowTrackerConfig) (calls : List ObserveCall) :
    List Alert :=
  (FlowTracker.replay hash config calls).2.flatMap Observation.alerts

theorem flowAlerts_snoc (config : FlowTrackerConfig) (calls : List ObserveCall)
    (call : ObserveCall) : flowAlerts hash config (calls ++ [call]) =
      flowAlerts hash config calls ++
        ((FlowTracker.after hash config calls).observe hash call).2 := by
  rw [flowAlerts, FlowTracker.replay_snoc, List.flatMap_append, List.flatMap_singleton]
  rfl

/-- A worker whose batch is on its way has observed a part of it, in its order. -/
def InOrder (state : AnalysisWorkers ω σ R) (calls : List ObserveCall) (batch : List QueuedPacket) :
    Prop :=
  batch.Sublist (calls.map ObserveCall.packet) ∨
    ∃ worker done, batch = done ++ (state.pcs worker).ahead ∧
      done.Sublist (calls.map ObserveCall.packet)

/-- The calls of the tracker in the order in which they got its locks. -/
structure Linearized [Fintype ω] (hash : UInt32 → Nat) (config : FlowTrackerConfig)
    (state : AnalysisWorkers ω σ R) (calls : List ObserveCall) : Prop where
  tracker : state.engine.flowTracker = FlowTracker.after hash config calls
  alerts : (state.sunk.filter fun alert => !alert.stateless : Multiset Alert) +
    ∑ worker, ((state.pcs worker).carried : Multiset Alert) = (flowAlerts hash config calls : List _)
  packets : (calls.map ObserveCall.packet : Multiset QueuedPacket) +
    ∑ worker, ((state.pcs worker).ahead : Multiset QueuedPacket) = (state.batches.flatten : List _)
  ordered : ∀ batch ∈ state.batches, state.InOrder calls batch

theorem flow_alert_stateful {hash : UInt32 → Nat} {tracker : FlowTracker} {call : ObserveCall}
    {alert : Alert} (raised : alert ∈ (tracker.observe hash call).2) : alert.stateless = false := by
  rcases tracker.observe_types hash call raised with scan | flood
  · simp [Alert.stateless, scan]
  · simp [Alert.stateless, flood]

def Stays (state after : AnalysisWorkers ω σ R) : Prop :=
  ∀ worker eligible pending packet rest,
    state.pcs worker = .observing eligible pending packet rest → after.pcs worker = state.pcs worker

theorem Stays.not_moved (stays : Stays state after) {worker : ω} {pc : AnalyzePc R}
    {eligible rest : List QueuedPacket} {pending : Option (PendingEntropy R)} {packet : QueuedPacket}
    (due : state.pcs worker = .observing eligible pending packet rest)
    (pcs : after.pcs = Function.update state.pcs worker pc) :
    pc = .observing eligible pending packet rest := by
  have still := stays worker _ _ _ _ due
  rw [pcs, Function.update_self, due] at still
  exact still

/-- What a step of a worker is to the tracker and its alerts, by the calls of the tracker. -/
inductive FlowMove (hash : UInt32 → Nat) (state after : AnalysisWorkers ω σ R) :
    List ObserveCall → Prop
  | start (worker : ω) (pc : AnalyzePc R) (batch : List QueuedPacket)
      (pcs : after.pcs = Function.update state.pcs worker pc) (was : state.pcs worker = .outside)
      (carried : pc.carried = []) (ahead : pc.ahead = batch) (sunk : after.sunk = state.sunk)
      (tracker : after.engine.flowTracker = state.engine.flowTracker)
      (batches : after.batches = state.batches ++ [batch]) : FlowMove hash state after []
  | observe (worker : ω) (pc : AnalyzePc R) (call : ObserveCall)
      (pcs : after.pcs = Function.update state.pcs worker pc) (was : (state.pcs worker).carried = [])
      (carried : pc.carried = (state.engine.flowTracker.observe hash call).2)
      (ahead : (state.pcs worker).ahead = call.packet :: pc.ahead) (sunk : after.sunk = state.sunk)
      (tracker : after.engine.flowTracker = (state.engine.flowTracker.observe hash call).1)
      (batches : after.batches = state.batches) : FlowMove hash state after [call]
  | sink (worker : ω) (pc : AnalyzePc R) (alert : Alert)
      (pcs : after.pcs = Function.update state.pcs worker pc)
      (carried : (state.pcs worker).carried = alert :: pc.carried)
      (ahead : pc.ahead = (state.pcs worker).ahead) (sunk : after.sunk = state.sunk ++ [alert])
      (tracker : after.engine.flowTracker = state.engine.flowTracker)
      (batches : after.batches = state.batches) : FlowMove hash state after []
  | other (worker : ω) (pc : AnalyzePc R) (alerts : List Alert)
      (pcs : after.pcs = Function.update state.pcs worker pc)
      (carried : pc.carried = (state.pcs worker).carried)
      (ahead : pc.ahead = (state.pcs worker).ahead) (sunk : after.sunk = state.sunk ++ alerts)
      (stateless : ∀ alert ∈ alerts, alert.stateless)
      (tracker : after.engine.flowTracker = state.engine.flowTracker)
      (batches : after.batches = state.batches) : FlowMove hash state after []

theorem Step.flow (step : Step hash state after) :
    ∃ calls, FlowMove hash state after calls ∧ (Stays state after → calls = []) := by
  have none : ∀ alert ∈ ([] : List Alert), alert.stateless := fun _ member => nomatch member
  cases step with
  | start worker batch eligible started outside filtered starts =>
    exact ⟨[], .start worker _ batch rfl outside rfl rfl rfl rfl rfl, fun _ => rfl⟩
  | signature worker eligible pending packet rest due =>
    refine ⟨[], .other worker _ _ rfl (by simp [due, AnalyzePc.carried])
      (by simp [due, AnalyzePc.ahead]) rfl (fun alert raised => ?_) rfl rfl, fun _ => rfl⟩
    simp [Alert.stateless, signatureAlerts_type raised]
  | observe worker eligible pending packet rest order observed due observes =>
    subst observes
    refine ⟨[⟨packet, order⟩],
      .observe worker _ ⟨packet, order⟩ rfl (by rw [due]; rfl) rfl (by rw [due]; rfl) rfl rfl rfl,
      fun stays => ?_⟩
    cases stays.not_moved due rfl
  | sink worker eligible pending alert alerts rest due =>
    exact ⟨[], .sink worker _ alert rfl (by rw [due]; rfl) (by rw [due]; rfl) rfl rfl rfl, fun _ => rfl⟩
  | nextPacket worker eligible pending rest due =>
    exact ⟨[], .other worker _ [] rfl (by rw [due]; rfl) (by rw [due]; rfl)
      (List.append_nil _).symm none rfl rfl, fun _ => rfl⟩
  | returnEarly worker pending due =>
    exact ⟨[], .other worker _ [] rfl (by rw [due]; rfl) (by rw [due]; rfl)
      (List.append_nil _).symm none rfl rfl, fun _ => rfl⟩
  | wait worker eligible pending waited due nonempty waits =>
    exact ⟨[], .other worker _ [] rfl (by rw [due]; rfl) (by rw [due]; rfl)
      (List.append_nil _).symm none rfl rfl, fun _ => rfl⟩
  | entropy worker values i packet rest entropy due found =>
    refine ⟨[], .other worker _ _ rfl (by rw [due]; rfl) (by rw [due]; rfl) rfl
      (fun alert raised => ?_) rfl rfl, fun _ => rfl⟩
    simp [Alert.stateless, entropyAlertsFor_type raised]
  | done worker values i due =>
    exact ⟨[], .other worker _ [] rfl (by rw [due]; rfl) (by rw [due]; rfl)
      (List.append_nil _).symm none rfl rfl, fun _ => rfl⟩

theorem FlowMove.tracker_kept (move : FlowMove hash state after []) :
    after.engine.flowTracker = state.engine.flowTracker := by
  cases move <;> assumption

theorem flowAlerts_stateful {config : FlowTrackerConfig} {alert : Alert}
    (raised : alert ∈ flowAlerts hash config calls) : alert.stateless = false := by
  induction calls using List.reverseRecOn with
  | nil => cases raised
  | append_singleton calls call ih =>
    rw [flowAlerts_snoc] at raised
    rcases List.mem_append.mp raised with before | now
    · exact ih before
    · exact flow_alert_stateful now

theorem InOrder.kept {batch : List QueuedPacket} (ordered : state.InOrder calls batch)
    {worker : ω} {pc : AnalyzePc R} (pcs : after.pcs = Function.update state.pcs worker pc)
    (ahead : pc.ahead = (state.pcs worker).ahead) : after.InOrder calls batch := by
  refine ordered.imp_right ?_
  rintro ⟨other, done, split, part⟩
  refine ⟨other, done, ?_, part⟩
  rw [split, pcs]
  by_cases same : other = worker
  · subst same
    rw [Function.update_self, ahead]
  · rw [Function.update_of_ne same]

theorem InOrder.started {batch : List QueuedPacket} (ordered : state.InOrder calls batch)
    {worker : ω} {pc : AnalyzePc R} (pcs : after.pcs = Function.update state.pcs worker pc)
    (was : state.pcs worker = .outside) : after.InOrder calls batch := by
  rcases ordered with done | ⟨other, done, split, part⟩
  · exact .inl done
  · by_cases same : other = worker
    · subst same
      rw [was, show (AnalyzePc.outside : AnalyzePc R).ahead = [] from rfl, List.append_nil] at split
      rw [split]
      exact .inl part
    · refine .inr ⟨other, done, ?_, part⟩
      rw [split, pcs, Function.update_of_ne same]

section Run

variable [Fintype ω] {config : FlowTrackerConfig}

theorem Linearized.ordered_step (linearized : Linearized hash config state calls)
    {call : ObserveCall} {worker : ω} {pc : AnalyzePc R}
    (pcs : after.pcs = Function.update state.pcs worker pc)
    (ahead : (state.pcs worker).ahead = call.packet :: pc.ahead) {batch : List QueuedPacket}
    (member : batch ∈ state.batches) : after.InOrder (calls ++ [call]) batch := by
  rw [InOrder, List.map_append]
  rcases linearized.ordered batch member with done | ⟨other, done, split, part⟩
  · exact .inl (done.trans (List.sublist_append_left _ _))
  · by_cases same : other = worker
    · subst same
      refine .inr ⟨other, done ++ [call.packet], ?_, part.append (List.Sublist.refl _)⟩
      rw [split, ahead, pcs, Function.update_self, List.append_assoc]
      rfl
    · refine .inr ⟨other, done, ?_, part.trans (List.sublist_append_left _ _)⟩
      rw [split, pcs, Function.update_of_ne same]

theorem Linearized.move (linearized : Linearized hash config state calls) {more : List ObserveCall}
    (move : FlowMove hash state after more) : Linearized hash config after (calls ++ more) := by
  obtain ⟨tracker, alerts, packets, ordered⟩ := linearized
  have carries (worker : ω) (pc : AnalyzePc R) := sum_update
    (fun pc : AnalyzePc R => (pc.carried : Multiset Alert)) state.pcs worker pc
  have leaves (worker : ω) (pc : AnalyzePc R) := sum_update
    (fun pc : AnalyzePc R => (pc.ahead : Multiset QueuedPacket)) state.pcs worker pc
  have carriesSame {worker : ω} {pc : AnalyzePc R}
      (same : pc.carried = (state.pcs worker).carried) := sum_update_same
    (fun pc : AnalyzePc R => (pc.carried : Multiset Alert)) state.pcs (congrArg _ same)
  have leavesSame {worker : ω} {pc : AnalyzePc R}
      (same : pc.ahead = (state.pcs worker).ahead) := sum_update_same
    (fun pc : AnalyzePc R => (pc.ahead : Multiset QueuedPacket)) state.pcs (congrArg _ same)
  cases move with
  | start worker pc batch pcs was carried ahead sunk same batches =>
    rw [List.append_nil]
    refine ⟨same.trans tracker, ?_, ?_, ?_⟩
    · rw [sunk, pcs, ← alerts, carriesSame (by rw [carried, was]; rfl)]
    · have moved := leaves worker pc
      rw [was, ahead, show (AnalyzePc.outside : AnalyzePc R).ahead = [] from rfl, Multiset.coe_nil,
        add_zero] at moved
      rw [pcs, moved, ← add_assoc, packets, batches, List.flatten_append, List.flatten_singleton,
        Multiset.coe_add]
    · intro other member
      rw [batches] at member
      rcases List.mem_append.mp member with before | now
      · exact (ordered other before).started pcs was
      · rw [List.mem_singleton.mp now]
        exact .inr ⟨worker, [], by rw [pcs, Function.update_self, ahead]; rfl, List.nil_sublist _⟩
  | observe worker pc call pcs was carried ahead sunk moved batches =>
    refine ⟨?_, ?_, ?_, ?_⟩
    · rw [moved, FlowTracker.after_snoc, tracker]
    · have given := carries worker pc
      rw [was, carried, Multiset.coe_nil, add_zero] at given
      rw [sunk, pcs, given, ← add_assoc, alerts, flowAlerts_snoc, ← tracker, Multiset.coe_add]
    · have seen := leaves worker pc
      rw [ahead, ← Multiset.cons_coe, ← Multiset.singleton_add, ← add_assoc] at seen
      rw [batches, ← packets, List.map_append, ← Multiset.coe_add, add_assoc]
      congr 1
      rw [add_comm, pcs]
      exact add_right_cancel seen
    · intro batch member
      rw [batches] at member
      exact Linearized.ordered_step ⟨tracker, alerts, packets, ordered⟩ pcs ahead member
  | sink worker pc alert pcs carried ahead sunk same batches =>
    rw [List.append_nil]
    have given := carries worker pc
    rw [carried, ← Multiset.cons_coe, ← Multiset.singleton_add, ← add_assoc] at given
    have given := add_right_cancel given
    have listed : alert ∈ flowAlerts hash config calls := by
      rw [← Multiset.mem_coe, ← alerts, ← given]
      simp
    have stateful := flowAlerts_stateful listed
    refine ⟨same.trans tracker, ?_, ?_, ?_⟩
    · rw [sunk, List.filter_append, ← Multiset.coe_add, pcs, ← alerts, ← given]
      simp only [List.filter_singleton, stateful, Bool.not_false, cond_true, Multiset.coe_singleton]
      abel
    · rw [batches, pcs, leavesSame ahead]
      exact packets
    · intro batch member
      rw [batches] at member
      exact (ordered batch member).kept pcs ahead
  | other worker pc more pcs carried ahead sunk stateless same batches =>
    rw [List.append_nil]
    refine ⟨same.trans tracker, ?_, ?_, ?_⟩
    · have none : more.filter (fun alert => !alert.stateless) = [] := by
        simpa using stateless
      rw [sunk, List.filter_append, none, List.append_nil, pcs, carriesSame carried]
      exact alerts
    · rw [batches, pcs, leavesSame ahead]
      exact packets
    · intro batch member
      rw [batches] at member
      exact (ordered batch member).kept pcs ahead

/-- What the rules by payload have raised and still owe, for any backend that fails or agrees. -/
structure Reported (config : AnalysisConfig R) (backend : EntropyBackend σ R)
    (state : AnalysisWorkers ω σ R) : Prop where
  config : state.engine.config = config
  signatures : state.engine.signatures = SignatureDatabase.new
  backend : state.engine.backend = backend
  sound : ∀ worker, (state.pcs worker).Sound
  total : state.byPayload + state.owed = state.expected

theorem Reported.of_reachable {config : AnalysisConfig R} {backend : EntropyBackend σ R}
    {backendState : σ} (behaves : backend.FailsOrAgrees)
    (reachable : (systemWith hash ω config backend backendState).Reachable state) :
    Reported config backend state := by
  refine TransitionSystem.Reachable.invariant ?_ ?_ reachable
  · intro first start
    rw [show first = _ from start]
    refine ⟨rfl, rfl, rfl, fun worker => trivial, ?_⟩
    simp [byPayload, owed, expected, AnalyzePc.owed]
  · intro before after _ step reported
    have step : Step hash before after := step
    obtain ⟨sameConfig, sameSignatures, sameBackend⟩ := step.engine_kept
    obtain ⟨out, fresh, sunk, expected, owed⟩ := step.accounts reported.sound
    refine ⟨sameConfig.trans reported.config, sameSignatures.trans reported.signatures,
      sameBackend.trans reported.backend, ?_, ?_⟩
    · exact step.sound (reported.backend.symm ▸ behaves) reported.sound
    · rw [sunk, expected, add_assoc, add_comm out, owed, ← add_assoc, reported.total]

theorem payload_rules_report {config : AnalysisConfig R} {backend : EntropyBackend σ R}
    {backendState : σ} (behaves : backend.FailsOrAgrees)
    (reachable : (systemWith hash ω config backend backendState).Reachable state)
    (finished : ∀ worker, state.pcs worker = .outside) :
    (state.sunk.filter Alert.stateless).Perm
      (state.batches.flatten.flatMap (packetAlerts config SignatureDatabase.new)) := by
  have reported := Reported.of_reachable behaves reachable
  have nothing : state.owed = 0 :=
    sum_of_idle (AnalyzePc.owed state.engine.config state.engine.signatures) finished rfl
  have total := reported.total
  rw [nothing, add_zero, byPayload, expected, reported.config, reported.signatures,
    Multiset.coe_eq_coe] at total
  exact total

theorem Linearized.of_start {config : AnalysisConfig R} {backend : EntropyBackend σ R}
    {backendState : σ} (start : (systemWith hash ω config backend backendState).start state) :
    Linearized hash config.flow state [] := by
  rw [show state = _ from start]
  exact ⟨rfl, by simp [AnalyzePc.carried, flowAlerts, FlowTracker.replay],
    by simp [AnalyzePc.ahead], by simp⟩

omit [DecidableEq ω] in
/-- When the workers are through, they have observed each batch in its order, and the sink has got
    the alerts of one sequential run. -/
theorem Linearized.settled (linearized : Linearized hash config state calls)
    (finished : ∀ worker, state.pcs worker = .outside) :
    (calls.map ObserveCall.packet).Perm state.batches.flatten ∧
      (∀ batch ∈ state.batches, batch.Sublist (calls.map ObserveCall.packet)) ∧
      (state.sunk.filter fun alert => !alert.stateless).Perm (flowAlerts hash config calls) := by
  obtain ⟨-, alerts, packets, ordered⟩ := linearized
  rw [sum_of_idle (fun pc : AnalyzePc R => (pc.carried : Multiset Alert)) finished rfl,
    add_zero] at alerts
  rw [sum_of_idle (fun pc : AnalyzePc R => (pc.ahead : Multiset QueuedPacket)) finished rfl,
    add_zero] at packets
  refine ⟨Multiset.coe_eq_coe.mp packets, fun batch member => ?_, Multiset.coe_eq_coe.mp alerts⟩
  rcases ordered batch member with done | ⟨worker, done, split, part⟩
  · exact done
  · rw [finished worker, show (AnalyzePc.outside : AnalyzePc R).ahead = [] from rfl,
      List.append_nil] at split
    rw [split]
    exact part

end Run

end AnalysisWorkers

end NetSentinel
