import NetSentinel.Analysis.Batching
import NetSentinel.Library.Family
import NetSentinel.Library.TransitionSystem

namespace NetSentinel

open Family

/-- Where a worker is in `analyze_batch`: outside, at the top of the loop over the packets, between
    the two rules of a packet, handing the alerts of the flow rules to the sink, or in the loop over
    the entropies at index `i`. -/
inductive AnalyzePc (R : Type) where
  | outside
  | packets (eligible : List QueuedPacket) (pending : Option (PendingEntropy R))
      (rest : List QueuedPacket)
  | observing (eligible : List QueuedPacket) (pending : Option (PendingEntropy R))
      (packet : QueuedPacket) (rest : List QueuedPacket)
  | sinking (eligible : List QueuedPacket) (pending : Option (PendingEntropy R))
      (alerts : List Alert) (rest : List QueuedPacket)
  | entropies (values : List R) (i : Nat) (rest : List QueuedPacket)

/-- Workers `ω` around one engine, what the sink has got so far, and the batches handed in. -/
structure AnalysisWorkers (ω σ R : Type) [Arithmetic R] where
  engine : AnalysisEngine σ R
  pcs : ω → AnalyzePc R
  sunk : List Alert := []
  batches : List (List QueuedPacket) := []

namespace AnalysisWorkers

variable {ω σ R : Type} [DecidableEq ω] [Arithmetic R] (hash : UInt32 → Nat)

/-- Each step is one call into what the workers share: the backend, the tracker, the sink or the
    counter of fallbacks. -/
inductive Step : AnalysisWorkers ω σ R → AnalysisWorkers ω σ R → Prop
  | start {state : AnalysisWorkers ω σ R} (worker : ω) (batch eligible : List QueuedPacket)
      (started : σ × Option (PendingEntropy R)) (outside : state.pcs worker = .outside)
      (filtered : eligiblePackets state.engine.config batch = eligible)
      (starts : state.engine.startEntropy eligible = started) :
      Step state
        { state with
          engine := { state.engine with backendState := started.1 }
          pcs := Function.update state.pcs worker (.packets eligible started.2 batch)
          batches := state.batches ++ [batch] }
  | signature {state : AnalysisWorkers ω σ R} (worker : ω) (eligible : List QueuedPacket)
      (pending : Option (PendingEntropy R)) (packet : QueuedPacket) (rest : List QueuedPacket)
      (due : state.pcs worker = .packets eligible pending (packet :: rest)) :
      Step state
        { state with
          pcs := Function.update state.pcs worker (.observing eligible pending packet rest)
          sunk := state.sunk ++ signatureAlerts state.engine.signatures packet }
  | observe {state : AnalysisWorkers ω σ R} (worker : ω) (eligible : List QueuedPacket)
      (pending : Option (PendingEntropy R)) (packet : QueuedPacket) (rest : List QueuedPacket)
      (order : List UInt32) (observed : FlowTracker × List Alert)
      (due : state.pcs worker = .observing eligible pending packet rest)
      (observes : state.engine.flowTracker.observe hash ⟨packet, order⟩ = observed) :
      Step state
        { state with
          engine := { state.engine with flowTracker := observed.1 }
          pcs := Function.update state.pcs worker (.sinking eligible pending observed.2 rest) }
  | sink {state : AnalysisWorkers ω σ R} (worker : ω) (eligible : List QueuedPacket)
      (pending : Option (PendingEntropy R)) (alert : Alert) (alerts : List Alert)
      (rest : List QueuedPacket)
      (due : state.pcs worker = .sinking eligible pending (alert :: alerts) rest) :
      Step state
        { state with
          pcs := Function.update state.pcs worker (.sinking eligible pending alerts rest)
          sunk := state.sunk ++ [alert] }
  | nextPacket {state : AnalysisWorkers ω σ R} (worker : ω) (eligible : List QueuedPacket)
      (pending : Option (PendingEntropy R)) (rest : List QueuedPacket)
      (due : state.pcs worker = .sinking eligible pending [] rest) :
      Step state
        { state with pcs := Function.update state.pcs worker (.packets eligible pending rest) }
  | returnEarly {state : AnalysisWorkers ω σ R} (worker : ω) (pending : Option (PendingEntropy R))
      (due : state.pcs worker = .packets [] pending []) :
      Step state { state with pcs := Function.update state.pcs worker .outside }
  | wait {state : AnalysisWorkers ω σ R} (worker : ω) (eligible : List QueuedPacket)
      (pending : Option (PendingEntropy R)) (waited : Bool × List R)
      (due : state.pcs worker = .packets eligible pending []) (nonempty : eligible ≠ [])
      (waits : waitOrFallBack pending eligible = waited) :
      Step state
        { state with
          engine := { state.engine with
            fallbacks := state.engine.fallbacks + if waited.1 then 1 else 0 }
          pcs := Function.update state.pcs worker (.entropies waited.2 0 eligible) }
  | entropy {state : AnalysisWorkers ω σ R} (worker : ω) (values : List R) (i : Nat)
      (packet : QueuedPacket) (rest : List QueuedPacket) (entropy : R)
      (due : state.pcs worker = .entropies values i (packet :: rest))
      (found : values[i]? = some entropy) :
      Step state
        { state with
          pcs := Function.update state.pcs worker (.entropies values (i + 1) rest)
          sunk := state.sunk ++ entropyAlertsFor state.engine.config packet entropy }
  | done {state : AnalysisWorkers ω σ R} (worker : ω) (values : List R) (i : Nat)
      (due : state.pcs worker = .entropies values i []) :
      Step state { state with pcs := Function.update state.pcs worker .outside }

/-- A step of one worker, the batch it takes up with it, if any, and what it hands to the sink. -/
structure Acts (worker : ω) (state after : AnalysisWorkers ω σ R) (batches : List (List QueuedPacket))
    (alerts : List Alert) : Prop where
  step : Step hash state after
  others : ∀ other, other ≠ worker → after.pcs other = state.pcs other
  batches : after.batches = state.batches ++ batches
  sunk : after.sunk = state.sunk ++ alerts

variable {hash}

theorem Step.acts {worker : ω} {state after : AnalysisWorkers ω σ R} {pc : AnalyzePc R}
    {batches : List (List QueuedPacket)} {alerts : List Alert} (step : Step hash state after)
    (pcs : after.pcs = Function.update state.pcs worker pc)
    (taken : after.batches = state.batches ++ batches) (sunk : after.sunk = state.sunk ++ alerts) :
    Acts hash worker state after batches alerts :=
  ⟨step, fun _ apart => by rw [pcs, Function.update_of_ne apart], taken, sunk⟩

variable (hash)

def system (ω : Type) [DecidableEq ω] (config : AnalysisConfig R) :
    TransitionSystem (AnalysisWorkers ω Unit R) where
  start state := state = ⟨AnalysisEngine.new config cpuEntropyBackend (), fun _ => .outside, [], []⟩
  step := Step hash

end AnalysisWorkers

variable {R : Type} [Arithmetic R]

/-- What a packet raises by itself: the rules that look at nothing but its payload. -/
def packetAlerts (config : AnalysisConfig R) (signatures : SignatureDatabase)
    (packet : QueuedPacket) : List Alert :=
  (if packet.payload ≠ [] ∧ fnv1aHash packet.payload ∈ signatures.knownBadHashes then
    [signatureAlert packet] else []) ++
  if config.entropyMinPayloadBytes ≤ packet.payload.length ∧
      Arithmetic.atLeast (shannonEntropy packet.payload) config.entropyThreshold then
    [entropyAlert packet (shannonEntropy packet.payload : R)] else []

def Alert.stateless (alert : Alert) : Bool :=
  alert.type = .signatureMatch ∨ alert.type = .highEntropyPayload

theorem packetAlerts_eq (config : AnalysisConfig R) (signatures : SignatureDatabase)
    (packet : QueuedPacket) : packetAlerts config signatures packet =
      signatureAlerts signatures packet ++ entropyRule config [packet] := by
  unfold packetAlerts
  congr 1
  · simp only [signatureAlerts, SignatureDatabase.matchesPayload_iff, List.length_pos_iff,
      and_self_left]
  · unfold entropyRule computedAlerts eligiblePackets entropyAlertsFor
    by_cases long : config.entropyMinPayloadBytes ≤ packet.payload.length
    · simp [long]
    · simp [long]

theorem entropyRule_cons (config : AnalysisConfig R) (packet : QueuedPacket)
    (packets : List QueuedPacket) : entropyRule config (packet :: packets) =
      entropyRule config [packet] ++ entropyRule config packets :=
  entropyRule_append config [packet] packets

theorem packetAlerts_multiset (config : AnalysisConfig R) (signatures : SignatureDatabase)
    (packets : List QueuedPacket) :
    (packets.flatMap (packetAlerts config signatures) : Multiset Alert) =
      (packets.flatMap (signatureAlerts signatures) : Multiset Alert) +
        (entropyRule config packets : Multiset Alert) := by
  induction packets with
  | nil => rfl
  | cons packet packets ih =>
    rw [List.flatMap_cons, List.flatMap_cons, entropyRule_cons, packetAlerts_eq]
    simp only [← Multiset.coe_add]
    rw [ih]
    abel

theorem signatureAlerts_stateless (signatures : SignatureDatabase) (packet : QueuedPacket) :
    (signatureAlerts signatures packet).filter Alert.stateless = signatureAlerts signatures packet := by
  refine List.filter_eq_self.mpr fun alert raised => ?_
  simp [Alert.stateless, signatureAlerts_type raised]

theorem entropyAlertsFor_stateless (config : AnalysisConfig R) (packet : QueuedPacket) (entropy : R) :
    (entropyAlertsFor config packet entropy).filter Alert.stateless =
      entropyAlertsFor config packet entropy := by
  refine List.filter_eq_self.mpr fun alert raised => ?_
  simp [Alert.stateless, entropyAlertsFor_type raised]

theorem entropyRule_stateless (config : AnalysisConfig R) (packets : List QueuedPacket) :
    (entropyRule config packets).filter Alert.stateless = entropyRule config packets := by
  refine List.filter_eq_self.mpr fun alert raised => ?_
  simp [Alert.stateless, entropyRule_type raised]

theorem FlowTracker.observe_stateful (hash : UInt32 → Nat) (tracker : FlowTracker)
    (call : ObserveCall) : ∀ alert ∈ (tracker.observe hash call).2, alert.stateless = false := by
  intro alert raised
  rcases tracker.observe_types hash call raised with scan | flood
  · simp [Alert.stateless, scan]
  · simp [Alert.stateless, flood]

theorem packetRules_stateless (hash : UInt32 → Nat) (signatures : SignatureDatabase)
    (tracker : FlowTracker) (batch : List ObserveCall) :
    (packetRules hash signatures tracker batch).2.filter Alert.stateless =
      (batch.map ObserveCall.packet).flatMap (signatureAlerts signatures) := by
  induction batch generalizing tracker with
  | nil => rfl
  | cons call batch ih =>
    have flow : (tracker.observe hash call).2.filter Alert.stateless = [] := by
      refine List.filter_eq_nil_iff.mpr fun alert raised => ?_
      rw [tracker.observe_stateful hash call alert raised]
      exact Bool.false_ne_true
    rw [packetRules]
    dsimp only
    rw [List.filter_append, List.filter_append, signatureAlerts_stateless, flow, ih,
      List.append_nil, List.map_cons, List.flatMap_cons]

theorem batchesAlerts_stateless (hash : UInt32 → Nat) (config : AnalysisConfig R)
    (signatures : SignatureDatabase) (tracker : FlowTracker) (batches : List (List ObserveCall)) :
    ((batchesAlerts hash config signatures tracker batches).filter Alert.stateless).Perm
      ((batches.flatten.map ObserveCall.packet).flatMap (packetAlerts config signatures)) := by
  induction batches generalizing tracker with
  | nil => exact List.Perm.refl _
  | cons batch batches ih =>
    have rest := ih (packetRules hash signatures tracker batch).1
    have first : ((batchAlerts hash config signatures tracker batch).filter Alert.stateless).Perm
        ((batch.map ObserveCall.packet).flatMap (packetAlerts config signatures)) := by
      rw [batchAlerts, List.filter_append, packetRules_stateless, entropyRule_stateless]
      apply Multiset.coe_eq_coe.mp
      rw [packetAlerts_multiset, Multiset.coe_add]
    rw [batchesAlerts, List.filter_append, List.flatten_cons, List.map_append, List.flatMap_append]
    exact first.append rest

def AnalyzePc.owed (config : AnalysisConfig R) (signatures : SignatureDatabase) :
    AnalyzePc R → Multiset Alert
  | .outside => 0
  | .packets eligible _ rest =>
    (rest.flatMap (signatureAlerts signatures) : Multiset Alert) +
      (computedAlerts config eligible : Multiset Alert)
  | .observing eligible _ _ rest =>
    (rest.flatMap (signatureAlerts signatures) : Multiset Alert) +
      (computedAlerts config eligible : Multiset Alert)
  | .sinking eligible _ _ rest =>
    (rest.flatMap (signatureAlerts signatures) : Multiset Alert) +
      (computedAlerts config eligible : Multiset Alert)
  | .entropies _ _ rest => (computedAlerts config rest : Multiset Alert)

/-- What the worker holds is what the CPU computes, and the flow rules raise their own types. -/
def AnalyzePc.Sound : AnalyzePc R → Prop
  | .outside => True
  | .packets eligible pending _ => eligible ≠ [] → EntropyAnswer eligible pending
  | .observing eligible pending _ _ => eligible ≠ [] → EntropyAnswer eligible pending
  | .sinking eligible pending alerts _ =>
    (eligible ≠ [] → EntropyAnswer eligible pending) ∧ ∀ alert ∈ alerts, alert.stateless = false
  | .entropies values i rest => ∃ before, values = before ++ cpuEntropies rest ∧ before.length = i

namespace AnalysisWorkers

variable {ω σ : Type} [DecidableEq ω] {hash : UInt32 → Nat} {state after : AnalysisWorkers ω σ R}

theorem Step.engine_kept (step : Step hash state after) :
    after.engine.config = state.engine.config ∧ after.engine.signatures = state.engine.signatures ∧
      after.engine.backend = state.engine.backend := by
  cases step <;> exact ⟨rfl, rfl, rfl⟩

theorem Step.sound (step : Step hash state after) (behaves : state.engine.backend.FailsOrAgrees)
    (sound : ∀ worker, (state.pcs worker).Sound) (worker : ω) : (after.pcs worker).Sound := by
  have moved : ∀ {mover : ω} {pc : AnalyzePc R}, pc.Sound →
      (Function.update state.pcs mover pc worker).Sound := by
    intro mover pc own
    rcases update_cases (rfl : Function.update state.pcs mover pc worker = _) with
      ⟨-, new⟩ | ⟨-, old⟩
    · rw [← new]
      exact own
    · rw [← old]
      exact sound worker
  cases step with
  | start mover batch eligible started outside filtered starts =>
    refine moved fun nonempty => ?_
    rw [← starts, AnalysisEngine.startEntropy, if_neg nonempty]
    exact behaves _ _
  | signature mover eligible pending packet rest due =>
    have own := sound mover
    rw [due] at own
    exact moved own
  | observe mover eligible pending packet rest order observed due observes =>
    have own := sound mover
    rw [due] at own
    refine moved ⟨own, ?_⟩
    rw [← observes]
    exact state.engine.flowTracker.observe_stateful hash _
  | sink mover eligible pending alert alerts rest due =>
    have own := sound mover
    rw [due] at own
    exact moved ⟨own.1, fun other member => own.2 other (List.mem_cons_of_mem _ member)⟩
  | nextPacket mover eligible pending rest due =>
    have own := sound mover
    rw [due] at own
    exact moved own.1
  | returnEarly mover pending due => exact moved trivial
  | wait mover eligible pending waited due nonempty waits =>
    have own := sound mover
    rw [due] at own
    rw [waitOrFallBack_of_answer (own nonempty)] at waits
    rw [← waits]
    exact moved ⟨[], rfl, rfl⟩
  | entropy mover values i packet rest entropy due found =>
    have own := sound mover
    rw [due] at own
    obtain ⟨before, computed, length⟩ := own
    refine moved ⟨before ++ [shannonEntropy packet.payload], ?_, ?_⟩
    · rw [computed, List.append_assoc]
      rfl
    · rw [List.length_append, length]
      rfl
  | done mover values i due => exact moved trivial

section Sequential

variable (hash) (pcs : ω → AnalyzePc R) (worker : ω)

theorem sink_leads (engine : AnalysisEngine σ R) (eligible : List QueuedPacket)
    (pending : Option (PendingEntropy R)) (rest : List QueuedPacket) (alerts sunk : List Alert) (batches : List (List QueuedPacket)) :
    Relation.ReflTransGen (Step hash)
      ⟨engine, Function.update pcs worker (.sinking eligible pending alerts rest), sunk, batches⟩
      ⟨engine, Function.update pcs worker (.packets eligible pending rest), sunk ++ alerts,
        batches⟩ := by
  induction alerts generalizing sunk with
  | nil =>
    have next : Step hash ⟨engine, Function.update pcs worker (.sinking eligible pending [] rest),
        sunk, batches⟩ _ := .nextPacket worker _ _ _ (Function.update_self worker _ pcs)
    dsimp only at next
    rw [Function.update_idem] at next
    rw [List.append_nil]
    exact .single next
  | cons alert alerts ih =>
    have next : Step hash ⟨engine, Function.update pcs worker
        (.sinking eligible pending (alert :: alerts) rest), sunk, batches⟩ _ :=
      .sink worker _ _ _ _ _ (Function.update_self worker _ pcs)
    dsimp only at next
    rw [Function.update_idem] at next
    have later := ih (sunk ++ [alert])
    rw [List.append_assoc] at later
    exact .head next later

theorem packetRules_leads (engine : AnalysisEngine σ R) (eligible : List QueuedPacket)
    (pending : Option (PendingEntropy R)) (batch : List ObserveCall) (sunk : List Alert)
    (batches : List (List QueuedPacket)) :
    Relation.ReflTransGen (Step hash)
      ⟨engine, Function.update pcs worker
        (.packets eligible pending (batch.map ObserveCall.packet)), sunk, batches⟩
      ⟨{ engine with
          flowTracker := (packetRules hash engine.signatures engine.flowTracker batch).1 },
        Function.update pcs worker (.packets eligible pending []),
        sunk ++ (packetRules hash engine.signatures engine.flowTracker batch).2, batches⟩ := by
  induction batch generalizing engine sunk with
  | nil =>
    rw [packetRules, List.append_nil]
    exact .refl
  | cons call batch ih =>
    have signed : Step hash ⟨engine, Function.update pcs worker (.packets eligible pending
        (call.packet :: batch.map ObserveCall.packet)), sunk, batches⟩ _ :=
      .signature worker _ _ _ _ (Function.update_self worker _ pcs)
    have observed : Step hash ⟨engine, Function.update pcs worker (.observing eligible pending
        call.packet (batch.map ObserveCall.packet)),
        sunk ++ signatureAlerts engine.signatures call.packet, batches⟩ _ :=
      .observe worker _ _ _ _ call.order _ (Function.update_self worker _ pcs) rfl
    dsimp only at signed observed
    rw [Function.update_idem] at signed observed
    have sunken := sink_leads hash pcs worker
      { engine with flowTracker := (engine.flowTracker.observe hash call).1 } eligible pending
      (batch.map ObserveCall.packet) (engine.flowTracker.observe hash call).2
      (sunk ++ signatureAlerts engine.signatures call.packet) batches
    have later := ih { engine with flowTracker := (engine.flowTracker.observe hash call).1 }
      (sunk ++ signatureAlerts engine.signatures call.packet ++
        (engine.flowTracker.observe hash call).2)
    rw [packetRules]
    dsimp only at later ⊢
    rw [← List.append_assoc, ← List.append_assoc]
    exact .head signed (.head observed (sunken.trans later))

theorem entropyAlerts_leads (engine : AnalysisEngine σ R) (values : List R) (i : Nat)
    (rest : List QueuedPacket) (sunk alerts : List Alert) (batches : List (List QueuedPacket))
    (raised : entropyAlerts engine.config values i rest = some alerts) :
    Relation.ReflTransGen (Step hash)
      ⟨engine, Function.update pcs worker (.entropies values i rest), sunk, batches⟩
      ⟨engine, Function.update pcs worker .outside, sunk ++ alerts, batches⟩ := by
  induction rest generalizing i sunk alerts with
  | nil =>
    have next : Step hash ⟨engine, Function.update pcs worker (.entropies values i []), sunk,
        batches⟩ _ := .done worker _ _ (Function.update_self worker _ pcs)
    dsimp only at next
    rw [Function.update_idem] at next
    rw [← Option.some.inj raised, List.append_nil]
    exact .single next
  | cons packet rest ih =>
    obtain ⟨entropy, found, raised⟩ := Option.bind_eq_some_iff.mp raised
    obtain ⟨later, remaining, raised⟩ := Option.bind_eq_some_iff.mp raised
    have next : Step hash ⟨engine, Function.update pcs worker (.entropies values i (packet :: rest)),
        sunk, batches⟩ _ := .entropy worker _ _ _ _ _ (Function.update_self worker _ pcs) found
    dsimp only at next
    rw [Function.update_idem] at next
    rw [← Option.some.inj raised, ← List.append_assoc]
    exact .head next (ih (i + 1) _ later remaining)

theorem analyzeBatch_leads {engine after : AnalysisEngine σ R} {batch : List ObserveCall}
    {alerts : List Alert} (analyzed : engine.analyzeBatch hash batch = some (after, alerts))
    (outside : pcs worker = .outside) (sunk : List Alert) (batches : List (List QueuedPacket)) :
    Relation.ReflTransGen (Step hash) ⟨engine, pcs, sunk, batches⟩
      ⟨after, pcs, sunk ++ alerts, batches ++ [batch.map ObserveCall.packet]⟩ := by
  unfold AnalysisEngine.analyzeBatch at analyzed
  dsimp only at analyzed
  generalize filtered : eligiblePackets engine.config (batch.map ObserveCall.packet) = eligible
    at analyzed
  generalize starts : engine.startEntropy eligible = started at analyzed
  have start : Step hash ⟨engine, pcs, sunk, batches⟩ _ :=
    .start worker (batch.map ObserveCall.packet) eligible started outside filtered starts
  have run := Relation.ReflTransGen.head start (packetRules_leads hash pcs worker _ _ _ batch _ _)
  have back : Function.update pcs worker .outside = pcs := by
    rw [← outside, Function.update_eq_self]
  dsimp only at run
  generalize packetRules hash engine.signatures engine.flowTracker batch = ruled at analyzed run
  split at analyzed
  · rename_i none
    cases analyzed
    have returned : Step hash ⟨{ engine with backendState := started.1, flowTracker := ruled.1 },
        Function.update pcs worker (.packets eligible started.2 []), sunk ++ ruled.2,
        batches ++ [batch.map ObserveCall.packet]⟩ _ :=
      .returnEarly worker started.2 (by rw [none]; exact Function.update_self worker _ pcs)
    dsimp only at returned
    rw [Function.update_idem, back] at returned
    exact run.tail returned
  · rename_i nonempty
    obtain ⟨entropies, raised, result⟩ := Option.bind_eq_some_iff.mp analyzed
    cases result
    have waited : Step hash ⟨{ engine with backendState := started.1, flowTracker := ruled.1 },
        Function.update pcs worker (.packets eligible started.2 []), sunk ++ ruled.2,
        batches ++ [batch.map ObserveCall.packet]⟩ _ :=
      .wait worker eligible started.2 _ (Function.update_self worker _ pcs) nonempty rfl
    dsimp only at waited
    rw [Function.update_idem] at waited
    have finished := entropyAlerts_leads hash pcs worker { engine with
        backendState := started.1, flowTracker := ruled.1
        fallbacks := engine.fallbacks + if (waitOrFallBack started.2 eligible).1 then 1 else 0 }
      _ 0 _ (sunk ++ ruled.2) _ (batches ++ [batch.map ObserveCall.packet]) raised
    rw [back] at finished
    rw [← List.append_assoc]
    exact (run.tail waited).trans finished

end Sequential

def byPayload (state : AnalysisWorkers ω σ R) : Multiset Alert :=
  (state.sunk.filter Alert.stateless : List Alert)

def expected (state : AnalysisWorkers ω σ R) : Multiset Alert :=
  (state.batches.flatten.flatMap
    (packetAlerts state.engine.config state.engine.signatures) : List Alert)

variable [Fintype ω]

def owed (state : AnalysisWorkers ω σ R) : Multiset Alert :=
  ∑ worker, (state.pcs worker).owed state.engine.config state.engine.signatures

theorem owed_moved (state : AnalysisWorkers ω σ R) {worker : ω} {pc : AnalyzePc R}
    {out fresh : Multiset Alert}
    (moved : pc.owed state.engine.config state.engine.signatures + out =
      (state.pcs worker).owed state.engine.config state.engine.signatures + fresh) :
    (∑ other, (Function.update state.pcs worker pc other).owed state.engine.config
      state.engine.signatures) + out = state.owed + fresh := by
  have changed := sum_update (fun pc : AnalyzePc R =>
    pc.owed state.engine.config state.engine.signatures) state.pcs worker pc
  refine add_right_cancel (b := (state.pcs worker).owed state.engine.config
    state.engine.signatures) ?_
  calc _ = ((∑ other, (Function.update state.pcs worker pc other).owed state.engine.config
          state.engine.signatures) + (state.pcs worker).owed state.engine.config
            state.engine.signatures) + out := by abel
    _ = state.owed + (pc.owed state.engine.config state.engine.signatures + out) := by
      rw [changed, add_assoc]
      rfl
    _ = _ := by
      rw [moved]
      abel

theorem Step.accounts (step : Step hash state after)
    (sound : ∀ worker, (state.pcs worker).Sound) :
    ∃ out fresh, after.byPayload = state.byPayload + out ∧
      after.expected = state.expected + fresh ∧ after.owed + out = state.owed + fresh := by
  have sinks : ∀ more : List Alert, ((state.sunk ++ more).filter Alert.stateless : Multiset Alert) =
      state.byPayload + (more.filter Alert.stateless : List Alert) := by
    intro more
    rw [List.filter_append]
    rfl
  -- a worker that goes on without handing anything over owes what it owed before
  have quiet : ∀ {worker : ω} {pc : AnalyzePc R},
      pc.owed state.engine.config state.engine.signatures =
        (state.pcs worker).owed state.engine.config state.engine.signatures →
      ∃ out fresh, state.byPayload = state.byPayload + out ∧
        state.expected = state.expected + fresh ∧
        (∑ other, (Function.update state.pcs worker pc other).owed state.engine.config
          state.engine.signatures) + out = state.owed + fresh := by
    intro worker pc same
    refine ⟨0, 0, (add_zero _).symm, (add_zero _).symm, state.owed_moved ?_⟩
    rw [same]
  cases step with
  | start worker batch eligible started outside filtered starts =>
    refine ⟨0, (batch.flatMap (packetAlerts state.engine.config state.engine.signatures) :
      List Alert), (add_zero _).symm, ?_, state.owed_moved ?_⟩
    · simp [expected]
    · rw [outside, packetAlerts_multiset, entropyRule, filtered]
      simp [AnalyzePc.owed]
  | signature worker eligible pending packet rest due =>
    refine ⟨_, 0, sinks _, (add_zero _).symm, state.owed_moved ?_⟩
    rw [due, signatureAlerts_stateless]
    simp only [AnalyzePc.owed, List.flatMap_cons, ← Multiset.coe_add]
    abel
  | observe worker eligible pending packet rest order observed due observes =>
    apply quiet
    rw [due]
    rfl
  | sink worker eligible pending alert alerts rest due =>
    refine ⟨_, 0, sinks _, (add_zero _).symm, state.owed_moved ?_⟩
    have own := sound worker
    rw [due] at own
    have flow := own.2 alert (List.mem_cons_self ..)
    rw [due, List.filter_singleton, flow]
    rfl
  | nextPacket worker eligible pending rest due =>
    apply quiet
    rw [due]
    rfl
  | returnEarly worker pending due =>
    apply quiet
    rw [due]
    rfl
  | wait worker eligible pending waited due nonempty waits =>
    apply quiet
    rw [due]
    simp [AnalyzePc.owed]
  | entropy worker values i packet rest entropy due found =>
    refine ⟨_, 0, sinks _, (add_zero _).symm, state.owed_moved ?_⟩
    have own := sound worker
    rw [due] at own
    obtain ⟨before, computed, length⟩ := own
    have same : entropy = shannonEntropy packet.payload := by
      simpa [computed, ← length, cpuEntropies] using found.symm
    rw [due, entropyAlertsFor_stateless, same]
    simp only [AnalyzePc.owed, computedAlerts, List.flatMap_cons, ← Multiset.coe_add]
    abel
  | done worker values i due =>
    apply quiet
    rw [due]
    rfl

/-- The invariant of the workers: what reached the sink and what is owed make up what the batches
    raise packet by packet. -/
structure Accounted (config : AnalysisConfig R) (state : AnalysisWorkers ω Unit R) : Prop where
  config : state.engine.config = config
  signatures : state.engine.signatures = SignatureDatabase.new
  behaves : state.engine.backend.FailsOrAgrees
  sound : ∀ worker, (state.pcs worker).Sound
  total : state.byPayload + state.owed = state.expected

theorem Accounted.of_reachable {config : AnalysisConfig R} {state : AnalysisWorkers ω Unit R}
    (reachable : (system hash ω config).Reachable state) : Accounted config state := by
  refine TransitionSystem.Reachable.invariant ?_ ?_ reachable
  · intro first start
    rw [show first = _ from start]
    refine ⟨rfl, rfl, cpuEntropyBackend_failsOrAgrees, fun worker => trivial, ?_⟩
    simp [byPayload, owed, expected, AnalyzePc.owed]
  · intro before after _ step accounted
    have step : Step hash before after := step
    obtain ⟨sameConfig, sameSignatures, sameBackend⟩ := step.engine_kept
    obtain ⟨out, fresh, sunk, expected, owed⟩ := step.accounts accounted.sound
    refine ⟨sameConfig.trans accounted.config, sameSignatures.trans accounted.signatures, ?_,
      step.sound accounted.behaves accounted.sound, ?_⟩
    · rw [sameBackend]
      exact accounted.behaves
    · rw [sunk, expected, add_assoc, add_comm out, owed, ← add_assoc, accounted.total]

/-- Whatever the division into batches and the interleaving, the rules by payload raise what they
    raise packet by packet. -/
theorem scheduling_keeps_payload_verdicts {config : AnalysisConfig R}
    {state : AnalysisWorkers ω Unit R} (reachable : (system hash ω config).Reachable state)
    (finished : ∀ worker, state.pcs worker = .outside) {packets : List QueuedPacket}
    (divided : state.batches.flatten.Perm packets) :
    (state.sunk.filter Alert.stateless).Perm
      (packets.flatMap (packetAlerts config SignatureDatabase.new)) := by
  have accounted := Accounted.of_reachable reachable
  have nothing : state.owed = 0 :=
    sum_of_idle (AnalyzePc.owed state.engine.config state.engine.signatures) finished rfl
  have total := accounted.total
  rw [nothing, add_zero, byPayload, expected, accounted.config, accounted.signatures,
    Multiset.coe_eq_coe] at total
  exact total.trans (divided.flatMap_right _)

/-- Batching and scheduling change no verdict: one worker raises each type of alert in the same
    order for every cut of its packets, any workers in any interleaving raise by payload the same
    alerts, and both times these are what the packets raise one by one. -/
theorem batching_and_scheduling_keep_verdicts (hash : UInt32 → Nat) (config : AnalysisConfig R) :
    (∀ left right : List (List ObserveCall), left.flatten = right.flatten → ∃ one other,
      (AnalysisEngine.new config cpuEntropyBackend ()).analyzeBatches hash left = some one ∧
      (AnalysisEngine.new config cpuEntropyBackend ()).analyzeBatches hash right = some other ∧
      (∀ type, ofType type one.2 = ofType type other.2) ∧
      (one.2.filter Alert.stateless).Perm
        ((left.flatten.map ObserveCall.packet).flatMap
          (packetAlerts config SignatureDatabase.new))) ∧
    ∀ state : AnalysisWorkers ω Unit R, (system hash ω config).Reachable state →
      (∀ worker, state.pcs worker = .outside) → ∀ packets : List QueuedPacket,
        state.batches.flatten.Perm packets → (state.sunk.filter Alert.stateless).Perm
          (packets.flatMap (packetAlerts config SignatureDatabase.new)) := by
  constructor
  · intro left right same
    obtain ⟨one, other, run, rerun, types⟩ := AnalysisEngine.batching_keeps_verdicts hash
      (AnalysisEngine.new config cpuEntropyBackend ()) cpuEntropyBackend_failsOrAgrees same
    obtain ⟨after, alerts, -⟩ := AnalysisEngine.analyzeBatches_eq hash
      (AnalysisEngine.new config cpuEntropyBackend ()) cpuEntropyBackend_failsOrAgrees left
    rw [run, Option.some.injEq] at alerts
    refine ⟨one, other, run, rerun, types, ?_⟩
    rw [alerts]
    exact batchesAlerts_stateless hash config SignatureDatabase.new (FlowTracker.new config.flow) left
  · intro state reachable finished packets divided
    exact scheduling_keeps_payload_verdicts reachable finished divided

def eicarCall : ObserveCall where
  packet := { payload := eicarPayload }

def plainCall : ObserveCall where
  packet := { payload := [0] }

theorem signatureAlerts_eicar (parsed : ParsedPacket) :
    signatureAlerts SignatureDatabase.new ⟨parsed, eicarPayload⟩ =
      [signatureAlert ⟨parsed, eicarPayload⟩] := by
  refine if_pos ⟨?_, eicarPayload_listed⟩
  rw [eicarPayload_length]
  decide

theorem eicarCall_raises (config : AnalysisConfig ℝ) :
    signatureAlert eicarCall.packet ∈ packetAlerts config SignatureDatabase.new eicarCall.packet := by
  rw [packetAlerts_eq, eicarCall, signatureAlerts_eicar]
  exact List.mem_append_left _ (List.mem_singleton_self _)

/-- Two workers that take turns: each is between the rules of its packet while the other moves. -/
theorem turns_reachable : ∃ state : AnalysisWorkers (Fin 2) Unit ℝ,
    (system UInt32.toNat (Fin 2) ({} : AnalysisConfig ℝ)).Reachable state ∧
      (∀ worker, state.pcs worker = .outside) ∧
      state.batches = [[plainCall.packet], [eicarCall.packet]] := by
  have long : eligiblePackets ({} : AnalysisConfig ℝ) [eicarCall.packet] = [eicarCall.packet] := by
    simp [eligiblePackets, eicarCall, eicarPayload_length]
  have first : (system UInt32.toNat (Fin 2) ({} : AnalysisConfig ℝ)).Reachable _ :=
    TransitionSystem.Reachable.first rfl
  have one := first.next (.start 0 [plainCall.packet] [] _ rfl rfl rfl)
  have both := one.next (.start 1 [eicarCall.packet] [eicarCall.packet] _ rfl long rfl)
  have signed := both.next (.signature 1 _ _ eicarCall.packet [] rfl)
  have unsigned := signed.next (.signature 0 _ _ plainCall.packet [] rfl)
  have observed := unsigned.next (.observe 1 _ _ eicarCall.packet [] [] _ rfl rfl)
  have alsoObserved := observed.next (.observe 0 _ _ plainCall.packet [] [] _ rfl rfl)
  have sunken := alsoObserved.next (.nextPacket 0 _ _ [] rfl)
  have waits := sunken.next (.nextPacket 1 _ _ [] rfl)
  have computed := waits.next (.wait 1 [eicarCall.packet] _ _ rfl (List.cons_ne_nil _ _) rfl)
  have early := computed.next (.returnEarly 0 _ rfl)
  have judged := early.next (.entropy 1 _ 0 eicarCall.packet [] _ rfl rfl)
  have finished := judged.next (.done 1 _ 1 rfl)
  refine ⟨_, finished, fun worker => ?_, rfl⟩
  fin_cases worker <;> rfl

theorem eicar_verdict_is_kept : (∃ one other : AnalysisEngine Unit ℝ × List Alert,
    (AnalysisEngine.new {} cpuEntropyBackend ()).analyzeBatches UInt32.toNat
      [[plainCall], [eicarCall]] = some one ∧
    (AnalysisEngine.new {} cpuEntropyBackend ()).analyzeBatches UInt32.toNat
      [[plainCall, eicarCall]] = some other ∧
    (∀ type, ofType type one.2 = ofType type other.2) ∧
    signatureAlert eicarCall.packet ∈ one.2) ∧
    ∃ state : AnalysisWorkers (Fin 2) Unit ℝ,
      (system UInt32.toNat (Fin 2) ({} : AnalysisConfig ℝ)).Reachable state ∧
        state.batches = [[plainCall.packet], [eicarCall.packet]] ∧
        signatureAlert eicarCall.packet ∈ state.sunk := by
  obtain ⟨cuts, schedules⟩ :=
    batching_and_scheduling_keep_verdicts (ω := Fin 2) UInt32.toNat ({} : AnalysisConfig ℝ)
  have raises : signatureAlert eicarCall.packet ∈ [plainCall.packet, eicarCall.packet].flatMap
      (packetAlerts ({} : AnalysisConfig ℝ) SignatureDatabase.new) :=
    List.mem_flatMap.mpr ⟨_, List.mem_cons_of_mem _ (List.mem_singleton_self _), eicarCall_raises {}⟩
  constructor
  · obtain ⟨one, other, run, rerun, types, verdicts⟩ :=
      cuts [[plainCall], [eicarCall]] [[plainCall, eicarCall]] rfl
    exact ⟨one, other, run, rerun, types, List.mem_of_mem_filter (verdicts.mem_iff.mpr raises)⟩
  · obtain ⟨state, reachable, finished, batches⟩ := turns_reachable
    have verdicts := schedules state reachable finished [plainCall.packet, eicarCall.packet]
      (by rw [batches]; exact List.Perm.refl _)
    exact ⟨state, reachable, batches, List.mem_of_mem_filter (verdicts.mem_iff.mpr raises)⟩

end AnalysisWorkers

end NetSentinel
