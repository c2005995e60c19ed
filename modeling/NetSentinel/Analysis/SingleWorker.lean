import NetSentinel.Analysis.Linearized

namespace NetSentinel

open Family

variable {ω σ R : Type} [Arithmetic R] {hash : UInt32 → Nat} {config : AnalysisConfig R}
  {signatures : SignatureDatabase} {tracker : FlowTracker}

def packetsOf (calls : List ObserveCall) : List QueuedPacket := calls.map ObserveCall.packet

theorem packetRules_snoc (calls : List ObserveCall) (call : ObserveCall) :
    packetRules hash signatures tracker (calls ++ [call]) =
      (((packetRules hash signatures tracker calls).1.observe hash call).1,
        (packetRules hash signatures tracker calls).2 ++
          (signatureAlerts signatures call.packet ++
            ((packetRules hash signatures tracker calls).1.observe hash call).2)) := by
  rw [packetRules_append]
  simp [packetRules]

theorem batchesAlerts_snoc (batches : List (List ObserveCall)) (batch : List ObserveCall) :
    batchesAlerts hash config signatures tracker (batches ++ [batch]) =
      batchesAlerts hash config signatures tracker batches ++
        batchAlerts hash config signatures
          (packetRules hash signatures tracker batches.flatten).1 batch := by
  induction batches generalizing tracker with
  | nil => exact List.append_nil _
  | cons head batches ih =>
    rw [List.cons_append, batchesAlerts, ih, batchesAlerts, List.flatten_cons, packetRules_append,
      List.append_assoc]

/-- The worker has made some calls of its batch, and the sink has got the alerts of these calls, of
    the signature rule ahead of a call and of the entropies of which the loop is through. -/
def AnalyzePc.Within (hash : UInt32 → Nat) (config : AnalysisConfig R)
    (signatures : SignatureDatabase) (tracker : FlowTracker) (made : List ObserveCall)
    (batch : List QueuedPacket) (sunk : List Alert) : AnalyzePc R → Prop
  | .outside => False
  | .packets eligible _ rest =>
    eligible = eligiblePackets config batch ∧ batch = packetsOf made ++ rest ∧
      sunk = (packetRules hash signatures tracker made).2
  | .observing eligible _ packet rest =>
    eligible = eligiblePackets config batch ∧ batch = packetsOf made ++ packet :: rest ∧
      sunk = (packetRules hash signatures tracker made).2 ++ signatureAlerts signatures packet
  | .sinking eligible _ alerts rest =>
    eligible = eligiblePackets config batch ∧ batch = packetsOf made ++ rest ∧
      sunk ++ alerts = (packetRules hash signatures tracker made).2
  | .entropies _ _ rest =>
    batch = packetsOf made ∧ ∃ before, eligiblePackets config batch = before ++ rest ∧
      sunk = (packetRules hash signatures tracker made).2 ++ computedAlerts config before

namespace AnalysisWorkers

variable [DecidableEq ω] [Unique ω] {state after : AnalysisWorkers ω σ R} {first : FlowTracker}
  {done : List (List ObserveCall)} {made : List ObserveCall} {batch : List QueuedPacket}
  {sunk : List Alert}

/-- A worker without others has done some batches, from beginning to end. -/
structure Between (hash : UInt32 → Nat) (config : AnalysisConfig R) (first : FlowTracker)
    (done : List (List ObserveCall)) (state : AnalysisWorkers ω σ R) : Prop where
  outside : state.pcs default = .outside
  batches : state.batches = done.map packetsOf
  sunk : state.sunk = batchesAlerts hash config SignatureDatabase.new first done
  tracker : state.engine.flowTracker =
    (packetRules hash SignatureDatabase.new first done.flatten).1

structure Inside (hash : UInt32 → Nat) (config : AnalysisConfig R) (first : FlowTracker)
    (done : List (List ObserveCall)) (made : List ObserveCall) (batch : List QueuedPacket)
    (sunk : List Alert) (state : AnalysisWorkers ω σ R) : Prop where
  within : (state.pcs default).Within hash config SignatureDatabase.new
    (packetRules hash SignatureDatabase.new first done.flatten).1 made batch sunk
  batches : state.batches = done.map packetsOf ++ [batch]
  allSunk : state.sunk = batchesAlerts hash config SignatureDatabase.new first done ++ sunk
  tracker : state.engine.flowTracker =
    (packetRules hash SignatureDatabase.new first (done.flatten ++ made)).1

/-- What a step makes of a batch that is on its way: more of it is done, or it is through, with all
    its alerts handed over. -/
inductive Inside.Next (hash : UInt32 → Nat) (config : AnalysisConfig R) (first : FlowTracker)
    (done : List (List ObserveCall)) (made : List ObserveCall) (batch : List QueuedPacket)
    (sunk : List Alert) (after : AnalysisWorkers ω σ R) : Prop
  | further (now : List ObserveCall) (inside : Inside hash config first done now batch sunk after)
  | through (whole : packetsOf made = batch)
      (alerts : sunk = batchAlerts hash config SignatureDatabase.new
        (packetRules hash SignatureDatabase.new first done.flatten).1 made)
      (between : Between hash config first (done ++ [made]) after)

theorem Between.step (between : Between hash config first done state)
    (sameConfig : state.engine.config = config) (step : Step hash state after) :
    ∃ batch, Inside hash config first done [] batch [] after := by
  obtain ⟨outside, batches, sunk, tracker⟩ := between
  have idle (worker : ω) : state.pcs worker = .outside := by
    rw [Unique.eq_default worker]
    exact outside
  cases step with
  | start worker batch eligible started outside filtered starts =>
    refine ⟨batch, ?_, ?_, ?_, ?_⟩
    · dsimp only
      rw [update_default]
      exact ⟨by rw [← filtered, sameConfig], rfl, rfl⟩
    · rw [← batches]
    · rw [List.append_nil]
      exact sunk
    · rw [List.append_nil]
      exact tracker
  | signature worker eligible pending packet rest due => cases (idle worker).symm.trans due
  | observe worker eligible pending packet rest order observed due observes =>
    cases (idle worker).symm.trans due
  | sink worker eligible pending alert alerts rest due => cases (idle worker).symm.trans due
  | nextPacket worker eligible pending rest due => cases (idle worker).symm.trans due
  | returnEarly worker pending due => cases (idle worker).symm.trans due
  | wait worker eligible pending waited due nonempty waits => cases (idle worker).symm.trans due
  | entropy worker values i packet rest entropy due found => cases (idle worker).symm.trans due
  | done worker values i due => cases (idle worker).symm.trans due

omit [DecidableEq ω] in
theorem Inside.at_mover (inside : Inside hash config first done made batch sunk state) {worker : ω}
    {pc : AnalyzePc R} (due : state.pcs worker = pc) :
    pc.Within hash config SignatureDatabase.new
      (packetRules hash SignatureDatabase.new first done.flatten).1 made batch sunk := by
  rw [← at_default due]
  exact inside.within

theorem Inside.further (inside : Inside hash config first done made batch sunk state)
    (now : List ObserveCall) {worker : ω} {pc : AnalyzePc R} {engine : AnalysisEngine σ R}
    {more all : List Alert} (told : all = state.sunk ++ more)
    (within : pc.Within hash config SignatureDatabase.new
      (packetRules hash SignatureDatabase.new first done.flatten).1 now batch (sunk ++ more))
    (tracker : engine.flowTracker =
      (packetRules hash SignatureDatabase.new first (done.flatten ++ now)).1) :
    ∃ alerts, all = state.sunk ++ alerts ∧
      Inside.Next hash config first done made batch (sunk ++ alerts)
        { state with engine, pcs := Function.update state.pcs worker pc, sunk := all } := by
  refine ⟨more, told, .further now ⟨?_, inside.batches, ?_, tracker⟩⟩
  · dsimp only
    rw [update_default]
    exact within
  · dsimp only
    rw [told, inside.allSunk, List.append_assoc]

theorem Inside.through (inside : Inside hash config first done made batch sunk state) {worker : ω}
    (whole : packetsOf made = batch)
    (alerts : sunk = batchAlerts hash config SignatureDatabase.new
      (packetRules hash SignatureDatabase.new first done.flatten).1 made) :
    ∃ alerts, state.sunk = state.sunk ++ alerts ∧
      Inside.Next hash config first done made batch (sunk ++ alerts)
        { state with pcs := Function.update state.pcs worker .outside } := by
  refine ⟨[], (List.append_nil _).symm, ?_⟩
  rw [List.append_nil]
  refine .through whole alerts ⟨update_default, ?_, ?_, ?_⟩
  · rw [List.map_append, List.map_singleton, whole]
    exact inside.batches
  · rw [batchesAlerts_snoc, ← alerts]
    exact inside.allSunk
  · rw [List.flatten_append, List.flatten_singleton]
    exact inside.tracker

theorem Inside.step (inside : Inside hash config first done made batch sunk state)
    (sameConfig : state.engine.config = config)
    (known : state.engine.signatures = SignatureDatabase.new)
    (sound : ∀ worker, (state.pcs worker).Sound) (step : Step hash state after) :
    ∃ alerts, after.sunk = state.sunk ++ alerts ∧
      Inside.Next hash config first done made batch (sunk ++ alerts) after := by
  have quiet : sunk ++ [] = sunk := List.append_nil _
  have silent : state.sunk = state.sunk ++ [] := (List.append_nil _).symm
  cases step with
  | start worker other eligible started outside filtered starts => exact (inside.at_mover outside).elim
  | signature worker eligible pending packet rest due =>
    obtain ⟨same, split, sunkNow⟩ := inside.at_mover due
    refine inside.further made rfl ⟨same, split, ?_⟩ inside.tracker
    rw [sunkNow, known]
  | observe worker eligible pending packet rest order observed due observes =>
    obtain ⟨same, split, sunkNow⟩ := inside.at_mover due
    rw [inside.tracker, packetRules_append] at observes
    refine inside.further (made ++ [⟨packet, order⟩]) silent ⟨same, ?_, ?_⟩ ?_
    · rw [split, packetsOf, packetsOf, List.map_append, List.append_assoc]
      rfl
    · rw [packetRules_snoc, quiet, sunkNow, ← observes, List.append_assoc]
    · rw [← List.append_assoc, packetRules_snoc, packetRules_append, ← observes]
  | sink worker eligible pending alert alerts rest due =>
    obtain ⟨same, split, sunkNow⟩ := inside.at_mover due
    refine inside.further made rfl ⟨same, split, ?_⟩ inside.tracker
    rw [← sunkNow, List.append_assoc]
    rfl
  | nextPacket worker eligible pending rest due =>
    obtain ⟨same, split, sunkNow⟩ := inside.at_mover due
    exact inside.further made silent ⟨same, split, sunkNow⟩ inside.tracker
  | returnEarly worker pending due =>
    obtain ⟨same, split, sunkNow⟩ := inside.at_mover due
    rw [List.append_nil] at split
    refine inside.through split.symm ?_
    rw [sunkNow, batchAlerts, entropyRule]
    change _ = _ ++ computedAlerts config (eligiblePackets config (packetsOf made))
    rw [← split, ← same]
    exact (List.append_nil _).symm
  | wait worker eligible pending waited due nonempty waits =>
    obtain ⟨same, split, sunkNow⟩ := inside.at_mover due
    refine inside.further made silent ⟨split.trans (List.append_nil _), [], same.symm, ?_⟩ inside.tracker
    rw [quiet, sunkNow]
    exact (List.append_nil _).symm
  | entropy worker values i packet rest entropy due found =>
    obtain ⟨whole, before, split, sunkNow⟩ := inside.at_mover due
    have own := sound worker
    rw [due] at own
    obtain ⟨earlier, computed, length⟩ := own
    have value : entropy = shannonEntropy packet.payload := by
      simpa [computed, ← length, cpuEntropies] using found.symm
    refine inside.further made rfl ⟨whole, before ++ [packet], ?_, ?_⟩ inside.tracker
    · rw [split, List.append_assoc]
      rfl
    · rw [sunkNow, value, sameConfig, computedAlerts, computedAlerts, List.flatMap_append,
        List.flatMap_singleton, List.append_assoc]
  | done worker values i due =>
    obtain ⟨whole, before, split, sunkNow⟩ := inside.at_mover due
    rw [List.append_nil, whole] at split
    refine inside.through whole.symm ?_
    rw [sunkNow, batchAlerts, entropyRule]
    change _ = _ ++ computedAlerts config (eligiblePackets config (packetsOf made))
    rw [split]

end AnalysisWorkers

end NetSentinel
