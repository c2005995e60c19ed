import NetSentinel.Analysis.Workers

namespace NetSentinel

variable {ω σ R : Type} [DecidableEq ω] [Arithmetic R]

def cpuPending (eligible : List QueuedPacket) : Option (PendingEntropy R) :=
  if eligible = [] then none else some (readyEntropy (cpuEntropies eligible))

def AnalyzePc.onCpu : AnalyzePc R → AnalyzePc R
  | .outside => .outside
  | .packets eligible _ rest => .packets eligible (cpuPending eligible) rest
  | .observing eligible _ packet rest => .observing eligible (cpuPending eligible) packet rest
  | .sinking eligible _ alerts rest => .sinking eligible (cpuPending eligible) alerts rest
  | .entropies values i rest => .entropies values i rest

def AnalysisEngine.onCpu (engine : AnalysisEngine σ R) : AnalysisEngine Unit R where
  config := engine.config
  backend := cpuEntropyBackend
  backendState := ()
  flowTracker := engine.flowTracker
  signatures := engine.signatures

/-- The workers with their backend forgotten: its state, its pending results and its failures. -/
def AnalysisWorkers.onCpu (state : AnalysisWorkers ω σ R) : AnalysisWorkers ω Unit R where
  engine := state.engine.onCpu
  pcs := AnalyzePc.onCpu ∘ state.pcs
  sunk := state.sunk
  batches := state.batches

section Positions

variable {pc : AnalyzePc R} {eligible rest : List QueuedPacket} {pending : Option (PendingEntropy R)}

theorem AnalyzePc.outside_of_onCpu (found : pc.onCpu = .outside) : pc = .outside := by
  cases pc with
  | outside => rfl
  | _ => cases found

theorem AnalyzePc.packets_of_onCpu (found : pc.onCpu = .packets eligible pending rest) :
    (∃ own, pc = .packets eligible own rest) ∧ pending = cpuPending eligible := by
  cases pc with
  | packets =>
    cases found
    exact ⟨⟨_, rfl⟩, rfl⟩
  | _ => cases found

theorem AnalyzePc.observing_of_onCpu {packet : QueuedPacket}
    (found : pc.onCpu = .observing eligible pending packet rest) :
    (∃ own, pc = .observing eligible own packet rest) ∧ pending = cpuPending eligible := by
  cases pc with
  | observing =>
    cases found
    exact ⟨⟨_, rfl⟩, rfl⟩
  | _ => cases found

theorem AnalyzePc.sinking_of_onCpu {alerts : List Alert}
    (found : pc.onCpu = .sinking eligible pending alerts rest) :
    (∃ own, pc = .sinking eligible own alerts rest) ∧ pending = cpuPending eligible := by
  cases pc with
  | sinking =>
    cases found
    exact ⟨⟨_, rfl⟩, rfl⟩
  | _ => cases found

theorem AnalyzePc.entropies_of_onCpu {values : List R} {i : Nat}
    (found : pc.onCpu = .entropies values i rest) : pc = .entropies values i rest := by
  cases pc with
  | entropies =>
    cases found
    rfl
  | _ => cases found

end Positions

theorem AnalysisEngine.onCpu_startEntropy (engine : AnalysisEngine σ R)
    (eligible : List QueuedPacket) : engine.onCpu.startEntropy eligible = ((), cpuPending eligible) := by
  unfold startEntropy cpuPending
  split <;> rfl

theorem waitOrFallBack_cpuPending {eligible : List QueuedPacket} (nonempty : eligible ≠ []) :
    waitOrFallBack (cpuPending eligible : Option (PendingEntropy R)) eligible =
      (false, cpuEntropies eligible) := by
  have length : (cpuEntropies eligible : List R).length = eligible.length := List.length_map _
  rw [cpuPending, if_neg nonempty]
  simp [waitOrFallBack, readyEntropy, length]

namespace AnalysisWorkers

variable {hash : UInt32 → Nat} {state after : AnalysisWorkers ω σ R}

theorem onCpu_moved (engine : AnalysisEngine σ R) (worker : ω) (pc : AnalyzePc R)
    (sunk : List Alert) (batches : List (List QueuedPacket)) :
    (⟨engine, Function.update state.pcs worker pc, sunk, batches⟩ : AnalysisWorkers ω σ R).onCpu =
      ⟨engine.onCpu, Function.update state.onCpu.pcs worker pc.onCpu, sunk, batches⟩ := by
  rw [AnalysisWorkers.onCpu, AnalysisWorkers.onCpu, Function.comp_update]

theorem Step.onCpu (step : Step hash state after) (sound : ∀ worker, (state.pcs worker).Sound) :
    Step hash state.onCpu after.onCpu := by
  have at_worker {worker : ω} {pc : AnalyzePc R} (due : state.pcs worker = pc) :
      state.onCpu.pcs worker = pc.onCpu := congrArg AnalyzePc.onCpu due
  cases step with
  | start worker batch eligible started outside filtered starts =>
    have next : Step hash state.onCpu _ := .start worker batch eligible _ (at_worker outside)
      filtered (state.engine.onCpu_startEntropy eligible)
    rw [onCpu_moved]
    exact next
  | signature worker eligible pending packet rest due =>
    have next : Step hash state.onCpu _ := .signature worker _ _ _ _ (at_worker due)
    rw [onCpu_moved]
    exact next
  | observe worker eligible pending packet rest order observed due observes =>
    have next : Step hash state.onCpu _ := .observe worker _ _ _ _ order observed (at_worker due)
      observes
    rw [onCpu_moved]
    exact next
  | sink worker eligible pending alert alerts rest due =>
    have next : Step hash state.onCpu _ := .sink worker _ _ _ _ _ (at_worker due)
    rw [onCpu_moved]
    exact next
  | nextPacket worker eligible pending rest due =>
    have next : Step hash state.onCpu _ := .nextPacket worker _ _ _ (at_worker due)
    rw [onCpu_moved]
    exact next
  | returnEarly worker pending due =>
    have next : Step hash state.onCpu _ := .returnEarly worker _ (at_worker due)
    rw [onCpu_moved]
    exact next
  | wait worker eligible pending waited due nonempty waits =>
    have own := sound worker
    rw [due] at own
    rw [waitOrFallBack_of_answer (own nonempty)] at waits
    have next : Step hash state.onCpu _ := .wait worker _ _ _ (at_worker due) nonempty
      (waitOrFallBack_cpuPending nonempty)
    rw [onCpu_moved, ← waits]
    exact next
  | entropy worker values i packet rest entropy due found =>
    have next : Step hash state.onCpu _ := .entropy worker _ _ _ _ _ (at_worker due) found
    rw [onCpu_moved]
    exact next
  | done worker values i due =>
    have next : Step hash state.onCpu _ := .done worker _ _ (at_worker due)
    rw [onCpu_moved]
    exact next

theorem Step.of_onCpu {cpu : AnalysisWorkers ω Unit R} (step : Step hash state.onCpu cpu)
    (sound : ∀ worker, (state.pcs worker).Sound) :
    ∃ after, Step hash state after ∧ after.onCpu = cpu := by
  cases step with
  | start worker batch eligible started outside filtered starts =>
    rw [AnalysisWorkers.onCpu, AnalysisEngine.onCpu_startEntropy] at starts
    refine ⟨_, .start worker batch eligible _ (AnalyzePc.outside_of_onCpu outside) filtered rfl, ?_⟩
    rw [onCpu_moved, ← starts]
    rfl
  | signature worker eligible pending packet rest due =>
    obtain ⟨⟨own, found⟩, rfl⟩ := AnalyzePc.packets_of_onCpu due
    refine ⟨_, .signature worker _ _ _ _ found, ?_⟩
    rw [onCpu_moved]
    rfl
  | observe worker eligible pending packet rest order observed due observes =>
    obtain ⟨⟨own, found⟩, rfl⟩ := AnalyzePc.observing_of_onCpu due
    refine ⟨_, .observe worker _ _ _ _ order observed found observes, ?_⟩
    rw [onCpu_moved]
    rfl
  | sink worker eligible pending alert alerts rest due =>
    obtain ⟨⟨own, found⟩, rfl⟩ := AnalyzePc.sinking_of_onCpu due
    refine ⟨_, .sink worker _ _ _ _ _ found, ?_⟩
    rw [onCpu_moved]
    rfl
  | nextPacket worker eligible pending rest due =>
    obtain ⟨⟨own, found⟩, rfl⟩ := AnalyzePc.sinking_of_onCpu due
    refine ⟨_, .nextPacket worker _ _ _ found, ?_⟩
    rw [onCpu_moved]
    rfl
  | returnEarly worker pending due =>
    obtain ⟨⟨own, found⟩, rfl⟩ := AnalyzePc.packets_of_onCpu due
    refine ⟨_, .returnEarly worker _ found, ?_⟩
    rw [onCpu_moved]
    rfl
  | wait worker eligible pending waited due nonempty waits =>
    obtain ⟨⟨own, found⟩, rfl⟩ := AnalyzePc.packets_of_onCpu due
    have answer := sound worker
    rw [found] at answer
    rw [waitOrFallBack_cpuPending nonempty] at waits
    refine ⟨_, .wait worker _ _ _ found nonempty (waitOrFallBack_of_answer (answer nonempty)), ?_⟩
    rw [onCpu_moved, ← waits]
    rfl
  | entropy worker values i packet rest entropy due found =>
    refine ⟨_, .entropy worker _ _ _ _ _ (AnalyzePc.entropies_of_onCpu due) found, ?_⟩
    rw [onCpu_moved]
    rfl
  | done worker values i due =>
    refine ⟨_, .done worker _ _ (AnalyzePc.entropies_of_onCpu due), ?_⟩
    rw [onCpu_moved]
    rfl

theorem Step.mover (step : Step hash state after) : ∃ worker pc,
    after.pcs = Function.update state.pcs worker pc ∧ pc.onCpu ≠ (state.pcs worker).onCpu := by
  cases step with
  | start worker batch eligible started outside filtered starts =>
    exact ⟨worker, _, rfl, by rw [outside]; nofun⟩
  | signature worker eligible pending packet rest due => exact ⟨worker, _, rfl, by rw [due]; nofun⟩
  | observe worker eligible pending packet rest order observed due observes =>
    exact ⟨worker, _, rfl, by rw [due]; nofun⟩
  | sink worker eligible pending alert alerts rest due =>
    exact ⟨worker, _, rfl, by rw [due]; simp [AnalyzePc.onCpu]⟩
  | nextPacket worker eligible pending rest due => exact ⟨worker, _, rfl, by rw [due]; nofun⟩
  | returnEarly worker pending due => exact ⟨worker, _, rfl, by rw [due]; nofun⟩
  | wait worker eligible pending waited due nonempty waits =>
    exact ⟨worker, _, rfl, by rw [due]; nofun⟩
  | entropy worker values i packet rest entropy due found =>
    exact ⟨worker, _, rfl, by rw [due]; simp [AnalyzePc.onCpu]⟩
  | done worker values i due => exact ⟨worker, _, rfl, by rw [due]; nofun⟩

end AnalysisWorkers

end NetSentinel
