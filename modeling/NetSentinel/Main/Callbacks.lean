import NetSentinel.Main.Program
import NetSentinel.Pipeline.Counters

namespace NetSentinel

open Family

namespace CallbackPc

def batch : CallbackPc → Option (List QueuedPacket)
  | .idle => none
  | .tracing batch _ => some batch
  | .analyzing batch => some batch

def inEngine : CallbackPc → Bool
  | .analyzing _ => true
  | _ => false

def analyzed : CallbackPc → Multiset (List QueuedPacket)
  | .analyzing batch => {batch}
  | _ => 0

def called : CallbackPc → Multiset QueuedPacket
  | .idle => 0
  | .tracing batch _ => batch
  | .analyzing batch => batch

def untraced : CallbackPc → Multiset QueuedPacket
  | .tracing _ rest => rest
  | _ => 0

end CallbackPc

theorem WorkerPool.Step.analyzing_stays {π κ σ α : Type*} [DecidableEq π] [DecidableEq κ]
    [DecidableEq σ] {batchSize : Nat} {linger : Bool} {event : QueueThreads.Event π κ σ α}
    {pool after : WorkerPool π κ σ α} (step : Step batchSize linger event pool after)
    (stays : after.analyzed = pool.analyzed) {worker : κ} {ticket : Nat} {batch : List α}
    (analyzing : pool.workers worker = .analyzing ticket batch) :
    after.workers worker = .analyzing ticket batch := by
  cases step with
  | queue event threads outer step => exact analyzing
  | popBatch mover threads loops step => exact update_stays analyzing (by simp [loops])
  | popped mover other taken threads pops step => exact update_stays analyzing (by simp [pops])
  | analyze mover other taken due => simp at stays
  | count mover size due => exact update_stays analyzing (by simp [due])
  | countBatch mover due => exact update_stays analyzing (by simp [due])
  | check mover due => exact update_stays analyzing (by simp [due])

namespace Program

variable {ω σ R : Type} [DecidableEq ω] [Arithmetic R] {hash : UInt32 → Nat}
  {config : ProgramConfig σ R} {program after : Program ω σ R}

/-- A worker is in the callback only with the batch that the pool has given to it, in the engine only
    from there, and prints nothing else. -/
structure Attached (program : Program ω σ R) : Prop where
  holds : ∀ worker batch, (program.callbacks worker).batch = some batch →
    ∃ ticket, program.pipeline.pool.workers worker = .analyzing ticket batch
  outside : ∀ worker, (program.callbacks worker).inEngine = false →
    program.analysis.pcs worker = .outside
  silent : ∀ worker, (program.callbacks worker).batch = none → program.output.idle worker

section Attached

theorem Attached.holds_moved (attached : Attached program) {mover : ω} {pc : CallbackPc}
    (same : pc.batch = (program.callbacks mover).batch) (worker : ω) (batch : List QueuedPacket)
    (found : (Function.update program.callbacks mover pc worker).batch = some batch) :
    ∃ ticket, program.pipeline.pool.workers worker = .analyzing ticket batch := by
  rcases update_seen CallbackPc.batch found with ⟨rfl, new⟩ | ⟨-, old⟩
  · exact attached.holds worker batch (same.symm.trans new)
  · exact attached.holds worker batch old

theorem Attached.outside_moved (attached : Attached program) {mover : ω} {pc : CallbackPc}
    (before : (program.callbacks mover).inEngine = false) (worker : ω)
    (away : (Function.update program.callbacks mover pc worker).inEngine = false) :
    program.analysis.pcs worker = .outside := by
  rcases update_seen CallbackPc.inEngine away with ⟨rfl, -⟩ | ⟨-, old⟩
  · exact attached.outside worker before
  · exact attached.outside worker old

theorem Attached.silent_moved (attached : Attached program) {mover : ω} {pc : CallbackPc}
    (busy : pc.batch ≠ none) (worker : ω)
    (free : (Function.update program.callbacks mover pc worker).batch = none) :
    program.output.idle worker := by
  rcases update_seen CallbackPc.batch free with ⟨-, new⟩ | ⟨-, old⟩
  · exact absurd new busy
  · exact attached.silent worker old

theorem Attached.acts (attached : Attached program) {mover : ω}
    {analysis : AnalysisWorkers ω σ R} {batches : List (List QueuedPacket)} {alerts : List Alert}
    (acts : AnalysisWorkers.Acts hash mover program.analysis analysis batches alerts) {worker : ω}
    (apart : worker ≠ mover) (away : (program.callbacks worker).inEngine = false) :
    analysis.pcs worker = .outside :=
  (acts.others worker apart).trans (attached.outside worker away)

theorem Attached.prints (attached : Attached program) {quiet : Bool} {event : Output.Event ω}
    {output : Output ω} (prints : Output.Step quiet event program.output output)
    (busy : ∀ worker, event.caller = some worker → (program.callbacks worker).batch ≠ none)
    (worker : ω) (free : (program.callbacks worker).batch = none) : output.idle worker :=
  prints.idle_kept (attached.silent worker free) fun caller => busy worker caller free

theorem Attached.step (attached : Attached program) (step : Step hash config program after) :
    Attached after := by
  cases step with
  | pipeline pipeline step stays =>
    refine ⟨fun worker batch found => ?_, attached.outside, attached.silent⟩
    obtain ⟨ticket, busy⟩ := attached.holds worker batch found
    rcases step.pool_step with ⟨event, moved⟩ | same
    · exact ⟨ticket, moved.analyzing_stays stays busy⟩
    · exact ⟨ticket, same ▸ busy⟩
  | call mover ticket batch due idle =>
    refine ⟨fun worker other found => ?_, attached.outside_moved (by rw [idle]; rfl),
      attached.silent_moved nofun⟩
    rcases update_seen CallbackPc.batch found with ⟨rfl, new⟩ | ⟨-, old⟩
    · cases new
      exact ⟨ticket, due⟩
    · exact attached.holds worker other old
  | trace mover batch packet rest output due prints =>
    refine ⟨attached.holds_moved (by rw [due]; rfl), attached.outside_moved (by rw [due]; rfl),
      fun worker free => ?_⟩
    rcases update_seen CallbackPc.batch free with ⟨-, new⟩ | ⟨-, old⟩
    · cases new
    · refine attached.prints prints (fun caller same => ?_) worker old
      rw [← Option.some.inj same, due]
      exact nofun
  | analyze mover batch analysis due quiet starts =>
    refine ⟨attached.holds_moved (by rw [due]; rfl), fun worker away => ?_,
      attached.silent_moved nofun⟩
    rcases update_seen CallbackPc.inEngine away with ⟨-, new⟩ | ⟨apart, old⟩
    · cases new
    · exact attached.acts starts apart old
  | act mover batch analysis due quiet acts =>
    refine ⟨attached.holds, fun worker away => attached.acts acts ?_ away, attached.silent⟩
    rintro rfl
    rw [due] at away
    cases away
  | raise mover batch alert analysis output due acts prints =>
    refine ⟨attached.holds, fun worker away => attached.acts acts ?_ away,
      attached.prints prints fun caller same => ?_⟩
    · rintro rfl
      rw [due] at away
      cases away
    · rw [← Option.some.inj same, due]
      exact nofun
  | returns mover ticket batch due busy away quiet =>
    refine ⟨fun worker other found => ?_, fun worker left => ?_, fun worker free => ?_⟩
    · rcases update_seen CallbackPc.batch found with ⟨-, new⟩ | ⟨apart, old⟩
      · cases new
      · dsimp only
        rw [Function.update_of_ne apart]
        exact attached.holds worker other old
    · rcases update_seen CallbackPc.inEngine left with ⟨rfl, -⟩ | ⟨-, old⟩
      · exact away
      · exact attached.outside worker old
    · rcases update_seen CallbackPc.batch free with ⟨rfl, -⟩ | ⟨-, old⟩
      · exact quiet
      · exact attached.silent worker old
  | output output step =>
    exact ⟨attached.holds, attached.outside, attached.prints step fun caller same => nomatch same⟩

theorem Attached.of_reachable (reachable : (system ω hash config).Reachable program) :
    Attached program := by
  refine TransitionSystem.Reachable.invariant ?_ ?_ reachable
  · intro first start
    obtain ⟨pipeline, begins, rfl⟩ := start
    exact ⟨nofun, fun worker away => rfl, fun worker free => ⟨rfl, rfl⟩⟩
  · exact fun before after _ step attached => attached.step step

omit [DecidableEq ω] in
theorem Attached.callbacks_idle (attached : Attached program)
    (exited : ∀ worker, program.pipeline.pool.workers worker = .exited) (worker : ω) :
    program.callbacks worker = .idle := by
  have busy := attached.holds worker
  cases found : program.callbacks worker with
  | idle => rfl
  | tracing batch rest =>
    obtain ⟨ticket, analyzing⟩ := busy batch (by rw [found]; rfl)
    rw [exited worker] at analyzing
    cases analyzing
  | analyzing batch =>
    obtain ⟨ticket, analyzing⟩ := busy batch (by rw [found]; rfl)
    rw [exited worker] at analyzing
    cases analyzing

end Attached

section Handed

variable [Fintype ω]

/-- The batches that the engine has got are those of the calls of the callback, and under `-v` every
    packet of them has been printed or still is to be. -/
structure Handed (config : ProgramConfig σ R) (program : Program ω σ R) : Prop where
  batches : (program.analysis.batches : Multiset (List QueuedPacket)) =
    (program.pipeline.pool.analyzed.map Prod.snd : List (List QueuedPacket)) +
      ∑ worker, (program.callbacks worker).analyzed
  traced : (program.output.traced : Multiset QueuedPacket) +
      ∑ worker, (program.callbacks worker).untraced =
    if config.verbose then
      ((program.pipeline.pool.analyzed.map Prod.snd).flatten : List QueuedPacket) +
        ∑ worker, (program.callbacks worker).called
    else 0

theorem Handed.batches_step (handed : Handed config program) (step : Step hash config program after) :
    (after.analysis.batches : Multiset (List QueuedPacket)) =
      (after.pipeline.pool.analyzed.map Prod.snd : List (List QueuedPacket)) +
        ∑ worker, (after.callbacks worker).analyzed := by
  have batches := handed.batches
  have same {worker : ω} {pc : CallbackPc}
      (kept : pc.analyzed = (program.callbacks worker).analyzed) :=
    sum_update_same CallbackPc.analyzed program.callbacks kept
  cases step with
  | pipeline pipeline step stays =>
    dsimp only
    rw [stays]
    exact batches
  | call worker ticket batch due idle =>
    dsimp only
    rw [same (by rw [idle]; rfl)]
    exact batches
  | trace worker batch packet rest output due prints =>
    dsimp only
    rw [same (by rw [due]; rfl)]
    exact batches
  | analyze worker batch analysis due silent starts =>
    have moved := sum_update CallbackPc.analyzed program.callbacks worker (.analyzing batch)
    rw [due, show (CallbackPc.tracing batch []).analyzed = 0 from rfl, add_zero] at moved
    dsimp only
    rw [starts.batches, ← Multiset.coe_add, batches, moved, add_assoc]
    rfl
  | act worker batch analysis due silent acts =>
    dsimp only
    rw [acts.batches, List.append_nil]
    exact batches
  | raise worker batch alert analysis output due acts prints =>
    dsimp only
    rw [acts.batches, List.append_nil]
    exact batches
  | returns worker ticket batch due busy outside silent =>
    have moved := sum_update CallbackPc.analyzed program.callbacks worker .idle
    rw [due, show CallbackPc.idle.analyzed = 0 from rfl, add_zero] at moved
    dsimp only
    rw [batches, ← moved, List.map_append, ← Multiset.coe_add, add_assoc, add_comm (Finset.sum _ _)]
    rfl
  | output output step => exact batches

theorem Handed.traced_step (handed : Handed config program) (step : Step hash config program after) :
    (after.output.traced : Multiset QueuedPacket) + ∑ worker, (after.callbacks worker).untraced =
      if config.verbose then
        ((after.pipeline.pool.analyzed.map Prod.snd).flatten : List QueuedPacket) +
          ∑ worker, (after.callbacks worker).called
      else 0 := by
  have traced := handed.traced
  have leaves (worker : ω) (pc : CallbackPc) :=
    sum_update CallbackPc.untraced program.callbacks worker pc
  have takes (worker : ω) (pc : CallbackPc) :=
    sum_update CallbackPc.called program.callbacks worker pc
  have untraced {worker : ω} {pc : CallbackPc}
      (kept : pc.untraced = (program.callbacks worker).untraced) :=
    sum_update_same CallbackPc.untraced program.callbacks kept
  have called {worker : ω} {pc : CallbackPc}
      (kept : pc.called = (program.callbacks worker).called) :=
    sum_update_same CallbackPc.called program.callbacks kept
  cases step with
  | pipeline pipeline step stays =>
    dsimp only
    rw [stays]
    exact traced
  | call worker ticket batch due idle =>
    have left := leaves worker (.tracing batch (if config.verbose then batch else []))
    have taken := takes worker (.tracing batch (if config.verbose then batch else []))
    rw [idle, show CallbackPc.idle.untraced = 0 from rfl, add_zero] at left
    rw [idle, show CallbackPc.idle.called = 0 from rfl, add_zero] at taken
    dsimp only
    rw [left, taken, ← add_assoc, traced]
    cases config.verbose with
    | true => exact add_assoc _ _ _
    | false => rfl
  | trace worker batch packet rest output due prints =>
    have left := leaves worker (.tracing batch rest)
    rw [due, show (CallbackPc.tracing batch (packet :: rest)).untraced =
      {packet} + (rest : Multiset QueuedPacket) from rfl, ← add_assoc] at left
    have printed : output.traced = program.output.traced ++ [packet] := by
      cases prints
      rfl
    dsimp only
    rw [printed, called (by rw [due]; rfl), ← traced, ← Multiset.coe_add, add_assoc,
      add_comm (Multiset.ofList [packet])]
    exact congrArg (_ + ·) (add_right_cancel left)
  | analyze worker batch analysis due silent starts =>
    dsimp only
    rw [untraced (by rw [due]; rfl), called (by rw [due]; rfl)]
    exact traced
  | act worker batch analysis due silent acts => exact traced
  | raise worker batch alert analysis output due acts prints =>
    have printed : output.traced = program.output.traced := by
      cases prints
      rfl
    dsimp only
    rw [printed]
    exact traced
  | returns worker ticket batch due busy outside silent =>
    have taken := takes worker .idle
    rw [due, show CallbackPc.idle.called = 0 from rfl, add_zero] at taken
    dsimp only
    rw [untraced (by rw [due]; rfl), traced, ← taken, List.map_append, List.flatten_append,
      ← Multiset.coe_add, add_assoc, add_comm (Finset.sum _ _)]
    simp [CallbackPc.called]
  | output output step =>
    have printed : output.traced = program.output.traced := by
      cases step <;> rfl
    dsimp only
    rw [printed]
    exact traced

theorem Handed.of_reachable (reachable : (system ω hash config).Reachable program) :
    Handed config program := by
  refine TransitionSystem.Reachable.invariant ?_ ?_ reachable
  · intro first start
    obtain ⟨pipeline, begins, rfl⟩ := start
    obtain ⟨-, -, -, pool⟩ := begins
    have nothing : pipeline.pool.analyzed = [] := by
      rw [pool]
    constructor
    · simp [nothing, CallbackPc.analyzed]
    · simp [nothing, CallbackPc.untraced, CallbackPc.called]
  · exact fun before after _ step handed => ⟨handed.batches_step step, handed.traced_step step⟩

end Handed

section Finished

variable [Fintype ω]

structure Finished (config : ProgramConfig σ R) (program : Program ω σ R) : Prop where
  outside : ∀ worker, program.analysis.pcs worker = .outside
  silent : ∀ worker, program.output.idle worker
  batches : program.analysis.batches.Perm
    (program.pipeline.pool.threads.history.removals.map Prod.snd)
  packets : (program.pipeline.pool.threads.history.removals.map Prod.snd).flatten =
    Capture.accepted config.pipeline.parse program.pipeline.capture.frames
  traced : program.output.traced.Perm (if config.verbose then
    Capture.accepted config.pipeline.parse program.pipeline.capture.frames else [])

theorem Finished.of_reachable [Nonempty ω] (reachable : (system ω hash config).Reachable program)
    (finished : program.pipeline.main = .finished) : Finished config program := by
  have runs := pipeline_reachable reachable
  have exited := Pipeline.exited_of_finished runs finished
  have attached := Attached.of_reachable reachable
  have idle := attached.callbacks_idle exited
  obtain ⟨batches, traced⟩ := Handed.of_reachable reachable
  obtain ⟨analyzed, -⟩ := WorkerPool.analyzed_of_exited (Pipeline.pool_reachable runs) exited
  have packets := (FifoHistory.removals_flatten program.pipeline.pool.threads.history).trans
    (Pipeline.taken_of_exited runs (exited (Classical.arbitrary ω)))
  have handed : (program.pipeline.pool.analyzed.map Prod.snd).Perm
      (program.pipeline.pool.threads.history.removals.map Prod.snd) := analyzed.map _
  rw [sum_of_idle CallbackPc.analyzed idle rfl, add_zero] at batches
  rw [sum_of_idle CallbackPc.untraced idle rfl, sum_of_idle CallbackPc.called idle rfl, add_zero,
    add_zero] at traced
  refine ⟨fun worker => attached.outside worker (by rw [idle worker]; rfl),
    fun worker => attached.silent worker (by rw [idle worker]; rfl),
    (Multiset.coe_eq_coe.mp batches).trans handed, packets, ?_⟩
  cases verbose : config.verbose with
  | true =>
    rw [verbose, if_pos rfl] at traced
    rw [if_pos rfl, ← packets]
    exact (Multiset.coe_eq_coe.mp traced).trans handed.flatten
  | false =>
    rw [verbose, if_neg Bool.false_ne_true] at traced
    rw [if_neg Bool.false_ne_true]
    exact Multiset.coe_eq_coe.mp traced

end Finished

end Program

end NetSentinel
