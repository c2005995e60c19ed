import NetSentinel.Queue.Custody
import NetSentinel.Queue.Notifications

namespace NetSentinel

variable {κ α : Type*} {price : List α → Nat} {checking : Nat}

def ShutdownPc.left : ShutdownPc → Nat
  | .outside => 0
  | .entering => 4
  | .notifyingFull => 3
  | .notifyingEmpty => 2
  | .returning => 1

/-- What a worker in `pop_batch` can still do before it is back at the top of its loop, when nothing
    waits any more. `price` is for what a batch goes on to cost, `checking` for an empty one. -/
def PopPc.left (price : List α → Nat) (checking : Nat) : PopPc α → Nat
  | .outside => 0
  | .entering _ _ => 6
  | .firstWait _ _ parked => 6 + parked.toNat
  | .lingerWait _ parked => 6 + parked.toNat
  | .notifying _ batch notFull notEmpty =>
    notFull.toNat + notEmpty.toNat + 1 + if batch.isEmpty then checking else price batch

def WorkerPc.left (price : List α → Nat) (checking : Nat) (pops : PopPc α) : WorkerPc α → Nat
  | .looping => 8
  | .popping => pops.left price checking
  | .analyzing _ batch => price batch
  | .counting _ => 10
  | .countingBatch => 9
  | .checking => checking
  | .exited => 0

theorem PopPc.left_wake (price : List α → Nat) (checking : Nat) (pc : PopPc α) :
    pc.wake.left price checking ≤ pc.left price checking := by
  cases pc <;> simp [PopPc.wake, PopPc.left]

theorem PopPc.left_wake_lt (price : List α → Nat) (checking : Nat) {pc : PopPc α}
    (parked : pc.parked) : pc.wake.left price checking < pc.left price checking := by
  cases pc with
  | firstWait maxN linger asleep =>
    rw [show asleep = true from parked]
    exact Nat.lt_succ_self 6
  | lingerWait maxN asleep =>
    rw [show asleep = true from parked]
    exact Nat.lt_succ_self 6
  | _ => cases parked

theorem PopPc.left_mono (price : List α → Nat) {checking less : Nat} (fewer : less ≤ checking)
    (pc : PopPc α) : pc.left price less ≤ pc.left price checking := by
  cases pc with
  | notifying ticket batch notFull notEmpty =>
    simp only [PopPc.left]
    split <;> omega
  | _ => exact le_rfl

theorem PopPc.left_notifying (price : List α → Nat) (checking ticket : Nat) (batch : List α)
    (notFull notEmpty : Bool) : (PopPc.notifying ticket batch notFull notEmpty).left price checking ≤
      3 + if batch.isEmpty then checking else price batch := by
  have full := notFull.toNat_le
  have empty := notEmpty.toNat_le
  simp only [PopPc.left]
  omega

theorem WorkerPc.left_mono (price : List α → Nat) {checking less : Nat} (fewer : less ≤ checking)
    {pops later : PopPc α} (gone : later.left price less ≤ pops.left price checking)
    (pc : WorkerPc α) : pc.left price less later ≤ pc.left price checking pops := by
  cases pc with
  | popping => exact gone
  | checking => exact fewer
  | _ => exact le_rfl

def PopPc.inside : PopPc α → Bool
  | .outside => false
  | _ => true

@[simp] theorem PopPc.inside_wake (pc : PopPc α) : pc.wake.inside = pc.inside := by
  cases pc <;> rfl

theorem PopPc.inside_of_run {queue next : PacketQueue α} {ticket maxN : Nat} {timedOut : Bool}
    {pc after : PopPc α} (runs : queue.run ticket timedOut pc = some (maxN, next, after)) :
    after.inside := by
  obtain ⟨wanted, outcome, -⟩ := PacketQueue.run_outcome runs
  cases outcome <;> rfl

theorem PopPc.left_of_run {queue next : PacketQueue α} {ticket maxN : Nat} {timedOut : Bool}
    {pc after : PopPc α} (runs : queue.run ticket timedOut pc = some (maxN, next, after)) :
    pc.left price checking = 6 := by
  obtain ⟨wanted, -, ⟨⟨linger, rfl⟩, -⟩ | ⟨⟨linger, rfl⟩ | rfl, -⟩⟩ := PacketQueue.run_outcome runs
  · rfl
  · rfl
  · rfl

namespace QueueThreads

open Family

variable {π σ : Type*} [DecidableEq π] [DecidableEq κ] [DecidableEq σ]
  {event : Event π κ σ α} {state after : QueueThreads π κ σ α}

theorem Step.pops_inside (step : Step event state after) {consumer : κ}
    (inside : (state.pops consumer).inside) :
    (after.pops consumer).inside ∨ ∃ ticket batch, event = .popped consumer ticket batch := by
  have moved {mover : κ} {pc : PopPc α} (still : pc.inside) :
      (Function.update state.pops mover pc consumer).inside := by
    by_cases same : consumer = mover
    · rw [same, Function.update_self]
      exact still
    · rwa [Function.update_of_ne same]
  cases step with
  | pushNotify mover call pops due notified =>
    left
    dsimp only
    rw [notified.keeps PopPc.inside_wake]
    exact inside
  | popCall mover maxN linger idle => exact .inl (moved rfl)
  | popRun mover timedOut maxN queue pc runs => exact .inl (moved (PopPc.inside_of_run runs))
  | popWake mover parked =>
    refine .inl (moved ?_)
    rw [PopPc.inside_wake]
    cases position : state.pops mover <;> rw [position] at parked <;> first | rfl | cases parked
  | popNotifyFull mover ticket batch notEmpty due => exact .inl (moved rfl)
  | popNotifyEmpty mover ticket batch pops due notified =>
    left
    dsimp only
    rw [notified.keeps PopPc.inside_wake]
    exact moved rfl
  | popReturn mover ticket batch done =>
    by_cases same : consumer = mover
    · exact .inr ⟨ticket, batch, by rw [same]⟩
    · left
      dsimp only
      rwa [Function.update_of_ne same]
  | shutdownNotifyEmpty mover due =>
    left
    dsimp only
    rw [PopPc.inside_wake]
    exact inside
  | _ => exact .inl inside

end QueueThreads

theorem QueueThreads.NotifyOne.left_le [DecidableEq κ] (price : List α → Nat) (checking : Nat)
    {pops woken : κ → PopPc α} (notified : NotifyOne pops woken) (worker : κ) :
    (woken worker).left price checking ≤ (pops worker).left price checking := by
  cases notified with
  | wakes other parked =>
    by_cases same : worker = other
    · rw [same, Function.update_self]
      exact PopPc.left_wake _ _ _
    · rw [Function.update_of_ne same]
  | nobody => exact le_rfl

namespace WorkerPool

open Family

variable [DecidableEq κ]

/-- A worker that has popped nothing leaves its loop once the queue is finished. -/
def checkingLeft (queue : PacketQueue α) : Nat := if queue.isFinished then 1 else 9

def left (price : List α → Nat) (pool : WorkerPool Unit κ Unit α) (worker : κ) : Nat :=
  (pool.workers worker).left price (checkingLeft pool.threads.queue) (pool.threads.pops worker)

def stored (weight : α → Nat) (pool : WorkerPool Unit κ Unit α) : Nat :=
  (pool.threads.queue.items.map weight).sum + (pool.threads.shutdowns ()).left

/-- A step of one worker that is not in the callback, or one of the call of `shutdown`. -/
inductive Drains (price : List α → Nat) (weight : α → Nat) (pool after : WorkerPool Unit κ Unit α) :
    Prop
  | worker (mover : κ) (free : ∀ ticket batch, pool.workers mover ≠ .analyzing ticket batch)
      (others : ∀ worker, worker ≠ mover → after.left price worker ≤ pool.left price worker)
      (spends : after.left price mover + after.stored weight <
        pool.left price mover + pool.stored weight)
  | closer (all : ∀ worker, after.left price worker ≤ pool.left price worker)
      (spends : after.stored weight < pool.stored weight)

structure Closed (batchSize : Nat) (pool : WorkerPool Unit κ Unit α) : Prop where
  shutdown : pool.threads.queue.shutdown
  quiet : pool.threads.pushes () = .outside
  asked : ∀ worker maxN, (pool.threads.pops worker).maxN = some maxN → maxN = batchSize
  popping : ∀ worker, pool.workers worker ≠ .popping → pool.threads.pops worker = .outside
  busy : ∀ worker, pool.workers worker = .popping → (pool.threads.pops worker).inside

theorem busy_of_popping {capacity batchSize : Nat} {linger : Bool}
    {pool : WorkerPool Unit κ Unit α}
    (reachable : (system Unit κ Unit α capacity batchSize linger).Reachable pool) :
    ∀ worker, pool.workers worker = .popping → (pool.threads.pops worker).inside := by
  refine TransitionSystem.Reachable.invariant (P := fun pool => ∀ worker,
    pool.workers worker = .popping → (pool.threads.pops worker).inside) ?_ ?_ reachable
  · intro first start worker popping
    rw [start.2] at popping
    cases popping
  · intro before after _ moves busy worker popping
    obtain ⟨event, step⟩ := moves
    have other {mover : κ} {pc : WorkerPc α} (elsewhere : pc ≠ .popping)
        (popping : Function.update before.workers mover pc worker = .popping) :
        worker ≠ mover ∧ (before.threads.pops worker).inside := by
      rcases update_cases popping with ⟨-, new⟩ | ⟨apart, old⟩
      · exact absurd new elsewhere
      · exact ⟨apart, busy worker old⟩
    cases step with
    | queue event threads outer step =>
      rcases step.pops_inside (busy worker popping) with still | ⟨ticket, batch, popped⟩
      · exact still
      · rw [popped] at outer
        cases outer
    | popBatch mover threads loops step =>
      cases step with
      | popCall _ _ _ outside =>
        by_cases same : worker = mover
        · subst same
          dsimp only
          rw [Function.update_self]
          rfl
        · dsimp only at popping ⊢
          rw [Function.update_of_ne same] at popping ⊢
          exact busy worker popping
    | popped mover ticket batch threads pops step =>
      obtain ⟨apart, inside⟩ := other (by cases batch <;> simp [WorkerPc.popped]) popping
      rcases step.pops_inside inside with still | ⟨ticket, batch, popped⟩
      · exact still
      · cases popped
        exact absurd rfl apart
    | analyze mover ticket batch due => exact (other (by simp) popping).2
    | count mover size due => exact (other (by simp) popping).2
    | countBatch mover due => exact (other (by simp) popping).2
    | check mover due => exact (other (by split <;> simp) popping).2

section Drains

variable {batchSize : Nat} {linger : Bool} {weight : α → Nat} {pool after : WorkerPool Unit κ Unit α}

theorem checkingLeft_le {queue next : PacketQueue α} (closed : next.shutdown = queue.shutdown)
    {taken : Nat} (items : next.items = queue.items.drop taken) :
    checkingLeft next ≤ checkingLeft queue := by
  unfold checkingLeft
  by_cases done : queue.isFinished
  · have still : next.isFinished := by
      rw [PacketQueue.isFinished, Bool.and_eq_true, List.isEmpty_iff] at done ⊢
      rw [closed, items, done.2, List.drop_nil]
      exact ⟨done.1, rfl⟩
    rw [if_pos done, if_pos still]
  · rw [if_neg done]
    split <;> omega

omit [DecidableEq κ] in
theorem Closed.pop_spends (closed : Closed batchSize pool) (positive : 1 ≤ batchSize)
    (paid : ∀ batch, batch ≠ [] → price batch < (batch.map weight).sum + 3) {mover : κ}
    {timedOut : Bool} {maxN ticket : Nat} {queue : PacketQueue α} {pc : PopPc α}
    (runs : pool.threads.queue.run ticket timedOut (pool.threads.pops mover) =
      some (maxN, queue, pc)) :
    checkingLeft queue ≤ checkingLeft pool.threads.queue ∧
      pc.left price (checkingLeft queue) + (queue.items.map weight).sum <
        6 + (pool.threads.queue.items.map weight).sum := by
  obtain ⟨rest, stillClosed, taken⟩ := QueueThreads.run_after_shutdown closed.shutdown runs
  have size := closed.asked mover maxN (PopPc.maxN_of_run runs)
  have stays : queue.shutdown = pool.threads.queue.shutdown := by
    rw [stillClosed, closed.shutdown]
  refine ⟨checkingLeft_le stays rest, ?_⟩
  rw [taken, rest]
  cases items : pool.threads.queue.items with
  | nil =>
    have finished : queue.isFinished := by
      rw [PacketQueue.isFinished, Bool.and_eq_true, List.isEmpty_iff, rest, items]
      exact ⟨stillClosed, List.drop_nil⟩
    simp [PopPc.left, checkingLeft, finished]
  | cons packet packets =>
    obtain ⟨n, rfl⟩ : ∃ n, maxN = n + 1 := ⟨maxN - 1, by omega⟩
    have worth := paid (packet :: packets.take n) (List.cons_ne_nil _ _)
    have split : ((packet :: packets.take n).map weight).sum + ((packets.drop n).map weight).sum =
        ((packet :: packets).map weight).sum := by
      rw [← List.sum_append, ← List.map_append, List.cons_append, List.take_append_drop]
    refine Nat.lt_of_le_of_lt (Nat.add_le_add_right (PopPc.left_notifying _ _ _ _ _ _) _) ?_
    simp only [List.take_succ_cons, List.drop_succ_cons, List.isEmpty_cons, Bool.false_eq_true,
      if_false]
    omega

omit [DecidableEq κ] in
theorem left_le {worker : κ} (same : after.workers worker = pool.workers worker)
    (fewer : checkingLeft after.threads.queue ≤ checkingLeft pool.threads.queue)
    (gone : (after.threads.pops worker).left price (checkingLeft after.threads.queue) ≤
      (pool.threads.pops worker).left price (checkingLeft pool.threads.queue)) :
    after.left price worker ≤ pool.left price worker := by
  unfold left
  rw [same]
  exact WorkerPc.left_mono price fewer gone _

omit [DecidableEq κ] in
theorem Closed.working (closed : Closed batchSize pool) {worker : κ}
    (inside : (pool.threads.pops worker).inside) : pool.workers worker = .popping := by
  by_contra elsewhere
  rw [closed.popping worker elsewhere] at inside
  cases inside

omit [DecidableEq κ] in
theorem Drains.of_mover {mover : κ} (free : ∀ ticket batch, pool.workers mover ≠ .analyzing ticket batch)
    (workers : ∀ worker, worker ≠ mover → after.workers worker = pool.workers worker)
    (queue : after.threads.queue = pool.threads.queue)
    (shutdowns : after.threads.shutdowns = pool.threads.shutdowns)
    (pops : ∀ worker, worker ≠ mover →
      (after.threads.pops worker).left price (checkingLeft pool.threads.queue) ≤
        (pool.threads.pops worker).left price (checkingLeft pool.threads.queue))
    (spends : after.left price mover < pool.left price mover) : Drains price weight pool after := by
  refine .worker mover free (fun worker apart => ?_) ?_
  · refine left_le (workers worker apart) (by rw [queue]) ?_
    rw [queue]
    exact pops worker apart
  · unfold stored
    rw [queue, shutdowns]
    omega

omit [DecidableEq κ] in
theorem left_of_popping {worker : κ} (popping : pool.workers worker = .popping)
    (threads : QueueThreads Unit κ Unit α) : ({ pool with threads } : WorkerPool _ _ _ _).left price
      worker = (threads.pops worker).left price (checkingLeft threads.queue) := by
  unfold left
  rw [popping]
  rfl

theorem Closed.queue_drains (closed : Closed batchSize pool) (positive : 1 ≤ batchSize)
    (paid : ∀ batch, batch ≠ [] → price batch < (batch.map weight).sum + 3)
    {threads : QueueThreads Unit κ Unit α}
    (step : QueueThreads.Step .inside pool.threads threads) :
    Drains price weight pool { pool with threads } := by
  have quiet := closed.quiet
  have still {mover : κ} {pc : PopPc α} (worker : κ) (apart : worker ≠ mover) :
      (Function.update pool.threads.pops mover pc worker).left price
          (checkingLeft pool.threads.queue) ≤
        (pool.threads.pops worker).left price (checkingLeft pool.threads.queue) := by
    rw [Function.update_of_ne apart]
  have idle {worker : κ} (popping : pool.workers worker = .popping) (ticket : Nat) (batch : List α) :
      pool.workers worker ≠ .analyzing ticket batch := by
    rw [popping]
    exact nofun
  cases step with
  | pushRun producer call packet ready =>
    rw [show pool.threads.pushes producer = _ from quiet] at ready
    cases ready
  | pushWake producer parked =>
    rw [show pool.threads.pushes producer = _ from quiet] at parked
    cases parked
  | pushNotify producer call pops due notified =>
    rw [show pool.threads.pushes producer = _ from quiet] at due
    cases due
  | popRun mover timedOut maxN queue pc runs =>
    have popping : pool.workers mover = .popping := by
      refine closed.working ?_
      cases position : pool.threads.pops mover <;> rw [position] at runs <;> first | rfl | cases runs
    obtain ⟨fewer, spends⟩ := closed.pop_spends positive paid runs
    refine .worker mover (idle popping) (fun worker apart => left_le rfl fewer ?_) ?_
    · dsimp only
      rw [Function.update_of_ne apart]
      exact PopPc.left_mono price fewer _
    · rw [left_of_popping popping, left_of_popping popping pool.threads, PopPc.left_of_run runs]
      dsimp only [stored]
      rw [Function.update_self]
      omega
  | popWake mover parked =>
    have popping : pool.workers mover = .popping := by
      refine closed.working ?_
      cases position : pool.threads.pops mover <;> rw [position] at parked <;>
        first | rfl | cases parked
    refine .of_mover (idle popping) (fun _ _ => rfl) rfl rfl still ?_
    rw [left_of_popping popping, left_of_popping popping pool.threads]
    dsimp only
    rw [Function.update_self]
    exact PopPc.left_wake_lt _ _ parked
  | popNotifyFull mover ticket batch notEmpty due =>
    have popping : pool.workers mover = .popping := closed.working (by rw [due]; rfl)
    refine .of_mover (idle popping) (fun _ _ => rfl) rfl rfl still ?_
    rw [left_of_popping popping, left_of_popping popping pool.threads]
    dsimp only
    rw [Function.update_self, due]
    simp only [PopPc.left, Bool.toNat_true, Bool.toNat_false]
    omega
  | popNotifyEmpty mover ticket batch pops due notified =>
    have popping : pool.workers mover = .popping := closed.working (by rw [due]; rfl)
    have waiting : Function.update pool.threads.pops mover (.notifying ticket batch false false)
        mover = .notifying ticket batch false false := Function.update_self _ _ _
    refine .of_mover (idle popping) (fun _ _ => rfl) rfl rfl (fun worker apart => ?_) ?_
    · exact (notified.left_le price _ worker).trans (still worker apart)
    · rw [left_of_popping popping, left_of_popping popping pool.threads]
      dsimp only
      rw [(notified.awake (by rw [waiting]; rfl)).trans waiting, due]
      simp only [PopPc.left, Bool.toNat_true, Bool.toNat_false]
      omega
  | shutdownRun closer entering =>
    refine .closer (fun worker => ?_) ?_
    · have same : { pool.threads.queue with shutdown := true } = pool.threads.queue := by
        rw [← closed.shutdown]
      exact left_le rfl (by rw [same]) (by dsimp only; rw [same])
    · dsimp only [stored]
      rw [Function.update_self, show pool.threads.shutdowns () = _ from entering]
      exact Nat.add_lt_add_left (by decide) _
  | shutdownNotifyFull closer due =>
    refine .closer (fun worker => le_rfl) ?_
    dsimp only [stored]
    rw [Function.update_self, show pool.threads.shutdowns () = _ from due]
    exact Nat.add_lt_add_left (by decide) _
  | shutdownNotifyEmpty closer due =>
    refine .closer (fun worker => left_le rfl le_rfl (PopPc.left_wake _ _ _)) ?_
    dsimp only [stored]
    rw [Function.update_self, show pool.threads.shutdowns () = _ from due]
    exact Nat.add_lt_add_left (by decide) _

theorem left_popped (ticket : Nat) (batch : List α) (pops : PopPc α) :
    (WorkerPc.popped ticket batch).left price checking pops =
      if batch.isEmpty then checking else price batch := by
  cases batch <;> rfl

theorem left_of_moved {mover : κ} {pc : WorkerPc α}
    (moved : after.workers = Function.update pool.workers mover pc) : after.left price mover =
      pc.left price (checkingLeft after.threads.queue) (after.threads.pops mover) := by
  unfold left
  rw [moved, Function.update_self]

theorem Closed.drains (closed : Closed batchSize pool) (positive : 1 ≤ batchSize)
    (paid : ∀ batch, batch ≠ [] → price batch < (batch.map weight).sum + 3)
    (step : Step batchSize linger .inside pool after) (stays : after.analyzed = pool.analyzed) :
    Drains price weight pool after := by
  have alone {mover : κ} {pc : WorkerPc α} (worker : κ) (apart : worker ≠ mover) :
      Function.update pool.workers mover pc worker = pool.workers worker :=
    Function.update_of_ne apart _ _
  cases step with
  | queue event threads outer step => exact closed.queue_drains positive paid step
  | popBatch mover threads loops step =>
    cases step with
    | popCall _ _ _ outside =>
      refine .of_mover (by simp [loops]) alone rfl rfl (fun worker apart => ?_) ?_
      · dsimp only
        rw [Function.update_of_ne apart]
      · rw [left_of_moved rfl, left, loops]
        simp only [WorkerPc.left, Function.update_self, PopPc.left]
        decide
  | popped mover ticket batch threads pops step =>
    cases step with
    | popReturn _ _ _ done =>
      refine .of_mover (by simp [pops]) alone rfl rfl (fun worker apart => ?_) ?_
      · dsimp only
        rw [Function.update_of_ne apart]
      · rw [left_of_moved rfl, left_popped, left, pops]
        simp only [WorkerPc.left, done, PopPc.left, Bool.toNat_false]
        omega
  | analyze mover ticket batch due => simp at stays
  | count mover size due =>
    refine .of_mover (by simp [due]) alone rfl rfl (fun _ _ => le_rfl) ?_
    rw [left_of_moved rfl, left, due]
    simp only [WorkerPc.left]
    decide
  | countBatch mover due =>
    refine .of_mover (by simp [due]) alone rfl rfl (fun _ _ => le_rfl) ?_
    rw [left_of_moved rfl, left, due]
    simp only [WorkerPc.left]
    decide
  | check mover due =>
    refine .of_mover (by simp [due]) alone rfl rfl (fun _ _ => le_rfl) ?_
    rw [left_of_moved rfl, left, due]
    dsimp only [checkingLeft]
    cases finished : pool.threads.queue.isFinished with
    | true =>
      simp only [if_true, WorkerPc.left]
      decide
    | false =>
      simp only [Bool.false_eq_true, if_false, WorkerPc.left]
      decide

theorem Closed.moves (closed : Closed batchSize pool) (linger : Bool) {worker : κ}
    (running : pool.workers worker ≠ .exited)
    (free : ∀ ticket batch, pool.workers worker ≠ .analyzing ticket batch) :
    ∃ after, Step batchSize linger .inside pool after ∧ after.analyzed = pool.analyzed := by
  have inside {threads : QueueThreads Unit κ Unit α}
      (step : QueueThreads.Step .inside pool.threads threads) :
      ∃ after, Step batchSize linger .inside pool after ∧ after.analyzed = pool.analyzed :=
    ⟨_, .queue .inside threads rfl step, rfl⟩
  have ready {pc : PopPc α} (position : pool.threads.pops worker = pc) {maxN : Nat}
      {queue : PacketQueue α} {next : PopPc α}
      (runs : pool.threads.queue.run pool.threads.history.batches.length false pc =
        some (maxN, queue, next)) :
      ∃ after, Step batchSize linger .inside pool after ∧ after.analyzed = pool.analyzed :=
    inside (.popRun worker false _ _ _ (by rw [position]; exact runs))
  cases place : pool.workers worker with
  | looping =>
    have outside := closed.popping worker (by rw [place]; exact nofun)
    exact ⟨_, .popBatch worker _ place (.popCall worker batchSize linger outside), rfl⟩
  | popping =>
    have busy := closed.busy worker place
    cases position : pool.threads.pops worker with
    | outside =>
      rw [position] at busy
      cases busy
    | entering maxN linger => exact ready position rfl
    | firstWait maxN linger parked =>
      cases parked with
      | true => exact inside (.popWake worker (by rw [position]; rfl))
      | false => exact ready position rfl
    | lingerWait maxN parked =>
      cases parked with
      | true => exact inside (.popWake worker (by rw [position]; rfl))
      | false => exact ready position rfl
    | notifying ticket batch notFull notEmpty =>
      cases notFull with
      | true => exact inside (.popNotifyFull worker ticket batch notEmpty position)
      | false =>
        cases notEmpty with
        | true =>
          obtain ⟨pops, notified⟩ := QueueThreads.NotifyOne.possible
            (Function.update pool.threads.pops worker (.notifying ticket batch false false))
          exact inside (.popNotifyEmpty worker ticket batch pops position notified)
        | false => exact ⟨_, .popped worker ticket batch _ place (.popReturn _ _ _ position), rfl⟩
  | analyzing ticket batch => exact absurd place (free ticket batch)
  | counting size => exact ⟨_, .count worker size place, rfl⟩
  | countingBatch => exact ⟨_, .countBatch worker place, rfl⟩
  | checking => exact ⟨_, .check worker place, rfl⟩
  | exited => exact absurd place running

end Drains

end WorkerPool

end NetSentinel
