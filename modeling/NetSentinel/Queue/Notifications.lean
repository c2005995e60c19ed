import Mathlib.Data.Fintype.Basic
import NetSentinel.Queue.Threads

namespace NetSentinel

def PushPc.notifies {α : Type*} : PushPc α → Bool
  | .notifying _ => true
  | _ => false

theorem PushPc.notifies_of_ready {α : Type*} {pc : PushPc α} {call : Nat} {packet : α}
    (ready : pc.ready = some (call, packet)) : pc.notifies = false := by
  cases pc with
  | notifying call => cases ready
  | _ => rfl

theorem PushPc.notifies_of_parked {α : Type*} {pc : PushPc α} (parked : pc.parked) :
    pc.notifies = false := by
  cases pc with
  | notifying call => cases parked
  | _ => rfl

def ShutdownPc.notifiesFull : ShutdownPc → Bool
  | .notifyingFull => true
  | _ => false

/-- The notification of `not_empty` in `shutdown` is due, perhaps after that of `not_full`. -/
def ShutdownPc.notifiesEmpty : ShutdownPc → Bool
  | .notifyingFull => true
  | .notifyingEmpty => true
  | _ => false

theorem ShutdownPc.notifiesEmpty_of_full {pc : ShutdownPc} (full : pc.notifiesFull) : pc.notifiesEmpty := by
  cases pc with
  | notifyingFull => rfl
  | _ => cases full

namespace PopPc

variable {α : Type*}

def maxN : PopPc α → Option Nat
  | .entering maxN _ => some maxN
  | .firstWait maxN _ _ => some maxN
  | .lingerWait maxN _ => some maxN
  | _ => none

def waits : PopPc α → Bool
  | .firstWait _ _ _ => true
  | .lingerWait _ _ => true
  | _ => false

def firstParked : PopPc α → Bool
  | .firstWait _ _ parked => parked
  | _ => false

def notifiesFull : PopPc α → Bool
  | .notifying _ _ notFull _ => notFull
  | _ => false

def notifiesEmpty : PopPc α → Bool
  | .notifying _ _ _ notEmpty => notEmpty
  | _ => false

@[simp] theorem maxN_wake (pc : PopPc α) : pc.wake.maxN = pc.maxN := by
  cases pc <;> rfl

@[simp] theorem waits_wake (pc : PopPc α) : pc.wake.waits = pc.waits := by
  cases pc <;> rfl

@[simp] theorem notifiesFull_wake (pc : PopPc α) : pc.wake.notifiesFull = pc.notifiesFull := by
  cases pc <;> rfl

theorem notifiesFull_of_run {queue next : PacketQueue α} {ticket maxN : Nat} {timedOut : Bool}
    {pc after : PopPc α} (runs : queue.run ticket timedOut pc = some (maxN, next, after)) :
    pc.notifiesFull = false := by
  cases pc with
  | notifying ticket batch notFull notEmpty => cases runs
  | _ => rfl

theorem maxN_of_run {queue next : PacketQueue α} {ticket maxN : Nat} {timedOut : Bool}
    {pc after : PopPc α} (runs : queue.run ticket timedOut pc = some (maxN, next, after)) :
    pc.maxN = some maxN := by
  obtain ⟨wanted, -, ⟨⟨linger, rfl⟩, -⟩ | ⟨⟨linger, rfl⟩ | rfl, -⟩⟩ := PacketQueue.run_outcome runs
  · rfl
  · rfl
  · rfl

theorem notifiesFull_of_parked {pc : PopPc α} (parked : pc.parked) : pc.notifiesFull = false := by
  cases pc with
  | notifying ticket batch notFull notEmpty => cases parked
  | _ => rfl

theorem waits_of_parked {pc : PopPc α} (parked : pc.parked) : pc.waits := by
  cases pc with
  | firstWait => rfl
  | lingerWait => rfl
  | _ => cases parked

theorem firstParked_of_awake {pc : PopPc α} (awake : pc.parked = false) :
    pc.firstParked = false := by
  cases pc with
  | firstWait maxN linger parked => exact awake
  | _ => rfl

end PopPc

open Family

namespace QueueThreads

variable {π κ σ α : Type*}

def EmptyPending (state : QueueThreads π κ σ α) : Prop :=
  (∃ producer, (state.pushes producer).notifies) ∨ (∃ consumer, (state.pops consumer).notifiesEmpty) ∨
    ∃ closer, (state.shutdowns closer).notifiesEmpty

def FullPending (state : QueueThreads π κ σ α) : Prop :=
  (∃ consumer, (state.pops consumer).notifiesFull) ∨ ∃ closer, (state.shutdowns closer).notifiesFull

def Served (state : QueueThreads π κ σ α) : Prop :=
  (∃ consumer, (state.pops consumer).parked = false) ∨ state.EmptyPending

theorem Served.first {state : QueueThreads π κ σ α} (served : state.Served) :
    (∃ consumer, (state.pops consumer).firstParked = false) ∨ state.EmptyPending :=
  served.imp_left fun someone =>
    someone.imp fun _ awake => PopPc.firstParked_of_awake awake

def NotificationPending (state : QueueThreads π κ σ α) : Prop :=
  state.FullPending ∨ state.EmptyPending

section Decidability

variable [Fintype π] [Fintype κ] [Fintype σ] (state : QueueThreads π κ σ α)

instance : Decidable state.EmptyPending := inferInstanceAs (Decidable (_ ∨ _ ∨ _))

instance : Decidable state.FullPending := inferInstanceAs (Decidable (_ ∨ _))

instance : Decidable state.NotificationPending := inferInstanceAs (Decidable (_ ∨ _))

end Decidability

variable [DecidableEq π] [DecidableEq κ] [DecidableEq σ]
variable {event : Event π κ σ α} {state after : QueueThreads π κ σ α}

theorem NotifyOne.parked_before {pops woken : κ → PopPc α} (notified : NotifyOne pops woken)
    {consumer : κ} (parked : (woken consumer).parked) : (pops consumer).parked := by
  cases notified with
  | wakes other asleep =>
    rcases update_or PopPc.parked parked with woke | before
    · rw [PopPc.parked_wake] at woke
      cases woke
    · exact before
  | nobody => exact parked

theorem Step.parked_push (step : Step event state after) {producer : π}
    (parked : (after.pushes producer).parked) :
    (state.pushes producer).parked ∨
      after.queue.capacity ≤ after.queue.items.length ∧ after.queue.shutdown = false := by
  have moved : ∀ {mover : π} {pc : PushPc α}, pc.parked = false →
      (Function.update state.pushes mover pc producer).parked →
        (state.pushes producer).parked :=
    fun awake now => holds_before PushPc.parked awake now
  cases step with
  | pushCall mover packet outside => exact .inl (moved rfl parked)
  | pushRun mover call packet ready =>
    rcases state.queue.push_cases call packet with ⟨full, running, waits⟩ | ⟨-, refused⟩ |
      ⟨-, -, -, accepted⟩
    · dsimp only
      rw [waits]
      exact .inr ⟨full, running⟩
    · dsimp only at parked
      rw [refused] at parked
      exact .inl (moved rfl parked)
    · refine .inl (moved ?_ parked)
      rcases accepted with notifies | ⟨quiet, -⟩
      · rw [notifies]
        rfl
      · rw [quiet]
        rfl
  | pushWake mover asleep => exact .inl (moved (PushPc.parked_wake _) parked)
  | pushNotify mover call pops due notified => exact .inl (moved rfl parked)
  | pushReturn mover call result done => exact .inl (moved rfl parked)
  | popNotifyFull consumer ticket batch notEmpty due =>
    dsimp only at parked
    rw [PushPc.parked_wake] at parked
    cases parked
  | shutdownNotifyFull closer due =>
    dsimp only at parked
    rw [PushPc.parked_wake] at parked
    cases parked
  | _ => exact .inl parked

theorem Step.parked_pop (step : Step event state after) {consumer : κ}
    (parked : (after.pops consumer).parked) :
    (state.pops consumer).parked ∨ after.queue.shutdown = false := by
  have moved : ∀ {mover : κ} {pc : PopPc α}, pc.parked = false →
      (Function.update state.pops mover pc consumer).parked →
        (state.pops consumer).parked :=
    fun awake now => holds_before PopPc.parked awake now
  cases step with
  | pushNotify producer call pops due notified => exact .inl (notified.parked_before parked)
  | popCall mover maxN linger outside => exact .inl (moved rfl parked)
  | popRun mover timedOut maxN queue pc runs =>
    obtain ⟨wanted, outcome, -⟩ := PacketQueue.run_outcome runs
    cases outcome with
    | firstWait linger empty running => exact .inr running
    | lingerWait short running => exact .inr running
    | take => exact .inl (moved rfl parked)
  | popWake mover asleep => exact .inl (moved (PopPc.parked_wake _) parked)
  | popNotifyFull mover ticket batch notEmpty due => exact .inl (moved rfl parked)
  | popNotifyEmpty mover ticket batch pops due notified =>
    exact .inl (moved rfl (notified.parked_before parked))
  | popReturn mover ticket batch done => exact .inl (moved rfl parked)
  | shutdownNotifyEmpty closer due =>
    dsimp only at parked
    rw [PopPc.parked_wake] at parked
    cases parked
  | _ => exact .inl parked

theorem Step.full_pending (step : Step event state after) (pending : state.FullPending) :
    after.FullPending ∨ ∀ producer, (after.pushes producer).parked = false := by
  have popper : ∀ {mover : κ} {pc : PopPc α}, (state.pops mover).notifiesFull = false →
      (∃ consumer, (Function.update state.pops mover pc consumer).notifiesFull) ∨
        ∃ closer, (state.shutdowns closer).notifiesFull := by
    intro mover pc lacks
    exact pending.imp_left (exists_update lacks)
  have closer : ∀ {mover : σ} {pc : ShutdownPc}, (state.shutdowns mover).notifiesFull = false →
      (∃ consumer, (state.pops consumer).notifiesFull) ∨
        ∃ closer, (Function.update state.shutdowns mover pc closer).notifiesFull := by
    intro mover pc lacks
    exact pending.imp_right (exists_update lacks)
  cases step with
  | pushNotify producer call pops due notified =>
    refine .inl (pending.imp_left fun popping => ?_)
    obtain ⟨consumer, notifies⟩ := popping
    exact ⟨consumer, (notified.keeps PopPc.notifiesFull_wake consumer).trans notifies⟩
  | popCall consumer maxN linger outside => exact .inl (popper (by rw [outside]; rfl))
  | popRun consumer timedOut maxN queue pc runs =>
    exact .inl (popper (PopPc.notifiesFull_of_run runs))
  | popWake consumer asleep => exact .inl (popper (PopPc.notifiesFull_of_parked asleep))
  | popNotifyFull consumer ticket batch notEmpty due =>
    exact .inr fun producer => PushPc.parked_wake _
  | popNotifyEmpty consumer ticket batch pops due notified =>
    have still : (∃ other, (Function.update state.pops consumer
        (.notifying ticket batch false false) other).notifiesFull) ∨
          ∃ closer, (state.shutdowns closer).notifiesFull := popper (by rw [due]; rfl)
    refine .inl (still.imp_left fun popping => ?_)
    obtain ⟨other, notifies⟩ := popping
    exact ⟨other, (notified.keeps PopPc.notifiesFull_wake other).trans notifies⟩
  | popReturn consumer ticket batch done => exact .inl (popper (by rw [done]; rfl))
  | shutdownCall mover outside => exact .inl (closer (by rw [outside]; rfl))
  | shutdownRun mover entering => exact .inl (closer (by rw [entering]; rfl))
  | shutdownNotifyFull mover due => exact .inr fun producer => PushPc.parked_wake _
  | shutdownNotifyEmpty mover due =>
    have still : (∃ consumer, (state.pops consumer).notifiesFull) ∨ ∃ closer,
        (Function.update state.shutdowns mover .returning closer).notifiesFull :=
      closer (by rw [due]; rfl)
    refine .inl (still.imp_left fun popping => ?_)
    obtain ⟨consumer, notifies⟩ := popping
    exact ⟨consumer, (PopPc.notifiesFull_wake _).trans notifies⟩
  | shutdownReturn mover done => exact .inl (closer (by rw [done]; rfl))
  | _ => exact .inl pending

theorem Step.closing_full (step : Step event state after)
    (closing : ∃ closer, (state.shutdowns closer).notifiesFull) :
    (∃ closer, (after.shutdowns closer).notifiesFull) ∨
      ∀ producer, (after.pushes producer).parked = false := by
  cases step with
  | shutdownCall mover outside => exact .inl (exists_update (by rw [outside]; rfl) closing)
  | shutdownRun mover entering => exact .inl (exists_update (by rw [entering]; rfl) closing)
  | shutdownNotifyFull mover due => exact .inr fun producer => PushPc.parked_wake _
  | shutdownNotifyEmpty mover due => exact .inl (exists_update (by rw [due]; rfl) closing)
  | shutdownReturn mover done => exact .inl (exists_update (by rw [done]; rfl) closing)
  | _ => exact .inl closing

theorem Step.closing_empty (step : Step event state after)
    (closing : ∃ closer, (state.shutdowns closer).notifiesEmpty) :
    (∃ closer, (after.shutdowns closer).notifiesEmpty) ∨
      ∀ consumer, (after.pops consumer).parked = false := by
  cases step with
  | shutdownCall mover outside => exact .inl (exists_update (by rw [outside]; rfl) closing)
  | shutdownRun mover entering => exact .inl (exists_update (by rw [entering]; rfl) closing)
  | shutdownNotifyFull mover due =>
    exact .inl ⟨mover, by dsimp only; rw [Function.update_self]; rfl⟩
  | shutdownNotifyEmpty mover due => exact .inr fun consumer => PopPc.parked_wake _
  | shutdownReturn mover done => exact .inl (exists_update (by rw [done]; rfl) closing)
  | _ => exact .inl closing

theorem Step.closes (step : Step event state after) (closed : after.queue.shutdown) :
    state.queue.shutdown ∨ ∃ closer, (after.shutdowns closer).notifiesFull := by
  rcases step.shutdown_by closed with before | ⟨closer, -, notifying⟩
  · exact .inl before
  · exact .inr ⟨closer, by rw [notifying]; rfl⟩

/-- What a step means for the consumers as a group. -/
inductive Serves (state after : QueueThreads π κ σ α) : Prop
  | served (served : after.Served)
  | nothing (pops : after.pops = state.pops) (items : after.queue.items = state.queue.items)
      (pending : state.EmptyPending → after.EmptyPending)
  | quietPush (pops : after.pops = state.pops) (nonempty : state.queue.items ≠ [])
      (more : after.queue.items.length = state.queue.items.length + 1)
      (unwanted : state.queue.items.length + 1 ≠ state.queue.wanted)
      (pending : state.EmptyPending → after.EmptyPending)
  | firstWait (empty : after.queue.items = [])
  | lingerWait (consumer : κ) (maxN : Nat) (waits : after.pops consumer = .lingerWait maxN true)
      (short : after.queue.items.length < maxN)

theorem Step.serves [Nonempty κ] (step : Step event state after) : Serves state after := by
  have pushes : ∀ {mover : π} {pc : PushPc α}, (state.pushes mover).notifies = false →
      state.EmptyPending → (∃ producer, (Function.update state.pushes mover pc producer).notifies) ∨
        (∃ consumer, (state.pops consumer).notifiesEmpty) ∨
          ∃ closer, (state.shutdowns closer).notifiesEmpty :=
    fun lacks pending => pending.imp_left (exists_update lacks)
  have closers : ∀ {mover : σ} {pc : ShutdownPc}, (state.shutdowns mover).notifiesEmpty = false →
      state.EmptyPending → (∃ producer, (state.pushes producer).notifies) ∨
        (∃ consumer, (state.pops consumer).notifiesEmpty) ∨
          ∃ closer, (Function.update state.shutdowns mover pc closer).notifiesEmpty :=
    fun lacks pending => pending.imp_right fun rest => rest.imp_right (exists_update lacks)
  have awake : ∀ {mover : κ} {pc : PopPc α}, pc.parked = false →
      ∃ consumer, (Function.update state.pops mover pc consumer).parked = false :=
    fun quiet => ⟨_, by rw [Function.update_self]; exact quiet⟩
  cases step with
  | pushCall mover packet outside => exact .nothing rfl rfl (pushes (by rw [outside]; rfl))
  | pushRun mover call packet ready =>
    have lacks := PushPc.notifies_of_ready ready
    rcases state.queue.push_cases call packet with ⟨-, -, waits⟩ | ⟨-, refused⟩ |
      ⟨-, -, pushed, accepted⟩
    · exact .nothing rfl (by rw [waits]) (pushes lacks)
    · exact .nothing rfl (by rw [refused]) (pushes lacks)
    · rcases accepted with notifies | ⟨quiet, nonempty, unwanted⟩
      · refine .served (.inr (.inl ⟨mover, ?_⟩))
        dsimp only
        rw [Function.update_self, notifies]
        rfl
      · exact .quietPush rfl nonempty (by rw [pushed, List.length_append, List.length_singleton])
          unwanted (pushes lacks)
  | pushWake mover asleep => exact .nothing rfl rfl (pushes (PushPc.notifies_of_parked asleep))
  | pushNotify mover call pops due notified => exact .served (.inl notified.someone_awake)
  | pushReturn mover call result done => exact .nothing rfl rfl (pushes (by rw [done]; rfl))
  | popCall mover maxN linger outside => exact .served (.inl (awake rfl))
  | popRun mover timedOut maxN queue pc runs =>
    obtain ⟨wanted, outcome, -⟩ := PacketQueue.run_outcome runs
    cases outcome with
    | firstWait linger empty running => exact .firstWait empty
    | lingerWait short running =>
      exact .lingerWait mover maxN (Function.update_self mover _ _) short
    | take => exact .served (.inl (awake rfl))
  | popWake mover asleep => exact .served (.inl (awake (PopPc.parked_wake _)))
  | popNotifyFull mover ticket batch notEmpty due => exact .served (.inl (awake rfl))
  | popNotifyEmpty mover ticket batch pops due notified =>
    exact .served (.inl notified.someone_awake)
  | popReturn mover ticket batch done => exact .served (.inl (awake rfl))
  | shutdownCall mover outside => exact .nothing rfl rfl (closers (by rw [outside]; rfl))
  | shutdownRun mover entering =>
    exact .served (.inr (.inr (.inr ⟨mover, by dsimp only; rw [Function.update_self]; rfl⟩)))
  | shutdownNotifyFull mover due =>
    exact .served (.inr (.inr (.inr ⟨mover, by dsimp only; rw [Function.update_self]; rfl⟩)))
  | shutdownNotifyEmpty mover due =>
    exact .served (.inl ⟨Classical.arbitrary κ, PopPc.parked_wake _⟩)
  | shutdownReturn mover done => exact .nothing rfl rfl (closers (by rw [done]; rfl))

theorem Step.asks (step : Step event state after) {consumer : κ} {maxN : Nat}
    (asks : (after.pops consumer).maxN = some maxN) :
    (state.pops consumer).maxN = some maxN ∨ ∃ linger, event = .popBatch consumer maxN linger := by
  have moved : ∀ {mover : κ} {pc : PopPc α}, pc.maxN = none →
      (Function.update state.pops mover pc consumer).maxN = some maxN →
        (state.pops consumer).maxN = some maxN := by
    intro mover pc lacks now
    by_cases same : consumer = mover
    · subst same
      rw [Function.update_self, lacks] at now
      cases now
    · rwa [Function.update_of_ne same] at now
  cases step with
  | pushNotify mover call pops due notified =>
    exact .inl ((notified.keeps PopPc.maxN_wake consumer).symm.trans asks)
  | popCall mover size linger outside =>
    dsimp only at asks
    by_cases same : consumer = mover
    · subst same
      rw [Function.update_self] at asks
      cases asks
      exact .inr ⟨linger, rfl⟩
    · rw [Function.update_of_ne same] at asks
      exact .inl asks
  | popRun mover timedOut size queue pc runs =>
    dsimp only at asks
    by_cases same : consumer = mover
    · subst same
      rw [Function.update_self] at asks
      have asked := PopPc.maxN_of_run runs
      obtain ⟨wanted, outcome, -⟩ := PacketQueue.run_outcome runs
      cases outcome with
      | firstWait linger empty running => exact .inl (asked.trans asks)
      | lingerWait short running => exact .inl (asked.trans asks)
      | take => cases asks
    · rw [Function.update_of_ne same] at asks
      exact .inl asks
  | popWake mover asleep =>
    dsimp only at asks
    by_cases same : consumer = mover
    · subst same
      rw [Function.update_self, PopPc.maxN_wake] at asks
      exact .inl asks
    · rw [Function.update_of_ne same] at asks
      exact .inl asks
  | popNotifyFull mover ticket batch notEmpty due => exact .inl (moved rfl asks)
  | popNotifyEmpty mover ticket batch pops due notified =>
    exact .inl (moved rfl ((notified.keeps PopPc.maxN_wake consumer).symm.trans asks))
  | popReturn mover ticket batch done => exact .inl (moved rfl asks)
  | shutdownNotifyEmpty mover due => exact .inl ((PopPc.maxN_wake _).symm.trans asks)
  | _ => exact .inl asks

theorem Step.wanted (step : Step event state after) {consumer : κ}
    (waits : (after.pops consumer).waits) :
    after.queue.wanted = state.queue.wanted ∧ (∃ other, (state.pops other).waits) ∨
      ∃ other, (state.pops other).maxN = some after.queue.wanted := by
  have moved : ∀ {mover : κ} {pc : PopPc α}, pc.waits = false →
      (Function.update state.pops mover pc consumer).waits → ∃ other, (state.pops other).waits :=
    fun quiet now => ⟨consumer, holds_before PopPc.waits quiet now⟩
  cases step with
  | pushRun mover call packet ready =>
    refine .inl ⟨?_, consumer, waits⟩
    rcases state.queue.push_cases call packet with ⟨-, -, same⟩ | ⟨-, same⟩ | ⟨-, -, same, -⟩
    · dsimp only
      rw [same]
    · dsimp only
      rw [same]
    · dsimp only
      rw [same]
  | pushNotify mover call pops due notified =>
    exact .inl ⟨rfl, consumer, (notified.keeps PopPc.waits_wake consumer).symm.trans waits⟩
  | popCall mover size linger outside => exact .inl ⟨rfl, moved rfl waits⟩
  | popRun mover timedOut size queue pc runs =>
    obtain ⟨wanted, outcome, how⟩ := PacketQueue.run_outcome runs
    have left : queue.wanted = wanted := by
      cases outcome with
      | firstWait linger empty running => rfl
      | lingerWait short running => rfl
      | take => rfl
    rcases how with ⟨⟨linger, entering⟩, set⟩ | ⟨waiting, kept⟩
    · refine .inr ⟨mover, ?_⟩
      rw [entering, left, set]
      rfl
    · refine .inl ⟨left.trans kept, mover, ?_⟩
      rcases waiting with ⟨linger, first⟩ | lingering
      · rw [first]
        rfl
      · rw [lingering]
        rfl
  | popWake mover asleep =>
    dsimp only at waits
    rcases update_or PopPc.waits waits with mine | before
    · exact .inl ⟨rfl, mover, (PopPc.waits_wake _).symm.trans mine⟩
    · exact .inl ⟨rfl, consumer, before⟩
  | popNotifyFull mover ticket batch notEmpty due => exact .inl ⟨rfl, moved rfl waits⟩
  | popNotifyEmpty mover ticket batch pops due notified =>
    exact .inl ⟨rfl, moved rfl ((notified.keeps PopPc.waits_wake consumer).symm.trans waits)⟩
  | popReturn mover ticket batch done => exact .inl ⟨rfl, moved rfl waits⟩
  | shutdownNotifyEmpty mover due =>
    exact .inl ⟨rfl, consumer, (PopPc.waits_wake _).symm.trans waits⟩
  | _ => exact .inl ⟨rfl, consumer, waits⟩

theorem Step.shrinks (step : Step event state after) :
    after.queue.capacity = state.queue.capacity ∧
      (state.queue.items.length ≤ after.queue.items.length ∨ after.FullPending) := by
  cases step with
  | pushRun mover call packet ready =>
    rcases state.queue.push_cases call packet with ⟨-, -, same⟩ | ⟨-, same⟩ | ⟨-, -, pushed, -⟩
    · dsimp only
      rw [same]
      exact ⟨rfl, .inl (Nat.le_refl _)⟩
    · dsimp only
      rw [same]
      exact ⟨rfl, .inl (Nat.le_refl _)⟩
    · dsimp only
      rw [pushed, List.length_append]
      exact ⟨rfl, .inl (Nat.le_add_right _ _)⟩
  | popRun mover timedOut size queue pc runs =>
    obtain ⟨wanted, outcome, -⟩ := PacketQueue.run_outcome runs
    cases outcome with
    | firstWait linger empty running => exact ⟨rfl, .inl (Nat.le_refl _)⟩
    | lingerWait short running => exact ⟨rfl, .inl (Nat.le_refl _)⟩
    | take =>
      refine ⟨rfl, ?_⟩
      by_cases nothing : state.queue.items.take size = []
      · left
        have same := List.take_append_drop size state.queue.items
        rw [nothing, List.nil_append] at same
        exact Nat.le_of_eq (congrArg List.length same.symm)
      · refine .inr (.inl ⟨mover, ?_⟩)
        dsimp only
        rw [Function.update_self]
        exact decide_eq_true nothing
  | _ => exact ⟨rfl, .inl (Nat.le_refl _)⟩

end QueueThreads

end NetSentinel
