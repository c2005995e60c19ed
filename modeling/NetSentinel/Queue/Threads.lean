import NetSentinel.Library.BoundedFifo
import NetSentinel.Queue.PacketQueue

namespace NetSentinel

/-- Producers `π`, consumers `κ` and closers `σ` around one queue. -/
structure QueueThreads (π κ σ α : Type*) where
  queue : PacketQueue α
  pushes : π → PushPc α
  pops : κ → PopPc α
  shutdowns : σ → ShutdownPc
  history : FifoHistory α

section Counters

variable {α : Type*}

namespace PushPc

def parked : PushPc α → Bool
  | .waiting _ _ parked => parked
  | _ => false

def wake : PushPc α → PushPc α
  | .waiting call packet _ => .waiting call packet false
  | pc => pc

def ready : PushPc α → Option (Nat × α)
  | .entering call packet => some (call, packet)
  | .waiting call packet false => some (call, packet)
  | _ => none

/-- The call under way, with its packet as long as it is undecided and its answer from then on. -/
def view : PushPc α → Option (Nat × (α ⊕ Bool))
  | .outside => none
  | .entering call packet => some (call, .inl packet)
  | .waiting call packet _ => some (call, .inl packet)
  | .notifying call => some (call, .inr true)
  | .returning call result => some (call, .inr result)

def accepted : PushPc α → Bool
  | .notifying _ => true
  | .returning _ result => result
  | _ => false

@[simp] theorem view_wake (pc : PushPc α) : pc.wake.view = pc.view := by
  cases pc <;> rfl

@[simp] theorem parked_wake (pc : PushPc α) : pc.wake.parked = false := by
  cases pc <;> rfl

theorem view_of_ready {pc : PushPc α} {call : Nat} {packet : α}
    (ready : pc.ready = some (call, packet)) : pc.view = some (call, .inl packet) := by
  unfold PushPc.ready at ready
  split at ready
  · cases ready
    rfl
  · cases ready
    rfl
  · cases ready

end PushPc

namespace PopPc

def parked : PopPc α → Bool
  | .firstWait _ _ parked => parked
  | .lingerWait _ parked => parked
  | _ => false

def wake : PopPc α → PopPc α
  | .firstWait maxN linger _ => .firstWait maxN linger false
  | .lingerWait maxN _ => .lingerWait maxN false
  | pc => pc

def taken : PopPc α → Option (List α)
  | .notifying _ batch _ _ => some batch
  | _ => none

@[simp] theorem parked_wake (pc : PopPc α) : pc.wake.parked = false := by
  cases pc <;> rfl

end PopPc

end Counters

namespace QueueThreads

variable {π κ σ α : Type*}

def logPush (history : FifoHistory α) (call : Nat) (packet : α) (pc : PushPc α) : FifoHistory α :=
  if pc.accepted then
    { history with enqueued := history.enqueued ++ [(call, packet)] }
  else history

def logPop (history : FifoHistory α) (maxN : Nat) (pc : PopPc α) : FifoHistory α :=
  match pc.taken with
  | some batch => { history with batches := history.batches ++ [(maxN, batch)] }
  | none => history

variable [DecidableEq κ]

/-- `notify_one`: any one of the parked threads is woken, if there is one. -/
inductive NotifyOne (pops : κ → PopPc α) : (κ → PopPc α) → Prop
  | wakes (consumer : κ) (parked : (pops consumer).parked) :
      NotifyOne pops (Function.update pops consumer (pops consumer).wake)
  | nobody (awake : ∀ consumer, (pops consumer).parked = false) : NotifyOne pops pops

theorem NotifyOne.keeps {β : Type*} {look : PopPc α → β} {pops woken : κ → PopPc α}
    (wake : ∀ pc, look pc.wake = look pc) (notified : NotifyOne pops woken) (consumer : κ) :
    look (woken consumer) = look (pops consumer) := by
  cases notified with
  | wakes other asleep =>
    by_cases same : consumer = other
    · subst same
      rw [Function.update_self, wake]
    · rw [Function.update_of_ne same]
  | nobody => rfl

theorem NotifyOne.someone_awake [Nonempty κ] {pops woken : κ → PopPc α}
    (notified : NotifyOne pops woken) : ∃ consumer, (woken consumer).parked = false := by
  cases notified with
  | wakes consumer parked =>
    exact ⟨consumer, by rw [Function.update_self, PopPc.parked_wake]⟩
  | nobody awake =>
    obtain ⟨consumer⟩ := ‹Nonempty κ›
    exact ⟨consumer, awake consumer⟩

theorem NotifyOne.possible (pops : κ → PopPc α) : ∃ after, NotifyOne pops after := by
  by_cases someone : ∃ consumer, (pops consumer).parked
  · obtain ⟨consumer, parked⟩ := someone
    exact ⟨_, .wakes consumer parked⟩
  · refine ⟨pops, .nobody fun consumer => ?_⟩
    rw [← Bool.not_eq_true]
    exact fun parked => someone ⟨consumer, parked⟩

theorem NotifyOne.awake {pops after : κ → PopPc α} (notified : NotifyOne pops after)
    {consumer : κ} (awake : (pops consumer).parked = false) : after consumer = pops consumer := by
  cases notified with
  | wakes other parked =>
    have apart : consumer ≠ other := by
      intro same
      rw [← same, awake] at parked
      cases parked
    rw [Function.update_of_ne apart]
  | nobody => rfl

variable [DecidableEq π] [DecidableEq σ]

inductive Event (π κ σ α : Type*) where
  | inside
  | push (producer : π) (packet : α)
  | pushed (producer : π) (result : Bool)
  | popBatch (consumer : κ) (maxN : Nat) (linger : Bool)
  | popped (consumer : κ) (ticket : Nat) (batch : List α)
  | shutdown (closer : σ)
  | closed (closer : σ)

/-- Each step is one critical section, one notification, one wake-up, or one call or return. -/
inductive Step : Event π κ σ α → QueueThreads π κ σ α → QueueThreads π κ σ α → Prop
  | pushCall {state : QueueThreads π κ σ α} (producer : π) (packet : α)
      (outside : state.pushes producer = .outside) :
      Step (.push producer packet) state
        { state with
          pushes := Function.update state.pushes producer
            (.entering state.history.calls.length packet)
          history := { state.history with calls := state.history.calls ++ [packet] } }
  | pushRun {state : QueueThreads π κ σ α} (producer : π) (call : Nat) (packet : α)
      (ready : (state.pushes producer).ready = some (call, packet)) :
      Step .inside state
        { state with
          queue := (state.queue.push call packet).1
          pushes := Function.update state.pushes producer (state.queue.push call packet).2
          history := logPush state.history call packet (state.queue.push call packet).2 }
  | pushWake {state : QueueThreads π κ σ α} (producer : π)
      (parked : (state.pushes producer).parked) :
      Step .inside state
        { state with
          pushes := Function.update state.pushes producer (state.pushes producer).wake }
  | pushNotify {state : QueueThreads π κ σ α} (producer : π) (call : Nat) (pops : κ → PopPc α)
      (due : state.pushes producer = .notifying call) (notified : NotifyOne state.pops pops) :
      Step .inside state
        { state with
          pushes := Function.update state.pushes producer (.returning call true), pops }
  | pushReturn {state : QueueThreads π κ σ α} (producer : π) (call : Nat) (result : Bool)
      (done : state.pushes producer = .returning call result) :
      Step (.pushed producer result) state
        { state with
          pushes := Function.update state.pushes producer .outside
          history := { state.history with answers := state.history.answers ++ [(call, result)] } }
  | popCall {state : QueueThreads π κ σ α} (consumer : κ) (maxN : Nat) (linger : Bool)
      (outside : state.pops consumer = .outside) :
      Step (.popBatch consumer maxN linger) state
        { state with pops := Function.update state.pops consumer (.entering maxN linger) }
  | popRun {state : QueueThreads π κ σ α} (consumer : κ) (timedOut : Bool) (maxN : Nat)
      (queue : PacketQueue α) (pc : PopPc α)
      (runs : state.queue.run state.history.batches.length timedOut (state.pops consumer) =
        some (maxN, queue, pc)) :
      Step .inside state
        { state with
          queue, pops := Function.update state.pops consumer pc
          history := logPop state.history maxN pc }
  | popWake {state : QueueThreads π κ σ α} (consumer : κ)
      (parked : (state.pops consumer).parked) :
      Step .inside state
        { state with pops := Function.update state.pops consumer (state.pops consumer).wake }
  | popNotifyFull {state : QueueThreads π κ σ α} (consumer : κ) (ticket : Nat) (batch : List α)
      (notEmpty : Bool) (due : state.pops consumer = .notifying ticket batch true notEmpty) :
      Step .inside state
        { state with
          pushes := fun producer => (state.pushes producer).wake
          pops := Function.update state.pops consumer (.notifying ticket batch false notEmpty) }
  | popNotifyEmpty {state : QueueThreads π κ σ α} (consumer : κ) (ticket : Nat) (batch : List α)
      (pops : κ → PopPc α) (due : state.pops consumer = .notifying ticket batch false true)
      (notified : NotifyOne
        (Function.update state.pops consumer (.notifying ticket batch false false)) pops) :
      Step .inside state { state with pops }
  | popReturn {state : QueueThreads π κ σ α} (consumer : κ) (ticket : Nat) (batch : List α)
      (done : state.pops consumer = .notifying ticket batch false false) :
      Step (.popped consumer ticket batch) state
        { state with pops := Function.update state.pops consumer .outside }
  | shutdownCall {state : QueueThreads π κ σ α} (closer : σ)
      (outside : state.shutdowns closer = .outside) :
      Step (.shutdown closer) state
        { state with shutdowns := Function.update state.shutdowns closer .entering }
  | shutdownRun {state : QueueThreads π κ σ α} (closer : σ)
      (entering : state.shutdowns closer = .entering) :
      Step .inside state
        { state with
          queue := { state.queue with shutdown := true }
          shutdowns := Function.update state.shutdowns closer .notifyingFull }
  | shutdownNotifyFull {state : QueueThreads π κ σ α} (closer : σ)
      (due : state.shutdowns closer = .notifyingFull) :
      Step .inside state
        { state with
          pushes := fun producer => (state.pushes producer).wake
          shutdowns := Function.update state.shutdowns closer .notifyingEmpty }
  | shutdownNotifyEmpty {state : QueueThreads π κ σ α} (closer : σ)
      (due : state.shutdowns closer = .notifyingEmpty) :
      Step .inside state
        { state with
          pops := fun consumer => (state.pops consumer).wake
          shutdowns := Function.update state.shutdowns closer .returning }
  | shutdownReturn {state : QueueThreads π κ σ α} (closer : σ)
      (done : state.shutdowns closer = .returning) :
      Step (.closed closer) state
        { state with shutdowns := Function.update state.shutdowns closer .outside }

section Frame

open Family

variable {event : Event π κ σ α} {state after : QueueThreads π κ σ α}

theorem Step.pushes_outside (step : Step event state after) {producer : π}
    (outside : state.pushes producer = .outside) :
    after.pushes producer = .outside ∨ ∃ packet, event = .push producer packet := by
  cases step with
  | pushCall mover packet idle =>
    by_cases same : producer = mover
    · exact .inr ⟨packet, by rw [same]⟩
    · exact .inl ((Function.update_of_ne same _ _).trans outside)
  | pushRun mover call packet ready =>
    refine .inl (update_stays outside fun idle => ?_)
    rw [idle] at ready
    cases ready
  | pushWake mover parked =>
    refine .inl (update_stays outside fun idle => ?_)
    rw [idle] at parked
    cases parked
  | pushNotify mover call pops due notified => exact .inl (update_stays outside (by simp [due]))
  | pushReturn mover call result done => exact .inl (update_stays outside (by simp [done]))
  | popNotifyFull consumer ticket batch notEmpty due =>
    left
    dsimp only
    rw [outside]
    rfl
  | shutdownNotifyFull closer due =>
    left
    dsimp only
    rw [outside]
    rfl
  | _ => exact .inl outside

theorem Step.pops_outside (step : Step event state after) {consumer : κ}
    (outside : state.pops consumer = .outside) :
    after.pops consumer = .outside ∨ ∃ maxN linger, event = .popBatch consumer maxN linger := by
  have asleep : (state.pops consumer).parked = false := by
    rw [outside]
    rfl
  cases step with
  | pushNotify mover call pops due notified => exact .inl ((notified.awake asleep).trans outside)
  | popCall mover maxN linger idle =>
    by_cases same : consumer = mover
    · exact .inr ⟨maxN, linger, by rw [same]⟩
    · exact .inl ((Function.update_of_ne same _ _).trans outside)
  | popRun mover timedOut maxN queue pc runs =>
    refine .inl (update_stays outside fun idle => ?_)
    rw [idle] at runs
    cases runs
  | popWake mover parked =>
    refine .inl (update_stays outside fun idle => ?_)
    rw [idle] at parked
    cases parked
  | popNotifyFull mover ticket batch notEmpty due =>
    exact .inl (update_stays outside (by simp [due]))
  | popNotifyEmpty mover ticket batch pops due notified =>
    have before : Function.update state.pops mover (.notifying ticket batch false false) consumer =
        .outside := update_stays outside (by simp [due])
    refine .inl ((notified.awake ?_).trans before)
    rw [before]
    rfl
  | popReturn mover ticket batch done => exact .inl (update_stays outside (by simp [done]))
  | shutdownNotifyEmpty mover due =>
    left
    dsimp only
    rw [outside]
    rfl
  | _ => exact .inl outside

theorem Step.shutdowns_outside (step : Step event state after) {closer : σ}
    (outside : state.shutdowns closer = .outside) :
    after.shutdowns closer = .outside ∨ event = .shutdown closer := by
  cases step with
  | shutdownCall mover idle =>
    by_cases same : closer = mover
    · exact .inr (by rw [same])
    · exact .inl ((Function.update_of_ne same _ _).trans outside)
  | shutdownRun mover entering => exact .inl (update_stays outside (by simp [entering]))
  | shutdownNotifyFull mover due => exact .inl (update_stays outside (by simp [due]))
  | shutdownNotifyEmpty mover due => exact .inl (update_stays outside (by simp [due]))
  | shutdownReturn mover done => exact .inl (update_stays outside (by simp [done]))
  | _ => exact .inl outside

theorem Step.shutdown_by (step : Step event state after) (closed : after.queue.shutdown) :
    state.queue.shutdown ∨
      ∃ closer, state.shutdowns closer = .entering ∧ after.shutdowns closer = .notifyingFull := by
  cases step with
  | pushRun producer call packet ready =>
    rcases state.queue.push_cases call packet with ⟨-, -, waits⟩ | ⟨stopped, -⟩ | ⟨-, -, pushed, -⟩
    · dsimp only at closed
      rw [waits] at closed
      exact .inl closed
    · exact .inl stopped
    · dsimp only at closed
      rw [pushed] at closed
      exact .inl closed
  | popRun consumer timedOut maxN queue pc runs =>
    obtain ⟨wanted, outcome, -⟩ := PacketQueue.run_outcome runs
    cases outcome with
    | firstWait linger empty running => exact .inl closed
    | lingerWait short running => exact .inl closed
    | take => exact .inl closed
  | shutdownRun closer entering => exact .inr ⟨closer, entering, Function.update_self closer _ _⟩
  | _ => exact .inl closed

def Event.called : Event π κ σ α → List α
  | .push _ packet => [packet]
  | _ => []

theorem Step.calls (step : Step event state after) :
    after.history.calls = state.history.calls ++ event.called := by
  cases step with
  | pushCall => rfl
  | pushRun producer call packet ready =>
    refine Eq.trans ?_ (List.append_nil _).symm
    dsimp only [logPush]
    split <;> rfl
  | popRun consumer timedOut maxN queue pc runs =>
    refine Eq.trans ?_ (List.append_nil _).symm
    dsimp only [logPop]
    split <;> rfl
  | _ => exact (List.append_nil _).symm

end Frame

def system (π κ σ α : Type*) [DecidableEq π] [DecidableEq κ] [DecidableEq σ] (capacity : Nat) :
    TransitionSystem (QueueThreads π κ σ α) where
  start state := state = ⟨{ capacity }, fun _ => .outside, fun _ => .outside, fun _ => .outside, {}⟩
  step state after := ∃ event, Step event state after

end QueueThreads

end NetSentinel
