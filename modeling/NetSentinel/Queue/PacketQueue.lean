import Mathlib.Data.List.Basic

namespace NetSentinel

/-- The members of the queue that its mutex guards. -/
structure PacketQueue (α : Type*) where
  items : List α := []
  capacity : Nat
  wanted : Nat := 1
  shutdown : Bool := false

/-- Where a thread is in `push`. The number names the call. A thread that waits is parked until it
    is notified or wakes up by itself, and then competes for the mutex. -/
inductive PushPc (α : Type*) where
  | outside
  | entering (call : Nat) (packet : α)
  | waiting (call : Nat) (packet : α) (parked : Bool)
  | notifying (call : Nat)
  | returning (call : Nat) (result : Bool)

/-- Where a thread is in `pop_batch`; `linger` says whether the linger time is positive. Once the
    batch with number `ticket` has been taken off the queue, a notification of `not_full` and one of
    `not_empty` may be due before it is returned. -/
inductive PopPc (α : Type*) where
  | outside
  | entering (maxN : Nat) (linger : Bool)
  | firstWait (maxN : Nat) (linger parked : Bool)
  | lingerWait (maxN : Nat) (parked : Bool)
  | notifying (ticket : Nat) (batch : List α) (notFull notEmpty : Bool)

/-- Where a thread is in `shutdown`: it notifies `not_full` and then `not_empty`. -/
inductive ShutdownPc where
  | outside
  | entering
  | notifyingFull
  | notifyingEmpty
  | returning

namespace PacketQueue

variable {α : Type*}

/-- `push` with the mutex held, on entry and whenever its wait checks the predicate. -/
def push (queue : PacketQueue α) (call : Nat) (packet : α) : PacketQueue α × PushPc α :=
  if queue.capacity ≤ queue.items.length ∧ queue.shutdown = false then
    (queue, .waiting call packet true)
  else if queue.shutdown then (queue, .returning call false)
  else
    let items := queue.items ++ [packet]
    ({ queue with items },
      if items.length = 1 ∨ items.length = queue.wanted then .notifying call
      else .returning call true)

def take (queue : PacketQueue α) (ticket maxN : Nat) : PacketQueue α × PopPc α :=
  let batch := queue.items.take maxN
  let items := queue.items.drop maxN
  ({ queue with items }, .notifying ticket batch (decide (batch ≠ [])) (decide (items ≠ [])))

def lingerOrTake (queue : PacketQueue α) (ticket maxN : Nat) (linger : Bool) :
    PacketQueue α × PopPc α :=
  if queue.items ≠ [] ∧ queue.items.length < maxN ∧ queue.shutdown = false ∧ linger then
    (queue, .lingerWait maxN true)
  else queue.take ticket maxN

/-- `pop_batch` whenever its first wait checks the predicate, or has timed out. -/
def firstCheck (queue : PacketQueue α) (ticket maxN : Nat) (linger timedOut : Bool) :
    PacketQueue α × PopPc α :=
  if queue.items = [] ∧ queue.shutdown = false ∧ timedOut = false then
    (queue, .firstWait maxN linger true)
  else queue.lingerOrTake ticket maxN linger

def enter (queue : PacketQueue α) (ticket maxN : Nat) (linger : Bool) : PacketQueue α × PopPc α :=
  { queue with wanted := maxN }.firstCheck ticket maxN linger false

/-- `pop_batch` whenever its linger wait checks the predicate, or has timed out. -/
def lingerCheck (queue : PacketQueue α) (ticket maxN : Nat) (timedOut : Bool) :
    PacketQueue α × PopPc α :=
  if queue.items.length < maxN ∧ queue.shutdown = false ∧ timedOut = false then
    (queue, .lingerWait maxN true)
  else queue.take ticket maxN

/-- What a thread in `pop_batch` does when it gets the mutex: the `max_n` of its call, the queue it
    leaves and where it goes. -/
def run (queue : PacketQueue α) (ticket : Nat) (timedOut : Bool) :
    PopPc α → Option (Nat × PacketQueue α × PopPc α)
  | .entering maxN linger => some (maxN, queue.enter ticket maxN linger)
  | .firstWait maxN linger false => some (maxN, queue.firstCheck ticket maxN linger timedOut)
  | .lingerWait maxN false => some (maxN, queue.lingerCheck ticket maxN timedOut)
  | _ => none

def isFinished (queue : PacketQueue α) : Bool := queue.shutdown && queue.items.isEmpty

theorem push_cases (queue : PacketQueue α) (call : Nat) (packet : α) :
    (queue.capacity ≤ queue.items.length ∧ queue.shutdown = false ∧
      queue.push call packet = (queue, .waiting call packet true)) ∨
    (queue.shutdown = true ∧ queue.push call packet = (queue, .returning call false)) ∨
    (queue.items.length < queue.capacity ∧ queue.shutdown = false ∧
      (queue.push call packet).1 = { queue with items := queue.items ++ [packet] } ∧
      ((queue.push call packet).2 = .notifying call ∨
        (queue.push call packet).2 = .returning call true ∧
          queue.items ≠ [] ∧ queue.items.length + 1 ≠ queue.wanted)) := by
  unfold push
  by_cases full : queue.capacity ≤ queue.items.length
  · cases stopped : queue.shutdown with
    | false => exact .inl ⟨full, rfl, by simp [full]⟩
    | true => exact .inr (.inl ⟨rfl, by simp⟩)
  · cases stopped : queue.shutdown with
    | false =>
      refine .inr (.inr ⟨Nat.lt_of_not_le full, rfl, by simp [full], ?_⟩)
      simp only [full, false_and, if_false, Bool.false_eq_true]
      split
      · exact .inl rfl
      · rename_i quiet
        rw [not_or, List.length_append, List.length_singleton] at quiet
        exact .inr ⟨rfl, fun empty => quiet.1 (by simp [empty]), quiet.2⟩
    | true => exact .inr (.inl ⟨rfl, by simp⟩)

inductive PopOutcome (queue : PacketQueue α) (ticket maxN wanted : Nat) :
    PacketQueue α → PopPc α → Prop
  | firstWait (linger : Bool) (empty : queue.items = []) (running : queue.shutdown = false) :
      PopOutcome queue ticket maxN wanted { queue with wanted } (.firstWait maxN linger true)
  | lingerWait (short : queue.items.length < maxN) (running : queue.shutdown = false) :
      PopOutcome queue ticket maxN wanted { queue with wanted } (.lingerWait maxN true)
  | take : PopOutcome queue ticket maxN wanted
      { queue with items := queue.items.drop maxN, wanted }
      (.notifying ticket (queue.items.take maxN) (decide (queue.items.take maxN ≠ []))
        (decide (queue.items.drop maxN ≠ [])))

theorem lingerOrTake_outcome (queue : PacketQueue α) (ticket maxN : Nat) (linger : Bool) :
    PopOutcome queue ticket maxN queue.wanted (queue.lingerOrTake ticket maxN linger).1
      (queue.lingerOrTake ticket maxN linger).2 := by
  unfold lingerOrTake
  split
  · rename_i lingers
    exact .lingerWait lingers.2.1 lingers.2.2.1
  · exact .take

theorem firstCheck_outcome (queue : PacketQueue α) (ticket maxN : Nat) (linger timedOut : Bool) :
    PopOutcome queue ticket maxN queue.wanted (queue.firstCheck ticket maxN linger timedOut).1
      (queue.firstCheck ticket maxN linger timedOut).2 := by
  unfold firstCheck
  split
  · rename_i waits
    exact .firstWait linger waits.1 waits.2.1
  · exact lingerOrTake_outcome _ _ _ _

theorem lingerCheck_outcome (queue : PacketQueue α) (ticket maxN : Nat) (timedOut : Bool) :
    PopOutcome queue ticket maxN queue.wanted (queue.lingerCheck ticket maxN timedOut).1
      (queue.lingerCheck ticket maxN timedOut).2 := by
  unfold lingerCheck
  split
  · rename_i waits
    exact .lingerWait waits.1 waits.2.1
  · exact .take

theorem enter_outcome (queue : PacketQueue α) (ticket maxN : Nat) (linger : Bool) :
    PopOutcome queue ticket maxN maxN (queue.enter ticket maxN linger).1
      (queue.enter ticket maxN linger).2 := by
  have outcome := firstCheck_outcome { queue with wanted := maxN } ticket maxN linger false
  unfold enter
  generalize PacketQueue.firstCheck { queue with wanted := maxN } ticket maxN linger false = result
    at outcome ⊢
  obtain ⟨next, pc⟩ := result
  cases outcome with
  | firstWait linger empty running => exact .firstWait linger empty running
  | lingerWait short running => exact .lingerWait short running
  | take => exact .take

theorem run_outcome {queue next : PacketQueue α} {ticket maxN : Nat} {timedOut : Bool}
    {pc after : PopPc α} (runs : queue.run ticket timedOut pc = some (maxN, next, after)) :
    ∃ wanted, PopOutcome queue ticket maxN wanted next after ∧
      ((∃ linger, pc = .entering maxN linger) ∧ wanted = maxN ∨
        ((∃ linger, pc = .firstWait maxN linger false) ∨ pc = .lingerWait maxN false) ∧
          wanted = queue.wanted) := by
  unfold run at runs
  split at runs
  · rename_i m linger
    have outcome := enter_outcome queue ticket m linger
    obtain ⟨rfl, result⟩ := Prod.mk.inj (Option.some.inj runs)
    rw [result] at outcome
    exact ⟨_, outcome, .inl ⟨⟨linger, rfl⟩, rfl⟩⟩
  · rename_i m linger
    have outcome := firstCheck_outcome queue ticket m linger timedOut
    obtain ⟨rfl, result⟩ := Prod.mk.inj (Option.some.inj runs)
    rw [result] at outcome
    exact ⟨_, outcome, .inr ⟨.inl ⟨linger, rfl⟩, rfl⟩⟩
  · rename_i m
    have outcome := lingerCheck_outcome queue ticket m timedOut
    obtain ⟨rfl, result⟩ := Prod.mk.inj (Option.some.inj runs)
    rw [result] at outcome
    exact ⟨_, outcome, .inr ⟨.inr rfl, rfl⟩⟩
  · cases runs

end PacketQueue

end NetSentinel
