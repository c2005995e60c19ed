import NetSentinel.Library.Family
import NetSentinel.Library.TransitionSystem

/-! Threads that write messages of several chunks to one log, each message under the same mutex. -/

/-- Where a thread is: not writing, competing for the mutex, or in its critical section with the
    chunks of its message that are left. -/
inductive LogWriter (β : Type*) where
  | idle
  | waiting (message : List β)
  | writing (message rest : List β)

structure LockedLog (ω β : Type*) where
  writers : ω → LogWriter β := fun _ => .idle
  holder : Option ω := none
  log : List β := []
  messages : List (List β) := []

def LogWriter.pending {β : Type*} : LogWriter β → Multiset (List β)
  | .idle => 0
  | .waiting message => {message}
  | .writing message _ => {message}

def LogWriter.left {β : Type*} : LogWriter β → Nat
  | .idle => 0
  | .waiting message => message.length + 2
  | .writing _ rest => rest.length + 1

def LogWriter.unwritten {β : Type*} : LogWriter β → List β
  | .idle => []
  | .waiting message => message
  | .writing _ rest => rest

namespace LockedLog

open Family

variable {ω β : Type*} [DecidableEq ω]

inductive Event (ω β : Type*) where
  | inside
  | write (writer : ω) (message : List β)

inductive Step : Event ω β → LockedLog ω β → LockedLog ω β → Prop
  | write {state : LockedLog ω β} (writer : ω) (message : List β)
      (idle : state.writers writer = .idle) :
      Step (.write writer message) state
        { state with
          writers := Function.update state.writers writer (.waiting message)
          messages := state.messages ++ [message] }
  | lock {state : LockedLog ω β} (writer : ω) (message : List β)
      (waits : state.writers writer = .waiting message) (free : state.holder = none) :
      Step .inside state
        { state with
          writers := Function.update state.writers writer (.writing message message)
          holder := some writer }
  | chunk {state : LockedLog ω β} (writer : ω) (message rest : List β) (chunk : β)
      (due : state.writers writer = .writing message (chunk :: rest)) :
      Step .inside state
        { state with
          writers := Function.update state.writers writer (.writing message rest)
          log := state.log ++ [chunk] }
  | unlock {state : LockedLog ω β} (writer : ω) (message : List β)
      (done : state.writers writer = .writing message []) :
      Step .inside state
        { state with
          writers := Function.update state.writers writer .idle
          holder := none }

def system (ω β : Type*) [DecidableEq ω] : TransitionSystem (LockedLog ω β) where
  start state := state = {}
  step state after := ∃ event, Step event state after

theorem Step.idle_kept {event : Event ω β} {state after : LockedLog ω β}
    (step : Step event state after) {writer : ω} (idle : state.writers writer = .idle) :
    after.writers writer = .idle ∨ ∃ message, event = .write writer message := by
  cases step with
  | write mover message free =>
    by_cases same : writer = mover
    · exact .inr ⟨message, by rw [same]⟩
    · exact .inl ((Function.update_of_ne same _ _).trans idle)
  | lock mover message waits free => exact .inl (update_stays idle (by simp [waits]))
  | chunk mover message rest chunk due => exact .inl (update_stays idle (by simp [due]))
  | unlock mover message done => exact .inl (update_stays idle (by simp [done]))

theorem Step.log_grows {event : Event ω β} {state after : LockedLog ω β}
    (step : Step event state after) : ∃ written, after.log = state.log ++ written := by
  cases step with
  | chunk writer message rest chunk due => exact ⟨[chunk], rfl⟩
  | _ => exact ⟨[], (List.append_nil _).symm⟩

theorem Step.busy {state after : LockedLog ω β} (step : Step .inside state after) :
    ∃ writer, state.writers writer ≠ .idle := by
  cases step with
  | lock writer message waits free => exact ⟨writer, by simp [waits]⟩
  | chunk writer message rest chunk due => exact ⟨writer, by simp [due]⟩
  | unlock writer message done => exact ⟨writer, by simp [done]⟩

def Event.cost : Event ω β → Nat
  | .inside => 0
  | .write _ message => message.length + 3

theorem Step.spends {event : Event ω β} {state after : LockedLog ω β}
    (step : Step event state after) : ∃ mover pc, after.writers = Function.update state.writers mover pc ∧
      pc.left < (state.writers mover).left + event.cost ∧
        ∀ writer message, event = .write writer message → mover = writer := by
  cases step with
  | write writer message idle =>
    refine ⟨writer, _, rfl, ?_, fun other sent same => (Event.write.inj same).1⟩
    rw [idle]
    simp only [LogWriter.left, Event.cost]
    omega
  | lock writer message waits free =>
    refine ⟨writer, _, rfl, ?_, nofun⟩
    rw [waits]
    exact Nat.lt_succ_self _
  | chunk writer message rest chunk due =>
    refine ⟨writer, _, rfl, ?_, nofun⟩
    rw [due]
    exact Nat.lt_succ_self _
  | unlock writer message done =>
    refine ⟨writer, _, rfl, ?_, nofun⟩
    rw [done]
    exact Nat.lt_succ_self _

theorem log_of_unique [Unique ω] {state : LockedLog ω β} (reachable : (system ω β).Reachable state) :
    state.log ++ (state.writers default).unwritten = state.messages.flatten := by
  refine TransitionSystem.Reachable.invariant (P := fun state : LockedLog ω β =>
    state.log ++ (state.writers default).unwritten = state.messages.flatten) ?_ ?_ reachable
  · intro first start
    rw [show first = _ from start]
    rfl
  · intro before after _ step log
    obtain ⟨event, step⟩ := step
    cases step with
    | write writer message idle =>
      rw [at_default idle] at log
      dsimp only
      rw [update_default, List.flatten_append, List.flatten_singleton, ← log, List.append_assoc]
      rfl
    | lock writer message waits free =>
      rw [at_default waits] at log
      dsimp only
      rw [update_default]
      exact log
    | chunk writer message rest chunk due =>
      rw [at_default due] at log
      dsimp only
      rw [update_default, List.append_assoc]
      exact log
    | unlock writer message done =>
      rw [at_default done] at log
      dsimp only
      rw [update_default]
      exact log

/-- Only the holder of the mutex writes, and a part of its message may be in the log already. -/
structure Exclusive (state : LockedLog ω β) (part : List β) : Prop where
  writing : ∀ writer message rest, state.writers writer = .writing message rest →
    state.holder = some writer ∧ message = part ++ rest
  free : state.holder = none → part = []
  held : ∀ writer, state.holder = some writer →
    ∃ message rest, state.writers writer = .writing message rest

namespace Exclusive

variable {state : LockedLog ω β} {part : List β} {writer : ω} {message rest : List β}

theorem write (exclusive : Exclusive state part) (idle : state.writers writer = .idle)
    (messages : List (List β)) :
    Exclusive { state with
      writers := Function.update state.writers writer (.waiting message), messages } part := by
  refine ⟨?_, exclusive.free, ?_⟩
  · intro other sent left found
    rcases update_cases found with ⟨-, new⟩ | ⟨-, old⟩
    · cases new
    · exact exclusive.writing other sent left old
  · intro other holder
    obtain ⟨sent, left, busy⟩ := exclusive.held other holder
    exact ⟨sent, left, update_stays busy (by simp [idle])⟩

theorem lock (exclusive : Exclusive state part) (free : state.holder = none) (writer : ω)
    (message : List β) :
    Exclusive { state with
      writers := Function.update state.writers writer (.writing message message)
      holder := some writer } part := by
  refine ⟨?_, by simp, ?_⟩
  · intro other sent left found
    rcases update_cases found with ⟨same, new⟩ | ⟨-, old⟩
    · cases new
      rw [same, exclusive.free free]
      exact ⟨rfl, rfl⟩
    · have holder := (exclusive.writing other sent left old).1
      rw [free] at holder
      cases holder
  · intro other holder
    cases holder
    exact ⟨message, message, Function.update_self _ _ _⟩

theorem chunk {first : β} (exclusive : Exclusive state part)
    (due : state.writers writer = .writing message (first :: rest)) (log : List β) :
    Exclusive { state with
      writers := Function.update state.writers writer (.writing message rest), log }
      (part ++ [first]) := by
  obtain ⟨holds, split⟩ := exclusive.writing writer message _ due
  refine ⟨?_, ?_, ?_⟩
  · intro other sent left found
    rcases update_cases found with ⟨same, new⟩ | ⟨apart, old⟩
    · cases new
      rw [same, split, List.append_assoc]
      exact ⟨holds, rfl⟩
    · have holder := (exclusive.writing other sent left old).1
      exact absurd (Option.some.inj (holder.symm.trans holds)) apart
  · intro free
    rw [holds] at free
    cases free
  · intro other holder
    obtain rfl := Option.some.inj (holds.symm.trans holder)
    exact ⟨message, rest, Function.update_self _ _ _⟩

theorem unlock (exclusive : Exclusive state part)
    (done : state.writers writer = .writing message []) :
    Exclusive { state with
      writers := Function.update state.writers writer .idle, holder := none } [] := by
  have holds := (exclusive.writing writer message _ done).1
  refine ⟨?_, fun _ => rfl, fun other holder => nomatch holder⟩
  intro other sent left found
  rcases update_cases found with ⟨-, new⟩ | ⟨apart, old⟩
  · cases new
  · have holder := (exclusive.writing other sent left old).1
    exact absurd (Option.some.inj (holder.symm.trans holds)) apart

end Exclusive

variable [Fintype ω] {state after : LockedLog ω β} {event : Event ω β}

/-- The log is made of whole messages, up to the part of the one that is being written. -/
structure Whole (state : LockedLog ω β) (whole : List (List β)) (part : List β) : Prop where
  exclusive : Exclusive state part
  log : state.log = whole.flatten ++ part
  messages : (whole : Multiset (List β)) + ∑ writer, (state.writers writer).pending = state.messages

theorem Whole.step {whole : List (List β)} {part : List β} (holds : Whole state whole part)
    (step : Step event state after) : ∃ whole part, Whole after whole part := by
  obtain ⟨exclusive, log, messages⟩ := holds
  have pending (writer : ω) (pc : LogWriter β) := sum_update LogWriter.pending state.writers writer pc
  have same {writer : ω} {pc : LogWriter β} (kept : pc.pending = (state.writers writer).pending) :=
    sum_update_same LogWriter.pending state.writers kept
  cases step with
  | write writer message idle =>
    refine ⟨whole, part, exclusive.write idle _, log, ?_⟩
    have moved := pending writer (.waiting message)
    rw [idle, show (LogWriter.idle : LogWriter β).pending = 0 from rfl, add_zero] at moved
    dsimp only
    rw [moved, ← add_assoc, messages, ← Multiset.coe_add]
    rfl
  | lock writer message waits free =>
    refine ⟨whole, part, exclusive.lock free writer message, log, ?_⟩
    dsimp only
    rw [same (by rw [waits]; rfl), messages]
  | chunk writer message rest chunk due =>
    refine ⟨whole, part ++ [chunk], exclusive.chunk due _, ?_, ?_⟩
    · dsimp only
      rw [log, List.append_assoc]
    · dsimp only
      rw [same (by rw [due]; rfl), messages]
  | unlock writer message done =>
    refine ⟨whole ++ [part], [], exclusive.unlock done, ?_, ?_⟩
    · rw [List.flatten_append, List.flatten_singleton, List.append_nil]
      exact log
    · have split := (exclusive.writing writer message _ done).2
      rw [List.append_nil] at split
      have moved := pending writer .idle
      rw [done, show (LogWriter.idle : LogWriter β).pending = 0 from rfl, add_zero, split] at moved
      dsimp only
      rw [← messages, ← moved, ← Multiset.coe_add, add_assoc, add_comm (Multiset.ofList [part])]
      rfl

theorem Whole.of_reachable (reachable : (system ω β).Reachable state) :
    ∃ whole part, Whole state whole part := by
  refine TransitionSystem.Reachable.invariant (P := fun state => ∃ whole part, Whole state whole part)
    ?_ ?_ reachable
  · intro first start
    rw [show first = _ from start]
    exact ⟨[], [], ⟨nofun, fun _ => rfl, nofun⟩, rfl, by simp [LogWriter.pending]⟩
  · intro before after _ step holds
    obtain ⟨event, step⟩ := step
    obtain ⟨whole, part, holds⟩ := holds
    exact holds.step step

theorem moves (reachable : (system ω β).Reachable state) {writer : ω}
    (busy : state.writers writer ≠ .idle) : ∃ after, Step .inside state after := by
  obtain ⟨whole, part, exclusive, -, -⟩ := Whole.of_reachable reachable
  have going {holder : ω} {message rest : List β}
      (writes : state.writers holder = .writing message rest) : ∃ after, Step .inside state after := by
    cases rest with
    | nil => exact ⟨_, .unlock holder message writes⟩
    | cons chunk rest => exact ⟨_, .chunk holder message rest chunk writes⟩
  cases position : state.writers writer with
  | idle => exact absurd position busy
  | waiting message =>
    cases held : state.holder with
    | none => exact ⟨_, .lock writer message position held⟩
    | some holder =>
      obtain ⟨other, rest, writes⟩ := exclusive.held holder held
      exact going writes
  | writing message rest => exact going position

/-- When nobody writes, the log has each message once and in one piece. -/
theorem messages_in_one_piece (reachable : (system ω β).Reachable state)
    (idle : ∀ writer, state.writers writer = .idle) :
    ∃ whole : List (List β), whole.Perm state.messages ∧ state.log = whole.flatten := by
  obtain ⟨whole, part, exclusive, log, messages⟩ := Whole.of_reachable reachable
  have free : state.holder = none := by
    cases holder : state.holder with
    | none => rfl
    | some writer =>
      obtain ⟨message, rest, busy⟩ := exclusive.held writer holder
      rw [idle writer] at busy
      cases busy
  rw [sum_of_idle LogWriter.pending idle rfl, add_zero] at messages
  rw [exclusive.free free, List.append_nil] at log
  exact ⟨whole, Multiset.coe_eq_coe.mp messages, log⟩

end LockedLog
