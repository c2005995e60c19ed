import Mathlib.Data.List.Nodup
import NetSentinel.Library.Family
import NetSentinel.Library.TransitionSystem

/-- What has happened so far: the item of each call, the calls whose item has been enqueued, the
    answers given, and the batches taken with the size each was limited to. -/
structure FifoHistory (α : Type*) where
  calls : List α := []
  enqueued : List (Nat × α) := []
  answers : List (Nat × Bool) := []
  batches : List (Nat × List α) := []

/-- A bounded FIFO that can be closed. Every call of a producer is open, then decided, then
    answered. -/
structure FifoState (π α : Type*) where
  items : List α
  capacity : Nat
  closed : Bool
  calls : π → Option (Nat × (α ⊕ Bool))
  history : FifoHistory α

namespace FifoHistory

variable {α : Type*}

def enqueuedItems (history : FifoHistory α) : List α := history.enqueued.map Prod.snd

def accepted (history : FifoHistory α) : List Nat := history.enqueued.map Prod.fst

def taken (history : FifoHistory α) : List α := (history.batches.map Prod.snd).flatten

def removals (history : FifoHistory α) : List (Nat × List α) :=
  (history.batches.zipIdx.map fun entry => (entry.2, entry.1.2)).filter fun entry => !entry.2.isEmpty

theorem removals_append (history : FifoHistory α) (limit : Nat) (batch : List α) :
    removals { history with batches := history.batches ++ [(limit, batch)] } =
      history.removals ++ if batch = [] then [] else [(history.batches.length, batch)] := by
  cases batch with
  | nil => simp [removals, List.zipIdx_append]
  | cons item batch => simp [removals, List.zipIdx_append]

theorem removals_nonempty (history : FifoHistory α) {entry : Nat × List α}
    (removed : entry ∈ history.removals) : 1 ≤ entry.2.length := by
  have kept := (List.mem_filter.mp removed).2
  rw [Bool.not_eq_true', List.isEmpty_eq_false_iff] at kept
  exact List.length_pos_iff.mpr kept

theorem removals_flatten (history : FifoHistory α) :
    (history.removals.map Prod.snd).flatten = history.taken := by
  have nonempty : ∀ entries : List (Nat × List α),
      ((entries.filter fun entry => !entry.2.isEmpty).map Prod.snd).flatten =
        (entries.map Prod.snd).flatten := by
    intro entries
    induction entries with
    | nil => rfl
    | cons entry entries ih =>
      obtain ⟨place, batch⟩ := entry
      cases batch with
      | nil => simpa using ih
      | cons item batch => simpa using ih
  rw [removals, nonempty, taken, List.map_map]
  have forget : (Prod.snd ∘ fun entry : (Nat × List α) × Nat => (entry.2, entry.1.2)) =
      Prod.snd ∘ Prod.fst := rfl
  rw [forget, ← List.map_map, List.zipIdx_map_fst]

end FifoHistory

namespace FifoState

variable {π α : Type*}

structure Ordered (capacity : Nat) (state : FifoState π α) : Prop where
  conserved : state.history.enqueuedItems = state.history.taken ++ state.items
  bounded : state.items.length ≤ capacity
  capacity : state.capacity = capacity
  sized : ∀ batch ∈ state.history.batches, batch.2.length ≤ batch.1

/-- A call that is decided, answered or not: it was made, and its item is in the queue or has been
    exactly if it is answered with `true`. -/
structure Decided (state : FifoState π α) (call : Nat) (result : Bool) : Prop where
  made : call < state.history.calls.length
  accepted : result = true ↔ call ∈ state.history.accepted
  refused : result = false → state.closed

structure Answered (state : FifoState π α) : Prop where
  undecided : ∀ producer call item, state.calls producer = some (call, .inl item) →
    state.history.calls[call]? = some item ∧ call ∉ state.history.accepted
  decided : ∀ producer call result, state.calls producer = some (call, .inr result) →
    Decided state call result
  distinct : ∀ one other first second, state.calls one = some first →
    state.calls other = some second → first.1 = second.1 → one = other
  unanswered : ∀ producer call status, state.calls producer = some (call, status) →
    call ∉ state.history.answers.map Prod.fst
  answered : ∀ entry ∈ state.history.answers, Decided state entry.1 entry.2
  enqueued : ∀ entry ∈ state.history.enqueued, state.history.calls[entry.1]? = some entry.2
  once : state.history.accepted.Nodup
  accounted : ∀ call ∈ state.history.accepted, (call, true) ∈ state.history.answers ∨
    ∃ producer, state.calls producer = some (call, .inr true)

namespace Answered

variable {state : FifoState π α}

theorem made (answered : Answered state) {producer : π} {entry : Nat × (α ⊕ Bool)}
    (found : state.calls producer = some entry) : entry.1 < state.history.calls.length := by
  obtain ⟨call, item | result⟩ := entry
  · exact (List.getElem?_eq_some_iff.mp (answered.undecided producer call item found).1).1
  · exact (answered.decided producer call result found).made

theorem accepted_made (answered : Answered state) {call : Nat}
    (member : call ∈ state.history.accepted) : call < state.history.calls.length := by
  obtain ⟨entry, enqueued, rfl⟩ := List.mem_map.mp member
  exact (List.getElem?_eq_some_iff.mp (answered.enqueued entry enqueued)).1

theorem own_call (answered : Answered state) {producer : π} {call : Nat} {status : α ⊕ Bool}
    (found : state.calls producer = some (call, status)) (other : π) (before : Nat × (α ⊕ Bool))
    (apart : other ≠ producer) (elsewhere : state.calls other = some before) :
    before.1 ≠ call :=
  fun same => apart (answered.distinct other producer before (call, status) elsewhere found same)

end Answered

open Family

variable [DecidableEq π]

inductive Step : FifoState π α → FifoState π α → Prop
  | call {state : FifoState π α} (producer : π) (item : α)
      (idle : state.calls producer = none) :
      Step state { state with
        calls := Function.update state.calls producer
          (some (state.history.calls.length, .inl item))
        history := { state.history with calls := state.history.calls ++ [item] } }
  | refuse {state : FifoState π α} (producer : π) (call : Nat) (item : α)
      (undecided : state.calls producer = some (call, .inl item)) (closed : state.closed) :
      Step state { state with
        calls := Function.update state.calls producer (some (call, .inr false)) }
  | enqueue {state : FifoState π α} (producer : π) (call : Nat) (item : α)
      (undecided : state.calls producer = some (call, .inl item))
      (room : state.items.length < state.capacity) (running : state.closed = false) :
      Step state { state with
        items := state.items ++ [item]
        calls := Function.update state.calls producer (some (call, .inr true))
        history := { state.history with enqueued := state.history.enqueued ++ [(call, item)] } }
  | answer {state : FifoState π α} (producer : π) (call : Nat) (result : Bool)
      (decided : state.calls producer = some (call, .inr result)) :
      Step state { state with
        calls := Function.update state.calls producer none
        history := { state.history with answers := state.history.answers ++ [(call, result)] } }
  | take {state : FifoState π α} (limit : Nat) :
      Step state { state with
        items := state.items.drop limit
        history := { state.history with
          batches := state.history.batches ++ [(limit, state.items.take limit)] } }
  | close {state : FifoState π α} : Step state { state with closed := true }

def system (π α : Type*) [DecidableEq π] (capacity : Nat) : TransitionSystem (FifoState π α) where
  start state := state = ⟨[], capacity, false, fun _ => none, {}⟩
  step := Step

theorem Ordered.of_reachable {capacity : Nat} {state : FifoState π α}
    (reachable : (system π α capacity).Reachable state) : Ordered capacity state := by
  refine TransitionSystem.Reachable.invariant ?_ ?_ reachable
  · intro state start
    rw [show state = _ from start]
    exact ⟨rfl, Nat.zero_le _, rfl, by simp⟩
  · intro state after _ step ordered
    obtain ⟨conserved, bounded, sameCapacity, sized⟩ := ordered
    cases step with
    | call => exact ⟨conserved, bounded, sameCapacity, sized⟩
    | refuse => exact ⟨conserved, bounded, sameCapacity, sized⟩
    | answer => exact ⟨conserved, bounded, sameCapacity, sized⟩
    | close => exact ⟨conserved, bounded, sameCapacity, sized⟩
    | enqueue producer call item undecided room running =>
      refine ⟨?_, ?_, sameCapacity, sized⟩
      · simp only [FifoHistory.enqueuedItems, FifoHistory.taken] at conserved ⊢
        rw [List.map_append, conserved, List.append_assoc, List.map_singleton]
      · rw [sameCapacity] at room
        rw [List.length_append, List.length_singleton]
        exact room
    | take limit =>
      refine ⟨?_, ?_, sameCapacity, ?_⟩
      · simp only [FifoHistory.enqueuedItems, FifoHistory.taken] at conserved ⊢
        rw [conserved, List.map_append, List.flatten_append, List.append_assoc, List.map_singleton,
          List.flatten_singleton, List.take_append_drop]
      · have shorter := List.length_drop (i := limit) (l := state.items)
        dsimp only
        omega
      · intro batch member
        rcases List.mem_append.mp member with old | new
        · exact sized batch old
        · rw [List.mem_singleton.mp new]
          exact List.length_take_le _ _

namespace Answered

variable {state : FifoState π α}

theorem distinct_update (answered : Answered state) {producer : π} {entry : Nat × (α ⊕ Bool)}
    (own : ∀ other before, other ≠ producer → state.calls other = some before →
      before.1 ≠ entry.1) :
    ∀ one other first second, Function.update state.calls producer (some entry) one = some first →
      Function.update state.calls producer (some entry) other = some second →
      first.1 = second.1 → one = other := by
  intro one other first second here there same
  rcases update_cases here with ⟨rfl, mine⟩ | ⟨apart, old⟩
  · rcases update_cases there with ⟨rfl, -⟩ | ⟨away, older⟩
    · rfl
    · rw [← Option.some.inj mine] at same
      exact absurd same.symm (own other second away older)
  · rcases update_cases there with ⟨rfl, mine⟩ | ⟨away, older⟩
    · rw [← Option.some.inj mine] at same
      exact absurd same (own one first apart old)
    · exact answered.distinct one other first second old older same

theorem unanswered_update (answered : Answered state) {producer : π} {call : Nat}
    {status : α ⊕ Bool} (own : state.calls producer = some (call, status)) (next : α ⊕ Bool) :
    ∀ other earlier later, Function.update state.calls producer (some (call, next)) other =
      some (earlier, later) → earlier ∉ state.history.answers.map Prod.fst := by
  intro other earlier later found
  rcases update_cases found with ⟨-, new⟩ | ⟨-, old⟩
  · cases new
    exact answered.unanswered producer call status own
  · exact answered.unanswered other earlier later old

theorem accounted_update (answered : Answered state) {producer : π}
    (waits : ∀ call, state.calls producer ≠ some (call, .inr true)) (entry : Nat × (α ⊕ Bool)) :
    ∀ call ∈ state.history.accepted, (call, true) ∈ state.history.answers ∨
      ∃ other, Function.update state.calls producer (some entry) other =
        some (call, .inr true) := by
  intro call member
  rcases answered.accounted call member with given | ⟨other, found⟩
  · exact .inl given
  · exact .inr ⟨other, update_stays found (waits call)⟩

theorem call (answered : Answered state) (producer : π) (item : α)
    (idle : state.calls producer = none) :
    Answered { state with
      calls := Function.update state.calls producer (some (state.history.calls.length, .inl item))
      history := { state.history with calls := state.history.calls ++ [item] } } := by
  have longer : state.history.calls.length ≤ (state.history.calls ++ [item]).length := by simp
  have kept : ∀ call result, Decided state call result →
      Decided { state with
        calls := Function.update state.calls producer (some (state.history.calls.length, .inl item))
        history := { state.history with calls := state.history.calls ++ [item] } } call result :=
    fun call result decided => ⟨Nat.lt_of_lt_of_le decided.made longer, decided.accepted, decided.refused⟩
  have known : ∀ {call : Nat} {packet : α}, state.history.calls[call]? = some packet →
      (state.history.calls ++ [item])[call]? = some packet := by
    intro call packet found
    rw [List.getElem?_append_left (List.getElem?_eq_some_iff.mp found).1]
    exact found
  constructor
  case undecided =>
    intro other call packet found
    rcases update_cases found with ⟨-, new⟩ | ⟨-, old⟩
    · cases new
      refine ⟨by simp, fun member => ?_⟩
      exact absurd (answered.accepted_made member) (Nat.lt_irrefl _)
    · obtain ⟨same, fresh⟩ := answered.undecided other call packet old
      exact ⟨known same, fresh⟩
  case decided =>
    intro other call result found
    rcases update_cases found with ⟨-, new⟩ | ⟨-, old⟩
    · cases new
    · exact kept call result (answered.decided other call result old)
  case distinct =>
    exact answered.distinct_update fun other before _ found =>
      Nat.ne_of_lt (answered.made found)
  case unanswered =>
    intro other call status found
    rcases update_cases found with ⟨-, new⟩ | ⟨-, old⟩
    · cases new
      intro member
      obtain ⟨answer, given, same⟩ := List.mem_map.mp member
      have made := (answered.answered answer given).made
      omega
    · exact answered.unanswered other call status old
  case answered => exact fun entry given => kept _ _ (answered.answered entry given)
  case enqueued => exact fun entry member => known (answered.enqueued entry member)
  case once => exact answered.once
  case accounted => exact answered.accounted_update (by simp [idle]) _

theorem refuse (answered : Answered state) (producer : π) (call : Nat) (item : α)
    (undecided : state.calls producer = some (call, .inl item)) (closed : state.closed) :
    Answered { state with
      calls := Function.update state.calls producer (some (call, .inr false)) } := by
  obtain ⟨known, fresh⟩ := answered.undecided producer call item undecided
  constructor
  case undecided =>
    intro other earlier packet found
    rcases update_cases found with ⟨-, new⟩ | ⟨-, old⟩
    · cases new
    · exact answered.undecided other earlier packet old
  case decided =>
    intro other earlier result found
    rcases update_cases found with ⟨-, new⟩ | ⟨-, old⟩
    · cases new
      refine ⟨answered.made undecided, iff_of_false (by simp) fresh, fun _ => closed⟩
    · obtain ⟨made, accepted, refused⟩ := answered.decided other earlier result old
      exact ⟨made, accepted, refused⟩
  case distinct => exact answered.distinct_update (answered.own_call undecided)
  case unanswered => exact answered.unanswered_update undecided _
  case answered =>
    intro entry given
    obtain ⟨made, accepted, refused⟩ := answered.answered entry given
    exact ⟨made, accepted, refused⟩
  case enqueued => exact answered.enqueued
  case once => exact answered.once
  case accounted => exact answered.accounted_update (by simp [undecided]) _

theorem enqueue (answered : Answered state) (producer : π) (call : Nat) (item : α)
    (undecided : state.calls producer = some (call, .inl item)) :
    Answered { state with
      items := state.items ++ [item]
      calls := Function.update state.calls producer (some (call, .inr true))
      history := { state.history with enqueued := state.history.enqueued ++ [(call, item)] } } := by
  obtain ⟨known, fresh⟩ := answered.undecided producer call item undecided
  have members : ∀ earlier,
      earlier ∈ (state.history.enqueued ++ [(call, item)]).map Prod.fst ↔
        earlier ∈ state.history.accepted ∨ earlier = call := by
    intro earlier
    rw [List.map_append, List.mem_append, List.map_singleton, List.mem_singleton]
    rfl
  have kept : ∀ earlier result, Decided state earlier result → earlier ≠ call →
      Decided { state with
        items := state.items ++ [item]
        calls := Function.update state.calls producer (some (call, .inr true))
        history := { state.history with
          enqueued := state.history.enqueued ++ [(call, item)] } } earlier result := by
    intro earlier result decided apart
    refine ⟨decided.made, ?_, decided.refused⟩
    rw [decided.accepted]
    exact (members earlier).trans (or_iff_left apart) |>.symm
  constructor
  case undecided =>
    intro other earlier packet found
    rcases update_cases found with ⟨-, new⟩ | ⟨apart, old⟩
    · cases new
    · obtain ⟨same, outside⟩ := answered.undecided other earlier packet old
      refine ⟨same, fun member => ?_⟩
      rcases (members earlier).mp member with before | now
      · exact outside before
      · exact answered.own_call undecided other _ apart old now
  case decided =>
    intro other earlier result found
    rcases update_cases found with ⟨-, new⟩ | ⟨apart, old⟩
    · cases new
      refine ⟨answered.made undecided, ?_, fun impossible => by cases impossible⟩
      exact iff_of_true rfl ((members call).mpr (.inr rfl))
    · exact kept earlier result (answered.decided other earlier result old)
        (answered.own_call undecided other _ apart old)
  case distinct => exact answered.distinct_update (answered.own_call undecided)
  case unanswered => exact answered.unanswered_update undecided _
  case answered =>
    intro entry given
    refine kept _ _ (answered.answered entry given) fun same => ?_
    exact answered.unanswered producer call _ undecided
      (List.mem_map.mpr ⟨entry, given, same⟩)
  case enqueued =>
    intro entry member
    rcases List.mem_append.mp member with before | now
    · exact answered.enqueued entry before
    · rw [List.mem_singleton.mp now]
      exact known
  case once =>
    show ((state.history.enqueued ++ [(call, item)]).map Prod.fst).Nodup
    rw [List.map_append, List.map_singleton]
    exact answered.once.append (List.nodup_singleton call)
      (List.disjoint_singleton.mpr fresh)
  case accounted =>
    intro earlier member
    rcases (members earlier).mp member with before | now
    · exact answered.accounted_update (by simp [undecided]) _ earlier before
    · rw [now]
      exact .inr ⟨producer, Function.update_self producer _ _⟩

theorem answer (answered : Answered state) (producer : π) (call : Nat) (result : Bool)
    (decided : state.calls producer = some (call, .inr result)) :
    Answered { state with
      calls := Function.update state.calls producer none
      history := { state.history with answers := state.history.answers ++ [(call, result)] } } := by
  have others : ∀ {other : π} {entry : Nat × (α ⊕ Bool)},
      Function.update state.calls producer none other = some entry →
        other ≠ producer ∧ state.calls other = some entry := by
    intro other entry found
    rcases update_cases found with ⟨-, new⟩ | old
    · cases new
    · exact old
  have kept : ∀ earlier outcome, Decided state earlier outcome →
      Decided { state with
        calls := Function.update state.calls producer none
        history := { state.history with
          answers := state.history.answers ++ [(call, result)] } } earlier outcome :=
    fun earlier outcome before => ⟨before.made, before.accepted, before.refused⟩
  constructor
  case undecided =>
    exact fun other earlier item found => answered.undecided other earlier item (others found).2
  case decided =>
    exact fun other earlier outcome found =>
      kept earlier outcome (answered.decided other earlier outcome (others found).2)
  case distinct =>
    exact fun one other first second here there =>
      answered.distinct one other first second (others here).2 (others there).2
  case unanswered =>
    intro other earlier status found member
    obtain ⟨apart, old⟩ := others found
    rw [List.map_append, List.mem_append] at member
    rcases member with before | now
    · exact answered.unanswered other earlier status old before
    · exact answered.own_call decided other _ apart old (List.mem_singleton.mp now)
  case answered =>
    intro entry given
    rcases List.mem_append.mp given with before | now
    · exact kept _ _ (answered.answered entry before)
    · rw [List.mem_singleton.mp now]
      exact kept _ _ (answered.decided producer call result decided)
  case enqueued => exact answered.enqueued
  case once => exact answered.once
  case accounted =>
    intro earlier member
    rcases answered.accounted earlier member with given | ⟨other, found⟩
    · exact .inl (List.mem_append_left _ given)
    · by_cases same : other = producer
      · subst same
        rw [decided] at found
        cases found
        exact .inl (List.mem_append_right _ (List.mem_singleton.mpr rfl))
      · exact .inr ⟨other, (Function.update_of_ne same _ _).trans found⟩

theorem of_reachable {capacity : Nat} (reachable : (system π α capacity).Reachable state) :
    Answered state := by
  refine TransitionSystem.Reachable.invariant ?_ ?_ reachable
  · intro state start
    rw [show state = _ from start]
    constructor <;> simp [FifoHistory.accepted]
  · intro state after _ step answered
    cases step with
    | call producer item idle => exact answered.call producer item idle
    | refuse producer call item undecided closed =>
      exact answered.refuse producer call item undecided closed
    | enqueue producer call item undecided => exact answered.enqueue producer call item undecided
    | answer producer call result decided => exact answered.answer producer call result decided
    | take limit =>
      obtain ⟨undecided, decided, distinct, unanswered, answers, enqueued, once, accounted⟩ :=
        answered
      exact ⟨undecided, fun producer call result found =>
        ⟨(decided producer call result found).1, (decided producer call result found).2,
          (decided producer call result found).3⟩, distinct, unanswered,
        fun entry given => ⟨(answers entry given).1, (answers entry given).2,
          (answers entry given).3⟩, enqueued, once, accounted⟩
    | close =>
      obtain ⟨undecided, decided, distinct, unanswered, answers, enqueued, once, accounted⟩ :=
        answered
      exact ⟨undecided, fun producer call result found =>
        ⟨(decided producer call result found).1, (decided producer call result found).2,
          fun _ => rfl⟩, distinct, unanswered,
        fun entry given => ⟨(answers entry given).1, (answers entry given).2, fun _ => rfl⟩,
        enqueued, once, accounted⟩

end Answered

/-- What a single producer that is not cut off by a close has sent is enqueued in order. -/
structure SentInOrder (state : FifoState Unit α) : Prop where
  open_call : ∀ call item, state.calls () = some (call, .inl item) →
    state.history.calls = state.history.enqueuedItems ++ [item]
  no_call : (∀ call item, state.calls () ≠ some (call, .inl item)) →
    state.history.calls = state.history.enqueuedItems
  pending : ∀ call, state.calls () ≠ some (call, .inr false)
  answers : ∀ entry ∈ state.history.answers, entry.2 = true

theorem SentInOrder.step {state after : FifoState Unit α} (sent : SentInOrder state)
    (finished : state.closed → state.calls () = none) (step : Step state after) :
    SentInOrder after := by
  obtain ⟨open_call, no_call, pending, answers⟩ := sent
  cases step with
  | call producer item idle =>
    have settled := no_call (by simp [idle])
    refine ⟨?_, ?_, by simp, answers⟩
    · intro call packet found
      simp only [Function.update_self, Option.some.injEq, Prod.mk.injEq, Sum.inl.injEq] at found
      obtain ⟨-, rfl⟩ := found
      exact congrArg (· ++ [item]) settled
    · intro impossible
      exact absurd rfl (impossible state.history.calls.length item)
  | refuse producer call item undecided closed =>
    rw [finished closed] at undecided
    cases undecided
  | enqueue producer call item undecided room running =>
    have settled := open_call call item undecided
    refine ⟨by simp, ?_, by simp, answers⟩
    intro _
    rw [FifoHistory.enqueuedItems, List.map_append]
    exact settled
  | answer producer call result decided =>
    have accepted : result = true := by
      cases result with
      | true => rfl
      | false => exact absurd decided (pending call)
    refine ⟨by simp, fun _ => no_call (by simp [decided]), by simp, ?_⟩
    intro entry given
    rcases List.mem_append.mp given with before | now
    · exact answers entry before
    · rw [List.mem_singleton.mp now]
      exact accepted
  | take limit => exact ⟨open_call, no_call, pending, answers⟩
  | close => exact ⟨open_call, no_call, pending, answers⟩

/-- From a closed FIFO on nothing is enqueued, and what it holds is taken in order. -/
structure Draining (closing state : FifoState π α) : Prop where
  closed : state.closed
  enqueued : state.history.enqueued = closing.history.enqueued
  taken : ∃ batches, state.history.batches = closing.history.batches ++ batches ∧
    (batches.map Prod.snd).flatten ++ state.items = closing.items

theorem Draining.of_leads {capacity : Nat} {closing state : FifoState π α}
    (closed : closing.closed) (run : (system π α capacity).Leads closing state) :
    Draining closing state := by
  induction run with
  | refl => exact ⟨closed, rfl, [], by simp, rfl⟩
  | @tail current after earlier step ih =>
    obtain ⟨stillClosed, enqueued, batches, more, rest⟩ := ih
    cases step with
    | call => exact ⟨stillClosed, enqueued, batches, more, rest⟩
    | refuse => exact ⟨stillClosed, enqueued, batches, more, rest⟩
    | answer => exact ⟨stillClosed, enqueued, batches, more, rest⟩
    | close => exact ⟨rfl, enqueued, batches, more, rest⟩
    | enqueue producer call item undecided room running =>
      rw [running] at stillClosed
      cases stillClosed
    | take limit =>
      refine ⟨stillClosed, enqueued, batches ++ [(limit, current.items.take limit)], ?_, ?_⟩
      · dsimp only
        rw [more, List.append_assoc]
      · rw [List.map_append, List.flatten_append, List.append_assoc, List.map_singleton,
          List.flatten_singleton, List.take_append_drop]
        exact rest

end FifoState
