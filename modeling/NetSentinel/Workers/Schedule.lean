import Mathlib.Data.List.Enum
import NetSentinel.FlowTracker.Tracker
import NetSentinel.Library.Family
import NetSentinel.Library.TransitionSystem

namespace NetSentinel

/-- Workers between the FIFO queue and the tracker. Every packet carries its capture position. -/
structure Schedule (ω : Type*) where
  queue : List (QueuedPacket × Nat)
  batch : ω → List (QueuedPacket × Nat)
  observed : List (ObserveCall × Nat)

namespace Schedule

variable {ω : Type*}

/-- A worker done with its batch takes the next one off the queue; a worker with a batch observes
    its next packet. -/
inductive Step [DecidableEq ω] : Schedule ω → Schedule ω → Prop
  | take {schedule : Schedule ω} (worker : ω) (taken rest : List (QueuedPacket × Nat))
      (idle : schedule.batch worker = []) (nonempty : taken ≠ [])
      (front : schedule.queue = taken ++ rest) :
      Step schedule
        { schedule with queue := rest, batch := Function.update schedule.batch worker taken }
  | observe {schedule : Schedule ω} (worker : ω) (packet : QueuedPacket) (position : Nat)
      (rest : List (QueuedPacket × Nat)) (order : List UInt32)
      (busy : schedule.batch worker = (packet, position) :: rest) :
      Step schedule
        { schedule with
          batch := Function.update schedule.batch worker rest
          observed := schedule.observed ++ [(⟨packet, order⟩, position)] }

def system (ω : Type*) [DecidableEq ω] (stream : List QueuedPacket) :
    TransitionSystem (Schedule ω) where
  start schedule := schedule = ⟨stream.zipIdx, fun _ => [], []⟩
  step := Step

def calls (schedule : Schedule ω) : List ObserveCall := schedule.observed.map Prod.fst

def positions (schedule : Schedule ω) : List Nat := schedule.observed.map Prod.snd

/-- Every packet of the stream is in one place: what is queued comes after all that has been taken,
    and no position is in two batches or both held and observed. -/
structure Placed (stream : List QueuedPacket) (schedule : Schedule ω) : Prop where
  queued : schedule.queue <:+ stream.zipIdx
  held : ∀ worker, ∀ entry ∈ schedule.batch worker, entry ∈ stream.zipIdx
  seen : ∀ entry ∈ schedule.observed, (entry.1.packet, entry.2) ∈ stream.zipIdx
  heldFirst : ∀ worker, ∀ entry ∈ schedule.batch worker, ∀ later ∈ schedule.queue, entry.2 < later.2
  seenFirst : ∀ position ∈ schedule.positions, ∀ later ∈ schedule.queue, position < later.2
  heldOnce : ∀ worker, (schedule.batch worker).Pairwise fun a b => a.2 ≠ b.2
  seenOnce : schedule.positions.Nodup
  apart : ∀ worker other, worker ≠ other →
    ∀ entry ∈ schedule.batch worker, ∀ elsewhere ∈ schedule.batch other, entry.2 ≠ elsewhere.2
  fresh : ∀ worker, ∀ entry ∈ schedule.batch worker, entry.2 ∉ schedule.positions

theorem zipIdx_increasing (stream : List QueuedPacket) :
    stream.zipIdx.Pairwise fun a b => a.2 < b.2 := by
  have positions : (stream.zipIdx.map Prod.snd).Pairwise (· < ·) := by
    rw [List.zipIdx_map_snd]
    exact List.pairwise_lt_range'
  exact List.pairwise_map.mp positions

theorem Placed.first (stream : List QueuedPacket) :
    Placed stream (⟨stream.zipIdx, fun _ => [], []⟩ : Schedule ω) := by
  constructor <;> simp [positions]

theorem Placed.queue_increasing {stream : List QueuedPacket} {schedule : Schedule ω}
    (placed : Placed stream schedule) : schedule.queue.Pairwise fun a b => a.2 < b.2 :=
  (zipIdx_increasing stream).sublist placed.queued.sublist

variable [DecidableEq ω]

theorem mem_update {α : Type*} {batch : ω → List α} {worker other : ω} {next : List α} {entry : α}
    (member : entry ∈ Function.update batch worker next other) :
    other = worker ∧ entry ∈ next ∨ other ≠ worker ∧ entry ∈ batch other := by
  rcases Family.update_cases (rfl : Function.update batch worker next other = _) with
    ⟨same, new⟩ | ⟨apart, old⟩
  · rw [new]
    exact .inl ⟨same, member⟩
  · rw [old]
    exact .inr ⟨apart, member⟩

theorem Placed.take {stream : List QueuedPacket} {schedule : Schedule ω} {worker : ω}
    {taken rest : List (QueuedPacket × Nat)} (placed : Placed stream schedule)
    (front : schedule.queue = taken ++ rest) :
    Placed stream { schedule with
      queue := rest, batch := Function.update schedule.batch worker taken } := by
  have increasing := placed.queue_increasing
  have queued := placed.queued
  have heldFirst := placed.heldFirst
  have seenFirst := placed.seenFirst
  rw [front] at increasing queued heldFirst seenFirst
  obtain ⟨takenIncreasing, -, across⟩ := List.pairwise_append.mp increasing
  constructor
  case queued => exact (List.suffix_append taken rest).trans queued
  case seen => exact placed.seen
  case seenOnce => exact placed.seenOnce
  case held =>
    intro other entry member
    rcases mem_update member with ⟨-, new⟩ | ⟨-, old⟩
    · exact queued.mem (List.mem_append_left _ new)
    · exact placed.held other entry old
  case heldFirst =>
    intro other entry member later waits
    rcases mem_update member with ⟨-, new⟩ | ⟨-, old⟩
    · exact across entry new later waits
    · exact heldFirst other entry old later (List.mem_append_right _ waits)
  case seenFirst =>
    intro position member later waits
    exact seenFirst position member later (List.mem_append_right _ waits)
  case heldOnce =>
    intro other
    by_cases same : other = worker
    · subst same
      simp only [Function.update_self]
      exact takenIncreasing.imp fun ordered => Nat.ne_of_lt ordered
    · simp only [Function.update_of_ne same]
      exact placed.heldOnce other
  case apart =>
    intro one other different entry member elsewhere memberElsewhere
    rcases mem_update member with ⟨same, new⟩ | ⟨-, old⟩
    · have old := (mem_update memberElsewhere).resolve_left fun both =>
        different (same.trans both.1.symm)
      have := heldFirst other elsewhere old.2 entry (List.mem_append_left _ new)
      omega
    · rcases mem_update memberElsewhere with ⟨-, new⟩ | ⟨-, oldElsewhere⟩
      · have := heldFirst one entry old elsewhere (List.mem_append_left _ new)
        omega
      · exact placed.apart one other different entry old elsewhere oldElsewhere
  case fresh =>
    intro other entry member seen
    rcases mem_update member with ⟨-, new⟩ | ⟨-, old⟩
    · have := seenFirst entry.2 seen entry (List.mem_append_left _ new)
      omega
    · exact placed.fresh other entry old seen

theorem Placed.observe {stream : List QueuedPacket} {schedule : Schedule ω} {worker : ω}
    {packet : QueuedPacket} {position : Nat} {rest : List (QueuedPacket × Nat)}
    {order : List UInt32} (placed : Placed stream schedule)
    (busy : schedule.batch worker = (packet, position) :: rest) :
    Placed stream { schedule with
      batch := Function.update schedule.batch worker rest
      observed := schedule.observed ++ [(⟨packet, order⟩, position)] } := by
  have here : (packet, position) ∈ schedule.batch worker := by simp [busy]
  have still {other : ω} {entry : QueuedPacket × Nat}
      (member : entry ∈ Function.update schedule.batch worker rest other) :
      entry ∈ schedule.batch other := by
    rcases mem_update member with ⟨same, left⟩ | ⟨-, old⟩
    · rw [same, busy]
      exact List.mem_cons_of_mem _ left
    · exact old
  have longer : positions { schedule with
      batch := Function.update schedule.batch worker rest
      observed := schedule.observed ++ [(⟨packet, order⟩, position)] } =
      schedule.positions ++ [position] := by simp [positions]
  have once := placed.heldOnce worker
  rw [busy, List.pairwise_cons] at once
  constructor
  case queued => exact placed.queued
  case held =>
    intro other entry member
    exact placed.held other entry (still member)
  case heldFirst =>
    intro other entry member
    exact placed.heldFirst other entry (still member)
  case seen =>
    intro entry member
    rcases List.mem_append.mp member with old | new
    · exact placed.seen entry old
    · rw [List.mem_singleton.mp new]
      exact placed.held worker _ here
  case seenFirst =>
    intro seen member later waits
    rw [longer] at member
    rcases List.mem_append.mp member with old | new
    · exact placed.seenFirst seen old later waits
    · rw [List.mem_singleton.mp new]
      exact placed.heldFirst worker _ here later waits
  case heldOnce =>
    intro other
    by_cases same : other = worker
    · subst same
      simp only [Function.update_self]
      exact once.2
    · simp only [Function.update_of_ne same]
      exact placed.heldOnce other
  case seenOnce =>
    rw [longer, List.nodup_append]
    refine ⟨placed.seenOnce, List.nodup_singleton _, ?_⟩
    intro seen old new isNew same
    rw [List.mem_singleton.mp isNew] at same
    exact placed.fresh worker _ here (same ▸ old)
  case apart =>
    intro one other different entry member elsewhere memberElsewhere
    exact placed.apart one other different entry (still member) elsewhere (still memberElsewhere)
  case fresh =>
    intro other entry member seen
    rw [longer] at seen
    rcases List.mem_append.mp seen with old | new
    · exact placed.fresh other entry (still member) old
    · have same := List.mem_singleton.mp new
      rcases mem_update member with ⟨-, left⟩ | ⟨elsewhere, held⟩
      · exact once.1 entry left same.symm
      · exact placed.apart other worker elsewhere entry held _ here same

theorem Placed.of_reachable {stream : List QueuedPacket} {schedule : Schedule ω}
    (reachable : (system ω stream).Reachable schedule) : Placed stream schedule := by
  refine TransitionSystem.Reachable.invariant ?_ ?_ reachable
  · intro schedule start
    rw [show schedule = _ from start]
    exact Placed.first stream
  · intro schedule after _ step placed
    cases step with
    | take worker taken rest _ _ front => exact placed.take front
    | observe worker packet position rest order busy => exact placed.observe busy

end Schedule

end NetSentinel
