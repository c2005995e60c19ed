import NetSentinel.Capture.Loop

namespace NetSentinel

/-- What the capture thread does that a request to stop is about. -/
inductive CaptureMark where
  | polled
  | read
  | handed
  | observed
deriving DecidableEq, Repr

namespace Capture

/-- What the next step of the thread does, going by where it is. In `!done && !g_stop_requested` the
    flag is not looked at when `done` is set. -/
def marks (capture : Capture) : List CaptureMark :=
  match capture.pc with
  | .outer done => if done = false ∧ capture.stopRequested then [.observed] else []
  | .inner => if capture.stopRequested then [.observed] else []
  | .polling => [.polled]
  | .reading => [.read]
  | .handling _ _ => [.handed]
  | _ => []

def requestStop (capture : Capture) : Capture := { capture with stopRequested := true }

end Capture

structure WatchedCapture where
  capture : Capture
  log : List CaptureMark := []

namespace WatchedCapture

variable {selectable : Bool} {maxPackets : Int32} {parse : Frame → Option ParsedPacket}

inductive Step (selectable : Bool) (maxPackets : Int32) (parse : Frame → Option ParsedPacket) :
    WatchedCapture → WatchedCapture → Prop
  | thread {watched : WatchedCapture} (event : Capture.Event) (after : Capture)
      (step : Capture.Step selectable maxPackets parse event watched.capture after) :
      Step selectable maxPackets parse watched ⟨after, watched.log ++ watched.capture.marks⟩
  | requestStop {watched : WatchedCapture} :
      Step selectable maxPackets parse watched
        { watched with capture := watched.capture.requestStop }

/-- All that can happen once `request_stop` has been executed with the thread where it is. -/
def afterRequest (selectable : Bool) (maxPackets : Int32) (parse : Frame → Option ParsedPacket)
    (capture : Capture) : TransitionSystem WatchedCapture where
  start watched := watched = ⟨capture.requestStop, []⟩
  step := Step selectable maxPackets parse

/-- The request stands until `run` returns, one more packet is handed out at most, and once the flag
    has been seen set there is no further `poll` or read. -/
structure Heeded (watched : WatchedCapture) : Prop where
  stands : watched.capture.pc ≠ .returned → watched.capture.stopRequested
  handed : watched.log.count .handed ≤ 1
  stopped : watched.log.Pairwise fun earlier later =>
    earlier = .observed → later ≠ .polled ∧ later ≠ .read

def underway : CapturePc → Nat
  | .reading => 1
  | .handling _ _ => 1
  | _ => 0

def Finishing : CapturePc → Prop
  | .outer _ => True
  | .returned => True
  | _ => False

/-- The invariant behind it: past the reset of the flag, the packets underway are counted in, and a
    thread that has seen the flag is on its way out. -/
structure Stopping (watched : WatchedCapture) : Prop where
  flag : watched.capture.stopRequested
  running : watched.capture.pc ≠ .starting
  handed : watched.log.count .handed + underway watched.capture.pc ≤ 1
  seen : .observed ∈ watched.log → Finishing watched.capture.pc
  stopped : watched.log.Pairwise fun earlier later =>
    earlier = .observed → later ≠ .polled ∧ later ≠ .read

theorem Stopping.heeded {watched : WatchedCapture} (stopping : Stopping watched) :
    Heeded watched := by
  refine ⟨fun _ => stopping.flag, ?_, stopping.stopped⟩
  have handed := stopping.handed
  omega

theorem Stopping.first {capture : Capture} (running : capture.pc ≠ .starting) :
    Stopping ⟨capture.requestStop, []⟩ := by
  refine ⟨rfl, running, ?_, (nomatch ·), List.Pairwise.nil⟩
  rw [List.count_nil, Nat.zero_add]
  unfold underway
  split <;> decide

theorem Stopping.extend {watched : WatchedCapture} {after : Capture} {mark : List CaptureMark}
    (stopping : Stopping watched) (flag : after.stopRequested) (running : after.pc ≠ .starting)
    (handed : mark.count .handed + underway after.pc ≤ underway watched.capture.pc)
    (seen : Finishing watched.capture.pc ∨ .observed ∈ mark → Finishing after.pc)
    (single : mark.length ≤ 1)
    (busy : .polled ∈ mark ∨ .read ∈ mark → ¬ Finishing watched.capture.pc) :
    Stopping ⟨after, watched.log ++ mark⟩ := by
  have total := stopping.handed
  refine ⟨flag, running, ?_, fun member => ?_, ?_⟩
  · rw [List.count_append]
    dsimp only
    omega
  · rcases List.mem_append.mp member with earlier | now
    · exact seen (.inl (stopping.seen earlier))
    · exact seen (.inr now)
  · apply List.pairwise_append.mpr
    refine ⟨stopping.stopped, ?_, ?_⟩
    · match mark, single with
      | [], _ => exact List.Pairwise.nil
      | [_], _ => exact List.pairwise_singleton _ _
    · rintro earlier member later now rfl
      have finishing := stopping.seen member
      constructor
      · rintro rfl
        exact busy (.inl now) finishing
      · rintro rfl
        exact busy (.inr now) finishing

theorem Stopping.thread {watched : WatchedCapture} {event : Capture.Event} {after : Capture}
    (stopping : Stopping watched)
    (step : Capture.Step selectable maxPackets parse event watched.capture after) :
    Stopping ⟨after, watched.log ++ watched.capture.marks⟩ := by
  have flag := stopping.flag
  have quiet : ∀ {after : Capture}, after.stopRequested → after.pc ≠ .starting →
      watched.capture.marks = [] → underway after.pc ≤ underway watched.capture.pc →
      (Finishing watched.capture.pc → Finishing after.pc) →
      Stopping ⟨after, watched.log ++ watched.capture.marks⟩ := by
    intro after set running silent fewer onward
    rw [silent]
    refine stopping.extend set running ?_ ?_ (Nat.zero_le 1) (by simp)
    · rw [List.count_nil, Nat.zero_add]
      exact fewer
    · rintro (finishing | never)
      · exact onward finishing
      · cases never
  cases step with
  | start starting => exact absurd starting stopping.running
  | outer done testing =>
    have stops : ¬ (done = false ∧ watched.capture.stopRequested = false) := by
      simp [flag]
    rw [if_neg stops]
    refine stopping.extend flag (by simp) ?_ (fun _ => trivial) ?_ ?_
    · unfold Capture.marks
      rw [testing]
      cases done <;> simp [flag, underway]
    · unfold Capture.marks
      rw [testing]
      cases done <;> simp [flag]
    · unfold Capture.marks
      rw [testing]
      cases done <;> simp [flag]
  | poll outcome polling =>
    have silent : underway (watched.capture.polled outcome).pc = 0 := by cases outcome <;> rfl
    refine stopping.extend ?_ ?_ ?_ ?_ ?_ ?_
    · cases outcome <;> exact flag
    · cases outcome <;> simp [Capture.polled]
    · rw [silent]
      simp [Capture.marks, polling]
    · simp [Capture.marks, polling, Finishing]
    · simp [Capture.marks, polling]
    · simp [polling, Finishing]
  | inner testing =>
    rw [if_pos flag]
    refine stopping.extend flag (by simp) ?_ (fun _ => trivial) ?_ ?_
    · simp [Capture.marks, testing, flag, underway]
    · simp [Capture.marks, testing, flag]
    · simp [testing, Finishing]
  | read outcome reading =>
    refine stopping.extend ?_ ?_ ?_ ?_ ?_ ?_
    · cases outcome <;> exact flag
    · cases outcome with
      | frame frame => cases parsed : parse frame <;> simp [Capture.read, parsed]
      | _ => simp [Capture.read]
    · cases outcome with
      | frame frame =>
        cases parsed : parse frame <;>
          simp [Capture.marks, Capture.read, reading, parsed, underway]
      | _ => simp [Capture.marks, Capture.read, reading, underway]
    · simp [Capture.marks, reading, Finishing]
    · simp [Capture.marks, reading]
    · simp [reading, Finishing]
  | handle frame parsed handling =>
    refine stopping.extend flag (by simp) ?_ ?_ ?_ ?_
    · simp [Capture.marks, handling, underway]
    · simp [Capture.marks, handling, Finishing]
    · simp [Capture.marks, handling]
    · simp [handling, Finishing]
  | handled handling =>
    exact quiet flag (by simp) (by simp [Capture.marks, handling]) (Nat.zero_le _)
      (by simp [handling, Finishing])
  | count counting =>
    exact quiet flag (by simp) (by simp [Capture.marks, counting]) (Nat.zero_le _)
      (by simp [counting, Finishing])
  | check checking =>
    refine quiet flag ?_ (by simp [Capture.marks, checking]) ?_ (by simp [checking, Finishing])
    · dsimp only
      split <;> simp
    · dsimp only
      split <;> exact Nat.zero_le _

theorem Stopping.of_reachable {capture : Capture} (running : capture.pc ≠ .starting)
    {watched : WatchedCapture}
    (reachable : (afterRequest selectable maxPackets parse capture).Reachable watched) :
    Stopping watched := by
  refine TransitionSystem.Reachable.invariant ?_ ?_ reachable
  · rintro first rfl
    exact Stopping.first running
  · intro before after _ step stopping
    cases step with
    | thread event after step => exact stopping.thread step
    | requestStop =>
      exact ⟨rfl, stopping.running, stopping.handed, stopping.seen, stopping.stopped⟩

end WatchedCapture

open WatchedCapture

/-- A request to stop is heeded, whatever the thread and the sources do from then on, exactly if the
    thread has got past the reset of the flag. -/
theorem stop_request_is_heeded_iff (selectable : Bool) (maxPackets : Int32)
    (parse : Frame → Option ParsedPacket) (capture : Capture) :
    (∀ watched, (afterRequest selectable maxPackets parse capture).Reachable watched →
      Heeded watched) ↔ capture.pc ≠ .starting := by
  constructor
  · intro heeded starting
    have requested : (afterRequest selectable maxPackets parse capture).Reachable
        ⟨capture.requestStop, []⟩ := TransitionSystem.Reachable.first rfl
    have reset := requested.next (.thread _ _ (.start starting))
    exact absurd ((heeded _ reset).stands (by simp)) (by simp)
  · intro running watched reachable
    exact (Stopping.of_reachable running reachable).heeded

theorem another_packet {capture : Capture} {delivered : Int32} {frames : List Frame}
    {log : List CaptureMark} (frame : Frame) (reachable :
      (afterRequest false 0 (fun _ => some {}) capture).Reachable
        ⟨⟨.inner, false, delivered, frames⟩, log⟩) :
    (afterRequest false 0 (fun _ => some {}) capture).Reachable
      ⟨⟨.inner, false, delivered + 1, frames ++ [frame]⟩, log ++ [.read, .handed]⟩ := by
  have reading := reachable.next (.thread _ _ (.inner rfl))
  have handling := reading.next (.thread _ _ (.read (.frame frame) rfl))
  have inHandler := handling.next (.thread _ _ (.handle _ _ rfl))
  have counting := inHandler.next (.thread _ _ (.handled rfl))
  have checking := counting.next (.thread _ _ (.count rfl))
  have again := checking.next (.thread _ _ (.check rfl))
  have logged : ((((((log ++ []) ++ [CaptureMark.read]) ++ [.handed]) ++ []) ++ []) ++ []) =
      log ++ [.read, .handed] := by simp
  rw [← logged]
  exact again

/-- A request made after the handler was installed and before `run` has cleared the flag is
    forgotten: the thread goes on reading and handing out packets. -/
theorem early_request_is_lost :
    ∃ watched, (afterRequest false 0 (fun _ => some {}) {}).Reachable watched ∧
      watched.log.count .handed = 2 ∧ watched.capture.pc ≠ .returned ∧
        watched.capture.stopRequested = false ∧ ¬ Heeded watched := by
  have requested : (afterRequest false 0 (fun _ => some {}) {}).Reachable
      ⟨⟨.starting, true, 0, []⟩, []⟩ := TransitionSystem.Reachable.first rfl
  have reset := requested.next (.thread _ _ (.start rfl))
  have inner := reset.next (.thread _ _ (.outer false rfl))
  have once := another_packet ⟨[], 0, {}⟩ inner
  have twice := another_packet ⟨[], 0, {}⟩ once
  refine ⟨_, twice, rfl, by simp, rfl, fun heeded => ?_⟩
  exact absurd heeded.handed (by decide)

end NetSentinel
