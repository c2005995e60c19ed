import NetSentinel.Library.TransitionSystem
import NetSentinel.Packet

namespace NetSentinel

/-- What `pcap_next_ex` hands out: the captured bytes, the length on the wire and the time. -/
structure Frame where
  data : List UInt8
  len : UInt32 := 0
  ts : Timeval := {}
deriving DecidableEq

/-- The return value 1, 0, or else of `pcap_next_ex`. -/
inductive PcapOutcome where
  | frame (frame : Frame)
  | nothingReady
  | endOrError

inductive PollOutcome where
  | readable
  | timedOut
  | interrupted
  | failed

/-- Where the capture thread is in `Capture::run`: before the flag is reset, at the condition of
    the outer loop, in `poll`, at the condition of the inner loop, in `pcap_next_ex`, before, in and
    after the call of the handler, at the test of the limit, or done. -/
inductive CapturePc where
  | starting
  | outer (done : Bool)
  | polling
  | inner
  | reading
  | handling (frame : Frame) (parsed : ParsedPacket)
  | inHandler
  | counting
  | checking
  | returned
deriving DecidableEq

structure Capture where
  pc : CapturePc := .starting
  stopRequested : Bool := false
  delivered : Int32 := 0
  frames : List Frame := []

namespace Capture

inductive Event where
  | inside
  | handle (frame : Frame) (parsed : ParsedPacket)
  | handled

def read (parse : Frame → Option ParsedPacket) (capture : Capture) : PcapOutcome → Capture
  | .frame frame =>
    { capture with
      pc := match parse frame with
        | some parsed => .handling frame parsed
        | none => .checking
      frames := capture.frames ++ [frame] }
  | .nothingReady => { capture with pc := .outer false }
  | .endOrError => { capture with pc := .outer true }

def polled (capture : Capture) : PollOutcome → Capture
  | .readable => { capture with pc := .inner }
  | .timedOut => { capture with pc := .outer false }
  | .interrupted => { capture with pc := .outer false }
  | .failed => { capture with pc := .returned }

/-- `selectable` says whether there is a descriptor to poll. -/
inductive Step (selectable : Bool) (maxPackets : Int32) (parse : Frame → Option ParsedPacket) :
    Event → Capture → Capture → Prop
  | start {capture : Capture} (starting : capture.pc = .starting) :
      Step selectable maxPackets parse .inside capture
        { capture with pc := .outer false, stopRequested := false, delivered := 0 }
  | outer {capture : Capture} (done : Bool) (testing : capture.pc = .outer done) :
      Step selectable maxPackets parse .inside capture
        { capture with
          pc := if done = false ∧ capture.stopRequested = false then
              if selectable then .polling else .inner
            else .returned }
  | poll {capture : Capture} (outcome : PollOutcome) (polling : capture.pc = .polling) :
      Step selectable maxPackets parse .inside capture (capture.polled outcome)
  | inner {capture : Capture} (testing : capture.pc = .inner) :
      Step selectable maxPackets parse .inside capture
        { capture with pc := if capture.stopRequested then .outer false else .reading }
  | read {capture : Capture} (outcome : PcapOutcome) (reading : capture.pc = .reading) :
      Step selectable maxPackets parse .inside capture (capture.read parse outcome)
  | handle {capture : Capture} (frame : Frame) (parsed : ParsedPacket)
      (handling : capture.pc = .handling frame parsed) :
      Step selectable maxPackets parse (.handle frame parsed) capture
        { capture with pc := .inHandler }
  | handled {capture : Capture} (handling : capture.pc = .inHandler) :
      Step selectable maxPackets parse .handled capture { capture with pc := .counting }
  | count {capture : Capture} (counting : capture.pc = .counting) :
      Step selectable maxPackets parse .inside capture
        { capture with pc := .checking, delivered := capture.delivered + 1 }
  | check {capture : Capture} (checking : capture.pc = .checking) :
      Step selectable maxPackets parse .inside capture
        { capture with
          pc := if 0 < maxPackets ∧ maxPackets ≤ capture.delivered then .outer true else .inner }

def accepted (parse : Frame → Option ParsedPacket) (frames : List Frame) : List QueuedPacket :=
  frames.filterMap fun frame => (parse frame).map (makeQueuedPacket frame.data)

variable {selectable : Bool} {maxPackets : Int32} {parse : Frame → Option ParsedPacket}

theorem accepted_append (parse : Frame → Option ParsedPacket) (frames : List Frame)
    (frame : Frame) :
    accepted parse (frames ++ [frame]) =
      accepted parse frames ++ ((parse frame).map (makeQueuedPacket frame.data)).toList := by
  cases parsed : parse frame with
  | none => simp [accepted, parsed]
  | some packet => simp [accepted, parsed]

end Capture

def CapturePc.inFlight : CapturePc → Nat
  | .handling _ _ => 1
  | .inHandler => 1
  | .counting => 1
  | _ => 0

def CapturePc.room : CapturePc → Nat
  | .outer done => if done then 0 else 1
  | .checking => 0
  | .returned => 0
  | _ => 1

namespace Capture

/-- With a limit, `delivered` is the number of accepted frames that have been handled, and stays
    within the limit. -/
structure Counted (maxPackets : Int32) (parse : Frame → Option ParsedPacket) (capture : Capture) :
    Prop where
  fresh : capture.pc = .starting → capture.frames = []
  counted : 0 < maxPackets →
    capture.delivered.toInt + capture.pc.inFlight = (accepted parse capture.frames).length
  limited : 0 < maxPackets → capture.delivered.toInt + capture.pc.room ≤ maxPackets.toInt

variable {selectable : Bool} {maxPackets : Int32} {parse : Frame → Option ParsedPacket}

theorem Counted.initial : Counted maxPackets parse {} := by
  refine ⟨fun _ => rfl, fun _ => rfl, fun positive => ?_⟩
  have positive := Int32.lt_iff_toInt_lt.mp positive
  exact positive

theorem delivered_succ {delivered : Int32} (below : delivered.toInt + 1 ≤ maxPackets.toInt) :
    (delivered + 1).toInt = delivered.toInt + 1 := by
  have least := delivered.le_toInt
  have most := maxPackets.toInt_lt
  have one : (1 : Int32).toInt = 1 := rfl
  rw [Int32.toInt_add, one]
  exact Int.bmod_eq_of_le (by omega) (by omega)

theorem Counted.within_limit {capture : Capture} (counted : Counted maxPackets parse capture)
    (positive : 0 < maxPackets) :
    ((accepted parse capture.frames).length : Int) ≤ maxPackets.toInt := by
  have total := counted.counted positive
  have limited := counted.limited positive
  have fits : capture.pc.inFlight ≤ capture.pc.room := by
    cases capture.pc with
    | handling frame parsed => exact Nat.le_refl 1
    | outer done => exact Nat.zero_le _
    | _ => decide
  omega

theorem Step.started {event : Event} {capture after : Capture}
    (step : Step selectable maxPackets parse event capture after) : after.pc ≠ .starting := by
  cases step with
  | outer done testing =>
    dsimp only
    split
    · split <;> simp
    · simp
  | poll outcome polling => cases outcome <;> simp [polled]
  | inner testing =>
    dsimp only
    split <;> simp
  | read outcome reading =>
    cases outcome with
    | frame frame => cases parsed : parse frame <;> simp [Capture.read, parsed]
    | nothingReady => simp [Capture.read]
    | endOrError => simp [Capture.read]
  | check checking =>
    dsimp only
    split <;> simp
  | _ => simp

theorem Step.tally {event : Event} {capture after : Capture}
    (step : Step selectable maxPackets parse event capture after)
    (running : capture.pc ≠ .starting) :
    (after.delivered = capture.delivered ∧ ∃ more,
      after.pc.inFlight = capture.pc.inFlight + more ∧
        (accepted parse after.frames).length = (accepted parse capture.frames).length + more) ∨
    (capture.pc = .counting ∧
      after = { capture with pc := .checking, delivered := capture.delivered + 1 }) := by
  have quiet : ∀ {pc : CapturePc} {place : CapturePc}, capture.pc = place →
      pc.inFlight = place.inFlight →
      ∃ more, pc.inFlight = capture.pc.inFlight + more ∧
        (accepted parse capture.frames).length = (accepted parse capture.frames).length + more := by
    intro pc place here same
    rw [here]
    exact ⟨0, same, rfl⟩
  cases step with
  | start starting => exact absurd starting running
  | outer done testing =>
    refine .inl ⟨rfl, quiet testing ?_⟩
    split
    · split <;> rfl
    · rfl
  | poll outcome polling => cases outcome <;> exact .inl ⟨rfl, quiet polling rfl⟩
  | inner testing =>
    refine .inl ⟨rfl, quiet testing ?_⟩
    split <;> rfl
  | read outcome reading =>
    cases outcome with
    | frame frame =>
      have length := congrArg List.length (accepted_append parse capture.frames frame)
      rw [List.length_append] at length
      refine .inl ⟨rfl, (parse frame).toList.length, ?_, ?_⟩
      · rw [reading]
        cases parsed : parse frame <;> simp [Capture.read, parsed, CapturePc.inFlight]
      · refine length.trans ?_
        cases parse frame <;> rfl
    | nothingReady => exact .inl ⟨rfl, quiet reading rfl⟩
    | endOrError => exact .inl ⟨rfl, quiet reading rfl⟩
  | handle frame parsed handling => exact .inl ⟨rfl, quiet handling rfl⟩
  | handled handling => exact .inl ⟨rfl, quiet handling rfl⟩
  | count counting => exact .inr ⟨counting, rfl⟩
  | check checking =>
    refine .inl ⟨rfl, quiet checking ?_⟩
    split <;> rfl

theorem Step.of_starting {event : Event} {capture after : Capture}
    (step : Step selectable maxPackets parse event capture after)
    (starting : capture.pc = .starting) :
    after = { capture with pc := .outer false, stopRequested := false, delivered := 0 } := by
  cases step with
  | start => rfl
  | _ => simp_all

theorem Counted.counted_step {event : Event} {capture after : Capture}
    (counted : Counted maxPackets parse capture)
    (step : Step selectable maxPackets parse event capture after) (positive : 0 < maxPackets) :
    after.delivered.toInt + after.pc.inFlight = (accepted parse after.frames).length := by
  have total := counted.counted positive
  have limited := counted.limited positive
  by_cases starting : capture.pc = .starting
  · have none : accepted parse capture.frames = [] := by rw [counted.fresh starting]; rfl
    rw [step.of_starting starting]
    exact (congrArg (fun packets => (packets.length : Int)) none).symm
  · rcases step.tally starting with ⟨same, more, flight, taken⟩ | ⟨counting, rfl⟩
    · rw [same, flight, taken]
      push_cast
      omega
    · rw [counting] at total limited
      have next := delivered_succ limited
      rw [← total, next]
      exact Int.add_zero _

theorem Counted.limited_step {event : Event} {capture after : Capture}
    (counted : Counted maxPackets parse capture)
    (step : Step selectable maxPackets parse event capture after) (positive : 0 < maxPackets) :
    after.delivered.toInt + after.pc.room ≤ maxPackets.toInt := by
  have limited := counted.limited positive
  cases step with
  | start starting => exact Int32.lt_iff_toInt_lt.mp positive
  | outer done testing =>
    rw [testing] at limited
    dsimp only
    split
    · rename_i again
      rw [again.1] at limited
      split <;> exact limited
    · simp only [CapturePc.room] at limited ⊢
      omega
  | poll outcome polling =>
    rw [polling] at limited
    cases outcome with
    | failed =>
      simp only [CapturePc.room, polled] at limited ⊢
      omega
    | _ => exact limited
  | inner testing =>
    rw [testing] at limited
    dsimp only
    split <;> exact limited
  | read outcome reading =>
    rw [reading] at limited
    have most : ∀ pc : CapturePc, capture.delivered.toInt + pc.room ≤ maxPackets.toInt := by
      intro pc
      have one : pc.room ≤ 1 := by
        cases pc with
        | outer done => cases done <;> decide
        | handling frame parsed => exact Nat.le_refl 1
        | _ => decide
      simp only [CapturePc.room] at limited one ⊢
      omega
    cases outcome <;> exact most _
  | handle frame parsed handling =>
    rw [handling] at limited
    exact limited
  | handled handling =>
    rw [handling] at limited
    exact limited
  | count counting =>
    rw [counting] at limited
    have next := delivered_succ limited
    simp only [CapturePc.room] at limited ⊢
    rw [next]
    exact (Int.add_zero _).trans_le limited
  | check checking =>
    rw [checking] at limited
    dsimp only
    split
    · exact limited
    · rename_i below
      have below : ¬ maxPackets ≤ capture.delivered := fun reached => below ⟨positive, reached⟩
      rw [Int32.le_iff_toInt_le] at below
      simp only [CapturePc.room] at limited ⊢
      omega

theorem Counted.step {event : Event} {capture after : Capture}
    (counted : Counted maxPackets parse capture)
    (step : Step selectable maxPackets parse event capture after) :
    Counted maxPackets parse after :=
  ⟨fun stays => absurd stays step.started, counted.counted_step step, counted.limited_step step⟩

end Capture

end NetSentinel
