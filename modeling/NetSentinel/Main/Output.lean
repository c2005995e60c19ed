import NetSentinel.Library.LockedLog
import NetSentinel.Main.Text

namespace NetSentinel

open Family

/-- Where a worker is in `print_alert`, up to the printing: outside, or before one of the two
    counters. -/
inductive AlertPc where
  | outside
  | countingAll (alert : Alert)
  | countingType (alert : Alert)

/-- The counters of `main` and its standard output, `g_stdout_mutex` included. `raised` and `traced`
    have what `print_alert` and `print_packet` have been called for. -/
structure Output (ω : Type*) where
  alertCount : UInt64 := 0
  alertsByType : AnomalyType → UInt64 := fun _ => 0
  alerting : ω → AlertPc := fun _ => .outside
  stdout : LockedLog ω (List Char) := {}
  raised : List Alert := []
  traced : List QueuedPacket := []

def AlertPc.uncounted : AlertPc → Multiset Alert
  | .countingAll alert => {alert}
  | _ => 0

def AlertPc.untyped : AlertPc → Multiset Alert
  | .countingAll alert => {alert}
  | .countingType alert => {alert}
  | .outside => 0

def ofTypeCount (type : AnomalyType) (alerts : Multiset Alert) : Nat :=
  alerts.countP fun alert => alert.type = type

theorem ofTypeCount_singleton (type : AnomalyType) (alert : Alert) :
    ofTypeCount type {alert} = if alert.type = type then 1 else 0 := by
  rw [ofTypeCount, ← Multiset.cons_zero, Multiset.countP_cons, Multiset.countP_zero, Nat.zero_add]

theorem ofTypeCount_add (type : AnomalyType) (alerts more : Multiset Alert) :
    ofTypeCount type (alerts + more) = ofTypeCount type alerts + ofTypeCount type more :=
  Multiset.countP_add ..

namespace Output

variable {ω : Type*} [DecidableEq ω]

def idle (output : Output ω) (worker : ω) : Prop :=
  output.alerting worker = .outside ∧ output.stdout.writers worker = .idle

inductive Event (ω : Type*) where
  | inside
  | printAlert (worker : ω) (alert : Alert)
  | printPacket (worker : ω) (packet : QueuedPacket)

inductive Step (quiet : Bool) : Event ω → Output ω → Output ω → Prop
  | printAlert {output : Output ω} (worker : ω) (alert : Alert) (idle : output.idle worker) :
      Step quiet (.printAlert worker alert) output
        { output with
          alerting := Function.update output.alerting worker (.countingAll alert)
          raised := output.raised ++ [alert] }
  | countAll {output : Output ω} (worker : ω) (alert : Alert)
      (due : output.alerting worker = .countingAll alert) :
      Step quiet .inside output
        { output with
          alertCount := output.alertCount + 1
          alerting := Function.update output.alerting worker (.countingType alert) }
  | countQuietly {output : Output ω} (worker : ω) (alert : Alert)
      (due : output.alerting worker = .countingType alert) (silent : quiet = true) :
      Step quiet .inside output
        { output with
          alertsByType := Function.update output.alertsByType alert.type
            (output.alertsByType alert.type + 1)
          alerting := Function.update output.alerting worker .outside }
  | countAndPrint {output : Output ω} (worker : ω) (alert : Alert)
      (stdout : LockedLog ω (List Char)) (due : output.alerting worker = .countingType alert)
      (loud : quiet = false)
      (prints : LockedLog.Step (.write worker [alertLine alert]) output.stdout stdout) :
      Step quiet .inside output
        { output with
          alertsByType := Function.update output.alertsByType alert.type
            (output.alertsByType alert.type + 1)
          alerting := Function.update output.alerting worker .outside
          stdout }
  | printPacket {output : Output ω} (worker : ω) (packet : QueuedPacket)
      (stdout : LockedLog ω (List Char)) (idle : output.idle worker)
      (prints : LockedLog.Step (.write worker (printPacket packet)) output.stdout stdout) :
      Step quiet (.printPacket worker packet) output
        { output with stdout, traced := output.traced ++ [packet] }
  | stdout {output : Output ω} (stdout : LockedLog ω (List Char))
      (prints : LockedLog.Step .inside output.stdout stdout) :
      Step quiet .inside output { output with stdout }

def Event.caller : Event ω → Option ω
  | .inside => none
  | .printAlert worker _ => some worker
  | .printPacket worker _ => some worker

theorem Step.idle_kept {quiet : Bool} {event : Event ω} {output after : Output ω}
    (step : Step quiet event output after) {worker : ω} (idle : output.idle worker)
    (other : event.caller ≠ some worker) : after.idle worker := by
  obtain ⟨outside, free⟩ := idle
  cases step with
  | printAlert mover alert idle =>
    exact ⟨(Function.update_of_ne (fun same => other (by rw [same]; rfl)) _ _).trans outside, free⟩
  | countAll mover alert due => exact ⟨update_stays outside (by simp [due]), free⟩
  | countQuietly mover alert due silent => exact ⟨update_stays outside (by simp [due]), free⟩
  | countAndPrint mover alert stdout due loud prints =>
    refine ⟨update_stays outside (by simp [due]), ?_⟩
    rcases prints.idle_kept free with still | ⟨message, writes⟩
    · exact still
    · cases writes
      rw [outside] at due
      cases due
  | printPacket mover packet stdout idle prints =>
    refine ⟨outside, ?_⟩
    rcases prints.idle_kept free with still | ⟨message, writes⟩
    · exact still
    · cases writes
      exact absurd rfl other
  | stdout stdout prints =>
    refine ⟨outside, ?_⟩
    rcases prints.idle_kept free with still | ⟨message, writes⟩
    · exact still
    · cases writes

/-- The output on its own: any worker may call the two functions at any time. -/
def system (ω : Type*) [DecidableEq ω] (quiet : Bool) : TransitionSystem (Output ω) where
  start output := output = {}
  step output after := ∃ event, Step quiet event output after

variable {quiet : Bool} {output after : Output ω} {event : Event ω}

theorem stdout_reachable (reachable : (system ω quiet).Reachable output) :
    (LockedLog.system ω (List Char)).Reachable output.stdout := by
  refine reachable.map ?_ ?_
  · intro first start
    rw [show first = _ from start]
    rfl
  · intro before after _ step
    obtain ⟨event, step⟩ := step
    cases step with
    | countAndPrint worker alert stdout due loud prints => exact .inl ⟨_, prints⟩
    | printPacket worker packet stdout idle prints => exact .inl ⟨_, prints⟩
    | stdout stdout prints => exact .inl ⟨_, prints⟩
    | _ => exact .inr rfl

section Counters

variable [Fintype ω]

structure Counted (output : Output ω) : Prop where
  all : output.alertCount + UInt64.ofNat (∑ worker, (output.alerting worker).uncounted.card) =
    UInt64.ofNat output.raised.length
  types : ∀ type, output.alertsByType type +
      UInt64.ofNat (∑ worker, ofTypeCount type (output.alerting worker).untyped) =
    UInt64.ofNat (ofTypeCount type output.raised)

theorem counted_move {S S' old new : Nat} (moved : S' + old = S + new) (less : old = new + 1)
    (counter : UInt64) : counter + 1 + UInt64.ofNat S' = counter + UInt64.ofNat S := by
  obtain rfl : S = S' + 1 := by omega
  rw [UInt64.ofNat_add, UInt64.add_assoc, UInt64.add_comm 1]
  rfl

theorem Counted.all_step (counted : Counted output) (step : Step quiet event output after) :
    after.alertCount + UInt64.ofNat (∑ worker, (after.alerting worker).uncounted.card) =
      UInt64.ofNat after.raised.length := by
  have all := counted.all
  have moves (worker : ω) (pc : AlertPc) :=
    sum_update (fun pc : AlertPc => pc.uncounted.card) output.alerting worker pc
  have same {worker : ω} {pc : AlertPc}
      (kept : pc.uncounted.card = (output.alerting worker).uncounted.card) :=
    sum_update_same (fun pc : AlertPc => pc.uncounted.card) output.alerting kept
  cases step with
  | printAlert worker alert idle =>
    have moved := moves worker (.countingAll alert)
    rw [idle.1, show (AlertPc.outside.uncounted.card) = 0 from rfl, add_zero] at moved
    dsimp only
    rw [moved, UInt64.ofNat_add, ← UInt64.add_assoc, all, List.length_append, UInt64.ofNat_add]
    rfl
  | countAll worker alert due =>
    have moved := moves worker (.countingType alert)
    rw [due] at moved
    rw [← all]
    exact counted_move moved rfl _
  | countQuietly worker alert due silent =>
    rw [← all]
    exact congrArg (fun owed => _ + UInt64.ofNat owed) (same (by rw [due]; rfl))
  | countAndPrint worker alert stdout due loud prints =>
    rw [← all]
    exact congrArg (fun owed => _ + UInt64.ofNat owed) (same (by rw [due]; rfl))
  | printPacket worker packet stdout idle prints => exact all
  | stdout stdout prints => exact all

theorem types_counted (counted : Counted output) {worker : ω} {alert : Alert}
    (due : output.alerting worker = .countingType alert) (type : AnomalyType) :
    Function.update output.alertsByType alert.type (output.alertsByType alert.type + 1) type +
      UInt64.ofNat (∑ other, ofTypeCount type
        (Function.update output.alerting worker .outside other).untyped) =
      UInt64.ofNat (ofTypeCount type output.raised) := by
  have moved := sum_update (fun pc : AlertPc => ofTypeCount type pc.untyped) output.alerting
    worker .outside
  rw [due, show (AlertPc.countingType alert).untyped = {alert} from rfl, ofTypeCount_singleton] at moved
  rw [← counted.types type]
  by_cases here : type = alert.type
  · subst here
    rw [Function.update_self]
    exact counted_move moved (if_pos rfl) _
  · rw [if_neg (Ne.symm here)] at moved
    rw [Function.update_of_ne here]
    exact congrArg (fun owed => _ + UInt64.ofNat owed) moved

theorem Counted.types_step (counted : Counted output) (step : Step quiet event output after)
    (type : AnomalyType) :
    after.alertsByType type +
        UInt64.ofNat (∑ worker, ofTypeCount type (after.alerting worker).untyped) =
      UInt64.ofNat (ofTypeCount type after.raised) := by
  have types := counted.types type
  have same {worker : ω} {pc : AlertPc} (kept : pc.untyped = (output.alerting worker).untyped) :=
    sum_update_same (fun pc : AlertPc => ofTypeCount type pc.untyped) output.alerting
      (congrArg (ofTypeCount type) kept)
  cases step with
  | printAlert worker alert idle =>
    have moved := sum_update (fun pc : AlertPc => ofTypeCount type pc.untyped) output.alerting
      worker (.countingAll alert)
    rw [idle.1, show ofTypeCount type AlertPc.outside.untyped = 0 from rfl, add_zero] at moved
    dsimp only
    rw [moved, UInt64.ofNat_add, ← UInt64.add_assoc, types, ← Multiset.coe_add, ofTypeCount_add,
      UInt64.ofNat_add]
    rfl
  | countAll worker alert due =>
    rw [← types]
    exact congrArg (fun owed => _ + UInt64.ofNat owed) (same (by rw [due]; rfl))
  | countQuietly worker alert due silent => exact types_counted counted due type
  | countAndPrint worker alert stdout due loud prints => exact types_counted counted due type
  | printPacket worker packet stdout idle prints => exact types
  | stdout stdout prints => exact types

theorem Counted.of_reachable (reachable : (system ω quiet).Reachable output) : Counted output := by
  refine TransitionSystem.Reachable.invariant ?_ ?_ reachable
  · intro first start
    rw [show first = _ from start]
    constructor
    · simp [AlertPc.uncounted]
    · simp [AlertPc.untyped, ofTypeCount]
  · intro before after _ step counted
    obtain ⟨event, step⟩ := step
    exact ⟨counted.all_step step, counted.types_step step⟩

end Counters

section Lines

def alertMessages (quiet : Bool) (alerts : Multiset Alert) : Multiset (List (List Char)) :=
  if quiet then 0 else alerts.map fun alert => [alertLine alert]

theorem alertMessages_add (quiet : Bool) (alerts more : Multiset Alert) :
    alertMessages quiet (alerts + more) = alertMessages quiet alerts + alertMessages quiet more := by
  unfold alertMessages
  cases quiet with
  | true => rfl
  | false => exact Multiset.map_add ..

@[simp] theorem alertMessages_zero (quiet : Bool) : alertMessages quiet 0 = 0 := by
  unfold alertMessages
  cases quiet <;> rfl

variable [Fintype ω]

/-- What has been handed to the standard output, and what alerts are still to be handed to it. -/
def Printed (quiet : Bool) (output : Output ω) : Prop :=
  (output.stdout.messages : Multiset (List (List Char))) +
      ∑ worker, alertMessages quiet (output.alerting worker).untyped =
    (output.traced.map printPacket : List (List (List Char))) + alertMessages quiet output.raised

theorem Printed.step (printed : Printed quiet output) (step : Step quiet event output after) :
    Printed quiet after := by
  unfold Printed at printed ⊢
  have moves (worker : ω) (pc : AlertPc) :=
    sum_update (fun pc : AlertPc => alertMessages quiet pc.untyped) output.alerting worker pc
  have same {worker : ω} {pc : AlertPc} (kept : pc.untyped = (output.alerting worker).untyped) :=
    sum_update_same (fun pc : AlertPc => alertMessages quiet pc.untyped) output.alerting
      (congrArg (alertMessages quiet) kept)
  cases step with
  | printAlert worker alert idle =>
    have moved := moves worker (.countingAll alert)
    rw [idle.1, show AlertPc.outside.untyped = 0 from rfl, alertMessages_zero, add_zero] at moved
    dsimp only
    rw [moved, ← add_assoc, printed, ← Multiset.coe_add, alertMessages_add, add_assoc]
    rfl
  | countAll worker alert due =>
    dsimp only
    rw [same (by rw [due]; rfl)]
    exact printed
  | countQuietly worker alert due silent =>
    have nothing : ∀ alerts, alertMessages quiet alerts = 0 := by
      rw [silent]
      exact fun _ => rfl
    simp only [nothing, Finset.sum_const_zero] at printed ⊢
    exact printed
  | countAndPrint worker alert stdout due loud prints =>
    have moved := moves worker .outside
    rw [due, show AlertPc.outside.untyped = 0 from rfl, alertMessages_zero, add_zero,
      show alertMessages quiet (AlertPc.countingType alert).untyped = {[alertLine alert]} by
        rw [loud]; rfl] at moved
    have handed : stdout.messages = output.stdout.messages ++ [[alertLine alert]] := by
      cases prints
      rfl
    dsimp only
    rw [← printed, ← moved, handed, ← Multiset.coe_add, add_assoc, add_comm (Multiset.ofList [_])]
    rfl
  | printPacket worker packet stdout idle prints =>
    have handed : stdout.messages = output.stdout.messages ++ [printPacket packet] := by
      cases prints
      rfl
    dsimp only
    rw [handed, List.map_append, ← Multiset.coe_add, ← Multiset.coe_add, add_right_comm, printed,
      add_right_comm]
    rfl
  | stdout stdout prints =>
    have handed : stdout.messages = output.stdout.messages := by
      cases prints <;> rfl
    dsimp only
    rw [handed]
    exact printed

theorem Printed.of_reachable (reachable : (system ω quiet).Reachable output) :
    Printed quiet output := by
  refine TransitionSystem.Reachable.invariant ?_ ?_ reachable
  · intro first start
    rw [show first = _ from start]
    simp [Printed, AlertPc.untyped]
  · intro before after _ step printed
    obtain ⟨event, step⟩ := step
    exact printed.step step

/-- When no worker prints, the standard output is made of the lines of the calls, each of them whole
    and once, and the counters have counted every alert. -/
theorem output_of_idle (reachable : (system ω quiet).Reachable output)
    (idle : ∀ worker, output.idle worker) :
    output.alertCount = UInt64.ofNat output.raised.length ∧
    (∀ type, output.alertsByType type = UInt64.ofNat (ofTypeCount type output.raised)) ∧
    ∃ lines : List (List (List Char)), output.stdout.log = lines.flatten ∧
      (lines : Multiset (List (List Char))) =
        (output.traced.map printPacket : List (List (List Char))) +
          alertMessages quiet output.raised := by
  have outside : ∀ worker, output.alerting worker = .outside := fun worker => (idle worker).1
  have counted := Counted.of_reachable reachable
  have printed := Printed.of_reachable reachable
  obtain ⟨lines, order, log⟩ := LockedLog.messages_in_one_piece (stdout_reachable reachable)
    fun worker => (idle worker).2
  refine ⟨?_, fun type => ?_, lines, log, ?_⟩
  · have all := counted.all
    rw [sum_of_idle (fun pc : AlertPc => pc.uncounted.card) outside rfl] at all
    exact (UInt64.add_zero _).symm.trans all
  · have types := counted.types type
    rw [sum_of_idle (fun pc : AlertPc => ofTypeCount type pc.untyped) outside rfl] at types
    exact (UInt64.add_zero _).symm.trans types
  · unfold Printed at printed
    rw [sum_of_idle (fun pc : AlertPc => alertMessages quiet pc.untyped) outside
      (alertMessages_zero quiet), add_zero] at printed
    rw [← printed]
    exact Multiset.coe_eq_coe.mpr order

end Lines

end Output

end NetSentinel
