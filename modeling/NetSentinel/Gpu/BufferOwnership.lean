import NetSentinel.Gpu.BufferLeases

namespace NetSentinel.Gpu

open Family Ownership MetalContext

/-- Who may have a set: a call of `submit_payload_entropy`, by its thread, or a handle. -/
inductive Owner (ω : Type*) where
  | call (thread : ω)
  | handle (id : Nat)
deriving DecidableEq

namespace SubmitStage

def command : SubmitStage → Option Nat
  | .committed _ command => some command
  | _ => none

def needs : SubmitStage → Slot → Option Nat
  | .growing payloads left => fun slot =>
    if slot ∈ left then none else some (payloads.needed slot)
  | .copied payloads => fun slot => some (payloads.needed slot)
  | .committed payloads _ => fun slot => some (payloads.needed slot)
  | .taken _ => fun _ => none
  | .abandoning => fun _ => none

end SubmitStage

def GpuCall.use : GpuCall → Option Use
  | .submitting lease stage => some ⟨lease, stage.command, stage.needs⟩
  | _ => none

def PendingGpuEntropy.use {ω : Type*} (pending : PendingGpuEntropy ω) : Use where
  lease := pending.lease
  command := pending.command
  needs slot :=
    if pending.command.isSome ∧ slot = .results then some (pending.count * 4 % 2 ^ 64) else none

def GpuCall.handle : GpuCall → Option Nat
  | .waiting handle | .destroying handle | .releasing handle => some handle
  | _ => none

section View

variable {ω : Type*}

def usesOf (calls : ω → GpuCall) (handles : Nat → Option (PendingGpuEntropy ω)) :
    Owner ω → Option Use
  | .call thread => (calls thread).use
  | .handle id => (handles id).map PendingGpuEntropy.use

namespace MetalContext

def uses (context : MetalContext ω) : Owner ω → Option Use :=
  usesOf context.calls context.handles

def leases (context : MetalContext ω) : BufferLeases (Owner ω) where
  sets := context.sets
  created := context.created
  freeBuffers := context.freeBuffers
  takes := context.takes
  returned := context.returned
  uses := context.uses
  commands := context.commands

end MetalContext

variable [DecidableEq ω] {calls : ω → GpuCall} {handles : Nat → Option (PendingGpuEntropy ω)}

theorem usesOf_call (thread : ω) (call : GpuCall) :
    usesOf (Function.update calls thread call) handles =
      Function.update (usesOf calls handles) (.call thread) call.use := by
  funext owner
  cases owner with
  | call other => by_cases same : other = thread <;> simp [usesOf, Function.update, same]
  | handle id => simp [usesOf, Function.update]

theorem usesOf_handle (id : Nat) (pending : Option (PendingGpuEntropy ω)) :
    usesOf calls (Function.update handles id pending) =
      Function.update (usesOf calls handles) (.handle id) (pending.map PendingGpuEntropy.use) := by
  funext owner
  cases owner with
  | call thread => simp [usesOf, Function.update]
  | handle other => by_cases same : other = id <;> simp [usesOf, Function.update, same]

theorem usesOf_call_same {thread : ω} {call : GpuCall} (same : call.use = (calls thread).use) :
    usesOf (Function.update calls thread call) handles = usesOf calls handles := by
  rw [usesOf_call, same]
  exact Function.update_eq_self _ _

theorem usesOf_handle_same {id : Nat} {pending : Option (PendingGpuEntropy ω)}
    (same : pending.map PendingGpuEntropy.use = (handles id).map PendingGpuEntropy.use) :
    usesOf calls (Function.update handles id pending) = usesOf calls handles := by
  rw [usesOf_handle, same]
  exact Function.update_eq_self _ _

end View

/-- What the threads rely on when they come back to a handle. -/
structure Handled {ω : Type*} (context : MetalContext ω) : Prop where
  waiting : ∀ thread handle, context.calls thread = .waiting handle →
    ∃ pending, context.handles handle = some pending ∧ pending.destroyer = none
  destroying : ∀ thread handle, context.calls thread = .destroying handle →
    ∃ pending, context.handles handle = some pending ∧ pending.destroyer = some thread
  releasing : ∀ thread handle, context.calls thread = .releasing handle →
    ∃ pending, context.handles handle = some pending ∧ pending.destroyer = some thread ∧
      pending.command = none
  waited : ∀ handle pending, context.handles handle = some pending → pending.waited →
    (∃ thread, context.calls thread = .waiting handle) ∨ Ended context.commands pending.command

section Handles

variable {ω : Type*} [DecidableEq ω] {context after : MetalContext ω}

theorem Handled.moved (handled : Handled context) {thread : ω} {call : GpuCall}
    (calls : after.calls = Function.update context.calls thread call)
    (handles : after.handles = context.handles)
    (ended : ∀ command, Ended context.commands command → Ended after.commands command)
    (before : (context.calls thread).handle = none) (now : call.handle = none) :
    Handled after := by
  have apart {other : ω} {handle : Nat} (there : (after.calls other).handle = some handle) :
      after.calls other = context.calls other := by
    have other_ne : other ≠ thread := by
      rintro rfl
      rw [calls, Function.update_self, now] at there
      cases there
    rw [calls, Function.update_of_ne other_ne]
  constructor
  · intro other handle waits
    have same := apart (congrArg GpuCall.handle waits)
    rw [handles]
    exact handled.waiting other handle (same ▸ waits)
  · intro other handle destroys
    have same := apart (congrArg GpuCall.handle destroys)
    rw [handles]
    exact handled.destroying other handle (same ▸ destroys)
  · intro other handle releases
    have same := apart (congrArg GpuCall.handle releases)
    rw [handles]
    exact handled.releasing other handle (same ▸ releases)
  · intro handle pending found waited
    rw [handles] at found
    obtain ⟨other, waits⟩ | stopped := handled.waited handle pending found waited
    · have other_ne : other ≠ thread := by
        rintro rfl
        rw [waits] at before
        cases before
      exact .inl ⟨other, by rw [calls, Function.update_of_ne other_ne, waits]⟩
    · exact .inr (ended _ stopped)

variable {thread : ω} {id : Nat} {pending : PendingGpuEntropy ω}

theorem Handled.opened (handled : Handled context) (before : (context.calls thread).handle = none)
    (fresh : context.handles id = none) (new : pending.waited = false) :
    Handled { context with
      calls := Function.update context.calls thread .outside
      handles := Function.update context.handles id (some pending) } := by
  have keeps {handle : Nat} {old : PendingGpuEntropy ω}
      (found : context.handles handle = some old) :
      Function.update context.handles id (some pending) handle = some old := by
    apply update_stays found
    rw [fresh]
    exact nofun
  constructor
  · intro other handle waits
    obtain ⟨-, outside⟩ | ⟨-, waits⟩ := update_cases waits
    · cases outside
    · obtain ⟨old, found, alive⟩ := handled.waiting other handle waits
      exact ⟨old, keeps found, alive⟩
  · intro other handle destroys
    obtain ⟨-, outside⟩ | ⟨-, destroys⟩ := update_cases destroys
    · cases outside
    · obtain ⟨old, found, destroyer⟩ := handled.destroying other handle destroys
      exact ⟨old, keeps found, destroyer⟩
  · intro other handle releases
    obtain ⟨-, outside⟩ | ⟨-, releases⟩ := update_cases releases
    · cases outside
    · obtain ⟨old, found, destroyer⟩ := handled.releasing other handle releases
      exact ⟨old, keeps found, destroyer⟩
  · intro handle old found waited
    obtain ⟨-, value⟩ | ⟨-, found⟩ := update_cases found
    · cases value
      rw [new] at waited
      cases waited
    · obtain ⟨other, waits⟩ | stopped := handled.waited handle old found waited
      · have elsewhere : other ≠ thread := by
          rintro rfl
          rw [waits] at before
          cases before
        exact .inl ⟨other, (Function.update_of_ne elsewhere _ _).trans waits⟩
      · exact .inr stopped

theorem Handled.wait (handled : Handled context) (outside : context.calls thread = .outside)
    (found : context.handles id = some pending) (alive : pending.destroyer = none) :
    Handled { context with
      calls := Function.update context.calls thread (.waiting id)
      handles := Function.update context.handles id (some { pending with waited := true }) } := by
  have keeps {handle : Nat} {old : PendingGpuEntropy ω} {other : ω}
      (there : context.handles handle = some old) (destroyer : old.destroyer = some other) :
      Function.update context.handles id (some { pending with waited := true }) handle =
        some old := by
    apply update_stays there
    intro same
    cases found.symm.trans same
    rw [alive] at destroyer
    cases destroyer
  constructor
  · intro other handle waits
    have target : ∃ old, context.handles handle = some old ∧ old.destroyer = none := by
      obtain ⟨-, here⟩ | ⟨-, waits⟩ := update_cases waits
      · cases here
        exact ⟨pending, found, alive⟩
      · exact handled.waiting other handle waits
    obtain ⟨old, there, idle⟩ := target
    by_cases same : handle = id
    · subst same
      exact ⟨_, Function.update_self _ _ _, alive⟩
    · exact ⟨old, (Function.update_of_ne same _ _).trans there, idle⟩
  · intro other handle destroys
    obtain ⟨-, here⟩ | ⟨-, destroys⟩ := update_cases destroys
    · cases here
    · obtain ⟨old, there, destroyer⟩ := handled.destroying other handle destroys
      exact ⟨old, keeps there destroyer, destroyer⟩
  · intro other handle releases
    obtain ⟨-, here⟩ | ⟨-, releases⟩ := update_cases releases
    · cases here
    · obtain ⟨old, there, destroyer, reset⟩ := handled.releasing other handle releases
      exact ⟨old, keeps there destroyer, destroyer, reset⟩
  · intro handle old there waited
    obtain ⟨rfl, -⟩ | ⟨-, there⟩ := update_cases there
    · exact .inl ⟨thread, Function.update_self _ _ _⟩
    · obtain ⟨other, waits⟩ | stopped := handled.waited handle old there waited
      · have elsewhere : other ≠ thread := by
          rintro rfl
          rw [outside] at waits
          cases waits
        exact .inl ⟨other, (Function.update_of_ne elsewhere _ _).trans waits⟩
      · exact .inr stopped

theorem Handled.stopWaiting (handled : Handled context) (due : context.calls thread = .waiting id)
    (found : context.handles id = some pending)
    (ended : Ended context.commands pending.command) (copied : List (Nat × Option Nat)) :
    Handled { context with
      calls := Function.update context.calls thread .outside
      copied := copied } := by
  constructor
  · intro other handle waits
    obtain ⟨-, outside⟩ | ⟨-, waits⟩ := update_cases waits
    · cases outside
    · exact handled.waiting other handle waits
  · intro other handle destroys
    obtain ⟨-, outside⟩ | ⟨-, destroys⟩ := update_cases destroys
    · cases outside
    · exact handled.destroying other handle destroys
  · intro other handle releases
    obtain ⟨-, outside⟩ | ⟨-, releases⟩ := update_cases releases
    · cases outside
    · exact handled.releasing other handle releases
  · intro handle old there waited
    obtain ⟨other, waits⟩ | stopped := handled.waited handle old there waited
    · by_cases same : other = thread
      · subst same
        cases due.symm.trans waits
        cases found.symm.trans there
        exact .inr ended
      · exact .inl ⟨other, (Function.update_of_ne same _ _).trans waits⟩
    · exact .inr stopped

theorem Handled.alone (handled : Handled context) {call : GpuCall}
    {value : Option (PendingGpuEntropy ω)}
    (calls : after.calls = Function.update context.calls thread call)
    (handles : after.handles = Function.update context.handles id value)
    (commands : after.commands = context.commands)
    (others : ∀ other, other ≠ thread → (context.calls other).handle ≠ some id)
    (here : ∀ handle, handle ≠ id → context.calls thread ≠ .waiting handle)
    (goesOn : call = .outside ∨ ∃ pending, value = some pending ∧
      pending.destroyer = some thread ∧
        (call = .destroying id ∨ call = .releasing id ∧ pending.command = none))
    (ended : ∀ pending, value = some pending → pending.waited →
      Ended context.commands pending.command) : Handled after := by
  have keeps {other : ω} {handle : Nat} {old : PendingGpuEntropy ω} (apart : other ≠ thread)
      (uses : (context.calls other).handle = some handle)
      (there : context.handles handle = some old) : after.handles handle = some old := by
    have elsewhere : handle ≠ id := by
      rintro rfl
      exact others other apart uses
    rw [handles, Function.update_of_ne elsewhere, there]
  have now : after.handles id = value := by
    rw [handles, Function.update_self]
  constructor
  · intro other handle waits
    rw [calls] at waits
    obtain ⟨-, moved⟩ | ⟨apart, waits⟩ := update_cases waits
    · obtain rfl | ⟨new, -, -, rfl | ⟨rfl, -⟩⟩ := goesOn <;> cases moved
    · obtain ⟨old, there, alive⟩ := handled.waiting other handle waits
      exact ⟨old, keeps apart (congrArg GpuCall.handle waits) there, alive⟩
  · intro other handle destroys
    rw [calls] at destroys
    obtain ⟨rfl, moved⟩ | ⟨apart, destroys⟩ := update_cases destroys
    · obtain rfl | ⟨new, rfl, destroyer, rfl | ⟨rfl, -⟩⟩ := goesOn
      · cases moved
      · cases moved
        exact ⟨new, now, destroyer⟩
      · cases moved
    · obtain ⟨old, there, destroyer⟩ := handled.destroying other handle destroys
      exact ⟨old, keeps apart (congrArg GpuCall.handle destroys) there, destroyer⟩
  · intro other handle releases
    rw [calls] at releases
    obtain ⟨rfl, moved⟩ | ⟨apart, releases⟩ := update_cases releases
    · obtain rfl | ⟨new, rfl, destroyer, rfl | ⟨rfl, reset⟩⟩ := goesOn
      · cases moved
      · cases moved
      · cases moved
        exact ⟨new, now, destroyer, reset⟩
    · obtain ⟨old, there, destroyer, reset⟩ := handled.releasing other handle releases
      exact ⟨old, keeps apart (congrArg GpuCall.handle releases) there, destroyer, reset⟩
  · intro handle old there waited
    rw [handles] at there
    rw [commands]
    obtain ⟨rfl, value⟩ | ⟨elsewhere, there⟩ := update_cases there
    · exact .inr (ended old value waited)
    · obtain ⟨other, waits⟩ | stopped := handled.waited handle old there waited
      · have apart : other ≠ thread := by
          rintro rfl
          exact here handle elsewhere waits
        exact .inl ⟨other, by rw [calls, Function.update_of_ne apart, waits]⟩
      · exact .inr stopped

omit [DecidableEq ω] in
theorem Handled.at_handle (handled : Handled context) (found : context.handles id = some pending)
    {other : ω} (uses : (context.calls other).handle = some id) :
    context.calls other = .waiting id ∧ pending.destroyer = none ∨
      pending.destroyer = some other := by
  cases call : context.calls other with
  | outside | submitting =>
    rw [call] at uses
    cases uses
  | waiting handle =>
    rw [call] at uses
    cases uses
    obtain ⟨old, there, alive⟩ := handled.waiting other id call
    cases found.symm.trans there
    exact .inl ⟨rfl, alive⟩
  | destroying handle =>
    rw [call] at uses
    cases uses
    obtain ⟨old, there, destroyer⟩ := handled.destroying other id call
    cases found.symm.trans there
    exact .inr destroyer
  | releasing handle =>
    rw [call] at uses
    cases uses
    obtain ⟨old, there, destroyer, -⟩ := handled.releasing other id call
    cases found.symm.trans there
    exact .inr destroyer

omit [DecidableEq ω] in
theorem Handled.others_away (handled : Handled context) (found : context.handles id = some pending)
    (destroyer : pending.destroyer = some thread) {other : ω} (apart : other ≠ thread) :
    (context.calls other).handle ≠ some id := by
  intro uses
  obtain ⟨-, alive⟩ | same := handled.at_handle found uses
  · rw [alive] at destroyer
    cases destroyer
  · exact apart (Option.some.inj (same.symm.trans destroyer))

theorem Handled.step (handled : Handled context) (step : Step context after) : Handled after := by
  cases step with
  | take thread payloads outside =>
    refine handled.moved rfl (takeBuffers_handles context) ?_ (by rw [outside]; rfl) rfl
    intro command ended
    rw [← takeBuffers_commands context] at ended
    exact ended
  | submitEmpty thread lease payloads handle due empty fresh =>
    exact handled.opened (by rw [due]; rfl) fresh rfl
  | grow thread lease payloads due some =>
    exact handled.moved rfl rfl (fun _ => id) (by rw [due]; rfl) rfl
  | ensure thread lease payloads slot left newBuffer grown due delivers ensures =>
    exact handled.moved rfl rfl (fun _ => id) (by rw [due]; rfl) rfl
  | copy thread lease payloads due =>
    exact handled.moved rfl rfl (fun _ => id) (by rw [due]; rfl) rfl
  | noCommand thread lease payloads due =>
    exact handled.moved rfl rfl (fun _ => id) (by rw [due]; rfl) rfl
  | commit thread lease payloads command due fresh =>
    refine handled.moved rfl rfl (fun _ ended => ended.update ?_) (by rw [due]; rfl) rfl
    intro buffer found
    rw [fresh] at found
    cases found
  | submitted thread lease payloads command handle due fresh =>
    exact handled.opened (by rw [due]; rfl) fresh rfl
  | giveBack thread lease due =>
    exact handled.moved rfl rfl (fun _ => id) (by rw [due]; rfl) rfl
  | gpu command set status running =>
    refine ⟨handled.waiting, handled.destroying, handled.releasing, ?_⟩
    intro handle pending found waited
    apply (handled.waited handle pending found waited).imp_right
    intro ended
    apply ended.update
    intro buffer there
    cases running.symm.trans there
    rfl
  | wait thread handle pending outside found alive =>
    exact handled.wait outside found alive
  | waited thread handle pending due found ended =>
    exact handled.stopWaiting due found ended _
  | destroy thread handle pending outside found alive unused =>
    refine handled.alone rfl rfl rfl ?_ ?_ (.inr ⟨_, rfl, rfl, .inl rfl⟩) ?_
    · intro other _ uses
      obtain ⟨waits, -⟩ | destroyer := handled.at_handle found uses
      · exact unused other waits
      · rw [alive] at destroyer
        cases destroyer
    · intro elsewhere _ waits
      rw [outside] at waits
      cases waits
    · rintro _ ⟨⟩ waited
      obtain ⟨other, waits⟩ | ended := handled.waited handle pending found waited
      · exact (unused other waits).elim
      · exact ended
  | reset thread handle pending due found ended =>
    obtain ⟨old, there, destroyer⟩ := handled.destroying thread handle due
    cases found.symm.trans there
    refine handled.alone rfl rfl rfl (fun other => handled.others_away found destroyer) ?_
      (.inr ⟨_, rfl, destroyer, .inr ⟨rfl, rfl⟩⟩) ?_
    · intro elsewhere _ waits
      rw [due] at waits
      cases waits
    · rintro _ ⟨⟩ _ id none
      cases none
  | release thread handle pending due found =>
    obtain ⟨old, there, destroyer, -⟩ := handled.releasing thread handle due
    cases found.symm.trans there
    refine handled.alone rfl rfl rfl (fun other => handled.others_away found destroyer) ?_
      (.inl rfl) nofun
    intro elsewhere _ waits
    rw [due] at waits
    cases waits

theorem reachable_handled (reachable : (system ω).Reachable context) : Handled context := by
  refine reachable.invariant (P := Handled) ?_ ?_
  · rintro context rfl
    exact ⟨nofun, nofun, nofun, nofun⟩
  · intro context after _ step handled
    exact handled.step step

end Handles

section Refinement

variable {ω : Type*} [DecidableEq ω] {context after : MetalContext ω}

theorem needs_all (payloads : PayloadSpans) (slot : Slot) :
    (SubmitStage.growing payloads [.data, .offsets, .lengths, .results]).needs slot = none := by
  cases slot <;> rfl

omit [DecidableEq ω] in
theorem uses_of_call {thread : ω} {lease : Lease} {stage : SubmitStage}
    (due : context.calls thread = .submitting lease stage) :
    context.leases.uses (.call thread) = some ⟨lease, stage.command, stage.needs⟩ := by
  change (context.calls thread).use = _
  rw [due]
  rfl

omit [DecidableEq ω] in
theorem uses_of_handle {handle : Nat} {pending : PendingGpuEntropy ω}
    (found : context.handles handle = some pending) :
    context.leases.uses (.handle handle) = some pending.use := by
  change (context.handles handle).map PendingGpuEntropy.use = _
  rw [found]
  rfl

theorem leases_give {thread : ω} {lease : Lease} {stage : SubmitStage} {handle : Nat}
    {pending : PendingGpuEntropy ω} (due : context.calls thread = .submitting lease stage)
    (fresh : context.handles handle = none) (same : pending.lease = lease)
    (command : pending.command = stage.command)
    (needs : ∀ slot length, pending.use.needs slot = some length → stage.needs slot = some length) :
    BufferLeases.Step context.leases
      { context with
        calls := Function.update context.calls thread .outside
        handles := Function.update context.handles handle (some pending) :
          MetalContext ω }.leases := by
  have idle : context.leases.uses (.handle handle) = none := by
    change (context.handles handle).map PendingGpuEntropy.use = none
    rw [fresh]
    rfl
  have narrows : pending.use.Narrows ⟨lease, stage.command, stage.needs⟩ := by
    refine ⟨same, needs, ?_⟩
    intro sent
    change (if _ then _ else _ : Option Nat).isSome
    rw [if_pos ⟨sent, rfl⟩]
    rfl
  have step := BufferLeases.Step.give (Owner.call thread) (Owner.handle handle) _ pending.use
    (uses_of_call due) idle narrows command
  have view : usesOf (Function.update context.calls thread .outside)
      (Function.update context.handles handle (some pending)) =
        Function.update (Function.update context.uses (.call thread) none) (.handle handle)
          (some pending.use) := by
    rw [usesOf_handle, usesOf_call]
    rfl
  simp only [leases, uses, view]
  exact step

theorem leases_narrow {thread : ω} {lease : Lease} {stage next : SubmitStage}
    (due : context.calls thread = .submitting lease stage) (unsent : stage.command = none)
    (still : next.command = none)
    (needs : ∀ slot length, next.needs slot = some length → stage.needs slot = some length) :
    BufferLeases.Step context.leases
      { context with
        calls := Function.update context.calls thread (.submitting lease next) :
          MetalContext ω }.leases := by
  have narrows : (⟨lease, next.command, next.needs⟩ : Use).Narrows
      ⟨lease, stage.command, stage.needs⟩ := by
    refine ⟨rfl, needs, ?_⟩
    intro sent
    change next.command.isSome at sent
    rw [still] at sent
    cases sent
  have step := BufferLeases.Step.narrow (Owner.call thread) _ _ (uses_of_call due) narrows
    (.inl (still.trans unsent.symm))
  simp only [leases, uses, usesOf_call]
  exact step

theorem leases_ensure {thread : ω} {lease : Lease} {payloads : PayloadSpans} {slot : Slot}
    {left : List Slot} {newBuffer : Nat → Option MetalBuffer} {grown : Bool × PooledBuffer}
    (due : context.calls thread = .submitting lease (.growing payloads (slot :: left)))
    (delivers : ∀ length buffer, newBuffer length = some buffer → buffer.length = length)
    (ensures : ensureCapacity newBuffer (context.sets lease.set slot) (payloads.needed slot) =
      grown) :
    BufferLeases.Step context.leases
      { context with
        sets := setBuffer context.sets lease.set slot grown.2
        calls := Function.update context.calls thread (.submitting lease
          (if grown.1 then .growing payloads left else .abandoning)) : MetalContext ω }.leases := by
  let next : SubmitStage := if grown.1 then .growing payloads left else .abandoning
  have still : next.command = none := by
    simp only [next]
    split <;> rfl
  have needs : ∀ other length, next.needs other = some length →
      other ≠ slot ∧ (SubmitStage.growing payloads (slot :: left)).needs other = some length ∨
        other = slot ∧ grown.1 ∧ length = payloads.needed slot := by
    intro other length needed
    by_cases succeeds : grown.1
    · simp only [next, succeeds, if_true, SubmitStage.needs] at needed
      split at needed
      · cases needed
      · rename_i done
        by_cases same : other = slot
        · subst same
          exact .inr ⟨rfl, succeeds, (Option.some.inj needed).symm⟩
        · have kept : other ∉ slot :: left := by
            rw [List.mem_cons]
            exact not_or.mpr ⟨same, done⟩
          refine .inl ⟨same, ?_⟩
          simp only [SubmitStage.needs, if_neg kept]
          exact needed
    · simp only [next, succeeds] at needed
      cases needed
  have step := BufferLeases.Step.ensure (Owner.call thread) _ ⟨lease, next.command, next.needs⟩ slot
    (payloads.needed slot) newBuffer grown (uses_of_call due) rfl delivers ensures rfl still needs
  simp only [leases, uses, usesOf_call]
  exact step

theorem leases_take (thread : ω) (payloads : PayloadSpans)
    (outside : context.calls thread = .outside) :
    BufferLeases.Step context.leases
      { context.takeBuffers.2 with
        calls := Function.update context.calls thread
          (.submitting context.takeBuffers.1 (.taken payloads)) : MetalContext ω }.leases := by
  have idle : context.leases.uses (.call thread) = none := by
    change (context.calls thread).use = none
    rw [outside]
    rfl
  simp only [leases, uses, usesOf_call, takeBuffers_handles, takeBuffers_commands]
  unfold takeBuffers
  split
  · exact BufferLeases.Step.takeNew (Owner.call thread) idle
  · rename_i set last
    have split : context.freeBuffers = context.freeBuffers.dropLast ++ [set] :=
      (List.dropLast_append_getLast? set last).symm
    exact BufferLeases.Step.takeFree (Owner.call thread) _ set idle split

omit [DecidableEq ω] in
theorem Handled.ended (handled : Handled context) {thread : ω} {handle : Nat}
    {pending : PendingGpuEntropy ω} (due : context.calls thread = .destroying handle)
    (found : context.handles handle = some pending)
    (unwaited : pending.waited = false → Ended context.commands pending.command) :
    Ended context.commands pending.command := by
  by_cases waited : pending.waited
  · obtain ⟨other, waits⟩ | ended := handled.waited handle pending found waited
    · obtain ⟨old, there, destroyer⟩ := handled.destroying thread handle due
      obtain ⟨again, here, alive⟩ := handled.waiting other handle waits
      cases there.symm.trans here
      rw [alive] at destroyer
      cases destroyer
    · exact ended
  · exact unwaited (Bool.eq_false_iff.mpr waited)

theorem Handled.leases_reset (handled : Handled context) {thread : ω} {handle : Nat}
    {pending : PendingGpuEntropy ω} (due : context.calls thread = .destroying handle)
    (found : context.handles handle = some pending)
    (unwaited : pending.waited = false → Ended context.commands pending.command) :
    BufferLeases.Step context.leases
      { context with
        calls := Function.update context.calls thread (.releasing handle)
        handles := Function.update context.handles handle (some { pending with command := none }) :
          MetalContext ω }.leases := by
  have calls : (GpuCall.releasing handle).use = (context.calls thread).use := by
    rw [due]
    rfl
  have narrows : ({ pending with command := none } : PendingGpuEntropy ω).use.Narrows
      pending.use := by
    refine ⟨rfl, ?_, nofun⟩
    intro slot length needs
    simp [PendingGpuEntropy.use] at needs
  have step := BufferLeases.Step.narrow (Owner.handle handle) _ _ (uses_of_handle found) narrows
    (.inr ⟨rfl, handled.ended due found unwaited⟩)
  simp only [leases, uses, usesOf_call_same calls, usesOf_handle]
  exact step

theorem Handled.refines (handled : Handled context) (step : Step context after) :
    BufferLeases.Step context.leases after.leases ∨ after.leases = context.leases := by
  cases step with
  | take thread payloads outside => exact .inl (leases_take thread payloads outside)
  | submitEmpty thread lease payloads handle due empty fresh =>
    exact .inl (leases_give due fresh rfl rfl nofun)
  | grow thread lease payloads due some =>
    refine .inl (leases_narrow due rfl rfl ?_)
    intro slot length needs
    rw [needs_all] at needs
    cases needs
  | ensure thread lease payloads slot left newBuffer grown due delivers ensures =>
    exact .inl (leases_ensure due delivers ensures)
  | copy thread lease payloads due =>
    refine .inl (leases_narrow due rfl rfl ?_)
    intro slot length needs
    exact needs
  | noCommand thread lease payloads due =>
    exact .inl (leases_narrow due rfl rfl nofun)
  | commit thread lease payloads command due fresh =>
    have step := BufferLeases.Step.commit (Owner.call thread) _ command (uses_of_call due) rfl rfl
      fresh
    simp only [leases, uses, usesOf_call]
    exact .inl step
  | submitted thread lease payloads command handle due fresh =>
    refine .inl (leases_give due fresh rfl rfl ?_)
    intro slot length needs
    simp only [PendingGpuEntropy.use] at needs
    split at needs
    · rename_i results
      rw [results.2]
      exact needs
    · cases needs
  | giveBack thread lease due =>
    have step := BufferLeases.Step.giveBack (Owner.call thread) _ (uses_of_call due) rfl
    simp only [leases, uses, usesOf_call]
    exact .inl step
  | gpu command set status running =>
    exact .inl (BufferLeases.Step.gpu command set status running)
  | wait thread handle pending outside found alive =>
    have calls : (GpuCall.waiting handle).use = (context.calls thread).use := by
      rw [outside]
      rfl
    have handles : (some { pending with waited := true }).map PendingGpuEntropy.use =
        (context.handles handle).map PendingGpuEntropy.use := by
      rw [found]
      rfl
    right
    simp only [leases, uses, usesOf_call_same calls, usesOf_handle_same handles]
  | waited thread handle pending due found ended =>
    have calls : GpuCall.outside.use = (context.calls thread).use := by
      rw [due]
      rfl
    right
    simp only [leases, uses, usesOf_call_same calls]
  | destroy thread handle pending outside found alive unused =>
    have calls : (GpuCall.destroying handle).use = (context.calls thread).use := by
      rw [outside]
      rfl
    have handles : (some { pending with destroyer := some thread }).map PendingGpuEntropy.use =
        (context.handles handle).map PendingGpuEntropy.use := by
      rw [found]
      rfl
    right
    simp only [leases, uses, usesOf_call_same calls, usesOf_handle_same handles]
  | reset thread handle pending due found ended =>
    exact .inl (handled.leases_reset due found ended)
  | release thread handle pending due found =>
    obtain ⟨old, there, -, reset⟩ := handled.releasing thread handle due
    cases found.symm.trans there
    have calls : GpuCall.outside.use = (context.calls thread).use := by
      rw [due]
      rfl
    have step := BufferLeases.Step.giveBack (Owner.handle handle) _ (uses_of_handle found) reset
    simp only [leases, uses, usesOf_call_same calls, usesOf_handle]
    exact .inl step

theorem leases_reachable (reachable : (MetalContext.system ω).Reachable context) :
    (BufferLeases.system (Owner ω)).Reachable context.leases := by
  refine reachable.map ?_ ?_
  · rintro context rfl
    change _ = BufferLeases.initial (Owner ω)
    have idle : (initial ω).uses = fun _ => none := by
      funext owner
      cases owner <;> rfl
    simp only [leases, idle]
    rfl
  · intro context after earlier step
    exact (reachable_handled earlier).refines step

end Refinement

section Safety

variable {ω : Type*} [DecidableEq ω] {context : MetalContext ω}

def CopiedOwn (context : MetalContext ω) : Prop :=
  ∀ command writer, (command, writer) ∈ context.copied → writer = some command

theorem results_own (reachable : (MetalContext.system ω).Reachable context) {handle : Nat}
    {pending : PendingGpuEntropy ω} (found : context.handles handle = some pending)
    {command : Nat} {writer : Option Nat} (member : (command, writer) ∈ context.results pending) :
    writer = some command := by
  have sound := BufferLeases.reachable_sound (leases_reachable reachable)
  unfold results at member
  split at member
  · cases member
  · rename_i id sent
    split at member
    · rename_i completed
      rw [List.mem_singleton] at member
      cases member
      obtain ⟨status, known⟩ := sound.known _ _ _ (uses_of_handle found) sent
      change context.commands command = _ at known
      rw [known] at completed
      cases completed
      exact sound.ready _ _ _ (uses_of_handle found) sent known
    · cases member

theorem CopiedOwn.step {after : MetalContext ω}
    (reachable : (MetalContext.system ω).Reachable context) (own : CopiedOwn context)
    (step : Step context after) : CopiedOwn after := by
  cases step with
  | take thread payloads outside =>
    intro command writer member
    apply own command writer
    rw [← takeBuffers_copied context]
    exact member
  | waited thread handle pending due found ended =>
    intro command writer member
    obtain old | new := List.mem_append.mp member
    · exact own command writer old
    · exact results_own reachable found new
  | submitEmpty | grow | ensure | copy | noCommand | commit | submitted | giveBack | gpu | wait |
      destroy | reset | release => exact own

theorem reachable_copiedOwn (reachable : (MetalContext.system ω).Reachable context) :
    CopiedOwn context := by
  refine reachable.invariant (P := CopiedOwn) ?_ ?_
  · rintro context rfl
    exact nofun
  · intro context after earlier step own
    exact own.step earlier step

abbrev Place (ω : Type*) := Holder (Owner ω)

def setAt (context : MetalContext ω) : Place ω → Option Nat :=
  holdings context.freeBuffers (BufferLeases.out Lease.set context.uses)

def ticketAt (context : MetalContext ω) : Place ω → Option Nat :=
  holdings context.returned (BufferLeases.out Lease.ticket context.uses)

structure PoolSafe (context : MetalContext ω) : Prop where
  one_owner : ∀ set < context.created, ∃! place, setAt context place = some set
  one_return : ∀ ticket < context.takes, ∃! place, ticketAt context place = some ticket
  all_returned : (∀ owner, context.uses owner = none) →
    context.returned.Perm (List.range context.takes)
  not_in_pool : ∀ command set, context.commands command = some ⟨set, .running⟩ →
    set ∉ context.freeBuffers
  not_shared : ∀ command other set, context.commands command = some ⟨set, .running⟩ →
    context.commands other = some ⟨set, .running⟩ → command = other
  not_rewritten : ∀ thread lease stage, context.calls thread = .submitting lease stage →
    stage.command = none → ∀ command, context.commands command ≠ some ⟨lease.set, .running⟩
  not_overwritten : ∀ handle pending command, context.handles handle = some pending →
    pending.command = some command →
    context.commands command = some ⟨pending.lease.set, .completed⟩ →
    (context.sets pending.lease.set .results).buffer.bind MetalBuffer.writer = some command
  copied_own : CopiedOwn context
  sized : ∀ set ∈ context.freeBuffers, ∀ slot, (context.sets set slot).Sized
  writes_fit : ∀ thread lease payloads,
    context.calls thread = .submitting lease (.growing payloads []) →
    ∀ write ∈ hostWrites payloads,
      (context.sets lease.set write.slot).Holds (write.start + write.length)

/-- Whatever the threads and the GPU do, every set has one owner, comes back once for every time it
    is taken, and is used by one dispatch at a time. The calls are those with fewer than 2^60 spans
    that take less than 2^64 bytes together. -/
theorem buffer_pool_is_safe (reachable : (MetalContext.system ω).Reachable context) :
    PoolSafe context := by
  have owned := BufferLeases.reachable_owned (leases_reachable reachable)
  have sound := BufferLeases.reachable_sound (leases_reachable reachable)
  refine ⟨owned.sets.held, owned.tickets.held, owned.all_returned, ?_, ?_, ?_, ?_,
    reachable_copiedOwn reachable, fun set _ => sound.sized set, ?_⟩
  · intro command set running
    obtain ⟨owner, use, has, -, rfl⟩ := sound.user_of_running running
    exact owned.not_free has
  · intro command other set running otherRunning
    obtain ⟨owner, use, has, sent, rfl⟩ := sound.user_of_running running
    have same := sound.same_command owned has otherRunning
    exact Option.some.inj (sent.symm.trans same)
  · intro thread lease stage due unsent command running
    have same := sound.same_command owned (uses_of_call due) running
    cases unsent.symm.trans same
  · intro handle pending command found sent completed
    exact sound.ready _ _ _ (uses_of_handle found) sent completed
  · intro thread lease payloads due write member
    have needs : (SubmitStage.growing payloads []).needs write.slot =
        some (payloads.needed write.slot) := rfl
    obtain ⟨buffer, found, long⟩ := sound.holds _ _ (uses_of_call due) write.slot _ needs
    exact ⟨buffer, found, (hostWrites_end member).trans long⟩

end Safety

section OneDispatch

def threeBytes : PayloadSpans := ⟨[3], by decide, by decide⟩

def newBuffer (length : Nat) : Option MetalBuffer := some ⟨length, none⟩

/-- One thread submits, another one waits for the handle, and the first one destroys it. -/
theorem one_dispatch_run : ∃ context : MetalContext Bool,
    (MetalContext.system Bool).Reachable context ∧ context.copied = [(0, some 0)] ∧
      context.freeBuffers = [0] ∧ context.returned = [0] := by
  have delivers (length : Nat) (buffer : MetalBuffer) (found : newBuffer length = some buffer) :
      buffer.length = length := by
    cases found
    rfl
  have begun : (MetalContext.system Bool).Reachable (initial Bool) := .first rfl
  have taken := begun.next (Step.take false threeBytes rfl)
  have growing := taken.next (Step.grow false ⟨0, 0⟩ threeBytes rfl nofun)
  have data :=
    growing.next (Step.ensure false ⟨0, 0⟩ threeBytes .data _ newBuffer _ rfl delivers rfl)
  have offsets :=
    data.next (Step.ensure false ⟨0, 0⟩ threeBytes .offsets _ newBuffer _ rfl delivers rfl)
  have lengths :=
    offsets.next (Step.ensure false ⟨0, 0⟩ threeBytes .lengths _ newBuffer _ rfl delivers rfl)
  have results :=
    lengths.next (Step.ensure false ⟨0, 0⟩ threeBytes .results _ newBuffer _ rfl delivers rfl)
  have copied := results.next (Step.copy false ⟨0, 0⟩ threeBytes rfl)
  have committed := copied.next (Step.commit false ⟨0, 0⟩ threeBytes 0 rfl rfl)
  have submitted := committed.next (Step.submitted false ⟨0, 0⟩ threeBytes 0 0 rfl rfl)
  have completed := submitted.next (Step.gpu 0 0 .completed rfl)
  have waiting := completed.next (Step.wait true 0 _ rfl rfl rfl)
  have waited := waiting.next (Step.waited true 0 _ rfl rfl (by
    rintro id ⟨⟩
    exact ⟨⟨0, .completed⟩, rfl, nofun⟩))
  have destroying := waited.next (Step.destroy false 0 _ rfl rfl rfl (by
    intro other
    cases other <;> exact nofun))
  have reset := destroying.next (Step.reset false 0 _ rfl rfl nofun)
  have released := reset.next (Step.release false 0 _ rfl rfl)
  exact ⟨_, released, rfl, rfl, rfl⟩

theorem one_dispatch_is_safe : ∃ context : MetalContext Bool,
    context.copied = [(0, some 0)] ∧ context.freeBuffers = [0] ∧ context.returned = [0] ∧
      PoolSafe context := by
  obtain ⟨context, reachable, copied, free, returned⟩ := one_dispatch_run
  exact ⟨context, copied, free, returned, buffer_pool_is_safe reachable⟩

end OneDispatch

end NetSentinel.Gpu
