import NetSentinel.Gpu.BufferPool
import NetSentinel.Library.Family
import NetSentinel.Library.Ownership

namespace NetSentinel.Gpu

open Family Ownership MetalContext

/-- What an owner does with the set it has: the command that may use it, and the lengths that it
    relies on. -/
structure Use where
  lease : Lease
  command : Option Nat
  needs : Slot → Option Nat

structure Use.Narrows (later earlier : Use) : Prop where
  lease : later.lease = earlier.lease
  needs : ∀ slot length, later.needs slot = some length → earlier.needs slot = some length
  results : later.command.isSome → (later.needs .results).isSome

/-- Owners `κ` that lease the sets of a pool. Whether an owner is a call or a handle, and what it is
    about to do, is left out. -/
structure BufferLeases (κ : Type*) where
  sets : Nat → EntropyBufferSet
  created : Nat
  freeBuffers : List Nat
  takes : Nat
  returned : List Nat
  uses : κ → Option Use
  commands : Nat → Option CommandBuffer

namespace BufferLeases

variable {κ : Type*} [DecidableEq κ]

inductive Step : BufferLeases κ → BufferLeases κ → Prop
  | takeFree {state : BufferLeases κ} (owner : κ) (rest : List Nat) (set : Nat)
      (idle : state.uses owner = none) (last : state.freeBuffers = rest ++ [set]) :
      Step state
        { state with
          freeBuffers := rest
          takes := state.takes + 1
          uses := Function.update state.uses owner
            (some ⟨⟨set, state.takes⟩, none, fun _ => none⟩) }
  | takeNew {state : BufferLeases κ} (owner : κ) (idle : state.uses owner = none) :
      Step state
        { state with
          sets := Function.update state.sets state.created fun _ => {}
          created := state.created + 1
          takes := state.takes + 1
          uses := Function.update state.uses owner
            (some ⟨⟨state.created, state.takes⟩, none, fun _ => none⟩) }
  | give {state : BufferLeases κ} (giver taker : κ) (use narrowed : Use)
      (has : state.uses giver = some use) (idle : state.uses taker = none)
      (narrows : narrowed.Narrows use) (same : narrowed.command = use.command) :
      Step state
        { state with
          uses := Function.update (Function.update state.uses giver none) taker (some narrowed) }
  | narrow {state : BufferLeases κ} (owner : κ) (use narrowed : Use)
      (has : state.uses owner = some use) (narrows : narrowed.Narrows use)
      (stops : narrowed.command = use.command ∨
        narrowed.command = none ∧ Ended state.commands use.command) :
      Step state { state with uses := Function.update state.uses owner (some narrowed) }
  | ensure {state : BufferLeases κ} (owner : κ) (use grown : Use) (slot : Slot) (needed : Nat)
      (newBuffer : Nat → Option MetalBuffer) (result : Bool × PooledBuffer)
      (has : state.uses owner = some use) (unsent : use.command = none)
      (delivers : ∀ length buffer, newBuffer length = some buffer → buffer.length = length)
      (ensures : ensureCapacity newBuffer (state.sets use.lease.set slot) needed = result)
      (lease : grown.lease = use.lease) (still : grown.command = none)
      (needs : ∀ other length, grown.needs other = some length →
        other ≠ slot ∧ use.needs other = some length ∨
          other = slot ∧ result.1 ∧ length = needed) :
      Step state
        { state with
          sets := setBuffer state.sets use.lease.set slot result.2
          uses := Function.update state.uses owner (some grown) }
  | commit {state : BufferLeases κ} (owner : κ) (use : Use) (command : Nat)
      (has : state.uses owner = some use) (unsent : use.command = none)
      (results : (use.needs .results).isSome) (fresh : state.commands command = none) :
      Step state
        { state with
          commands := Function.update state.commands command (some ⟨use.lease.set, .running⟩)
          uses := Function.update state.uses owner (some { use with command := some command }) }
  | gpu {state : BufferLeases κ} (command set : Nat) (status : CommandStatus)
      (running : state.commands command = some ⟨set, .running⟩) :
      Step state
        { state with
          commands := Function.update state.commands command (some ⟨set, status⟩)
          sets := writeResults state.sets set
            (if status = .completed then some command else none) }
  | giveBack {state : BufferLeases κ} (owner : κ) (use : Use) (has : state.uses owner = some use)
      (unsent : use.command = none) :
      Step state
        { state with
          freeBuffers := state.freeBuffers ++ [use.lease.set]
          returned := state.returned ++ [use.lease.ticket]
          uses := Function.update state.uses owner none }

def out (part : Lease → Nat) (uses : κ → Option Use) : κ → Option Nat :=
  fun owner => (uses owner).map fun use => part use.lease

section Out

variable {part : Lease → Nat} {uses : κ → Option Use} {owner : κ} {use : Use}

theorem out_update (part : Lease → Nat) (uses : κ → Option Use) (owner : κ) (value : Option Use) :
    out part (Function.update uses owner value) =
      Function.update (out part uses) owner (value.map fun use => part use.lease) := by
  funext other
  by_cases same : other = owner
  · subst same
    rw [out, Function.update_self, Function.update_self]
  · rw [out, Function.update_of_ne same, Function.update_of_ne same, out]

omit [DecidableEq κ] in
theorem out_of_uses (has : uses owner = some use) :
    out part uses owner = some (part use.lease) := by
  rw [out, has, Option.map_some]

theorem out_same {narrowed : Use} (has : uses owner = some use)
    (lease : narrowed.lease = use.lease) :
    out part (Function.update uses owner (some narrowed)) = out part uses := by
  rw [out_update, Option.map_some, lease, ← out_of_uses has, Function.update_eq_self]

theorem out_give {giver taker : κ} {narrowed : Use} (has : uses giver = some use)
    (lease : narrowed.lease = use.lease) :
    out part (Function.update (Function.update uses giver none) taker (some narrowed)) =
      handOver (out part uses) giver taker := by
  rw [out_update, out_update, handOver, out_of_uses has, Option.map_some, lease]
  rfl

end Out

structure Owned (state : BufferLeases κ) : Prop where
  sets : Exclusive (holdings state.freeBuffers (out Lease.set state.uses)) state.created
  tickets : Exclusive (holdings state.returned (out Lease.ticket state.uses)) state.takes

theorem Owned.step {state after : BufferLeases κ} (owned : Owned state)
    (step : Step state after) : Owned after := by
  have free {owner : κ} (idle : state.uses owner = none) {part : Lease → Nat} :
      out part state.uses owner = none := by
    rw [out, idle, Option.map_none]
  cases step with
  | takeFree owner rest set idle last =>
    constructor
    · rw [out_update]
      have sets := owned.sets
      rw [last] at sets
      exact sets.fetch (free idle)
    · rw [out_update]
      exact owned.tickets.makeFor (free idle)
  | takeNew owner idle =>
    constructor
    · rw [out_update]
      exact owned.sets.makeFor (free idle)
    · rw [out_update]
      exact owned.tickets.makeFor (free idle)
  | give giver taker use narrowed has idle narrows same =>
    constructor
    · rw [out_give has narrows.lease]
      exact owned.sets.give (free idle)
    · rw [out_give has narrows.lease]
      exact owned.tickets.give (free idle)
  | narrow owner use narrowed has narrows stops =>
    constructor
    · rw [out_same has narrows.lease]
      exact owned.sets
    · rw [out_same has narrows.lease]
      exact owned.tickets
  | ensure owner use grown slot needed newBuffer result has unsent delivers ensures lease still
      needs =>
    constructor
    · rw [out_same has lease]
      exact owned.sets
    · rw [out_same has lease]
      exact owned.tickets
  | commit owner use command has unsent results fresh =>
    have same : ({ use with command := some command } : Use).lease = use.lease := rfl
    constructor
    · rw [out_same has same]
      exact owned.sets
    · rw [out_same has same]
      exact owned.tickets
  | gpu command set status running => exact ⟨owned.sets, owned.tickets⟩
  | giveBack owner use has unsent =>
    constructor
    · rw [out_update]
      exact owned.sets.store (out_of_uses has)
    · rw [out_update]
      exact owned.tickets.store (out_of_uses has)

section Apart

variable {state : BufferLeases κ} {owner other : κ} {use otherUse : Use}

omit [DecidableEq κ] in
theorem Owned.same_owner (owned : Owned state) (has : state.uses owner = some use)
    (otherHas : state.uses other = some otherUse) (same : use.lease.set = otherUse.lease.set) :
    owner = other := by
  have here : holdings state.freeBuffers (out Lease.set state.uses) (.user owner) =
      some otherUse.lease.set := same ▸ out_of_uses has
  have there : holdings state.freeBuffers (out Lease.set state.uses) (.user other) =
      some otherUse.lease.set := out_of_uses otherHas
  exact Holder.user.inj (owned.sets.same_holder here there)

omit [DecidableEq κ] in
theorem Owned.set_lt (owned : Owned state) (has : state.uses owner = some use) :
    use.lease.set < state.created :=
  owned.sets.made_of_held (.user owner) _ (out_of_uses has)

omit [DecidableEq κ] in
theorem Owned.not_free (owned : Owned state) (has : state.uses owner = some use) :
    use.lease.set ∉ state.freeBuffers :=
  owned.sets.not_in_stock (out_of_uses has)

omit [DecidableEq κ] in
theorem Owned.all_returned (owned : Owned state) (idle : ∀ owner, state.uses owner = none) :
    state.returned.Perm (List.range state.takes) := by
  apply owned.tickets.all_in_stock
  intro owner
  rw [out, idle, Option.map_none]

end Apart

structure Sound (state : BufferLeases κ) : Prop where
  sized : ∀ set slot, (state.sets set slot).Sized
  holds : ∀ owner use, state.uses owner = some use → ∀ slot length,
    use.needs slot = some length → (state.sets use.lease.set slot).Holds length
  known : ∀ owner use command, state.uses owner = some use → use.command = some command →
    ∃ status, state.commands command = some ⟨use.lease.set, status⟩
  results : ∀ owner use, state.uses owner = some use → use.command.isSome →
    (use.needs .results).isSome
  flying : ∀ command set, state.commands command = some ⟨set, .running⟩ →
    ∃ owner use, state.uses owner = some use ∧ use.command = some command
  ready : ∀ owner use command, state.uses owner = some use → use.command = some command →
    state.commands command = some ⟨use.lease.set, .completed⟩ →
    (state.sets use.lease.set .results).buffer.bind MetalBuffer.writer = some command

section SoundStep

variable {state after : BufferLeases κ}

theorem Sound.sized_step (sound : Sound state) (step : Step state after) (set : Nat) (slot : Slot) :
    (after.sets set slot).Sized := by
  cases step with
  | takeNew owner idle =>
    by_cases new : set = state.created
    · subst new
      exact .inl (by simp)
    · change (Function.update state.sets state.created _ set slot).Sized
      rw [Function.update_of_ne new]
      exact sound.sized set slot
  | ensure owner use grown slot needed newBuffer result has unsent delivers ensures lease still
      needs =>
    apply setBuffer_holds (sound.sized set _)
    rintro rfl rfl
    rw [← ensures]
    exact ensureCapacity_sized delivers (sound.sized _ _)
  | gpu command set status running => exact writeResults_sized (sound.sized _ slot) _ _
  | takeFree | give | narrow | commit | giveBack => exact sound.sized set slot

theorem use_cases {uses : κ → Option Use} {owner other : κ} {new use : Use}
    (has : Function.update uses owner (some new) other = some use) :
    other = owner ∧ use = new ∨ other ≠ owner ∧ uses other = some use := by
  obtain ⟨same, value⟩ | old := update_cases has
  · exact .inl ⟨same, (Option.some.inj value).symm⟩
  · exact .inr old

theorem use_of_removed {uses : κ → Option Use} {owner other : κ} {use : Use}
    (has : Function.update uses owner none other = some use) : uses other = some use := by
  obtain ⟨-, value⟩ | ⟨-, old⟩ := update_cases has
  · cases value
  · exact old

theorem Sound.results_step (sound : Sound state) (step : Step state after) (owner : κ) (use : Use)
    (has : after.uses owner = some use) (sent : use.command.isSome) :
    (use.needs .results).isSome := by
  cases step with
  | takeFree | takeNew =>
    obtain ⟨-, rfl⟩ | ⟨-, has⟩ := use_cases has
    · cases sent
    · exact sound.results owner use has sent
  | give giver taker earlier narrowed gives idle narrows same =>
    obtain ⟨-, rfl⟩ | ⟨-, has⟩ := use_cases has
    · exact narrows.results sent
    · exact sound.results owner use (use_of_removed has) sent
  | narrow narrower earlier narrowed had narrows stops =>
    obtain ⟨-, rfl⟩ | ⟨-, has⟩ := use_cases has
    · exact narrows.results sent
    · exact sound.results owner use has sent
  | ensure grower earlier grown slot needed newBuffer result had unsent delivers ensures lease
      still =>
    obtain ⟨-, rfl⟩ | ⟨-, has⟩ := use_cases has
    · rw [still] at sent
      cases sent
    · exact sound.results owner use has sent
  | commit sender earlier command had unsent results fresh =>
    obtain ⟨-, rfl⟩ | ⟨-, has⟩ := use_cases has
    · exact results
    · exact sound.results owner use has sent
  | gpu => exact sound.results owner use has sent
  | giveBack giver earlier had unsent => exact sound.results owner use (use_of_removed has) sent

theorem Sound.holds_step (owned : Owned state) (sound : Sound state) (step : Step state after)
    (owner : κ) (use : Use) (has : after.uses owner = some use) (slot : Slot) (length : Nat)
    (needs : use.needs slot = some length) : (after.sets use.lease.set slot).Holds length := by
  cases step with
  | takeFree taker rest set idle last =>
    obtain ⟨-, rfl⟩ | ⟨-, has⟩ := use_cases has
    · cases needs
    · exact sound.holds owner use has slot length needs
  | takeNew taker idle =>
    obtain ⟨-, rfl⟩ | ⟨-, has⟩ := use_cases has
    · cases needs
    · have older : use.lease.set ≠ state.created := Nat.ne_of_lt (owned.set_lt has)
      change (Function.update state.sets state.created _ use.lease.set slot).Holds length
      rw [Function.update_of_ne older]
      exact sound.holds owner use has slot length needs
  | give giver taker earlier narrowed gives idle narrows same =>
    obtain ⟨-, rfl⟩ | ⟨-, has⟩ := use_cases has
    · rw [narrows.lease]
      exact sound.holds giver earlier gives slot length (narrows.needs slot length needs)
    · exact sound.holds owner use (use_of_removed has) slot length needs
  | narrow narrower earlier narrowed had narrows stops =>
    obtain ⟨-, rfl⟩ | ⟨-, has⟩ := use_cases has
    · rw [narrows.lease]
      exact sound.holds narrower earlier had slot length (narrows.needs slot length needs)
    · exact sound.holds owner use has slot length needs
  | ensure grower earlier grown changed needed newBuffer result had unsent delivers ensures lease
      still grows =>
    obtain ⟨-, rfl⟩ | ⟨apart, has⟩ := use_cases has
    · rw [lease]
      obtain ⟨apart, kept⟩ | ⟨rfl, succeeds, rfl⟩ := grows slot length needs
      · change (setBuffer state.sets earlier.lease.set changed result.2 _ slot).Holds length
        rw [setBuffer_of_slot _ apart]
        exact sound.holds grower earlier had slot length kept
      · change (setBuffer state.sets earlier.lease.set slot result.2 _ slot).Holds length
        rw [← ensures] at succeeds
        rw [setBuffer_self, ← ensures]
        exact ensureCapacity_holds delivers (sound.sized _ _) succeeds
    · have elsewhere : use.lease.set ≠ earlier.lease.set := fun same =>
        apart (owned.same_owner has had same)
      change (setBuffer state.sets earlier.lease.set changed result.2 _ slot).Holds length
      rw [setBuffer_of_set _ elsewhere]
      exact sound.holds owner use has slot length needs
  | commit sender earlier command had unsent results fresh =>
    obtain ⟨-, rfl⟩ | ⟨-, has⟩ := use_cases has
    · exact sound.holds sender earlier had slot length needs
    · exact sound.holds owner use has slot length needs
  | gpu command set status running =>
    exact writeResults_holds (sound.holds owner use has slot length needs) _ _
  | giveBack giver earlier had unsent =>
    exact sound.holds owner use (use_of_removed has) slot length needs

theorem Sound.known_step (sound : Sound state) (step : Step state after) (owner : κ) (use : Use)
    (command : Nat) (has : after.uses owner = some use) (sent : use.command = some command) :
    ∃ status, after.commands command = some ⟨use.lease.set, status⟩ := by
  cases step with
  | takeFree | takeNew =>
    obtain ⟨-, rfl⟩ | ⟨-, has⟩ := use_cases has
    · cases sent
    · exact sound.known owner use command has sent
  | give giver taker earlier narrowed gives idle narrows same =>
    obtain ⟨-, rfl⟩ | ⟨-, has⟩ := use_cases has
    · rw [narrows.lease]
      exact sound.known giver earlier command gives (same ▸ sent)
    · exact sound.known owner use command (use_of_removed has) sent
  | narrow narrower earlier narrowed had narrows stops =>
    obtain ⟨-, rfl⟩ | ⟨-, has⟩ := use_cases has
    · rw [narrows.lease]
      obtain same | ⟨none, -⟩ := stops
      · exact sound.known narrower earlier command had (same ▸ sent)
      · rw [none] at sent
        cases sent
    · exact sound.known owner use command has sent
  | ensure grower earlier grown slot needed newBuffer result had unsent delivers ensures lease
      still =>
    obtain ⟨-, rfl⟩ | ⟨-, has⟩ := use_cases has
    · rw [still] at sent
      cases sent
    · exact sound.known owner use command has sent
  | commit sender earlier new had unsent results fresh =>
    obtain ⟨-, rfl⟩ | ⟨-, has⟩ := use_cases has
    · cases sent
      exact ⟨.running, Function.update_self _ _ _⟩
    · obtain ⟨status, found⟩ := sound.known owner use command has sent
      have older : command ≠ new := by
        rintro rfl
        rw [fresh] at found
        cases found
      exact ⟨status, (Function.update_of_ne older _ _).trans found⟩
  | gpu written set status running =>
    obtain ⟨before, found⟩ := sound.known owner use command has sent
    by_cases same : command = written
    · subst same
      cases running.symm.trans found
      exact ⟨status, Function.update_self _ _ _⟩
    · exact ⟨before, (Function.update_of_ne same _ _).trans found⟩
  | giveBack giver earlier had unsent =>
    exact sound.known owner use command (use_of_removed has) sent

theorem Sound.flying_step (sound : Sound state) (step : Step state after) (command set : Nat)
    (running : after.commands command = some ⟨set, .running⟩) :
    ∃ owner use, after.uses owner = some use ∧ use.command = some command := by
  cases step with
  | takeFree taker _ _ idle _ | takeNew taker idle =>
    obtain ⟨owner, use, has, sent⟩ := sound.flying command set running
    exact ⟨owner, use, update_stays has (by rw [idle]; exact nofun), sent⟩
  | give giver taker earlier narrowed gives idle narrows same =>
    obtain ⟨owner, use, has, sent⟩ := sound.flying command set running
    by_cases given : owner = giver
    · subst given
      cases gives.symm.trans has
      exact ⟨taker, narrowed, Function.update_self _ _ _, same.trans sent⟩
    · have kept : Function.update state.uses giver none owner = some use :=
        (Function.update_of_ne given _ _).trans has
      have apart : owner ≠ taker := by
        rintro rfl
        rw [idle] at has
        cases has
      exact ⟨owner, use, (Function.update_of_ne apart _ _).trans kept, sent⟩
  | narrow narrower earlier narrowed had narrows stops =>
    obtain ⟨owner, use, has, sent⟩ := sound.flying command set running
    by_cases here : owner = narrower
    · subst here
      cases had.symm.trans has
      obtain same | ⟨-, ended⟩ := stops
      · exact ⟨owner, narrowed, Function.update_self _ _ _, same.trans sent⟩
      · obtain ⟨buffer, found, stopped⟩ := ended command sent
        cases running.symm.trans found
        exact (stopped rfl).elim
    · exact ⟨owner, use, (Function.update_of_ne here _ _).trans has, sent⟩
  | ensure grower earlier grown slot needed newBuffer result had unsent delivers ensures lease
      still =>
    obtain ⟨owner, use, has, sent⟩ := sound.flying command set running
    have apart : owner ≠ grower := by
      rintro rfl
      cases had.symm.trans has
      rw [unsent] at sent
      cases sent
    exact ⟨owner, use, (Function.update_of_ne apart _ _).trans has, sent⟩
  | commit sender earlier new had unsent results fresh =>
    by_cases same : command = new
    · subst same
      exact ⟨sender, _, Function.update_self _ _ _, rfl⟩
    · obtain ⟨owner, use, has, sent⟩ :=
        sound.flying command set ((Function.update_of_ne same _ _).symm.trans running)
      have apart : owner ≠ sender := by
        rintro rfl
        cases had.symm.trans has
        rw [unsent] at sent
        cases sent
      exact ⟨owner, use, (Function.update_of_ne apart _ _).trans has, sent⟩
  | gpu written other status ran =>
    by_cases same : command = written
    · subst same
      exact sound.flying command other ran
    · exact sound.flying command set ((Function.update_of_ne same _ _).symm.trans running)
  | giveBack giver earlier had unsent =>
    obtain ⟨owner, use, has, sent⟩ := sound.flying command set running
    have apart : owner ≠ giver := by
      rintro rfl
      cases had.symm.trans has
      rw [unsent] at sent
      cases sent
    exact ⟨owner, use, (Function.update_of_ne apart _ _).trans has, sent⟩

omit [DecidableEq κ] in
theorem Sound.user_of_running (sound : Sound state) {command set : Nat}
    (running : state.commands command = some ⟨set, .running⟩) :
    ∃ owner use, state.uses owner = some use ∧ use.command = some command ∧
      use.lease.set = set := by
  obtain ⟨owner, use, has, sent⟩ := sound.flying command set running
  obtain ⟨status, found⟩ := sound.known owner use command has sent
  exact ⟨owner, use, has, sent,
    congrArg CommandBuffer.set (Option.some.inj (found.symm.trans running))⟩

omit [DecidableEq κ] in
theorem Sound.same_command (owned : Owned state) (sound : Sound state) {owner : κ} {use : Use}
    {running : Nat} (has : state.uses owner = some use)
    (runs : state.commands running = some ⟨use.lease.set, .running⟩) :
    use.command = some running := by
  obtain ⟨other, otherUse, otherHas, sent, same⟩ := sound.user_of_running runs
  obtain rfl := owned.same_owner has otherHas same.symm
  cases has.symm.trans otherHas
  exact sent

theorem Sound.ready_step (owned : Owned state) (sound : Sound state) (step : Step state after)
    (owner : κ) (use : Use) (command : Nat) (has : after.uses owner = some use)
    (sent : use.command = some command)
    (completed : after.commands command = some ⟨use.lease.set, .completed⟩) :
    (after.sets use.lease.set .results).buffer.bind MetalBuffer.writer = some command := by
  cases step with
  | takeFree taker rest set idle last =>
    obtain ⟨-, rfl⟩ | ⟨-, has⟩ := use_cases has
    · cases sent
    · exact sound.ready owner use command has sent completed
  | takeNew taker idle =>
    obtain ⟨-, rfl⟩ | ⟨-, has⟩ := use_cases has
    · cases sent
    · have older : use.lease.set ≠ state.created := Nat.ne_of_lt (owned.set_lt has)
      change ((Function.update state.sets state.created _ use.lease.set .results).buffer.bind _) = _
      rw [Function.update_of_ne older]
      exact sound.ready owner use command has sent completed
  | give giver taker earlier narrowed gives idle narrows same =>
    obtain ⟨-, rfl⟩ | ⟨-, has⟩ := use_cases has
    · rw [narrows.lease] at completed ⊢
      exact sound.ready giver earlier command gives (same ▸ sent) completed
    · exact sound.ready owner use command (use_of_removed has) sent completed
  | narrow narrower earlier narrowed had narrows stops =>
    obtain ⟨-, rfl⟩ | ⟨-, has⟩ := use_cases has
    · rw [narrows.lease] at completed ⊢
      obtain same | ⟨none, -⟩ := stops
      · exact sound.ready narrower earlier command had (same ▸ sent) completed
      · rw [none] at sent
        cases sent
    · exact sound.ready owner use command has sent completed
  | ensure grower earlier grown slot needed newBuffer result had unsent delivers ensures lease
      still =>
    obtain ⟨-, rfl⟩ | ⟨apart, has⟩ := use_cases has
    · rw [still] at sent
      cases sent
    · have elsewhere : use.lease.set ≠ earlier.lease.set := fun same =>
        apart (owned.same_owner has had same)
      change ((setBuffer state.sets earlier.lease.set slot result.2 _ .results).buffer.bind _) = _
      rw [setBuffer_of_set _ elsewhere]
      exact sound.ready owner use command has sent completed
  | commit sender earlier new had unsent results fresh =>
    obtain ⟨-, rfl⟩ | ⟨-, has⟩ := use_cases has
    · cases sent
      cases (Function.update_self _ _ _).symm.trans completed
    · obtain ⟨status, found⟩ := sound.known owner use command has sent
      have older : command ≠ new := by
        rintro rfl
        rw [fresh] at found
        cases found
      exact sound.ready owner use command has sent
        ((Function.update_of_ne older _ _).symm.trans completed)
  | gpu written set status running =>
    by_cases same : command = written
    · -- the command that the user waits for has just ended
      subst same
      have ends := (Function.update_self _ _ _).symm.trans completed
      cases ends
      obtain ⟨length, needs⟩ :=
        Option.isSome_iff_exists.mp (sound.results owner use has (by rw [sent]; rfl))
      obtain ⟨buffer, found, -⟩ := sound.holds owner use has .results length needs
      change ((setBuffer state.sets use.lease.set .results _ _ .results).buffer.bind _) = _
      rw [setBuffer_self, found]
      rfl
    · have elsewhere : use.lease.set ≠ set := by
        rintro rfl
        exact same (Option.some.inj (sent.symm.trans (sound.same_command owned has running)))
      change ((setBuffer state.sets set .results _ use.lease.set .results).buffer.bind _) = _
      rw [setBuffer_of_set _ elsewhere]
      exact sound.ready owner use command has sent
        ((Function.update_of_ne same _ _).symm.trans completed)
  | giveBack giver earlier had unsent =>
    exact sound.ready owner use command (use_of_removed has) sent completed

theorem Sound.step (owned : Owned state) (sound : Sound state) (step : Step state after) :
    Sound after where
  sized := sound.sized_step step
  holds := sound.holds_step owned step
  known := sound.known_step step
  results := sound.results_step step
  flying := sound.flying_step step
  ready := sound.ready_step owned step

end SoundStep

def initial (κ : Type*) : BufferLeases κ :=
  ⟨fun _ _ => {}, 0, [], 0, [], fun _ => none, fun _ => none⟩

def system (κ : Type*) [DecidableEq κ] : TransitionSystem (BufferLeases κ) where
  start state := state = initial κ
  step := Step

theorem reachable_owned {state : BufferLeases κ} (reachable : (system κ).Reachable state) :
    Owned state := by
  refine reachable.invariant (P := Owned) ?_ ?_
  · rintro state rfl
    exact ⟨Exclusive.nothing, Exclusive.nothing⟩
  · intro state after _ step owned
    exact owned.step step

theorem reachable_sound {state : BufferLeases κ} (reachable : (system κ).Reachable state) :
    Sound state := by
  refine reachable.invariant (P := Sound) ?_ ?_
  · rintro state rfl
    exact ⟨fun _ _ => .inl ⟨rfl, rfl⟩, nofun, nofun, nofun, nofun, nofun⟩
  · intro state after earlier step sound
    exact sound.step (reachable_owned earlier) step

end BufferLeases

end NetSentinel.Gpu
