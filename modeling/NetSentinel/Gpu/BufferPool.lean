import Mathlib.Algebra.Order.BigOperators.Group.List
import Mathlib.Algebra.Order.Ring.Nat
import Mathlib.Logic.Function.Basic
import NetSentinel.Library.TransitionSystem

namespace NetSentinel.Gpu

/-- A buffer in shared storage: its real length, and the command whose results are in it. -/
structure MetalBuffer where
  length : Nat
  writer : Option Nat
deriving DecidableEq, Repr

/-- A buffer pointer of a set together with the capacity recorded for it. -/
structure PooledBuffer where
  buffer : Option MetalBuffer := none
  capacity : Nat := 0
deriving DecidableEq, Repr

def ensureCapacity (newBuffer : Nat → Option MetalBuffer) (pooled : PooledBuffer) (needed : Nat) :
    Bool × PooledBuffer :=
  if pooled.buffer.isSome ∧ needed ≤ pooled.capacity then (true, pooled)
  else
    let grown := max needed (max (pooled.capacity * 2 % 2 ^ 64) 4096)
    let buffer := newBuffer grown
    (buffer.isSome, { buffer, capacity := if buffer.isSome then grown else 0 })

namespace PooledBuffer

def Sized (pooled : PooledBuffer) : Prop :=
  pooled.buffer = none ∧ pooled.capacity = 0 ∨
    ∃ buffer, pooled.buffer = some buffer ∧ buffer.length = pooled.capacity

def Holds (pooled : PooledBuffer) (length : Nat) : Prop :=
  ∃ buffer, pooled.buffer = some buffer ∧ length ≤ buffer.length

end PooledBuffer

section EnsureCapacity

variable {newBuffer : Nat → Option MetalBuffer} {pooled : PooledBuffer} {needed : Nat}

theorem ensureCapacity_sized
    (delivers : ∀ length buffer, newBuffer length = some buffer → buffer.length = length)
    (sized : pooled.Sized) : (ensureCapacity newBuffer pooled needed).2.Sized := by
  unfold ensureCapacity
  split
  · exact sized
  · cases found : newBuffer (max needed (max (pooled.capacity * 2 % 2 ^ 64) 4096)) with
    | none =>
      refine .inl ⟨found, ?_⟩
      change (if (newBuffer _).isSome then _ else 0) = 0
      rw [found]
      rfl
    | some buffer =>
      refine .inr ⟨buffer, found, ?_⟩
      change buffer.length = if (newBuffer _).isSome then _ else 0
      rw [found, delivers _ _ found]
      rfl

theorem ensureCapacity_holds
    (delivers : ∀ length buffer, newBuffer length = some buffer → buffer.length = length)
    (sized : pooled.Sized) (succeeds : (ensureCapacity newBuffer pooled needed).1) :
    (ensureCapacity newBuffer pooled needed).2.Holds needed := by
  unfold ensureCapacity at succeeds ⊢
  split
  · rename_i enough
    obtain ⟨null, -⟩ | ⟨buffer, found, length⟩ := sized
    · rw [null] at enough
      cases enough.1
    · exact ⟨buffer, found, length ▸ enough.2⟩
  · rename_i short
    rw [if_neg short] at succeeds
    obtain ⟨buffer, found⟩ := Option.isSome_iff_exists.mp succeeds
    refine ⟨buffer, found, ?_⟩
    rw [delivers _ _ found]
    exact Nat.le_max_left _ _

end EnsureCapacity

inductive Slot where
  | data
  | offsets
  | lengths
  | results
deriving DecidableEq, Repr

abbrev EntropyBufferSet := Slot → PooledBuffer

/-- The sizes of the payloads of a call. A span takes 16 bytes of the address space, and payloads that
    do not overlap take less than all of it: these two limits are a precondition of the pool. -/
structure PayloadSpans where
  sizes : List Nat
  count_lt : sizes.length < 2 ^ 60
  bytes_lt : sizes.sum < 2 ^ 64
deriving DecidableEq, Repr

namespace PayloadSpans

def count (payloads : PayloadSpans) : Nat := payloads.sizes.length

def totalBytes (payloads : PayloadSpans) : Nat :=
  payloads.sizes.foldl (fun total size => (total + size) % 2 ^ 64) 0

def needed (payloads : PayloadSpans) : Slot → Nat
  | .data => payloads.totalBytes
  | .offsets | .lengths | .results => payloads.count * 4 % 2 ^ 64

end PayloadSpans

structure HostWrite where
  slot : Slot
  start : Nat
  length : Nat
deriving DecidableEq, Repr

def copyPayloads : List Nat → Nat → Nat → List HostWrite
  | [], _, _ => []
  | size :: sizes, i, offset =>
    [⟨.offsets, i * 4, 4⟩, ⟨.lengths, i * 4, 4⟩] ++
      (if 0 < size then [⟨.data, offset, size⟩] else []) ++
      copyPayloads sizes (i + 1) ((offset + size) % 2 ^ 64)

def hostWrites (payloads : PayloadSpans) : List HostWrite := copyPayloads payloads.sizes 0 0

section HostWrites

theorem foldl_total {sizes : List Nat} {total : Nat} (below : total + sizes.sum < 2 ^ 64) :
    sizes.foldl (fun total size => (total + size) % 2 ^ 64) total = total + sizes.sum := by
  induction sizes generalizing total with
  | nil => rfl
  | cons size sizes ih =>
    rw [List.sum_cons] at below ⊢
    rw [List.foldl_cons, Nat.mod_eq_of_lt (by omega), ih (by omega)]
    omega

theorem PayloadSpans.totalBytes_eq (payloads : PayloadSpans) :
    payloads.totalBytes = payloads.sizes.sum := by
  have below : 0 + payloads.sizes.sum < 2 ^ 64 := by
    rw [Nat.zero_add]
    exact payloads.bytes_lt
  rw [totalBytes, foldl_total below, Nat.zero_add]

theorem PayloadSpans.count_bytes (payloads : PayloadSpans) :
    payloads.count * 4 % 2 ^ 64 = payloads.count * 4 := by
  have := payloads.count_lt
  apply Nat.mod_eq_of_lt
  rw [count]
  omega

theorem copyPayloads_end {sizes : List Nat} {i offset : Nat} (below : offset + sizes.sum < 2 ^ 64)
    {write : HostWrite} (member : write ∈ copyPayloads sizes i offset) :
    write.slot = .data ∧ write.start + write.length ≤ offset + sizes.sum ∨
      (write.slot = .offsets ∨ write.slot = .lengths) ∧
        write.start + write.length ≤ (i + sizes.length) * 4 := by
  induction sizes generalizing i offset with
  | nil => cases member
  | cons size sizes ih =>
    rw [List.sum_cons] at below ⊢
    rw [List.length_cons]
    simp only [copyPayloads, List.mem_append, List.mem_cons, List.not_mem_nil, or_false] at member
    obtain ((rfl | rfl) | copies) | later := member
    · exact .inr ⟨.inl rfl, by dsimp only; omega⟩
    · exact .inr ⟨.inr rfl, by dsimp only; omega⟩
    · split at copies
      · rw [List.mem_singleton] at copies
        subst copies
        exact .inl ⟨rfl, by dsimp only; omega⟩
      · cases copies
    · rw [Nat.mod_eq_of_lt (by omega)] at later
      obtain ⟨data, ends⟩ | ⟨table, ends⟩ := ih (by omega) later
      · exact .inl ⟨data, by omega⟩
      · exact .inr ⟨table, by omega⟩

theorem hostWrites_end {payloads : PayloadSpans} {write : HostWrite}
    (member : write ∈ hostWrites payloads) :
    write.start + write.length ≤ payloads.needed write.slot := by
  have below : 0 + payloads.sizes.sum < 2 ^ 64 := by
    rw [Nat.zero_add]
    exact payloads.bytes_lt
  obtain ⟨slot, ends⟩ | ⟨slot | slot, ends⟩ := copyPayloads_end below member
  · rw [slot, PayloadSpans.needed, payloads.totalBytes_eq]
    omega
  · rw [slot, PayloadSpans.needed, payloads.count_bytes, PayloadSpans.count]
    omega
  · rw [slot, PayloadSpans.needed, payloads.count_bytes, PayloadSpans.count]
    omega

end HostWrites

inductive CommandStatus where
  | running
  | completed
  | failed
deriving DecidableEq, Repr

structure CommandBuffer where
  set : Nat
  status : CommandStatus
deriving DecidableEq, Repr

/-- What `take_buffers` gives out: a set of buffers, and which call of `take_buffers` it was. -/
structure Lease where
  set : Nat
  ticket : Nat
deriving DecidableEq, Repr

/-- Where `submit_payload_entropy` is, once it has its buffers: before it looks at the payloads,
    with some buffers still to be grown, behind the copying, behind `commit`, or on its way out
    after a failure. -/
inductive SubmitStage where
  | taken (payloads : PayloadSpans)
  | growing (payloads : PayloadSpans) (left : List Slot)
  | copied (payloads : PayloadSpans)
  | committed (payloads : PayloadSpans) (command : Nat)
  | abandoning
deriving DecidableEq, Repr

inductive GpuCall where
  | outside
  | submitting (lease : Lease) (stage : SubmitStage)
  | waiting (handle : Nat)
  | destroying (handle : Nat)
  | releasing (handle : Nat)
deriving DecidableEq, Repr

/-- `destroyer` is the thread that runs the destructor. -/
structure PendingGpuEntropy (ω : Type*) where
  lease : Lease
  command : Option Nat
  count : Nat
  waited : Bool := false
  destroyer : Option ω := none
deriving DecidableEq, Repr

/-- The pool and what moves around it. `returned` has the tickets of all sets that came back, and
    `copied` has what `wait` copied: the command and whose results were in the buffer. -/
structure MetalContext (ω : Type*) where
  sets : Nat → EntropyBufferSet
  created : Nat
  freeBuffers : List Nat
  takes : Nat
  returned : List Nat
  calls : ω → GpuCall
  handles : Nat → Option (PendingGpuEntropy ω)
  commands : Nat → Option CommandBuffer
  copied : List (Nat × Option Nat)

section Sets

variable (sets : Nat → EntropyBufferSet)

def setBuffer (set : Nat) (slot : Slot) (pooled : PooledBuffer) : Nat → EntropyBufferSet :=
  Function.update sets set (Function.update (sets set) slot pooled)

def writeResults (set : Nat) (writer : Option Nat) : Nat → EntropyBufferSet :=
  setBuffer sets set .results
    { sets set .results with
      buffer := (sets set .results).buffer.map fun buffer => { buffer with writer } }

theorem setBuffer_self (set : Nat) (slot : Slot) (pooled : PooledBuffer) :
    setBuffer sets set slot pooled set slot = pooled := by
  rw [setBuffer, Function.update_self, Function.update_self]

theorem setBuffer_of_slot {slot other : Slot} (apart : other ≠ slot) (set : Nat)
    (pooled : PooledBuffer) : setBuffer sets set slot pooled set other = sets set other := by
  rw [setBuffer, Function.update_self, Function.update_of_ne apart]

theorem setBuffer_of_set {set other : Nat} (apart : other ≠ set) (slot : Slot)
    (pooled : PooledBuffer) : setBuffer sets set slot pooled other = sets other :=
  Function.update_of_ne apart _ _

variable {sets}

theorem setBuffer_holds {P : PooledBuffer → Prop} {changed : Nat} {slot : Slot}
    {pooled : PooledBuffer} {set : Nat} {other : Slot} (old : P (sets set other))
    (new : set = changed → other = slot → P pooled) :
    P (setBuffer sets changed slot pooled set other) := by
  by_cases sameSet : set = changed
  · subst sameSet
    by_cases sameSlot : other = slot
    · subst sameSlot
      rw [setBuffer_self]
      exact new rfl rfl
    · rw [setBuffer_of_slot sets sameSlot]
      exact old
  · rw [setBuffer_of_set sets sameSet]
    exact old

theorem writeResults_sized {set : Nat} {slot : Slot} (sized : (sets set slot).Sized) (changed : Nat)
    (writer : Option Nat) : (writeResults sets changed writer set slot).Sized := by
  apply setBuffer_holds sized
  rintro rfl rfl
  obtain ⟨null, capacity⟩ | ⟨buffer, found, length⟩ := sized
  · exact .inl ⟨by rw [null, Option.map_none], capacity⟩
  · exact .inr ⟨{ buffer with writer }, by rw [found, Option.map_some], length⟩

theorem writeResults_holds {set : Nat} {slot : Slot} {length : Nat}
    (holds : (sets set slot).Holds length) (changed : Nat) (writer : Option Nat) :
    (writeResults sets changed writer set slot).Holds length := by
  apply setBuffer_holds (P := fun pooled => pooled.Holds length) holds
  rintro rfl rfl
  obtain ⟨buffer, found, enough⟩ := holds
  exact ⟨{ buffer with writer }, by rw [found, Option.map_some], enough⟩

end Sets

namespace MetalContext

variable {ω : Type*}

def takeBuffers (context : MetalContext ω) : Lease × MetalContext ω :=
  match context.freeBuffers.getLast? with
  | none =>
    (⟨context.created, context.takes⟩,
      { context with
        sets := Function.update context.sets context.created fun _ => {}
        created := context.created + 1
        takes := context.takes + 1 })
  | some set =>
    (⟨set, context.takes⟩,
      { context with freeBuffers := context.freeBuffers.dropLast, takes := context.takes + 1 })

def returnBuffers (context : MetalContext ω) (lease : Lease) : MetalContext ω :=
  { context with
    freeBuffers := context.freeBuffers ++ [lease.set]
    returned := context.returned ++ [lease.ticket] }

/-- What `waitUntilCompleted` waits for. -/
def Ended (commands : Nat → Option CommandBuffer) (command : Option Nat) : Prop :=
  ∀ id, command = some id → ∃ buffer, commands id = some buffer ∧ buffer.status ≠ .running

theorem takeBuffers_handles (context : MetalContext ω) :
    context.takeBuffers.2.handles = context.handles := by
  unfold takeBuffers
  split <;> rfl

theorem takeBuffers_commands (context : MetalContext ω) :
    context.takeBuffers.2.commands = context.commands := by
  unfold takeBuffers
  split <;> rfl

theorem takeBuffers_copied (context : MetalContext ω) :
    context.takeBuffers.2.copied = context.copied := by
  unfold takeBuffers
  split <;> rfl

theorem Ended.update {commands : Nat → Option CommandBuffer} {command : Option Nat}
    (ended : Ended commands command) {changed : Nat} {value : Option CommandBuffer}
    (unfinished : ∀ buffer, commands changed = some buffer → buffer.status = .running) :
    Ended (Function.update commands changed value) command := by
  intro id same
  obtain ⟨buffer, found, stopped⟩ := ended id same
  have apart : id ≠ changed := by
    rintro rfl
    exact stopped (unfinished buffer found)
  exact ⟨buffer, (Function.update_of_ne apart _ _).trans found, stopped⟩

/-- What `wait` copies: nothing if there was no command, or if it failed. -/
def results (context : MetalContext ω) (pending : PendingGpuEntropy ω) : List (Nat × Option Nat) :=
  match pending.command with
  | none => []
  | some command =>
    if (context.commands command).map CommandBuffer.status = some .completed then
      [(command, (context.sets pending.lease.set .results).buffer.bind MetalBuffer.writer)]
    else []

variable [DecidableEq ω]

/-- Threads call into the context and its handles; the GPU goes on by itself. A call for a kernel
    that is not loaded touches nothing here. A thread may wait for any handle that nobody destroys,
    also while others wait for it, and a handle is destroyed when nobody waits for it. -/
inductive Step : MetalContext ω → MetalContext ω → Prop
  | take {context : MetalContext ω} (thread : ω) (payloads : PayloadSpans)
      (outside : context.calls thread = .outside) :
      Step context
        { context.takeBuffers.2 with
          calls := Function.update context.calls thread
            (.submitting context.takeBuffers.1 (.taken payloads)) }
  | submitEmpty {context : MetalContext ω} (thread : ω) (lease : Lease) (payloads : PayloadSpans)
      (handle : Nat) (due : context.calls thread = .submitting lease (.taken payloads))
      (empty : payloads.sizes = []) (fresh : context.handles handle = none) :
      Step context
        { context with
          calls := Function.update context.calls thread .outside
          handles := Function.update context.handles handle
            (some { lease, command := none, count := payloads.count }) }
  | grow {context : MetalContext ω} (thread : ω) (lease : Lease) (payloads : PayloadSpans)
      (due : context.calls thread = .submitting lease (.taken payloads))
      (some : payloads.sizes ≠ []) :
      Step context
        { context with
          calls := Function.update context.calls thread
            (.submitting lease (.growing payloads [.data, .offsets, .lengths, .results])) }
  | ensure {context : MetalContext ω} (thread : ω) (lease : Lease) (payloads : PayloadSpans)
      (slot : Slot) (left : List Slot) (newBuffer : Nat → Option MetalBuffer)
      (grown : Bool × PooledBuffer)
      (due : context.calls thread = .submitting lease (.growing payloads (slot :: left)))
      (delivers : ∀ length buffer, newBuffer length = some buffer → buffer.length = length)
      (ensures : ensureCapacity newBuffer (context.sets lease.set slot) (payloads.needed slot) =
        grown) :
      Step context
        { context with
          sets := setBuffer context.sets lease.set slot grown.2
          calls := Function.update context.calls thread (.submitting lease
            (if grown.1 then .growing payloads left else .abandoning)) }
  | copy {context : MetalContext ω} (thread : ω) (lease : Lease) (payloads : PayloadSpans)
      (due : context.calls thread = .submitting lease (.growing payloads [])) :
      Step context
        { context with
          calls := Function.update context.calls thread (.submitting lease (.copied payloads)) }
  | noCommand {context : MetalContext ω} (thread : ω) (lease : Lease) (payloads : PayloadSpans)
      (due : context.calls thread = .submitting lease (.copied payloads)) :
      Step context
        { context with
          calls := Function.update context.calls thread (.submitting lease .abandoning) }
  | commit {context : MetalContext ω} (thread : ω) (lease : Lease) (payloads : PayloadSpans)
      (command : Nat) (due : context.calls thread = .submitting lease (.copied payloads))
      (fresh : context.commands command = none) :
      Step context
        { context with
          commands := Function.update context.commands command (some ⟨lease.set, .running⟩)
          calls := Function.update context.calls thread
            (.submitting lease (.committed payloads command)) }
  | submitted {context : MetalContext ω} (thread : ω) (lease : Lease) (payloads : PayloadSpans)
      (command handle : Nat)
      (due : context.calls thread = .submitting lease (.committed payloads command))
      (fresh : context.handles handle = none) :
      Step context
        { context with
          calls := Function.update context.calls thread .outside
          handles := Function.update context.handles handle
            (some { lease, command := some command, count := payloads.count }) }
  | giveBack {context : MetalContext ω} (thread : ω) (lease : Lease)
      (due : context.calls thread = .submitting lease .abandoning) :
      Step context
        { context.returnBuffers lease with
          calls := Function.update context.calls thread .outside }
  | gpu {context : MetalContext ω} (command set : Nat) (status : CommandStatus)
      (running : context.commands command = some ⟨set, .running⟩) :
      Step context
        { context with
          commands := Function.update context.commands command (some ⟨set, status⟩)
          sets := writeResults context.sets set
            (if status = .completed then some command else none) }
  | wait {context : MetalContext ω} (thread : ω) (handle : Nat) (pending : PendingGpuEntropy ω)
      (outside : context.calls thread = .outside)
      (found : context.handles handle = some pending) (alive : pending.destroyer = none) :
      Step context
        { context with
          calls := Function.update context.calls thread (.waiting handle)
          handles := Function.update context.handles handle (some { pending with waited := true }) }
  | waited {context : MetalContext ω} (thread : ω) (handle : Nat) (pending : PendingGpuEntropy ω)
      (due : context.calls thread = .waiting handle)
      (found : context.handles handle = some pending)
      (ended : Ended context.commands pending.command) :
      Step context
        { context with
          calls := Function.update context.calls thread .outside
          copied := context.copied ++ context.results pending }
  | destroy {context : MetalContext ω} (thread : ω) (handle : Nat) (pending : PendingGpuEntropy ω)
      (outside : context.calls thread = .outside)
      (found : context.handles handle = some pending) (alive : pending.destroyer = none)
      (unused : ∀ other, context.calls other ≠ .waiting handle) :
      Step context
        { context with
          calls := Function.update context.calls thread (.destroying handle)
          handles := Function.update context.handles handle
            (some { pending with destroyer := some thread }) }
  | reset {context : MetalContext ω} (thread : ω) (handle : Nat) (pending : PendingGpuEntropy ω)
      (due : context.calls thread = .destroying handle)
      (found : context.handles handle = some pending)
      (ended : pending.waited = false → Ended context.commands pending.command) :
      Step context
        { context with
          calls := Function.update context.calls thread (.releasing handle)
          handles := Function.update context.handles handle (some { pending with command := none }) }
  | release {context : MetalContext ω} (thread : ω) (handle : Nat) (pending : PendingGpuEntropy ω)
      (due : context.calls thread = .releasing handle)
      (found : context.handles handle = some pending) :
      Step context
        { context.returnBuffers pending.lease with
          calls := Function.update context.calls thread .outside
          handles := Function.update context.handles handle none }

def initial (ω : Type*) : MetalContext ω :=
  ⟨fun _ _ => {}, 0, [], 0, [], fun _ => .outside, fun _ => none, fun _ => none, []⟩

def system (ω : Type*) [DecidableEq ω] : TransitionSystem (MetalContext ω) where
  start context := context = initial ω
  step := Step

end MetalContext

end NetSentinel.Gpu
