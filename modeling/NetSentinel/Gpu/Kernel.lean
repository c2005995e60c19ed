import NetSentinel.Analysis.Entropy
import NetSentinel.Library.Barrier

namespace NetSentinel.Gpu

/-- `for (uint i = first; i < bound; i += step)`: the values of `i` for which the body runs, or
    `none` if more than `fuel` of them come up. The addition wraps. -/
def stridedLoop (bound step : UInt32) : Nat → UInt32 → Option (List UInt32)
  | 0, i => if i < bound then none else some []
  | fuel + 1, i =>
    if i < bound then (stridedLoop bound step fuel (i + step)).map (i :: ·) else some []

/-- `for (uint stride = first; stride > 0; stride /= 2)`. -/
def strides (stride : UInt32) : List UInt32 :=
  if 0 < stride then stride :: strides (stride / 2) else []
termination_by stride.toNat
decreasing_by
  rename_i positive
  have : 0 < stride.toNat := positive
  simp only [UInt32.toNat_div, UInt32.reduceToNat]
  omega

/-- The host's loop: `while (threads > limit) threads /= 2`. -/
def threadgroupSize (limit threads : Nat) : Nat :=
  if limit < threads then threadgroupSize limit (threads / 2) else threads
termination_by threads

structure KernelArguments where
  data : UInt32 → UInt8
  offsets : UInt32 → UInt32
  lengths : UInt32 → UInt32
  payload : UInt32

namespace KernelArguments

def offset (arguments : KernelArguments) : UInt32 := arguments.offsets arguments.payload

def length (arguments : KernelArguments) : UInt32 := arguments.lengths arguments.payload

end KernelArguments

/-- `sum` and the two operands of `partial[tid] += partial[tid + stride]`. -/
structure Registers (R : Type*) where
  sum : R
  left : R
  right : R

/-- The threadgroup memory, the registers of its threads and the output buffer; `partialSums` is the
    array the kernel calls "partial". -/
structure Threadgroup (threads : Nat) (R : Type*) where
  histogram : Histogram
  partialSums : UInt32 → R
  registers : Fin threads → Registers R
  entropies : UInt32 → R

/-- The accesses of a thread to memory that it shares, together with the arithmetic on its own
    registers that goes with them. -/
inductive Action where
  | clearBin (bin : UInt32)
  | countByte (i : UInt32)
  | startSum
  | addBin (bin : UInt32)
  | storeSum
  | loadRight (stride : UInt32)
  | loadLeft
  | storePartial
  | storeEntropy
deriving DecidableEq, Repr

variable {threads : Nat} {R : Type*}

def tidOf (thread : Fin threads) : UInt32 := UInt32.ofNat thread.val

namespace Threadgroup

def setRegisters (group : Threadgroup threads R) (thread : Fin threads) (registers : Registers R) :
    Threadgroup threads R :=
  { group with registers := Function.update group.registers thread registers }

def count (group : Threadgroup threads R) (bin : UInt32) : UInt32 :=
  group.histogram[bin.toNat]?.getD 0

end Threadgroup

def perform [Arithmetic R] [Add R] (arguments : KernelArguments) (thread : Fin threads) :
    Action → Threadgroup threads R → Threadgroup threads R
  | .clearBin bin, group =>
    { group with histogram := group.histogram.setIfInBounds bin.toNat 0 }
  | .countByte i, group =>
    { group with
      histogram := group.histogram.increment (arguments.data (arguments.offset + i)) }
  | .startSum, group => group.setRegisters thread { group.registers thread with sum := 0 }
  | .addBin bin, group =>
    group.setRegisters thread
      { group.registers thread with
        sum := subtractBin (arguments.length.toNat : R) (group.registers thread).sum
          (group.count bin) }
  | .storeSum, group =>
    { group with
      partialSums :=
        Function.update group.partialSums (tidOf thread) (group.registers thread).sum }
  | .loadRight stride, group =>
    group.setRegisters thread
      { group.registers thread with right := group.partialSums (tidOf thread + stride) }
  | .loadLeft, group =>
    group.setRegisters thread
      { group.registers thread with left := group.partialSums (tidOf thread) }
  | .storePartial, group =>
    { group with
      partialSums := Function.update group.partialSums (tidOf thread)
        ((group.registers thread).left + (group.registers thread).right) }
  | .storeEntropy, group =>
    { group with
      entropies := Function.update group.entropies arguments.payload (group.partialSums 0) }

def clearing (bins : Fin threads → List UInt32) : Barrier.Phase (Fin threads) Action :=
  fun thread => (bins thread).map .clearBin

def counting (indices : Fin threads → List UInt32) : Barrier.Phase (Fin threads) Action :=
  fun thread => (indices thread).map .countByte

def summing (arguments : KernelArguments) (bins : Fin threads → List UInt32) :
    Barrier.Phase (Fin threads) Action :=
  fun thread =>
    .startSum ::
      ((if 0 < arguments.length then (bins thread).map .addBin else []) ++ [.storeSum])

def adding (stride : UInt32) : Barrier.Phase (Fin threads) Action :=
  fun thread =>
    if tidOf thread < stride then [.loadRight stride, .loadLeft, .storePartial] else []

def storing : Barrier.Phase (Fin threads) Action :=
  fun thread => if tidOf thread = 0 then [.storeEntropy] else []

/-- The code of the kernel between its barriers, for the loop values its threads run through. -/
def segments (arguments : KernelArguments) (bins indices : Fin threads → List UInt32) :
    List (Barrier.Phase (Fin threads) Action) :=
  [clearing bins, counting indices, summing arguments bins] ++
    ((strides (UInt32.ofNat threads / 2)).map adding ++ [storing])

def collect {β : Type*} (results : Fin threads → Option β) : Option (Fin threads → β) :=
  if all : ∀ thread, (results thread).isSome then
    some fun thread => (results thread).get (all thread)
  else none

/-- `none` if a loop of some thread does not come to its end. -/
def payloadEntropy (threads : Nat) (arguments : KernelArguments) :
    Option (List (Barrier.Phase (Fin threads) Action)) := do
  let bins ← collect fun thread : Fin threads =>
    stridedLoop 256 (UInt32.ofNat threads) 256 (tidOf thread)
  let indices ← collect fun thread : Fin threads =>
    stridedLoop arguments.length (UInt32.ofNat threads) arguments.length.toNat (tidOf thread)
  return segments arguments bins indices

end NetSentinel.Gpu
