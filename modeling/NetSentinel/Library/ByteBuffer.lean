import Mathlib.Algebra.Order.Ring.Nat
import Mathlib.Tactic.Ring

namespace ByteBuffer

/-- What would be undefined or wrap in the modelled program stops the model instead. -/
inductive Fault where
  | outOfBounds (index : Nat)
  | underflow (minuend subtrahend : Nat)
deriving DecidableEq, Repr

def slice (data : List UInt8) (offset count : Nat) : List UInt8 := (data.drop offset).take count

def read (data : List UInt8) (offset count : Nat) : Except Fault (List UInt8) :=
  if offset + count ≤ data.length then .ok (slice data offset count)
  else .error (.outOfBounds (max offset data.length))

def sub (minuend subtrahend : Nat) : Except Fault Nat :=
  if subtrahend ≤ minuend then .ok (minuend - subtrahend)
  else .error (.underflow minuend subtrahend)

theorem read_of_fits {data : List UInt8} {offset count : Nat}
    (fits : offset + count ≤ data.length) :
    read data offset count = .ok (slice data offset count) := if_pos fits

theorem sub_of_le {minuend subtrahend : Nat} (ordered : subtrahend ≤ minuend) :
    sub minuend subtrahend = .ok (minuend - subtrahend) := if_pos ordered

theorem slice_take {data : List UInt8} {bound offset count : Nat} (fits : offset + count ≤ bound) :
    slice (data.take bound) offset count = slice data offset count := by
  unfold slice
  rw [List.drop_take, List.take_take]
  congr 1
  omega

theorem slice_congr {a b : List UInt8} {bound offset count : Nat}
    (agree : a.take bound = b.take bound) (fits : offset + count ≤ bound) :
    slice a offset count = slice b offset count := by
  rw [← slice_take fits, agree, slice_take fits]

theorem slice_set {data : List UInt8} {i offset count : Nat} {byte : UInt8}
    (outside : i < offset ∨ offset + count ≤ i) :
    slice (data.set i byte) offset count = slice data offset count := by
  unfold slice
  rw [List.drop_set]
  split
  · rfl
  · rw [List.take_set_of_le]
    omega

theorem slice_slice {data : List UInt8} {start length offset count : Nat}
    (inside : offset + count ≤ length) :
    slice (slice data start length) offset count = slice data (start + offset) count := by
  unfold slice
  rw [List.drop_take, List.take_take, List.drop_drop]
  congr 1
  omega

theorem slice_append_right {before data : List UInt8} {offset count : Nat}
    (past : before.length ≤ offset) :
    slice (before ++ data) offset count = slice data (offset - before.length) count := by
  unfold slice
  rw [List.drop_append, List.drop_eq_nil_of_le past, List.nil_append]

theorem slice_append_left {data rest : List UInt8} {offset count : Nat}
    (inside : offset + count ≤ data.length) :
    slice (data ++ rest) offset count = slice data offset count := by
  unfold slice
  rw [List.drop_append_of_le_length (by omega), List.take_append_of_le_length]
  rw [List.length_drop]
  omega

theorem slice_whole (data : List UInt8) : slice data 0 data.length = data := by
  unfold slice
  rw [List.drop_zero, List.take_length]

def decode : List UInt8 → Nat
  | [] => 0
  | byte :: rest => byte.toNat * 256 ^ rest.length + decode rest

def encode : Nat → Nat → List UInt8
  | 0, _ => []
  | width + 1, n => UInt8.ofNat (n / 256 ^ width) :: encode width n

@[simp] theorem encode_length (width n : Nat) : (encode width n).length = width := by
  induction width with
  | zero => rfl
  | succ width ih => simp [encode, ih]

theorem decode_encode_mod (width n : Nat) : decode (encode width n) = n % 256 ^ width := by
  induction width with
  | zero => simp [encode, decode, Nat.mod_one]
  | succ width ih =>
    have head : (UInt8.ofNat (n / 256 ^ width)).toNat = n / 256 ^ width % 256 :=
      UInt8.toNat_ofNat'
    rw [encode, decode, ih, encode_length, head, pow_succ, Nat.mod_mul]
    ring

theorem decode_encode {width n : Nat} (fits : n < 256 ^ width) : decode (encode width n) = n := by
  rw [decode_encode_mod, Nat.mod_eq_of_lt fits]

def number (data : List UInt8) (offset width : Nat) : Nat := decode (slice data offset width)

def readNumber (data : List UInt8) (offset width : Nat) : Except Fault Nat := do
  let bytes ← read data offset width
  return decode bytes

theorem readNumber_of_fits {data : List UInt8} {offset width : Nat}
    (fits : offset + width ≤ data.length) :
    readNumber data offset width = .ok (number data offset width) := by
  unfold readNumber
  rw [read_of_fits fits]
  rfl

theorem number_congr {a b : List UInt8} {bound offset width : Nat}
    (agree : a.take bound = b.take bound) (fits : offset + width ≤ bound) :
    number a offset width = number b offset width := by
  unfold number
  rw [slice_congr agree fits]

theorem number_append_right {before data : List UInt8} {offset width : Nat}
    (past : before.length ≤ offset) :
    number (before ++ data) offset width = number data (offset - before.length) width := by
  unfold number
  rw [slice_append_right past]

theorem slice_field (field rest : List UInt8) : slice (field ++ rest) 0 field.length = field := by
  rw [slice_append_left (Nat.zero_add _).le, slice_whole]

theorem number_field {width n : Nat} (fits : n < 256 ^ width) (rest : List UInt8) :
    number (encode width n ++ rest) 0 width = n := by
  have field := slice_field (encode width n) rest
  rw [encode_length] at field
  unfold number
  rw [field, decode_encode fits]

end ByteBuffer
