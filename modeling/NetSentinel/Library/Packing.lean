import Mathlib.Algebra.Order.BigOperators.Group.List
import Mathlib.Algebra.Order.Ring.Nat

namespace Packing

variable {α : Type*}

def total (blocks : List (List α)) : Nat := (blocks.map List.length).sum

def start (blocks : List (List α)) (i : Nat) : Nat := total (blocks.take i)

section Places

variable {blocks : List (List α)} {i j : Nat}

@[simp] theorem total_cons (block : List α) (blocks : List (List α)) :
    total (block :: blocks) = block.length + total blocks := by
  simp [total]

theorem total_le {bound : Nat} (short : ∀ block ∈ blocks, block.length ≤ bound) :
    total blocks ≤ blocks.length * bound := by
  induction blocks with
  | nil => exact Nat.zero_le _
  | cons block blocks ih =>
    have first := short block List.mem_cons_self
    have rest := ih fun later member => short later (List.mem_cons_of_mem _ member)
    rw [total_cons, List.length_cons, Nat.succ_mul]
    omega

@[simp] theorem start_zero (blocks : List (List α)) : start blocks 0 = 0 := rfl

@[simp] theorem start_cons (block : List α) (blocks : List (List α)) (i : Nat) :
    start (block :: blocks) (i + 1) = block.length + start blocks i := by
  simp [start]

theorem end_le_total (inside : i < blocks.length) :
    start blocks i + blocks[i].length ≤ total blocks := by
  induction blocks generalizing i with
  | nil => cases inside
  | cons block blocks ih =>
    cases i with
    | zero => simp
    | succ i =>
      have later := ih (Nat.lt_of_succ_lt_succ inside)
      simp only [start_cons, total_cons, List.getElem_cons_succ]
      omega

theorem end_le_start (before : i < j) (left : i < blocks.length) (right : j < blocks.length) :
    start blocks i + blocks[i].length ≤ start blocks j := by
  induction blocks generalizing i j with
  | nil => cases right
  | cons block blocks ih =>
    obtain ⟨k, rfl⟩ := Nat.exists_eq_succ_of_ne_zero (Nat.ne_of_gt (Nat.zero_lt_of_lt before))
    cases i with
    | zero =>
      simp only [start_zero, Nat.succ_eq_add_one, start_cons, List.getElem_cons_zero]
      omega
    | succ i =>
      have later := ih (Nat.lt_of_succ_lt_succ before) (Nat.lt_of_succ_lt_succ left)
        (Nat.lt_of_succ_lt_succ right)
      simp only [Nat.succ_eq_add_one, start_cons, List.getElem_cons_succ]
      omega

theorem owner {place : Nat} (inside : place < total blocks) :
    ∃ i, ∃ member : i < blocks.length,
      start blocks i ≤ place ∧ place < start blocks i + blocks[i].length := by
  induction blocks generalizing place with
  | nil => cases inside
  | cons block blocks ih =>
    rw [total_cons] at inside
    by_cases here : place < block.length
    · exact ⟨0, Nat.succ_pos _, by simp, by simpa using here⟩
    · have behind : place - block.length < total blocks := by omega
      obtain ⟨i, member, after, before⟩ := ih behind
      refine ⟨i + 1, Nat.succ_lt_succ member, ?_, ?_⟩
      · rw [start_cons]
        omega
      · rw [start_cons, List.getElem_cons_succ]
        omega

theorem places_apart {a b : Nat} (apart : i ≠ j) (left : i < blocks.length)
    (right : j < blocks.length) (first : a < blocks[i].length) (second : b < blocks[j].length) :
    start blocks i + a ≠ start blocks j + b := by
  rcases Nat.lt_or_gt_of_ne apart with before | after
  · have ends := end_le_start before left right
    omega
  · have ends := end_le_start after right left
    omega

/-- Places that are only known modulo `modulus` are told apart in no longer row of blocks. -/
theorem total_le_of_apart {modulus : Nat}
    (short : ∀ block ∈ blocks, block.length ≤ modulus)
    (apart : ∀ i j (left : i < blocks.length) (right : j < blocks.length), i ≠ j →
      ∀ a < blocks[i].length, ∀ b < blocks[j].length,
        (start blocks i + a) % modulus ≠ (start blocks j + b) % modulus) :
    total blocks ≤ modulus := by
  by_contra long
  obtain ⟨i, left, after, before⟩ := owner (Nat.not_le.mp long)
  obtain ⟨j, right, first, some⟩ := owner (Nat.zero_lt_of_lt (Nat.not_le.mp long))
  have differ : i ≠ j := by
    rintro rfl
    have fits := short _ (List.getElem_mem left)
    omega
  refine apart i j left right differ (modulus - start blocks i) (by omega) 0 (by omega) ?_
  rw [Nat.add_sub_cancel' after, Nat.mod_self, Nat.le_zero.mp first, Nat.add_zero, Nat.zero_mod]

end Places

section Memory

def write (memory : Nat → α) (offset : Nat) (block : List α) : Nat → α := fun place =>
  if offset ≤ place then block.getD (place - offset) (memory place) else memory place

variable {memory : Nat → α} {offset place : Nat} {block : List α}

theorem write_before (before : place < offset) : write memory offset block place = memory place :=
  if_neg (Nat.not_le.mpr before)

theorem write_at {a : Nat} (inside : a < block.length) :
    write memory offset block (offset + a) = block[a] := by
  unfold write
  rw [if_pos (Nat.le_add_right _ _), Nat.add_sub_cancel_left, List.getD_eq_getElem?_getD,
    List.getElem?_eq_getElem inside, Option.getD_some]

theorem write_nil (memory : Nat → α) (offset : Nat) : write memory offset [] = memory := by
  funext place
  unfold write
  split <;> rfl

end Memory

end Packing
