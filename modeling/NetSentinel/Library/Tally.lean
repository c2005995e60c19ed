import Mathlib.Algebra.Group.Nat.Defs
import Mathlib.Data.List.AList
import Mathlib.Data.List.Dedup
import Mathlib.Data.List.Perm.Subperm

namespace Tally

variable {κ : Type*} [DecidableEq κ]

theorem eq_empty_of_lookup {β : κ → Type*} {map : AList β} (absent : ∀ key, map.lookup key = none) :
    map = ∅ := by
  apply AList.ext
  rw [AList.empty_entries, List.eq_nil_iff_forall_not_mem]
  intro entry member
  have found := AList.mem_lookup_iff.mpr member
  rw [absent entry.1] at found
  cases found

abbrev Counts (κ : Type*) := AList fun _ : κ => UInt32

def increment (counts : Counts κ) (key : κ) : Counts κ :=
  counts.insert key ((counts.lookup key).getD 0 + 1)

def decrement (counts : Counts κ) (key : κ) : Counts κ :=
  match counts.lookup key with
  | some n => if n - 1 = 0 then counts.erase key else counts.insert key (n - 1)
  | none => counts

theorem increment_lookup (counts : Counts κ) (key other : κ) :
    (increment counts key).lookup other =
      if other = key then some ((counts.lookup key).getD 0 + 1) else counts.lookup other := by
  split
  · rename_i same
    rw [same, increment, AList.lookup_insert]
  · rename_i different
    exact AList.lookup_insert_ne different

theorem decrement_lookup_self (counts : Counts κ) (key : κ) :
    (decrement counts key).lookup key =
      (counts.lookup key).bind fun n => if n - 1 = 0 then none else some (n - 1) := by
  unfold decrement
  cases found : counts.lookup key with
  | none => simp [found]
  | some n =>
    by_cases last : n - 1 = 0
    · simp [last]
    · simp [last]

theorem decrement_lookup_ne (counts : Counts κ) {key other : κ} (different : other ≠ key) :
    (decrement counts key).lookup other = counts.lookup other := by
  unfold decrement
  cases counts.lookup key with
  | none => rfl
  | some n =>
    by_cases last : n - 1 = 0
    · simp [last, AList.lookup_erase_ne different]
    · simp [last, AList.lookup_insert_ne different]

theorem ofNat_succ_sub_one (n : Nat) : UInt32.ofNat (n + 1) - 1 = UInt32.ofNat n := by
  rw [UInt32.ofNat_add]
  exact UInt32.add_sub_cancel _ _

theorem ofNat_eq_zero_of_lt {n : Nat} (bound : n < 2^32) : UInt32.ofNat n = 0 ↔ n = 0 := by
  rw [← UInt32.toNat_inj]
  simp only [UInt32.toNat_ofNat', UInt32.toNat_zero]
  omega

def Exact (counts : Counts κ) (keys : List κ) : Prop :=
  ∀ key, counts.lookup key =
    if keys.count key = 0 then none else some (UInt32.ofNat (keys.count key))

theorem Exact.empty : Exact (∅ : Counts κ) [] := by
  intro key
  simp

theorem Exact.increment {counts : Counts κ} {keys : List κ} (counted : Exact counts keys) (key : κ) :
    Exact (increment counts key) (keys ++ [key]) := by
  intro other
  rw [increment_lookup]
  by_cases same : other = key
  · subst same
    have value := counted other
    by_cases fresh : keys.count other = 0
    · simp [value, fresh]
    · simp [value, fresh, UInt32.ofNat_add]
  · have apart : ¬ key = other := fun h => same h.symm
    simp [same, apart, counted other]

theorem Exact.decrement {counts : Counts κ} {key : κ} {keys : List κ}
    (counted : Exact counts (key :: keys)) (bound : keys.count key < 2^32) :
    Exact (decrement counts key) keys := by
  intro other
  by_cases same : other = key
  · subst same
    rw [decrement_lookup_self, counted other]
    simp only [List.count_cons_self, Nat.add_one_ne_zero, ↓reduceIte, Option.bind_some,
      ofNat_succ_sub_one, ofNat_eq_zero_of_lt bound]
  · have apart : ¬ key = other := fun h => same h.symm
    rw [decrement_lookup_ne counts same, counted other]
    simp [apart]

theorem Exact.mem_iff {counts : Counts κ} {keys : List κ} (counted : Exact counts keys) (key : κ) :
    key ∈ counts ↔ key ∈ keys := by
  rw [← AList.lookup_isSome, counted key, ← List.count_pos_iff]
  by_cases absent : keys.count key = 0
  · simp [absent]
  · simp [absent, Nat.pos_of_ne_zero absent]

theorem Exact.value_of_lookup {counts : Counts κ} {keys : List κ} (counted : Exact counts keys)
    {key : κ} {n : UInt32} (found : counts.lookup key = some n) (bound : keys.count key < 2^32) :
    n ≠ 0 ∧ n.toNat = keys.count key := by
  rw [counted key] at found
  split at found
  · cases found
  · rename_i positive
    cases found
    rw [Ne, ofNat_eq_zero_of_lt bound, UInt32.toNat_ofNat', Nat.mod_eq_of_lt bound]
    exact ⟨positive, rfl⟩

theorem Exact.size {counts : Counts κ} {keys : List κ} (counted : Exact counts keys) :
    counts.keys.length = keys.dedup.length := by
  apply List.Perm.length_eq
  rw [List.perm_ext_iff_of_nodup counts.keys_nodup (List.nodup_dedup keys)]
  intro key
  rw [List.mem_dedup, ← counted.mem_iff, AList.mem_keys]

/-- What holds of the counters even when they wrap: a key that is present stands for at least one
    occurrence. -/
def Backed (counts : Counts κ) (keys : List κ) : Prop :=
  ∀ key n, counts.lookup key = some n → ∃ v, 1 ≤ v ∧ v ≤ keys.count key ∧ n = UInt32.ofNat v

theorem Backed.empty : Backed (∅ : Counts κ) [] := by
  intro key n present
  simp at present

theorem Backed.increment {counts : Counts κ} {keys : List κ} (backed : Backed counts keys)
    (key : κ) : Backed (increment counts key) (keys ++ [key]) := by
  intro other n present
  rw [increment_lookup] at present
  by_cases same : other = key
  · subst same
    simp only [↓reduceIte, Option.some.injEq] at present
    cases found : counts.lookup other with
    | none => exact ⟨1, le_rfl, by simp, by simp [← present, found]⟩
    | some m =>
      obtain ⟨v, positive, bound, rfl⟩ := backed other m found
      exact ⟨v + 1, by omega, by simpa using bound, by simp [← present, found, UInt32.ofNat_add]⟩
  · simp only [same, ↓reduceIte] at present
    obtain ⟨v, positive, bound, value⟩ := backed other n present
    exact ⟨v, positive, by rw [List.count_append]; omega, value⟩

theorem Backed.decrement {counts : Counts κ} {key : κ} {keys : List κ}
    (backed : Backed counts (key :: keys)) : Backed (decrement counts key) keys := by
  intro other n present
  by_cases same : other = key
  · subst same
    rw [decrement_lookup_self] at present
    obtain ⟨m, found, left⟩ := Option.bind_eq_some_iff.mp present
    obtain ⟨v, positive, bound, rfl⟩ := backed other m found
    obtain ⟨w, rfl⟩ : ∃ w, v = w + 1 := ⟨v - 1, by omega⟩
    rw [ofNat_succ_sub_one] at left
    split at left
    · cases left
    · rename_i kept
      rw [List.count_cons_self] at bound
      refine ⟨w, ?_, by omega, by simpa using left.symm⟩
      by_contra none
      exact kept (by simp [show w = 0 by omega])
  · rw [decrement_lookup_ne counts same] at present
    obtain ⟨v, positive, bound, value⟩ := backed other n present
    rw [List.count_cons_of_ne (Ne.symm same)] at bound
    exact ⟨v, positive, bound, value⟩

theorem Backed.mem {counts : Counts κ} {keys : List κ} (backed : Backed counts keys) {key : κ}
    (present : key ∈ counts) : key ∈ keys := by
  obtain ⟨n, found⟩ := Option.isSome_iff_exists.mp (AList.lookup_isSome.mpr present)
  obtain ⟨v, positive, bound, -⟩ := backed key n found
  exact List.count_pos_iff.mp (by omega)

theorem Backed.size_le {counts : Counts κ} {keys all : List κ} (backed : Backed counts keys)
    (among : keys ⊆ all) : counts.keys.length ≤ all.dedup.length := by
  refine (List.subperm_of_subset counts.keys_nodup ?_).length_le
  intro key present
  exact List.mem_dedup.mpr (among (backed.mem (AList.mem_keys.mpr present)))

end Tally
