import Mathlib.Algebra.Order.BigOperators.Ring.Finset
import Mathlib.Analysis.Convex.Jensen
import Mathlib.Analysis.Convex.SpecificFunctions.Basic
import Mathlib.Analysis.SpecialFunctions.Log.Base

namespace ShannonEntropy

open Finset

variable {ι : Type*} [Fintype ι] {counts : ι → ℕ}

def total (counts : ι → ℕ) : ℕ := ∑ i, counts i

theorem total_count [DecidableEq ι] (letters : List ι) :
    total (fun i => letters.count i) = letters.length := by
  have counted := Multiset.sum_count_eq_card fun i (_ : i ∈ (letters : Multiset ι)) => mem_univ i
  simp only [Multiset.coe_count, Multiset.coe_card] at counted
  exact counted

def support (counts : ι → ℕ) : Finset ι := {i | counts i ≠ 0}

noncomputable def frequency (counts : ι → ℕ) (i : ι) : ℝ := counts i / total counts

noncomputable def entropy (base : ℝ) (counts : ι → ℕ) : ℝ :=
  ∑ i, -(frequency counts i * Real.logb base (frequency counts i))

theorem mem_support {i : ι} : i ∈ support counts ↔ 0 < counts i := by
  simp [support, Nat.pos_iff_ne_zero]

theorem le_total (i : ι) : counts i ≤ total counts :=
  single_le_sum (fun _ _ => Nat.zero_le _) (mem_univ i)

theorem card_support_le_card : #(support counts) ≤ Fintype.card ι := card_le_univ _

theorem card_support_le_total : #(support counts) ≤ total counts :=
  calc #(support counts)
      = ∑ _i ∈ support counts, 1 := card_eq_sum_ones _
    _ ≤ ∑ i ∈ support counts, counts i := sum_le_sum fun _ member => mem_support.mp member
    _ ≤ total counts := sum_le_sum_of_subset (subset_univ _)

theorem card_support_pos (nonempty : 0 < total counts) : 0 < #(support counts) := by
  obtain ⟨i, -, occurs⟩ := exists_ne_zero_of_sum_ne_zero nonempty.ne'
  exact card_pos.mpr ⟨i, mem_support.mpr (Nat.pos_of_ne_zero occurs)⟩

section Frequency

theorem frequency_nonneg (counts : ι → ℕ) (i : ι) : 0 ≤ frequency counts i := by
  unfold frequency
  positivity

theorem frequency_le_one (counts : ι → ℕ) (i : ι) : frequency counts i ≤ 1 :=
  div_le_one_of_le₀ (Nat.cast_le.mpr (le_total i)) (Nat.cast_nonneg _)

theorem frequency_of_not_mem {i : ι} (absent : i ∉ support counts) : frequency counts i = 0 := by
  have none : counts i = 0 := Nat.eq_zero_of_not_pos fun occurs => absent (mem_support.mpr occurs)
  rw [frequency, none, Nat.cast_zero, zero_div]

variable (nonempty : 0 < total counts)

include nonempty

theorem frequency_pos {i : ι} (member : i ∈ support counts) : 0 < frequency counts i := by
  have occurs := mem_support.mp member
  unfold frequency
  positivity

theorem sum_frequency : ∑ i ∈ support counts, frequency counts i = 1 := by
  have all : ∑ i ∈ support counts, frequency counts i = ∑ i, frequency counts i :=
    sum_subset (subset_univ _) fun i _ absent => frequency_of_not_mem absent
  have whole : (∑ i, (counts i : ℝ)) = total counts := (Nat.cast_sum _ _).symm
  rw [all]
  unfold frequency
  rw [← sum_div, whole]
  exact div_self (Nat.cast_ne_zero.mpr nonempty.ne')

theorem frequency_inj {i j : ι} : frequency counts i = frequency counts j ↔ counts i = counts j := by
  have nonzero : (total counts : ℝ) ≠ 0 := Nat.cast_ne_zero.mpr nonempty.ne'
  rw [frequency, frequency, div_left_inj' nonzero, Nat.cast_inj]

theorem frequency_eq_one {i : ι} (one : frequency counts i = 1) : counts i = total counts := by
  have nonzero : (total counts : ℝ) ≠ 0 := Nat.cast_ne_zero.mpr nonempty.ne'
  exact Nat.cast_inj.mp ((div_eq_one_iff_eq nonzero).mp one)

theorem mean_inv : ∑ i ∈ support counts, frequency counts i • (frequency counts i)⁻¹ =
    #(support counts) := by
  have one : ∀ i ∈ support counts, frequency counts i • (frequency counts i)⁻¹ = (1 : ℝ) :=
    fun i member => mul_inv_cancel₀ (frequency_pos nonempty member).ne'
  rw [sum_congr rfl one, card_eq_sum_ones, Nat.cast_sum, Nat.cast_one]

theorem inv_mem_Ioi : ∀ i ∈ support counts, (frequency counts i)⁻¹ ∈ Set.Ioi (0 : ℝ) :=
  fun _ member => inv_pos.mpr (frequency_pos nonempty member)

end Frequency

variable {base : ℝ} (above : 1 < base)

include above

theorem term_nonneg (counts : ι → ℕ) (i : ι) :
    0 ≤ -(frequency counts i * Real.logb base (frequency counts i)) := by
  have negative : Real.logb base (frequency counts i) ≤ 0 :=
    Real.logb_nonpos above (frequency_nonneg counts i) (frequency_le_one counts i)
  have product := mul_nonpos_of_nonneg_of_nonpos (frequency_nonneg counts i) negative
  linarith

theorem entropy_nonneg : 0 ≤ entropy base counts := sum_nonneg fun i _ => term_nonneg above counts i

/-- The entropy as a weighted mean of logarithms, to which Jensen's inequality applies. -/
theorem entropy_eq_mean : entropy base counts * Real.log base =
    ∑ i ∈ support counts, frequency counts i • Real.log (frequency counts i)⁻¹ := by
  have nats : Real.log base ≠ 0 := (Real.log_pos above).ne'
  have vanish : ∀ i ∈ univ, i ∉ support counts →
      -(frequency counts i * Real.logb base (frequency counts i)) = 0 := by
    intro i _ absent
    rw [frequency_of_not_mem absent, zero_mul, neg_zero]
  rw [entropy, ← sum_subset (subset_univ _) vanish, sum_mul]
  refine sum_congr rfl fun i _ => ?_
  rw [Real.log_inv, smul_eq_mul, Real.logb]
  field_simp

section Bounds

variable (nonempty : 0 < total counts)

include nonempty

theorem entropy_le_log_support : entropy base counts ≤ Real.logb base #(support counts) := by
  have jensen := strictConcaveOn_log_Ioi.concaveOn.le_map_sum
    (fun i _ => frequency_nonneg counts i) (sum_frequency nonempty)
    (inv_mem_Ioi nonempty)
  rw [← entropy_eq_mean above, mean_inv nonempty] at jensen
  exact (le_div_iff₀ (Real.log_pos above)).mpr jensen

theorem entropy_eq_log_support_iff : entropy base counts = Real.logb base #(support counts) ↔
    ∀ i ∈ support counts, ∀ j ∈ support counts, counts i = counts j := by
  have jensen := strictConcaveOn_log_Ioi.map_sum_eq_iff_of_pos
    (fun i member => frequency_pos nonempty member) (sum_frequency nonempty)
    (inv_mem_Ioi nonempty)
  rw [← entropy_eq_mean above, mean_inv nonempty] at jensen
  have scaled : entropy base counts = Real.logb base #(support counts) ↔
      Real.log #(support counts) = entropy base counts * Real.log base := by
    rw [Real.logb, eq_div_iff (Real.log_pos above).ne', eq_comm]
  rw [scaled, jensen]
  simp only [inv_inj, frequency_inj nonempty]

theorem entropy_le_log_card : entropy base counts ≤ Real.logb base (Fintype.card ι) := by
  have occurs : (0 : ℝ) < #(support counts) := Nat.cast_pos.mpr (card_support_pos nonempty)
  refine (entropy_le_log_support above nonempty).trans ?_
  exact Real.logb_le_logb_of_le above occurs (Nat.cast_le.mpr card_support_le_card)

theorem entropy_le_log_total : entropy base counts ≤ Real.logb base (total counts) := by
  have occurs : (0 : ℝ) < #(support counts) := Nat.cast_pos.mpr (card_support_pos nonempty)
  refine (entropy_le_log_support above nonempty).trans ?_
  exact Real.logb_le_logb_of_le above occurs (Nat.cast_le.mpr card_support_le_total)

theorem entropy_eq_log_card_iff :
    entropy base counts = Real.logb base (Fintype.card ι) ↔ ∀ i j, counts i = counts j := by
  have occurs : (0 : ℝ) < #(support counts) := Nat.cast_pos.mpr (card_support_pos nonempty)
  constructor
  · intro extremal
    have least := entropy_le_log_support above nonempty
    rw [extremal] at least
    have most := (Real.logb_le_logb above (occurs.trans_le
      (Nat.cast_le.mpr card_support_le_card)) occurs).mp least
    have everything : support counts = univ :=
      eq_univ_of_card _ (le_antisymm card_support_le_card (Nat.cast_le.mp most))
    have equal := (entropy_eq_log_support_iff above nonempty).mp (by rw [extremal, everything, card_univ])
    rw [everything] at equal
    exact fun i j => equal i (mem_univ i) j (mem_univ j)
  · intro equal
    obtain ⟨i, member⟩ := card_pos.mp (card_support_pos nonempty)
    have everything : support counts = univ := by
      refine eq_univ_of_forall fun j => mem_support.mpr ?_
      rw [equal j i]
      exact mem_support.mp member
    have attained := (entropy_eq_log_support_iff above nonempty).mpr fun i _ j _ => equal i j
    rw [attained, everything, card_univ]

theorem entropy_eq_zero_iff :
    entropy base counts = 0 ↔ ∀ i ∈ support counts, ∀ j ∈ support counts, i = j := by
  classical
  constructor
  · intro zero i member j other
    by_contra apart
    have term := (sum_eq_zero_iff_of_nonneg fun i _ => term_nonneg above counts i).mp zero i (mem_univ i)
    have pos := frequency_pos nonempty member
    have one : frequency counts i = 1 := by
      rcases mul_eq_zero.mp (neg_eq_zero.mp term) with none | none
      · exact absurd none pos.ne'
      · exact Real.eq_one_of_pos_of_logb_eq_zero above pos none
    have all := frequency_eq_one nonempty one
    have both : counts i + counts j ≤ total counts := by
      rw [← sum_pair apart]
      exact sum_le_sum_of_subset (subset_univ _)
    have occurs := mem_support.mp other
    omega
  · intro single
    have few : #(support counts) = 1 :=
      le_antisymm (card_le_one.mpr single) (card_support_pos nonempty)
    have most := entropy_le_log_support above nonempty
    rw [few, Nat.cast_one, Real.logb_one] at most
    exact le_antisymm most (entropy_nonneg above)

end Bounds

end ShannonEntropy
