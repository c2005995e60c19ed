import Mathlib.Algebra.Order.Round
import Mathlib.Analysis.SpecialFunctions.Log.Base
import NetSentinel.Analysis.Entropy
import NetSentinel.Library.ShannonEntropy

namespace NetSentinel

/-- Two digits behind the point, rounded to the nearest. -/
noncomputable def realTwoDecimals (x : ℝ) : String :=
  let hundredths := (round (|x| * 100)).toNat
  let digits := s!"{hundredths % 100}"
  let sign := if x < 0 then "-" else ""
  s!"{sign}{hundredths / 100}." ++ (if hundredths % 100 < 10 then "0" ++ digits else digits)

open Classical in
/-- The analysis over exact real numbers. -/
noncomputable instance : Arithmetic ℝ where
  log2 := Real.logb 2
  atLeast a b := decide (b ≤ a)
  twoDecimals := realTwoDecimals

noncomputable def binEntropy (total : ℝ) (count : UInt32) : ℝ := subtractBin total 0 count

theorem subtractBin_eq_add (total entropy : ℝ) (count : UInt32) :
    subtractBin total entropy count = entropy + binEntropy total count := by
  rw [binEntropy, subtractBin, subtractBin]
  split
  · exact (add_zero entropy).symm
  · change entropy - _ = entropy + (0 - _)
    ring

theorem foldl_subtractBin {α : Type*} (total entropy : ℝ) (counts : List α) (count : α → UInt32) :
    counts.foldl (fun entropy x => subtractBin total entropy (count x)) entropy =
      entropy + (counts.map fun x => binEntropy total (count x)).sum := by
  induction counts generalizing entropy with
  | nil => exact (add_zero entropy).symm
  | cons x counts ih =>
    rw [List.foldl_cons, ih, subtractBin_eq_add, List.map_cons, List.sum_cons, add_assoc]

theorem toList_eq_map (histogram : Histogram) :
    histogram.toList = (List.range 256).map fun bin => histogram[bin]?.getD 0 := by
  apply List.ext_getElem
  · simp only [Vector.length_toList, List.length_map, List.length_range]
  · intro bin inside _
    have below : bin < 256 := Nat.lt_of_lt_of_eq inside Vector.length_toList
    rw [Vector.getElem_toList, List.getElem_map, List.getElem_range,
      Vector.getElem?_eq_getElem below, Option.getD_some]

theorem shannonEntropy_eq_sum {payload : List UInt8} (bytes : payload ≠ []) :
    (shannonEntropy payload : ℝ) = ((List.range 256).map fun bin =>
      binEntropy payload.length ((histogramOf payload)[bin]?.getD 0)).sum := by
  rw [shannonEntropy, if_neg bytes, toList_eq_map, List.foldl_map, foldl_subtractBin]
  exact zero_add _

section Counts

open ShannonEntropy

def binOf (byte : UInt8) : Fin 256 := ⟨byte.toNat, byte.toNat_lt⟩

def byteCounts (payload : List UInt8) (bin : Fin 256) : Nat := (payload.map binOf).count bin

theorem binOf_injective : Function.Injective binOf := fun _ _ same =>
  UInt8.toNat_inj.mp (Fin.mk.inj same)

theorem binOf_ofNat (bin : Fin 256) : binOf (UInt8.ofNat bin) = bin :=
  Fin.ext (UInt8.toNat_ofNat_of_lt' bin.isLt)

theorem byteCounts_binOf (payload : List UInt8) (byte : UInt8) :
    byteCounts payload (binOf byte) = payload.count byte :=
  List.count_map_of_injective payload binOf binOf_injective byte

theorem byteCounts_le (payload : List UInt8) (bin : Fin 256) :
    byteCounts payload bin ≤ payload.length := by
  have length : (payload.map binOf).length = payload.length := List.length_map _
  rw [← length]
  exact List.count_le_length

theorem total_byteCounts (payload : List UInt8) : total (byteCounts payload) = payload.length :=
  (total_count (payload.map binOf)).trans (List.length_map _)

theorem getElem_foldl_increment (histogram : Histogram) (payload : List UInt8) {i : Nat}
    (below : i < 256) :
    (payload.foldl Histogram.increment histogram)[i] =
      histogram[i] + UInt32.ofNat (byteCounts payload ⟨i, below⟩) := by
  induction payload generalizing histogram with
  | nil => exact (UInt32.add_zero _).symm
  | cons byte payload ih =>
    rw [List.foldl_cons, ih, getElem_increment _ _ below]
    have here : byte.toNat = i ↔ binOf byte = ⟨i, below⟩ := by
      rw [binOf, Fin.mk.injEq]
    unfold byteCounts
    rw [List.map_cons, List.count_cons]
    by_cases same : byte.toNat = i
    · rw [if_pos same, if_pos (beq_iff_eq.mpr (here.mp same)), UInt32.ofNat_add, UInt32.add_assoc,
        UInt32.add_comm 1]
      rfl
    · rw [if_neg same, if_neg fun equal => same (here.mpr (beq_iff_eq.mp equal)), Nat.add_zero]

theorem getElem_histogramOf (payload : List UInt8) {i : Nat} (below : i < 256) :
    (histogramOf payload)[i] = UInt32.ofNat (byteCounts payload ⟨i, below⟩) := by
  rw [histogramOf, getElem_foldl_increment, Vector.getElem_replicate, UInt32.zero_add]

theorem shannonEntropy_eq_entropy {payload : List UInt8} (bytes : payload ≠ [])
    (short : payload.length < 2 ^ 32) :
    (shannonEntropy payload : ℝ) = entropy 2 (byteCounts payload) := by
  have term : ∀ bin : Fin 256,
      binEntropy payload.length ((histogramOf payload)[(bin : Nat)]?.getD 0) =
        -(frequency (byteCounts payload) bin *
          Real.logb 2 (frequency (byteCounts payload) bin)) := by
    intro bin
    have small : (UInt32.ofNat (byteCounts payload bin)).toNat = byteCounts payload bin :=
      UInt32.toNat_ofNat_of_lt' ((byteCounts_le payload bin).trans_lt short)
    rw [Vector.getElem?_eq_getElem bin.isLt, Option.getD_some, getElem_histogramOf, binEntropy,
      subtractBin, frequency, total_byteCounts]
    split
    · rename_i none
      have none : byteCounts payload bin = 0 := by
        rw [← small, none]
        rfl
      rw [none, Nat.cast_zero, zero_div, zero_mul, neg_zero]
    · rw [small]
      exact zero_sub _
  calc (shannonEntropy payload : ℝ)
      = ∑ bin ∈ Finset.range 256,
          binEntropy payload.length ((histogramOf payload)[bin]?.getD 0) :=
        shannonEntropy_eq_sum bytes
    _ = ∑ bin : Fin 256,
          binEntropy payload.length ((histogramOf payload)[(bin : Nat)]?.getD 0) :=
        Finset.sum_range _
    _ = entropy 2 (byteCounts payload) := Finset.sum_congr rfl fun bin _ => term bin

end Counts

end NetSentinel
