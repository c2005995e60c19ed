import Mathlib.Algebra.Group.Basic
import Mathlib.Data.Nat.Cast.Defs

namespace NetSentinel

/-- The `double` arithmetic of the analysis, left open so that it can be read as floating point or
    as exact: conversion from unsigned integers, `std::log2`, the comparison `>=` and the `%.2f`
    of a format string. -/
class Arithmetic (R : Type*) extends Zero R, NatCast R, Sub R, Mul R, Div R where
  log2 : R → R
  atLeast : R → R → Bool
  twoDecimals : R → String

/-- The counters are 32 bits wide and wrap. -/
abbrev Histogram := Vector UInt32 256

def Histogram.increment (histogram : Histogram) (byte : UInt8) : Histogram :=
  histogram.set byte.toNat (histogram.get ⟨byte.toNat, byte.toNat_lt⟩ + 1) byte.toNat_lt

def histogramOf (data : List UInt8) : Histogram :=
  data.foldl Histogram.increment (Vector.replicate 256 0)

theorem getElem_increment (histogram : Histogram) (byte : UInt8) {i : Nat} (below : i < 256) :
    (histogram.increment byte)[i] = if byte.toNat = i then histogram[i] + 1 else histogram[i] := by
  rw [Histogram.increment, Vector.getElem_set]
  by_cases here : byte.toNat = i
  · subst here
    rfl
  · rw [if_neg here, if_neg here]

theorem increment_commutes (histogram : Histogram) (byte other : UInt8) :
    (histogram.increment byte).increment other = (histogram.increment other).increment byte := by
  apply Vector.ext
  intro i below
  simp only [getElem_increment _ _ below]
  split <;> split <;> rfl

section ShannonEntropy

variable {R : Type*} [Arithmetic R]

def subtractBin (total entropy : R) (count : UInt32) : R :=
  if count = 0 then entropy
  else
    let p := (count.toNat : R) / total
    entropy - p * Arithmetic.log2 p

def shannonEntropy (data : List UInt8) : R :=
  if data = [] then 0
  else (histogramOf data).toList.foldl (subtractBin (data.length : R)) 0

end ShannonEntropy

end NetSentinel
