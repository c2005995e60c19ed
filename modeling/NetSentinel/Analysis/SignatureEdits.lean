import NetSentinel.Analysis.SignatureDb
import NetSentinel.Library.ReversibleFold

namespace NetSentinel

/-- The inverse of the prime in 64 bits; an even multiplier would have none. -/
def fnvPrimeInverse : UInt64 := 0xce965057aff6957b

theorem mul_fnvPrime_cancel (hash : UInt64) : hash * fnvPrime * fnvPrimeInverse = hash := by
  have one : fnvPrime * fnvPrimeInverse = 1 := by decide
  rw [UInt64.mul_assoc, one, UInt64.mul_one]

theorem mul_fnvPrime_injective : Function.Injective fun hash : UInt64 => hash * fnvPrime := by
  intro hash other same
  calc hash
      = hash * fnvPrime * fnvPrimeInverse := (mul_fnvPrime_cancel hash).symm
    _ = other * fnvPrime * fnvPrimeInverse := congrArg (· * fnvPrimeInverse) same
    _ = other := mul_fnvPrime_cancel other

/-- One round of the loop: first the byte is mixed in, then the product is taken. -/
def fnv1aStep (hash : UInt64) (byte : UInt8) : UInt64 := (hash ^^^ byte.toUInt64) * fnvPrime

theorem fnv1aStep_reversible : Reversible fnv1aStep where
  state byte _ _ same := (UInt64.xor_left_inj byte.toUInt64).mp (mul_fnvPrime_injective same)
  letter hash _ _ same :=
    UInt8.toUInt64_inj.mp ((UInt64.xor_right_inj hash).mp (mul_fnvPrime_injective same))

theorem fnv1aHash_append_inj (data other rest : List UInt8) :
    fnv1aHash (data ++ rest) = fnv1aHash (other ++ rest) ↔ fnv1aHash data = fnv1aHash other :=
  fnv1aStep_reversible.foldl_append_inj data other rest fnvOffsetBasis

theorem fnv1aHash_ne {data edited : List UInt8} (once : DiffersOnce data edited) :
    fnv1aHash data ≠ fnv1aHash edited :=
  fnv1aStep_reversible.foldl_ne once fnvOffsetBasis

namespace SignatureDatabase

theorem addSignature_matches {signature payload : List UInt8}
    (different : fnv1aHash signature ≠ fnv1aHash payload) (database : SignatureDatabase) :
    (database.addSignature signature).matchesPayload payload = database.matchesPayload payload := by
  rw [Bool.eq_iff_iff, matchesPayload_iff, matchesPayload_iff]
  simp [addSignature, addHash, different.symm]

/-- Common ends do not matter to the hash, a single byte does; so a payload that is one byte off a
    signature matches by another hash or not at all, and does so without the signature. -/
theorem one_byte_edit_misses {signature payload : List UInt8} (once : DiffersOnce signature payload)
    (database : SignatureDatabase) (data other rest : List UInt8) :
    (fnv1aHash (data ++ rest) = fnv1aHash (other ++ rest) ↔ fnv1aHash data = fnv1aHash other) ∧
    fnv1aHash signature ≠ fnv1aHash payload ∧
    (database.addSignature signature).matchesPayload payload = database.matchesPayload payload ∧
    (database.matchesPayload payload →
      ∃ hash ∈ database.knownBadHashes, hash = fnv1aHash payload ∧ hash ≠ fnv1aHash signature) := by
  have different := fnv1aHash_ne once
  refine ⟨fnv1aHash_append_inj data other rest, different, addSignature_matches different database,
    fun found => ?_⟩
  have listed := ((matchesPayload_iff database payload).mp found).2
  exact ⟨_, listed, rfl, different.symm⟩

theorem last_byte_edit_misses :
    DiffersOnce ([97, 97, 97, 97] : List UInt8) [97, 97, 97, 98] ∧
      (new.addSignature [97, 97, 97, 97]).matchesPayload [97, 97, 97, 98] =
        new.matchesPayload [97, 97, 97, 98] := by
  have once : DiffersOnce ([97, 97, 97, 97] : List UInt8) [97, 97, 97, 98] := by
    refine ⟨rfl, 3, by decide, fun i differ => ?_⟩
    match i with
    | 0 => exact absurd rfl differ
    | 1 => exact absurd rfl differ
    | 2 => exact absurd rfl differ
    | 3 => rfl
    | _ + 4 => exact absurd rfl differ
  exact ⟨once, (one_byte_edit_misses once new [] [] []).2.2.1⟩

end SignatureDatabase

end NetSentinel
