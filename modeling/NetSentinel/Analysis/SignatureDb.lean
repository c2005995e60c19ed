import Mathlib.Data.Finset.Insert

namespace NetSentinel

def fnvOffsetBasis : UInt64 := 0xcbf29ce484222325
def fnvPrime : UInt64 := 0x100000001b3

/-- The EICAR test string, harmless by design. -/
def eicarTestString : String :=
  "X5O!P%@AP[4\\PZX54(P^)7CC)7\x7d$EICAR-STANDARD-ANTIVIRUS-TEST-FILE!$H+H*"

def fnv1aHash (data : List UInt8) : UInt64 :=
  data.foldl (fun hash byte => (hash ^^^ byte.toUInt64) * fnvPrime) fnvOffsetBasis

structure SignatureDatabase where
  knownBadHashes : Finset UInt64 := ∅

namespace SignatureDatabase

def addHash (database : SignatureDatabase) (hash : UInt64) : SignatureDatabase where
  knownBadHashes := insert hash database.knownBadHashes

def addSignature (database : SignatureDatabase) (rawBytes : List UInt8) : SignatureDatabase :=
  database.addHash (fnv1aHash rawBytes)

def new : SignatureDatabase := addSignature {} eicarTestString.toUTF8.toList

def matchesPayload (database : SignatureDatabase) (data : List UInt8) : Bool :=
  if data = [] then false else decide (fnv1aHash data ∈ database.knownBadHashes)

theorem matchesPayload_iff (database : SignatureDatabase) (data : List UInt8) :
    database.matchesPayload data ↔ data ≠ [] ∧ fnv1aHash data ∈ database.knownBadHashes := by
  unfold matchesPayload
  by_cases empty : data = []
  · simp [empty]
  · simp [empty]

end SignatureDatabase

def eicarPayload : List UInt8 := eicarTestString.toUTF8.toList

theorem eicarPayload_length : eicarPayload.length = 68 := by decide +kernel

theorem eicarPayload_listed : SignatureDatabase.new.matchesPayload eicarPayload = true := by
  rw [SignatureDatabase.matchesPayload_iff]
  refine ⟨List.ne_nil_of_length_pos ?_, Finset.mem_insert_self _ _⟩
  rw [eicarPayload_length]
  decide

end NetSentinel
