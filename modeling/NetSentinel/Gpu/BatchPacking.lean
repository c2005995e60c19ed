import NetSentinel.Gpu.BufferPool
import NetSentinel.Gpu.Phases
import NetSentinel.Library.Packing

namespace NetSentinel.Gpu

open Packing

/-- The payloads of a batch, as many as `-b` admits and none longer than an IPv4 datagram: what `main`
    and the parser see to before a batch gets here. -/
structure EntropyBatch where
  payloads : List (List UInt8)
  count_le : payloads.length ≤ 2 ^ 20
  size_le : ∀ payload ∈ payloads, payload.length ≤ 65535

namespace EntropyBatch

variable (batch : EntropyBatch)

theorem total_le : total batch.payloads ≤ 2 ^ 20 * 65535 :=
  (Packing.total_le batch.size_le).trans (Nat.mul_le_mul_right _ batch.count_le)

def spans : PayloadSpans where
  sizes := batch.payloads.map List.length
  count_lt := by
    have count := batch.count_le
    rw [List.length_map]
    omega
  bytes_lt := by
    have bytes := batch.total_le
    unfold total at bytes
    omega

theorem total_lt : total batch.payloads < 2 ^ 64 := batch.spans.bytes_lt

end EntropyBatch

structure PackedBuffers where
  data : Nat → UInt8
  offsets : Nat → UInt32
  lengths : Nat → UInt32

/-- One round of the loop that copies the payloads: the running offset is a `size_t`, what is stored
    of it are 32 bits. -/
def storePayload (payload : List UInt8) (i offset : Nat) (buffers : PackedBuffers) :
    PackedBuffers where
  data := if 0 < payload.length then write buffers.data offset payload else buffers.data
  offsets := Function.update buffers.offsets i (UInt32.ofNat offset)
  lengths := Function.update buffers.lengths i (UInt32.ofNat payload.length)

def packPayloads : List (List UInt8) → Nat → Nat → PackedBuffers → PackedBuffers
  | [], _, _, buffers => buffers
  | payload :: payloads, i, offset, buffers =>
    packPayloads payloads (i + 1) ((offset + payload.length) % 2 ^ 64)
      (storePayload payload i offset buffers)

def PackedBuffers.arguments (buffers : PackedBuffers) (i : Nat) : KernelArguments where
  data place := buffers.data place.toNat
  offsets index := buffers.offsets index.toNat
  lengths index := buffers.lengths index.toNat
  payload := UInt32.ofNat i

def KernelArguments.place (arguments : KernelArguments) (k : Nat) : UInt32 :=
  arguments.offset + UInt32.ofNat k

section Packed

variable {payloads : List (List UInt8)} {i offset : Nat} {buffers : PackedBuffers}

theorem storePayload_data (payload : List UInt8) :
    (storePayload payload i offset buffers).data = write buffers.data offset payload := by
  unfold storePayload
  dsimp only
  split
  · rfl
  · rename_i empty
    rw [List.eq_nil_of_length_eq_zero (Nat.eq_zero_of_not_pos empty), write_nil]

theorem packPayloads_cons (payload : List UInt8)
    (fits : offset + total (payload :: payloads) < 2 ^ 64) :
    packPayloads (payload :: payloads) i offset buffers =
      packPayloads payloads (i + 1) (offset + payload.length)
        (storePayload payload i offset buffers) := by
  rw [total_cons] at fits
  rw [packPayloads, Nat.mod_eq_of_lt (by omega)]

theorem packPayloads_before (fits : offset + total payloads < 2 ^ 64) :
    (∀ place < offset, (packPayloads payloads i offset buffers).data place = buffers.data place) ∧
    ∀ index < i, (packPayloads payloads i offset buffers).offsets index = buffers.offsets index ∧
      (packPayloads payloads i offset buffers).lengths index = buffers.lengths index := by
  induction payloads generalizing i offset buffers with
  | nil => exact ⟨fun place _ => rfl, fun index _ => ⟨rfl, rfl⟩⟩
  | cons payload payloads ih =>
    rw [packPayloads_cons payload fits]
    rw [total_cons] at fits
    have fits : offset + payload.length + total payloads < 2 ^ 64 := by omega
    obtain ⟨bytes, tables⟩ := ih (i := i + 1) fits
    refine ⟨fun place before => ?_, fun index before => ?_⟩
    · rw [bytes place (by omega), storePayload_data]
      exact write_before before
    · obtain ⟨offsets, lengths⟩ := tables index (by omega)
      rw [offsets, lengths]
      exact ⟨Function.update_of_ne (by omega) _ _, Function.update_of_ne (by omega) _ _⟩

theorem packPayloads_at (buffers : PackedBuffers) (fits : offset + total payloads < 2 ^ 64) {k : Nat}
    (member : k < payloads.length) :
    (packPayloads payloads i offset buffers).offsets (i + k) =
        UInt32.ofNat (offset + start payloads k) ∧
      (packPayloads payloads i offset buffers).lengths (i + k) =
        UInt32.ofNat payloads[k].length ∧
      ∀ a (inside : a < payloads[k].length),
        (packPayloads payloads i offset buffers).data (offset + start payloads k + a) =
          payloads[k][a] := by
  induction payloads generalizing i offset buffers k with
  | nil => cases member
  | cons payload payloads ih =>
    rw [packPayloads_cons payload fits]
    rw [total_cons] at fits
    cases k with
    | zero =>
      have fits : offset + payload.length + total payloads < 2 ^ 64 := by omega
      obtain ⟨bytes, tables⟩ := packPayloads_before (i := i + 1) fits
      obtain ⟨offsets, lengths⟩ := tables i (Nat.lt_succ_self i)
      refine ⟨?_, ?_, fun a inside => ?_⟩
      · exact offsets.trans (Function.update_self _ _ _)
      · exact lengths.trans (Function.update_self _ _ _)
      · have inside : a < payload.length := inside
        rw [start_zero, Nat.add_zero, bytes _ (by omega), storePayload_data]
        exact write_at inside
    | succ k =>
      have fits : offset + payload.length + total payloads < 2 ^ 64 := by omega
      obtain ⟨offsets, lengths, bytes⟩ := ih (i := i + 1)
        (storePayload payload i offset buffers) fits (Nat.lt_of_succ_lt_succ member)
      rw [Nat.add_assoc, Nat.add_comm 1] at offsets lengths
      rw [start_cons, ← Nat.add_assoc offset]
      exact ⟨offsets, lengths, bytes⟩

end Packed

/-- The payloads come out of the buffers as they went in: the bytes that the kernel reads for a
    payload are its own, no byte is read for two payloads, no slice reaches past what was copied,
    and no number was cut off on its way into the tables. -/
structure Lossless (payloads : List (List UInt8)) (buffers : PackedBuffers) : Prop where
  slices : ∀ i (member : i < payloads.length), (buffers.arguments i).Hold payloads[i]
  disjoint : ∀ i j (left : i < payloads.length) (right : j < payloads.length), i ≠ j →
    ∀ a < payloads[i].length, ∀ b < payloads[j].length,
      (buffers.arguments i).place a ≠ (buffers.arguments j).place b
  inside : ∀ i < payloads.length,
    (buffers.offsets i).toNat + (buffers.lengths i).toNat ≤ total payloads
  casts : ∀ i (member : i < payloads.length),
    (buffers.offsets i).toNat = start payloads i ∧ (buffers.lengths i).toNat = payloads[i].length

section Batch

variable (batch : EntropyBatch) (buffers : PackedBuffers)

def EntropyBatch.packed : PackedBuffers := packPayloads batch.payloads 0 0 buffers

variable {batch} {i : Nat}

theorem EntropyBatch.packed_at (member : i < batch.payloads.length) :
    (batch.packed buffers).offsets i = UInt32.ofNat (start batch.payloads i) ∧
      (batch.packed buffers).lengths i = UInt32.ofNat batch.payloads[i].length ∧
      ∀ a (inside : a < batch.payloads[i].length),
        (batch.packed buffers).data (start batch.payloads i + a) = batch.payloads[i][a] := by
  have fits : 0 + total batch.payloads < 2 ^ 64 := by
    rw [Nat.zero_add]
    exact batch.total_lt
  have found := packPayloads_at (i := 0) buffers fits member
  rwa [Nat.zero_add, Nat.zero_add] at found

theorem EntropyBatch.index_toNat (member : i < batch.payloads.length) :
    (UInt32.ofNat i).toNat = i := by
  have count := batch.count_le
  exact UInt32.toNat_ofNat_of_lt' (Nat.lt_trans member (Nat.lt_of_le_of_lt count (by decide)))

theorem EntropyBatch.place_toNat (member : i < batch.payloads.length) (a : Nat) :
    (((batch.packed buffers).arguments i).place a).toNat =
      (start batch.payloads i + a) % 2 ^ 32 := by
  have offset : ((batch.packed buffers).arguments i).offset =
      UInt32.ofNat (start batch.payloads i) := by
    have stored := (batch.packed_at buffers member).1
    rw [← stored]
    exact congrArg (batch.packed buffers).offsets (batch.index_toNat member)
  rw [KernelArguments.place, offset, ← UInt32.ofNat_add, UInt32.toNat_ofNat']

theorem EntropyBatch.total_le_of_lossless (lossless : Lossless batch.payloads (batch.packed buffers)) :
    total batch.payloads ≤ 2 ^ 32 := by
  apply total_le_of_apart
  · intro payload member
    exact (batch.size_le payload member).trans (by decide)
  · intro i j left right apart a first b second same
    apply lossless.disjoint i j left right apart a first b second
    apply UInt32.toNat_inj.mp
    rw [batch.place_toNat buffers left, batch.place_toNat buffers right, same]

theorem EntropyBatch.casts_iff (member : i < batch.payloads.length) :
    ((batch.packed buffers).offsets i).toNat = start batch.payloads i ↔
      start batch.payloads i < 2 ^ 32 := by
  rw [(batch.packed_at buffers member).1, UInt32.toNat_ofNat']
  constructor
  · intro exact
    rw [← exact]
    exact Nat.mod_lt _ (by decide)
  · exact Nat.mod_eq_of_lt

theorem EntropyBatch.length_toNat (member : i < batch.payloads.length) :
    ((batch.packed buffers).lengths i).toNat = batch.payloads[i].length := by
  have short := batch.size_le _ (List.getElem_mem member)
  rw [(batch.packed_at buffers member).2.1]
  exact UInt32.toNat_ofNat_of_lt' (Nat.lt_of_le_of_lt short (by decide))

theorem EntropyBatch.lossless_of_fits (fits : total batch.payloads ≤ 2 ^ 32)
    (starts : ∀ i < batch.payloads.length, start batch.payloads i < 2 ^ 32) :
    Lossless batch.payloads (batch.packed buffers) := by
  have place : ∀ {i} (member : i < batch.payloads.length) {a}, a < batch.payloads[i].length →
      (((batch.packed buffers).arguments i).place a).toNat = start batch.payloads i + a := by
    intro i member a inside
    have ends := end_le_total member
    rw [batch.place_toNat buffers member, Nat.mod_eq_of_lt (by omega)]
  constructor
  · intro i member
    constructor
    · have length := batch.length_toNat buffers member
      rw [← length]
      exact congrArg (fun index => ((batch.packed buffers).lengths index).toNat)
        (batch.index_toNat member)
    · intro a inside
      have read := (batch.packed_at buffers member).2.2 a inside
      rw [← read, ← place member inside]
      rfl
  · intro i j left right apart a first b second same
    apply places_apart apart left right first second
    rw [← place left first, ← place right second, same]
  · intro i member
    rw [(batch.casts_iff buffers member).mpr (starts i member), batch.length_toNat buffers member]
    exact end_le_total member
  · intro i member
    exact ⟨(batch.casts_iff buffers member).mpr (starts i member), batch.length_toNat buffers member⟩

end Batch

/-- Batches of at most 2^20 payloads of at most 65535 bytes come through whole exactly if their bytes
    and their offsets fit 32 bits. -/
theorem packing_is_lossless_iff (batch : EntropyBatch) (buffers : PackedBuffers) :
    Lossless batch.payloads (packPayloads batch.payloads 0 0 buffers) ↔
      total batch.payloads ≤ 2 ^ 32 ∧
        ∀ i < batch.payloads.length, start batch.payloads i < 2 ^ 32 := by
  constructor
  · intro lossless
    refine ⟨batch.total_le_of_lossless buffers lossless, fun i member => ?_⟩
    exact (batch.casts_iff buffers member).mp (lossless.casts i member).1
  · rintro ⟨fits, starts⟩
    exact batch.lossless_of_fits buffers fits starts

/-- As many of the longest ICMP messages as it takes to fill 32 bits, one after the other. -/
def floodBatch : EntropyBatch where
  payloads := List.replicate 65558 (List.replicate 65515 0)
  count_le := by
    rw [List.length_replicate]
    decide
  size_le payload member := by
    rw [List.eq_of_mem_replicate member, List.length_replicate]
    decide

def zeroBuffers : PackedBuffers := ⟨fun _ => 0, fun _ => 0, fun _ => 0⟩

theorem flood_batch_is_garbled :
    ¬ Lossless floodBatch.payloads (packPayloads floodBatch.payloads 0 0 zeroBuffers) := by
  intro lossless
  have fits := floodBatch.total_le_of_lossless zeroBuffers lossless
  rw [total, floodBatch, List.map_replicate, List.sum_replicate, List.length_replicate] at fits
  exact absurd fits (by decide)

end NetSentinel.Gpu
