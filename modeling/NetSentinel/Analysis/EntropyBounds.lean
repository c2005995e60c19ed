import NetSentinel.Analysis.Batching

namespace NetSentinel

open ShannonEntropy

section Counts

variable {payload other : List UInt8}

theorem mem_support_binOf {byte : UInt8} :
    binOf byte ∈ support (byteCounts payload) ↔ byte ∈ payload := by
  rw [mem_support, byteCounts_binOf, List.count_pos_iff]

theorem log_card_bytes : Real.logb 2 (Fintype.card (Fin 256)) = 8 := by
  have power : ((Fintype.card (Fin 256) : ℕ) : ℝ) = 2 ^ 8 := by
    rw [Fintype.card_fin]
    norm_num
  rw [power, Real.logb_pow, Real.logb_self_eq_one one_lt_two, mul_one]
  norm_num

theorem histogramOf_perm (perm : payload.Perm other) : histogramOf payload = histogramOf other := by
  have : RightCommutative Histogram.increment := ⟨increment_commutes⟩
  exact perm.foldl_eq _

theorem shannonEntropy_perm (perm : payload.Perm other) :
    (shannonEntropy payload : ℝ) = shannonEntropy other := by
  have empty : payload = [] ↔ other = [] := by
    constructor
    · rintro rfl
      exact perm.symm.eq_nil
    · rintro rfl
      exact perm.eq_nil
  unfold shannonEntropy
  rw [histogramOf_perm perm, perm.length_eq]
  simp only [empty]

end Counts

section Entropy

variable {payload : List UInt8} (bytes : payload ≠ []) (short : payload.length < 2 ^ 32)

include bytes short

omit short in
theorem total_byteCounts_pos : 0 < total (byteCounts payload) := by
  rw [total_byteCounts]
  exact List.length_pos_of_ne_nil bytes

theorem shannonEntropy_nonneg : 0 ≤ (shannonEntropy payload : ℝ) := by
  rw [shannonEntropy_eq_entropy bytes short]
  exact entropy_nonneg one_lt_two

theorem shannonEntropy_le : (shannonEntropy payload : ℝ) ≤ min 8 (Real.logb 2 payload.length) := by
  have values := entropy_le_log_card one_lt_two (total_byteCounts_pos bytes)
  have length := entropy_le_log_total one_lt_two (total_byteCounts_pos bytes)
  rw [log_card_bytes] at values
  rw [total_byteCounts] at length
  rw [shannonEntropy_eq_entropy bytes short]
  exact le_min values length

theorem shannonEntropy_eq_zero_iff :
    (shannonEntropy payload : ℝ) = 0 ↔ ∀ byte ∈ payload, ∀ other ∈ payload, byte = other := by
  rw [shannonEntropy_eq_entropy bytes short, entropy_eq_zero_iff one_lt_two (total_byteCounts_pos bytes)]
  constructor
  · intro single byte here other there
    exact binOf_injective (single _ (mem_support_binOf.mpr here) _ (mem_support_binOf.mpr there))
  · intro single bin here other there
    rw [← binOf_ofNat bin, mem_support_binOf] at here
    rw [← binOf_ofNat other, mem_support_binOf] at there
    rw [← binOf_ofNat bin, ← binOf_ofNat other, single _ here _ there]

theorem shannonEntropy_eq_eight_iff :
    (shannonEntropy payload : ℝ) = 8 ↔
      ∀ byte other : UInt8, payload.count byte = payload.count other := by
  rw [shannonEntropy_eq_entropy bytes short, ← log_card_bytes,
    entropy_eq_log_card_iff one_lt_two (total_byteCounts_pos bytes)]
  constructor
  · intro equal byte other
    rw [← byteCounts_binOf, ← byteCounts_binOf]
    exact equal _ _
  · intro equal bin other
    rw [← binOf_ofNat bin, ← binOf_ofNat other, byteCounts_binOf, byteCounts_binOf]
    exact equal _ _

end Entropy

section Threshold

variable {threshold : ℝ} {payload : List UInt8}

theorem atLeast_iff {entropy threshold : ℝ} :
    Arithmetic.atLeast entropy threshold = true ↔ threshold ≤ entropy := decide_eq_true_iff

theorem shannonEntropy_lt (positive : 0 < threshold) (most : threshold ≤ 8)
    (short : (payload.length : ℝ) < 2 ^ threshold) : (shannonEntropy payload : ℝ) < threshold := by
  by_cases bytes : payload = []
  · rw [shannonEntropy, if_pos bytes]
    exact positive
  · have length : (0 : ℝ) < payload.length :=
      Nat.cast_pos.mpr (List.length_pos_of_ne_nil bytes)
    have power : (2 : ℝ) ^ threshold ≤ 2 ^ 32 := by
      rw [← Real.rpow_natCast]
      exact Real.rpow_le_rpow_of_exponent_le one_le_two (by push_cast; linarith)
    have narrow : payload.length < 2 ^ 32 := by
      have below := short.trans_le power
      exact_mod_cast below
    calc (shannonEntropy payload : ℝ)
        ≤ Real.logb 2 payload.length := (shannonEntropy_le bytes narrow).trans (min_le_right _ _)
      _ < threshold := (Real.logb_lt_iff_lt_rpow one_lt_two length).mpr short

def AnalysisConfig.withMinimum {R : Type} [Arithmetic R] (config : AnalysisConfig R)
    (bytes : Nat) : AnalysisConfig R :=
  { config with entropyMinPayloadBytes := max config.entropyMinPayloadBytes bytes }

variable {config : AnalysisConfig ℝ} (positive : 0 < config.entropyThreshold)
  (most : config.entropyThreshold ≤ 8)

include positive most

theorem entropyAlertsFor_of_short {packet : QueuedPacket}
    (short : (packet.payload.length : ℝ) < 2 ^ config.entropyThreshold) :
    entropyAlertsFor config packet (shannonEntropy packet.payload) = [] := by
  have below := shannonEntropy_lt positive most short
  exact if_neg fun reached => absurd (atLeast_iff.mp reached) (not_le.mpr below)

theorem entropyRule_of_short {packet : QueuedPacket}
    (short : (packet.payload.length : ℝ) < 2 ^ config.entropyThreshold) :
    entropyRule config [packet] = [] := by
  refine List.flatMap_eq_nil_iff.mpr fun candidate eligible => ?_
  rw [List.mem_singleton.mp (List.mem_of_mem_filter eligible)]
  exact entropyAlertsFor_of_short positive most short

theorem entropyRule_cause {packets : List QueuedPacket} {alert : Alert}
    (raised : alert ∈ entropyRule config packets) :
    ∃ packet ∈ packets, (2 : ℝ) ^ config.entropyThreshold ≤ packet.payload.length ∧
      alert = entropyAlert packet (shannonEntropy packet.payload : ℝ) := by
  obtain ⟨packet, eligible, found⟩ := List.mem_flatMap.mp raised
  refine ⟨packet, List.mem_of_mem_filter eligible, ?_, ?_⟩
  · by_contra short
    rw [entropyAlertsFor_of_short positive most (not_le.mp short)] at found
    cases found
  · unfold entropyAlertsFor at found
    split at found
    · exact List.mem_singleton.mp found
    · cases found

theorem entropyRule_withMinimum {bytes : Nat}
    (needless : bytes ≤ ⌈(2 : ℝ) ^ config.entropyThreshold⌉₊) (packets : List QueuedPacket) :
    entropyRule (config.withMinimum bytes) packets = entropyRule config packets := by
  induction packets with
  | nil => rfl
  | cons packet packets ih =>
    have single : entropyRule (config.withMinimum bytes) [packet] =
        entropyRule config [packet] := by
      by_cases short : (packet.payload.length : ℝ) < 2 ^ config.entropyThreshold
      · have positiveStill : 0 < (config.withMinimum bytes).entropyThreshold := positive
        rw [entropyRule_of_short positive most short]
        exact entropyRule_of_short positiveStill most short
      · have long : bytes ≤ packet.payload.length :=
          needless.trans (Nat.ceil_le.mpr (not_lt.mp short))
        have same : eligiblePackets (config.withMinimum bytes) [packet] =
            eligiblePackets config [packet] := by
          refine List.filter_congr fun candidate member => ?_
          rw [List.mem_singleton.mp member]
          simp [AnalysisConfig.withMinimum, long]
        unfold entropyRule
        rw [same]
        rfl
    have split := entropyRule_append (config.withMinimum bytes) [packet] packets
    have splitBefore := entropyRule_append config [packet] packets
    rw [single, ih, ← splitBefore] at split
    exact split

theorem batchesAlerts_withMinimum {bytes : Nat}
    (needless : bytes ≤ ⌈(2 : ℝ) ^ config.entropyThreshold⌉₊) (hash : UInt32 → Nat)
    (signatures : SignatureDatabase) (tracker : FlowTracker) (batches : List (List ObserveCall)) :
    batchesAlerts hash (config.withMinimum bytes) signatures tracker batches =
      batchesAlerts hash config signatures tracker batches := by
  induction batches generalizing tracker with
  | nil => rfl
  | cons batch batches ih =>
    unfold batchesAlerts batchAlerts
    rw [ih, entropyRule_withMinimum positive most needless]

theorem batchesAlerts_cause {hash : UInt32 → Nat} {signatures : SignatureDatabase}
    {tracker : FlowTracker} {batches : List (List ObserveCall)} {alert : Alert}
    (raised : alert ∈ batchesAlerts hash config signatures tracker batches)
    (type : alert.type = .highEntropyPayload) :
    ∃ call ∈ batches.flatten,
      (2 : ℝ) ^ config.entropyThreshold ≤ call.packet.payload.length ∧
        alert = entropyAlert call.packet (shannonEntropy call.packet.payload : ℝ) := by
  induction batches generalizing tracker with
  | nil => cases raised
  | cons batch batches ih =>
    rcases List.mem_append.mp raised with first | later
    · rcases List.mem_append.mp first with rules | entropy
      · exact absurd type (packetRules_type hash signatures rules)
      · obtain ⟨packet, member, long, made⟩ := entropyRule_cause positive most entropy
        obtain ⟨call, observed, rfl⟩ := List.mem_map.mp member
        exact ⟨call, List.mem_append_left _ observed, long, made⟩
    · obtain ⟨call, member, cause⟩ := ih later
      exact ⟨call, List.mem_append_right _ member, cause⟩

end Threshold

namespace AnalysisEngine

/-- The bounds of the entropy with their extremal payloads, and what they mean for the rule: what is
    shorter than `2 ^ threshold` raises no alert, so a minimum length below that changes nothing. -/
theorem entropy_bounds_alerts {payload : List UInt8} (bytes : payload ≠ [])
    (short : payload.length < 2 ^ 32) {σ : Type} {config : AnalysisConfig ℝ}
    (positive : 0 < config.entropyThreshold) (most : config.entropyThreshold ≤ 8)
    {backend : EntropyBackend σ ℝ} (behaves : backend.FailsOrAgrees) (state : σ)
    (hash : UInt32 → Nat) (batches : List (List ObserveCall)) :
    (0 ≤ (shannonEntropy payload : ℝ) ∧
      (shannonEntropy payload : ℝ) ≤ min 8 (Real.logb 2 payload.length) ∧
      ((shannonEntropy payload : ℝ) = 0 ↔ ∀ byte ∈ payload, ∀ other ∈ payload, byte = other) ∧
      ((shannonEntropy payload : ℝ) = 8 ↔
        ∀ byte other : UInt8, payload.count byte = payload.count other) ∧
      ∀ other, payload.Perm other → (shannonEntropy payload : ℝ) = shannonEntropy other) ∧
    ∃ alerts after afterRaised,
      (new config backend state).analyzeBatches hash batches = some (after, alerts) ∧
      (new (config.withMinimum ⌈(2 : ℝ) ^ config.entropyThreshold⌉₊) backend
        state).analyzeBatches hash batches = some (afterRaised, alerts) ∧
      ∀ alert ∈ alerts, alert.type = .highEntropyPayload →
        ∃ call ∈ batches.flatten,
          (2 : ℝ) ^ config.entropyThreshold ≤ call.packet.payload.length ∧
            alert = entropyAlert call.packet (shannonEntropy call.packet.payload : ℝ) := by
  refine ⟨⟨shannonEntropy_nonneg bytes short, shannonEntropy_le bytes short,
    shannonEntropy_eq_zero_iff bytes short, shannonEntropy_eq_eight_iff bytes short,
    fun other perm => shannonEntropy_perm perm⟩, ?_⟩
  obtain ⟨after, run, -⟩ := analyzeBatches_eq hash (new config backend state) behaves batches
  obtain ⟨afterRaised, runRaised, -⟩ := analyzeBatches_eq hash
    (new (config.withMinimum ⌈(2 : ℝ) ^ config.entropyThreshold⌉₊) backend state) behaves batches
  refine ⟨_, after, afterRaised, run, ?_, fun alert raised type => ?_⟩
  · rw [runRaised]
    have same := batchesAlerts_withMinimum positive most le_rfl hash
      (new config backend state).signatures (new config backend state).flowTracker batches
    exact congrArg (fun alerts => some (afterRaised, alerts)) same
  · exact batchesAlerts_cause positive most raised type

theorem repeated_byte_raises_nothing : (shannonEntropy [7, 7] : ℝ) = 0 ∧
    ∃ alerts, ∃ after afterRaised : AnalysisEngine Unit ℝ,
      (new {} cpuEntropyBackend ()).analyzeBatches UInt32.toNat [[longPacket]] =
        some (after, alerts) ∧
      (new (AnalysisConfig.withMinimum {} ⌈(2 : ℝ) ^ ((7 : Nat) : ℝ)⌉₊) cpuEntropyBackend
        ()).analyzeBatches UInt32.toNat [[longPacket]] = some (afterRaised, alerts) := by
  have bytes : ([7, 7] : List UInt8) ≠ [] := List.cons_ne_nil _ _
  have positive : 0 < ({} : AnalysisConfig ℝ).entropyThreshold := by norm_num
  have most : ({} : AnalysisConfig ℝ).entropyThreshold ≤ 8 := by norm_num
  have bounds := entropy_bounds_alerts bytes (by decide) positive most
    cpuEntropyBackend_failsOrAgrees () UInt32.toNat [[longPacket]]
  obtain ⟨⟨-, -, zero, -⟩, alerts, after, afterRaised, run, runRaised, -⟩ := bounds
  exact ⟨zero.mpr (by simp), alerts, after, afterRaised, run, runRaised⟩

end AnalysisEngine

end NetSentinel
