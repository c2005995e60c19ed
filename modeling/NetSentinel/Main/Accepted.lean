import Mathlib.Algebra.Order.Ring.Rat
import Mathlib.Tactic.NormNum
import NetSentinel.Main.Options

namespace NetSentinel

open Strto

def takesValue : String → Bool
  | "-i" | "-r" | "-c" | "-w" | "-q" | "-b" | "-L" | "-e" => true
  | _ => false

def valuesOf (flag : String) : List String → List String
  | [] => []
  | [_] => []
  | arg :: next :: args =>
    match takesValue arg with
    | true => (if arg = flag then [next] else []) ++ valuesOf flag args
    | false => valuesOf flag (next :: args)

structure Options.Bounded (options : Options) : Prop where
  maxPackets : 0 ≤ options.maxPackets
  queueCapacity : options.queueCapacity ≤ 2 ^ 24
  batchSize : options.batchSize ≤ 2 ^ 20
  lingerUs : 0 ≤ options.lingerUs ∧ options.lingerUs ≤ 1000000

section Values

variable {round : ℚ → WithBot (WithTop ℚ)} {text flag : String} {maxValue value : Int}

theorem bind_eq_ok {ε α β : Type} {result : Except ε α} {next : α → Except ε β} {last : β}
    (done : (result >>= next) = .ok last) : ∃ first, result = .ok first ∧ next first = .ok last := by
  cases result with
  | error => cases done
  | ok first => exact ⟨first, rfl, done⟩

theorem parseNonnegative_bounds (parsed : parseNonnegative text flag maxValue = .ok value) :
    0 ≤ value ∧ value ≤ maxValue := by
  unfold parseNonnegative at parsed
  dsimp only at parsed
  split at parsed
  · cases parsed
  · rename_i accepted
    rw [← Except.ok.inj parsed]
    simp only [not_or] at accepted
    exact ⟨Int.not_lt.mp accepted.2.2.2.1, Int.not_lt.mp accepted.2.2.2.2⟩

end Values

/-- What an accepted option does, with the argument after it. -/
structure OptionRead (round : ℚ → WithBot (WithTop ℚ)) (options : Options) (arg : String)
    (next : Option String) (after : Options) (consumed : Bool) : Prop where
  consumes : consumed = takesValue arg
  bounded : options.Bounded → after.Bounded
  workers : arg ≠ "-w" ∧ after.numWorkers = options.numWorkers ∨
    arg = "-w" ∧ after.numWorkers ≤ 1024
  threshold : arg ≠ "-e" ∧ after.entropyThreshold = options.entropyThreshold ∨
    arg = "-e" ∧ ∃ text, next = some text ∧ parseThreshold round text = .ok after.entropyThreshold

section Read

variable {round : ℚ → WithBot (WithTop ℚ)} {argv0 arg : String} {options after : Options}
  {next : Option String} {consumed : Bool}

theorem OptionRead.other (apart : arg ≠ "-w" ∧ arg ≠ "-e") (consumes : consumed = takesValue arg)
    (bounded : options.Bounded → after.Bounded) (workers : after.numWorkers = options.numWorkers)
    (threshold : after.entropyThreshold = options.entropyThreshold) :
    OptionRead round options arg next after consumed :=
  ⟨consumes, bounded, .inl ⟨apart.1, workers⟩, .inl ⟨apart.2, threshold⟩⟩

theorem OptionRead.of_readOption
    (read : readOption round argv0 options arg next = .ok (after, consumed)) :
    OptionRead round options arg next after consumed := by
  have kept : ∀ {other : Options}, other.maxPackets = options.maxPackets →
      other.queueCapacity = options.queueCapacity → other.batchSize = options.batchSize →
      other.lingerUs = options.lingerUs → options.Bounded → other.Bounded := by
    intro other count capacity size linger bounded
    constructor
    · rw [count]
      exact bounded.maxPackets
    · rw [capacity]
      exact bounded.queueCapacity
    · rw [size]
      exact bounded.batchSize
    · rw [linger]
      exact bounded.lingerUs
  unfold readOption at read
  split at read
  case h_1 device =>
    cases read
    exact .other (by decide) rfl (kept rfl rfl rfl rfl) rfl rfl
  case h_2 pcapFile =>
    cases read
    exact .other (by decide) rfl (kept rfl rfl rfl rfl) rfl rfl
  case h_3 text =>
    obtain ⟨value, parsed, done⟩ := bind_eq_ok read
    cases done
    obtain ⟨least, most⟩ := parseNonnegative_bounds parsed
    refine .other (by decide) rfl (fun bounded => ?_) rfl rfl
    refine ⟨?_, bounded.queueCapacity, bounded.batchSize, bounded.lingerUs⟩
    rw [Int32.le_iff_toInt_le]
    dsimp only
    rw [Int32.toInt_ofInt_of_le (by omega) (by omega)]
    exact least
  case h_4 =>
    cases read
    exact .other (by decide) rfl (kept rfl rfl rfl rfl) rfl rfl
  case h_5 text =>
    obtain ⟨value, parsed, done⟩ := bind_eq_ok read
    cases done
    obtain ⟨least, most⟩ := parseNonnegative_bounds parsed
    exact ⟨rfl, kept rfl rfl rfl rfl, .inr ⟨rfl, Int.toNat_le.mpr most⟩, .inl ⟨by decide, rfl⟩⟩
  case h_6 text =>
    obtain ⟨value, parsed, done⟩ := bind_eq_ok read
    cases done
    obtain ⟨least, most⟩ := parseNonnegative_bounds parsed
    refine .other (by decide) rfl (fun bounded => ?_) rfl rfl
    exact ⟨bounded.maxPackets, Int.toNat_le.mpr most, bounded.batchSize, bounded.lingerUs⟩
  case h_7 text =>
    obtain ⟨value, parsed, done⟩ := bind_eq_ok read
    cases done
    obtain ⟨least, most⟩ := parseNonnegative_bounds parsed
    refine .other (by decide) rfl (fun bounded => ?_) rfl rfl
    exact ⟨bounded.maxPackets, bounded.queueCapacity, Int.toNat_le.mpr most, bounded.lingerUs⟩
  case h_8 text =>
    obtain ⟨value, parsed, done⟩ := bind_eq_ok read
    cases done
    refine .other (by decide) rfl (fun bounded => ?_) rfl rfl
    exact ⟨bounded.maxPackets, bounded.queueCapacity, bounded.batchSize,
      parseNonnegative_bounds parsed⟩
  case h_9 =>
    cases read
    exact .other (by decide) rfl (kept rfl rfl rfl rfl) rfl rfl
  case h_10 =>
    cases read
    exact .other (by decide) rfl (kept rfl rfl rfl rfl) rfl rfl
  case h_11 =>
    cases read
    exact .other (by decide) rfl (kept rfl rfl rfl rfl) rfl rfl
  case h_12 text =>
    obtain ⟨value, parsed, done⟩ := bind_eq_ok read
    cases done
    exact ⟨rfl, kept rfl rfl rfl rfl, .inl ⟨by decide, rfl⟩, .inr ⟨rfl, text, rfl, parsed⟩⟩
  case h_13 => cases read

structure OptionsRead (round : ℚ → WithBot (WithTop ℚ)) (options : Options) (args : List String)
    (final : Options) : Prop where
  bounded : options.Bounded → final.Bounded
  workers : options.numWorkers ≤ 1024 ∨ valuesOf "-w" args ≠ [] → final.numWorkers ≤ 1024
  threshold : valuesOf "-e" args = [] ∧ final.entropyThreshold = options.entropyThreshold ∨
    ∃ text, (valuesOf "-e" args).getLast? = some text ∧
      parseThreshold round text = .ok final.entropyThreshold

variable {value : String} {args : List String} {final : Options}

theorem OptionsRead.pair (first : OptionRead round options arg (some value) after true)
    (rest : OptionsRead round after args final) :
    OptionsRead round options (arg :: value :: args) final := by
  have values : ∀ flag, valuesOf flag (arg :: value :: args) =
      (if arg = flag then [value] else []) ++ valuesOf flag args := by
    intro flag
    rw [valuesOf, ← first.consumes]
  refine ⟨fun bounded => rest.bounded (first.bounded bounded), fun few => rest.workers ?_, ?_⟩
  · rw [values] at few
    rcases first.workers with ⟨apart, same⟩ | ⟨-, set⟩
    · rw [if_neg apart, List.nil_append] at few
      rwa [same]
    · exact .inl set
  · rw [values]
    rcases rest.threshold with ⟨none, same⟩ | ⟨text, last, parsed⟩
    · rw [none, List.append_nil, same]
      rcases first.threshold with ⟨apart, kept⟩ | ⟨here, text, given, parsed⟩
      · exact .inl ⟨if_neg apart, kept⟩
      · obtain rfl := Option.some.inj given
        exact .inr ⟨value, by rw [if_pos here]; rfl, parsed⟩
    · refine .inr ⟨text, ?_, parsed⟩
      rw [List.getLast?_append, last]
      rfl

theorem OptionsRead.single (first : OptionRead round options arg (some value) after false)
    (rest : OptionsRead round after (value :: args) final) :
    OptionsRead round options (arg :: value :: args) final := by
  have values : ∀ flag, valuesOf flag (arg :: value :: args) = valuesOf flag (value :: args) := by
    intro flag
    rw [valuesOf, ← first.consumes]
  have same : after.numWorkers = options.numWorkers ∧
      after.entropyThreshold = options.entropyThreshold := by
    constructor
    · rcases first.workers with ⟨-, same⟩ | ⟨here, -⟩
      · exact same
      · rw [here] at first
        exact absurd first.consumes (by decide)
    · rcases first.threshold with ⟨-, same⟩ | ⟨here, -⟩
      · exact same
      · rw [here] at first
        exact absurd first.consumes (by decide)
  refine ⟨fun bounded => rest.bounded (first.bounded bounded), fun few => rest.workers ?_, ?_⟩
  · rwa [same.1, ← values]
  · rw [values, ← same.2]
    exact rest.threshold

theorem OptionsRead.of_readOptions :
    ∀ {options : Options} {args : List String},
      readOptions round argv0 options args = .ok final → OptionsRead round options args final
  | options, [], read => by
    cases read
    exact ⟨id, fun few => few.resolve_right (absurd rfl), .inl ⟨rfl, rfl⟩⟩
  | options, [arg], read => by
    obtain ⟨⟨after, consumed⟩, done, returned⟩ := bind_eq_ok read
    obtain rfl := Except.ok.inj returned
    have first := OptionRead.of_readOption done
    refine ⟨first.bounded, fun few => ?_, .inl ⟨rfl, ?_⟩⟩
    · rcases first.workers with ⟨-, same⟩ | ⟨-, set⟩
      · rw [same]
        exact few.resolve_right (absurd rfl)
      · exact set
    · rcases first.threshold with ⟨-, same⟩ | ⟨-, text, given, -⟩
      · exact same
      · cases given
  | options, arg :: next :: args, read => by
    obtain ⟨⟨after, consumed⟩, done, returned⟩ := bind_eq_ok read
    have first := OptionRead.of_readOption done
    cases consumed with
    | true => exact .pair first (of_readOptions returned)
    | false => exact .single first (of_readOptions returned)

end Read

/-- What the rest of the program can work with. No entropy passes 8, so a threshold that 8 does not
    reach would never be reached. -/
structure Options.Usable (args : List String) (options : Options) : Prop where
  queueCapacity : 1 ≤ options.queueCapacity ∧ options.queueCapacity ≤ 2 ^ 24
  batchSize : 1 ≤ options.batchSize ∧ options.batchSize ≤ 2 ^ 20
  numWorkers : valuesOf "-w" args ≠ [] → options.numWorkers ≤ 1024
  lingerUs : 0 ≤ options.lingerUs ∧ options.lingerUs ≤ 10 ^ 6
  maxPackets : 0 ≤ options.maxPackets.toInt ∧ options.maxPackets.toInt ≤ 2147483647
  entropyThreshold : ∃ bits : ℚ, options.entropyThreshold = .ofRat bits ∧ 0 ≤ bits ∧ bits ≤ 8
  reached : (Double.ofRat 8).atLeast options.entropyThreshold

section Thresholds

variable {round : ℚ → WithBot (WithTop ℚ)} {text : String} {threshold : Double}

theorem parseThreshold_accepted (parsed : parseThreshold round text = .ok threshold) :
    strtod round text.toList = ⟨threshold, []⟩ ∧ threshold.less (.ofRat 0) = false ∧
      (Double.ofRat 8).less threshold = false := by
  unfold parseThreshold at parsed
  dsimp only at parsed
  split at parsed
  · cases parsed
  · rename_i accepted
    obtain rfl := Except.ok.inj parsed
    simp only [not_or, not_not, Bool.not_eq_true] at accepted
    refine ⟨?_, accepted.2.2.1, accepted.2.2.2⟩
    rw [← accepted.2.1]

theorem parseThreshold_nan_iff (parsed : parseThreshold round text = .ok threshold) :
    threshold = .nan ↔ SpellsNan text.toList := by
  have converted := (parseThreshold_accepted parsed).1
  rw [← strtod_eq_nan_iff round, converted]
  simp

end Thresholds

section Startup

variable {round : ℚ → WithBot (WithTop ℚ)} {cores : Nat} {argv0 : String} {args : List String}
  {options : Options}

theorem initial_bounded (cores : Nat) : (Options.initial cores).Bounded := by
  constructor <;> simp [Options.initial]

theorem startup_accepted (accepted : startup round cores argv0 args = .opens options) :
    readOptions round argv0 (.initial cores) args = .ok options ∧
      options.queueCapacity ≠ 0 ∧ options.batchSize ≠ 0 := by
  unfold startup at accepted
  split at accepted
  · cases accepted
  · rename_i final read
    split at accepted
    · cases accepted
    · split at accepted
      · cases accepted
      · split at accepted
        · cases accepted
        · rename_i positive
          cases accepted
          exact ⟨read, not_or.mp positive⟩

/-- Options that pass all checks are in range and the entropy rule can fire, exactly if the last
    value of `-e` is not a NaN: `nan` is neither below 0 nor above 8. -/
theorem accepted_options_are_usable_iff
    (accepted : startup round cores argv0 args = .opens options) :
    options.Usable args ↔
      ∀ text, (valuesOf "-e" args).getLast? = some text → ¬ SpellsNan text.toList := by
  obtain ⟨read, capacity, size⟩ := startup_accepted accepted
  have run := OptionsRead.of_readOptions read
  have bounded := run.bounded (initial_bounded cores)
  constructor
  · intro usable text last spelled
    rcases run.threshold with ⟨none, -⟩ | ⟨given, lastGiven, parsed⟩
    · rw [none] at last
      cases last
    · obtain rfl := Option.some.inj (last.symm.trans lastGiven)
      have reached := usable.reached
      rw [(parseThreshold_nan_iff parsed).mpr spelled, atLeast_nan] at reached
      cases reached
  · intro numbers
    have inRange : ∃ bits : ℚ, options.entropyThreshold = .ofRat bits ∧ 0 ≤ bits ∧ bits ≤ 8 := by
      rcases run.threshold with ⟨-, same⟩ | ⟨text, last, parsed⟩
      · exact ⟨7, same, by norm_num, by norm_num⟩
      · obtain ⟨-, notBelow, notAbove⟩ := parseThreshold_accepted parsed
        refine rat_of_not_less notBelow notAbove fun nan => ?_
        exact numbers text last ((parseThreshold_nan_iff parsed).mp nan)
    refine ⟨⟨Nat.pos_of_ne_zero capacity, bounded.queueCapacity⟩,
      ⟨Nat.pos_of_ne_zero size, bounded.batchSize⟩, fun given => run.workers (.inr given),
      bounded.lingerUs, ?_, inRange, ?_⟩
    · have most := options.maxPackets.toInt_lt
      exact ⟨Int32.le_iff_toInt_le.mp bounded.maxPackets, by omega⟩
    · obtain ⟨bits, threshold, -, most⟩ := inRange
      rw [threshold]
      exact atLeast_ofRat.mpr most

def unrounded (value : ℚ) : WithBot (WithTop ℚ) := (value : WithTop ℚ)

theorem plain_replay_is_usable : ∃ options,
    startup unrounded 8 "netsentinel" ["-r", "f.pcap", "-q", "16"] = .opens options ∧
      options.queueCapacity = 16 ∧ options.Usable ["-r", "f.pcap", "-q", "16"] := by
  have accepted : startup unrounded 8 "netsentinel" ["-r", "f.pcap", "-q", "16"] = .opens
      { pcapFile := "f.pcap", queueCapacity := 16, numWorkers := 7 } := rfl
  refine ⟨_, accepted, rfl, (accepted_options_are_usable_iff accepted).mpr fun text last => ?_⟩
  cases last

/-- `-e nan` is accepted, and then no entropy is high. -/
theorem nan_threshold_is_accepted : ∃ options,
    startup unrounded 8 "netsentinel" ["-r", "f.pcap", "-e", "nan"] = .opens options ∧
      (∀ entropy : Double, entropy.atLeast options.entropyThreshold = false) ∧
        ¬ options.Usable ["-r", "f.pcap", "-e", "nan"] := by
  have accepted : startup unrounded 8 "netsentinel" ["-r", "f.pcap", "-e", "nan"] = .opens
      { pcapFile := "f.pcap", entropyThreshold := .nan, numWorkers := 7 } := rfl
  refine ⟨_, accepted, atLeast_nan, fun usable => ?_⟩
  exact absurd usable.reached (by decide)

end Startup

end NetSentinel
