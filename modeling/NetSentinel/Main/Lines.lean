import NetSentinel.Analysis.RuleAlerts
import NetSentinel.Main.AlertText
import NetSentinel.Main.Summary

namespace NetSentinel

open DelimitedText

section Details

theorem signedText_plain (value : Int) : Plain (signedText value) := by
  unfold signedText
  split
  · intro c member
    rcases List.mem_cons.mp member with rfl | digit
    · decide
    · exact unsignedText_plain _ c digit
  · exact unsignedText_plain _

theorem signedText_short {value : Int} (word : value.natAbs < 10 ^ 19) :
    (signedText value).length ≤ 20 := by
  have digits : (unsignedText value.natAbs).length ≤ 19 :=
    (Nat.length_toDigits_le_iff (by decide) (by decide)).mpr word
  unfold signedText
  split
  · exact Nat.succ_le_succ digits
  · exact digits.trans (by decide)

theorem toList_toString (value : Int) : (toString value).toList = signedText value := by
  cases value with
  | ofNat n =>
    rw [signedText, if_neg (by simp)]
    exact Nat.toList_repr
  | negSucc n =>
    rw [signedText, if_pos (Int.negSucc_lt_zero n)]
    change ("-" ++ (n + 1).repr).toList = _
    rw [String.toList_append, Nat.toList_repr]
    rfl

variable {R : Type} [Arithmetic R] {config : AnalysisConfig R} {alert : Alert}

theorem printable_of_count {count : Nat} {window : Int} {text : List Char} {digits : Nat}
    (below : count < 10 ^ digits) (some : 0 < digits) (word : window.natAbs < 10 ^ 19)
    (plain : Plain text) (short : digits + text.length ≤ 73)
    (detail : alert.detail.toList = unsignedText count ++ (text ++ (signedText window ++ ['m', 's']))) :
    alert.Printable := by
  have counted : (unsignedText count).length ≤ digits :=
    (Nat.length_toDigits_le_iff (by decide) some).mpr below
  have windowed := signedText_short word
  have unit : Plain ['m', 's'] := by decide
  constructor
  · rw [detail]
    exact (unsignedText_plain count).append (plain.append ((signedText_plain window).append unit))
  · rw [detail]
    simp only [List.length_append, List.length_cons, List.length_nil]
    omega

theorem counted_detail (count : Nat) (text : String) (window : Int) :
    (toString count ++ text ++ toString window ++ "ms").toList =
      unsignedText count ++ (text.toList ++ (signedText window ++ ['m', 's'])) := by
  have counted : (toString count).toList = unsignedText count := Nat.toList_repr
  have unit : "ms".toList = ['m', 's'] := by decide
  rw [String.toList_append, String.toList_append, String.toList_append, counted, toList_toString,
    unit, List.append_assoc, List.append_assoc]

theorem entropy_detail (decimals : String) (bytes : Nat) :
    ("entropy=" ++ decimals ++ " bits/byte over " ++ toString bytes ++ "B").toList =
      "entropy=".toList ++ (decimals.toList ++ (" bits/byte over ".toList ++
        (unsignedText bytes ++ "B".toList))) := by
  have counted : (toString bytes).toList = unsignedText bytes := Nat.toList_repr
  rw [String.toList_append, String.toList_append, String.toList_append, String.toList_append,
    counted, List.append_assoc, List.append_assoc, List.append_assoc]

theorem RuleAlert.printable (decimals : ∀ x : R, Plain (Arithmetic.twoDecimals x).toList)
    (scanWindow : config.flow.portScanWindowMs.natAbs ≤ 2 ^ 63)
    (floodWindow : config.flow.synFloodWindowMs.natAbs ≤ 2 ^ 63) (rule : RuleAlert config alert) :
    alert.Printable := by
  have word {window : Int} (fits : window.natAbs ≤ 2 ^ 63) : window.natAbs < 10 ^ 19 :=
    fits.trans_lt (by decide)
  cases rule with
  | signature packet =>
    have plain : Plain "payload matches a known-bad signature hash".toList := by decide
    have short : "payload matches a known-bad signature hash".toList.length ≤ 95 := by decide
    exact ⟨plain, short⟩
  | entropy packet entropy =>
    have detail : (entropyAlert packet entropy).detail.toList =
        ("entropy=" ++ Arithmetic.twoDecimals entropy ++ " bits/byte over " ++
          toString packet.payload.length ++ "B").toList.take 95 := String.toList_ofList
    have front : Plain "entropy=".toList := by decide
    have middle : Plain " bits/byte over ".toList := by decide
    have unit : Plain "B".toList := by decide
    rw [entropy_detail] at detail
    constructor
    · rw [detail]
      exact (front.append ((decimals entropy).append (middle.append
        ((unsignedText_plain _).append unit)))).take 95
    · rw [detail]
      exact List.length_take_le _ _
  | portScan packet distinctPorts few =>
    have below : distinctPorts < 10 ^ 5 := few.trans_lt (by decide)
    exact printable_of_count below (by decide) (word scanWindow) (by decide) (by decide)
      (counted_detail distinctPorts " distinct ports in " _)
  | synFlood packet pending few =>
    have below : pending < 10 ^ 29 := few.trans_lt (by decide)
    exact printable_of_count below (by decide) (word floodWindow) (by decide) (by decide)
      (counted_detail pending " pending SYNs in " _)

end Details

section Packets

theorem mem_of_takeBytes {room : Nat} {text : List Char} {c : Char}
    (member : c ∈ takeBytes room text) : c ∈ text := by
  induction text generalizing room with
  | nil => cases room <;> cases member
  | cons first text ih =>
    unfold takeBytes at member
    split at member
    · rcases List.mem_cons.mp member with rfl | later
      · exact List.mem_cons_self
      · exact List.mem_cons_of_mem first (ih later)
    · cases member

theorem Plain.snprintf {text : List Char} (plain : Plain text) (size : Nat) :
    Plain (snprintf size text) := fun c member => plain c (mem_of_takeBytes member)

theorem Plain.leftpad {text : List Char} (plain : Plain text) (width : Nat) :
    Plain (text.leftpad width '0') := by
  intro c member
  rcases List.mem_append.mp member with zero | own
  · rw [List.eq_of_mem_replicate zero]
    decide
  · exact plain c own

end Packets

section Alerts

variable {alert : Alert}

end Alerts

namespace Program

variable {ω σ R : Type} [DecidableEq ω] [Arithmetic R] {hash : UInt32 → Nat}
  {config : ProgramConfig σ R} {program : Program ω σ R}

theorem raised_printable (decimals : ∀ x : R, Plain (Arithmetic.twoDecimals x).toList)
    (scanWindow : config.analysis.flow.portScanWindowMs.natAbs ≤ 2 ^ 63)
    (floodWindow : config.analysis.flow.synFloodWindowMs.natAbs ≤ 2 ^ 63)
    (reachable : (system ω hash config).Reachable program) :
    ∀ alert ∈ program.output.raised, alert.Printable := by
  intro alert raised
  rw [raised_is_sunk reachable] at raised
  have byRules := AnalysisWorkers.ByRules.of_reachable (analysis_reachable reachable)
  exact (byRules.sunk alert raised).printable decimals scanWindow floodWindow

/-- No alert that is raised is cut off when it is printed, and two of them have the same line only
    if they tell the same. -/
theorem alert_lines_have_one_reading (decimals : ∀ x : R, Plain (Arithmetic.twoDecimals x).toList)
    (scanWindow : config.analysis.flow.portScanWindowMs.natAbs ≤ 2 ^ 63)
    (floodWindow : config.analysis.flow.synFloodWindowMs.natAbs ≤ 2 ^ 63)
    (reachable : (system ω hash config).Reachable program) :
    ∀ alert ∈ program.output.raised, formatAlert alert = alertText alert ∧
      ∀ other ∈ program.output.raised, formatAlert alert = formatAlert other →
        alert.SameLine other := by
  have printable := raised_printable decimals scanWindow floodWindow reachable
  intro alert raised
  refine ⟨(printable alert raised).whole, fun other alsoRaised same => alertText_read ?_⟩
  rw [← (printable alert raised).whole, ← (printable other alsoRaised).whole]
  exact same

section Real

theorem realTwoDecimals_plain (x : ℝ) : Plain (realTwoDecimals x).toList := by
  have number (n : Nat) : Plain (toString n).toList := by
    rw [show (toString n).toList = unsignedText n from Nat.toList_repr]
    exact unsignedText_plain n
  have sign : Plain (if x < 0 then "-" else "").toList := by
    split <;> decide
  have point : Plain ".".toList := by decide
  have zero : Plain "0".toList := by decide
  change Plain (_ ++ _ ++ "." ++ ite _ _ _ : String).toList
  rw [String.toList_append, String.toList_append, String.toList_append]
  refine ((sign.append (number _)).append point).append ?_
  split
  · rw [String.toList_append]
    exact zero.append (number _)
  · exact number _

/-- Two alerts with ports that differ in nothing but the source. -/
theorem eicar_alerts_have_one_reading : ∃ program : Program (Fin 2) Unit ℝ,
    (system (Fin 2) UInt32.toNat eicarConfig).Reachable program ∧
    ∃ first ∈ program.output.raised, ∃ second ∈ program.output.raised,
      first = signatureAlert (eicarPacket 0x0A000001) ∧
      second = signatureAlert (eicarPacket 0x0A000003) ∧ first.srcPort = 40000 ∧
      formatAlert first = alertText first ∧ formatAlert second = alertText second ∧
      formatAlert first ≠ formatAlert second := by
  obtain ⟨program, reachable, finished, frames⟩ :=
    eicar_finishes (Fin 2) UInt32.toNat eicarConfig rfl
  have raised := eicar_raised cpuEntropyBackend_failsOrAgrees rfl reachable finished frames
  have first := raised 0x0A000001 (by decide)
  have second := raised 0x0A000003 (by decide)
  have readings := alert_lines_have_one_reading realTwoDecimals_plain (by decide) (by decide)
    reachable
  obtain ⟨whole, unique⟩ := readings _ first
  refine ⟨program, reachable, _, first, _, second, rfl, rfl, rfl, whole, (readings _ second).1, ?_⟩
  intro same
  have sources : (0x0A000001 : UInt32) = 0x0A000003 := (unique _ second same).srcIp
  exact absurd sources (by decide)

end Real

end Program

end NetSentinel
