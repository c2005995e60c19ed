import NetSentinel.Library.DelimitedText
import NetSentinel.Main.Text

namespace NetSentinel

open DelimitedText

section Bytes

def textBytes : List Char → Nat
  | [] => 0
  | c :: text => c.utf8Size + textBytes text

@[simp] theorem textBytes_append (text more : List Char) :
    textBytes (text ++ more) = textBytes text + textBytes more := by
  induction text with
  | nil => exact (Nat.zero_add _).symm
  | cons c text ih => rw [List.cons_append, textBytes, textBytes, ih, Nat.add_assoc]

theorem takeBytes_of_fits {room : Nat} {text : List Char} (fits : textBytes text ≤ room) :
    takeBytes room text = text := by
  induction text generalizing room with
  | nil => cases room <;> rfl
  | cons c text ih =>
    have parts : c.utf8Size + textBytes text ≤ room := fits
    rw [takeBytes, if_pos (by omega), ih (by omega)]

theorem snprintf_of_fits {size : Nat} {text : List Char} (fits : textBytes text < size) :
    snprintf size text = text := takeBytes_of_fits (Nat.le_sub_one_of_lt fits)

def Plain (text : List Char) : Prop := ∀ c ∈ text, c.utf8Size = 1 ∧ c ≠ '\n'

theorem Plain.append {text more : List Char} (plain : Plain text) (also : Plain more) :
    Plain (text ++ more) := by
  intro c member
  rcases List.mem_append.mp member with here | there
  · exact plain c here
  · exact also c there

theorem Plain.take {text : List Char} (plain : Plain text) (count : Nat) :
    Plain (text.take count) := fun c member => plain c (List.mem_of_mem_take member)

theorem Plain.bytes {text : List Char} (plain : Plain text) : textBytes text = text.length := by
  induction text with
  | nil => rfl
  | cons c text ih =>
    rw [textBytes, (plain c List.mem_cons_self).1, ih fun d later => plain d (List.mem_cons_of_mem c later),
      List.length_cons, Nat.add_comm]

instance (text : List Char) : Decidable (Plain text) := List.decidableBAll _ text

theorem digit_plain {c : Char} (digit : c.isDigit) : c.utf8Size = 1 ∧ c ≠ '\n' := by
  obtain ⟨low, high⟩ := Char.isDigit_iff_toNat.mp digit
  constructor
  · rw [Char.utf8Size_eq_one_iff, UInt32.le_iff_toNat_le]
    exact high.trans (by decide)
  · rintro rfl
    exact absurd low (by decide)

end Bytes

section Numbers

theorem unsignedText_digits (value : Nat) : ∀ c ∈ unsignedText value, c.isDigit :=
  fun _ member => Nat.isDigit_of_mem_toDigits (by decide) (by decide) member

theorem unsignedText_plain (value : Nat) : Plain (unsignedText value) :=
  fun c member => digit_plain (unsignedText_digits value c member)

theorem unsignedText_inj {value other : Nat} (same : unsignedText value = unsignedText other) :
    value = other := by
  rw [← Nat.ofDigitChars_ten_toDigits (n := value), ← Nat.ofDigitChars_ten_toDigits (n := other)]
  exact congrArg (Nat.ofDigitChars 10 · 0) same

theorem unsignedText_bytes {value digits : Nat} (some : 0 < digits) (below : value < 10 ^ digits) :
    textBytes (unsignedText value) ≤ digits := by
  rw [(unsignedText_plain value).bytes]
  exact (Nat.length_toDigits_le_iff (by decide) some).mpr below

end Numbers

section Addresses

def ipOctet (hostOrderIp shift : UInt32) : Nat := ((hostOrderIp >>> shift) &&& 0xFF).toNat

theorem ipOctet_eq (ip shift : UInt32) :
    ipOctet ip shift = ip.toNat / 2 ^ (shift.toNat % 32) % 256 := by
  rw [ipOctet, UInt32.toNat_and, UInt32.toNat_shiftRight, Nat.shiftRight_eq_div_pow]
  exact Nat.and_two_pow_sub_one_eq_mod _ 8

theorem ip_of_octets {ip other : UInt32} (first : ipOctet ip 24 = ipOctet other 24)
    (second : ipOctet ip 16 = ipOctet other 16) (third : ipOctet ip 8 = ipOctet other 8)
    (fourth : ipOctet ip 0 = ipOctet other 0) : ip = other := by
  have below := ip.toNat_lt
  have otherBelow := other.toNat_lt
  simp only [ipOctet_eq, show (24 : UInt32).toNat = 24 from rfl,
    show (16 : UInt32).toNat = 16 from rfl, show (8 : UInt32).toNat = 8 from rfl,
    show (0 : UInt32).toNat = 0 from rfl, Nat.reduceMod, Nat.reducePow] at first second third fourth
  apply UInt32.toNat_inj.mp
  omega

/-- The address in digits and dots, with nothing cut off. -/
def dotted (ip : UInt32) : List Char :=
  unsignedText (ipOctet ip 24) ++ '.' :: (unsignedText (ipOctet ip 16) ++
    '.' :: (unsignedText (ipOctet ip 8) ++ '.' :: unsignedText (ipOctet ip 0)))

theorem dotted_bytes (ip : UInt32) : textBytes (dotted ip) ≤ 15 := by
  have octet (shift : UInt32) : textBytes (unsignedText (ipOctet ip shift)) ≤ 3 := by
    refine unsignedText_bytes (by decide) ?_
    rw [ipOctet_eq]
    exact (Nat.mod_lt _ (by decide)).trans (by decide)
  have dot (text : List Char) : textBytes ('.' :: text) = textBytes text + 1 := Nat.add_comm _ _
  have first := octet 24
  have second := octet 16
  have third := octet 8
  have fourth := octet 0
  simp only [dotted, textBytes_append, dot]
  omega

theorem ipv4ToString_eq (ip : UInt32) : ipv4ToString ip = dotted ip := by
  have whole : ipv4ToString ip = snprintf 16 (dotted ip) := by
    rw [ipv4ToString, dotted]
    simp only [ipOctet, List.append_assoc]
    simp
  rw [whole]
  exact snprintf_of_fits (Nat.lt_succ_of_le (dotted_bytes ip))

theorem number_read {value other : Nat} {stop ending : Char} {rest more : List Char}
    (stops : ¬ stop.isDigit) (ends : ¬ ending.isDigit)
    (same : unsignedText value ++ stop :: rest = unsignedText other ++ ending :: more) :
    value = other ∧ stop = ending ∧ rest = more := by
  obtain ⟨digits, tails⟩ := append_inj_of_stop (unsignedText_digits value) (unsignedText_digits other)
    stops ends same
  exact ⟨unsignedText_inj digits, tails⟩

theorem dotted_read {ip other : UInt32} {stop ending : Char} {rest more : List Char}
    (stops : ¬ stop.isDigit) (ends : ¬ ending.isDigit)
    (same : dotted ip ++ stop :: rest = dotted other ++ ending :: more) :
    ip = other ∧ stop = ending ∧ rest = more := by
  have dot : ¬ '.'.isDigit := by decide
  simp only [dotted, List.append_assoc, List.cons_append] at same
  obtain ⟨first, -, same⟩ := number_read dot dot same
  obtain ⟨second, -, same⟩ := number_read dot dot same
  obtain ⟨third, -, same⟩ := number_read dot dot same
  obtain ⟨fourth, tails⟩ := number_read stops ends same
  exact ⟨ip_of_octets first second third fourth, tails⟩

end Addresses

section Lines

def alertHead (type : AnomalyType) : List Char :=
  "[ALERT] ".toList ++ (anomalyTypeToString type).rightpad 21 ' '

def portsText (alert : Alert) : List Char :=
  if alert.dstPort ≠ 0 ∨ alert.srcPort ≠ 0 then
    ':' :: (unsignedText alert.srcPort.toNat ++ " dst=".toList ++ dotted alert.dstIp ++
      ':' :: unsignedText alert.dstPort.toNat)
  else []

/-- What `format_alert` prints into its buffer. -/
def alertText (alert : Alert) : List Char :=
  alertHead alert.type ++ (" src=".toList ++ (dotted alert.srcIp ++
    (portsText alert ++ (" — ".toList ++ alert.detail.toList))))

theorem formatAlert_cuts (alert : Alert) : formatAlert alert = snprintf 256 (alertText alert) := by
  have colon (text : List Char) : ":".toList ++ text = ':' :: text := rfl
  refine congrArg (snprintf 256) ?_
  unfold alertText portsText alertHead
  by_cases ports : alert.dstPort ≠ 0 ∨ alert.srcPort ≠ 0
  · rw [if_pos ports, if_pos ports]
    simp only [ipv4ToString_eq, List.append_assoc, List.cons_append, colon]
  · rw [if_neg ports, if_neg ports]
    simp only [ipv4ToString_eq, List.append_assoc, List.nil_append]

/-- The details of the rules are printed into buffers of 96 bytes. -/
structure Alert.Printable (alert : Alert) : Prop where
  plain : Plain alert.detail.toList
  short : alert.detail.toList.length ≤ 95

theorem portsText_bytes (alert : Alert) : textBytes (portsText alert) ≤ 32 := by
  have port (value : UInt16) : textBytes (unsignedText value.toNat) ≤ 5 :=
    unsignedText_bytes (by decide) (value.toNat_lt.trans (by decide))
  have src := port alert.srcPort
  have dst := port alert.dstPort
  have ip := dotted_bytes alert.dstIp
  have colon (text : List Char) : textBytes (':' :: text) = textBytes text + 1 := Nat.add_comm _ _
  have five : textBytes " dst=".toList = 5 := by decide
  unfold portsText
  split
  · simp only [colon, textBytes_append, five]
    omega
  · exact Nat.zero_le _

theorem Alert.Printable.fits {alert : Alert} (printable : alert.Printable) :
    textBytes (alertText alert) < 256 := by
  have head : textBytes (alertHead alert.type) = 29 := by
    cases alert.type <;> decide
  have src : textBytes " src=".toList = 5 := by decide
  have dash : textBytes " — ".toList = 5 := by decide
  have ip := dotted_bytes alert.srcIp
  have ports := portsText_bytes alert
  have detail := printable.plain.bytes
  have short := printable.short
  simp only [alertText, textBytes_append, head, src, dash]
  omega

theorem Alert.Printable.whole {alert : Alert} (printable : alert.Printable) :
    formatAlert alert = alertText alert := by
  rw [formatAlert_cuts]
  exact snprintf_of_fits printable.fits

theorem alertHead_length (type : AnomalyType) : (alertHead type).length = 29 := by
  cases type <;> decide

theorem alertHead_inj {type other : AnomalyType} (same : alertHead type = alertHead other) :
    type = other := by
  cases type <;> cases other <;> first | rfl | exact absurd same (by decide)

/-- What an alert tells on its line. -/
structure Alert.SameLine (alert other : Alert) : Prop where
  type : alert.type = other.type
  srcIp : alert.srcIp = other.srcIp
  srcPort : alert.srcPort = other.srcPort
  dstPort : alert.dstPort = other.dstPort
  dstIp : alert.dstPort ≠ 0 ∨ alert.srcPort ≠ 0 → alert.dstIp = other.dstIp
  detail : alert.detail = other.detail

theorem portsText_read {alert other : Alert} {rest more : List Char}
    (same : dotted alert.srcIp ++ (portsText alert ++ (" — ".toList ++ rest)) =
      dotted other.srcIp ++ (portsText other ++ (" — ".toList ++ more))) :
    alert.srcIp = other.srcIp ∧ alert.srcPort = other.srcPort ∧ alert.dstPort = other.dstPort ∧
      (alert.dstPort ≠ 0 ∨ alert.srcPort ≠ 0 → alert.dstIp = other.dstIp) ∧ rest = more := by
  have colon : ¬ ':'.isDigit := by decide
  have space : ¬ ' '.isDigit := by decide
  have dash (text : List Char) : " — ".toList ++ text = ' ' :: ("— ".toList ++ text) := rfl
  have dst (text : List Char) : " dst=".toList ++ text = ' ' :: ("dst=".toList ++ text) := rfl
  by_cases ports : alert.dstPort ≠ 0 ∨ alert.srcPort ≠ 0
  · by_cases otherPorts : other.dstPort ≠ 0 ∨ other.srcPort ≠ 0
    · simp only [portsText, if_pos ports, if_pos otherPorts, List.cons_append, List.append_assoc,
        dst, dash] at same
      obtain ⟨srcIp, -, same⟩ := dotted_read colon colon same
      obtain ⟨srcPort, -, same⟩ := number_read space space same
      obtain ⟨dstIp, -, same⟩ := dotted_read colon colon (List.append_cancel_left same)
      obtain ⟨dstPort, -, same⟩ := number_read space space same
      exact ⟨srcIp, UInt16.toNat_inj.mp srcPort, UInt16.toNat_inj.mp dstPort, fun _ => dstIp,
        List.append_cancel_left same⟩
    · simp only [portsText, if_pos ports, if_neg otherPorts, List.cons_append, List.append_assoc,
        List.nil_append, dash] at same
      obtain ⟨-, stops, -⟩ := dotted_read colon space same
      exact absurd stops (by decide)
  · by_cases otherPorts : other.dstPort ≠ 0 ∨ other.srcPort ≠ 0
    · simp only [portsText, if_neg ports, if_pos otherPorts, List.cons_append, List.append_assoc,
        List.nil_append, dash] at same
      obtain ⟨-, stops, -⟩ := dotted_read space colon same
      exact absurd stops (by decide)
    · simp only [portsText, if_neg ports, if_neg otherPorts, List.nil_append, dash] at same
      obtain ⟨srcIp, -, same⟩ := dotted_read space space same
      rw [not_or, not_not, not_not] at ports otherPorts
      exact ⟨srcIp, ports.2.trans otherPorts.2.symm, ports.1.trans otherPorts.1.symm,
        fun some => absurd some (by simp [ports]), List.append_cancel_left same⟩

theorem alertText_read {alert other : Alert} (same : alertText alert = alertText other) :
    alert.SameLine other := by
  obtain ⟨head, same⟩ := List.append_inj same
    ((alertHead_length alert.type).trans (alertHead_length other.type).symm)
  obtain ⟨srcIp, srcPort, dstPort, dstIp, detail⟩ := portsText_read (List.append_cancel_left same)
  exact ⟨alertHead_inj head, srcIp, srcPort, dstPort, dstIp, String.toList_inj.mp detail⟩

end Lines

end NetSentinel
