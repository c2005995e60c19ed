import Mathlib.Algebra.Field.Rat
import Mathlib.Data.List.TakeWhile
import Mathlib.Order.WithBot

/-! The conversions `strtoll` and `strtod` of the C library in the "C" locale, on strings without
their terminator. What the end pointer points to is the `rest`; it is the whole text when nothing
could be converted. -/

namespace Strto

def isSpace (c : Char) : Bool := c.toNat == 32 || (9 ≤ c.toNat && c.toNat ≤ 13)

def readSign : List Char → Bool × List Char
  | '-' :: text => (true, text)
  | '+' :: text => (false, text)
  | text => (false, text)

def isHexDigit (c : Char) : Bool := c.isDigit || ('a' ≤ c.toLower && c.toLower ≤ 'f')

def digitValue (c : Char) : Nat := if c.isDigit then c.toNat - 48 else c.toLower.toNat - 87

def number (base : Nat) (digits : List Char) : Nat :=
  digits.foldl (fun value digit => base * value + digitValue digit) 0

section Integers

/-- `erange` says whether `errno` has been set to `ERANGE`. -/
structure LongLong where
  value : Int
  rest : List Char
  erange : Bool := false

def longLongMin : Int := -2 ^ 63
def longLongMax : Int := 2 ^ 63 - 1

def strtoll (text : List Char) : LongLong :=
  let (negative, body) := readSign (text.dropWhile isSpace)
  let digits := body.takeWhile Char.isDigit
  let rest := body.dropWhile Char.isDigit
  let value : Int := if negative then -number 10 digits else number 10 digits
  if digits = [] then ⟨0, text, false⟩
  else if value < longLongMin then ⟨longLongMin, rest, true⟩
  else if longLongMax < value then ⟨longLongMax, rest, true⟩
  else ⟨value, rest, false⟩

end Integers

/-- A `double`, the two zeros taken as one. -/
inductive Double where
  | nan
  | number (value : WithBot (WithTop ℚ))

def Double.ofRat (value : ℚ) : Double := .number ((value : WithTop ℚ) : WithBot (WithTop ℚ))

/-- `a < b`, which is false when one of the two is a NaN. -/
def Double.less : Double → Double → Bool
  | .number a, .number b => decide (a < b)
  | _, _ => false

def Double.atLeast : Double → Double → Bool
  | .number a, .number b => decide (b ≤ a)
  | _, _ => false

theorem ofRat_le_iff {a b : ℚ} :
    ((a : WithTop ℚ) : WithBot (WithTop ℚ)) ≤ ((b : WithTop ℚ) : WithBot (WithTop ℚ)) ↔ a ≤ b := by
  rw [WithBot.coe_le_coe, WithTop.coe_le_coe]

theorem atLeast_ofRat {a b : ℚ} : (Double.ofRat a).atLeast (.ofRat b) ↔ b ≤ a := by
  rw [← ofRat_le_iff]
  exact decide_eq_true_iff

theorem atLeast_nan (value : Double) : value.atLeast .nan = false := by
  cases value <;> rfl

theorem rat_of_not_less {value : Double} {low high : ℚ}
    (notBelow : value.less (.ofRat low) = false) (notAbove : (Double.ofRat high).less value = false)
    (number : value ≠ .nan) : ∃ rat, value = .ofRat rat ∧ low ≤ rat ∧ rat ≤ high := by
  cases value with
  | nan => exact absurd rfl number
  | number value =>
    have least := not_lt.mp (of_decide_eq_false notBelow)
    have most := not_lt.mp (of_decide_eq_false notAbove)
    cases value with
    | bot => exact absurd (le_bot_iff.mp least) WithBot.coe_ne_bot
    | coe value =>
      cases value with
      | top =>
        rw [WithBot.coe_le_coe] at most
        exact absurd (top_le_iff.mp most) WithTop.coe_ne_top
      | coe rat => exact ⟨rat, rfl, ofRat_le_iff.mp least, ofRat_le_iff.mp most⟩

section Reals

structure Converted where
  value : Double
  rest : List Char

def stripWord : List Char → List Char → Option (List Char)
  | [], text => some text
  | _ :: _, [] => none
  | letter :: word, c :: text => if c.toLower = letter then stripWord word text else none

def isNChar (c : Char) : Bool := c.isAlphanum || c == '_'

def skipNChars (text : List Char) : List Char :=
  match text with
  | '(' :: more =>
    match more.dropWhile isNChar with
    | ')' :: rest => rest
    | _ => text
  | _ => text

def readExponent (mark : Char) (text : List Char) : ℤ × List Char :=
  match text with
  | [] => (0, [])
  | c :: more =>
    let (negative, body) := readSign more
    let digits := body.takeWhile Char.isDigit
    if c.toLower = mark ∧ digits ≠ [] then
      (if negative then -number 10 digits else number 10 digits, body.dropWhile Char.isDigit)
    else (0, text)

def readFloat (base exponentBase : Nat) (isDigit : Char → Bool) (mark : Char) (text : List Char) :
    Option (ℚ × List Char) :=
  let whole := text.takeWhile isDigit
  let (fraction, afterFraction) :=
    match text.dropWhile isDigit with
    | '.' :: more => (more.takeWhile isDigit, more.dropWhile isDigit)
    | more => ([], more)
  if whole = [] ∧ fraction = [] then none
  else
    let (exponent, rest) := readExponent mark afterFraction
    some (number base (whole ++ fraction) * (base : ℚ) ^ (-(fraction.length : ℤ)) *
      (exponentBase : ℚ) ^ exponent, rest)

def readHexFloat : List Char → Option (ℚ × List Char)
  | '0' :: c :: text => if c.toLower = 'x' then readFloat 16 2 isHexDigit 'p' text else none
  | _ => none

/-- `round` takes an exact value to the `double` that stands for it, an infinity if it is too
    large. -/
def strtod (round : ℚ → WithBot (WithTop ℚ)) (text : List Char) : Converted :=
  let (negative, body) := readSign (text.dropWhile isSpace)
  let infinite : Double := if negative then .number ⊥ else .number ⊤
  match stripWord "infinity".toList body with
  | some rest => ⟨infinite, rest⟩
  | none =>
    match stripWord "inf".toList body with
    | some rest => ⟨infinite, rest⟩
    | none =>
      match stripWord "nan".toList body with
      | some rest => ⟨.nan, skipNChars rest⟩
      | none =>
        match readHexFloat body <|> readFloat 10 10 Char.isDigit 'e' body with
        | some (value, rest) => ⟨.number (round (if negative then -value else value)), rest⟩
        | none => ⟨.ofRat 0, text⟩

end Reals

section Words

variable {word text rest : List Char}

theorem stripWord_eq_some_iff : stripWord word text = some rest ↔
    ∃ front, text = front ++ rest ∧ front.map Char.toLower = word := by
  induction word generalizing text with
  | nil =>
    constructor
    · intro stripped
      exact ⟨[], Option.some.inj stripped, rfl⟩
    · rintro ⟨front, rfl, none⟩
      rw [List.map_eq_nil_iff.mp none]
      rfl
  | cons letter word ih =>
    cases text with
    | nil =>
      constructor
      · exact (nomatch ·)
      · rintro ⟨front, empty, letters⟩
        rw [(List.append_eq_nil_iff.mp empty.symm).1] at letters
        cases letters
    | cons c text =>
      rw [stripWord]
      constructor
      · intro stripped
        split at stripped
        · rename_i same
          obtain ⟨front, rfl, letters⟩ := ih.mp stripped
          exact ⟨c :: front, rfl, by rw [List.map_cons, same, letters]⟩
        · cases stripped
      · rintro ⟨front, whole, letters⟩
        cases front with
        | nil => cases letters
        | cons first front =>
          obtain ⟨rfl, rfl⟩ := List.cons.inj whole
          obtain ⟨same, letters⟩ := List.cons.inj letters
          rw [if_pos same]
          exact ih.mpr ⟨front, rfl, letters⟩

theorem skipNChars_eq_nil_iff : skipNChars text = [] ↔
    text = [] ∨ ∃ chars, text = '(' :: chars ++ [')'] ∧ ∀ c ∈ chars, isNChar c := by
  constructor
  · intro skipped
    unfold skipNChars at skipped
    split at skipped
    · rename_i more
      split at skipped
      · rename_i rest closing
        have whole := List.takeWhile_append_dropWhile (p := isNChar) (l := more)
        rw [closing, skipped] at whole
        refine .inr ⟨more.takeWhile isNChar, ?_, fun c member => List.mem_takeWhile_imp member⟩
        exact congrArg ('(' :: ·) whole.symm
      · cases skipped
    · exact .inl skipped
  · rintro (rfl | ⟨chars, rfl, inside⟩)
    · rfl
    · have closing : (chars ++ [')']).dropWhile isNChar = [')'] :=
        List.dropWhile_append_of_pos inside
      unfold skipNChars
      rw [List.cons_append]
      simp only [closing]

end Words

section NotANumber

/-- What the C library reads as a NaN: white space, a sign, `nan` in letters of either case and a
    parenthesis of letters, digits and underscores. Only the word has to be there. -/
def SpellsNan (text : List Char) : Prop :=
  ∃ space sign word tail, text = space ++ (sign ++ (word ++ tail)) ∧
    (∀ c ∈ space, isSpace c) ∧ (sign = [] ∨ sign = ['+'] ∨ sign = ['-']) ∧
    word.map Char.toLower = "nan".toList ∧
    (tail = [] ∨ ∃ chars, tail = '(' :: chars ++ [')'] ∧ ∀ c ∈ chars, isNChar c)

def subject (text : List Char) : List Char := (readSign (text.dropWhile isSpace)).2

variable {round : ℚ → WithBot (WithTop ℚ)} {text rest : List Char}

theorem readSign_split (text : List Char) :
    ∃ sign, text = sign ++ (readSign text).2 ∧ (sign = [] ∨ sign = ['+'] ∨ sign = ['-']) := by
  unfold readSign
  split
  · exact ⟨['-'], rfl, .inr (.inr rfl)⟩
  · exact ⟨['+'], rfl, .inr (.inl rfl)⟩
  · exact ⟨[], rfl, .inl rfl⟩

theorem stripWord_ne {letter other : Char} {word front : List Char} (apart : letter ≠ other)
    (letters : front.map Char.toLower = other :: word) (more : List Char) :
    stripWord (letter :: more) (front ++ rest) = none := by
  cases front with
  | nil => cases letters
  | cons c front =>
    have first : c.toLower = other := (List.cons.inj letters).1
    rw [List.cons_append, stripWord, if_neg]
    rw [first]
    exact apart.symm

theorem strtod_of_nan (spelled : stripWord "nan".toList (subject text) = some rest) :
    strtod round text = ⟨.nan, skipNChars rest⟩ := by
  obtain ⟨front, whole, letters⟩ := stripWord_eq_some_iff.mp spelled
  have noInfinity : stripWord "infinity".toList (subject text) = none := by
    rw [whole]
    exact stripWord_ne (by decide) letters _
  have noInf : stripWord "inf".toList (subject text) = none := by
    rw [whole]
    exact stripWord_ne (by decide) letters _
  unfold subject at spelled noInfinity noInf
  simp only [strtod, noInfinity, noInf, spelled]

theorem nan_of_strtod (nan : (strtod round text).value = .nan) :
    ∃ rest, stripWord "nan".toList (subject text) = some rest := by
  rw [← Option.isSome_iff_exists]
  by_contra none
  rw [Option.not_isSome_iff_eq_none] at none
  unfold subject at none
  unfold strtod at nan
  simp only [none] at nan
  split at nan
  · split at nan <;> cases nan
  · split at nan
    · split at nan <;> cases nan
    · split at nan <;> cases nan

theorem eq_of_toLower {c : Char} (lower : c.toLower = 'n') : c = 'n' ∨ c = 'N' := by
  unfold Char.toLower at lower
  split at lower
  · have shifted : c.val + 32 = 110 := congrArg Char.val lower
    have value : c.val = 78 := by
      rw [← UInt32.add_left_inj 32, shifted]
      rfl
    exact .inr (Char.ext value)
  · exact .inl lower

theorem subject_of_spelled {space sign word tail : List Char} (spaces : ∀ c ∈ space, isSpace c)
    (signs : sign = [] ∨ sign = ['+'] ∨ sign = ['-'])
    (letters : word.map Char.toLower = "nan".toList) :
    subject (space ++ (sign ++ (word ++ tail))) = word ++ tail := by
  cases word with
  | nil => cases letters
  | cons first word =>
    rw [subject, List.dropWhile_append_of_pos spaces]
    rcases eq_of_toLower (List.cons.inj letters).1 with rfl | rfl
    · rcases signs with rfl | rfl | rfl <;> rfl
    · rcases signs with rfl | rfl | rfl <;> rfl

theorem strtod_eq_nan_iff (round : ℚ → WithBot (WithTop ℚ)) :
    strtod round text = ⟨.nan, []⟩ ↔ SpellsNan text := by
  constructor
  · intro converted
    have value : (strtod round text).value = .nan := by rw [converted]
    obtain ⟨rest, spelled⟩ := nan_of_strtod value
    rw [strtod_of_nan spelled] at converted
    obtain ⟨word, whole, letters⟩ := stripWord_eq_some_iff.mp spelled
    obtain ⟨sign, signed, signs⟩ := readSign_split (text.dropWhile isSpace)
    have tail := skipNChars_eq_nil_iff.mp (congrArg Converted.rest converted)
    refine ⟨text.takeWhile isSpace, sign, word, rest, ?_,
      fun c member => List.mem_takeWhile_imp member, signs, letters, tail⟩
    rw [← whole, subject, ← signed, List.takeWhile_append_dropWhile]
  · rintro ⟨space, sign, word, tail, rfl, spaces, signs, letters, ending⟩
    have spelled : stripWord "nan".toList (subject (space ++ (sign ++ (word ++ tail)))) =
        some tail := by
      rw [subject_of_spelled spaces signs letters]
      exact stripWord_eq_some_iff.mpr ⟨word, rfl, letters⟩
    rw [strtod_of_nan spelled, skipNChars_eq_nil_iff.mpr ending]

end NotANumber

end Strto
