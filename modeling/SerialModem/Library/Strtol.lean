import SerialModem.Library.Text
import Mathlib.Data.List.TakeWhile
import Mathlib.Tactic.Ring

/-!
# Numbers in C strings

`strtol` reads blanks, a sign and digits, and stops at the first character that
is none of them.  `Denotes` says which texts it reads whole in base ten, and
what for.  A number that is written with digits of a base is read back.
-/

namespace SerialModem.Library

open List

def nul : Char := Char.ofNat 0

def cString (memory : Text) : Text :=
  memory.takeWhile (· != nul)

def isSpace (character : Char) : Bool :=
  character == ' ' || (9 ≤ character.toNat && character.toNat ≤ 13)

def digitValue (character : Char) : Option Nat :=
  if character.isDigit then
    some (character.toNat - 48)
  else if character.isUpper then
    some (character.toNat - 55)
  else if character.isLower then
    some (character.toNat - 87)
  else
    none

def isDigitOf (base : Nat) (character : Char) : Bool :=
  (digitValue character).any (· < base)

def digitsValue (base : Nat) (digits : Text) : Nat :=
  digits.foldl (fun number digit => number * base + (digitValue digit).getD 0) 0

def readSign : Text → Bool × Text
  | '-' :: rest => (true, rest)
  | '+' :: rest => (false, rest)
  | text => (false, text)

def skipHexMark (base : Nat) : Text → Text
  | '0' :: mark :: digit :: rest =>
    if base = 16 ∧ (mark = 'x' ∨ mark = 'X') ∧ isDigitOf base digit then
      digit :: rest
    else
      '0' :: mark :: digit :: rest
  | text => text

/-- `LONG_MAX` and `LONG_MIN`, with 32 bits. -/
def longMax : Int := 2147483647

def longMin : Int := -2147483648

structure StrtolResult where
  value : Int
  /-- What starts at `*endptr`. -/
  rest : Text
  /-- `errno` is `ERANGE`. -/
  outOfRange : Bool
  deriving DecidableEq

def withSign (negative : Bool) (magnitude : Nat) : Int :=
  if negative then -(magnitude : Int) else magnitude

/-- `strtol`; there is no result when nothing is converted, that is, when
`*endptr` is the start. -/
def strtol (base : Nat) (text : Text) : Option StrtolResult :=
  let (negative, unsigned) := readSign (text.dropWhile isSpace)
  let number := skipHexMark base unsigned
  let digits := number.takeWhile (isDigitOf base)
  if digits = [] then
    none
  else
    let value := withSign negative (digitsValue base digits)
    some
      { value := max longMin (min longMax value)
        rest := number.dropWhile (isDigitOf base)
        outOfRange := decide (value < longMin ∨ longMax < value) }

variable {character : Char}

theorem isUpper_toNat (upper : character.isUpper) : 65 ≤ character.toNat ∧ character.toNat ≤ 90 :=
  of_decide_eq_true upper

theorem isLower_toNat (lower : character.isLower) : 97 ≤ character.toNat ∧ character.toNat ≤ 122 :=
  ((Bool.and_eq_true _ _).mp lower).imp of_decide_eq_true of_decide_eq_true

theorem isDigitOf_ten (character : Char) : isDigitOf 10 character = character.isDigit := by
  unfold isDigitOf digitValue
  by_cases digit : character.isDigit
  · have bounds := isDigit_toNat digit
    rw [if_pos digit, digit]
    exact decide_eq_true (by omega)
  · rw [if_neg digit, Bool.eq_false_of_not_eq_true digit]
    by_cases upper : character.isUpper
    · have bounds := isUpper_toNat upper
      rw [if_pos upper]
      exact decide_eq_false (by omega)
    · rw [if_neg upper]
      by_cases lower : character.isLower
      · have bounds := isLower_toNat lower
        rw [if_pos lower]
        exact decide_eq_false (by omega)
      · rw [if_neg lower]
        rfl

theorem digitsValue_append (base : Nat) (first second : Text) :
    digitsValue base (first ++ second) = digitsValue base first * base ^ second.length +
        digitsValue base second := by
  have shift : ∀ (digits : Text) (number : Nat), digits.foldl
          (fun number digit => number * base + (digitValue digit).getD 0)
          number =
        number * base ^ digits.length + digitsValue base digits := by
    intro digits
    induction digits with
    | nil => intro number; simp [digitsValue]
    | cons digit rest ih =>
      intro number
      rw [digitsValue, foldl_cons, foldl_cons, ih, ih (0 * base + _), length_cons, pow_succ]
      ring
  rw [digitsValue, foldl_append, shift]
  rfl

theorem digitsValue_singleton (base : Nat) (digit : Char) :
    digitsValue base [digit] = (digitValue digit).getD 0 := by
  simp [digitsValue]

theorem digitsValue_lt {base : Nat} {digits : Text}
    (areDigits : ∀ digit ∈ digits, isDigitOf base digit = true) :
    digitsValue base digits < base ^ digits.length := by
  induction digits with
  | nil => simp [digitsValue]
  | cons digit rest ih =>
    obtain ⟨isFirst, areRest⟩ := forall_mem_cons.mp areDigits
    have small : (digitValue digit).getD 0 < base := by
      unfold isDigitOf at isFirst
      cases value : digitValue digit with
      | none => rw [value] at isFirst; cases isFirst
      | some number =>
        rw [value] at isFirst
        exact of_decide_eq_true isFirst
    have later := ih areRest
    have split := digitsValue_append base [digit] rest
    rw [digitsValue_singleton] at split
    calc digitsValue base (digit :: rest)
        = (digitValue digit).getD 0 * base ^ rest.length + digitsValue base rest := split
      _ < ((digitValue digit).getD 0 + 1) * base ^ rest.length := by
          rw [Nat.add_one_mul]
          omega
      _ ≤ base * base ^ rest.length := Nat.mul_le_mul_right _ small
      _ = base ^ (digit :: rest).length := by
          rw [length_cons, pow_succ, Nat.mul_comm]

variable {base : Nat}

theorem digitsValue_eq_zero (positive : 0 < base) {digits : Text} :
    digitsValue base digits = 0 ↔ ∀ digit ∈ digits, (digitValue digit).getD 0 = 0 := by
  induction digits with
  | nil => simp [digitsValue]
  | cons digit rest ih =>
    have split := digitsValue_append base [digit] rest
    rw [singleton_append, digitsValue_singleton] at split
    rw [split, Nat.add_eq_zero_iff, ih, forall_mem_cons, Nat.mul_eq_zero,
      or_iff_left (Nat.pow_pos positive).ne']

def digitCharacter (digit : Nat) : Char :=
  Char.ofNat (if digit < 10 then 48 + digit else 55 + digit)

def fixedDigits (base : Nat) : (width number : Nat) → Text
  | 0, _ => []
  | width + 1, number =>
    fixedDigits base width (number / base) ++ [digitCharacter (number % base)]

theorem digitValue_digitCharacter :
    ∀ digit < 36, digitValue (digitCharacter digit) = some digit := by
  decide

theorem length_fixedDigits (base width number : Nat) :
    (fixedDigits base width number).length = width := by
  induction width generalizing number with
  | zero => rfl
  | succ width ih =>
    rw [fixedDigits, length_append, ih, length_singleton]

theorem isDigitOf_fixedDigits (positive : 0 < base) (small : base ≤ 36) {width number : Nat} :
    ∀ digit ∈ fixedDigits base width number, isDigitOf base digit = true := by
  induction width generalizing number with
  | zero => exact fun _ member => absurd member not_mem_nil
  | succ width ih =>
    intro digit member
    rcases mem_append.mp member with earlier | isLast
    · exact ih digit earlier
    · have below := Nat.mod_lt number positive
      rw [mem_singleton.mp isLast, isDigitOf, digitValue_digitCharacter _ (by omega)]
      exact decide_eq_true below

theorem digitsValue_fixedDigits (positive : 0 < base)
    (small : base ≤ 36) {width number : Nat} (fits : number < base ^ width) :
    digitsValue base (fixedDigits base width number) = number := by
  induction width generalizing number with
  | zero =>
    rw [pow_zero] at fits
    rw [Nat.lt_one_iff.mp fits]
    rfl
  | succ width ih =>
    have below := Nat.mod_lt number positive
    have rest : number / base < base ^ width :=
      Nat.div_lt_of_lt_mul (by rwa [pow_succ'] at fits)
    rw [fixedDigits, digitsValue_append, ih rest,
      digitsValue_singleton, digitValue_digitCharacter _ (by omega),
      length_singleton, pow_one]
    exact Nat.div_add_mod' number base

theorem le_toNat_of_digit (digit : isDigitOf base character = true) : 48 ≤ character.toNat := by
  unfold isDigitOf digitValue at digit
  by_cases isDigit : character.isDigit
  · exact (isDigit_toNat isDigit).1
  · rw [if_neg isDigit] at digit
    by_cases upper : character.isUpper
    · have bounds := isUpper_toNat upper
      omega
    · rw [if_neg upper] at digit
      by_cases lower : character.isLower
      · have bounds := isLower_toNat lower
        omega
      · rw [if_neg lower] at digit
        cases digit

theorem isSpace_eq_false (printed : 48 ≤ character.toNat) : isSpace character = false := by
  have notBlank : character ≠ ' ' := by
    intro isBlank
    rw [isBlank] at printed
    exact absurd printed (by decide)
  unfold isSpace
  rw [Bool.or_eq_false_iff]
  exact ⟨beq_false_of_ne notBlank, Bool.and_eq_false_iff.mpr (.inr (decide_eq_false (by omega)))⟩

variable {first : Char} {rest : Text}

theorem readSign_of_printed (printed : 48 ≤ first.toNat) :
    readSign (first :: rest) = (false, first :: rest) := by
  unfold readSign
  split
  · rename_i isMinus
    rw [(List.cons.inj isMinus).1] at printed
    exact absurd printed (by decide)
  · rename_i isPlus
    rw [(List.cons.inj isPlus).1] at printed
    exact absurd printed (by decide)
  · rfl

theorem readSign_of_digit (digit : isDigitOf base first = true) :
    readSign ((first :: rest).dropWhile isSpace) = (false, first :: rest) := by
  have printed := le_toNat_of_digit digit
  rw [dropWhile_cons_of_neg (by rw [isSpace_eq_false printed]; simp)]
  exact readSign_of_printed printed

variable {text : Text}

theorem skipHexMark_of_digits (areDigits : ∀ digit ∈ text, isDigitOf base digit = true) :
    skipHexMark base text = text := by
  unfold skipHexMark
  split
  · rename_i mark digit rest
    rw [if_neg]
    rintro ⟨isHex, isMark, _⟩
    have isDigit := areDigits mark (by simp)
    rw [isHex] at isDigit
    rcases isMark with isMark | isMark <;>
    · rw [isMark] at isDigit
      exact absurd isDigit (by decide)
  · rfl

theorem skipHexMark_ten (text : Text) : skipHexMark 10 text = text := by
  unfold skipHexMark
  split
  · exact if_neg fun isHex => absurd isHex.1 (by decide)
  · rfl

theorem strtol_digits {digits : Text} (nonempty : digits ≠ [])
    (areDigits : ∀ digit ∈ digits, isDigitOf base digit = true)
    (small : (digitsValue base digits : Int) ≤ longMax) :
    strtol base digits = some ⟨digitsValue base digits, [], false⟩ := by
  obtain ⟨first, rest, isCons⟩ := exists_cons_of_ne_nil nonempty
  have sign : readSign (digits.dropWhile isSpace) = (false, digits) := by
    rw [isCons] at areDigits ⊢
    exact readSign_of_digit (areDigits first mem_cons_self)
  have whole : digits.takeWhile (isDigitOf base) = digits :=
    takeWhile_eq_self_iff.mpr areDigits
  have nothing : digits.dropWhile (isDigitOf base) = [] :=
    dropWhile_eq_nil_iff.mpr areDigits
  have positive : longMin ≤ (digitsValue base digits : Int) := by
    unfold longMin
    omega
  unfold strtol
  rw [sign]
  dsimp only
  rw [skipHexMark_of_digits areDigits, whole, nothing, if_neg nonempty]
  simp only [withSign, Bool.false_eq_true, if_false, Option.some.injEq,
    StrtolResult.mk.injEq, true_and]
  exact ⟨by rw [min_eq_right small, max_eq_right positive],
    decide_eq_false (by omega)⟩

def signs : List (Text × Bool) :=
  [([], false), (['+'], false), (['-'], true)]

def Denotes (text : Text) (number : Int) : Prop :=
  ∃ blanks, ∃ sign ∈ signs, ∃ digits,
    text = blanks ++ (sign.1 ++ digits) ∧ (∀ blank ∈ blanks, isSpace blank) ∧
      digits ≠ [] ∧ (∀ digit ∈ digits, digit.isDigit) ∧
        number = withSign sign.2 (digitsValue 10 digits)

theorem readSign_sound (text : Text) : ∃ sign ∈ signs, text = sign.1 ++ (readSign text).2 ∧
      (readSign text).1 = sign.2 := by
  unfold readSign
  split
  · exact ⟨(['-'], true), by decide, rfl, rfl⟩
  · exact ⟨(['+'], false), by decide, rfl, rfl⟩
  · exact ⟨([], false), by decide, rfl, rfl⟩

theorem readSign_signs {sign : Text × Bool} (isSign : sign ∈ signs) (digit : first.isDigit) :
    readSign (sign.1 ++ first :: rest) = (sign.2, first :: rest) := by
  have printed := (isDigit_toNat digit).1
  rcases mem_cons.mp isSign with none | some
  · rw [none]
    exact readSign_of_printed printed
  · rcases mem_cons.mp some with plus | minus
    · rw [plus]
      rfl
    · rw [mem_singleton.mp minus]
      rfl

theorem dropWhile_blanks {blanks tail : Text} (areBlanks : ∀ blank ∈ blanks, isSpace blank)
    (stops : ∀ first rest, tail = first :: rest → isSpace first = false) :
    (blanks ++ tail).dropWhile isSpace = tail := by
  rw [dropWhile_append_of_pos areBlanks]
  cases tail with
  | nil => rfl
  | cons first rest =>
    exact dropWhile_cons_of_neg (by rw [stops first rest rfl]; simp)

theorem strtol_of_denotes {number : Int} (denotes : Denotes text number) :
    strtol 10 text = some ⟨max longMin (min longMax number), [],
        decide (number < longMin ∨ longMax < number)⟩ := by
  obtain ⟨blanks, sign, isSign, digits, isText, areBlanks, nonempty, areDigits, isNumber⟩ := denotes
  obtain ⟨first, rest, isCons⟩ := exists_cons_of_ne_nil nonempty
  have firstDigit : first.isDigit := areDigits first (by simp [isCons])
  have printed := (isDigit_toNat firstDigit).1
  have stops : ∀ front tail, sign.1 ++ digits = front :: tail → isSpace front = false := by
    intro front tail isFront
    rw [isCons] at isFront
    simp only [signs, mem_cons, not_mem_nil, or_false] at isSign
    rcases isSign with none | plus | minus
    · rw [none] at isFront
      rw [← (List.cons.inj isFront).1]
      exact isSpace_eq_false printed
    · rw [plus] at isFront
      rw [← (List.cons.inj isFront).1]
      decide
    · rw [minus] at isFront
      rw [← (List.cons.inj isFront).1]
      decide
  have signed : readSign (sign.1 ++ digits) = (sign.2, digits) := by
    rw [isCons]
    exact readSign_signs isSign firstDigit
  have areDigits : ∀ digit ∈ digits, isDigitOf 10 digit = true := by
    intro digit member
    rw [isDigitOf_ten]
    exact areDigits digit member
  unfold strtol
  rw [isText, dropWhile_blanks areBlanks stops, signed]
  dsimp only
  rw [skipHexMark_ten, takeWhile_eq_self_iff.mpr areDigits,
    dropWhile_eq_nil_iff.mpr areDigits, if_neg nonempty, isNumber]

theorem denotes_of_strtol {result : StrtolResult}
    (converted : strtol 10 text = some result) (whole : result.rest = []) :
    ∃ number, Denotes text number ∧ result = ⟨max longMin (min longMax number), [],
        decide (number < longMin ∨ longMax < number)⟩ := by
  obtain ⟨sign, isSign, isSigned, isNegative⟩ :=
    readSign_sound (text.dropWhile isSpace)
  unfold strtol at converted
  dsimp only at converted
  rw [skipHexMark_ten] at converted
  split at converted
  · cases converted
  · rename_i nonempty
    have isResult := (Option.some.inj converted).symm
    rw [isResult] at whole
    have areDigits := dropWhile_eq_nil_iff.mp whole
    have same := takeWhile_eq_self_iff.mpr areDigits
    rw [same] at nonempty isResult
    refine ⟨_, ⟨text.takeWhile isSpace, sign, isSign, _, ?_, ?_, nonempty, ?_,
      rfl⟩, ?_⟩
    · rw [← isSigned, takeWhile_append_dropWhile]
    · exact fun blank member => mem_takeWhile_imp member
    · intro digit member
      rw [← isDigitOf_ten]
      exact areDigits digit member
    · rw [isResult, dropWhile_eq_nil_iff.mpr areDigits, isNegative]

theorem denotes_of_digit (digit : first.isDigit) {number : Int} :
    Denotes (first :: rest) number ↔ (∀ character ∈ rest, character.isDigit) ∧
        number = digitsValue 10 (first :: rest) := by
  constructor
  · rintro ⟨blanks, sign, isSign, digits, isText, areBlanks, _, areDigits, isNumber⟩
    have printed := (isDigit_toNat digit).1
    have noBlanks : blanks = [] := by
      cases blanks with
      | nil => rfl
      | cons blank more =>
        have isBlank := areBlanks blank mem_cons_self
        rw [← (List.cons.inj isText).1, isSpace_eq_false printed] at isBlank
        cases isBlank
    rw [noBlanks, nil_append] at isText
    simp only [signs, mem_cons, not_mem_nil, or_false] at isSign
    rcases isSign with none | plus | minus
    · rw [none, nil_append] at isText
      rw [← isText] at areDigits isNumber
      rw [none] at isNumber
      exact ⟨(forall_mem_cons.mp areDigits).2, isNumber⟩
    · rw [plus] at isText
      rw [(List.cons.inj isText).1] at digit
      exact absurd digit (by decide)
    · rw [minus] at isText
      rw [(List.cons.inj isText).1] at digit
      exact absurd digit (by decide)
  · rintro ⟨areDigits, isNumber⟩
    exact ⟨[], ([], false), by decide, first :: rest, rfl, by simp, by simp,
      forall_mem_cons.mpr ⟨digit, areDigits⟩, isNumber⟩

end SerialModem.Library
