import SerialModem.Library.Strtol
import SerialModem.NrfCloud.Ncellmeas

/-!
# Fields of a `%NCELLMEAS` notification

`at_parser` gives the fields of a notification by index; the prefix is field 0.
Numbers are checked against the type that they are read into, and strings are
copied into a buffer without an end.  `string_to_int`, `string_param_to_int` and
the two ways to read a PLMN are built on it.
-/

namespace SerialModem.Ncellmeas

open Library

def enomem : Int := 12

def efault : Int := 14

def erange : Int := 34

def enodata : Int := 61

def ebadmsg : Int := 77

/-- What `at_parser` finds in a notification. -/
structure AtParser where
  /-- `at_parser_cmd_count_get`. -/
  cmdCount : Except Int Nat
  number : Nat → Except Int Int
  string : Nat → Except Int Text

/-- The types that `at_parser_num_get` reads into. -/
inductive NumType where
  | int
  | int16
  | uint16
  | uint32
  | uint64
  deriving DecidableEq

def NumType.least : NumType → Int
  | .int => -2147483648
  | .int16 => -32768
  | .uint16 => 0
  | .uint32 => 0
  | .uint64 => 0

def NumType.greatest : NumType → Int
  | .int => 2147483647
  | .int16 => 32767
  | .uint16 => 65535
  | .uint32 => 4294967295
  | .uint64 => 18446744073709551615

def NumType.Fits (type : NumType) (value : Int) : Prop :=
  type.least ≤ value ∧ value ≤ type.greatest

instance (type : NumType) (value : Int) : Decidable (type.Fits value) :=
  inferInstanceAs (Decidable (_ ∧ _))

/-- `at_parser_num_get`. -/
def AtParser.numGet (parser : AtParser) (type : NumType) (index : Nat) : Except Int Int :=
  match parser.number index with
  | .error err => .error err
  | .ok value => if type.Fits value then .ok value else .error (-erange)

/-- `at_parser_string_get` with the size of a buffer: the characters that are
copied. -/
def AtParser.stringGet (parser : AtParser) (index size : Nat) : Except Int Text :=
  match parser.string index with
  | .error err => .error err
  | .ok text => if text.length ≤ size then .ok text else .error (-enomem)

def toInt16 (value : Int) : Int :=
  (value + 32768) % 65536 - 32768

def toUint16 (value : Int) : Int :=
  value % 65536

def toUint32 (value : Int) : Int :=
  value % 4294967296

def toUint8 (value : Int) : UInt8 :=
  UInt8.ofNat (value % 256).toNat

theorem toInt16_of_fits {value : Int} (fits : NumType.int16.Fits value) :
    toInt16 value = value := by
  simp only [NumType.Fits, NumType.least, NumType.greatest] at fits
  unfold toInt16
  omega

theorem toUint16_of_fits {value : Int} (fits : NumType.uint16.Fits value) :
    toUint16 value = value := by
  simp only [NumType.Fits, NumType.least, NumType.greatest] at fits
  exact Int.emod_eq_of_lt (by omega) (by omega)

/-- `string_to_int` on what lies in the memory from `str_buf` on. -/
def stringToInt (memory : Text) (base : Nat) : Except Int Int :=
  match strtol base (cString memory) with
  | none => .error (-enodata)
  | some result =>
    if result.rest ≠ [] ∨ ((result.value = longMax ∨ result.value = longMin) ∧
          result.outOfRange) then
      .error (-enodata)
    else
      .ok result.value

def stringParamToInt (parser : AtParser) (index base : Nat) : Except Int Int :=
  match parser.stringGet index 15 with
  | .error err => .error err
  | .ok text => stringToInt (text ++ [nul]) base

def InLongRange (number : Int) : Prop :=
  longMin ≤ number ∧ number ≤ longMax

theorem stringToInt_ok {memory : Text} {number : Int} : stringToInt memory 10 = .ok number ↔
      Denotes (cString memory) number ∧ InLongRange number := by
  unfold stringToInt InLongRange
  constructor
  · intro accepted
    split at accepted
    · cases accepted
    · rename_i result converted
      split at accepted
      · cases accepted
      · rename_i kept
        rw [not_or, not_not] at kept
        obtain ⟨exact, denotes, isResult⟩ :=
          denotes_of_strtol converted kept.1
        have inRange : longMin ≤ exact ∧ exact ≤ longMax := by
          by_contra outside
          have isOut : exact < longMin ∨ longMax < exact := by omega
          apply kept.2
          rw [isResult]
          refine ⟨?_, decide_eq_true isOut⟩
          simp only [longMin, longMax] at isOut ⊢
          omega
        have isValue : result.value = exact := by
          rw [isResult]
          exact (congrArg _ (min_eq_right inRange.2)).trans (max_eq_right inRange.1)
        rw [isValue] at accepted
        cases accepted
        exact ⟨denotes, inRange⟩
  · rintro ⟨denotes, atLeast, atMost⟩
    rw [strtol_of_denotes denotes, min_eq_right atMost, max_eq_right atLeast]
    dsimp only
    rw [if_neg]
    simp only [ne_eq, not_true_eq_false, false_or, decide_eq_true_eq]
    omega

theorem cString_of_noNul {text : Text} (clean : nul ∉ text) (tail : Text) :
    cString (text ++ nul :: tail) = text := by
  unfold cString
  rw [List.takeWhile_append_of_pos]
  · rw [List.takeWhile_cons_of_neg (by simp), List.append_nil]
  · intro character member
    exact bne_iff_ne.mpr fun isNul => clean (isNul ▸ member)

theorem nul_not_mem_of_digits {base : Nat} {digits : Text}
    (areDigits : ∀ digit ∈ digits, isDigitOf base digit = true) :
    nul ∉ digits := by
  intro member
  have printed := le_toNat_of_digit (areDigits nul member)
  exact absurd printed (by decide)

theorem stringParamToInt_digits {parser : AtParser}
    {index base width number : Nat} (positive : 0 < base) (small : base ≤ 36)
    (nonempty : 0 < width) (short : width ≤ 15) (fits : number < base ^ width)
    (inRange : (number : Int) ≤ longMax)
    (isField : parser.string index = .ok (fixedDigits base width number)) :
    stringParamToInt parser index base = .ok (number : Int) := by
  have areDigits : ∀ digit ∈ fixedDigits base width number,
      isDigitOf base digit = true := isDigitOf_fixedDigits positive small
  have size := length_fixedDigits base width number
  have isNumber := digitsValue_fixedDigits positive small fits
  have notEmpty : fixedDigits base width number ≠ [] := by
    intro empty
    rw [empty] at size
    exact absurd size (by rw [List.length_nil]; omega)
  have read : parser.stringGet index 15 = .ok (fixedDigits base width number) := by
    rw [AtParser.stringGet, isField]
    exact if_pos (by omega)
  rw [stringParamToInt, read]
  dsimp only
  rw [stringToInt, cString_of_noNul (nul_not_mem_of_digits areDigits),
    strtol_digits notEmpty areDigits (by rw [isNumber]; exact inRange),
    isNumber]
  exact if_neg (by simp)

structure MccMnc where
  mnc : Except Int Int
  mcc : Except Int Int

def readMccMnc (buffer behind : Text) : MccMnc where
  mnc := stringToInt (buffer.drop 3 ++ behind) 10
  mcc := stringToInt (buffer.set 3 nul ++ behind) 10

def MccMnc.derived (read : MccMnc) : Except Int (Int × Int) := do
  let mnc ← read.mnc
  let mcc ← read.mcc
  return (mcc, mnc)

def copyTo (buffer text : Text) : Text :=
  text ++ buffer.drop text.length

/-- What `plmn_param_string_to_mcc_mnc` reads from a string that fits. -/
def plmnMccMnc (text behind : Text) : Except Int MccMnc :=
  if text.length < 5 then
    .error (-ebadmsg)
  else
    .ok (readMccMnc (copyTo (List.replicate 7 nul) text) behind)

def plmnParamStringToMccMnc (parser : AtParser) (index : Nat) (behind : Text) : Except Int MccMnc :=
  match parser.stringGet index 7 with
  | .error err => .error err
  | .ok text => plmnMccMnc text behind

end SerialModem.Ncellmeas
