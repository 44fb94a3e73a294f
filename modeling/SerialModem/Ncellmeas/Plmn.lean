import SerialModem.Ncellmeas.Notification

/-!
# Two readers of PLMNs

`plmn_param_string_to_mcc_mnc` copies a PLMN into a cleared buffer.  The passes
of `parse_ncellmeas_gci` share one buffer that is never cleared, so what a pass
derives depends on the strings before it.
-/

namespace SerialModem.Ncellmeas

open Library List
open NrfCloud (zeroCell)

def IsPlmn (text : Text) : Prop :=
  (text.length = 5 ∨ text.length = 6) ∧ ∀ digit ∈ text, digit.isDigit

def mccOf (text : Text) : Nat :=
  digitsValue 10 (text.take 3)

def mncOf (text : Text) : Nat :=
  digitsValue 10 (text.drop 3)

theorem digit_ne_nul {digit : Char} (isDigit : digit.isDigit) : digit ≠ nul := by
  intro isNul
  rw [isNul] at isDigit
  exact absurd isDigit (by decide)

theorem cString_digits {digits : Text} (areDigits : ∀ digit ∈ digits, digit.isDigit) (tail : Text) :
    cString (digits ++ tail) = digits ++ cString tail :=
  takeWhile_append_of_pos fun digit member =>
    bne_iff_ne.mpr (digit_ne_nul (areDigits digit member))

theorem digitsValue_zeros {digits : Text} (areDigits : ∀ digit ∈ digits, digit.isDigit) :
    digitsValue 10 digits = 0 ↔ ∀ digit ∈ digits, digit = '0' := by
  rw [digitsValue_eq_zero (by decide)]
  refine forall₂_congr fun digit member => ?_
  have isDigit := areDigits digit member
  rw [digitValue, if_pos isDigit, Option.getD_some]
  have bounds := isDigit_toNat isDigit
  constructor
  · intro isZero
    have code : digit.toNat = 48 := by omega
    rw [← Char.ofNat_toNat digit, code]
  · intro isZero
    rw [isZero]
    rfl

def EndsAt (number : Nat) (stray : Text) : Prop :=
  stray = [] ∨ (number = 0 ∧ ∀ character ∈ stray, character = '0')

theorem stringToInt_tail {digits tail : Text} (nonempty : digits ≠ [])
    (areDigits : ∀ digit ∈ digits, digit.isDigit)
    (short : digits.length ≤ 3) :
    stringToInt (digits ++ tail) 10 = .ok (digitsValue 10 digits : Int) ↔
      EndsAt (digitsValue 10 digits) (cString tail) := by
  obtain ⟨first, rest, isCons⟩ := exists_cons_of_ne_nil nonempty
  have firstDigit : first.isDigit := areDigits first (by simp [isCons])
  have small : digitsValue 10 digits < 1000 := by
    have below := @digitsValue_lt 10 digits (by simpa [isDigitOf_ten] using areDigits)
    exact Nat.lt_of_lt_of_le below (Nat.pow_le_pow_right (by decide) short)
  have inRange : InLongRange (digitsValue 10 digits : Int) := by
    simp only [InLongRange, longMin, longMax]
    omega
  have wholeValue := digitsValue_append 10 digits (cString tail)
  rw [stringToInt_ok, and_iff_left inRange, cString_digits areDigits]
  have restDigits : ∀ digit ∈ rest, digit.isDigit :=
    fun digit member => areDigits digit (by simp [isCons, member])
  have denotes : Denotes (digits ++ cString tail) (digitsValue 10 digits : Int) ↔
      (∀ character ∈ cString tail, character.isDigit) ∧
        digitsValue 10 digits = digitsValue 10 (digits ++ cString tail) := by
    rw [isCons, cons_append, denotes_of_digit firstDigit,
      forall_mem_append, and_iff_right restDigits, Nat.cast_inj]
  rw [denotes, wholeValue]
  unfold EndsAt
  constructor
  · rintro ⟨tailDigits, same⟩
    by_cases empty : cString tail = []
    · exact .inl empty
    · right
      have grows : 10 ≤ 10 ^ (cString tail).length :=
        Nat.le_self_pow (length_pos_iff.mpr empty).ne' 10
      have scaled := Nat.mul_le_mul_left (digitsValue 10 digits) grows
      have isZero : digitsValue 10 digits = 0 := by omega
      rw [isZero, Nat.zero_mul, Nat.zero_add] at same
      exact ⟨isZero, (digitsValue_zeros tailDigits).mp same.symm⟩
  · rintro (empty | ⟨isZero, zeros⟩)
    · rw [empty]
      simp [digitsValue]
    · have tailDigits : ∀ character ∈ cString tail, character.isDigit := by
        intro character member
        rw [zeros character member]
        rfl
      refine ⟨tailDigits, ?_⟩
      rw [isZero, (digitsValue_zeros tailDigits).mpr zeros, Nat.zero_mul]

theorem drop_append_three {text rest : Text} (long : 3 ≤ text.length) :
    (text ++ rest).drop 3 = text.drop 3 ++ rest :=
  drop_append_of_le_length long

theorem IsPlmn.mcc_read {text : Text} (isPlmn : IsPlmn text) (rest behind : Text) :
    (readMccMnc (text ++ rest) behind).mcc = .ok (mccOf text : Int) := by
  obtain ⟨size, areDigits⟩ := isPlmn
  have three : (text.take 3).length = 3 := by
    rw [length_take]
    omega
  have mccDigits : ∀ digit ∈ text.take 3, digit.isDigit :=
    fun digit member => areDigits digit (mem_of_mem_take member)
  have ended : (text ++ rest).set 3 nul = text.take 3 ++ nul :: (text.drop 4 ++ rest) := by
    rw [set_eq_take_append_cons_drop, if_pos (by
      rw [length_append]
      omega), take_append_of_le_length (by omega),
      drop_append_of_le_length (by omega)]
  have nonempty : text.take 3 ≠ [] := by
    intro empty
    rw [empty] at three
    cases three
  show stringToInt ((text ++ rest).set 3 nul ++ behind) 10 = _
  rw [ended, append_assoc]
  refine (stringToInt_tail nonempty mccDigits (Nat.le_of_eq three)).mpr ?_
  exact .inl rfl

theorem IsPlmn.mnc_read {text : Text} (isPlmn : IsPlmn text) (rest behind : Text) :
    (readMccMnc (text ++ rest) behind).mnc = .ok (mncOf text : Int) ↔
      EndsAt (mncOf text) (cString (rest ++ behind)) := by
  obtain ⟨size, areDigits⟩ := isPlmn
  have sized : (text.drop 3).length = text.length - 3 := length_drop
  have mncDigits : ∀ digit ∈ text.drop 3, digit.isDigit :=
    fun digit member => areDigits digit (mem_of_mem_drop member)
  have nonempty : text.drop 3 ≠ [] := by
    intro empty
    rw [empty, length_nil] at sized
    omega
  show stringToInt ((text ++ rest).drop 3 ++ behind) 10 = _ ↔ _
  rw [drop_append_three (by omega), append_assoc]
  exact stringToInt_tail nonempty mncDigits (by omega)

theorem IsPlmn.derived_iff {text : Text} (isPlmn : IsPlmn text) (rest behind : Text) :
    (readMccMnc (text ++ rest) behind).derived = .ok ((mccOf text : Int), (mncOf text : Int)) ↔
      EndsAt (mncOf text) (cString (rest ++ behind)) := by
  rw [← isPlmn.mnc_read rest behind, MccMnc.derived, isPlmn.mcc_read rest behind]
  cases (readMccMnc (text ++ rest) behind).mnc with
  | error err =>
    constructor
    · intro same
      cases same
    · intro same
      cases same
  | ok mnc =>
    constructor
    · intro same
      exact congrArg Except.ok (Prod.mk.inj (Except.ok.inj same)).2
    · intro same
      rw [Except.ok.inj same]
      rfl

theorem derived_ok_iff {read : Except Int MccMnc} {mcc mnc : Int} :
    read.bind MccMnc.derived = .ok (mcc, mnc) ↔
      read.bind MccMnc.mnc = .ok mnc ∧ read.bind MccMnc.mcc = .ok mcc := by
  cases read with
  | error err =>
    constructor
    · intro same
      cases same
    · intro same
      cases same.1
  | ok read =>
    obtain ⟨readMnc, readMcc⟩ := read
    cases readMnc with
    | error err =>
      constructor
      · intro same
        cases same
      · intro same
        cases same.1
    | ok readMnc =>
      cases readMcc with
      | error err =>
        constructor
        · intro same
          cases same
        · intro same
          cases same.2
      | ok readMcc =>
        simp only [Except.bind, MccMnc.derived, bind, pure, Except.pure,
          Except.ok.injEq, Prod.mk.injEq, and_comm]

theorem cString_cleared {text : Text} (short : text.length ≤ 6) (behind : Text) :
    cString ((replicate 7 nul).drop text.length ++ behind) = [] := by
  obtain ⟨more, isMore⟩ := Nat.exists_eq_add_of_le short
  have size : 7 - text.length = more + 1 := by omega
  rw [drop_replicate, size, replicate_succ, cons_append]
  exact takeWhile_cons_of_neg (by simp)

section

variable {parser : AtParser} {index : Nat} {text : Text}

theorem IsPlmn.param_derived (isPlmn : IsPlmn text)
    (isText : parser.string index = .ok text) (behind : Text) :
    (plmnParamStringToMccMnc parser index behind).bind MccMnc.derived =
      .ok ((mccOf text : Int), (mncOf text : Int)) := by
  have size := isPlmn.1
  have read : parser.stringGet index 7 = .ok text := by
    rw [AtParser.stringGet, isText]
    exact if_pos (by omega)
  rw [plmnParamStringToMccMnc, read]
  dsimp only
  rw [plmnMccMnc, if_neg (by omega)]
  refine (isPlmn.derived_iff _ behind).mpr (.inl ?_)
  exact cString_cleared (by omega) behind

end

namespace CellReport

variable (report : CellReport)

theorem isPlmn : IsPlmn report.plmn := by
  have sized := report.mncSized
  refine ⟨?_, report.plmn_digits⟩
  rw [report.length_plmn]
  omega

theorem mccOf_plmn : mccOf report.plmn = report.mcc := by
  rw [mccOf, plmn, take_left' (length_fixedDigits 10 3 report.mcc)]
  exact digitsValue_fixedDigits (by decide) (by decide) report.mccFits

theorem mncOf_plmn : mncOf report.plmn = report.mnc := by
  rw [mncOf, plmn, drop_left' (length_fixedDigits 10 3 report.mcc)]
  exact digitsValue_fixedDigits (by decide) (by decide) report.mncFits

end CellReport

def PlmnField.derive (buffer : Text) (field : PlmnField) : Except Int (Int × Int) :=
  match field.text with
  | .error err => .error err
  | .ok text =>
    if text.length ≤ 7 then
      (readMccMnc (copyTo buffer text) field.behind).derived
    else
      .error (-enomem)

def PlmnField.next (buffer : Text) (field : PlmnField) : Text :=
  match field.text with
  | .error _ => buffer
  | .ok text =>
    if text.length ≤ 7 then (copyTo buffer text).set 3 nul else buffer

theorem GciLoop.readPlmn_eq (setting : Setting) (loop : GciLoop) :
    ∃ field : PlmnField, (loop.readPlmn setting).2 = { loop with
      tmpStr := field.next loop.tmpStr
      plmns := loop.plmns ++ [⟨field, field.derive loop.tmpStr⟩] } := by
  refine ⟨⟨setting.parser.string (loop.currIndex + 2), setting.behind (loop.currIndex + 2)⟩, ?_⟩
  unfold GciLoop.readPlmn AtParser.stringGet PlmnField.derive PlmnField.next
  dsimp only
  cases setting.parser.string (loop.currIndex + 2) with
  | error err => rfl
  | ok text =>
    by_cases fits : text.length ≤ 7
    · simp only [if_pos fits]
    · simp only [if_neg fits]

def Derives : (buffer : Text) → List PlmnRead → Prop
  | _, [] => True
  | buffer, read :: rest =>
    read.derived = read.toPlmnField.derive buffer ∧ Derives (read.toPlmnField.next buffer) rest

def bufferAfter (buffer : Text) (reads : List PlmnRead) : Text :=
  reads.foldl (fun buffer read => read.toPlmnField.next buffer) buffer

theorem derives_append {first second : List PlmnRead} :
    ∀ {buffer : Text}, Derives buffer (first ++ second) ↔
      Derives buffer first ∧ Derives (bufferAfter buffer first) second := by
  induction first with
  | nil => simp [Derives, bufferAfter]
  | cons read rest ih =>
    intro buffer
    rw [cons_append, Derives, Derives, ih, and_assoc]
    rfl

structure GciLoop.DerivedFrom (tmpStr : Text) (loop : GciLoop) : Prop where
  derives : Derives tmpStr loop.plmns
  buffer : loop.tmpStr = bufferAfter tmpStr loop.plmns

section

variable {setting : Setting} {tmpStr : Text} {loop : GciLoop}

theorem GciLoop.DerivedFrom.readPlmn (derived : loop.DerivedFrom tmpStr) :
    (loop.readPlmn setting).2.DerivedFrom tmpStr := by
  obtain ⟨field, isRead⟩ := loop.readPlmn_eq setting
  rw [isRead]
  constructor
  · rw [derives_append, ← derived.buffer]
    exact ⟨derived.derives, rfl, trivial⟩
  · show field.next loop.tmpStr = bufferAfter tmpStr (loop.plmns ++ [_])
    rw [bufferAfter, foldl_concat, derived.buffer]
    rfl

theorem GciLoop.DerivedFrom.pass (derived : loop.DerivedFrom tmpStr) :
    PassEnds (GciLoop.DerivedFrom tmpStr) (GciLoop.DerivedFrom tmpStr) (gciPass setting loop) := by
  have read : (loop.readPlmn setting).2.DerivedFrom tmpStr := derived.readPlmn
  refine gciPass_ends derived read ?_ ?_
  · intro cell ncellsCount
    exact GciLoop.storeServing_ends ⟨read.derives, read.buffer⟩
      ⟨read.derives, read.buffer⟩ fun _ _ _ => ⟨read.derives, read.buffer⟩
  · exact fun cell => ⟨read.derives, read.buffer⟩

end

theorem parseNcellmeasGci_derives (setting : Setting) (gciCount : UInt8)
    (tmpStr : Text) (cells : LteLcCellsInfo) :
    Derives tmpStr (parseNcellmeasGci setting gciCount tmpStr cells).2.plmns := by
  have started : GciLoop.DerivedFrom tmpStr
      ⟨1, tmpStr, 0, { cells with gciCellsCount := 0 }, false, []⟩ :=
    ⟨trivial, rfl⟩
  unfold parseNcellmeasGci
  dsimp only
  split
  · exact started.derives
  · split
    · exact started.derives
    · split
      · exact started.derives
      · exact (parseGciLoop_invariant
          (fun _ loop (derived : GciLoop.DerivedFrom tmpStr loop) => derived)
          (fun _ _ derived => derived.pass) _ _ started).derives

/-- Both readers derive the same from five or six digits, and both reject
everything else. -/
structure PlmnRead.Agrees (read : PlmnRead) (text : Text) : Prop where
  same : IsPlmn text → ∃ mccMnc, read.derived = .ok mccMnc ∧
    ∀ parser index behind, parser.string index = .ok text →
      (plmnParamStringToMccMnc parser index behind).bind MccMnc.derived = .ok mccMnc
  rejected : ¬ IsPlmn text → (∃ err, read.derived = .error err) ∧
    ∀ parser index behind, parser.string index = .ok text →
      ∃ err, (plmnParamStringToMccMnc parser index behind).bind MccMnc.derived = .error err

def Readable (buffer behind : Text) : Prop :=
  (∃ mnc, Denotes (cString (buffer.drop 3 ++ behind)) mnc ∧ InLongRange mnc) ∧
    ∃ mcc, Denotes (cString (buffer.set 3 nul ++ behind)) mcc ∧ InLongRange mcc

/-- Nothing stands behind the digits of a PLMN, and no other string is readable
as one, neither in this buffer nor in a cleared one. -/
structure CleanText (buffer text behind : Text) : Prop where
  ended : IsPlmn text → EndsAt (mncOf text) (cString (buffer.drop text.length ++ behind))
  unreadable : ¬ IsPlmn text → text.length ≤ 7 → ¬ Readable (copyTo buffer text) behind ∧
      (5 ≤ text.length → ∀ behind, ¬ Readable (copyTo (replicate 7 nul) text) behind)

/-- Each string is read as a PLMN exactly if it is one, with what the ones before have left. -/
def PlmnsClean : (buffer : Text) → List PlmnField → Prop
  | _, [] => True
  | buffer, field :: rest =>
    (∀ text, field.text = .ok text → CleanText buffer text field.behind) ∧
      PlmnsClean (field.next buffer) rest

theorem MccMnc.derived_error_iff (read : MccMnc) : (∃ err, read.derived = .error err) ↔
      ¬ ((∃ mnc, read.mnc = .ok mnc) ∧ ∃ mcc, read.mcc = .ok mcc) := by
  obtain ⟨mnc, mcc⟩ := read
  cases mnc with
  | error err => exact iff_of_true ⟨err, rfl⟩ fun both => nomatch both.1
  | ok mnc =>
    cases mcc with
    | error err => exact iff_of_true ⟨err, rfl⟩ fun both => nomatch both.2
    | ok mcc =>
      refine iff_of_false (fun rejected => nomatch rejected) ?_
      exact not_not.mpr ⟨⟨mnc, rfl⟩, mcc, rfl⟩

theorem readMccMnc_error_iff (buffer behind : Text) :
    (∃ err, (readMccMnc buffer behind).derived = .error err) ↔ ¬ Readable buffer behind := by
  rw [MccMnc.derived_error_iff, Readable]
  simp only [readMccMnc, stringToInt_ok]

section

variable {text : Text}

theorem param_error_iff (fits : text.length ≤ 7) :
    (∀ parser index behind, parser.string index = .ok text →
        ∃ err, (plmnParamStringToMccMnc parser index behind).bind MccMnc.derived = .error err) ↔
      (5 ≤ text.length → ∀ behind, ¬ Readable (copyTo (replicate 7 nul) text) behind) := by
  have isRead : ∀ {parser : AtParser} {index : Nat} (behind : Text),
      parser.string index = .ok text → plmnParamStringToMccMnc parser index behind =
          plmnMccMnc text behind := by
    intro parser index behind isText
    rw [plmnParamStringToMccMnc, AtParser.stringGet, isText]
    dsimp only
    rw [if_pos fits]
  constructor
  · intro rejected long behind
    have isError := rejected ⟨.ok 0, fun _ => .error 0, fun _ => .ok text⟩ 0 behind rfl
    rw [isRead behind rfl, plmnMccMnc, if_neg (by omega)] at isError
    exact (readMccMnc_error_iff _ behind).mp isError
  · intro unreadable parser index behind isText
    rw [isRead behind isText, plmnMccMnc]
    by_cases short : text.length < 5
    · rw [if_pos short]
      exact ⟨-ebadmsg, rfl⟩
    · rw [if_neg short]
      exact (readMccMnc_error_iff _ behind).mpr (unreadable (by omega) behind)

theorem PlmnRead.agrees_iff {read : PlmnRead} {buffer : Text} (isText : read.text = .ok text)
    (isDerived : read.derived = read.toPlmnField.derive buffer) :
    read.Agrees text ↔ CleanText buffer text read.behind := by
  have fitting : text.length ≤ 7 →
      read.derived = (readMccMnc (copyTo buffer text) read.behind).derived := by
    intro fits
    rw [isDerived, PlmnField.derive, isText]
    exact if_pos fits
  constructor
  · intro agrees
    refine ⟨?_, ?_⟩
    · intro isPlmn
      have size := isPlmn.1
      obtain ⟨mccMnc, derived, sameParam⟩ := agrees.same isPlmn
      have whole := sameParam ⟨.ok 0, fun _ => .error 0, fun _ => .ok text⟩ 0 [] rfl
      rw [isPlmn.param_derived rfl] at whole
      rw [fitting (by omega), ← whole] at derived
      exact (isPlmn.derived_iff _ _).mp derived
    · intro other fits
      have rejected := agrees.rejected other
      rw [fitting fits, readMccMnc_error_iff, param_error_iff fits] at rejected
      exact rejected
  · intro clean
    refine ⟨?_, ?_⟩
    · intro isPlmn
      have size := isPlmn.1
      refine ⟨(mccOf text, mncOf text), ?_, ?_⟩
      · rw [fitting (by omega)]
        exact (isPlmn.derived_iff _ _).mpr (clean.ended isPlmn)
      · intro parser index behind isParam
        exact isPlmn.param_derived isParam behind
    · intro other
      by_cases fits : text.length ≤ 7
      · rw [fitting fits, readMccMnc_error_iff, param_error_iff fits]
        exact clean.unreadable other fits
      · constructor
        · refine ⟨-enomem, ?_⟩
          rw [isDerived, PlmnField.derive, isText]
          exact if_neg fits
        · intro parser index behind isParam
          refine ⟨-enomem, ?_⟩
          rw [plmnParamStringToMccMnc, AtParser.stringGet, isParam]
          dsimp only
          rw [if_neg fits]
          rfl

end

theorem Derives.agree_iff {reads : List PlmnRead} : ∀ {buffer : Text}, Derives buffer reads →
      ((∀ read ∈ reads, ∀ text, read.text = .ok text → read.Agrees text) ↔
        PlmnsClean buffer (reads.map PlmnRead.toPlmnField)) := by
  induction reads with
  | nil => exact fun _ => iff_of_true (fun _ member => nomatch member) trivial
  | cons read rest ih =>
    intro buffer derives
    obtain ⟨isDerived, later⟩ := derives
    rw [forall_mem_cons, ih later, map_cons, PlmnsClean]
    refine and_congr_left fun _ => forall₂_congr fun text isText => ?_
    exact PlmnRead.agrees_iff isText isDerived

/-- The loop agrees with `plmn_param_string_to_mcc_mnc` on all PLMNs that it
reads exactly when they are clean in the buffer that they share. -/
theorem plmns_agree_iff (setting : Setting) (gciCount : UInt8) (tmpStr : Text)
    (cells : LteLcCellsInfo) :
    (∀ read ∈ (parseNcellmeasGci setting gciCount tmpStr cells).2.plmns,
        ∀ text, read.text = .ok text → read.Agrees text) ↔
      PlmnsClean tmpStr ((parseNcellmeasGci setting gciCount tmpStr cells).2.plmns.map
          PlmnRead.toPlmnField) :=
  (parseNcellmeasGci_derives setting gciCount tmpStr cells).agree_iff

/-- Two cells without neighbors; the MNC of the first one is longer. -/
def mixedPlmns : List Field :=
  .number 0 :: ["262012", "26201"].flatMap fun plmn =>
    [.string "00000001".toList, .string plmn.toList, .string "0001".toList,
      .number 0, .number 0, .number 100, .number 1, .number 50, .number 20,
      .number 0, .number 0, .number 0]

def mixedSetting : Setting where
  response := notificationText mixedPlmns
  parser := fieldsParser mixedPlmns
  behind _ := []
  allocated _ := true

/-- A PLMN of five digits is read into the buffer behind one of six. -/
theorem mixedPlmns_not_agree : ¬ ∀ read ∈ (parseNcellmeasGci mixedSetting 5 (replicate 7 nul)
          ⟨zeroCell, none, 0, none, 0⟩).2.plmns,
        ∀ text, read.text = .ok text → read.Agrees text := by
  intro agree
  have reads : (parseNcellmeasGci mixedSetting 5 (replicate 7 nul)
        ⟨zeroCell, none, 0, none, 0⟩).2.plmns.map (fun read => (read.text, read.derived)) =
      [(.ok "262012".toList, .ok (262, 12)), (.ok "26201".toList, .ok (262, 12))] := by
    decide
  obtain ⟨read, isRead, same⟩ := List.mem_map.mp (reads ▸ mem_cons_of_mem _ mem_cons_self)
  obtain ⟨isText, isDerived⟩ := Prod.mk.inj same
  have isPlmn : IsPlmn "26201".toList := ⟨by decide, List.all_eq_true.mp (by decide)⟩
  obtain ⟨mccMnc, derived, sameParam⟩ := (agree read isRead _ isText).same isPlmn
  have param := sameParam ⟨.ok 0, fun _ => .error 0, fun _ => .ok "26201".toList⟩ 0 [] rfl
  rw [isPlmn.param_derived rfl] at param
  rw [isDerived, ← param] at derived
  exact absurd derived (by decide)

end SerialModem.Ncellmeas
