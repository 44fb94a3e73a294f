import SerialModem.Ncellmeas.Parsing

/-!
# The format of `%NCELLMEAS` notifications

A notification is written as fields with commas between them.  Cells and
neighbors that fit their types have such fields, and a parser that reads the
fields gives the same cells and neighbors back.
-/

namespace SerialModem.Ncellmeas

open Library List
open NrfCloud (LteLcCell LteLcNcell sizeRange ncellsParamsCount lteLcCellEutranIdMax)

inductive Field where
  | string (text : Text)
  | number (value : Int)
  deriving DecidableEq

def intText : Int → Text
  | .ofNat value => decimal value
  | .negSucc value => '-' :: decimal (value + 1)

def Field.text : Field → Text
  | .string text => '"' :: (text ++ ['"'])
  | .number value => intText value

def notificationText (fields : List Field) : Text :=
  "%NCELLMEAS: ".toList ++ [','].intercalate (fields.map Field.text) ++ ['\r', '\n']

def Field.At (parser : AtParser) (index : Nat) : Field → Prop
  | .string text => parser.string index = .ok text
  | .number value => parser.number index = .ok value

def FieldsFrom (parser : AtParser) : (index : Nat) → List Field → Prop
  | _, [] => True
  | index, field :: rest =>
    field.At parser index ∧ FieldsFrom parser (index + 1) rest

/-- `at_parser` gives the fields by index, with the prefix as field 0. -/
structure ReadsFields (parser : AtParser) (fields : List Field) : Prop where
  count : parser.cmdCount = .ok (fields.length + 1)
  inOrder : FieldsFrom parser 1 fields
  beyond : ∀ index, fields.length < index → ∃ err < 0, parser.string index = .error err

/-- The notification has these fields, and the parser reads them. -/
structure Sent (setting : Setting) (fields : List Field) : Prop where
  response : setting.response = notificationText fields
  reads : ReadsFields setting.parser fields

def fieldsParser (fields : List Field) : AtParser where
  cmdCount := .ok (fields.length + 1)
  number index :=
    match index with
    | 0 => .error (-1)
    | index + 1 =>
      match fields[index]? with
      | some (.number value) => .ok value
      | _ => .error (-1)
  string index :=
    match index with
    | 0 => .error (-1)
    | index + 1 =>
      match fields[index]? with
      | some (.string text) => .ok text
      | _ => .error (-1)

theorem fieldsParser_reads (fields : List Field) : ReadsFields (fieldsParser fields) fields := by
  have from_drop : ∀ rest index, fields.drop index = rest →
      FieldsFrom (fieldsParser fields) (index + 1) rest := by
    intro rest
    induction rest with
    | nil => exact fun _ _ => trivial
    | cons field rest ih =>
      intro index isRest
      have found : fields[index]? = some field := by
        rw [← head?_drop, isRest, head?_cons]
      refine ⟨?_, ih (index + 1) ?_⟩
      · cases field with
        | string text | number value => simp only [Field.At, fieldsParser, found]
      · rw [← drop_drop, isRest, drop_succ_cons, drop_zero]
  refine ⟨rfl, from_drop fields 0 rfl, ?_⟩
  intro index outside
  cases index with
  | zero => exact absurd outside (Nat.not_lt_zero _)
  | succ index =>
    refine ⟨-1, by decide, ?_⟩
    simp only [fieldsParser, getElem?_eq_none (Nat.le_of_lt_succ outside)]

variable {parser : AtParser}

theorem fieldsFrom_append {first second : List Field} :
    ∀ {index : Nat}, FieldsFrom parser index (first ++ second) ↔
      FieldsFrom parser index first ∧ FieldsFrom parser (index + first.length) second := by
  induction first with
  | nil => simp [FieldsFrom]
  | cons field rest ih =>
    intro index
    rw [cons_append, FieldsFrom, FieldsFrom, ih, and_assoc,
      length_cons, Nat.add_assoc, Nat.add_comm 1]

theorem numGet_of_field {type : NumType} {index : Nat}
    {value : Int} (isField : Field.At parser index (.number value))
    (fits : type.Fits value) : parser.numGet type index = .ok value := by
  have isNumber : parser.number index = .ok value := isField
  rw [AtParser.numGet, isNumber]
  exact if_pos fits

def Field.Clean : Field → Prop
  | .string text => ',' ∉ text
  | .number _ => True

theorem Field.Clean.text {field : Field} (clean : field.Clean) : ',' ∉ field.text := by
  cases field with
  | string text =>
    have inside : ',' ∉ text := clean
    simp [Field.text, inside]
  | number value =>
    have digits : ∀ number, ',' ∉ decimal number :=
      fun number => not_mem_decimal (by decide)
    cases value with
    | ofNat value => exact digits value
    | negSucc value => simp [Field.text, intText, digits]

theorem count_intercalate {parts : List Text} (nonempty : parts ≠ [])
    (clean : ∀ part ∈ parts, ',' ∉ part) :
    ([','].intercalate parts).count ',' + 1 = parts.length := by
  induction parts with
  | nil => exact absurd rfl nonempty
  | cons part rest ih =>
    obtain ⟨cleanPart, cleanRest⟩ := forall_mem_cons.mp clean
    cases rest with
    | nil =>
      rw [intercalate_singleton, List.count_eq_zero.mpr cleanPart]
      rfl
    | cons next rest =>
      have later := ih (cons_ne_nil _ _) cleanRest
      rw [intercalate_cons_cons, count_append, count_append,
        List.count_eq_zero.mpr cleanPart, count_singleton_self,
        length_cons, ← later]
      omega

theorem count_fields {fields : List Field} {before behind : Text}
    (nonempty : fields ≠ []) (clean : ∀ field ∈ fields, field.Clean)
    (noneBefore : before.count ',' = 0) (noneBehind : behind.count ',' = 0) :
    (before ++ [','].intercalate (fields.map Field.text) ++ behind).count ',' +
      1 = fields.length := by
  have counted := @count_intercalate (fields.map Field.text) (by simpa using nonempty) (by
      intro part member
      obtain ⟨field, isField, rfl⟩ := List.mem_map.mp member
      exact (clean field isField).text)
  rw [length_map] at counted
  rw [count_append, count_append, noneBefore, noneBehind, ← counted]
  omega

theorem Sent.commas {setting : Setting} {fields : List Field}
    (sent : Sent setting fields) (nonempty : fields ≠ [])
    (clean : ∀ field ∈ fields, field.Clean)
    (short : fields.length < sizeRange) :
    setting.commas + 1 = fields.length := by
  have whole : (notificationText fields).count ',' + 1 = fields.length :=
    count_fields nonempty clean (by decide) (by decide)
  have inRange : (notificationText fields).count ',' < sizeRange :=
    Nat.lt_trans (Nat.lt_of_succ_le (Nat.le_of_eq whole)) short
  rw [Setting.commas, getCharFrequency, sent.response, Nat.mod_eq_of_lt inRange]
  exact whole

structure NcellFits (ncell : LteLcNcell) : Prop where
  earfcn : NumType.uint32.Fits ncell.earfcn
  physCellId : NumType.uint16.Fits ncell.physCellId
  rsrp : NumType.int16.Fits ncell.rsrp
  rsrq : NumType.int16.Fits ncell.rsrq
  timeDiff : NumType.int.Fits ncell.timeDiff

abbrev Ncell := { ncell : LteLcNcell // NcellFits ncell }

def ncellValues (ncell : LteLcNcell) : List Int :=
  [ncell.earfcn, ncell.physCellId, ncell.rsrp, ncell.rsrq, ncell.timeDiff]

def ncellFields (ncells : List Ncell) : List Field :=
  (ncells.flatMap fun ncell => ncellValues ncell.1).map .number

theorem length_ncellFields (ncells : List Ncell) :
    (ncellFields ncells).length = ncells.length * ncellsParamsCount := by
  rw [ncellFields, length_map, length_flatMap]
  simp [ncellValues, ncellsParamsCount]

theorem NumType.Fits.of_int16 {value : Int}
    (fits : NumType.int16.Fits value) : NumType.int.Fits value := by
  simp only [NumType.Fits, NumType.least, NumType.greatest] at fits ⊢
  omega

theorem parseNcell_of_fields {index : Nat} (ncell : Ncell)
    (fields : FieldsFrom parser index (ncellFields [ncell])) :
    parseNcell parser index = .ok ncell.1 := by
  obtain ⟨earfcn, physCellId, rsrp, rsrq, timeDiff, _⟩ := fields
  have fits := ncell.2
  rw [parseNcell, numGet_of_field earfcn fits.earfcn, numGet_of_field physCellId fits.physCellId,
    numGet_of_field rsrp fits.rsrp.of_int16,
    numGet_of_field rsrq fits.rsrq.of_int16,
    numGet_of_field timeDiff fits.timeDiff]
  exact congrArg Except.ok (LteLcNcell.mk.injEq .. ▸
    ⟨rfl, rfl, toInt16_of_fits fits.rsrp, toInt16_of_fits fits.rsrq, rfl⟩)

theorem parseNcells_of_fields (ncells : List Ncell) :
    ∀ {index : Nat}, FieldsFrom parser index (ncellFields ncells) →
      parseNcells parser ncells.length index = .ok (ncells.map Subtype.val) := by
  induction ncells with
  | nil => exact fun _ => rfl
  | cons ncell rest ih =>
    intro index fields
    have split : ncellFields (ncell :: rest) = ncellFields [ncell] ++ ncellFields rest := by
      simp [ncellFields]
    rw [split, fieldsFrom_append, length_ncellFields] at fields
    rw [length_cons, parseNcells, parseNcell_of_fields ncell fields.1]
    have later := ih fields.2
    rw [length_singleton, Nat.one_mul] at later
    rw [later]
    rfl

structure CellReport where
  id : Nat
  mcc : Nat
  mnc : Nat
  mncDigits : Nat
  tac : Nat
  timingAdvance : Int
  timingAdvanceMeasTime : Int
  earfcn : Int
  physCellId : Int
  rsrp : Int
  rsrq : Int
  measurementTime : Int
  idFits : (id : Int) ≤ lteLcCellEutranIdMax
  mccFits : mcc < 10 ^ 3
  mncSized : mncDigits = 2 ∨ mncDigits = 3
  mncFits : mnc < 10 ^ mncDigits
  tacFits : tac < 16 ^ 4
  timingAdvanceFits : NumType.uint16.Fits timingAdvance
  timingAdvanceMeasTimeFits : NumType.uint64.Fits timingAdvanceMeasTime
  earfcnFits : NumType.uint32.Fits earfcn
  physCellIdFits : NumType.uint16.Fits physCellId
  rsrpFits : NumType.int16.Fits rsrp
  rsrqFits : NumType.int16.Fits rsrq
  measurementTimeFits : NumType.uint64.Fits measurementTime

namespace CellReport

def cell (report : CellReport) : LteLcCell where
  id := report.id
  mcc := report.mcc
  mnc := report.mnc
  tac := report.tac
  timingAdvance := report.timingAdvance
  timingAdvanceMeasTime := report.timingAdvanceMeasTime
  earfcn := report.earfcn
  physCellId := report.physCellId
  rsrp := report.rsrp
  rsrq := report.rsrq
  measurementTime := report.measurementTime

/-- `<cell_id>`, with eight digits. -/
def idText (report : CellReport) : Text :=
  fixedDigits 16 8 report.id

def mncText (report : CellReport) : Text :=
  fixedDigits 10 report.mncDigits report.mnc

def plmn (report : CellReport) : Text :=
  fixedDigits 10 3 report.mcc ++ report.mncText

def tacText (report : CellReport) : Text :=
  fixedDigits 16 4 report.tac

end CellReport

theorem comma_not_mem_digits {base : Nat} {digits : Text}
    (areDigits : ∀ digit ∈ digits, isDigitOf base digit = true) :
    ',' ∉ digits := by
  intro member
  exact absurd (le_toNat_of_digit (areDigits ',' member)) (by decide)

theorem comma_not_mem_fixedDigits {base width number : Nat}
    (positive : 0 < base) (small : base ≤ 36) :
    ',' ∉ fixedDigits base width number :=
  comma_not_mem_digits (isDigitOf_fixedDigits positive small)

namespace CellReport

variable (report : CellReport)

theorem id_read {parser : AtParser} {index : Nat}
    (isField : Field.At parser index (.string report.idText)) :
    stringParamToInt parser index 16 = .ok (report.id : Int) ∧
      eutranCellId report.id = report.id := by
  have fits := report.idFits
  simp only [NrfCloud.lteLcCellEutranIdMax] at fits
  refine ⟨stringParamToInt_digits (by decide) (by decide) (by decide)
    (by decide) (by norm_num; omega) (by unfold longMax; omega) isField, ?_⟩
  refine (if_neg ?_).trans (Int.emod_eq_of_lt (by omega) (by omega))
  simp only [NrfCloud.lteLcCellEutranIdMax]
  omega

theorem tac_read {parser : AtParser} {index : Nat}
    (isField : Field.At parser index (.string report.tacText)) :
    stringParamToInt parser index 16 = .ok (report.tac : Int) ∧
      toUint32 report.tac = report.tac := by
  have fits := report.tacFits
  norm_num at fits
  refine ⟨stringParamToInt_digits (by decide) (by decide) (by decide)
    (by decide) report.tacFits (by unfold longMax; omega) isField, ?_⟩
  exact Int.emod_eq_of_lt (by omega) (by omega)

theorem timingAdvance_int : NumType.int.Fits report.timingAdvance := by
  have fits := report.timingAdvanceFits
  simp only [NumType.Fits, NumType.least, NumType.greatest] at fits ⊢
  omega

theorem length_plmn : report.plmn.length = 3 + report.mncDigits := by
  rw [plmn, mncText, length_append, length_fixedDigits, length_fixedDigits]

theorem plmn_digits : ∀ digit ∈ report.plmn, digit.isDigit = true := by
  intro digit member
  rw [← isDigitOf_ten]
  rcases mem_append.mp member with inMcc | inMnc
  · exact isDigitOf_fixedDigits (by decide) (by decide) digit inMcc
  · exact isDigitOf_fixedDigits (by decide) (by decide) digit inMnc

end CellReport

def reportedCell : CellReport :=
  ⟨0x01234567, 262, 1, 2, 0x0123, 65535, 0, 7, 63, 31, 19, 150344527,
    by decide, by decide, by decide, by decide, by decide, by decide,
    by decide, by decide, by decide, by decide, by decide, by decide⟩

end SerialModem.Ncellmeas
