import SerialModem.Ncellmeas.GciArray

/-!
# Decoding the cells of a GCI search

`parse_ncellmeas_gci` leaves its index on the neighbor count of the serving
cell, and the neighbors are read from there on.  They are decoded a field too
early, and the cells behind them are decoded from the right fields again.
-/

namespace SerialModem.Ncellmeas

open Library List
open NrfCloud (LteLcCell LteLcNcell ncellsParamsCount gciCellParamsCount sizeRange zeroCell)

def LteLcCellsInfo.ncellList (cells : LteLcCellsInfo) : List LteLcNcell :=
  (cells.neighborCells.getD []).take cells.ncellsCount.toNat

/-! ## Reports -/

structure GciCell where
  report : CellReport
  neighbors : Option (List Ncell)

namespace GciCell

def listed (cell : GciCell) : List Ncell :=
  cell.neighbors.getD []

def ownFields (cell : GciCell) : List Field :=
  [.string cell.report.idText, .string cell.report.plmn,
    .string cell.report.tacText, .number cell.report.timingAdvance,
    .number cell.report.timingAdvanceMeasTime, .number cell.report.earfcn,
    .number cell.report.physCellId, .number cell.report.rsrp,
    .number cell.report.rsrq, .number cell.report.measurementTime,
    .number (if cell.neighbors.isSome then 1 else 0),
    .number cell.listed.length]

def fields (cell : GciCell) : List Field :=
  cell.ownFields ++ ncellFields cell.listed

theorem length_fields (cell : GciCell) : cell.fields.length =
    gciCellParamsCount + cell.listed.length * ncellsParamsCount := by
  rw [fields, length_append, length_ncellFields]
  rfl

theorem fields_clean (cell : GciCell) : ∀ field ∈ cell.fields, field.Clean := by
  have plmn : ',' ∉ cell.report.plmn :=
    comma_not_mem_digits fun digit member => by
      rw [isDigitOf_ten]
      exact cell.report.plmn_digits digit member
  have own : ∀ field ∈ cell.ownFields, field.Clean := by
    intro field member
    simp only [ownFields, mem_cons, not_mem_nil, or_false] at member
    rcases member with rfl | rfl | rfl | rfl | rfl | rfl | rfl | rfl | rfl |
      rfl | rfl | rfl
    · exact comma_not_mem_fixedDigits (by decide) (by decide)
    · exact plmn
    · exact comma_not_mem_fixedDigits (by decide) (by decide)
    all_goals trivial
  refine forall_mem_append.mpr ⟨own, ?_⟩
  intro field member
  obtain ⟨value, _, rfl⟩ := List.mem_map.mp member
  trivial

end GciCell

def gciFields (cells : List GciCell) : List Field :=
  cells.flatMap GciCell.fields

def nonServing (cells : List GciCell) : List LteLcCell :=
  (cells.filter (·.neighbors.isNone)).map (·.report.cell)

/-- A report of a search for cells; at most one is the serving one. -/
structure GciReport where
  incomplete : Bool
  cells : List GciCell
  oneServing : cells.Pairwise fun first second =>
    first.neighbors = none ∨ second.neighbors = none

def GciReport.fields (report : GciReport) : List Field :=
  .number (if report.incomplete then 2 else 0) :: gciFields report.cells

structure ServingDecoded (report : CellReport) (neighbors : List Ncell)
    (after : LteLcCellsInfo) : Prop where
  cell : after.currentCell = report.cell
  count : after.ncellsCount.toNat = neighbors.length
  neighbors : after.ncellList = neighbors.map Subtype.val

/-- The cells in the request are those of the report. -/
structure GciDecoded (cells : List GciCell) (after : LteLcCellsInfo) :
    Prop where
  gciCells : after.gciList = nonServing cells
  gciCellsCount : after.gciCellsCount.toNat = (nonServing cells).length
  serving : ∀ cell ∈ cells, ∀ neighbors, cell.neighbors = some neighbors →
    ServingDecoded cell.report neighbors after

/-! ## When cells are decoded -/

def GciCell.Ends (setting : Setting) (index : Nat) (buffer : Text) (cell : GciCell) : Prop :=
  EndsAt cell.report.mnc (cString
    (buffer.drop cell.report.plmn.length ++ setting.behind (index + 2)))

/-- Behind the digits of each PLMN none follows, with what the ones before have left. -/
def PlmnsEnd (setting : Setting) : (index : Nat) → (buffer : Text) → List GciCell → Prop
  | _, _, [] => True
  | index, buffer, cell :: rest =>
    cell.Ends setting index buffer ∧ PlmnsEnd setting (index + cell.fields.length)
        ((copyTo buffer cell.report.plmn).set 3 nul) rest

def NeighborsClean (ncellsCount : UInt8) (neighbors : List Ncell) : Prop :=
  if neighbors = [] then
    ncellsCount = 0
  else
    neighbors.length < 256 ∧ ∀ ncell ∈ neighbors,
      ∀ value ∈ ncellValues ncell.1, value = (neighbors.length : Int)

/-! ## A pass -/

section

variable {setting : Setting} {loop : GciLoop}

theorem readPlmn_of_field {text : Text}
    (isText : setting.parser.string (loop.currIndex + 2) = .ok text)
    (fits : text.length ≤ 7) :
    ∃ plmns, loop.readPlmn setting = ((readMccMnc (copyTo loop.tmpStr text)
          (setting.behind (loop.currIndex + 2))).derived,
        { loop with
          tmpStr := (copyTo loop.tmpStr text).set 3 nul, plmns := plmns }) := by
  rw [GciLoop.readPlmn, AtParser.stringGet, isText]
  dsimp only
  rw [if_pos fits]
  exact ⟨_, rfl⟩

theorem parseGciCell_of_fields {parser : AtParser} {index : Nat}
    (cell : GciCell) (few : cell.listed.length < 256) (mcc mnc : Int)
    (read : FieldsFrom parser (index + 1) cell.ownFields) :
    parseGciCell parser index cell.report.id mcc mnc =
      .ok ({ cell.report.cell with mcc := mcc, mnc := mnc },
        cell.neighbors.isSome, UInt8.ofNat cell.listed.length) := by
  obtain ⟨_, _, tac, timingAdvance, taMeasTime, earfcn, physCellId, rsrp, rsrq,
    measurementTime, serving, count, _⟩ := read
  obtain ⟨tacRead, tacKept⟩ := cell.report.tac_read tac
  have countFits : NumType.int16.Fits (cell.listed.length : Int) := by
    simp only [NumType.Fits, NumType.least, NumType.greatest]
    omega
  have servingFits : NumType.int16.Fits (if cell.neighbors.isSome then 1 else 0) := by
    cases cell.neighbors.isSome <;> decide
  have isCount : toUint8 (cell.listed.length : Int) = UInt8.ofNat cell.listed.length := by
    rw [toUint8]
    congr 1
    omega
  have isServing : decide ((if cell.neighbors.isSome then (1 : Int) else 0) ≠ 0) =
        cell.neighbors.isSome := by
    cases cell.neighbors.isSome <;> decide
  simp only [parseGciCell, tacRead, numGet_of_field timingAdvance cell.report.timingAdvance_int,
    numGet_of_field taMeasTime cell.report.timingAdvanceMeasTimeFits,
    numGet_of_field earfcn cell.report.earfcnFits,
    numGet_of_field physCellId cell.report.physCellIdFits,
    numGet_of_field rsrp cell.report.rsrpFits,
    numGet_of_field rsrq cell.report.rsrqFits,
    numGet_of_field measurementTime cell.report.measurementTimeFits,
    numGet_of_field serving servingFits, numGet_of_field count countFits,
    bind, Except.bind, pure, Except.pure, tacKept, isCount, isServing,
    toUint16_of_fits cell.report.timingAdvanceFits]
  rfl

theorem stringToInt_error {memory : Text} {base : Nat} {err : Int}
    (failed : stringToInt memory base = .error err) : err = -enodata := by
  unfold stringToInt at failed
  split at failed
  · exact (Except.error.inj failed).symm
  · split at failed
    · exact (Except.error.inj failed).symm
    · cases failed

theorem plmn_outcome (report : CellReport) (buffer behind : Text) :
    ((readMccMnc (copyTo buffer report.plmn) behind).derived = .error (-enodata) ∧
        ¬ EndsAt report.mnc (cString (buffer.drop report.plmn.length ++ behind))) ∨
      ∃ mnc, (readMccMnc (copyTo buffer report.plmn) behind).derived =
          .ok ((report.mcc : Int), mnc) ∧
        (mnc = report.mnc ↔ EndsAt report.mnc
          (cString (buffer.drop report.plmn.length ++ behind))) := by
  have isPlmn := report.isPlmn
  have ends := isPlmn.mnc_read (buffer.drop report.plmn.length) behind
  have mcc := isPlmn.mcc_read (buffer.drop report.plmn.length) behind
  rw [report.mncOf_plmn] at ends
  rw [report.mccOf_plmn] at mcc
  rw [copyTo, MccMnc.derived, mcc, ← ends]
  cases isMnc : (readMccMnc (report.plmn ++ buffer.drop report.plmn.length) behind).mnc with
  | error err =>
    left
    rw [stringToInt_error isMnc]
    refine ⟨rfl, fun same => ?_⟩
    cases same
  | ok mnc =>
    right
    exact ⟨mnc, rfl, by rw [Except.ok.injEq]⟩

def GciLoop.behindCell (cell : GciCell) (plmns : List PlmnRead) (loop : GciLoop) : GciLoop :=
  { loop with
    currIndex := loop.currIndex + gciCellParamsCount
    tmpStr := (copyTo loop.tmpStr cell.report.plmn).set 3 nul
    plmns := plmns }

theorem gciPass_outcome (cell : GciCell) (few : cell.listed.length < 256)
    (read : FieldsFrom setting.parser (loop.currIndex + 1) cell.ownFields) :
    (∃ stopped, gciPass setting loop = .error (-enodata, stopped) ∧ stopped.cells = loop.cells ∧
        ¬ cell.Ends setting loop.currIndex loop.tmpStr) ∨
      ∃ plmns, ∃ mnc : Int, (mnc = cell.report.mnc ↔ cell.Ends setting loop.currIndex loop.tmpStr) ∧
        gciPass setting loop =
          if cell.neighbors.isSome then
            (loop.behindCell cell plmns).storeServing setting { cell.report.cell with mnc := mnc }
              (UInt8.ofNat cell.listed.length)
          else
            .ok ((loop.behindCell cell plmns).storeCell { cell.report.cell with mnc := mnc }) := by
  obtain ⟨idRead, idKept⟩ := cell.report.id_read read.1
  have size := cell.report.isPlmn.1
  obtain ⟨plmns, isRead⟩ := readPlmn_of_field read.2.1 (by omega)
  rw [gciPass]
  dsimp only
  rw [idRead, isRead]
  dsimp only
  rcases plmn_outcome cell.report loop.tmpStr
      (setting.behind (loop.currIndex + 2)) with ⟨rejected, notEnded⟩ | ⟨mnc, derived, ends⟩
  · left
    rw [rejected]
    exact ⟨_, rfl, rfl, notEnded⟩
  · right
    refine ⟨plmns, mnc, ends, ?_⟩
    rw [derived]
    dsimp only
    rw [idKept, parseGciCell_of_fields cell few _ mnc read]
    rfl

/-! ## Neighbors that are read a field too early -/

theorem parseNcells_cons_ok {parser : AtParser} {left index : Nat}
    {ncell : LteLcNcell} {ncells : List LteLcNcell} :
    parseNcells parser (left + 1) index = .ok (ncell :: ncells) ↔
      parseNcell parser index = .ok ncell ∧
        parseNcells parser left (index + ncellsParamsCount) = .ok ncells := by
  rw [parseNcells]
  cases parseNcell parser index with
  | error err =>
    constructor
    · intro same
      cases same
    · intro same
      cases same.1
  | ok first =>
    cases parseNcells parser left (index + ncellsParamsCount) with
    | error err =>
      constructor
      · intro same
        cases same
      · intro same
        cases same.2
    | ok rest =>
      simp only [bind, Except.bind, pure, Except.pure, Except.ok.injEq, List.cons.injEq]

section

variable {parser : AtParser} {count index : Nat}

theorem shifted_ncell (ncell : Ncell) (few : count < 256)
    (read : FieldsFrom parser index (.number count :: ncellFields [ncell])) :
    parseNcell parser index = .ok ncell.1 ↔
      ∀ value ∈ ncellValues ncell.1, value = (count : Int) := by
  obtain ⟨isCount, isEarfcn, isPhysCellId, isRsrp, isRsrq, _⟩ := read
  obtain ⟨⟨earfcn, physCellId, rsrp, rsrq, timeDiff⟩, fits⟩ := ncell
  have countFits : NumType.uint16.Fits (count : Int) ∧
      NumType.int16.Fits (count : Int) ∧ NumType.uint32.Fits (count : Int) := by
    simp only [NumType.Fits, NumType.least, NumType.greatest]
    omega
  have physFits : NumType.int.Fits physCellId := by
    have small := fits.physCellId
    simp only [NumType.Fits, NumType.least, NumType.greatest] at small ⊢
    omega
  have values : (∀ value ∈ ncellValues ⟨earfcn, physCellId, rsrp, rsrq, timeDiff⟩,
        value = (count : Int)) ↔ earfcn = count ∧ physCellId = count ∧
          rsrp = count ∧ rsrq = count ∧ timeDiff = count := by
    simp only [ncellValues, forall_mem_cons, not_mem_nil, false_implies, implies_true, and_true]
  rw [values, parseNcell, numGet_of_field isCount countFits.2.2]
  by_cases earfcnFits : NumType.uint16.Fits earfcn
  · rw [numGet_of_field isEarfcn earfcnFits, numGet_of_field isPhysCellId physFits,
      numGet_of_field isRsrp fits.rsrp.of_int16,
      numGet_of_field isRsrq fits.rsrq.of_int16]
    simp only [bind, Except.bind, pure, Except.pure, Except.ok.injEq, LteLcNcell.mk.injEq]
    constructor
    · rintro ⟨sameEarfcn, samePhysCellId, sameRsrp, sameRsrq, sameTimeDiff⟩
      rw [← samePhysCellId, ← sameEarfcn, toInt16_of_fits countFits.2.1] at sameRsrp
      rw [← sameRsrp, toInt16_of_fits countFits.2.1] at sameRsrq
      exact ⟨sameEarfcn.symm, samePhysCellId.symm.trans sameEarfcn.symm,
        sameRsrp.symm, sameRsrq.symm, sameTimeDiff.symm.trans sameRsrq.symm⟩
    · rintro ⟨rfl, rfl, rfl, rfl, rfl⟩
      exact ⟨rfl, rfl, toInt16_of_fits countFits.2.1, toInt16_of_fits countFits.2.1, rfl⟩
  · have isNumber : parser.number (index + 1) = .ok earfcn := isEarfcn
    have unread : parser.numGet .uint16 (index + 1) = .error (-erange) := by
      rw [AtParser.numGet, isNumber]
      exact if_neg earfcnFits
    rw [unread]
    constructor
    · intro same
      cases same
    · intro same
      exact absurd (same.1 ▸ countFits.1) earfcnFits

end

theorem shifted_ncells (ncells : List Ncell) {parser : AtParser} {count : Nat} (few : count < 256) :
    ∀ {index : Nat}, FieldsFrom parser index (.number count :: ncellFields ncells) →
      (parseNcells parser ncells.length index = .ok (ncells.map Subtype.val) ↔
        ∀ ncell ∈ ncells, ∀ value ∈ ncellValues ncell.1, value = (count : Int)) := by
  induction ncells with
  | nil => exact fun _ => iff_of_true rfl fun _ member => nomatch member
  | cons ncell rest ih =>
    intro index read
    obtain ⟨isCount, earfcn, physCellId, rsrp, rsrq, timeDiff, later⟩ := read
    have first := shifted_ncell ncell few
      ⟨isCount, earfcn, physCellId, rsrp, rsrq, timeDiff, trivial⟩
    rw [length_cons, map_cons, parseNcells_cons_ok, first, forall_mem_cons]
    refine and_congr_right fun same => ih ?_
    have isTime : ncell.1.timeDiff = (count : Int) := same _ (by
      simp [ncellValues])
    rw [← isTime]
    exact ⟨timeDiff, later⟩

theorem toNat_ofNat_of_few {count : Nat} (few : count < 256) :
    (UInt8.ofNat count).toNat = count := by
  rw [UInt8.toNat_ofNat']
  exact Nat.mod_eq_of_lt few

theorem storeServing_outcome (allocated : ∀ index, setting.allocated index = true)
    (stored : LteLcCell) (neighbors : List Ncell)
    (few : neighbors.length < 256)
    (read : FieldsFrom setting.parser loop.currIndex
      (.number neighbors.length :: ncellFields neighbors)) :
    (∃ stopped, loop.storeServing setting stored
          (UInt8.ofNat neighbors.length) = .error (-efault, stopped) ∧
        ¬ NeighborsClean loop.cells.ncellsCount neighbors) ∨
      ∃ ncells ncellsCount, loop.storeServing setting stored (UInt8.ofNat neighbors.length) =
          .ok { loop with
            currIndex :=
              loop.currIndex + neighbors.length * ncellsParamsCount
            cells := { loop.cells with
              currentCell := stored
              neighborCells := ncells
              ncellsCount := ncellsCount } } ∧
        ((ncellsCount.toNat = neighbors.length ∧ (ncells.getD []).take ncellsCount.toNat =
              neighbors.map Subtype.val) ↔
          NeighborsClean loop.cells.ncellsCount neighbors) := by
  have size := toNat_ofNat_of_few few
  rw [GciLoop.storeServing]
  by_cases empty : neighbors = []
  · right
    refine ⟨loop.cells.neighborCells, loop.cells.ncellsCount, ?_, ?_⟩
    · rw [empty]
      rfl
    · rw [NeighborsClean, if_pos empty, empty]
      constructor
      · intro same
        exact UInt8.toNat_inj.mp same.1
      · intro same
        rw [same]
        exact ⟨rfl, take_zero⟩
  · have notZero : UInt8.ofNat neighbors.length ≠ 0 := by
      intro isZero
      rw [isZero] at size
      exact empty (eq_nil_of_length_eq_zero size.symm)
    have shifted := shifted_ncells neighbors few read
    have parsed : parseNcellmeasNeighbors setting (UInt8.ofNat neighbors.length) loop.currIndex =
          (parseNcells setting.parser neighbors.length loop.currIndex).toOption := by
      rw [parseNcellmeasNeighbors, if_neg notZero, allocated, if_neg (by decide), size]
    have clean : NeighborsClean loop.cells.ncellsCount neighbors ↔
        parseNcells setting.parser neighbors.length loop.currIndex =
          .ok (neighbors.map Subtype.val) := by
      rw [NeighborsClean, if_neg empty, and_iff_right few, shifted]
    rw [clean]
    dsimp only
    rw [if_neg notZero, parsed]
    cases isArray : parseNcells setting.parser neighbors.length loop.currIndex with
    | error err =>
      left
      exact ⟨_, rfl, fun same => nomatch same⟩
    | ok ncells =>
      right
      have isLength := length_parseNcells isArray
      refine ⟨some ncells, UInt8.ofNat neighbors.length, ?_, ?_⟩
      · rw [size]
        rfl
      · rw [size, and_iff_right rfl, Option.getD_some, ← isLength, take_length, Except.ok.injEq]

end

/-! ## The loop -/

structure Aligned (setting : Setting) (paramCount size : Nat)
    (cells : List GciCell) (left : Nat) (loop : GciLoop) : Prop where
  read : FieldsFrom setting.parser (loop.currIndex + 1) (gciFields cells)
  total : paramCount = loop.currIndex + (gciFields cells).length + 2
  notFew : gciCellParamsCount + 1 ≤ paramCount
  notMany : paramCount < sizeRange
  enough : cells.length ≤ left
  room : loop.HasRoom size left
  few : ∀ cell ∈ cells, cell.listed.length < 256

namespace Aligned

variable {setting : Setting} {paramCount size left : Nat} {loop : GciLoop}
  {cell : GciCell} {rest : List GciCell}

theorem bound (aligned : Aligned setting paramCount size rest left loop) :
    (paramCount + sizeRange - (gciCellParamsCount + 1)) % sizeRange =
      paramCount - (gciCellParamsCount + 1) := by
  have notFew := aligned.notFew
  have notMany := aligned.notMany
  have shift : paramCount + sizeRange - (gciCellParamsCount + 1) =
      paramCount - (gciCellParamsCount + 1) + sizeRange := by omega
  rw [shift, Nat.add_mod_right]
  exact Nat.mod_eq_of_lt (by omega)

theorem ends (aligned : Aligned setting paramCount size [] left loop) :
    parseGciLoop setting paramCount left loop = (0, loop) := by
  have total := aligned.total
  cases left with
  | zero => rfl
  | succ left =>
    rw [parseGciLoop, aligned.bound, if_neg]
    simp only [gciFields, flatMap_nil, length_nil] at total
    rw [total, gciCellParamsCount]
    omega

theorem enters (aligned : Aligned setting paramCount size (cell :: rest) (left + 1) loop) :
    parseGciLoop setting paramCount (left + 1) loop =
      match gciPass setting loop with
      | .error stopped => stopped
      | .ok next => parseGciLoop setting paramCount left next := by
  have total := aligned.total
  rw [gciFields, flatMap_cons, length_append, cell.length_fields] at total
  rw [parseGciLoop, aligned.bound]
  exact if_pos (by omega)

theorem next (aligned : Aligned setting paramCount size (cell :: rest)
      (left + 1) loop) {behind : GciLoop}
    (isIndex : behind.currIndex = loop.currIndex + cell.fields.length)
    (room : behind.HasRoom size left) :
    Aligned setting paramCount size rest left behind := by
  have read := aligned.read
  have total := aligned.total
  rw [gciFields, flatMap_cons] at read total
  rw [length_append] at total
  refine ⟨?_, ?_, aligned.notFew, aligned.notMany, Nat.le_of_succ_le_succ aligned.enough, room,
    (forall_mem_cons.mp aligned.few).2⟩
  · rw [isIndex, Nat.add_right_comm]
    exact (fieldsFrom_append.mp read).2
  · rw [isIndex, gciFields]
    omega

end Aligned

theorem Aligned.behindCell_room {setting : Setting} {paramCount size left : Nat}
    {loop : GciLoop} {cell : GciCell} {rest : List GciCell}
    (aligned : Aligned setting paramCount size (cell :: rest) left loop)
    (plmns : List PlmnRead) :
    (loop.behindCell cell plmns).HasRoom size left :=
  ⟨aligned.room.array, aligned.room.count, aligned.room.room,
    aligned.room.counted, aligned.room.inside⟩

theorem Aligned.own {setting : Setting} {paramCount size left : Nat}
    {loop : GciLoop} {cell : GciCell} {rest : List GciCell}
    (aligned : Aligned setting paramCount size (cell :: rest) left loop) :
    FieldsFrom setting.parser (loop.currIndex + 1) cell.ownFields ∧
      FieldsFrom setting.parser (loop.currIndex + gciCellParamsCount)
        (.number cell.listed.length :: ncellFields cell.listed) := by
  have read := aligned.read
  rw [gciFields, flatMap_cons, GciCell.fields, fieldsFrom_append, fieldsFrom_append] at read
  obtain ⟨⟨own, ncells⟩, _⟩ := read
  obtain ⟨_, _, _, _, _, _, _, _, _, _, _, count, _⟩ := id own
  exact ⟨own, count, ncells⟩

def Serves (cells : List GciCell) (after : LteLcCellsInfo) : Prop :=
  ∀ cell ∈ cells, ∀ neighbors, cell.neighbors = some neighbors →
    ServingDecoded cell.report neighbors after

/-- The neighbours of a serving cell are read as they are in the report. -/
def AllNeighborsClean (ncellsCount : UInt8) (cells : List GciCell) : Prop :=
  ∀ cell ∈ cells, ∀ neighbors, cell.neighbors = some neighbors →
    NeighborsClean ncellsCount neighbors

def Decoded (cells : List GciCell) (loop : GciLoop) (result : Int × GciLoop) :
    Prop :=
  result.1 = 0 ∧ result.2.cells.gciList = loop.cells.gciList ++ nonServing cells ∧
      Serves cells result.2.cells

structure KeepsServing (before after : LteLcCellsInfo) : Prop where
  cell : after.currentCell = before.currentCell
  neighbors : after.neighborCells = before.neighborCells
  count : after.ncellsCount = before.ncellsCount

section

variable {setting : Setting} {paramCount size left : Nat} {loop : GciLoop}

theorem keepsServing {cells : List GciCell} (others : ∀ cell ∈ cells, cell.neighbors = none) :
    ∀ {left : Nat} {loop : GciLoop}, Aligned setting paramCount size cells left loop →
      KeepsServing loop.cells (parseGciLoop setting paramCount left loop).2.cells := by
  induction cells with
  | nil =>
    intro left loop aligned
    rw [aligned.ends]
    exact ⟨rfl, rfl, rfl⟩
  | cons cell rest ih =>
    intro left loop aligned
    obtain ⟨notServing, restOthers⟩ := forall_mem_cons.mp others
    cases left with
    | zero => exact absurd aligned.enough (Nat.not_succ_le_zero _)
    | succ left =>
      have few := aligned.few cell mem_cons_self
      have noNeighbors : cell.listed = [] := by
        rw [GciCell.listed, notServing]
        rfl
      rw [aligned.enters]
      rcases gciPass_outcome cell few aligned.own.1 with
        ⟨stopped, passed, same, _⟩ | ⟨plmns, mnc, _, passed⟩
      · rw [passed]
        dsimp only
        rw [same]
        exact ⟨rfl, rfl, rfl⟩
      · rw [notServing] at passed
        rw [passed]
        obtain ⟨room, _⟩ := (aligned.behindCell_room plmns).storeCell
          { cell.report.cell with mnc := mnc }
        have kept := ih restOthers (aligned.next (by
          rw [cell.length_fields, noNeighbors]
          rfl) room)
        exact ⟨kept.cell, kept.neighbors, kept.count⟩

theorem serves_cons {cell : GciCell} {rest : List GciCell} {after : LteLcCellsInfo} :
    Serves (cell :: rest) after ↔ (∀ neighbors, cell.neighbors = some neighbors →
        ServingDecoded cell.report neighbors after) ∧ Serves rest after :=
  forall_mem_cons

theorem allNeighborsClean_cons {cell : GciCell} {rest : List GciCell} {ncellsCount : UInt8} :
    AllNeighborsClean ncellsCount (cell :: rest) ↔
      (∀ neighbors, cell.neighbors = some neighbors → NeighborsClean ncellsCount neighbors) ∧
        AllNeighborsClean ncellsCount rest :=
  forall_mem_cons

theorem decoded_stored {cell : GciCell} {rest : List GciCell}
    (aligned : Aligned setting paramCount size (cell :: rest) (left + 1) loop)
    (notServing : cell.neighbors = none) {plmns : List PlmnRead} {mnc : Int}
    (ends : mnc = cell.report.mnc ↔ cell.Ends setting loop.currIndex loop.tmpStr)
    (later : ∀ {behind : GciLoop}, Aligned setting paramCount size rest left behind →
        (Decoded rest behind (parseGciLoop setting paramCount left behind) ↔
          PlmnsEnd setting behind.currIndex behind.tmpStr rest ∧
            AllNeighborsClean behind.cells.ncellsCount rest)) :
    Decoded (cell :: rest) loop (parseGciLoop setting paramCount left
        ((loop.behindCell cell plmns).storeCell { cell.report.cell with mnc := mnc })) ↔
      PlmnsEnd setting loop.currIndex loop.tmpStr (cell :: rest) ∧
        AllNeighborsClean loop.cells.ncellsCount (cell :: rest) := by
  obtain ⟨room, stored⟩ := (aligned.behindCell_room plmns).storeCell
    { cell.report.cell with mnc := mnc }
  have isIndex : loop.currIndex + gciCellParamsCount = loop.currIndex + cell.fields.length := by
    rw [cell.length_fields, GciCell.listed, notServing]
    rfl
  have isLater := later (aligned.next isIndex room)
  have isList : nonServing (cell :: rest) = cell.report.cell :: nonServing rest := by
    rw [nonServing, filter_cons_of_pos (by rw [notServing]; rfl)]
    rfl
  have vacuous : ∀ {statement : List Ncell → Prop},
      ∀ neighbors, cell.neighbors = some neighbors → statement neighbors := by
    intro statement neighbors isSome
    rw [notServing] at isSome
    cases isSome
  rw [Decoded, isList, serves_cons, and_iff_right vacuous,
    allNeighborsClean_cons, and_iff_right vacuous, PlmnsEnd, ← ends,
    ← isIndex, and_assoc]
  rw [Decoded, stored] at isLater
  constructor
  · rintro ⟨noError, isGciList, serves⟩
    have kept : _ <+: (parseGciLoop setting paramCount left _).2.cells.gciList :=
      (room.run (prefix_refl _)).2
    rw [stored, isGciList] at kept
    have first := (prefix_append_right_inj loop.cells.gciList).mp kept
    have same : mnc = cell.report.mnc :=
      congrArg LteLcCell.mnc (cons_prefix_cons.mp first).1
    refine ⟨same, isLater.mp ⟨noError, ?_, serves⟩⟩
    rw [isGciList, same]
    exact append_cons _ _ _
  · rintro ⟨same, clean⟩
    obtain ⟨noError, isGciList, serves⟩ := isLater.mpr clean
    refine ⟨noError, ?_, serves⟩
    rw [isGciList, same]
    exact (append_cons _ _ _).symm

theorem decoded_serving (allocated : ∀ index, setting.allocated index = true)
    {cell : GciCell} {rest : List GciCell}
    (aligned : Aligned setting paramCount size (cell :: rest) (left + 1) loop)
    {neighbors : List Ncell} (serving : cell.neighbors = some neighbors)
    (others : ∀ other ∈ rest, other.neighbors = none)
    {plmns : List PlmnRead} {mnc : Int}
    (ends : mnc = cell.report.mnc ↔ cell.Ends setting loop.currIndex loop.tmpStr)
    (passed : gciPass setting loop = (loop.behindCell cell plmns).storeServing setting
        { cell.report.cell with mnc := mnc } (UInt8.ofNat neighbors.length))
    (later : ∀ {behind : GciLoop}, Aligned setting paramCount size rest left behind →
        (Decoded rest behind (parseGciLoop setting paramCount left behind) ↔
          PlmnsEnd setting behind.currIndex behind.tmpStr rest ∧
            AllNeighborsClean behind.cells.ncellsCount rest)) :
    Decoded (cell :: rest) loop (parseGciLoop setting paramCount (left + 1) loop) ↔
      PlmnsEnd setting loop.currIndex loop.tmpStr (cell :: rest) ∧
        AllNeighborsClean loop.cells.ncellsCount (cell :: rest) := by
  have isListed : cell.listed = neighbors := by
    rw [GciCell.listed, serving]
    rfl
  have few := aligned.few cell mem_cons_self
  have read := aligned.own.2
  rw [isListed] at few read
  have isList : nonServing (cell :: rest) = nonServing rest := by
    rw [nonServing, filter_cons_of_neg (by rw [serving]; simp)]
    rfl
  have own : ∀ {statement : List Ncell → Prop},
      (∀ listed, cell.neighbors = some listed → statement listed) ↔ statement neighbors := by
    intro statement
    simp only [serving, Option.some.injEq, forall_eq']
  have noServing : ∀ {after : LteLcCellsInfo}, Serves rest after := by
    intro after other member neighbors isSome
    rw [others other member] at isSome
    cases isSome
  have noNeighbors : ∀ {ncellsCount : UInt8}, AllNeighborsClean ncellsCount rest := by
    intro ncellsCount other member neighbors isSome
    rw [others other member] at isSome
    cases isSome
  rw [aligned.enters, passed, Decoded, isList, serves_cons, own,
    and_iff_left noServing, allNeighborsClean_cons, own,
    and_iff_left noNeighbors, PlmnsEnd, ← ends]
  rcases @storeServing_outcome setting (loop.behindCell cell plmns) allocated
      { cell.report.cell with mnc := mnc } neighbors few read with
    ⟨stopped, isError, notClean⟩ | ⟨ncells, ncellsCount, isNext, clean⟩
  · rw [isError]
    constructor
    · intro decoded
      exact absurd decoded.1 (show -efault ≠ 0 by decide)
    · intro holds
      exact absurd holds.2 notClean
  · rw [isNext]
    dsimp only
    have room := aligned.room.fewer (Nat.le_succ left)
    have isIndex : loop.currIndex + gciCellParamsCount +
        neighbors.length * ncellsParamsCount = loop.currIndex + cell.fields.length := by
      rw [cell.length_fields, isListed, Nat.add_assoc]
    have behindNeighbors : Aligned setting paramCount size rest left
        { loop.behindCell cell plmns with
          currIndex := (loop.behindCell cell plmns).currIndex + neighbors.length * ncellsParamsCount
          cells := { (loop.behindCell cell plmns).cells with
            currentCell := { cell.report.cell with mnc := mnc }
            neighborCells := ncells
            ncellsCount := ncellsCount } } :=
      aligned.next isIndex ⟨room.array, room.count, room.room, room.counted, room.inside⟩
    have isLater := later behindNeighbors
    rw [Decoded, and_iff_left noServing, and_iff_left noNeighbors] at isLater
    have kept := keepsServing others behindNeighbors
    rw [← isIndex]
    constructor
    · rintro ⟨noError, isGciList, serves⟩
      have isCell := kept.cell.symm.trans serves.cell
      have isCount := serves.count
      have isNcells := serves.neighbors
      rw [LteLcCellsInfo.ncellList, kept.neighbors, kept.count] at isNcells
      rw [kept.count] at isCount
      exact ⟨⟨congrArg LteLcCell.mnc isCell, isLater.mp ⟨noError, isGciList⟩⟩,
        clean.mp ⟨isCount, isNcells⟩⟩
    · rintro ⟨⟨same, plmnsEnd⟩, neighborsClean⟩
      obtain ⟨noError, isGciList⟩ := isLater.mpr plmnsEnd
      obtain ⟨isCount, isNcells⟩ := clean.mpr neighborsClean
      refine ⟨noError, isGciList, ?_, ?_, ?_⟩
      · rw [kept.cell, same]
        rfl
      · rw [kept.count]
        exact isCount
      · rw [LteLcCellsInfo.ncellList, kept.neighbors, kept.count]
        exact isNcells

theorem decoded_iff (allocated : ∀ index, setting.allocated index = true)
    {cells : List GciCell} (oneServing : cells.Pairwise fun first second =>
      first.neighbors = none ∨ second.neighbors = none) :
    ∀ {left : Nat} {loop : GciLoop}, Aligned setting paramCount size cells left loop →
      (Decoded cells loop (parseGciLoop setting paramCount left loop) ↔
        PlmnsEnd setting loop.currIndex loop.tmpStr cells ∧
          AllNeighborsClean loop.cells.ncellsCount cells) := by
  induction cells with
  | nil =>
    intro left loop aligned
    rw [aligned.ends]
    refine iff_of_true ⟨rfl, (append_nil _).symm, ?_⟩ ⟨trivial, ?_⟩
    · exact fun _ member => nomatch member
    · exact fun _ member => nomatch member
  | cons cell rest ih =>
    intro left loop aligned
    obtain ⟨restOthers, restOne⟩ := pairwise_cons.mp oneServing
    cases left with
    | zero => exact absurd aligned.enough (Nat.not_succ_le_zero _)
    | succ left =>
      have few := aligned.few cell mem_cons_self
      rcases gciPass_outcome cell few aligned.own.1 with
        ⟨stopped, passed, _, notEnded⟩ | ⟨plmns, mnc, ends, passed⟩
      · rw [aligned.enters, passed]
        constructor
        · intro decoded
          exact absurd decoded.1 (show -enodata ≠ 0 by decide)
        · intro holds
          exact absurd holds.1.1 notEnded
      · cases isServing : cell.neighbors with
        | none =>
          rw [isServing] at passed
          rw [aligned.enters, passed]
          exact decoded_stored aligned isServing ends (ih restOne)
        | some neighbors =>
          rw [GciCell.listed, isServing] at passed
          refine decoded_serving allocated aligned isServing ?_ ends passed (ih restOne)
          intro other member
          rcases restOthers other member with none | isNone
          · rw [isServing] at none
            cases none
          · exact isNone

end

/-! ## Decoding a notification -/

namespace GciReport

variable (report : GciReport)

theorem fields_clean : ∀ field ∈ report.fields, field.Clean := by
  refine forall_mem_cons.mpr ⟨trivial, ?_⟩
  intro field member
  obtain ⟨cell, _, isField⟩ := mem_flatMap.mp member
  exact cell.fields_clean field isField

theorem length_gciFields_le {cells : List GciCell}
    (few : ∀ cell ∈ cells, cell.listed.length < 256) :
    (gciFields cells).length ≤ cells.length * 1287 := by
  induction cells with
  | nil => exact Nat.le_refl 0
  | cons cell rest ih =>
    obtain ⟨fewFirst, fewRest⟩ := forall_mem_cons.mp few
    have later := ih fewRest
    have own := cell.length_fields
    rw [gciCellParamsCount, ncellsParamsCount] at own
    rw [gciFields, flatMap_cons, length_append, length_cons, own]
    rw [gciFields] at later
    omega

end GciReport

section

variable {report : GciReport} {setting : Setting} {gciCount : UInt8}

theorem gci_status (sent : Sent setting report.fields) :
    setting.parser.numGet .int 1 = .ok (if report.incomplete then 2 else 0) :=
  numGet_of_field sent.reads.inOrder.1 (by cases report.incomplete <;> decide)

variable (gciCount) in
theorem gci_empty (sent : Sent setting report.fields) (none : report.cells = [])
    (tmpStr : Text) (cells : LteLcCellsInfo) :
    ((parseNcellmeasGci setting gciCount tmpStr cells).1 = 0 ↔
      report.incomplete = true ∨ gciCount = 0) ∧
    (parseNcellmeasGci setting gciCount tmpStr cells).2.cells.gciCellsCount = 0 := by
  have isFields : report.fields = [.number (if report.incomplete then 2 else 0)] := by
    rw [GciReport.fields, none]
    rfl
  have commas := sent.commas (cons_ne_nil _ _) report.fields_clean
    (by rw [isFields]; exact (show 1 < sizeRange by decide))
  have isZero : setting.commas = 0 := by
    rw [isFields] at commas
    exact Nat.succ.inj commas
  obtain ⟨err, negative, unread⟩ := sent.reads.beyond 2 (by
    rw [isFields]
    exact Nat.lt_succ_self 1)
  rw [parseNcellmeasGci, gci_status sent, isZero]
  dsimp only
  cases report.incomplete with
  | true => exact ⟨iff_of_true rfl (.inl rfl), rfl⟩
  | false =>
    rw [if_neg (by decide), if_neg (by decide)]
    by_cases noPass : gciCount = 0
    · rw [noPass]
      exact ⟨iff_of_true rfl (.inr rfl), rfl⟩
    · obtain ⟨left, isLeft⟩ := Nat.exists_eq_succ_of_ne_zero
        fun isZero => noPass (UInt8.toNat_inj.mp isZero)
      have failed : stringParamToInt setting.parser 2 16 = .error err := by
        rw [stringParamToInt, AtParser.stringGet, unread]
      rw [isLeft, parseGciLoop, gciPass]
      dsimp only
      rw [failed, if_pos (show 1 < ((0 + 3) % sizeRange + sizeRange -
        (gciCellParamsCount + 1)) % sizeRange by decide)]
      refine ⟨iff_of_false ?_ ?_, rfl⟩
      · intro isOk
        have noError : err = 0 := isOk
        omega
      · exact fun early => early.elim (by decide) noPass

theorem gci_reached {cells : LteLcCellsInfo} {array : List LteLcCell}
    (tmpStr : Text) (sent : Sent setting report.fields)
    (nonempty : report.cells ≠ [])
    (few : ∀ cell ∈ report.cells, cell.listed.length < 256)
    (enough : report.cells.length ≤ gciCount.toNat)
    (isArray : cells.gciCells = some array)
    (long : gciCount.toNat ≤ array.length) :
    Aligned setting (report.fields.length + 2) array.length report.cells
        gciCount.toNat ⟨1, tmpStr, 0, { cells with gciCellsCount := 0 }, false, []⟩ ∧
      parseNcellmeasGci setting gciCount tmpStr cells =
        parseGciLoop setting (report.fields.length + 2) gciCount.toNat
          ⟨1, tmpStr, 0, { cells with gciCellsCount := 0 }, false, []⟩ := by
  have isLength : report.fields.length = (gciFields report.cells).length + 1 :=
    length_cons
  have atMost := GciReport.length_gciFields_le few
  have small := UInt8.toNat_lt gciCount
  have short : report.fields.length + 2 < sizeRange := by
    rw [isLength, sizeRange]
    omega
  have commas := sent.commas (cons_ne_nil _ _) report.fields_clean (by omega)
  have atLeast : gciCellParamsCount ≤ (gciFields report.cells).length := by
    obtain ⟨cell, rest, isCons⟩ := exists_cons_of_ne_nil nonempty
    rw [isCons, gciFields, flatMap_cons, length_append, cell.length_fields]
    omega
  have isCount : (setting.commas + 3) % sizeRange = report.fields.length + 2 := by
    rw [← commas]
    exact Nat.mod_eq_of_lt (by omega)
  refine ⟨⟨sent.reads.inOrder.2, ?_, by omega, short, enough, ?_, few⟩, ?_⟩
  · rw [isLength]
    dsimp only
    omega
  · exact ⟨⟨array, isArray, rfl⟩, rfl, by simpa using long, by simpa using small,
      rfl⟩
  · rw [parseNcellmeasGci, gci_status sent, isCount]
    dsimp only
    rw [if_neg (by cases report.incomplete <;> decide), if_neg]
    intro early
    rw [gciCellParamsCount] at atLeast
    omega

/-- `parse_ncellmeas_gci` gives back the cells that a notification reports
exactly under these conditions. -/
theorem parseNcellmeasGci_decodes_iff (report : GciReport) (setting : Setting)
    (gciCount : UInt8) (tmpStr : Text) (cells : LteLcCellsInfo)
    (array : List LteLcCell) (sent : Sent setting report.fields)
    (enough : report.cells.length ≤ gciCount.toNat)
    (isArray : cells.gciCells = some array)
    (long : gciCount.toNat ≤ array.length)
    (allocated : ∀ index, setting.allocated index = true) :
    ((parseNcellmeasGci setting gciCount tmpStr cells).1 = 0 ∧ GciDecoded report.cells
          (parseNcellmeasGci setting gciCount tmpStr cells).2.cells) ↔
      (report.cells = [] → report.incomplete = true ∨ gciCount = 0) ∧
        PlmnsEnd setting 1 tmpStr report.cells ∧
          AllNeighborsClean cells.ncellsCount report.cells := by
  by_cases empty : report.cells = []
  · obtain ⟨noError, noCells⟩ := gci_empty gciCount sent empty tmpStr cells
    have isDecoded : GciDecoded report.cells
        (parseNcellmeasGci setting gciCount tmpStr cells).2.cells := by
      rw [empty]
      refine ⟨?_, ?_, fun _ member => nomatch member⟩
      · rw [LteLcCellsInfo.gciList, noCells]
        exact take_zero
      · rw [noCells]
        rfl
    have noServing : AllNeighborsClean cells.ncellsCount report.cells := by
      rw [empty]
      exact fun _ member => nomatch member
    have noPlmns : PlmnsEnd setting 1 tmpStr report.cells := by
      rw [empty]
      trivial
    rw [noError, and_iff_left isDecoded, and_iff_left ⟨noPlmns, noServing⟩,
      forall_prop_of_true empty]
  · rw [and_iff_right fun none => absurd none empty]
    by_cases few : ∀ cell ∈ report.cells, cell.listed.length < 256
    · obtain ⟨aligned, reached⟩ := gci_reached tmpStr sent empty few enough isArray long
      rw [reached, ← decoded_iff allocated report.oneServing aligned, Decoded]
      have nothing : LteLcCellsInfo.gciList { cells with gciCellsCount := 0 } = [] := take_zero
      have size : (parseGciLoop setting (report.fields.length + 2)
          _ _).2.cells.gciList.length = _ :=
        (aligned.room.run nil_prefix).1.length_gciList
      rw [nothing, nil_append]
      constructor
      · rintro ⟨noError, decoded⟩
        exact ⟨noError, decoded.gciCells, decoded.serving⟩
      · rintro ⟨noError, isGciList, serves⟩
        refine ⟨noError, isGciList, ?_, serves⟩
        rw [← size, isGciList]
    · obtain ⟨cell, member, many⟩ := not_forall₂.mp few
      obtain ⟨neighbors, isNeighbors⟩ : ∃ neighbors, cell.neighbors = some neighbors := by
        cases isNeighbors : cell.neighbors with
        | none =>
          rw [GciCell.listed, isNeighbors] at many
          exact absurd (by decide) many
        | some neighbors => exact ⟨neighbors, rfl⟩
      rw [GciCell.listed, isNeighbors, Option.getD_some] at many
      constructor
      · intro decoded
        have isCount := (decoded.2.serving cell member neighbors isNeighbors).count
        exact absurd (isCount ▸ UInt8.toNat_lt _) many
      · intro holds
        have clean := holds.2 cell member neighbors isNeighbors
        rw [NeighborsClean, if_neg] at clean
        · exact absurd clean.1 many
        · intro none
          rw [none] at many
          exact absurd (by decide) many

end

def oneNeighbor : GciReport where
  incomplete := false
  cells := [⟨reportedCell,
    some [⟨⟨100, 8, 50, 20, 4⟩, by decide, by decide, by decide, by decide, by decide⟩]⟩]
  oneServing := pairwise_singleton _ _

def oneNeighborSetting : Setting where
  response := notificationText oneNeighbor.fields
  parser := fieldsParser oneNeighbor.fields
  behind _ := []
  allocated _ := true

def fiveCells : LteLcCellsInfo :=
  ⟨zeroCell, none, 0, some (replicate 5 zeroCell), 0⟩

theorem parseNcellmeasGci_decodes_iff_oneNeighbor :
    ((parseNcellmeasGci oneNeighborSetting 5 (replicate 7 nul) fiveCells).1 = 0 ∧
        GciDecoded oneNeighbor.cells (parseNcellmeasGci oneNeighborSetting 5
          (replicate 7 nul) fiveCells).2.cells) ↔
      (oneNeighbor.cells = [] → oneNeighbor.incomplete = true ∨ (5 : UInt8) = 0) ∧
        PlmnsEnd oneNeighborSetting 1 (replicate 7 nul) oneNeighbor.cells ∧
          AllNeighborsClean 0 oneNeighbor.cells :=
  parseNcellmeasGci_decodes_iff oneNeighbor oneNeighborSetting 5
    (replicate 7 nul) fiveCells (replicate 5 zeroCell)
    ⟨rfl, fieldsParser_reads _⟩ (by decide) rfl (by decide) fun _ => rfl

/-- The neighbor is read from the count on. -/
theorem oneNeighbor_not_decoded :
    ¬ ((parseNcellmeasGci oneNeighborSetting 5 (replicate 7 nul) fiveCells).1 = 0 ∧
        GciDecoded oneNeighbor.cells (parseNcellmeasGci oneNeighborSetting 5
          (replicate 7 nul) fiveCells).2.cells) := by
  have shifted : (parseNcellmeasGci oneNeighborSetting 5 (replicate 7 nul)
      fiveCells).2.cells.ncellList = [⟨1, 100, 8, 50, 20⟩] := by
    decide
  rintro ⟨_, decoded⟩
  have isNeighbor := (decoded.serving _ mem_cons_self _ rfl).neighbors
  rw [shifted] at isNeighbor
  exact absurd isNeighbor (by decide)

end SerialModem.Ncellmeas
