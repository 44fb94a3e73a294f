import SerialModem.Ncellmeas.Plmn

/-!
# Decoding the current cell and its neighbors

`parse_ncellmeas` counts commas to find out how many neighbors there are, and
whether the measurement time of the timing advance comes behind them.
-/

namespace SerialModem.Ncellmeas

open Library List
open NrfCloud (LteLcCell LteLcNcell neighborcellCountGet
  preNcellsParamsCount ncellsParamsCount sizeRange zeroCell)

/-- A report of the serving cell and of up to 17 neighbours. -/
structure NeighborReport where
  incomplete : Bool
  current : CellReport
  neighbors : List Ncell
  taMeasTime : Option { time : Int // NumType.uint64.Fits time }
  neighborsFit : neighbors.length ≤ 17

namespace NeighborReport

def currentFields (report : NeighborReport) : List Field :=
  [.number (if report.incomplete then 2 else 0),
    .string report.current.idText, .string report.current.plmn,
    .string report.current.tacText, .number report.current.timingAdvance,
    .number report.current.earfcn, .number report.current.physCellId,
    .number report.current.rsrp, .number report.current.rsrq,
    .number report.current.measurementTime]

def timeFields (report : NeighborReport) : List Field :=
  report.taMeasTime.toList.map fun time => .number time.1

def fields (report : NeighborReport) : List Field :=
  report.currentFields ++ (ncellFields report.neighbors ++ report.timeFields)

def cell (report : NeighborReport) : LteLcCell :=
  { report.current.cell with
    timingAdvanceMeasTime := (report.taMeasTime.map Subtype.val).getD 0 }

variable (report : NeighborReport)

theorem length_fields : report.fields.length =
    10 + report.neighbors.length * ncellsParamsCount + report.taMeasTime.toList.length := by
  rw [fields, length_append, length_append, length_ncellFields,
    timeFields, length_map, Nat.add_assoc]
  rfl

theorem fields_clean : ∀ field ∈ report.fields, field.Clean := by
  have plmn : ',' ∉ report.current.plmn :=
    comma_not_mem_digits fun digit member => by
      rw [isDigitOf_ten]
      exact report.current.plmn_digits digit member
  have current : ∀ field ∈ report.currentFields, field.Clean := by
    intro field member
    simp only [currentFields, mem_cons, not_mem_nil, or_false] at member
    rcases member with rfl | rfl | rfl | rfl | rfl | rfl | rfl | rfl | rfl | rfl
    · trivial
    · exact comma_not_mem_fixedDigits (by decide) (by decide)
    · exact plmn
    · exact comma_not_mem_fixedDigits (by decide) (by decide)
    all_goals trivial
  have numbers : ∀ field ∈ ncellFields report.neighbors ++ report.timeFields, field.Clean := by
    intro field member
    rcases mem_append.mp member with inNcells | inTime
    · obtain ⟨value, _, rfl⟩ := List.mem_map.mp inNcells
      trivial
    · obtain ⟨time, _, rfl⟩ := List.mem_map.mp inTime
      trivial
  exact forall_mem_append.mpr ⟨current, numbers⟩

end NeighborReport

theorem neighborcellCountGet_of_fields {ncells times commas : Nat} (atMostOne : times ≤ 1)
    (isCount : commas + 1 = 10 + ncells * ncellsParamsCount + times) :
    neighborcellCountGet commas = ncells := by
  simp only [ncellsParamsCount] at isCount
  unfold neighborcellCountGet
  by_cases few : commas < preNcellsParamsCount
  · rw [if_pos few]
    simp only [preNcellsParamsCount] at few
    omega
  · rw [if_neg few]
    simp only [preNcellsParamsCount] at few
    simp only [preNcellsParamsCount, ncellsParamsCount]
    omega

section

variable {report : NeighborReport} {setting : Setting}

theorem NeighborReport.short (report : NeighborReport) : report.fields.length < sizeRange := by
  have few := report.neighborsFit
  have times := Option.length_toList_le (o := report.taMeasTime)
  rw [report.length_fields]
  simp only [ncellsParamsCount, sizeRange]
  omega

theorem currentCell_stored {cell : LteLcCell}
    (read : FieldsFrom setting.parser 1 report.currentFields) :
    storeFields (currentCellFields setting) cell =
      (.ok (), { report.current.cell with
        timingAdvanceMeasTime := cell.timingAdvanceMeasTime }) := by
  obtain ⟨_, id, plmn, tac, timingAdvance, earfcn, physCellId, rsrp, rsrq,
    measurementTime, _⟩ := read
  obtain ⟨idRead, idKept⟩ := report.current.id_read id
  obtain ⟨tacRead, tacKept⟩ := report.current.tac_read tac
  have derived := report.current.isPlmn.param_derived plmn (setting.behind 3)
  rw [report.current.mccOf_plmn, report.current.mncOf_plmn, derived_ok_iff] at derived
  simp only [currentCellFields, idRead, derived.1, derived.2, tacRead,
    numGet_of_field timingAdvance report.current.timingAdvance_int,
    numGet_of_field earfcn report.current.earfcnFits,
    numGet_of_field physCellId report.current.physCellIdFits,
    numGet_of_field rsrp report.current.rsrpFits.of_int16,
    numGet_of_field rsrq report.current.rsrqFits.of_int16,
    numGet_of_field measurementTime report.current.measurementTimeFits,
    storeFields, idKept, tacKept,
    toUint16_of_fits report.current.timingAdvanceFits,
    toInt16_of_fits report.current.rsrpFits,
    toInt16_of_fits report.current.rsrqFits]
  rfl

theorem taMeasTime_read {index : Nat} (read : FieldsFrom setting.parser index report.timeFields)
    (isIndex : index = preNcellsParamsCount +
      (UInt8.ofNat report.neighbors.length).toNat * ncellsParamsCount) :
    taMeasTime setting.parser (index + report.taMeasTime.toList.length)
        (UInt8.ofNat report.neighbors.length) =
      .ok report.cell.timingAdvanceMeasTime := by
  unfold taMeasTime NeighborReport.cell
  dsimp only
  rw [← isIndex]
  unfold NeighborReport.timeFields at read
  cases isTime : report.taMeasTime with
  | none => exact if_neg (Nat.lt_irrefl index)
  | some time =>
    rw [isTime] at read
    refine (if_pos (Nat.lt_succ_self index)).trans ?_
    exact numGet_of_field read.1 time.2

theorem neighbors_parsed {index : Nat}
    (read : FieldsFrom setting.parser index (ncellFields report.neighbors))
    (nonempty : report.neighbors ≠ [])
    (allocated : setting.allocated index = true) :
    parseNcellmeasNeighbors setting (UInt8.ofNat report.neighbors.length)
        index = some (report.neighbors.map Subtype.val) := by
  have few := report.neighborsFit
  have some := length_pos_iff.mpr nonempty
  have size : (UInt8.ofNat report.neighbors.length).toNat = report.neighbors.length := by
    rw [UInt8.toNat_ofNat']
    exact Nat.mod_eq_of_lt (by omega)
  have notZero : UInt8.ofNat report.neighbors.length ≠ 0 := by
    intro isZero
    rw [isZero] at size
    exact absurd size (by rw [UInt8.toNat_zero]; omega)
  rw [parseNcellmeasNeighbors, if_neg notZero, allocated]
  rw [if_neg (by decide), size, parseNcells_of_fields _ read]
  rfl

end

/-- `parse_ncellmeas` gives back what a notification reports. -/
theorem parseNcellmeas_decodes (report : NeighborReport) (setting : Setting)
    (cells : LteLcCellsInfo) (sent : Sent setting report.fields)
    (allocated : report.neighbors ≠ [] → setting.allocated 11 = true) :
    ∃ after, parseNcellmeas setting cells = (0, after) ∧ after.currentCell = report.cell ∧
      after.ncellsCount.toNat = report.neighbors.length ∧
      (report.neighbors ≠ [] → after.neighborCells = some (report.neighbors.map Subtype.val)) ∧
      after.gciCells = cells.gciCells ∧
      after.gciCellsCount = cells.gciCellsCount := by
  have few := report.neighborsFit
  have size : (UInt8.ofNat report.neighbors.length).toNat = report.neighbors.length := by
    rw [UInt8.toNat_ofNat']
    exact Nat.mod_eq_of_lt (by omega)
  have inOrder := sent.reads.inOrder
  rw [NeighborReport.fields, fieldsFrom_append, fieldsFrom_append, length_ncellFields] at inOrder
  obtain ⟨currentRead, neighborsRead, timeRead⟩ := inOrder
  have counted : neighborcellCountGet setting.commas = report.neighbors.length := by
    have commas := sent.commas (cons_ne_nil _ _) report.fields_clean report.short
    rw [report.length_fields] at commas
    exact neighborcellCountGet_of_fields Option.length_toList_le commas
  have time := taMeasTime_read timeRead (by rw [size]; rfl)
  have isCount : report.fields.length + 1 = 1 + report.currentFields.length +
        report.neighbors.length * ncellsParamsCount + report.taMeasTime.toList.length := by
    rw [report.length_fields, show report.currentFields.length = 10 from rfl]
    omega
  have parsed : parseCells setting (report.fields.length + 1) cells =
      parseNeighbors setting { cells with
        currentCell := report.cell
        ncellsCount := UInt8.ofNat report.neighbors.length } := by
    rw [parseCells, currentCell_stored currentRead]
    dsimp only
    rw [counted, isCount, time]
    rfl
  have status : setting.parser.numGet .int 1 = .ok (if report.incomplete then 2 else 0) :=
    numGet_of_field currentRead.1 (by cases report.incomplete <;> decide)
  have reached : parseNcellmeas setting cells =
      parseCells setting (report.fields.length + 1) cells := by
    rw [parseNcellmeas, sent.reads.count, status]
    dsimp only
    rw [if_neg (by cases report.incomplete <;> decide), if_neg]
    rw [report.length_fields]
    omega
  rw [reached, parsed, parseNeighbors]
  by_cases none : report.neighbors = []
  · have isZero : UInt8.ofNat report.neighbors.length = 0 := by rw [none]; rfl
    rw [if_pos isZero]
    exact ⟨_, rfl, rfl, size, fun some => absurd none some, rfl, rfl⟩
  · have notZero : UInt8.ofNat report.neighbors.length ≠ 0 := by
      intro isZero
      rw [isZero] at size
      exact none (eq_nil_of_length_eq_zero size.symm)
    rw [if_neg notZero]
    have found := neighbors_parsed neighborsRead none (allocated none)
    dsimp only
    rw [show preNcellsParamsCount = 1 + report.currentFields.length from rfl, found]
    exact ⟨_, rfl, rfl, size, fun _ => rfl, rfl, rfl⟩

def twoNeighbors : NeighborReport where
  incomplete := false
  current := reportedCell
  neighbors := [⟨⟨8, 60, 29, 0, 4⟩, by decide, by decide, by decide, by decide,
    by decide⟩, ⟨⟨9, 61, -30, -1, -20⟩, by decide, by decide, by decide,
    by decide, by decide⟩]
  taMeasTime := some ⟨11, by decide⟩
  neighborsFit := by decide

def twoNeighborsSetting : Setting where
  response := notificationText twoNeighbors.fields
  parser := fieldsParser twoNeighbors.fields
  behind _ := []
  allocated _ := true

theorem parseNcellmeas_decodes_twoNeighbors :
    ∃ after, parseNcellmeas twoNeighborsSetting ⟨zeroCell, none, 0, none, 0⟩ = (0, after) ∧
      after.currentCell = twoNeighbors.cell ∧ after.ncellsCount.toNat = 2 ∧
      (twoNeighbors.neighbors ≠ [] → after.neighborCells =
        some [⟨8, 60, 29, 0, 4⟩, ⟨9, 61, -30, -1, -20⟩]) ∧
      after.gciCells = none ∧ after.gciCellsCount = 0 :=
  parseNcellmeas_decodes twoNeighbors twoNeighborsSetting
    ⟨zeroCell, none, 0, none, 0⟩ ⟨rfl, fieldsParser_reads _⟩ fun _ => rfl

end SerialModem.Ncellmeas
