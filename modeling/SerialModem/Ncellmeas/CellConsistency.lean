import SerialModem.Ncellmeas.GciArray
import SerialModem.NrfCloud.System

/-!
# Consistency of the cell data

`parse_ncellmeas` stores the count of the neighbors before it has read them.
Where one of them cannot be read, the count is left without an array, and the
data goes to the location request like that.  `parse_ncellmeas_gci` stores the
count behind the array.
-/

namespace SerialModem.Ncellmeas

open Library List
open NrfCloud (LteLcCell LteLcNcell neighborcellCountGet
  preNcellsParamsCount ncellsParamsCount NcellmeasState
  lteLcCellEutranIdInvalid zeroCell)

def NeighborsMatch (cells : LteLcCellsInfo) : Prop :=
  match cells.neighborCells with
  | none => cells.ncellsCount = 0
  | some ncells => cells.ncellsCount ≠ 0 ∧ ncells.length = cells.ncellsCount.toNat

structure Consistent (cells : LteLcCellsInfo) : Prop where
  neighbors : NeighborsMatch cells
  gciCells : cells.gciCellsCount.toNat ≤ (cells.gciCells.getD []).length

/-! ## Neighbors that can be read -/

structure NcellReadable (parser : AtParser) (index : Nat) : Prop where
  earfcn : ∃ value, parser.numGet .uint32 index = .ok value
  physCellId : ∃ value, parser.numGet .uint16 (index + 1) = .ok value
  rsrp : ∃ value, parser.numGet .int (index + 2) = .ok value
  rsrq : ∃ value, parser.numGet .int (index + 3) = .ok value
  timeDiff : ∃ value, parser.numGet .int (index + 4) = .ok value

theorem bind_ok_iff {α β : Type} {first : Except Int α} {next : α → Except Int β} :
    (∃ value, first.bind next = .ok value) ↔
      ∃ value, first = .ok value ∧ ∃ result, next value = .ok result := by
  cases first with
  | error err =>
    constructor
    · intro same
      exact nomatch same
    · intro same
      exact nomatch same
  | ok value => simp [Except.bind]

theorem parseNcell_ok_iff {parser : AtParser} {index : Nat} :
    (∃ ncell, parseNcell parser index = .ok ncell) ↔ NcellReadable parser index := by
  unfold parseNcell
  simp only [bind, bind_ok_iff]
  constructor
  · rintro ⟨earfcn, isEarfcn, physCellId, isPhysCellId, rsrp, isRsrp, rsrq,
      isRsrq, timeDiff, isTimeDiff, _⟩
    exact ⟨⟨earfcn, isEarfcn⟩, ⟨physCellId, isPhysCellId⟩, ⟨rsrp, isRsrp⟩,
      ⟨rsrq, isRsrq⟩, ⟨timeDiff, isTimeDiff⟩⟩
  · rintro ⟨⟨earfcn, isEarfcn⟩, ⟨physCellId, isPhysCellId⟩, ⟨rsrp, isRsrp⟩,
      ⟨rsrq, isRsrq⟩, ⟨timeDiff, isTimeDiff⟩⟩
    exact ⟨earfcn, isEarfcn, physCellId, isPhysCellId, rsrp, isRsrp, rsrq,
      isRsrq, timeDiff, isTimeDiff, _, rfl⟩

theorem parseNcells_ok_iff {parser : AtParser} {left : Nat} :
    ∀ {index : Nat}, (∃ ncells, parseNcells parser left index = .ok ncells) ↔
      ∀ earlier < left, NcellReadable parser (index + earlier * ncellsParamsCount) := by
  induction left with
  | zero =>
    intro index
    exact iff_of_true ⟨[], rfl⟩ fun _ below => absurd below (Nat.not_lt_zero _)
  | succ left ih =>
    intro index
    rw [parseNcells]
    simp only [bind, bind_ok_iff]
    constructor
    · rintro ⟨ncell, isNcell, ncells, isNcells, _⟩ earlier below
      cases earlier with
      | zero =>
        rw [Nat.zero_mul, Nat.add_zero]
        exact parseNcell_ok_iff.mp ⟨ncell, isNcell⟩
      | succ earlier =>
        rw [Nat.succ_mul, Nat.add_comm (earlier * _), ← Nat.add_assoc]
        exact ih.mp ⟨ncells, isNcells⟩ earlier (Nat.lt_of_succ_lt_succ below)
    · intro readable
      have first := readable 0 (Nat.succ_pos left)
      rw [Nat.zero_mul, Nat.add_zero] at first
      obtain ⟨ncell, isNcell⟩ := parseNcell_ok_iff.mpr first
      obtain ⟨ncells, isNcells⟩ := (@ih (index + ncellsParamsCount)).mpr (by
        intro earlier below
        have later := readable (earlier + 1) (Nat.succ_lt_succ below)
        rw [Nat.succ_mul, Nat.add_comm (earlier * _), ← Nat.add_assoc] at later
        exact later)
      exact ⟨ncell, isNcell, ncells, isNcells, _, rfl⟩

def NeighborsReadable (setting : Setting) (ncellsCount : UInt8) : Prop :=
  setting.allocated preNcellsParamsCount = true ∧
    ∀ earlier < ncellsCount.toNat, NcellReadable setting.parser
      (preNcellsParamsCount + earlier * ncellsParamsCount)

variable {setting : Setting}

theorem parseNcellmeasNeighbors_some_iff {ncellsCount : UInt8} (notZero : ncellsCount ≠ 0) :
    (∃ ncells, parseNcellmeasNeighbors setting ncellsCount preNcellsParamsCount = some ncells) ↔
      NeighborsReadable setting ncellsCount := by
  rw [NeighborsReadable, ← parseNcells_ok_iff, parseNcellmeasNeighbors, if_neg notZero]
  cases setting.allocated preNcellsParamsCount with
  | false =>
    constructor
    · intro same
      exact nomatch same
    · intro same
      exact nomatch same.1
  | true =>
    rw [if_neg (by decide), and_iff_right rfl]
    cases parseNcells setting.parser ncellsCount.toNat preNcellsParamsCount with
    | error err =>
      constructor
      · intro same
        exact nomatch same
      · intro same
        exact nomatch same
    | ok ncells => exact iff_of_true ⟨ncells, rfl⟩ ⟨ncells, rfl⟩

/-! ## When `parse_ncellmeas` keeps the data consistent -/

theorem storeFields_ok_iff {fields : List (Except Int Int × (Int → LteLcCell → LteLcCell))} :
    ∀ cell : LteLcCell, (storeFields fields cell).1 = .ok () ↔
      ∀ field ∈ fields, ∃ value, field.1 = .ok value := by
  induction fields with
  | nil => exact fun _ => iff_of_true rfl fun _ member => nomatch member
  | cons field rest ih =>
    intro cell
    obtain ⟨read, store⟩ := field
    rw [forall_mem_cons]
    cases read with
    | error err =>
      constructor
      · intro same
        exact nomatch same
      · intro same
        exact nomatch same.1
    | ok value =>
      rw [storeFields, ih]
      exact (and_iff_right ⟨value, rfl⟩).symm

/-- `parse_ncellmeas` gets to the count of the neighbors. -/
structure CountReached (setting : Setting) (count : Nat) : Prop where
  counted : setting.parser.cmdCount = .ok count
  status : ∃ status, setting.parser.numGet .int 1 = .ok status ∧
    status ≠ 1 ∧ ¬ (status = 2 ∧ count = 2)
  current : ∀ field ∈ currentCellFields setting, ∃ value, field.1 = .ok value

/-- Where the count is stored, the array can be read as well, or the count does
not change. -/
structure CountKept (setting : Setting) (cells : LteLcCellsInfo)
    (count : Nat) (ncellsCount : UInt8) : Prop where
  readable : ∀ time, taMeasTime setting.parser count ncellsCount = .ok time →
    ncellsCount ≠ 0 → NeighborsReadable setting ncellsCount
  same : (∃ err, taMeasTime setting.parser count ncellsCount = .error err) ∨
    ncellsCount = 0 → ncellsCount = cells.ncellsCount

def Keeps (setting : Setting) (cells : LteLcCellsInfo) : Prop :=
  ∀ count, CountReached setting count → CountKept setting cells count
      (UInt8.ofNat (neighborcellCountGet setting.commas))

theorem neighborsMatch_sameArray_iff {cells : LteLcCellsInfo}
    (isMatch : NeighborsMatch cells) (current : LteLcCell)
    (ncellsCount : UInt8) :
    NeighborsMatch { cells with
        currentCell := current, ncellsCount := ncellsCount } ↔
      ncellsCount = cells.ncellsCount := by
  unfold NeighborsMatch at isMatch ⊢
  dsimp only
  cases isArray : cells.neighborCells with
  | none =>
    rw [isArray] at isMatch
    rw [isMatch]
  | some ncells =>
    rw [isArray] at isMatch
    constructor
    · intro other
      exact UInt8.toNat_inj.mp (other.2.symm.trans isMatch.2)
    · intro same
      rw [same]
      exact isMatch

theorem parseNeighbors_match_iff {cells : LteLcCellsInfo} (notZero : cells.ncellsCount ≠ 0) :
    NeighborsMatch (parseNeighbors setting cells).2 ↔
      NeighborsReadable setting cells.ncellsCount := by
  rw [← parseNcellmeasNeighbors_some_iff notZero, parseNeighbors, if_neg notZero, NeighborsMatch]
  dsimp only
  cases found : parseNcellmeasNeighbors setting cells.ncellsCount preNcellsParamsCount with
  | none => exact iff_of_false notZero fun some => nomatch some
  | some ncells =>
    exact iff_of_true ⟨notZero, length_parseNcellmeasNeighbors found⟩ ⟨ncells, rfl⟩

theorem parseCells_match_iff {cells : LteLcCellsInfo} {count : Nat} (isMatch : NeighborsMatch cells)
    (current : ∀ field ∈ currentCellFields setting, ∃ value, field.1 = .ok value) :
    NeighborsMatch (parseCells setting count cells).2 ↔ CountKept setting cells count
        (UInt8.ofNat (neighborcellCountGet setting.commas)) := by
  have stored : (storeFields (currentCellFields setting)
      cells.currentCell).1 = .ok () := (storeFields_ok_iff _).mpr current
  rw [parseCells]
  cases isStored : storeFields (currentCellFields setting) cells.currentCell with
  | mk result cell =>
    rw [isStored] at stored
    rw [show result = .ok () from stored]
    dsimp only
    generalize UInt8.ofNat (neighborcellCountGet setting.commas) = ncellsCount
    cases isTime : taMeasTime setting.parser count ncellsCount with
    | error err =>
      dsimp only
      rw [neighborsMatch_sameArray_iff isMatch]
      constructor
      · intro same
        exact ⟨fun _ isOk => (nomatch isTime.symm.trans isOk), fun _ => same⟩
      · intro kept
        exact kept.same (.inl ⟨err, isTime⟩)
    | ok time =>
      dsimp only
      by_cases isZero : ncellsCount = 0
      · rw [parseNeighbors, if_pos isZero, neighborsMatch_sameArray_iff isMatch]
        constructor
        · intro same
          exact ⟨fun _ _ notZero => absurd isZero notZero, fun _ => same⟩
        · intro kept
          exact kept.same (.inr isZero)
      · rw [parseNeighbors_match_iff isZero]
        constructor
        · intro readable
          refine ⟨fun _ _ _ => readable, ?_⟩
          intro noArray
          rcases noArray with ⟨err, isError⟩ | none
          · exact nomatch isTime.symm.trans isError
          · exact absurd none isZero
        · intro kept
          exact kept.readable time isTime isZero

theorem keeps_of_unreached {cells : LteLcCellsInfo}
    (unreached : ∀ count, ¬ CountReached setting count) :
    Keeps setting cells :=
  fun count reached => absurd reached (unreached count)

theorem parseCells_unread {setting : Setting} {cells : LteLcCellsInfo}
    {count : Nat} (unread : ¬ ∀ field ∈ currentCellFields setting, ∃ value, field.1 = .ok value) :
    ∃ current, (parseCells setting count cells).2 = { cells with currentCell := current } := by
  rw [← storeFields_ok_iff cells.currentCell] at unread
  rw [parseCells]
  cases isStored : storeFields (currentCellFields setting) cells.currentCell with
  | mk result cell =>
    cases result with
    | error err => exact ⟨cell, rfl⟩
    | ok done =>
      rw [isStored] at unread
      exact absurd rfl unread

/-- `parse_ncellmeas` keeps the count and the array in step exactly when the
array can be read where the count is stored. -/
theorem parseNcellmeas_match_iff {cells : LteLcCellsInfo} (isMatch : NeighborsMatch cells) :
    NeighborsMatch (parseNcellmeas setting cells).2 ↔ Keeps setting cells := by
  unfold parseNcellmeas
  cases isCount : setting.parser.cmdCount with
  | error err =>
    refine iff_of_true isMatch (keeps_of_unreached fun count reached => ?_)
    exact nomatch isCount.symm.trans reached.counted
  | ok count =>
    have sameCount : ∀ {other : Nat}, CountReached setting other → other = count := fun reached =>
      Except.ok.inj (reached.counted.symm.trans isCount)
    cases isStatus : setting.parser.numGet .int 1 with
    | error err =>
      refine iff_of_true isMatch (keeps_of_unreached fun other reached => ?_)
      obtain ⟨status, isOk, _⟩ := reached.status
      exact nomatch isStatus.symm.trans isOk
    | ok status =>
      dsimp only
      by_cases failed : status = 1
      · rw [if_pos failed]
        refine iff_of_true isMatch (keeps_of_unreached fun other reached => ?_)
        obtain ⟨found, isOk, notFailed, _⟩ := reached.status
        have same := Except.ok.inj (isOk.symm.trans isStatus)
        exact notFailed (same.trans failed)
      · rw [if_neg failed]
        by_cases early : status = 2 ∧ count = 2
        · rw [if_pos early]
          refine iff_of_true isMatch (keeps_of_unreached fun other reached => ?_)
          obtain ⟨found, isOk, _, notEarly⟩ := reached.status
          have same := Except.ok.inj (isOk.symm.trans isStatus)
          exact notEarly ⟨same.trans early.1, (sameCount reached).trans early.2⟩
        · rw [if_neg early]
          by_cases current : ∀ field ∈ currentCellFields setting, ∃ value, field.1 = .ok value
          · rw [parseCells_match_iff isMatch current]
            constructor
            · intro kept other reached
              rw [sameCount reached]
              exact kept
            · intro keeps
              exact keeps count ⟨isCount, ⟨status, isStatus, failed, early⟩, current⟩
          · obtain ⟨cell, unchanged⟩ := @parseCells_unread setting cells count current
            rw [unchanged]
            refine iff_of_true isMatch (keeps_of_unreached fun other reached => ?_)
            exact current reached.current

theorem parseNcellmeas_consistent {cells : LteLcCellsInfo}
    (consistent : Consistent cells) (keeps : Keeps setting cells) :
    Consistent (parseNcellmeas setting cells).2 := by
  obtain ⟨sameArray, sameCount⟩ := parseNcellmeas_gciCells setting cells
  refine ⟨(parseNcellmeas_match_iff consistent.neighbors).mpr keeps, ?_⟩
  rw [sameArray, sameCount]
  exact consistent.gciCells

/-! ## `parse_ncellmeas_gci` -/

theorem gciPass_match {loop : GciLoop} (isMatch : NeighborsMatch loop.cells) :
    PassEnds (fun loop => NeighborsMatch loop.cells)
      (fun loop => NeighborsMatch loop.cells) (gciPass setting loop) := by
  obtain ⟨field, isRead⟩ := loop.readPlmn_eq setting
  refine gciPass_ends isMatch ?_ ?_ ?_
  · rw [isRead]
    exact isMatch
  · intro cell ncellsCount
    rw [isRead]
    refine GciLoop.storeServing_ends isMatch rfl ?_
    exact fun ncells notZero isLength => ⟨notZero, isLength⟩
  · intro cell
    rw [isRead]
    exact isMatch

/-- `parse_ncellmeas_gci` keeps the data consistent and writes into the array,
where the array has room for all cells that were asked for. -/
theorem parseNcellmeasGci_consistent {setting : Setting} {gciCount : UInt8}
    {tmpStr : Text} {cells : LteLcCellsInfo} {array : List LteLcCell}
    (isMatch : NeighborsMatch cells) (isArray : cells.gciCells = some array)
    (long : gciCount.toNat ≤ array.length) :
    Consistent (parseNcellmeasGci setting gciCount tmpStr cells).2.cells ∧
      (parseNcellmeasGci setting gciCount tmpStr cells).2.overrun = false ∧
        ∃ after, after.length = array.length ∧
          (parseNcellmeasGci setting gciCount tmpStr cells).2.cells.gciCells = some after := by
  have room : GciLoop.HasRoom array.length gciCount.toNat
      ⟨1, tmpStr, 0, { cells with gciCellsCount := 0 }, false, []⟩ :=
    ⟨⟨array, isArray, rfl⟩, rfl, by simpa using long, by simpa using UInt8.toNat_lt gciCount, rfl⟩
  have ended : ∀ {loop : GciLoop}, loop.HasRoom array.length 0 →
      NeighborsMatch loop.cells → Consistent loop.cells ∧
        loop.overrun = false ∧ ∃ after, after.length = array.length ∧
          loop.cells.gciCells = some after := by
    intro loop hasRoom isMatch
    obtain ⟨after, isAfter, isLength⟩ := hasRoom.array
    refine ⟨⟨isMatch, ?_⟩, hasRoom.inside, after, isLength, isAfter⟩
    rw [isAfter, hasRoom.count, Option.getD_some, isLength]
    exact hasRoom.room
  have started := room.fewer (Nat.zero_le _)
  unfold parseNcellmeasGci
  dsimp only
  split
  · exact ended started isMatch
  · split
    · exact ended started isMatch
    · split
      · exact ended started isMatch
      · refine ended (room.run nil_prefix).1 ?_
        exact parseGciLoop_invariant (fun _ loop (isMatch : NeighborsMatch loop.cells) => isMatch)
          (fun _ _ isMatch => gciPass_match isMatch)
          _ _ isMatch

/-! ## The phases of a measurement -/

/-- Where the data is looked at; no code reads this. -/
inductive Entry where
  /-- A call of a parser has returned, with a write outside the array. -/
  | parsed (cells : LteLcCellsInfo) (overrun : Bool)
  | handedOn (cells : LteLcCellsInfo)
  deriving DecidableEq

/-- The variables of a measurement of neighbour cells. -/
structure Phases where
  ncellmeasSmState : NcellmeasState
  ncellmeasSearchType : Nat
  ncellmeasGciCount : UInt8
  ncellmeasReqCellCount : UInt8
  ncellmeasSendLocReqFlag : Bool
  ncellmeasDoneCb : Bool
  ncellmeasRrcPolls : Nat
  nrfcloudCellData : Option LteLcCellsInfo
  /-- `sm_ncellmeas` is not paused. -/
  monitorActive : Bool
  log : List Entry

def ncellmeasComplete (cells : LteLcCellsInfo) (phases : Phases) : Phases :=
  let cells :=
    if phases.ncellmeasReqCellCount ≤ 1 ∧ 0 < cells.ncellsCount then
      { cells with neighborCells := none, ncellsCount := 0 }
    else
      cells
  { phases with
    ncellmeasSmState := .idle
    monitorActive := false
    nrfcloudCellData :=
      if phases.ncellmeasSendLocReqFlag then some cells else none
    log :=
      if phases.ncellmeasSendLocReqFlag ∨ phases.ncellmeasDoneCb then
        phases.log ++ [.handedOn cells]
      else
        phases.log }

/-- `sm_at_nrfcloud_ncellmeas_start`, with memory; the first search is accepted
or not. -/
def ncellmeasStart (cellCount : UInt8) (sendLocReq doneCb sent : Bool) (phases : Phases) : Phases :=
  let started := { phases with
    nrfcloudCellData := some startCells
    ncellmeasReqCellCount := cellCount
    ncellmeasSendLocReqFlag := sendLocReq
    ncellmeasDoneCb := doneCb
    monitorActive := true
    ncellmeasSearchType := 1
    ncellmeasSmState := .firstWait }
  if sent then started else ncellmeasComplete startCells started

def gciSent (sent : Bool) (cells : LteLcCellsInfo) (phases : Phases) : Phases :=
  if sent then phases else ncellmeasComplete cells phases

/-- `ncellmeas_state_handle_work_fn`. -/
def stateHandleWork (outcome : NrfCloud.Outcome) (cells : LteLcCellsInfo)
    (phases : Phases) : Phases :=
  match phases.ncellmeasSmState with
  | .firstWait =>
    if phases.ncellmeasReqCellCount ≤ 1 then
      ncellmeasComplete cells phases
    else
      { phases with ncellmeasRrcPolls := 0, ncellmeasSmState := .rrcIdleWait }
  | .rrcIdleWait =>
    if outcome.rrcMode.any (· ≠ 0) ∧ phases.ncellmeasRrcPolls < 10 then
      { phases with ncellmeasRrcPolls := phases.ncellmeasRrcPolls + 1 }
    else if !outcome.allocated then
      ncellmeasComplete cells phases
    else
      let count := max 5 phases.ncellmeasReqCellCount
      let cells := { cells with
        gciCells := some (replicate count.toNat zeroCell) }
      gciSent outcome.success cells { phases with
        nrfcloudCellData := some cells
        ncellmeasSearchType := 3
        ncellmeasGciCount := count
        ncellmeasSmState := .secondWait }
  | .secondWait =>
    if phases.ncellmeasReqCellCount.toNat ≤ cells.gciCellsCount.toNat + 1 then
      ncellmeasComplete cells phases
    else
      gciSent outcome.success cells { phases with
        ncellmeasSearchType := 4
        ncellmeasGciCount := phases.ncellmeasReqCellCount
        ncellmeasSmState := .thirdWait }
  | .thirdWait => ncellmeasComplete cells phases
  | .idle => phases

def atHandlerNcellmeas (setting : Setting) (tmpStr : Text)
    (cells : LteLcCellsInfo) (phases : Phases) : Phases :=
  let (err, cells, overrun) := parseNotification setting tmpStr phases.ncellmeasSearchType
      phases.ncellmeasGciCount cells
  let phases := { phases with
    nrfcloudCellData := some cells
    log := phases.log ++ [.parsed cells overrun] }
  if err ≠ 0 then
    ncellmeasComplete cells phases
  else if phases.ncellmeasDoneCb ∧ phases.ncellmeasReqCellCount ≤ 1 ∧
      phases.ncellmeasSmState = .firstWait then
    ncellmeasComplete cells phases
  else
    phases

inductive Action where
  | start (cellCount : UInt8) (sendLocReq doneCb sent : Bool)
  | notify (setting : Setting) (tmpStr : Text)
  | stateHandleWork (outcome : NrfCloud.Outcome)
  | timeoutWork
  /-- `nrfcloud_loc_req_work_fn` frees the data. -/
  | locReqWork

/-- A step of a measurement, in any order; what ends or goes on needs data. -/
def step (action : Action) (phases : Phases) : Option Phases :=
  match action, phases.nrfcloudCellData with
  | .start cellCount sendLocReq doneCb sent, _ =>
    some (ncellmeasStart cellCount sendLocReq doneCb sent phases)
  | .notify setting tmpStr, some cells =>
    if phases.monitorActive then
      some (atHandlerNcellmeas setting tmpStr cells phases)
    else
      some phases
  | .stateHandleWork outcome, some cells =>
    some (stateHandleWork outcome cells phases)
  | .timeoutWork, some cells => some (ncellmeasComplete cells phases)
  | .locReqWork, _ => some { phases with nrfcloudCellData := none }
  | _, none => none

structure Initial (phases : Phases) : Prop where
  idle : phases.ncellmeasSmState = .idle
  noData : phases.nrfcloudCellData = none
  noLog : phases.log = []

/-- The data can be traversed, and nothing was written outside the array. -/
def Entry.Safe : Entry → Prop
  | .parsed cells overrun => Consistent cells ∧ overrun = false
  | .handedOn cells => Consistent cells

/-- Parsing a neighbour notification does not leave a count without its neighbours. -/
def KeepsCount (phases : Phases) : Action → Prop
  | .notify setting _ => phases.ncellmeasSearchType ≤ 2 →
      ∀ cells, phases.nrfcloudCellData = some cells → Keeps setting cells
  | _ => True

/-! ## Runs -/

structure Roomy (phases : Phases) (cells : LteLcCellsInfo) : Prop where
  consistent : Consistent cells
  first : phases.ncellmeasSmState = .firstWait ∨ phases.ncellmeasSmState = .rrcIdleWait →
    phases.ncellmeasSearchType ≤ 2 ∧ cells.gciCellsCount = 0
  array : 2 < phases.ncellmeasSearchType → ∃ array, cells.gciCells = some array ∧
      phases.ncellmeasGciCount.toNat ≤ array.length ∧ (phases.ncellmeasSmState = .secondWait →
          phases.ncellmeasReqCellCount.toNat ≤ array.length)
  second : phases.ncellmeasSmState = .secondWait → 2 < phases.ncellmeasSearchType

structure Sound (phases : Phases) : Prop where
  cells : ∀ cells, phases.nrfcloudCellData = some cells → Roomy phases cells
  log : ∀ entry ∈ phases.log, entry.Safe

section

variable {phases : Phases} {cells : LteLcCellsInfo}

theorem complete_sound (roomy : Roomy phases cells) (log : ∀ entry ∈ phases.log, entry.Safe) :
    Sound (ncellmeasComplete cells phases) := by
  unfold ncellmeasComplete
  dsimp only
  generalize isKept : (if phases.ncellmeasReqCellCount ≤ 1 ∧ 0 < cells.ncellsCount then
      { cells with neighborCells := none, ncellsCount := 0 }
    else cells) = kept
  have consistent : Consistent kept ∧ kept.gciCells = cells.gciCells := by
    rw [← isKept]
    split
    · exact ⟨⟨rfl, roomy.consistent.gciCells⟩, rfl⟩
    · exact ⟨roomy.consistent, rfl⟩
  constructor
  · intro found isFound
    dsimp only at isFound
    split at isFound
    · rw [← Option.some.inj isFound]
      refine ⟨consistent.1, by simp, ?_, fun second => nomatch second⟩
      intro gci
      obtain ⟨array, isArray, long, _⟩ := roomy.array gci
      exact ⟨array, consistent.2.trans isArray, long, fun second => nomatch second⟩
    · cases isFound
  · dsimp only
    split
    · refine forall_mem_append.mpr ⟨log, ?_⟩
      refine forall_mem_singleton.mpr ?_
      exact consistent.1
    · exact log

theorem gciSent_sound {sent : Bool} (roomy : Roomy phases cells)
    (isData : phases.nrfcloudCellData = some cells)
    (log : ∀ entry ∈ phases.log, entry.Safe) :
    Sound (gciSent sent cells phases) := by
  cases sent with
  | false => exact complete_sound roomy log
  | true =>
    refine ⟨fun found isFound => ?_, log⟩
    rw [← Option.some.inj (isData.symm.trans isFound)]
    exact roomy

theorem start_sound {cellCount : UInt8} {sendLocReq doneCb sent : Bool} (sound : Sound phases) :
    Sound (ncellmeasStart cellCount sendLocReq doneCb sent phases) :=
  gciSent_sound ⟨⟨rfl, Nat.zero_le _⟩, fun _ => ⟨Nat.le_succ 1, rfl⟩,
      fun gci => absurd gci (Nat.not_lt.mpr (Nat.le_succ 1)),
      fun second => nomatch second⟩ rfl sound.log

theorem Roomy.waits (roomy : Roomy phases cells) (first : phases.ncellmeasSmState = .firstWait ∨
      phases.ncellmeasSmState = .rrcIdleWait) (polls : Nat) :
    Roomy { phases with
      ncellmeasRrcPolls := polls, ncellmeasSmState := .rrcIdleWait } cells := by
  obtain ⟨early, noCells⟩ := roomy.first first
  exact ⟨roomy.consistent, fun _ => ⟨early, noCells⟩,
    fun gci => absurd gci (Nat.not_lt.mpr early), fun second => nomatch second⟩

theorem toNat_le_max (first second : UInt8) : second.toNat ≤ (max first second).toNat := by
  show second.toNat ≤ (if first ≤ second then second else first).toNat
  split
  · exact Nat.le_refl _
  · rename_i notLe
    exact Nat.le_of_not_le fun le => notLe (UInt8.le_iff_toNat_le.mpr le)

theorem stateHandleWork_sound {outcome : NrfCloud.Outcome}
    (sound : Sound phases) (isData : phases.nrfcloudCellData = some cells) :
    Sound (stateHandleWork outcome cells phases) := by
  have roomy := sound.cells cells isData
  have same : ∀ found, phases.nrfcloudCellData = some found → found = cells :=
    fun found isFound => Option.some.inj (isFound.symm.trans isData)
  unfold stateHandleWork
  cases isState : phases.ncellmeasSmState with
  | idle => exact sound
  | thirdWait => exact complete_sound roomy sound.log
  | firstWait =>
    dsimp only
    split
    · exact complete_sound roomy sound.log
    · refine ⟨fun found isFound => ?_, sound.log⟩
      rw [same found isFound]
      exact roomy.waits (.inl isState) 0
  | rrcIdleWait =>
    dsimp only
    split
    · refine ⟨fun found isFound => ?_, sound.log⟩
      rw [same found isFound, ← isState]
      have waits := roomy.waits (.inr isState) (phases.ncellmeasRrcPolls + 1)
      rw [← isState] at waits
      exact waits
    · split
      · exact complete_sound roomy sound.log
      · have noCells := (roomy.first (.inr isState)).2
        refine gciSent_sound ⟨⟨roomy.consistent.neighbors, ?_⟩, by simp, ?_,
          fun _ => Nat.lt_succ_self 2⟩ rfl sound.log
        · show cells.gciCellsCount.toNat ≤ _
          rw [noCells]
          exact Nat.zero_le _
        · refine fun _ => ⟨_, rfl, ?_, fun _ => ?_⟩
          · rw [length_replicate]
          · rw [length_replicate]
            exact toNat_le_max 5 phases.ncellmeasReqCellCount
  | secondWait =>
    dsimp only
    split
    · exact complete_sound roomy sound.log
    · obtain ⟨array, isArray, _, next⟩ := roomy.array (roomy.second isState)
      exact gciSent_sound ⟨roomy.consistent, by simp,
        fun _ => ⟨array, isArray, next isState, fun second => nomatch second⟩,
        fun second => nomatch second⟩ isData sound.log

theorem parseNotification_roomy {setting : Setting} {tmpStr : Text} (roomy : Roomy phases cells)
    (keeps : phases.ncellmeasSearchType ≤ 2 → Keeps setting cells) :
    Roomy phases (parseNotification setting tmpStr phases.ncellmeasSearchType
      phases.ncellmeasGciCount cells).2.1 ∧
      (parseNotification setting tmpStr phases.ncellmeasSearchType
      phases.ncellmeasGciCount cells).2.2 = false := by
  unfold parseNotification
  by_cases gci : 2 < phases.ncellmeasSearchType
  · rw [if_pos gci]
    obtain ⟨array, isArray, long, next⟩ := roomy.array gci
    obtain ⟨consistent, inside, after, isLength, isAfter⟩ :=
      @parseNcellmeasGci_consistent setting phases.ncellmeasGciCount tmpStr
        cells array roomy.consistent.neighbors isArray long
    refine ⟨⟨consistent, ?_, ?_, roomy.second⟩, inside⟩
    · intro first
      exact absurd gci (Nat.not_lt.mpr (roomy.first first).1)
    · rw [← isLength] at long next
      exact fun _ => ⟨after, isAfter, long, next⟩
  · rw [if_neg gci]
    obtain ⟨sameArray, sameCount⟩ := parseNcellmeas_gciCells setting cells
    refine ⟨⟨parseNcellmeas_consistent roomy.consistent
      (keeps (Nat.le_of_not_lt gci)), ?_, ?_, roomy.second⟩, rfl⟩
    · intro first
      exact ⟨Nat.le_of_not_lt gci, sameCount.trans (roomy.first first).2⟩
    · exact fun isGci => absurd isGci gci

theorem atHandlerNcellmeas_sound {setting : Setting} {tmpStr : Text}
    (sound : Sound phases) (isData : phases.nrfcloudCellData = some cells)
    (keeps : phases.ncellmeasSearchType ≤ 2 → Keeps setting cells) :
    Sound (atHandlerNcellmeas setting tmpStr cells phases) := by
  obtain ⟨roomy, inside⟩ := @parseNotification_roomy phases cells setting
    tmpStr (sound.cells cells isData) keeps
  unfold atHandlerNcellmeas
  generalize parseNotification setting tmpStr phases.ncellmeasSearchType
      phases.ncellmeasGciCount cells = parsed at *
  obtain ⟨err, after, overrun⟩ := parsed
  have stored : Roomy { phases with
      nrfcloudCellData := some after
      log := phases.log ++ [.parsed after overrun] } after :=
    ⟨roomy.consistent, roomy.first, roomy.array, roomy.second⟩
  have log : ∀ entry ∈ phases.log ++ [.parsed after overrun], entry.Safe := by
    refine forall_mem_append.mpr ⟨sound.log, ?_⟩
    refine forall_mem_singleton.mpr ?_
    exact ⟨roomy.consistent, inside⟩
  dsimp only
  split
  · exact complete_sound stored log
  · split
    · exact complete_sound stored log
    · refine ⟨fun found isFound => ?_, log⟩
      rw [← Option.some.inj isFound]
      exact stored

theorem step_sound {action : Action} {after : Phases} (sound : Sound phases)
    (keeps : KeepsCount phases action)
    (taken : step action phases = some after) : Sound after := by
  cases action with
  | start cellCount sendLocReq doneCb sent =>
    rw [← Option.some.inj taken]
    exact start_sound sound
  | locReqWork =>
    rw [← Option.some.inj taken]
    exact ⟨fun _ isData => (nomatch isData), sound.log⟩
  | notify setting tmpStr =>
    cases isData : phases.nrfcloudCellData with
    | none =>
      simp only [step, isData] at taken
      cases taken
    | some cells =>
      simp only [step, isData] at taken
      split at taken
      · rw [← Option.some.inj taken]
        exact atHandlerNcellmeas_sound sound isData fun first => keeps first cells isData
      · rw [← Option.some.inj taken]
        exact sound
  | stateHandleWork outcome =>
    cases isData : phases.nrfcloudCellData with
    | none =>
      simp only [step, isData] at taken
      cases taken
    | some cells =>
      simp only [step, isData] at taken
      rw [← Option.some.inj taken]
      exact stateHandleWork_sound sound isData
  | timeoutWork =>
    cases isData : phases.nrfcloudCellData with
    | none =>
      simp only [step, isData] at taken
      cases taken
    | some cells =>
      simp only [step, isData] at taken
      rw [← Option.some.inj taken]
      exact complete_sound (sound.cells cells isData) sound.log

end

/-- In each run whose notifications keep the count in step, the data is
consistent behind each parser and where it is handed on. -/
theorem entries_safe (phases : Phases) (reachable : Reachable step KeepsCount Initial phases) :
    ∀ entry ∈ phases.log, entry.Safe := by
  have sound : Sound phases := by
    refine reachable.invariant ?_ ?_
    · intro start initial
      constructor
      · intro cells isData
        exact nomatch initial.noData.symm.trans isData
      · rw [initial.noLog]
        exact fun _ member => nomatch member
    · exact fun _ _ _ sound keeps taken => step_sound sound keeps taken
  exact sound.log

/-! ## A neighbor that cannot be read -/

def neighborFields (physCellId : Int) : List Field :=
  [.number 0, .string "01234567".toList, .string "26201".toList,
    .string "0123".toList, .number 65535, .number 7, .number 63, .number 31,
    .number 19, .number 150344527, .number 8, .number physCellId, .number 29,
    .number 0, .number 4]

def neighborSetting (physCellId : Int) : Setting where
  response := notificationText (neighborFields physCellId)
  parser := fieldsParser (neighborFields physCellId)
  behind _ := []
  allocated _ := true

def boot : Phases :=
  ⟨.idle, 0, 0, 0, false, false, 0, none, false, []⟩

def started : Phases :=
  ncellmeasStart 2 true false true boot

theorem boot_initial : Initial boot :=
  ⟨rfl, rfl, rfl⟩

theorem neighbor_keeps : Keeps (neighborSetting 8) startCells := by
  have isCount : UInt8.ofNat (neighborcellCountGet (neighborSetting 8).commas) = 1 := by
    decide
  intro count reached
  rw [isCount, ← Except.ok.inj reached.counted]
  have isTime : taMeasTime (neighborSetting 8).parser
      ((neighborFields 8).length + 1) 1 = .ok 0 := rfl
  constructor
  · refine fun _ _ _ => ⟨rfl, fun earlier below => ?_⟩
    rw [Nat.lt_one_iff.mp below]
    exact ⟨⟨8, rfl⟩, ⟨8, rfl⟩, ⟨29, rfl⟩, ⟨0, rfl⟩, ⟨4, rfl⟩⟩
  · intro noArray
    rcases noArray with ⟨err, isError⟩ | isZero
    · exact nomatch isTime.symm.trans isError
    · exact absurd isZero (by decide)

theorem entries_safe_neighbor :
    (atHandlerNcellmeas (neighborSetting 8) (replicate 7 nul) startCells started).log ≠ [] ∧
    ∀ entry ∈ (atHandlerNcellmeas (neighborSetting 8) (replicate 7 nul)
      startCells started).log, entry.Safe := by
  have isStarted : Reachable step KeepsCount Initial started :=
    (Reachable.start boot_initial).next (.start 2 true false true) trivial rfl
  have keeps : KeepsCount started (.notify (neighborSetting 8) (replicate 7 nul)) := by
    intro _ cells isData
    rw [← Option.some.inj isData]
    exact neighbor_keeps
  exact ⟨by decide, entries_safe _ (isStarted.next _ keeps rfl)⟩

/-- The count is 1 without an array, and goes to the location request. -/
theorem entries_not_safe : ¬ ∀ phases, Reachable step (fun _ _ => True) Initial phases →
      ∀ entry ∈ phases.log, entry.Safe := by
  intro safe
  have isStarted : Reachable step (fun _ _ => True) Initial started :=
    (Reachable.start boot_initial).next (.start 2 true false true) trivial rfl
  have isParsed := isStarted.next (.notify (neighborSetting 70000) (replicate 7 nul)) trivial rfl
  have counted : Entry.handedOn ⟨⟨0x01234567, 262, 1, 0x0123, 65535, 0, 7, 63, 31,
      19, 150344527⟩, none, 1, none, 0⟩ ∈ (atHandlerNcellmeas
        (neighborSetting 70000) (replicate 7 nul) startCells started).log := by
    decide
  exact absurd (safe _ isParsed _ counted).neighbors (show ¬ (1 : UInt8) = 0 by decide)

end SerialModem.Ncellmeas
