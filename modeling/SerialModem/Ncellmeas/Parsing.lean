import SerialModem.Ncellmeas.AtParser

/-!
# Parsing `%NCELLMEAS` notifications

`parse_ncellmeas` and `parse_ncellmeas_gci`, with the types of the cell data,
the arrays that it points to and the buffer for PLMNs, which the passes of a
loop share.
-/

namespace SerialModem.Ncellmeas

open Library
open NrfCloud (LteLcCell LteLcNcell lteLcCellEutranIdInvalid
  lteLcCellEutranIdMax neighborcellCountGet preNcellsParamsCount
  ncellsParamsCount gciCellParamsCount sizeRange zeroCell)

/-- `struct lte_lc_cells_info`, with its arrays. -/
structure LteLcCellsInfo where
  currentCell : LteLcCell
  neighborCells : Option (List LteLcNcell)
  ncellsCount : UInt8
  gciCells : Option (List LteLcCell)
  gciCellsCount : UInt8
  deriving DecidableEq

/-- The data that `sm_at_nrfcloud_ncellmeas_start` allocates. -/
def startCells : LteLcCellsInfo :=
  ⟨{ zeroCell with id := lteLcCellEutranIdInvalid }, none, 0, none, 0⟩

/-- The notification with what the parser and the heap answer. -/
structure Setting where
  response : Text
  parser : AtParser
  behind : Nat → Text
  /-- `calloc` of the neighbors that start in a field. -/
  allocated : Nat → Bool

def getCharFrequency (str : Text) (c : Char) : Nat :=
  str.count c % sizeRange

def Setting.commas (setting : Setting) : Nat :=
  getCharFrequency setting.response ','

def eutranCellId (value : Int) : Int :=
  if lteLcCellEutranIdMax < value then
    lteLcCellEutranIdInvalid
  else
    toUint32 value

/-- A pass of the loop of `parse_ncellmeas_neighbors`. -/
def parseNcell (parser : AtParser) (index : Nat) : Except Int LteLcNcell := do
  let earfcn ← parser.numGet .uint32 index
  let physCellId ← parser.numGet .uint16 (index + 1)
  let rsrp ← parser.numGet .int (index + 2)
  let rsrq ← parser.numGet .int (index + 3)
  let timeDiff ← parser.numGet .int (index + 4)
  return ⟨earfcn, physCellId, toInt16 rsrp, toInt16 rsrq, timeDiff⟩

def parseNcells (parser : AtParser) : (left index : Nat) → Except Int (List LteLcNcell)
  | 0, _ => return []
  | left + 1, index => do
    let ncell ← parseNcell parser index
    let ncells ← parseNcells parser left (index + ncellsParamsCount)
    return ncell :: ncells

/-- `parse_ncellmeas_neighbors`; where it gives an array, it leaves the index
behind the last neighbor. -/
def parseNcellmeasNeighbors (setting : Setting) (ncellCount : UInt8)
    (index : Nat) : Option (List LteLcNcell) :=
  if ncellCount = 0 then
    none
  else if !setting.allocated index then
    none
  else
    (parseNcells setting.parser ncellCount.toNat index).toOption

theorem length_parseNcells {parser : AtParser} {left : Nat} :
    ∀ {index : Nat} {ncells : List LteLcNcell},
      parseNcells parser left index = .ok ncells → ncells.length = left := by
  induction left with
  | zero =>
    intro index ncells parsed
    rw [← Except.ok.inj parsed]
    rfl
  | succ left ih =>
    intro index ncells parsed
    rw [parseNcells] at parsed
    cases first : parseNcell parser index with
    | error err =>
      rw [first] at parsed
      cases parsed
    | ok ncell =>
      cases rest : parseNcells parser left (index + ncellsParamsCount) with
      | error err =>
        rw [first, rest] at parsed
        cases parsed
      | ok more =>
        rw [first, rest] at parsed
        rw [← Except.ok.inj parsed, List.length_cons, ih rest]

variable {setting : Setting}

theorem length_parseNcellmeasNeighbors {ncellCount : UInt8} {index : Nat} {ncells : List LteLcNcell}
    (found : parseNcellmeasNeighbors setting ncellCount index = some ncells) :
    ncells.length = ncellCount.toNat := by
  unfold parseNcellmeasNeighbors at found
  split at found
  · cases found
  · split at found
    · cases found
    · cases parsed : parseNcells setting.parser ncellCount.toNat index with
      | error err =>
        rw [parsed] at found
        cases found
      | ok array =>
        rw [parsed] at found
        rw [← Option.some.inj found]
        exact length_parseNcells parsed

def storeFields : List (Except Int Int × (Int → LteLcCell → LteLcCell)) → LteLcCell →
      Except Int Unit × LteLcCell
  | [], cell => (.ok (), cell)
  | (.error err, _) :: _, cell => (.error err, cell)
  | (.ok value, store) :: rest, cell => storeFields rest (store value cell)

/-- The fields of `parse_ncellmeas` before the neighbors. -/
def currentCellFields (setting : Setting) : List (Except Int Int × (Int → LteLcCell → LteLcCell)) :=
  let parser := setting.parser
  let plmn := plmnParamStringToMccMnc parser 3 (setting.behind 3)
  [(stringParamToInt parser 2 16, fun value cell =>
      { cell with id := eutranCellId value }),
    (plmn.bind MccMnc.mnc, fun value cell => { cell with mnc := value }),
    (plmn.bind MccMnc.mcc, fun value cell => { cell with mcc := value }),
    (stringParamToInt parser 4 16, fun value cell =>
      { cell with tac := toUint32 value }),
    (parser.numGet .int 5, fun value cell =>
      { cell with timingAdvance := toUint16 value }),
    (parser.numGet .uint32 6, fun value cell => { cell with earfcn := value }),
    (parser.numGet .uint16 7, fun value cell =>
      { cell with physCellId := value }),
    (parser.numGet .int 8, fun value cell =>
      { cell with rsrp := toInt16 value }),
    (parser.numGet .int 9, fun value cell =>
      { cell with rsrq := toInt16 value }),
    (parser.numGet .uint64 10, fun value cell =>
      { cell with measurementTime := value })]

def taMeasTime (parser : AtParser) (count : Nat) (ncellsCount : UInt8) : Except Int Int :=
  let index := preNcellsParamsCount + ncellsCount.toNat * ncellsParamsCount
  if index < count then parser.numGet .uint64 index else .ok 0

def parseNeighbors (setting : Setting) (cells : LteLcCellsInfo) : Int × LteLcCellsInfo :=
  if cells.ncellsCount = 0 then
    (0, cells)
  else
    let ncells := parseNcellmeasNeighbors setting cells.ncellsCount preNcellsParamsCount
    (if ncells.isSome then 0 else -efault, { cells with neighborCells := ncells })

/-- `parse_ncellmeas`, once its status asks for the cells. -/
def parseCells (setting : Setting) (count : Nat) (cells : LteLcCellsInfo) : Int × LteLcCellsInfo :=
  match storeFields (currentCellFields setting) cells.currentCell with
  | (.error err, current) => (err, { cells with currentCell := current })
  | (.ok (), current) =>
    let ncellsCount := UInt8.ofNat (neighborcellCountGet setting.commas)
    match taMeasTime setting.parser count ncellsCount with
    | .error err =>
      (err, { cells with currentCell := current, ncellsCount := ncellsCount })
    | .ok time =>
      parseNeighbors setting { cells with
        currentCell := { current with timingAdvanceMeasTime := time }
        ncellsCount := ncellsCount }

def parseNcellmeas (setting : Setting) (cells : LteLcCellsInfo) : Int × LteLcCellsInfo :=
  match setting.parser.cmdCount, setting.parser.numGet .int 1 with
  | .error err, _ => (err, cells)
  | .ok _, .error err => (err, cells)
  | .ok count, .ok status =>
    if status = 1 then
      (1, cells)
    else if status = 2 ∧ count = 2 then
      (0, cells)
    else
      parseCells setting count cells

theorem parseNcellmeas_gciCells (setting : Setting) (cells : LteLcCellsInfo) :
    (parseNcellmeas setting cells).2.gciCells = cells.gciCells ∧
      (parseNcellmeas setting cells).2.gciCellsCount = cells.gciCellsCount := by
  have parsed : ∀ count, (parseCells setting count cells).2.gciCells = cells.gciCells ∧
      (parseCells setting count cells).2.gciCellsCount = cells.gciCellsCount := by
    intro count
    unfold parseCells parseNeighbors
    split
    · exact ⟨rfl, rfl⟩
    · dsimp only
      split
      · exact ⟨rfl, rfl⟩
      · split
        · exact ⟨rfl, rfl⟩
        · exact ⟨rfl, rfl⟩
  unfold parseNcellmeas
  split
  · exact ⟨rfl, rfl⟩
  · exact ⟨rfl, rfl⟩
  · split
    · exact ⟨rfl, rfl⟩
    · split
      · exact ⟨rfl, rfl⟩
      · exact parsed _

structure PlmnField where
  text : Except Int Text
  behind : Text

structure PlmnRead extends PlmnField where
  derived : Except Int (Int × Int)

/-- The variables of `parse_ncellmeas_gci`. -/
structure GciLoop where
  currIndex : Nat
  tmpStr : Text
  k : Nat
  cells : LteLcCellsInfo
  overrun : Bool
  plmns : List PlmnRead

/-- The fields of a cell behind its PLMN, with `<serving>` and
`<neighbor_count>`. -/
def parseGciCell (parser : AtParser) (index : Nat) (id mcc mnc : Int) :
    Except Int (LteLcCell × Bool × UInt8) := do
  let tac ← stringParamToInt parser (index + 3) 16
  let timingAdvance ← parser.numGet .int (index + 4)
  let timingAdvanceMeasTime ← parser.numGet .uint64 (index + 5)
  let earfcn ← parser.numGet .uint32 (index + 6)
  let physCellId ← parser.numGet .uint16 (index + 7)
  let rsrp ← parser.numGet .int16 (index + 8)
  let rsrq ← parser.numGet .int16 (index + 9)
  let measurementTime ← parser.numGet .uint64 (index + 10)
  let serving ← parser.numGet .int16 (index + 11)
  let ncellsCount ← parser.numGet .int16 (index + 12)
  return ({ id, mcc, mnc, timingAdvanceMeasTime, earfcn, physCellId, rsrp, rsrq, measurementTime
            tac := toUint32 tac
            timingAdvance := toUint16 timingAdvance },
    decide (serving ≠ 0), toUint8 ncellsCount)

def GciLoop.storeCell (cell : LteLcCell) (loop : GciLoop) : GciLoop :=
  { loop with
    k := loop.k + 1
    overrun := loop.overrun ||
      decide ((loop.cells.gciCells.getD []).length ≤ loop.k)
    cells := { loop.cells with
      gciCells := loop.cells.gciCells.map (·.set loop.k cell)
      gciCellsCount := loop.cells.gciCellsCount + 1 } }

def GciLoop.storeServing (setting : Setting) (cell : LteLcCell)
    (ncellsCount : UInt8) (loop : GciLoop) :
    Except (Int × GciLoop) GciLoop :=
  let cells := { loop.cells with currentCell := cell }
  if ncellsCount = 0 then
    .ok { loop with cells := cells }
  else
    match parseNcellmeasNeighbors setting ncellsCount loop.currIndex with
    | none =>
      .error (-efault, { loop with
        cells := { cells with neighborCells := none, ncellsCount := 0 } })
    | some ncells =>
      .ok { loop with
        currIndex := loop.currIndex + ncellsCount.toNat * ncellsParamsCount
        cells := { cells with
          neighborCells := some ncells
          ncellsCount := ncellsCount } }

def GciLoop.readPlmn (setting : Setting) (loop : GciLoop) : Except Int (Int × Int) × GciLoop :=
  let index := loop.currIndex + 2
  let field : PlmnField := ⟨setting.parser.string index, setting.behind index⟩
  match setting.parser.stringGet index 7 with
  | .error err =>
    (.error err, { loop with plmns := loop.plmns ++ [⟨field, .error err⟩] })
  | .ok text =>
    let buffer := copyTo loop.tmpStr text
    let derived := (readMccMnc buffer field.behind).derived
    (derived, { loop with
      tmpStr := buffer.set 3 nul
      plmns := loop.plmns ++ [⟨field, derived⟩] })

def gciPass (setting : Setting) (loop : GciLoop) : Except (Int × GciLoop) GciLoop :=
  let index := loop.currIndex
  match stringParamToInt setting.parser (index + 1) 16 with
  | .error err => .error (err, loop)
  | .ok id =>
    match loop.readPlmn setting with
    | (.error err, loop) => .error (err, loop)
    | (.ok (mcc, mnc), loop) =>
      match parseGciCell setting.parser index (eutranCellId id) mcc mnc with
      | .error err => .error (err, loop)
      | .ok (cell, serving, ncellsCount) =>
        let loop := { loop with currIndex := index + gciCellParamsCount }
        if serving then
          loop.storeServing setting cell ncellsCount
        else
          .ok (loop.storeCell cell)

/-- The loop, with the passes that are left to `ncellmeas_gci_count`. -/
def parseGciLoop (setting : Setting) (paramCount : Nat) : Nat → GciLoop → Int × GciLoop
  | 0, loop => (0, loop)
  | left + 1, loop =>
    -- `param_count - 13` wraps around in a `size_t`
    if loop.currIndex < (paramCount + sizeRange - (gciCellParamsCount + 1)) % sizeRange then
      match gciPass setting loop with
      | .error stopped => stopped
      | .ok next => parseGciLoop setting paramCount left next
    else
      (0, loop)

/-- `parse_ncellmeas_gci`, with the seven bytes that `tmp_str` starts with. -/
def parseNcellmeasGci (setting : Setting) (gciCount : UInt8) (tmpStr : Text)
    (cells : LteLcCellsInfo) : Int × GciLoop :=
  let paramCount := (setting.commas + 3) % sizeRange
  let loop : GciLoop :=
    { currIndex := 1
      tmpStr := tmpStr
      k := 0
      cells := { cells with gciCellsCount := 0 }
      overrun := false
      plmns := [] }
  match setting.parser.numGet .int 1 with
  | .error err => (err, loop)
  | .ok status =>
    if status = 1 then
      (1, loop)
    else if status = 2 ∧ paramCount = 3 then
      (0, loop)
    else
      parseGciLoop setting paramCount gciCount.toNat loop

/-- The parser that `at_handler_ncellmeas` calls; whether it writes outside the
array. -/
def parseNotification (setting : Setting) (tmpStr : Text) (searchType : Nat)
    (gciCount : UInt8) (cells : LteLcCellsInfo) : Int × LteLcCellsInfo × Bool :=
  if 2 < searchType then
    let (err, loop) := parseNcellmeasGci setting gciCount tmpStr cells
    (err, loop.cells, loop.overrun)
  else
    let (err, cells) := parseNcellmeas setting cells
    (err, cells, false)

def PassEnds (stopped continued : GciLoop → Prop) : Except (Int × GciLoop) GciLoop → Prop
  | .error (_, loop) => stopped loop
  | .ok loop => continued loop

variable {stopped continued : GciLoop → Prop}

theorem gciPass_ends {loop : GciLoop} (unread : stopped loop)
    (read : stopped (loop.readPlmn setting).2)
    (serving : ∀ cell ncellsCount, PassEnds stopped continued
      (GciLoop.storeServing setting cell ncellsCount
        { (loop.readPlmn setting).2 with
          currIndex := loop.currIndex + gciCellParamsCount }))
    (stored : ∀ cell, continued (GciLoop.storeCell cell
      { (loop.readPlmn setting).2 with
        currIndex := loop.currIndex + gciCellParamsCount })) :
    PassEnds stopped continued (gciPass setting loop) := by
  unfold gciPass
  dsimp only
  cases stringParamToInt setting.parser (loop.currIndex + 1) 16 with
  | error err => exact unread
  | ok id =>
    cases isRead : loop.readPlmn setting with
    | mk derived next =>
      rw [isRead] at read serving stored
      cases derived with
      | error err => exact read
      | ok mccMnc =>
        dsimp only
        cases parseGciCell setting.parser loop.currIndex (eutranCellId id) mccMnc.1 mccMnc.2 with
        | error err => exact read
        | ok parsed =>
          obtain ⟨cell, isServing, ncellsCount⟩ := parsed
          cases isServing with
          | true => exact serving cell ncellsCount
          | false => exact stored cell

theorem GciLoop.storeServing_ends {cell : LteLcCell} {ncellsCount : UInt8} {loop : GciLoop}
    (kept : continued { loop with
      cells := { loop.cells with currentCell := cell } })
    (deleted : stopped { loop with
      cells := { loop.cells with
        currentCell := cell, neighborCells := none, ncellsCount := 0 } })
    (replaced : ∀ ncells, ncellsCount ≠ 0 →
      ncells.length = ncellsCount.toNat → continued { loop with
        currIndex := loop.currIndex + ncellsCount.toNat * ncellsParamsCount
        cells := { loop.cells with
          currentCell := cell
          neighborCells := some ncells
          ncellsCount := ncellsCount } }) :
    PassEnds stopped continued (loop.storeServing setting cell ncellsCount) := by
  unfold GciLoop.storeServing
  dsimp only
  split
  · exact kept
  · rename_i notZero
    split
    · exact deleted
    · rename_i ncells found
      exact replaced ncells notZero (length_parseNcellmeasNeighbors found)

theorem parseGciLoop_invariant {paramCount : Nat}
    {before : Nat → GciLoop → Prop} {ended : GciLoop → Prop}
    (ends : ∀ left loop, before left loop → ended loop)
    (passes : ∀ left loop, before (left + 1) loop →
      PassEnds ended (before left) (gciPass setting loop)) :
    ∀ left loop, before left loop → ended (parseGciLoop setting paramCount left loop).2 := by
  intro left
  induction left with
  | zero => exact ends 0
  | succ left ih =>
    intro loop holds
    have passed := passes left loop holds
    rw [parseGciLoop]
    split
    · cases outcome : gciPass setting loop with
      | error stopped =>
        rw [outcome] at passed
        exact passed
      | ok next =>
        rw [outcome] at passed
        exact ih next passed
    · exact ends (left + 1) loop holds

end SerialModem.Ncellmeas
