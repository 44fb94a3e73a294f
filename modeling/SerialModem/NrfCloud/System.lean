import SerialModem.Ncellmeas.Parsing
import SerialModem.Library.TransitionSystem

/-!
# Cell measurements and their clients

A measurement is started for `AT#XNRFCLOUDPOS` or for an A-GNSS request, both on
`sm_work_q`.  It goes on with `%NCELLMEAS` notifications, which the AT monitor
hands over on a thread of its own, and it ends on that thread, on `sm_work_q` or
with the backup timeout.  All its variables are global.

An operation of `sm_work_q` runs up to where it waits for the modem, for the
cloud or for a semaphore; the AT monitor runs in between.  The modem answers a
search that it accepts with at most one notification, at any time.
-/

namespace SerialModem.NrfCloud

open Library (Text)
open Ncellmeas (LteLcCellsInfo Setting startCells parseNcellmeas parseNotification)

/-- The cell data that one `sm_at_nrfcloud_ncellmeas_start` allocates. -/
abbrev RunId := Nat

inductive NcellmeasState where
  | idle
  | firstWait
  | rrcIdleWait
  | secondWait
  | thirdWait
  deriving DecidableEq

inductive Client where
  /-- An accepted `AT#XNRFCLOUDPOS`. -/
  | location (request : Nat)
  /-- A run of `agnss_requestor`. -/
  | agnss (request : Nat)
  deriving DecidableEq

inductive ClientKind where
  | location
  | agnss
  deriving DecidableEq

def Client.kind : Client → ClientKind
  | .location _ => .location
  | .agnss _ => .agnss

/-- `AT%NCELLMEAS=<type>`, issued for a measurement. -/
structure Search where
  run : RunId
  type : Nat
  deriving DecidableEq

inductive DoneCb where
  | agnssNcellmeasDone
  deriving DecidableEq

/-- The variables of `sm_at_nrfcloud.c` and `sm_at_gnss.c`. -/
structure Vars where
  smNrfCloudReady : Bool
  nrfcloudCellCount : Nat
  nrfcloudWifiPos : Bool
  nrfcloudSendingLocReq : Bool
  ncellmeasSearchType : Nat
  ncellmeasGciCount : Nat
  ncellmeasSmState : NcellmeasState
  ncellmeasReqCellCount : Nat
  ncellmeasSendLocReqFlag : Bool
  ncellmeasDoneCb : Option DoneCb
  ncellmeasRrcPolls : Nat
  nrfcloudCellData : Option RunId
  agnssNetInfo : Option RunId
  deriving DecidableEq

/-- The work items of `sm_work_q`. -/
inductive WorkItem where
  | ncellmeasWork
  | locReqWork
  | stateHandleWork
  | timeoutBackupWork
  | agnssReqWork
  deriving DecidableEq

inductive WorkOp where
  /-- `AT%NCELLMEAS=1` of a measurement is answered. -/
  | firstSent (client : Client) (search : Search)
  /-- `k_sem_take(&agnss_ncellmeas_sem, K_SECONDS(5))`. -/
  | agnssWait (request : Nat)
  | agnssTake (request : Nat)
  | agnssClean (netInfo : Option RunId)
  /-- `AT+CSCON?` is answered. -/
  | csconRead
  /-- `AT%NCELLMEAS=3` or `=4` is answered. -/
  | gciSent (search : Search)
  | locReqClean
  deriving DecidableEq

inductive Entry where
  | started (run : RunId) (client : Client)
  | parsed (run : RunId) (origin : RunId)
  | completed (run : RunId) (kind : ClientKind)
  | nullCells
  | received (run : RunId) (client : Client)
  | freed (run : RunId)
  | leaked (run : RunId)
  deriving DecidableEq

structure World where
  vars : Vars
  cells : RunId → LteLcCellsInfo
  runs : Nat
  /-- `sm_ncellmeas` is not paused. -/
  monitorActive : Bool
  timeoutScheduled : Bool
  stateScheduled : Bool
  queue : List WorkItem
  running : List WorkOp
  /-- `agnss_ncellmeas_sem`. -/
  agnssSem : Bool
  searches : List Search
  /-- The number of accepted `AT#XNRFCLOUDPOS`, and of A-GNSS requests. -/
  locRequests : Nat
  agnssRequests : Nat
  log : List Entry

def World.record (entry : Entry) (world : World) : World :=
  { world with log := world.log ++ [entry] }

def World.push (ops : List WorkOp) (world : World) : World :=
  { world with running := ops ++ world.running }

def World.setVars (update : Vars → Vars) (world : World) : World :=
  { world with vars := update world.vars }

structure Outcome where
  /-- An AT command or `nrf_modem_gnss_read` succeeds. -/
  success : Bool := true
  allocated : Bool := true
  /-- `calloc` of the A-GNSS data buffer. -/
  bufAllocated : Bool := true
  /-- What `AT+CSCON?` reports. -/
  rrcMode : Option Int := none
  deriving DecidableEq

def enoent : Int := 2

def e2big : Int := 7

def ebusy : Int := 16

def einval : Int := 22

def enotconn : Int := 128

/-- `k_work_submit_to_queue`. -/
def World.submit (item : WorkItem) (world : World) : World :=
  if item ∈ world.queue then
    world
  else
    { world with queue := world.queue ++ [item] }

/-- `k_work_schedule_for_queue` of the state handler, which leaves it if it is
pending. -/
def World.scheduleState (now : Bool) (world : World) : World :=
  if world.stateScheduled ∨ WorkItem.stateHandleWork ∈ world.queue then
    world
  else if now then
    world.submit .stateHandleWork
  else
    { world with stateScheduled := true }

/-- `k_work_schedule_for_queue` of the backup timeout. -/
def World.scheduleTimeout (world : World) : World :=
  if WorkItem.timeoutBackupWork ∈ world.queue then
    world
  else
    { world with timeoutScheduled := true }

/-- `k_work_cancel_delayable` of both. -/
def World.cancelDelayables (world : World) : World :=
  { world with
    timeoutScheduled := false
    stateScheduled := false
    queue := world.queue.filter fun item =>
      item ≠ .timeoutBackupWork && item ≠ .stateHandleWork }

/-- `sm_at_nrfcloud_ncellmeas_cleanup`. -/
def ncellmeasCleanup (cellData : Option RunId) (world : World) : World :=
  match cellData with
  | none => world
  | some run => world.record (.freed run)

def agnssNcellmeasDone (cellData : Option RunId) (world : World) : World :=
  { world.setVars fun vars => { vars with agnssNetInfo := cellData } with
    agnssSem := true }

def deleteNeighbors (reqCellCount : Nat) (cells : LteLcCellsInfo) :
    LteLcCellsInfo :=
  if reqCellCount ≤ 1 ∧ 0 < cells.ncellsCount then
    { cells with neighborCells := none, ncellsCount := 0 }
  else
    cells

/-- What `ncellmeas_complete` stops before it reports. -/
def ncellmeasStop (world : World) : World :=
  let world := { world.cancelDelayables with monitorActive := false }
  world.setVars fun vars => { vars with ncellmeasSmState := .idle }

/-- What `ncellmeas_complete` does to the cell data. -/
def ncellmeasFinish (cellData : Option RunId) (world : World) : World :=
  match cellData with
  | none => world.record .nullCells
  | some run =>
    { world with
      cells := Function.update world.cells run (deleteNeighbors
        world.vars.ncellmeasReqCellCount (world.cells run)) }.record
      (.completed run (if world.vars.ncellmeasSendLocReqFlag then .location else .agnss))

/-- How `ncellmeas_complete` reports the end. -/
def ncellmeasReport (cellData : Option RunId) (world : World) : World :=
  if world.vars.ncellmeasSendLocReqFlag then
    world.submit .locReqWork
  else
    let world := world.setVars fun vars => { vars with
      nrfcloudCellData := none
      nrfcloudSendingLocReq := false }
    match world.vars.ncellmeasDoneCb with
    | some .agnssNcellmeasDone => agnssNcellmeasDone cellData world
    | none => ncellmeasCleanup cellData world

def ncellmeasComplete (world : World) : World :=
  ncellmeasReport world.vars.nrfcloudCellData
    (ncellmeasFinish world.vars.nrfcloudCellData (ncellmeasStop world))

/-- The variables that `sm_at_nrfcloud_ncellmeas_start` sets. -/
def beginVars (cellCount : Nat) (client : Client) (run : RunId) (vars : Vars) :
    Vars :=
  { vars with
    nrfcloudSendingLocReq := true
    nrfcloudCellData := some run
    ncellmeasReqCellCount := cellCount % 256
    ncellmeasSendLocReqFlag := client.kind == ClientKind.location
    ncellmeasDoneCb :=
      match client.kind with
      | .location => none
      | .agnss => some .agnssNcellmeasDone
    ncellmeasSearchType := 1
    ncellmeasSmState := .firstWait }

/-- `sm_at_nrfcloud_ncellmeas_start` with its allocation, up to where
`AT%NCELLMEAS=1` is sent. -/
def ncellmeasBegin (cellCount : Nat) (client : Client) (world : World) :
    World :=
  let run := world.runs
  let world := { world with
    runs := run + 1
    cells := Function.update world.cells run startCells
    vars := beginVars cellCount client run world.vars }
  ({ world.scheduleTimeout with
    monitorActive := true
    searches := world.searches ++ [Search.mk run 1] }.record
      (.started run client)).push [.firstSent client ⟨run, 1⟩]

def World.refuse (search : Search) (world : World) : Option World :=
  if search ∈ world.searches then
    some { world with searches := world.searches.erase search }
  else
    none

/-- `sm_at_nrfcloud_ncellmeas_work_fn`. -/
def ncellmeasWorkFn (outcome : Outcome) (world : World) : World :=
  if !outcome.allocated then
    world.submit .locReqWork
  else
    ncellmeasBegin world.vars.nrfcloudCellCount (.location world.locRequests) world

def agnssRequestor (outcome : Outcome) (world : World) : World :=
  let request := world.agnssRequests
  let world := { world with agnssRequests := request + 1 }
  if !outcome.bufAllocated then
    world
  else if !outcome.success then
    world
  else if !outcome.allocated then
    world.push [.agnssClean none]
  else
    ncellmeasBegin 1 (.agnss request) world

/-- The end of `sm_at_nrfcloud_ncellmeas_start`, and its caller. -/
def firstSent (client : Client) (search : Search) (outcome : Outcome)
    (world : World) : Option World :=
  match client with
  | .location _ =>
    if outcome.success then
      some world
    else
      (world.refuse search).map ncellmeasComplete
  | .agnss request =>
    if outcome.success then
      some (world.push [.agnssWait request])
    else
      (world.refuse search).map fun world =>
        (ncellmeasComplete world).push [.agnssClean none]

/-- `agnss_requestor` has waited for the measurement. -/
def agnssTake (request : Nat) (world : World) : World :=
  let netInfo := world.vars.agnssNetInfo
  let world := world.setVars fun vars => { vars with agnssNetInfo := none }
  match netInfo with
  | none => world.push [.agnssClean none]
  | some run =>
    let world := world.record (.received run (.agnss request))
    if (world.cells run).currentCell.id ≠ lteLcCellEutranIdInvalid then
      world.push [.agnssClean (some run)]
    else
      (ncellmeasCleanup (some run) world).push [.agnssClean none]

/-- `ncellmeas_state_handle_work_fn`. -/
def stateHandleWorkFn (world : World) : World :=
  match world.vars.ncellmeasSmState with
  | .firstWait =>
    if world.vars.ncellmeasReqCellCount ≤ 1 then
      ncellmeasComplete world
    else
      (world.setVars fun vars => { vars with
        ncellmeasRrcPolls := 0
        ncellmeasSmState := .rrcIdleWait }).scheduleState true
  | .rrcIdleWait => world.push [.csconRead]
  | .secondWait =>
    match world.vars.nrfcloudCellData with
    | none => world.record .nullCells
    | some run =>
      if world.vars.ncellmeasReqCellCount ≤ (world.cells run).gciCellsCount.toNat + 1 then
        ncellmeasComplete world
      else
        let world := world.setVars fun vars => { vars with
          ncellmeasSearchType := 4
          ncellmeasGciCount := vars.ncellmeasReqCellCount
          ncellmeasSmState := .thirdWait }
        { world.push [.gciSent ⟨run, 4⟩] with
          searches := world.searches ++ [⟨run, 4⟩] }
  | .thirdWait => ncellmeasComplete world
  | .idle => world

/-- `ncellmeas_state_handle_work_fn` in `NCELLMEAS_STATE_RRC_IDLE_WAIT`, with
the answer to `AT+CSCON?`. -/
def csconRead (outcome : Outcome) (world : World) : World :=
  if outcome.rrcMode.any (· ≠ 0) ∧ world.vars.ncellmeasRrcPolls < 10 then
    (world.setVars fun vars => { vars with
      ncellmeasRrcPolls := vars.ncellmeasRrcPolls + 1 }).scheduleState false
  else if !outcome.allocated then
    ncellmeasComplete world
  else
    match world.vars.nrfcloudCellData with
    | none => world.record .nullCells
    | some run =>
      let world :=
        if (world.cells run).gciCells.isSome then
          world.record (.leaked run)
        else
          world
      let world := { world with
        cells := Function.update world.cells run
          { world.cells run with
            gciCells := some (List.replicate (max 5 world.vars.ncellmeasReqCellCount) zeroCell) } }
      let world := world.setVars fun vars => { vars with
        ncellmeasSearchType := 3
        ncellmeasGciCount := max 5 vars.ncellmeasReqCellCount
        ncellmeasSmState := .secondWait }
      { world.push [.gciSent ⟨run, 3⟩] with
        searches := world.searches ++ [⟨run, 3⟩] }

def gciSent (search : Search) (outcome : Outcome) (world : World) : Option World :=
  if outcome.success then
    some world
  else
    (world.refuse search).map ncellmeasComplete

def useCellData (world : World) : World :=
  if world.vars.nrfcloudCellCount = 0 then
    world
  else
    match world.vars.nrfcloudCellData with
    | none => world
    | some run => world.record (.received run (.location world.locRequests))

/-- `nrfcloud_loc_req_work_fn`, up to where the cloud has answered. -/
def locReqWorkFn (world : World) : World :=
  (useCellData world).push [.locReqClean]

/-- The end of `nrfcloud_loc_req_work_fn`. -/
def locReqClean (world : World) : World :=
  (ncellmeasCleanup world.vars.nrfcloudCellData world).setVars fun vars =>
    { vars with
      nrfcloudCellData := none
      nrfcloudSendingLocReq := false }

def runItem (outcome : Outcome) (item : WorkItem) (world : World) : World :=
  match item with
  | .ncellmeasWork => ncellmeasWorkFn outcome world
  | .locReqWork => locReqWorkFn world
  | .stateHandleWork => stateHandleWorkFn world
  | .timeoutBackupWork => ncellmeasComplete world
  | .agnssReqWork => agnssRequestor outcome world

def runOp (outcome : Outcome) (op : WorkOp) (world : World) : Option World :=
  match op with
  | .firstSent client search => firstSent client search outcome world
  | .agnssWait request =>
    if world.agnssSem then
      some ({ world with agnssSem := false }.push [.agnssTake request])
    else
      none
  | .agnssTake request => some (agnssTake request world)
  | .agnssClean netInfo => some (ncellmeasCleanup netInfo world)
  | .csconRead => some (csconRead outcome world)
  | .gciSent search => gciSent search outcome world
  | .locReqClean => some (locReqClean world)

/-- The parameters of `AT#XNRFCLOUDPOS`. -/
structure PosParams where
  paramCount : Nat
  /-- `at_parser_num_get` of the first two. -/
  cellCount : Except Int Nat
  wifiPos : Except Int Nat
  accessPoints : Int

def wifiApsBeginIdx : Nat := 3

/-- What `handle_at_nrf_cloud_pos` checks; it gives the cell count and whether
Wi-Fi positioning is asked for. -/
def checkPos (params : PosParams) (vars : Vars) : Except Int (Nat × Bool) :=
  if !vars.smNrfCloudReady then
    .error (-enotconn)
  else if vars.nrfcloudSendingLocReq then
    .error (-ebusy)
  else if params.paramCount < wifiApsBeginIdx then
    .error (-einval)
  else
    match params.cellCount, params.wifiPos with
    | .error err, _ => .error err
    | _, .error err => .error err
    | .ok cellCount, .ok wifiPos =>
      if 15 < cellCount ∨ 1 < wifiPos then
        .error (-einval)
      else if cellCount = 0 ∧ wifiPos = 0 then
        .error (-einval)
      else if wifiPos = 0 ∧ wifiApsBeginIdx < params.paramCount then
        .error (-e2big)
      else if wifiPos ≠ 0 ∧ params.paramCount < wifiApsBeginIdx + 1 then
        .error (-enoent)
      else if wifiPos ≠ 0 ∧ params.accessPoints ≠ 0 then
        .error params.accessPoints
      else
        .ok (cellCount, wifiPos ≠ 0)

def handleAtNrfCloudPos (params : PosParams) (world : World) : Int × World :=
  match checkPos params world.vars with
  | .error err => (err, world)
  | .ok (cellCount, wifiPos) =>
    let world := { world.setVars fun vars => { vars with
        nrfcloudCellCount := cellCount
        nrfcloudWifiPos := wifiPos
        nrfcloudSendingLocReq := true } with
      locRequests := world.locRequests + 1 }
    if 1 ≤ cellCount then
      (0, world.submit .ncellmeasWork)
    else
      (0, world.submit .locReqWork)

/-- `parse_ncellmeas` overwrites an allocated array, for which one of no neighbors
stands here; no code reads this. -/
def leaksNeighbors (setting : Setting) (vars : Vars) (cells : LteLcCellsInfo) : Bool :=
  cells.neighborCells.isSome && decide (vars.ncellmeasSearchType ≤ 2) &&
    (parseNcellmeas setting { cells with neighborCells := some [] }).2.neighborCells != some []

def storeParsed (run origin : RunId) (cells : LteLcCellsInfo) (leaks : Bool)
    (world : World) : World :=
  let world := { world.record (.parsed run origin) with
    cells := Function.update world.cells run cells }
  if leaks then world.record (.leaked run) else world

def atHandlerNcellmeas (origin : RunId) (setting : Setting) (tmpStr : Text)
    (world : World) : World :=
  match world.vars.nrfcloudCellData with
  | none => world.record .nullCells
  | some run =>
    let (err, cells, _) := parseNotification setting tmpStr world.vars.ncellmeasSearchType
      (UInt8.ofNat world.vars.ncellmeasGciCount) (world.cells run)
    let world := storeParsed run origin cells
      (leaksNeighbors setting world.vars (world.cells run)) world
    if err ≠ 0 then
      ncellmeasComplete world
    else if world.vars.ncellmeasDoneCb.isSome ∧ world.vars.ncellmeasReqCellCount ≤ 1 ∧
          world.vars.ncellmeasSmState = .firstWait then
      ncellmeasComplete world
    else
      world.scheduleState true

inductive Action where
  /-- `AT#XNRFCLOUDPOS` on `sm_work_q`. -/
  | command (params : PosParams)
  /-- `on_gnss_evt_agnss_req`. -/
  | agnssReq
  | runItem (outcome : Outcome)
  | runOp (outcome : Outcome)
  /-- The wait of `agnss_requestor` runs out. -/
  | waitExpires
  | timeoutExpires
  | stateExpires
  /-- `%NCELLMEAS`; `tmp_str` starts with what lies on the stack. -/
  | notify (search : Search) (setting : Setting) (tmpStr : Text)
  | setReady (ready : Bool)

def step : Action → World → Option World
  | .command params, world =>
    match world.running with
    | [] => some (handleAtNrfCloudPos params world).2
    | _ => none
  | .agnssReq, world => some (world.submit .agnssReqWork)
  | .runItem outcome, world =>
    match world.running, world.queue with
    | [], item :: rest =>
      some (runItem outcome item { world with queue := rest })
    | _, _ => none
  | .runOp outcome, world =>
    match world.running with
    | [] => none
    | op :: rest => runOp outcome op { world with running := rest }
  | .waitExpires, world =>
    match world.running with
    | .agnssWait request :: rest =>
      if world.agnssSem then
        none
      else
        some { world with running := .agnssTake request :: rest }
    | _ => none
  | .timeoutExpires, world =>
    if world.timeoutScheduled then
      some ({ world with timeoutScheduled := false }.submit .timeoutBackupWork)
    else
      none
  | .stateExpires, world =>
    if world.stateScheduled then
      some ({ world with stateScheduled := false }.submit .stateHandleWork)
    else
      none
  | .notify search setting tmpStr, world =>
    if search ∈ world.searches then
      let world := { world with searches := world.searches.erase search }
      if world.monitorActive then
        some (atHandlerNcellmeas search.run setting tmpStr world)
      else
        some world
    else
      none
  | .setReady ready, world =>
    some (world.setVars fun vars => { vars with smNrfCloudReady := ready })

structure Initial (world : World) : Prop where
  notSending : world.vars.nrfcloudSendingLocReq = false
  noCellData : world.vars.nrfcloudCellData = none
  idle : world.vars.ncellmeasSmState = .idle
  noNetInfo : world.vars.agnssNetInfo = none
  paused : world.monitorActive = false
  noTimeout : world.timeoutScheduled = false
  noState : world.stateScheduled = false
  noQueue : world.queue = []
  notRunning : world.running = []
  noSem : world.agnssSem = false
  noSearches : world.searches = []
  noRuns : world.runs = 0
  noLog : world.log = []

end SerialModem.NrfCloud
