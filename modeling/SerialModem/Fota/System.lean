import SerialModem.AtHost.Command
import SerialModem.Library.Text
import SerialModem.Library.TransitionSystem

/-!
# FOTA

`sm_at_fota.c`: `AT#XFOTA`, which runs on the thread of the AT commands, and
`fota_dl_handler`, which the download library calls from its own thread.  A
start command is cut into what is checked before `do_fota_start`,
`do_fota_start` itself, and what follows it; events come in between.

The download library is not part of the firmware.  It keeps the pointers to the
host name and the path that a start gives it until its terminal event, and it
refuses another start while it is downloading.
-/

namespace SerialModem.Fota

open AtHost
open Library

inductive FotaStage where
  | init
  | download
  | downloadErasePending
  | downloadErased
  | activate
  | complete
  deriving DecidableEq

def FotaStage.number : FotaStage → Int
  | .init => 0
  | .download => 1
  | .downloadErasePending => 2
  | .downloadErased => 3
  | .activate => 4
  | .complete => 5

inductive FotaStatus where
  | ok
  | error
  | cancelled
  deriving DecidableEq

def FotaStatus.number : FotaStatus → Int
  | .ok => 0
  | .error => 1
  | .cancelled => 2

inductive SmFotaImageType where
  | none
  | app
  | mcubootBl
  | mfw
  | fullMfw
  deriving DecidableEq

inductive DfuTargetImageType where
  | mcuboot
  | modemDelta
  | fullModem
  deriving DecidableEq

/-- The operations of `enum sm_fota_operation` that start a download. -/
inductive StartOperation where
  | app
  | mfw
  | fullFota
  | mcubootBl
  deriving DecidableEq

inductive FotaDownloadEvt where
  | progress (progress : Int)
  | finished
  | eraseTimeout
  | erasePending
  | eraseDone
  | error (cause : Int)
  | cancelled
  | other
  deriving DecidableEq

structure Config where
  /-- `SM_FOTA_BL_SUPPORTED`. -/
  blSupported : Bool
  /-- `CONFIG_SM_FULL_FOTA`. -/
  fullFota : Bool
  /-- `CONFIG_DFU_TARGET_FULL_MODEM_USE_EXT_PARTITION`. -/
  useExtPartition : Bool
  /-- `CONFIG_DFU_TARGET_MODEM_TIMEOUT`. -/
  modemTimeout : Nat
  deriving DecidableEq

/-- What `http_parser_parse_url` finds in a URL. -/
structure ParsedUrl where
  /-- `field_set & (1 << UF_PATH)`. -/
  hasPath : Bool
  /-- `field_set & (1 << UF_HOST)`. -/
  hasHost : Bool
  /-- `field_data[UF_PATH].off`. -/
  pathOff : Nat
  deriving DecidableEq

/-- The libraries around `sm_at_fota.c`. -/
structure Environment where
  /-- `http_parser_parse_url`. -/
  parseUrl : List Byte → Option ParsedUrl
  pathInside : ∀ {uri parser}, parseUrl uri = some parser →
    parser.hasPath = true → parser.pathOff < uri.length
  /-- What `fota_download_start_with_image_type` returns while a download is
  running. -/
  downloadRunning : Int
  downloadRunning_ne_zero : downloadRunning ≠ 0
  /-- `NRF_MODEM_DELTA_DFU_ERASE_PENDING`. -/
  erasePending : Int
  /-- `NRF_MODEM_DELTA_DFU_OFFSET_DIRTY`. -/
  offsetDirty : Nat

def enomem : Int := 12

def ebusy : Int := 16

def einval : Int := 22

def enxio : Int := 6

def etime : Int := 62

def ealready : Int := 120

def secTagTlsInvalid : Int := -1

def erasePollTime : Nat := 2

abbrev Address := Nat

abbrev Heap := Address → Option (List Byte)

/-- The variables that `sm_at_fota.h` declares. -/
structure FotaVars where
  smModemFullFota : Bool
  smFotaBlPendingValidate : Bool
  smFotaBlVersionBefore : BitVec 32
  smFotaType : SmFotaImageType
  smFotaStage : FotaStage
  smFotaStatus : FotaStatus
  smFotaInfo : Int
  deriving DecidableEq

/-- What `sm_settings_fota_save` writes. -/
structure Settings where
  modemFullFota : Bool
  blFotaPend : Bool
  blFotaVer : BitVec 32
  deriving DecidableEq

structure Download where
  host : Address
  file : Address
  secTag : Int
  pdnId : Nat
  type : DfuTargetImageType
  deriving DecidableEq

/-- A start command that has passed the checks before `do_fota_start`. -/
structure Start where
  operation : StartOperation
  uri : List Byte
  secTag : Int
  pdnId : Nat
  type : DfuTargetImageType
  deriving DecidableEq

/-- Where the thread of the AT commands is in `handle_at_fota`. -/
inductive Progress where
  | checked (start : Start)
  /-- `do_fota_start` has returned. -/
  | returned (operation : StartOperation) (err : Int)
  deriving DecidableEq

inductive Entry where
  /-- `fota_download_start_with_image_type` succeeded. -/
  | accepted (hostname path : List Byte)
  /-- The start command that was accepted ends and leaves these variables. -/
  | begun (vars : FotaVars)
  | refused (err : Int)
  | ended (err : Int)
  | event (evt : FotaDownloadEvt)
  /-- `sm_fota_post_process` terminates the session. -/
  | postProcessed
  /-- `urc_send_to`. -/
  | urc (pipe : Option PipeId) (text : Text)
  /-- `rsp_send`. -/
  | response (text : Text)
  deriving DecidableEq

structure World where
  vars : FotaVars
  fotaPipe : Option PipeId
  fotaHostname : Option Address
  fotaPath : Option Address
  heap : Heap
  download : Option Download
  settings : Settings
  progress : Option Progress
  log : List Entry

def World.record (entry : Entry) (world : World) : World :=
  { world with log := world.log ++ [entry] }

def formatValues (values : List Int) : Text :=
  List.intercalate [','] (values.map fun value => (toString value).toList)

def xfotaText (values : List Int) : Text :=
  "\r\n#XFOTA: ".toList ++ formatValues values ++ "\r\n".toList

def smFotaInitState (vars : FotaVars) : FotaVars :=
  { vars with
    smModemFullFota := false
    smFotaType := .none
    smFotaStage := .init
    smFotaStatus := .ok
    smFotaInfo := 0 }

/-- `sm_settings_fota_save`, which stops at the first value that is not
written. -/
def smSettingsFotaSave (written : Nat) (vars : FotaVars) (old : Settings) : Settings where
  modemFullFota :=
    if 0 < written then vars.smModemFullFota else old.modemFullFota
  blFotaPend :=
    if 1 < written then vars.smFotaBlPendingValidate else old.blFotaPend
  blFotaVer :=
    if 2 < written then vars.smFotaBlVersionBefore else old.blFotaVer

def kFree (block : Option Address) (heap : Heap) : Heap :=
  match block with
  | none => heap
  | some address => Function.update heap address none

/-- `k_malloc` of a block and what is copied into it.  The answer is the address
of a block that is free. -/
def kMalloc (answer : Option Address) (content : List Byte) (heap : Heap) :
    Option (Address × Heap) :=
  match answer with
  | none => none
  | some address =>
    if (heap address).isSome then
      none
    else
      some (address, Function.update heap address (some content))

def World.freeUri (world : World) : World :=
  { world with
    heap := kFree world.fotaPath (kFree world.fotaHostname world.heap)
    fotaHostname := none
    fotaPath := none }

def tolower (character : Byte) : Byte :=
  if 65 ≤ character ∧ character ≤ 90 then character + 32 else character

/-- `strncasecmp(text, scheme, strlen(scheme)) == 0`. -/
def hasScheme (scheme : String) (text : List Byte) : Bool :=
  (text.take (ascii scheme).length).map tolower == ascii scheme

structure StartParams where
  paramCount : Nat
  /-- `at_parser_string_ptr_get` of the URL. -/
  uri : Except Int (List Byte)
  /-- What `at_parser_num_get` stores. -/
  secTag : Option Int
  pdnId : Option Nat

inductive Command where
  /-- `AT#XFOTA=`, with the operation as `at_parser_num_get` reads it. -/
  | set (op : Except Int Nat) (params : StartParams)
  | test
  | other

structure CommandAnswers where
  /-- `fota_download_cancel`. -/
  cancel : Int
  /-- `nrf_modem_delta_dfu_area`. -/
  area : Int × Nat
  /-- `nrf_modem_delta_dfu_offset`, by the seconds that have passed. -/
  offset : Nat → Int × Nat
  /-- `nrf_modem_delta_dfu_offset` at the start. -/
  firstOffset : Int × Nat
  /-- `nrf_modem_delta_dfu_erase`. -/
  erase : Int
  /-- `device_is_ready(flash_dev)`. -/
  deviceReady : Bool
  /-- `dfu_target_full_modem_cfg`. -/
  fullModemCfg : Int
  /-- `dfu_target_full_modem_fdev_get`. -/
  fdevGet : Int

structure StartAnswers where
  hostname : Option Address
  path : Option Address
  /-- `fota_download_start_with_image_type`, while nothing is downloaded. -/
  start : Int
  deriving DecidableEq

/-- What is answered after `do_fota_start`. -/
structure FinishAnswers where
  /-- `sm_util_mcuboot_active_version`. -/
  version : Option (BitVec 32)
  written : Nat
  deriving DecidableEq

section

variable (cfg : Config) (env : Environment)

def setupFullModemFotaConfig (answers : CommandAnswers) : Int :=
  if !cfg.useExtPartition && !answers.deviceReady then
    -enxio
  else if answers.fullModemCfg ≠ 0 ∧ answers.fullModemCfg ≠ -ealready then
    answers.fullModemCfg
  else
    answers.fdevGet

def doFotaMfwRead (answers : CommandAnswers) (world : World) : Int × World :=
  if answers.area.1 ≠ 0 then
    (answers.area.1, world)
  else if answers.firstOffset.1 ≠ 0 then
    (answers.firstOffset.1, world)
  else
    (0, world.record (.response (xfotaText [answers.area.2, answers.firstOffset.2])))

/-- The loop of `do_fota_erase_mfw`, with a bound on its rounds. -/
def eraseWait (answers : CommandAnswers) : (rounds elapsed : Nat) → Int
  | 0, _ => -etime
  | rounds + 1, elapsed =>
    let (err, offset) := answers.offset elapsed
    if err ≠ 0 ∧ err ≠ env.erasePending then
      err
    else if err = 0 ∧ offset = 0 then
      if cfg.modemTimeout ≤ elapsed then -etime else 0
    else if elapsed + erasePollTime < cfg.modemTimeout then
      eraseWait answers rounds (elapsed + erasePollTime)
    else
      -etime

def doFotaEraseMfw (answers : CommandAnswers) : Int :=
  let (err, offset) := answers.firstOffset
  let inProgress := err ≠ 0 && err == env.erasePending
  if err ≠ 0 ∧ ¬inProgress then
    err
  else if offset ≠ env.offsetDirty ∧ ¬inProgress then
    0
  else if ¬inProgress ∧ answers.erase ≠ 0 then
    answers.erase
  else
    eraseWait cfg env answers (cfg.modemTimeout + 1) 0

/-- `fota_download_start_with_image_type`. -/
def fotaDownloadStart (host file : Address × List Byte) (secTag : Int)
    (pdnId : Nat) (type : DfuTargetImageType) (answer : Int) (world : World) :
    Int × World :=
  if world.download.isSome then
    (env.downloadRunning, world)
  else if answer = 0 then
    (0, { world with
      download := some ⟨host.1, file.1, secTag, pdnId, type⟩ }.record (.accepted host.2 file.2))
  else
    (answer, world)

/-- The call of the library by `do_fota_start`, with both buffers. -/
def requestDownload (start : Start) (host file : Address × List Byte)
    (answer : Int) (world : World) : Int × World :=
  if hasScheme "https://" host.2 then
    if start.secTag = secTagTlsInvalid then
      (-einval, world)
    else
      fotaDownloadStart env host file start.secTag start.pdnId start.type answer world
  else if hasScheme "http://" host.2 then
    fotaDownloadStart env host file (-1) start.pdnId start.type answer world
  else
    (-einval, world)

/-- The end of `do_fota_start`, after the call of the library. -/
def freeUnlessStarted (ret : Int) (world : World) : Int × World :=
  if ret = 0 then
    (0, world)
  else
    (ret, world.freeUri.record (.response (xfotaText
      [FotaStage.download.number, FotaStatus.error.number, ret])))

def doFotaStart (start : Start) (answers : StartAnswers) (world : World) : Int × World :=
  let world := world.freeUri
  match env.parseUrl start.uri with
  | none => (-einval, world)
  | some parser =>
    if !parser.hasPath then
      (-einval, world)
    else if !parser.hasHost then
      (-einval, world)
    else
      let hostname := start.uri.take parser.pathOff
      let path := start.uri.drop (parser.pathOff + 1)
      match kMalloc answers.hostname (hostname ++ [0]) world.heap with
      | none => (-enomem, world)
      | some (host, heap) =>
        match kMalloc answers.path (path ++ [0]) heap with
        | none => (-enomem, { world with heap := kFree (some host) heap })
        | some (file, heap) =>
          let (ret, world) :=
            requestDownload env start (host, hostname) (file, path) answers.start
              { world with
                heap := heap
                fotaHostname := some host
                fotaPath := some file }
          freeUnlessStarted ret world

def startOperation (op : Nat) : Option StartOperation :=
  match op with
  | 1 => some .app
  | 2 => some .mfw
  | 5 => if cfg.blSupported then some .mcubootBl else none
  | 3 => if cfg.fullFota then some .fullFota else none
  | _ => none

/-- What a start command checks before `do_fota_start`. -/
def checkStart (operation : StartOperation) (params : StartParams)
    (answers : CommandAnswers) (vars : FotaVars) : Except Int Start :=
  if vars.smFotaStage = .activate then
    .error (-ebusy)
  else
    match params.uri with
    | .error err => .error err
    | .ok uri =>
      let secTag :=
        if 3 < params.paramCount then
          params.secTag.getD secTagTlsInvalid
        else
          secTagTlsInvalid
      let pdnId :=
        (if 4 < params.paramCount then params.pdnId.getD 0 else 0) % 256
      match operation with
      | .app | .mcubootBl => .ok ⟨operation, uri, secTag, pdnId, .mcuboot⟩
      | .fullFota =>
        if setupFullModemFotaConfig cfg answers ≠ 0 then
          .error (setupFullModemFotaConfig cfg answers)
        else
          .ok ⟨operation, uri, secTag, pdnId, .fullModem⟩
      | .mfw => .ok ⟨operation, uri, secTag, pdnId, .modemDelta⟩

/-- What `handle_at_fota` writes for `AT#XFOTA=?`. -/
def testText : Text :=
  "\r\n#XFOTA: (".toList ++ formatValues ([0, 1, 2] ++ (if cfg.fullFota then [3] else []) ++
      (if cfg.blSupported then [5] else []) ++ [7, 9]) ++
    ")[,<file_url>[,<sec_tag>[,<pdn_id>]]]\r\n".toList

/-- `handle_at_fota`, up to `do_fota_start`. -/
def handleAtFota (pipe : Option PipeId) (command : Command)
    (answers : CommandAnswers) (world : World) : World :=
  match command with
  | .set op params =>
    let world := { world with fotaPipe := pipe }
    match op with
    | .error err => world.record (.ended err)
    | .ok op =>
      match startOperation cfg op with
      | some operation =>
        match checkStart cfg operation params answers world.vars with
        | .error err => world.record (.refused err)
        | .ok start => { world with progress := some (.checked start) }
      | none =>
        match op with
        | 0 => world.record (.ended answers.cancel)
        | 7 =>
          let (err, world) := doFotaMfwRead answers world
          world.record (.ended err)
        | 9 => world.record (.ended (doFotaEraseMfw cfg env answers))
        | _ => world.record (.ended (-einval))
  | .test => (world.record (.response (testText cfg))).record (.ended 0)
  | .other => world.record (.ended (-einval))

/-- What `handle_at_fota` does after `do_fota_start`. -/
def finishStart (operation : StartOperation) (err : Int)
    (answers : FinishAnswers) (world : World) : World :=
  let vars := smFotaInitState world.vars
  let world :=
    match operation with
    | .mfw => { world with vars := { vars with smFotaType := .mfw } }
    | .fullFota => { world with vars := { vars with smFotaType := .fullMfw } }
    | .mcubootBl =>
      let vars := { vars with
        smFotaType := .mcubootBl
        smFotaBlVersionBefore :=
          answers.version.getD vars.smFotaBlVersionBefore }
      { world with
        vars := vars
        settings := smSettingsFotaSave answers.written vars world.settings }
    | .app => { world with vars := { vars with smFotaType := .app } }
  if err = 0 then
    world.record (.begun world.vars)
  else
    world.record (.refused err)

def fotaDlHandler (evt : FotaDownloadEvt) (written : Nat) (world : World) :
    World :=
  match evt with
  | .progress progress =>
    let vars := { world.vars with
      smFotaStage := .download
      smFotaStatus := .ok
      smFotaInfo := progress }
    { world with vars := vars }.record (.urc world.fotaPipe (xfotaText
      [vars.smFotaStage.number, vars.smFotaStatus.number, vars.smFotaInfo]))
  | .finished =>
    let vars := { world.vars with
      smFotaStage := .activate
      smFotaInfo := 0
      smModemFullFota := world.vars.smFotaType == .fullMfw
      smFotaBlPendingValidate :=
        if cfg.blSupported then
          world.vars.smFotaType == .mcubootBl
        else
          world.vars.smFotaBlPendingValidate }
    { world.freeUri with
      vars := vars
      settings := smSettingsFotaSave written vars world.settings }.record
        (.urc world.fotaPipe (xfotaText [vars.smFotaStage.number, vars.smFotaStatus.number]))
  | .eraseTimeout => world
  | .erasePending =>
    let vars := { world.vars with smFotaStage := .downloadErasePending }
    { world with vars := vars }.record (.urc world.fotaPipe (xfotaText
      [vars.smFotaStage.number, vars.smFotaStatus.number]))
  | .eraseDone =>
    { world with vars := { world.vars with smFotaStage := .init } }.record
      (.urc world.fotaPipe (xfotaText
        [FotaStage.downloadErased.number, world.vars.smFotaStatus.number]))
  | .error cause =>
    let vars := { world.vars with
      smFotaStatus := .error
      smFotaInfo := cause }
    { world.freeUri with vars := smFotaInitState vars }.record (.urc world.fotaPipe (xfotaText
        [vars.smFotaStage.number, vars.smFotaStatus.number, vars.smFotaInfo]))
  | .cancelled =>
    let vars := { world.vars with
      smFotaStatus := .cancelled
      smFotaInfo := 0 }
    { world.freeUri with vars := smFotaInitState vars }.record (.urc world.fotaPipe (xfotaText
        [vars.smFotaStage.number, vars.smFotaStatus.number]))
  | .other => world

def FotaDownloadEvt.terminal : FotaDownloadEvt → Bool
  | .finished | .error _ | .cancelled => true
  | _ => false

def smFotaPostProcess (urcPipe : Option PipeId) (written : Nat) (world : World) : World :=
  if world.vars.smFotaStage ≠ .complete ∧ world.vars.smFotaStage ≠ .activate then
    world
  else
    let pipe := world.fotaPipe.or urcPipe
    let values :=
      if world.vars.smFotaStatus = .ok then
        [world.vars.smFotaStage.number, world.vars.smFotaStatus.number]
      else
        [world.vars.smFotaStage.number, world.vars.smFotaStatus.number, world.vars.smFotaInfo]
    let vars := smFotaInitState world.vars
    ({ world with
      vars := vars
      settings := smSettingsFotaSave written vars world.settings }.record
        (.urc pipe (xfotaText values))).record .postProcessed

inductive Action where
  | command (pipe : Option PipeId) (command : Command) (answers : CommandAnswers)
  | doFotaStart (answers : StartAnswers)
  | finishStart (answers : FinishAnswers)
  | event (evt : FotaDownloadEvt) (written : Nat)
  | postProcess (urcPipe : Option PipeId) (written : Nat)
  | takeBlock (address : Address) (content : List Byte)
  | releaseBlock (address : Address)

def step : Action → World → Option World
  | .command pipe command answers, world =>
    if world.progress.isNone then
      some (handleAtFota cfg env pipe command answers world)
    else
      none
  | .doFotaStart answers, world =>
    match world.progress with
    | some (.checked start) =>
      let (err, world) := doFotaStart env start answers world
      some { world with
        progress := some (.returned start.operation err) }
    | _ => none
  | .finishStart answers, world =>
    match world.progress with
    | some (.returned operation err) =>
      some (finishStart operation err answers { world with progress := none })
    | _ => none
  | .event evt written, world =>
    if world.download.isSome then
      let world := (fotaDlHandler cfg evt written world).record (.event evt)
      some { world with
        download := if evt.terminal then none else world.download }
    else
      none
  | .postProcess urcPipe written, world =>
    if world.progress.isNone then
      some (smFotaPostProcess urcPipe written world)
    else
      none
  | .takeBlock address content, world =>
    if (world.heap address).isNone then
      some { world with
        heap := Function.update world.heap address (some content) }
    else
      none
  | .releaseBlock address, world =>
    if world.fotaHostname ≠ some address ∧ world.fotaPath ≠ some address then
      some { world with heap := Function.update world.heap address none }
    else
      none

/-- Boot: nothing is downloaded, and the variables hold what the bootloader and
the settings say of an earlier update. -/
structure Initial (world : World) : Prop where
  noPipe : world.fotaPipe = none
  noHostname : world.fotaHostname = none
  noPath : world.fotaPath = none
  noDownload : world.download = none
  idle : world.progress = none
  noLog : world.log = []

end

end SerialModem.Fota
