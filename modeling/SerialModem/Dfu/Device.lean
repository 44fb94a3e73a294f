import SerialModem.AtHost.CommandLine
import SerialModem.Library.Text

/-!
# The device side of a firmware update

`sm_at_dfu.c` behind the AT host of one pipe.  `AT#XDFUINIT`, `AT#XDFUWRITE` and
`AT#XDFUAPPLY` are executed here, and the data mode that `AT#XDFUWRITE` enters
hands its bytes to `xdfu_datamode_callback`.  The full-modem type is left out:
`CONFIG_SM_DFU_MODEM_FULL` is off.

The DFU target is a library that is not part of the firmware.  It appends the
data of each write for which it returns 0, and no call tells it an address.
-/

namespace SerialModem.Dfu

open Library AtHost

/-- `enum xdfu_image_type`, without `DFU_TYPE_FULL_MFW`. -/
inductive ImageType where
  | app
  | deltaMfw
  | mcubootBl
  deriving DecidableEq

def ImageType.number : ImageType → Nat
  | .app => 0
  | .deltaMfw => 1
  | .mcubootBl => 3

/-- The libraries that write an image: `dfu_target_mcuboot` and
`dfu_target_modem_delta`. -/
inductive DfuTarget where
  | mcuboot
  | modemDelta
  deriving DecidableEq

def ImageType.target : ImageType → DfuTarget
  | .app | .mcubootBl => .mcuboot
  | .deltaMfw => .modemDelta

/-- `enum xdfu_operation`, as far as a `#XDFU` line reports it. -/
inductive Operation where
  | dataWrite
  | applyUpdate
  deriving DecidableEq

def Operation.number : Operation → Nat
  | .dataWrite => 1
  | .applyUpdate => 2

/-- `"#XDFU: %u,%u,%d\r\n"`; the status is -1 for a failure and 0 otherwise. -/
structure XdfuLine where
  type : ImageType
  operation : Operation
  failed : Bool
  deriving DecidableEq

def XdfuLine.body (line : XdfuLine) : Text :=
  "#XDFU: ".toList ++ decimal line.type.number ++ [','] ++ decimal line.operation.number ++ [','] ++
    (if line.failed then ['-', '1'] else ['0']) ++ ['\r']

def XdfuLine.text (line : XdfuLine) : Text :=
  line.body ++ ['\n']

def okText : Text := "\r\nOK\r\n".toList

def errorText : Text := "\r\nERROR\r\n".toList

/-- The answer of `exit_datamode`; no handler of this module fails. -/
def xdatamodeText : Text := "\r\n#XDATAMODE: 0\r\n".toList

structure Config extends AtHost.Config where
  /-- `SM_DFU_BL_SUPPORTED`. -/
  blSupported : Bool

/-- What the code around `sm_at_dfu.c` answers. -/
structure Environment where
  target : Nat → Int
  /-- Whether `enter_datamode` succeeds, by the number of bytes handled. -/
  entersDatamode : Nat → Bool
  alloc : Nat → Nat → Bool
  /-- Whether URCs are sent ahead of the answer of `exit_datamode`. -/
  idle : Nat → Bool
  otherResponse : Nat → List Byte → Text

/-- `struct xdfu_app_datamode_context`. -/
structure DatamodeContext where
  addr : Nat
  len : Nat
  deriving DecidableEq

structure Device where
  command : CommandState
  inDatamode : Bool
  /-- `data_mode.data_len`, which is positive in data mode. -/
  dataLen : Nat
  dataRb : List Byte
  /-- `xdfu_app_datamode_context` and `xdfu_delta_mfw_datamode_context`. -/
  datamodeContext : DfuTarget → DatamodeContext
  appDfuBufferInitialized : Bool
  xdfuCurrentImageType : ImageType
  xdfuBytesWritten : Nat
  xdfuStatus : Int
  urcBuf : List XdfuLine
  accepted : DfuTarget → List Byte
  calls : Nat
  handled : Nat

variable (cfg : Config) (env : Environment)

namespace Device

def callTarget (device : Device) : Int × Device :=
  (env.target device.calls, { device with calls := device.calls + 1 })

def setAccepted (target : DfuTarget) (content : List Byte) (device : Device) :
    Device :=
  { device with
    accepted := Function.update device.accepted target content }

def setContext (target : DfuTarget) (context : DatamodeContext) (device : Device) : Device :=
  { device with
    datamodeContext := Function.update device.datamodeContext target context }

/-- `urc_send`.  A line that does not fit drops the buffered ones as well. -/
def urcSend (line : XdfuLine) (device : Device) : Device :=
  let used := (device.urcBuf.flatMap XdfuLine.text).length
  if line.text.length ≤ cfg.urcBufferSize - used then
    { device with urcBuf := device.urcBuf ++ [line] }
  else
    { device with urcBuf := [] }

def sendUrcs (device : Device) : Device × Text :=
  ({ device with urcBuf := [] }, device.urcBuf.flatMap XdfuLine.text)

/-- `DATAMODE_SEND`, for data that is not empty.  The address is not used. -/
def datamodeSend (data : List Byte) (device : Device) : Device :=
  let target := device.xdfuCurrentImageType.target
  let result := device.callTarget env
  let written :=
    if result.1 = 0 then
      result.2.setAccepted target (device.accepted target ++ data)
    else
      { result.2 with xdfuStatus := result.1 }
  if written.xdfuStatus = 0 then
    { written with
      xdfuBytesWritten := written.xdfuBytesWritten + data.length }
  else
    written

def eio : Int := 5

def datamodeExit (device : Device) : Device :=
  let target := device.xdfuCurrentImageType.target
  let expected := (device.datamodeContext target).len
  let status :=
    if device.xdfuStatus = 0 ∧ device.xdfuBytesWritten ≠ expected then -eio
    else device.xdfuStatus
  { device.urcSend cfg ⟨device.xdfuCurrentImageType, .dataWrite, status ≠ 0⟩ with
    xdfuBytesWritten := 0
    xdfuStatus := 0 }

/-- `raw_send`.  The handler takes everything it is given. -/
def rawSend (device : Device) : Device :=
  if device.dataRb = [] then
    device
  else
    { device.datamodeSend env device.dataRb with dataRb := [] }

def writeDataBuf (byte : Byte) (device : Device) : Device :=
  let flushed :=
    if device.dataRb.length < cfg.datamodeBufSize then device
    else device.rawSend env
  { flushed with dataRb := flushed.dataRb ++ [byte] }

def exitDatamode (device : Device) : Device × Text :=
  let exited :=
    { device.datamodeExit cfg with
      inDatamode := false
      dataLen := 0
      dataRb := [] }
  let sent := if env.idle device.handled then exited.sendUrcs else (exited, [])
  (sent.1, sent.2 ++ xdatamodeText)

def rawRxHandler (byte : Byte) (device : Device) : Device × Text :=
  let stored := device.writeDataBuf cfg env byte
  let counted := { stored with dataLen := stored.dataLen - 1 }
  if counted.dataLen = 0 then
    (counted.rawSend env).exitDatamode cfg env
  else
    (counted, [])

/-- `at_parser_num_get` for an unsigned type with the given largest value. -/
def numGet (most : Nat) (params : List Text) (index : Nat) : Option Nat :=
  (params[index]?.bind readDecimal).filter (· ≤ most)

/-- `UINT16_MAX` and `SIZE_MAX`. -/
def uint16Max : Nat := 65535
def sizeMax : Nat := 4294967295

def typeGet (params : List Text) : Option ImageType :=
  match numGet uint16Max params 0 with
  | some 0 => some .app
  | some 1 => some .deltaMfw
  | some 3 => if cfg.blSupported then some .mcubootBl else none
  | _ => none

def efault : Int := 14

/-- Initialising `dfu_target_mcuboot`: an initialisation in progress is aborted
first. -/
def initMcuboot (device : Device) : Bool × Device :=
  let buffer : Int × Device :=
    if device.appDfuBufferInitialized then (0, device)
    else device.callTarget env
  if buffer.1 ≠ 0 then
    (false, buffer.2)
  else
    let ready := { buffer.2 with appDfuBufferInitialized := true }
    let first := ready.callTarget env
    let result : Int × Device :=
      if first.1 = -efault then
        (first.2.callTarget env).2.callTarget env
      else
        first
    if result.1 = 0 then
      (true, result.2.setAccepted .mcuboot [])
    else
      (false, result.2)

/-- Initialising `dfu_target_modem_delta`. -/
def initModemDelta (device : Device) : Bool × Device :=
  let result := device.callTarget env
  if result.1 = 0 then
    (true, result.2.setAccepted .modemDelta [])
  else
    (false, result.2)

/-- `handle_at_xdfu_init`; `true` stands for the result zero. -/
def handleAtXdfuInit (params : List Text) (device : Device) : Bool × Device :=
  match typeGet cfg params, numGet sizeMax params 1 with
  | some type, some _ =>
    match type.target with
    | .mcuboot => device.initMcuboot env
    | .modemDelta => device.initModemDelta env
  | _, _ => (false, device)

/-- The end of `handle_at_xdfu_write`, once the parameters are read. -/
def startWrite (type : ImageType) (context : DatamodeContext) (device : Device) : Bool × Device :=
  let parsed := device.setContext type.target context
  if context.len = 0 then
    (false, parsed)
  else
    let prepared :=
      { parsed with
        xdfuCurrentImageType := type
        xdfuBytesWritten := 0
        xdfuStatus := 0 }
    if env.entersDatamode device.handled then
      (true,
        { prepared with
          inDatamode := true
          dataLen := context.len
          dataRb := [] })
    else
      (false, prepared)

/-- `handle_at_xdfu_write`.  Each of the three parameters is stored as soon as
it is read. -/
def handleAtXdfuWrite (params : List Text) (device : Device) : Bool × Device :=
  match typeGet cfg params with
  | none => (false, device)
  | some type =>
    if params.length ≠ 3 then
      (false, device)
    else
      match numGet sizeMax params 1, numGet sizeMax params 2 with
      | none, _ => (false, device)
      | some addr, none =>
        (false, device.setContext type.target
          { device.datamodeContext type.target with addr := addr })
      | some addr, some len => device.startWrite env type ⟨addr, len⟩

def handleAtXdfuApply (params : List Text) (device : Device) : Bool × Device :=
  match typeGet cfg params with
  | none => (false, device)
  | some type =>
    let finished := device.callTarget env
    let result : Int × Device :=
      if finished.1 = 0 then finished.2.callTarget env else finished
    (true, result.2.urcSend cfg ⟨type, .applyUpdate, result.1 ≠ 0⟩)

end Device

inductive DfuCommand where
  | init (params : List Text)
  | write (params : List Text)
  | apply (params : List Text)
  | other
  deriving DecidableEq

def setParams (name : String) (line : List Byte) : Option (List Text) :=
  if hasPrefixIgnoringCase line (ascii name) then
    match line.drop (ascii name).length with
    | 61 :: rest =>
      if rest = [63] then none else some ((decodeAscii rest).splitOn ',')
    | _ => none
  else
    none

def dfuCommand (line : List Byte) : DfuCommand :=
  match setParams "AT#XDFUINIT" line, setParams "AT#XDFUWRITE" line,
    setParams "AT#XDFUAPPLY" line with
  | some params, _, _ => .init params
  | none, some params, _ => .write params
  | none, none, some params => .apply params
  | none, none, none => .other

namespace Device

/-- `sm_at_cb_wrapper` and the final result. -/
def respond (result : Bool × Device) : Device × Text :=
  (result.2, if result.1 then okText else errorText)

def cmdSend (line : List Byte) (device : Device) : Device × Text :=
  let atCmd := (skipToAt line).getD line
  if cmdGrammarCheck atCmd = false then
    (device, errorText)
  else
    let text := atCmd.takeWhile fun byte => byte ≠ 0
    match dfuCommand text with
    | .init params => respond (device.handleAtXdfuInit cfg env params)
    | .write params => respond (device.handleAtXdfuWrite cfg env params)
    | .apply params => respond (device.handleAtXdfuApply cfg env params)
    | .other => (device, env.otherResponse device.handled text)

def echoText (byte : Byte) : Text :=
  if byte < 128 then [Char.ofNat byte.toNat] else []

def terminationText : Termination → Text
  | .cr => ['\r']
  | .lf => ['\n']
  | .crLf => ['\r', '\n']

def handleEcho (byte : Byte) (send : Bool) (device : Device) : Device × Text :=
  let command := device.command
  if command.echoEnabled then
    let echoLen := command.echoLen + 1
    ({ device with command := { command with echoLen := echoLen } },
      if echoLen < cfg.atEchoMaxLen then echoText byte
      else if send then terminationText cfg.termination
      else [])
  else
    (device, [])

def cmdFinnishOrFail (device : Device) : Device :=
  let command := device.command
  let shrink := atBufMinSize < command.atBufSize ∧ env.alloc device.handled atBufMinSize
  { device with
    command :=
      { command with
        insideQuotes := false
        atCmdLen := 0
        echoLen := 0
        atBufSize := if shrink then atBufMinSize else command.atBufSize } }

def endLine (device : Device) : Device × Text :=
  let command := device.command
  if command.atCmdLen > command.atBufSize - 1 then
    (device, errorText)
  else if 0 < command.atCmdLen then
    device.cmdSend cfg env (command.atBuf.take command.atCmdLen)
  else
    (device, [])

def cmdRxHandler (byte : Byte) (device : Device) : Device × Text :=
  let edited :=
    lineStep cfg.toConfig (env.alloc device.handled) byte device.command
  let typed := { device with command := edited.1 }
  match edited.2 with
  | .typing => typed.handleEcho cfg byte false
  | .ended =>
    let echoed := typed.handleEcho cfg byte true
    let ran := echoed.1.endLine cfg env
    (ran.1.cmdFinnishOrFail env, echoed.2 ++ ran.2)
  | .rejected => (device.cmdFinnishOrFail env, errorText)

/-- `sm_at_receive` for one byte. -/
def receive (byte : Byte) (device : Device) : Device × Text :=
  let result :=
    if device.inDatamode then
      device.rawRxHandler cfg env byte
    else
      device.cmdRxHandler cfg env byte
  ({ result.1 with handled := result.1.handled + 1 }, result.2)

/-- `raw_send_scheduled`, when the inactivity timer has expired. -/
def rawSendScheduled (device : Device) : Device :=
  device.rawSend env

end Device

end SerialModem.Dfu
