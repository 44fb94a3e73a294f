import SerialModem.Dfu.Device

/-!
# The host side of a firmware update

`sm_dfu_host.py`.  The script is cut where it waits: between two waits it runs
through, and while it waits it reads what has arrived until it has its answer or
the time is over.  What it has read when a wait ends is forgotten, also the part
behind the answer.

The device sends ASCII only, so that what the script decodes is a `Text`.
-/

namespace SerialModem.Dfu

open Library AtHost

def isIn (part : String) (text : Text) : Bool :=
  part.toList <:+: text

def waitForResponse (expected : String) (buffer : Text) : Option Bool :=
  if isIn expected buffer then some true
  else if isIn "ERROR" buffer then some false
  else none

/-- `str.isspace`, for ASCII. -/
def isSpace (character : Char) : Bool :=
  character == ' ' || (9 ≤ character.toNat && character.toNat ≤ 13) ||
    (28 ≤ character.toNat && character.toNat ≤ 31)

def strip (text : Text) : Text :=
  ((text.dropWhile isSpace).reverse.dropWhile isSpace).reverse

/-- The digits that `int` accepts: underscores may stand between them. -/
def readDigits (text : Text) : Option Nat :=
  let groups := text.splitOn '_'
  if [] ∈ groups then none else readDecimal groups.flatten

def pyInt (text : Text) : Option Int :=
  match strip text with
  | '-' :: rest => (readDigits rest).map fun value => -(value : Int)
  | '+' :: rest => (readDigits rest).map fun value => (value : Int)
  | rest => (readDigits rest).map fun value => (value : Int)

/-- The status on a line of `wait_for_urc`; a line that cannot be read is passed
over. -/
def lineStatus (line : Text) : Option Int :=
  if isIn "#XDFU:" line then
    match (line.splitOn ':')[1]? with
    | none => none
    | some values =>
      ((strip values).splitOn ',')[2]?.bind pyInt
  else
    none

/-- `wait_for_urc`, as `waitForResponse`. -/
def waitForUrc (buffer : Text) : Option Int :=
  if isIn "#XDFU:" buffer then
    (buffer.splitOn '\n').findSome? lineStatus
  else
    none

def sendCommand (command : String) (params : List Nat) : List Byte :=
  encodeAscii (command.toList ++ ['='] ++ [','].intercalate (params.map decimal) ++ ['\r'])

/-- The loop of `parse_chunks_bin`; a read returns at least one byte of a file
that is not at its end. -/
def readChunks (chunkSize : Nat) : Nat → Nat → List Byte → List (Nat × List Byte)
  | 0, _, _ => []
  | fuel + 1, offset, content =>
    let chunk := content.take chunkSize
    if chunk = [] then
      []
    else
      (offset, chunk) :: readChunks chunkSize fuel (offset + chunk.length) (content.drop chunkSize)

def parseChunksBin (file : List Byte) : List (Nat × List Byte) :=
  readChunks 4096 file.length 0 file

/-- The parameters of `do_dfu_app`, `do_dfu_mcuboot_bootloader` and
`do_dfu_delta`, which differ in the type alone. -/
structure Script where
  type : ImageType
  file : List Byte
  retries : Nat
  deriving DecidableEq

def defaultRetries : Nat := 3

def doDfuApp (file : List Byte) (retries : Nat) : Script :=
  ⟨.app, file, retries⟩

def doDfuMcubootBootloader (file : List Byte) (retries : Nat) : Script :=
  ⟨.mcubootBl, file, retries⟩

def doDfuDelta (file : List Byte) (retries : Nat) : Script :=
  ⟨.deltaMfw, file, retries⟩

def Script.totalSize (script : Script) : Nat :=
  (parseChunksBin script.file).foldl (fun total chunk => total + chunk.2.length) 0

inductive Phase where
  /-- Before `dfu_init`. -/
  | starting
  /-- In the loop of `dfu_init`. -/
  | initialising
  | writing
  /-- In `wait_for_response` of `dfu_write`. -/
  | awaitingOk
  /-- In `wait_for_urc` of `dfu_write`. -/
  | awaitingUrc
  /-- In `wait_for_urc` of `dfu_apply`. -/
  | applying
  | returned (result : Bool)
  deriving DecidableEq

structure Host where
  phase : Phase
  buffer : Text
  chunks : List (Nat × List Byte)
  attempts : Nat
  deriving DecidableEq

namespace Host

def init (script : Script) : Host where
  phase := .starting
  buffer := []
  chunks := parseChunksBin script.file
  attempts := script.retries

def enter (phase : Phase) (host : Host) : Host :=
  { host with phase := phase, buffer := [] }

/-- `dfu_write` has returned `False`. -/
def writeFailed (host : Host) : Host :=
  { host.enter .writing with attempts := host.attempts - 1 }

/-- `dfu_write` has returned `True`. -/
def writeSucceeded (script : Script) (host : Host) : Host :=
  { host.enter .writing with
    chunks := host.chunks.tail
    attempts := script.retries }

/-- Run up to the next wait, with what is sent; `none` during a wait. -/
def proceed (script : Script) (host : Host) : Option (Host × List Byte) :=
  match host.phase with
  | .starting =>
    some (host.enter .initialising,
      sendCommand "AT#XDFUINIT" [script.type.number, script.totalSize])
  | .writing =>
    match host.chunks with
    | [] =>
      some (host.enter .applying, sendCommand "AT#XDFUAPPLY" [script.type.number])
    | (addr, data) :: _ =>
      if host.attempts = 0 then
        some (host.enter (.returned false), [])
      else
        some (host.enter .awaitingOk, sendCommand "AT#XDFUWRITE"
            [script.type.number, addr, data.length])
  | .initialising | .awaitingOk | .awaitingUrc | .applying | .returned _ =>
    none

def data (host : Host) : List Byte :=
  (host.chunks.head?.map Prod.snd).getD []

def look (script : Script) (host : Host) : Option (Host × List Byte) :=
  match host.phase with
  | .initialising =>
    match waitForResponse "OK" host.buffer with
    | some true => some (host.enter .writing, [])
    | some false => some (host.enter (.returned false), [])
    | none => some (host, [])
  | .awaitingOk =>
    match waitForResponse "OK" host.buffer with
    | some true => some (host.enter .awaitingUrc, host.data)
    | some false => some (host.writeFailed, [])
    | none => some (host, [])
  | .awaitingUrc =>
    match waitForUrc host.buffer with
    | some status =>
      if status = 0 then some (host.writeSucceeded script, [])
      else some (host.writeFailed, [])
    | none => some (host, [])
  | .applying =>
    match waitForUrc host.buffer with
    | some status => some (host.enter (.returned (status == 0)), [])
    | none => some (host, [])
  | .starting | .writing | .returned _ => none

def timeout (host : Host) : Option Host :=
  match host.phase with
  | .initialising | .applying => some (host.enter (.returned false))
  | .awaitingOk | .awaitingUrc => some host.writeFailed
  | .starting | .writing | .returned _ => none

end Host

end SerialModem.Dfu
