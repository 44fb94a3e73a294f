import SerialModem.Dfu.Device

/-!
# Write transfers

`AT#XDFUWRITE` with all image types, the full modem firmware among them.  Data
mode hands the bytes of the transfer to `xdfu_datamode_callback` in chunks, and
the target may fail any write.  A write that fails puts nothing on the target.
-/

namespace SerialModem.Dfu

open Library AtHost List

inductive XdfuImageType where
  | app
  | deltaMfw
  | fullMfw
  | mcubootBl
  deriving DecidableEq

structure WriterConfig where
  /-- `SM_DFU_BL_SUPPORTED`. -/
  blSupported : Bool
  /-- `CONFIG_SM_DFU_MODEM_FULL`. -/
  modemFull : Bool

/-- The function that a chunk is written with: `dfu_target_mcuboot_write`,
`dfu_target_modem_delta_write`, `nrf_modem_bootloader_bl_write` or
`nrf_modem_bootloader_fw_write`. -/
inductive WriteFunction where
  | mcuboot
  | modemDelta
  | bootloader
  | firmware (addr : Nat)
  deriving DecidableEq

def WriteFunction.addr : WriteFunction → Option Nat
  | .firmware addr => some addr
  | _ => none

structure Placement where
  index : Nat
  addr : Option Nat
  value : Byte
  deriving DecidableEq

/-- The sum of two values of the type `size_t`. -/
def sizeAdd (left right : Nat) : Nat :=
  (left + right) % (Device.sizeMax + 1)

def placements (addr : Option Nat) (index : Nat) (data : List Byte) : List Placement :=
  data.mapIdx fun offset value =>
    ⟨index + offset, addr.map (sizeAdd · offset), value⟩

/-- The static data of `sm_at_dfu.c` that a write transfer uses. -/
structure Writer where
  smBootloaderModeEnabled : Bool
  xdfuAppDatamodeContext : DatamodeContext
  xdfuDeltaMfwDatamodeContext : DatamodeContext
  xdfuFullMfwDatamodeContext : DatamodeContext
  fullMfwDfuSegmentType : Int
  xdfuCurrentImageType : XdfuImageType
  xdfuBytesWritten : Nat
  xdfuStatus : Int
  calls : Nat
  received : Nat
  reached : List Placement
  deriving DecidableEq

/-- `"#XDFU: %u,%u,%d\r\n"` at the end of a transfer. -/
structure WriteNotification where
  type : XdfuImageType
  operation : Operation
  failed : Bool
  deriving DecidableEq

def einval : Int := 22

namespace Writer

/-- The function that the next chunk is written with, unless the segment type is
invalid. -/
def writeFunction (writer : Writer) : Option WriteFunction :=
  match writer.xdfuCurrentImageType with
  | .app | .mcubootBl => some .mcuboot
  | .deltaMfw => some .modemDelta
  | .fullMfw =>
    if writer.fullMfwDfuSegmentType = 0 then
      some .bootloader
    else if writer.fullMfwDfuSegmentType = 1 then
      some (.firmware writer.xdfuFullMfwDatamodeContext.addr)
    else
      none

/-- The chunk is on the target; only a firmware segment keeps an address. -/
def written (function : WriteFunction) (data : List Byte) (writer : Writer) :
    Writer :=
  { writer with
    reached :=
      writer.reached ++ placements function.addr writer.received data
    xdfuFullMfwDatamodeContext :=
      match function with
      | .firmware addr =>
        { writer.xdfuFullMfwDatamodeContext with
          addr := sizeAdd addr data.length }
      | _ => writer.xdfuFullMfwDatamodeContext }

/-- The write of a chunk; `result` is what the target returns, by the number of
calls before. -/
def write (result : Nat → Int) (data : List Byte) (writer : Writer) : Writer :=
  match writer.writeFunction with
  | none => { writer with xdfuStatus := -einval }
  | some function =>
    let err := result writer.calls
    let called := { writer with calls := writer.calls + 1 }
    if err = 0 then called.written function data
    else { called with xdfuStatus := err }

def account (data : List Byte) (writer : Writer) : Writer :=
  { writer with
    received := writer.received + data.length
    xdfuBytesWritten :=
      if writer.xdfuStatus = 0 then
        sizeAdd writer.xdfuBytesWritten data.length
      else
        writer.xdfuBytesWritten }

def datamodeSend (result : Nat → Int) (data : List Byte) (writer : Writer) : Int × Writer :=
  if data = [] then
    (-einval, writer)
  else
    (data.length, (writer.write result data).account data)

def context (writer : Writer) : DatamodeContext :=
  match writer.xdfuCurrentImageType with
  | .app | .mcubootBl => writer.xdfuAppDatamodeContext
  | .deltaMfw => writer.xdfuDeltaMfwDatamodeContext
  | .fullMfw => writer.xdfuFullMfwDatamodeContext

def datamodeExit (writer : Writer) : WriteNotification × Writer :=
  let status :=
    if writer.xdfuStatus = 0 ∧ writer.xdfuBytesWritten ≠ writer.context.len then
      -Device.eio
    else
      writer.xdfuStatus
  (⟨writer.xdfuCurrentImageType, .dataWrite, status ≠ 0⟩,
    { writer with xdfuBytesWritten := 0, xdfuStatus := 0 })

def setContext (type : XdfuImageType) (context : DatamodeContext) (writer : Writer) : Writer :=
  match type with
  | .app | .mcubootBl => { writer with xdfuAppDatamodeContext := context }
  | .deltaMfw => { writer with xdfuDeltaMfwDatamodeContext := context }
  | .fullMfw => { writer with xdfuFullMfwDatamodeContext := context }

def typeGet (cfg : WriterConfig) (bootloaderMode : Bool) (params : List Text) :
    Option XdfuImageType :=
  match Device.numGet Device.uint16Max params 0 with
  | some 0 => if bootloaderMode then none else some .app
  | some 1 => if bootloaderMode then none else some .deltaMfw
  | some 2 => if cfg.modemFull then some .fullMfw else none
  | some 3 =>
    if bootloaderMode then none
    else if cfg.blSupported then some .mcubootBl
    else none
  | _ => none

/-- The end of `handle_at_xdfu_write`, once the parameters are read. -/
def startWrite (entersDatamode : Bool) (type : XdfuImageType)
    (context : DatamodeContext) (writer : Writer) : Bool × Writer :=
  let parsed := writer.setContext type context
  if context.len = 0 then
    (false, parsed)
  else
    (entersDatamode,
      { parsed with
        xdfuCurrentImageType := type
        xdfuBytesWritten := 0
        xdfuStatus := 0
        received := 0
        reached := [] })

def initial : Writer where
  smBootloaderModeEnabled := false
  xdfuAppDatamodeContext := ⟨0, 0⟩
  xdfuDeltaMfwDatamodeContext := ⟨0, 0⟩
  xdfuFullMfwDatamodeContext := ⟨0, 0⟩
  fullMfwDfuSegmentType := 0
  xdfuCurrentImageType := .app
  xdfuBytesWritten := 0
  xdfuStatus := 0
  calls := 0
  received := 0
  reached := []

def contextOf (type : XdfuImageType) (writer : Writer) : DatamodeContext :=
  ({ writer with xdfuCurrentImageType := type } : Writer).context

/-- `handle_at_xdfu_write`; `true` stands for the result zero. -/
def handleAtXdfuWrite (cfg : WriterConfig) (entersDatamode : Bool)
    (params : List Text) (writer : Writer) : Bool × Writer :=
  match typeGet cfg writer.smBootloaderModeEnabled params with
  | none => (false, writer)
  | some type =>
    if params.length ≠ 3 then
      (false, writer)
    else
      match Device.numGet Device.sizeMax params 1, Device.numGet Device.sizeMax params 2 with
      | none, _ => (false, writer)
      | some addr, none =>
        (false, writer.setContext type { writer.contextOf type with addr := addr })
      | some addr, some len =>
        writer.startWrite entersDatamode type ⟨addr, len⟩

def receiveChunks (result : Nat → Int) (chunks : List (List Byte)) (writer : Writer) : Writer :=
  chunks.foldl (fun writer chunk => (writer.datamodeSend result chunk).2) writer

/-- The address of the first byte of the transfer, for a firmware segment. -/
def startAddr (writer : Writer) : Option Nat :=
  writer.writeFunction.bind WriteFunction.addr

end Writer

theorem sizeAdd_sizeAdd (first second third : Nat) :
    sizeAdd (sizeAdd first second) third = sizeAdd first (second + third) := by
  rw [sizeAdd, sizeAdd, sizeAdd, Nat.mod_add_mod, Nat.add_assoc]

@[simp] theorem placements_nil (addr : Option Nat) (index : Nat) : placements addr index [] = [] :=
  rfl

@[simp] theorem length_placements (addr : Option Nat) (index : Nat)
    (data : List Byte) : (placements addr index data).length = data.length :=
  length_mapIdx

theorem placements_append (addr : Option Nat) (index : Nat) (front tail : List Byte) :
    placements addr index (front ++ tail) = placements addr index front ++
        placements (addr.map (sizeAdd · front.length)) (index + front.length)
          tail := by
  rw [placements, placements, placements, mapIdx_append]
  congr 2
  funext offset value
  rw [Option.map_map, Nat.add_comm offset, ← Nat.add_assoc]
  congr 2
  funext start
  exact (sizeAdd_sizeAdd start front.length offset).symm

variable {data : List Byte}

theorem mem_placements_index {addr : Option Nat} {index : Nat}
    {placement : Placement} (member : placement ∈ placements addr index data) :
    index ≤ placement.index := by
  obtain ⟨offset, _, rfl⟩ := mem_mapIdx.mp member
  exact Nat.le_add_right index offset

theorem exists_mem_placements {addr : Option Nat} {index offset : Nat}
    {data : List Byte} (within : offset < data.length) :
    ∃ placement ∈ placements addr index data, placement.index = index + offset :=
  ⟨_, mem_mapIdx.mpr ⟨offset, within, rfl⟩, rfl⟩

structure Calls (data : List Byte) (before after : Writer) : Prop where
  calls : after.calls = before.calls + 1
  received : after.received = before.received + data.length
  usable : after.writeFunction ≠ none
  expected : after.context.len = before.context.len

structure TakesChunk (data : List Byte) (before after : Writer) : Prop extends
    Calls data before after where
  reached : after.reached = before.reached ++ placements before.startAddr before.received data
  startAddr : after.startAddr = before.startAddr.map (sizeAdd · data.length)
  status : after.xdfuStatus = before.xdfuStatus
  bytesWritten : before.xdfuStatus = 0 →
    after.xdfuBytesWritten = sizeAdd before.xdfuBytesWritten data.length

structure Rejects (data : List Byte) (before after : Writer) : Prop extends
    Calls data before after where
  reached : after.reached = before.reached
  startAddr : after.startAddr = before.startAddr
  status : after.xdfuStatus ≠ 0

namespace Writer

variable {writer : Writer} {data : List Byte} {result : Nat → Int}

theorem datamodeSend_of_ne_nil (nonempty : data ≠ []) :
    (writer.datamodeSend result data).2 = (writer.write result data).account data := by
  rw [datamodeSend, if_neg nonempty]

variable {function : WriteFunction}

theorem write_of_succeeds (toFunction : writer.writeFunction = some function)
    (succeeds : result writer.calls = 0) :
    writer.write result data = ({ writer with calls := writer.calls + 1 } : Writer).written function
        data := by
  simp only [write, toFunction, succeeds, if_pos]

theorem write_of_fails (usable : writer.writeFunction ≠ none) (fails : result writer.calls ≠ 0) :
    writer.write result data =
      { writer with
        calls := writer.calls + 1
        xdfuStatus := result writer.calls } := by
  obtain ⟨function, toFunction⟩ := Option.ne_none_iff_exists'.mp usable
  simp only [write, toFunction, fails, if_false]

theorem startAddr_eq (toFunction : writer.writeFunction = some function) :
    writer.startAddr = function.addr := by
  rw [startAddr, toFunction]
  rfl

theorem writeFunction_written {function : WriteFunction}
    (toFunction : writer.writeFunction = some function) :
    ∃ next, (writer.written function data).writeFunction = some next ∧
      next.addr = function.addr.map (sizeAdd · data.length) := by
  cases function with
  | firmware addr =>
    refine ⟨.firmware (sizeAdd addr data.length), ?_, rfl⟩
    have isFirmware : writer.xdfuCurrentImageType = .fullMfw ∧
        writer.fullMfwDfuSegmentType = 1 := by
      unfold writeFunction at toFunction
      grind
    simp [writeFunction, written, isFirmware]
  | mcuboot => exact ⟨.mcuboot, toFunction, rfl⟩
  | modemDelta => exact ⟨.modemDelta, toFunction, rfl⟩
  | bootloader => exact ⟨.bootloader, toFunction, rfl⟩

theorem context_written_len (function : WriteFunction) :
    (writer.written function data).context.len = writer.context.len := by
  unfold context written
  cases writer.xdfuCurrentImageType with
  | fullMfw => cases function <;> rfl
  | _ => rfl

theorem datamodeSend_takes (nonempty : data ≠ []) (usable : writer.writeFunction ≠ none)
    (succeeds : result writer.calls = 0) :
    TakesChunk data writer (writer.datamodeSend result data).2 := by
  obtain ⟨function, toFunction⟩ := Option.ne_none_iff_exists'.mp usable
  rw [datamodeSend_of_ne_nil nonempty, write_of_succeeds toFunction succeeds]
  obtain ⟨next, isNext, nextAddr⟩ :=
    @writeFunction_written { writer with calls := writer.calls + 1 } data function toFunction
  exact
    { calls := rfl
      received := rfl
      usable := fun isNone => nomatch isNext.symm.trans isNone
      expected :=
        @context_written_len { writer with calls := writer.calls + 1 } data function
      reached := by rw [startAddr_eq toFunction]; rfl
      startAddr := by
        rw [startAddr_eq toFunction, ← nextAddr]
        exact startAddr_eq isNext
      status := rfl
      bytesWritten := fun isZero => if_pos isZero }

theorem datamodeSend_rejects (nonempty : data ≠ []) (usable : writer.writeFunction ≠ none)
    (fails : result writer.calls ≠ 0) :
    Rejects data writer (writer.datamodeSend result data).2 := by
  rw [datamodeSend_of_ne_nil nonempty, write_of_fails usable fails]
  exact
    { calls := rfl
      received := rfl
      usable := usable
      expected := rfl
      reached := rfl
      startAddr := rfl
      status := fails }

end Writer

def ImageType.xdfu : ImageType → XdfuImageType
  | .app => .app
  | .deltaMfw => .deltaMfw
  | .mcubootBl => .mcubootBl

/-- The device is in the transfer of the writer, and its target had accepted
`before` when the transfer began. -/
structure SameTransfer (before : List Byte) (device : Device)
    (writer : Writer) : Prop where
  type : writer.xdfuCurrentImageType = device.xdfuCurrentImageType.xdfu
  bytesWritten : writer.xdfuBytesWritten = device.xdfuBytesWritten
  status : writer.xdfuStatus = device.xdfuStatus
  calls : writer.calls = device.calls
  accepted : device.accepted device.xdfuCurrentImageType.target =
    before ++ writer.reached.map Placement.value

theorem placements_value (addr : Option Nat) (index : Nat) (data : List Byte) :
    (placements addr index data).map Placement.value = data := by
  apply ext_getElem
  · rw [length_map, length_placements]
  · intro offset _ _
    rw [getElem_map]
    exact congrArg Placement.value getElem_mapIdx

variable {device : Device}

variable {before : List Byte}

theorem SameTransfer.usable {writer : Writer} (same : SameTransfer before device writer) :
    ∃ function, writer.writeFunction = some function := by
  unfold Writer.writeFunction
  rw [same.type]
  cases device.xdfuCurrentImageType with
  | app | deltaMfw | mcubootBl => exact ⟨_, rfl⟩

variable {env : Environment}

theorem Device.datamodeSend_of_succeeds (succeeds : env.target device.calls = 0) :
    device.datamodeSend env data =
      { (device.callTarget env).2.setAccepted device.xdfuCurrentImageType.target
          (device.accepted device.xdfuCurrentImageType.target ++ data) with
        xdfuBytesWritten :=
          if device.xdfuStatus = 0 then
            device.xdfuBytesWritten + data.length
          else
            device.xdfuBytesWritten } := by
  unfold Device.datamodeSend
  have answer : (device.callTarget env).1 = 0 := succeeds
  simp only [answer, if_true]
  by_cases clean : device.xdfuStatus = 0
  · rw [if_pos clean]
    exact if_pos clean
  · rw [if_neg clean]
    exact if_neg clean

theorem Device.datamodeSend_of_fails (fails : env.target device.calls ≠ 0) :
    device.datamodeSend env data =
      { (device.callTarget env).2 with
        xdfuStatus := env.target device.calls } := by
  unfold Device.datamodeSend
  have answer : (device.callTarget env).1 ≠ 0 := fails
  dsimp only
  rw [if_neg answer]
  exact if_neg answer

theorem SameTransfer.datamodeSend {writer : Writer}
    (same : SameTransfer before device writer) (nonempty : data ≠ [])
    (small : device.xdfuBytesWritten + data.length ≤ Device.sizeMax) :
    SameTransfer before (device.datamodeSend env data) (writer.datamodeSend env.target data).2 := by
  obtain ⟨function, toFunction⟩ := same.usable
  have usable : writer.writeFunction ≠ none :=
    fun isNone => nomatch toFunction.symm.trans isNone
  have counted : sizeAdd writer.xdfuBytesWritten data.length =
      device.xdfuBytesWritten + data.length := by
    rw [sizeAdd, same.bytesWritten, Nat.mod_eq_of_lt (by omega)]
  rw [Writer.datamodeSend_of_ne_nil nonempty]
  by_cases succeeds : env.target device.calls = 0
  · rw [Writer.write_of_succeeds toFunction (same.calls ▸ succeeds)]
    rw [Device.datamodeSend_of_succeeds succeeds]
    exact
      { type := same.type
        bytesWritten := by
          by_cases clean : device.xdfuStatus = 0
          · exact (if_pos (same.status.trans clean)).trans (counted.trans (if_pos clean).symm)
          · exact (if_neg (same.status.trans_ne clean)).trans
              (same.bytesWritten.trans (if_neg clean).symm)
        status := same.status
        calls := congrArg (· + 1) same.calls
        accepted := by
          have stored : device.accepted device.xdfuCurrentImageType.target ++ data =
                before ++ (writer.reached ++
                  placements function.addr writer.received data).map Placement.value := by
            rw [same.accepted, map_append, placements_value, append_assoc]
          exact (Function.update_self ..).trans stored }
  · rw [Writer.write_of_fails usable (same.calls ▸ succeeds), Device.datamodeSend_of_fails succeeds]
    have failed : env.target writer.calls ≠ 0 := same.calls ▸ succeeds
    exact
      { type := same.type
        bytesWritten := (if_neg failed).trans same.bytesWritten
        status := congrArg env.target same.calls
        calls := congrArg (· + 1) same.calls
        accepted := same.accepted }

theorem Device.datamodeSend_bytesWritten (env : Environment) (data : List Byte)
    (device : Device) : (device.datamodeSend env data).xdfuBytesWritten ≤
      device.xdfuBytesWritten + data.length := by
  by_cases succeeds : env.target device.calls = 0
  · rw [datamodeSend_of_succeeds succeeds]
    dsimp only
    split <;> omega
  · rw [datamodeSend_of_fails succeeds]
    exact Nat.le_add_right _ _

/-- Both models of a transfer agree after any chunks, whatever writes fail, as
long as the count of `size_t` does not wrap. -/
theorem sameTransfer_receiveChunks {writer : Writer} {chunks : List (List Byte)}
    (same : SameTransfer before device writer) (nonempty : ∀ data ∈ chunks, data ≠ [])
    (small : device.xdfuBytesWritten + chunks.flatten.length ≤ Device.sizeMax) :
    SameTransfer before (chunks.foldl (fun device data => device.datamodeSend env data) device)
      (writer.receiveChunks env.target chunks) := by
  induction chunks generalizing device writer with
  | nil => exact same
  | cons data rest ih =>
    rw [forall_mem_cons] at nonempty
    rw [flatten_cons, length_append] at small
    have counted := device.datamodeSend_bytesWritten env data
    refine ih (same.datamodeSend nonempty.1 (by omega)) nonempty.2 ?_
    dsimp only
    omega

/-- Where they expect the same length, both report the same at the end. -/
theorem SameTransfer.datamodeExit {cfg : Config} {writer : Writer}
    (same : SameTransfer before device writer) (expected : writer.context.len =
      (device.datamodeContext device.xdfuCurrentImageType.target).len) :
    ∃ failed, writer.datamodeExit.1 = ⟨device.xdfuCurrentImageType.xdfu, .dataWrite, failed⟩ ∧
      device.datamodeExit cfg =
        { device.urcSend cfg ⟨device.xdfuCurrentImageType, .dataWrite, failed⟩ with
          xdfuBytesWritten := 0
          xdfuStatus := 0 } := by
  refine ⟨_, ?_, rfl⟩
  rw [Writer.datamodeExit, same.type, same.status, same.bytesWritten, expected]

def freshTransfer : Device :=
  ⟨(AtHost.Ctx.init none).command, true, 2, [], fun _ => ⟨0, 2⟩, true, .app, 0, 0, [],
    fun _ => [], 0, 0⟩

/-- The second write fails. -/
theorem sameTransfer_failed_write : SameTransfer []
    (([[1], [2]] : List (List Byte)).foldl (fun device data => device.datamodeSend
      ⟨fun call => -call, fun _ => true, fun _ _ => true, fun _ => true, fun _ _ => []⟩ data)
      freshTransfer)
    (Writer.initial.receiveChunks (fun call => -call) [[1], [2]]) :=
  sameTransfer_receiveChunks ⟨rfl, rfl, rfl, rfl, rfl⟩ (by decide) (by decide)

end SerialModem.Dfu
