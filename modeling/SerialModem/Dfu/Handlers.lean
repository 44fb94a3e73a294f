import SerialModem.Dfu.CommandText
import Mathlib.Data.List.TakeWhile

/-!
# What the handlers do

A command that the script sends reaches its handler with the numbers that the
script has put into it.  A handler that fails changes nothing that the script can
notice.
-/

namespace SerialModem.Dfu

open Library AtHost List

variable {cfg : Config} {env : Environment}

variable {params : List Nat}

theorem setParams_self (command : String) (nonempty : params ≠ []) :
    setParams command (commandBody command params) = some (params.map decimal) := by
  have isPrefix : hasPrefixIgnoringCase (commandBody command params) (ascii command) = true := by
    rw [hasPrefixIgnoringCase, commandBody, take_left, beq_self_eq_true]
  have noTest : encodeAscii ([','].intercalate (params.map decimal)) ≠ [63] := by
    intro test
    have range : (44 : Byte) ≤ 63 ∧ (63 : Byte) ≤ 57 :=
      params_bytes (by rw [test]; simp)
    exact absurd range (by decide)
  have isAscii : IsAscii ([','].intercalate (params.map decimal)) := by
    intro character member
    rcases mem_of_mem_intercalate member with rfl | ⟨part, isPart, inside⟩
    · decide
    · obtain ⟨number, _, rfl⟩ := List.mem_map.mp isPart
      have digit := isDigit_toNat (isDigit_of_mem_decimal inside)
      omega
  have split : ([','].intercalate (params.map decimal)).splitOn ',' = params.map decimal := by
    apply splitOn_intercalate
    · intro part isPart
      obtain ⟨number, _, rfl⟩ := List.mem_map.mp isPart
      exact not_mem_decimal (by decide)
    · simpa using nonempty
  rw [setParams, if_pos isPrefix, commandBody, drop_left]
  refine (if_neg noTest).trans ?_
  rw [decodeAscii_encodeAscii isAscii, split]

theorem dfuCommand_init (nonempty : params ≠ []) :
    dfuCommand (commandBody "AT#XDFUINIT" params) = .init (params.map decimal) := by
  rw [dfuCommand, setParams_self _ nonempty]

theorem dfuCommand_write (nonempty : params ≠ []) :
    dfuCommand (commandBody "AT#XDFUWRITE" params) = .write (params.map decimal) := by
  have other : setParams "AT#XDFUINIT" (commandBody "AT#XDFUWRITE" params) = none := rfl
  rw [dfuCommand, other, setParams_self _ nonempty]

theorem dfuCommand_apply (nonempty : params ≠ []) :
    dfuCommand (commandBody "AT#XDFUAPPLY" params) = .apply (params.map decimal) := by
  have notInit : setParams "AT#XDFUINIT" (commandBody "AT#XDFUAPPLY" params) = none := rfl
  have notWrite : setParams "AT#XDFUWRITE" (commandBody "AT#XDFUAPPLY" params) = none := rfl
  rw [dfuCommand, notInit, notWrite, setParams_self _ nonempty]

variable (cfg env) in
theorem cmdSend_command {body : List Byte} (isCommand : CommandText body) (device : Device) :
    device.cmdSend cfg env body = (device, errorText) ∨ device.cmdSend cfg env body =
        match dfuCommand body with
        | .init params => Device.respond (device.handleAtXdfuInit cfg env params)
        | .write params =>
          Device.respond (device.handleAtXdfuWrite cfg env params)
        | .apply params =>
          Device.respond (device.handleAtXdfuApply cfg env params)
        | .other => (device, env.otherResponse device.handled body) := by
  have skipped : skipToAt body = some body := by
    obtain ⟨tail, starts⟩ := isCommand.starts
    rw [starts]
    rfl
  have whole : (body.takeWhile fun byte => byte ≠ 0) = body := by
    apply takeWhile_eq_self_iff.mpr
    intro byte member
    have printable := isCommand.printable byte member
    simp only [decide_eq_true_eq]
    rintro rfl
    exact absurd printable (by decide)
  unfold Device.cmdSend
  simp only [skipped, Option.getD_some]
  split
  · exact .inl rfl
  · rw [whole]
    exact .inr rfl

structure Kept (before after : Device) : Prop where
  mode : after.inDatamode = before.inDatamode
  command : after.command = before.command
  urcBuf : after.urcBuf = before.urcBuf
  accepted : after.accepted = before.accepted

namespace Kept

theorem refl (device : Device) : Kept device device :=
  ⟨rfl, rfl, rfl, rfl⟩

theorem callTarget {before after : Device} (kept : Kept before after) :
    Kept before (after.callTarget env).2 :=
  ⟨kept.mode, kept.command, kept.urcBuf, kept.accepted⟩

end Kept

theorem numGet_decimal (most number : Nat) {params : List Text} {index : Nat}
    (there : params[index]? = some (decimal number)) :
    Device.numGet most params index = none ∨ Device.numGet most params index = some number := by
  unfold Device.numGet
  rw [there, Option.bind_some, readDecimal_decimal, Option.filter]
  split
  · exact .inr rfl
  · exact .inl rfl

variable (cfg) in
theorem typeGet_decimal (type : ImageType) (others : List Text) :
    Device.typeGet cfg (decimal type.number :: others) = none ∨
      Device.typeGet cfg (decimal type.number :: others) = some type := by
  unfold Device.typeGet
  have first : (decimal type.number :: others)[0]? = some (decimal type.number) := rfl
  rcases numGet_decimal Device.uint16Max type.number first with
    refused | read
  · rw [refused]
    exact .inl rfl
  · rw [read]
    cases type with
    | app | deltaMfw => exact .inr rfl
    | mcubootBl =>
      cases cfg.blSupported with
      | false =>
        left
        simp [ImageType.number]
      | true =>
        right
        simp [ImageType.number]

inductive Initialises (target : DfuTarget) (device : Device) :
    Bool × Device → Prop
  | fails {after : Device} : Kept device after → Initialises target device (false, after)
  | empties {prepared : Device} : Kept device prepared →
      Initialises target device (true, prepared.setAccepted target [])

theorem initMcuboot_initialises (device : Device) :
    Initialises .mcuboot device (device.initMcuboot env) := by
  have attempt : ∀ result : Int × Device, Kept device result.2 → Initialises .mcuboot device
        (if result.1 = 0 then (true, result.2.setAccepted .mcuboot [])
        else (false, result.2)) := by
    intro result kept
    split
    · exact .empties kept
    · exact .fails kept
  have buffered : Kept device (if device.appDfuBufferInitialized then ((0 : Int), device)
        else device.callTarget env).2 := by
    split
    · exact Kept.refl device
    · exact (Kept.refl device).callTarget
  unfold Device.initMcuboot
  generalize (if device.appDfuBufferInitialized then ((0 : Int), device)
    else device.callTarget env) = buffer at buffered
  dsimp only
  split
  · exact .fails buffered
  · apply attempt
    have ready : Kept device { buffer.2 with appDfuBufferInitialized := true } :=
      ⟨buffered.mode, buffered.command, buffered.urcBuf, buffered.accepted⟩
    split
    · exact ready.callTarget.callTarget.callTarget
    · exact ready.callTarget

theorem initModemDelta_initialises (device : Device) :
    Initialises .modemDelta device (device.initModemDelta env) := by
  unfold Device.initModemDelta
  dsimp only
  split
  · exact .empties (Kept.refl device).callTarget
  · exact .fails (Kept.refl device).callTarget

variable (cfg env) in
theorem handleAtXdfuInit_initialises (type : ImageType) (others : List Text) (device : Device) :
    Initialises type.target device
      (device.handleAtXdfuInit cfg env (decimal type.number :: others)) := by
  unfold Device.handleAtXdfuInit
  rcases typeGet_decimal cfg type others with refused | read
  · rw [refused]
    exact .fails (Kept.refl device)
  · rw [read]
    cases Device.numGet Device.sizeMax (decimal type.number :: others) 1 with
    | none => exact .fails (Kept.refl device)
    | some size =>
      cases type with
      | app => exact initMcuboot_initialises device
      | deltaMfw => exact initModemDelta_initialises device
      | mcubootBl => exact initMcuboot_initialises device

/-- What `AT#XDFUWRITE` does: nothing that matters, or the device is prepared for
the data. -/
inductive Prepares (type : ImageType) (length : Nat) (device : Device) :
    Bool × Device → Prop
  | fails {after : Device} : Kept device after → Prepares type length device (false, after)
  | enters {prepared : Device} : Kept device prepared → prepared.xdfuCurrentImageType = type →
      prepared.xdfuBytesWritten = 0 →
      prepared.xdfuStatus = 0 →
      (prepared.datamodeContext type.target).len = length →
      Prepares type length device
        (true, { prepared with
          inDatamode := true
          dataLen := length
          dataRb := [] })

theorem startWrite_prepares (type : ImageType) (addr length : Nat) (device : Device) :
    Prepares type length device (device.startWrite env type ⟨addr, length⟩) := by
  unfold Device.startWrite
  dsimp only
  split
  · exact .fails ⟨rfl, rfl, rfl, rfl⟩
  · split
    · have prepares : ∀ prepared : Device,
          prepared = { device.setContext type.target ⟨addr, length⟩ with
            xdfuCurrentImageType := type
            xdfuBytesWritten := 0
            xdfuStatus := 0 } →
          Prepares type length device (true, { prepared with
            inDatamode := true
            dataLen := length
            dataRb := [] }) := by
        rintro prepared rfl
        refine .enters ⟨rfl, rfl, rfl, rfl⟩ rfl rfl rfl ?_
        simp [Device.setContext]
      exact prepares _ rfl
    · exact .fails ⟨rfl, rfl, rfl, rfl⟩

variable (cfg env) in
theorem handleAtXdfuWrite_prepares (type : ImageType) (addr length : Nat) (device : Device) :
    Prepares type length device (device.handleAtXdfuWrite cfg env
      ([type.number, addr, length].map decimal)) := by
  unfold Device.handleAtXdfuWrite
  rcases typeGet_decimal cfg type ([addr, length].map decimal) with refused | read
  · rw [map_cons, refused]
    exact .fails (Kept.refl device)
  · rw [map_cons, read]
    dsimp only
    rw [if_neg (by simp)]
    have second : (decimal type.number :: [addr, length].map decimal)[1]? =
        some (decimal addr) := rfl
    have third : (decimal type.number :: [addr, length].map decimal)[2]? =
        some (decimal length) := rfl
    rcases numGet_decimal Device.sizeMax addr second with refused | readAddr
    · rw [refused]
      exact .fails (Kept.refl device)
    · rw [readAddr]
      rcases numGet_decimal Device.sizeMax length third with
        refused | readLength
      · rw [refused]
        exact .fails ⟨rfl, rfl, rfl, rfl⟩
      · rw [readLength]
        exact startWrite_prepares type addr length device

variable (cfg) in
theorem urcSend_keeps (line : XdfuLine) (device : Device) :
    (device.urcSend cfg line).inDatamode = device.inDatamode ∧
      (device.urcSend cfg line).command = device.command ∧
      (device.urcSend cfg line).accepted = device.accepted := by
  unfold Device.urcSend
  dsimp only
  split
  · exact ⟨rfl, rfl, rfl⟩
  · exact ⟨rfl, rfl, rfl⟩

variable (cfg env) in
theorem handleAtXdfuApply_keeps (params : List Text) (device : Device) :
    (device.handleAtXdfuApply cfg env params).2.inDatamode = device.inDatamode ∧
      (device.handleAtXdfuApply cfg env params).2.command = device.command ∧
      (device.handleAtXdfuApply cfg env params).2.accepted = device.accepted := by
  unfold Device.handleAtXdfuApply
  split
  · exact ⟨rfl, rfl, rfl⟩
  · dsimp only
    have keeps : ∀ result : Int × Device, Kept device result.2 →
        ∀ line, (result.2.urcSend cfg line).inDatamode = device.inDatamode ∧
          (result.2.urcSend cfg line).command = device.command ∧
          (result.2.urcSend cfg line).accepted = device.accepted := by
      intro result kept line
      obtain ⟨mode, command, accepted⟩ :=
        urcSend_keeps cfg line result.2
      exact ⟨mode.trans kept.mode, command.trans kept.command, accepted.trans kept.accepted⟩
    apply keeps
    split
    · exact (Kept.refl device).callTarget.callTarget
    · exact (Kept.refl device).callTarget

end SerialModem.Dfu
