import SerialModem.AtHost.MachineSteps
import SerialModem.Ppp.System

/-!
# Starting CMUX

`cmux_start` marks CMUX as started with its first assignment, moves the AT context
to the pipe of a channel and attaches CMUX to the UART pipe last.  `AT#XCMUX`
assigns the channels of PPP and of the trace backend before that.  Nothing of this
is taken back when a later step fails.
-/

namespace SerialModem.Cmux

open AtHost Ppp

/-- `CONFIG_SM_PPP` and `CONFIG_SM_MODEM_TRACE_BACKEND_CMUX`. -/
structure CmuxBuild where
  ppp : Bool
  trace : Bool
  deriving DecidableEq

inductive OtherHandler where
  | cmux
  | ppp
  | trace
  deriving DecidableEq

structure CmuxSystem where
  /-- The contexts and pipes of the AT host, and whether `cmux.uart_pipe` is
  set. -/
  machine : Machine
  other : PipeId → OtherHandler
  ppp : PppVars
  /-- `cmux.at_channel`. -/
  atChannel : Nat
  /-- What `sm_uart_pipe_get` returns. -/
  uartPipe : Option PipeId

/-- The reason for which `cmux_start` fails. -/
inductive StartFailure where
  /-- `modem_pipe_open`, when CMUX is started already. -/
  | notOpened
  /-- `sm_uart_pipe_get`. -/
  | noDevice
  /-- `sm_at_host_set_pipe`. -/
  | notSwitched
  /-- `modem_cmux_attach`. -/
  | notAttached
  deriving DecidableEq

inductive HandlerResult where
  /-- `-SILENT_AT_COMMAND_RET`. -/
  | silent
  /-- `-EINVAL`. -/
  | invalid
  /-- `-EALREADY`. -/
  | already
  /-- `-ENOTSUP`. -/
  | notSupported
  | failed (reason : StartFailure)
  deriving DecidableEq

/-- What `modem_pipe_open` and `modem_cmux_attach` return. -/
structure ModemOutcome where
  opens : Bool
  attaches : Bool
  deriving DecidableEq

namespace CmuxSystem

def setMachine (system : CmuxSystem) (machine : Machine) : CmuxSystem :=
  { system with machine := machine }

/-- `sm_cmux_is_started`. -/
def started (system : CmuxSystem) : Bool :=
  system.machine.host.cmuxStarted

/-- `sm_cmux_get_dlci`. -/
def dlci (address : Nat) (system : CmuxSystem) : Option PipeId :=
  system.machine.host.cmuxDlci address

def attachOther (handler : OtherHandler) (pipe : PipeId) (system : CmuxSystem) :
    CmuxSystem :=
  { system with
    machine := system.machine.modemPipeAttach pipe .other
    other := Function.update system.other pipe handler }

def rspSendOk (cfg : Config) (system : CmuxSystem) : CmuxSystem :=
  system.setMachine (system.machine.setHost (rspSend cfg .ok system.machine.host))

def releaseCtxOf (pipe : Option PipeId) (system : CmuxSystem) : CmuxSystem :=
  match smAtHostGetCtxFrom pipe system.machine.host with
  | none => system
  | some c => system.setMachine (smAtHostRelease c system.machine)

def smPppAttach (pipe : Option PipeId) (system : CmuxSystem) : CmuxSystem :=
  { system with
    machine := match pipe with
      | none => system.machine
      | some pipe => system.machine.modemPipeAttach pipe .none
    ppp := { system.ppp with pppPipe := pipe, smPppKeepPipeAttached := true } }

def smTraceBackendAttach (pipe : Option PipeId) (system : CmuxSystem) :
    CmuxSystem :=
  match pipe with
  | none => system
  | some pipe => system.attachOther .trace pipe

def smAtHostSetPipe (ctx : Option CtxId) (pipe : Option PipeId)
    (system : CmuxSystem) : Bool × CmuxSystem :=
  match ctx, pipe with
  | some c, some pipe =>
    if smAtCtxCheck c system.machine.host then
      (true, system.setMachine (AtHost.smAtHostSetPipe c pipe system.machine))
    else
      (false, system)
  | _, _ => (false, system)

end CmuxSystem

variable (cfg : Config) (build : CmuxBuild) (outcome : ModemOutcome)

def cmuxModemTraceChannel : Nat := 3

def assignDefaultChannels (system : CmuxSystem) : CmuxSystem :=
  let reserved :=
    if build.ppp then
      let pppPipe := system.dlci (pppChannel system.atChannel)
      (system.releaseCtxOf pppPipe).smPppAttach pppPipe
    else
      system
  if build.trace then
    let tracePipe := reserved.dlci cmuxModemTraceChannel
    (reserved.releaseCtxOf tracePipe).smTraceBackendAttach tracePipe
  else
    reserved

def doAtAndPppChannelSwitch (newAtChannel : Nat) (system : CmuxSystem) :
    HandlerResult × CmuxSystem :=
  let answered := system.rspSendOk cfg
  let chosen := { answered with atChannel := newAtChannel }
  let switched := chosen.smAtHostSetPipe
    (smAtHostGetCurrent cfg chosen.machine.host) (chosen.dlci (newAtChannel + 1))
  if !switched.1 then
    (.failed .notSwitched, switched.2)
  else if build.ppp then
    let pppPipe := switched.2.dlci (pppChannel newAtChannel)
    let attached := (switched.2.releaseCtxOf pppPipe).smPppAttach pppPipe
    -- `sm_ppp_detach_after_disconnect`
    (.silent, { attached with
      ppp := { attached.ppp with smPppKeepPipeAttached := false } })
  else
    (.silent, switched.2)

def cmuxStart (system : CmuxSystem) : Option StartFailure × CmuxSystem :=
  if system.started then
    (if outcome.opens then none else some .notOpened, system)
  else
    match system.uartPipe with
    | none => (some .noDevice, system)
    | some uartPipe =>
      let marked := system.setMachine (system.machine.setHost
        { system.machine.host with cmuxStarted := true })
      let switched := marked.smAtHostSetPipe (smAtHostGetCurrent cfg marked.machine.host)
        (marked.dlci (system.atChannel + 1))
      if !switched.1 then
        (some .notSwitched, switched.2)
      else if !outcome.attaches then
        (some .notAttached, switched.2)
      else
        (none, switched.2.attachOther .cmux uartPipe)

/-- The end of `handle_at_xcmux` and of `handle_at_cmux`. -/
def respondAndStart (system : CmuxSystem) : HandlerResult × CmuxSystem :=
  let result := cmuxStart cfg outcome (system.rspSendOk cfg)
  match result.1 with
  | none => (.silent, result.2)
  | some reason => (.failed reason, result.2)

/-- The set command of `handle_at_xcmux`, with its parameter. -/
def handleAtXcmux (atDlci : Option Nat) (system : CmuxSystem) : HandlerResult × CmuxSystem :=
  match atDlci with
  | none =>
    if system.started then
      (.already, system)
    else
      respondAndStart cfg outcome (assignDefaultChannels build system)
  | some dlci =>
    if dlci ≠ 1 ∧ (!build.ppp ∨ dlci ≠ 2) then
      (.invalid, system)
    else if build.ppp ∧ system.ppp.pppState = .running ∧ dlci - 1 ≠ system.atChannel then
      (.notSupported, system)
    else if system.started then
      doAtAndPppChannelSwitch cfg build (dlci - 1) system
    else
      respondAndStart cfg outcome (assignDefaultChannels build
        { system with atChannel := dlci - 1 })

/-- The set command of `handle_at_cmux`, once its parameters are accepted. -/
def handleAtCmux (system : CmuxSystem) : HandlerResult × CmuxSystem :=
  if system.started then
    (.already, system)
  else
    respondAndStart cfg outcome system

/-- The commands that start CMUX. -/
inductive StartCommand where
  | xcmux (atDlci : Option Nat)
  | cmux
  deriving DecidableEq

def handleCommand (command : StartCommand) (system : CmuxSystem) : HandlerResult × CmuxSystem :=
  match command with
  | .xcmux atDlci => handleAtXcmux cfg build outcome atDlci system
  | .cmux => handleAtCmux cfg outcome system

/-- Nothing is left of a start: CMUX is not started, the AT context has its pipe,
the UART pipe has its handler, and PPP and the trace backend have the channels
that they had. -/
structure StartUndone (before after : CmuxSystem) : Prop where
  stopped : after.started = false
  samePipe : ∀ c, smAtHostGetCurrent cfg before.machine.host = some c →
    (after.machine.host.ctx c).pipe = (before.machine.host.ctx c).pipe
  uartHandler : ∀ c, smAtHostGetCurrent cfg before.machine.host = some c →
    ∀ pipe, before.uartPipe = some pipe → after.machine.callback pipe = .atPipeEventHandler c
  samePpp : after.ppp = before.ppp
  sameChannels : ∀ address pipe, before.dlci address = some pipe →
    after.machine.callback pipe = before.machine.callback pipe ∧
      after.other pipe = before.other pipe

variable {cfg build outcome} {system : CmuxSystem}

theorem smAtHostSetPipe_cmuxStarted (c : CtxId) (pipe : PipeId) (machine : Machine) :
    (AtHost.smAtHostSetPipe c pipe machine).host.cmuxStarted = machine.host.cmuxStarted := by
  have destroyed : ∀ (d : CtxId) (host : Host),
      (smAtHostDestroy d host).cmuxStarted = host.cmuxStarted := by
    intro d host
    rw [smAtHostDestroy]
    split
    · rfl
    · split
      · rfl
      · split
        · rfl
        · rfl
  rw [AtHost.smAtHostSetPipe]
  split
  · rw [takeOverPipe]
    dsimp only [Machine.modemPipeAttach, Machine.setHost]
    split
    · split
      · rfl
      · rw [destroyed]
        rfl
    · rfl
  · rfl

theorem CmuxSystem.smAtHostSetPipe_started (ctx : Option CtxId)
    (pipe : Option PipeId) (system : CmuxSystem) :
    (system.smAtHostSetPipe ctx pipe).2.started = system.started := by
  rw [CmuxSystem.smAtHostSetPipe.eq_def]
  split
  · split
    · exact smAtHostSetPipe_cmuxStarted _ _ _
    · rfl
  · rfl

variable {reason : StartFailure}

theorem cmuxStart_failed (fails : (cmuxStart cfg outcome system).1 = some reason) :
    reason ≠ .noDevice ∧ (cmuxStart cfg outcome system).2.started = true ∨
      reason = .noDevice ∧ system.uartPipe = none ∧ (cmuxStart cfg outcome system).2 = system := by
  rw [cmuxStart] at fails ⊢
  by_cases isStarted : system.started = true
  · rw [if_pos isStarted] at fails ⊢
    refine .inl ⟨?_, isStarted⟩
    rintro rfl
    cases isOpen : outcome.opens with
    | true | false => simp [isOpen] at fails
  · rw [if_neg isStarted] at fails ⊢
    cases isUart : system.uartPipe with
    | none =>
      rw [isUart] at fails
      cases fails
      exact .inr ⟨rfl, rfl, rfl⟩
    | some uartPipe =>
      rw [isUart] at fails
      dsimp only at fails ⊢
      left
      split
      · rename_i notSwitched
        rw [if_pos notSwitched] at fails
        cases fails
        rw [CmuxSystem.smAtHostSetPipe_started]
        exact ⟨nofun, rfl⟩
      · rename_i isSwitched
        rw [if_neg isSwitched] at fails
        split
        · rename_i notAttached
          rw [if_pos notAttached] at fails
          cases fails
          rw [CmuxSystem.smAtHostSetPipe_started]
          exact ⟨nofun, rfl⟩
        · rename_i isAttached
          rw [if_neg isAttached] at fails
          cases fails

theorem respondAndStart_failed (fails : (respondAndStart cfg outcome system).1 = .failed reason) :
    reason ≠ .noDevice ∧ (respondAndStart cfg outcome system).2.started = true ∨
      reason = .noDevice ∧ system.uartPipe = none ∧
        (respondAndStart cfg outcome system).2 = system.rspSendOk cfg := by
  rw [respondAndStart] at fails ⊢
  cases result : (cmuxStart cfg outcome (system.rspSendOk cfg)).1 with
  | none =>
    rw [result] at fails
    cases fails
  | some reason =>
    rw [result] at fails
    cases fails
    exact cmuxStart_failed result

/-- A command that fails in `cmux_start` comes from it. -/
theorem handleCommand_failed {command : StartCommand} (notStarted : system.started = false)
    (fails : (handleCommand cfg build outcome command system).1 = .failed reason) :
    ∃ assigned, handleCommand cfg build outcome command system =
        respondAndStart cfg outcome assigned ∧
      (command = .cmux → assigned = system) := by
  cases command with
  | cmux =>
    rw [handleCommand, handleAtCmux, if_neg (by simp [notStarted])]
    exact ⟨system, rfl, fun _ => rfl⟩
  | xcmux atDlci =>
    rw [handleCommand, handleAtXcmux.eq_def] at fails ⊢
    cases atDlci with
    | none =>
      dsimp only
      rw [if_neg (by simp [notStarted])]
      exact ⟨_, rfl, nofun⟩
    | some dlci =>
      dsimp only at fails ⊢
      split
      · rename_i isInvalid
        rw [if_pos isInvalid] at fails
        cases fails
      · rename_i isValid
        rw [if_neg isValid] at fails
        split
        · rename_i isReserved
          rw [if_pos isReserved] at fails
          cases fails
        · rw [if_neg (by simp [notStarted])]
          exact ⟨_, rfl, nofun⟩

/-- When the switch of the pipe or `modem_cmux_attach` fails, CMUX stays
started. -/
theorem handleCommand_started {command : StartCommand} (notStarted : system.started = false)
    (fails : (handleCommand cfg build outcome command system).1 =
      .failed reason) (hasDevice : reason ≠ .noDevice) :
    (handleCommand cfg build outcome command system).2.started = true := by
  obtain ⟨assigned, isStart, _⟩ := handleCommand_failed notStarted fails
  rw [isStart] at fails ⊢
  rcases respondAndStart_failed fails with ⟨_, isStarted⟩ | ⟨noDevice, _, _⟩
  · exact isStarted
  · exact absurd noDevice hasDevice

theorem handleCommand_already {later : ModemOutcome} (isStarted : system.started = true) :
    handleCommand cfg build later .cmux system = (.already, system) ∧
      handleCommand cfg build later (.xcmux none) system = (.already, system) := by
  constructor
  · rw [handleCommand, handleAtCmux, if_pos isStarted]
  · rw [handleCommand, handleAtXcmux, if_pos isStarted]

/-- In every state in which CMUX is not started, a command for which the switch of
the pipe or `modem_cmux_attach` fails leaves it started, and each command that
would start it again is refused. -/
theorem failed_start_not_undone {command : StartCommand} {reason : StartFailure}
    (notStarted : system.started = false)
    (fails : (handleCommand cfg build outcome command system).1 =
      .failed reason) (hasDevice : reason ≠ .noDevice) :
    ¬StartUndone cfg system (handleCommand cfg build outcome command system).2 ∧
      ∀ later retry, retry = .cmux ∨ retry = .xcmux none → (handleCommand cfg build later retry
          (handleCommand cfg build outcome command system).2).1 = .already := by
  have isStarted := handleCommand_started notStarted fails hasDevice
  constructor
  · intro undone
    exact absurd (undone.stopped.symm.trans isStarted) nofun
  · intro later retry
    have refused := @handleCommand_already cfg build _ later isStarted
    rintro (rfl | rfl)
    · rw [refused.1]
    · rw [refused.2]

def servingSystem : CmuxSystem where
  machine := bootedMachine.setHost { bootedMachine.host with currentCtx := some 0 }
  other _ := .cmux
  ppp := PppVars.initial
  atChannel := 0
  uartPipe := some 0

/-- `modem_cmux_attach` fails. -/
def notAttached : ModemOutcome := ⟨true, false⟩

/-- After the failure CMUX counts as started. -/
theorem cmux_refused_after_failure : (handleCommand plusConfig ⟨true, true⟩ ⟨true, true⟩ .cmux
      (handleCommand plusConfig ⟨true, true⟩ notAttached .cmux servingSystem).2).1 = .already :=
  (@failed_start_not_undone plusConfig ⟨true, true⟩ notAttached servingSystem
    .cmux .notAttached rfl (by decide) nofun).2 _ _ (.inl rfl)

/-- `AT#XCMUX` on the UART, and `modem_cmux_attach` fails.  The AT context is on the
first channel, nobody handles the UART pipe, and PPP and the trace backend have
channels. -/
theorem attach_failure_left :
    ∃ after, handleCommand plusConfig ⟨true, true⟩ notAttached (.xcmux none)
        servingSystem = (.failed .notAttached, after) ∧
      servingSystem.started = false ∧ after.started = true ∧
      (after.machine.host.ctx 0).pipe = some 1 ∧
      after.machine.callback 0 = .nullPipeHandler ∧
      after.ppp.pppPipe = some 2 ∧ after.machine.callback 3 = .other ∧
      ¬StartUndone plusConfig servingSystem after := by
  refine ⟨_, rfl, rfl, rfl, rfl, rfl, rfl, rfl, fun undone => ?_⟩
  have stopped := undone.stopped
  cases stopped

end SerialModem.Cmux
