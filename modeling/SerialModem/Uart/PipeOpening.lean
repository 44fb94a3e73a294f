import SerialModem.DtrUart.Agreement

/-!
# Opening the UART pipe

`pipe_open` sets its bits before it enables the receiver, and `api_rx_enable` of
the DTR UART sets `app_rx_enabled` and `rx_active` before it starts the physical
UART.  Neither takes them back when what follows fails.
-/

namespace SerialModem.Uart

open Library DtrUart Option

/-- What `pipe_open` and `rx_enable` return. -/
inductive OpenResult where
  | ok
  /-- `-EINVAL`. -/
  | invalid
  /-- `-EALREADY`. -/
  | already
  /-- `-ENOMEM`. -/
  | noMemory
  /-- `-EBUSY`. -/
  | busy
  | uartError
  deriving DecidableEq

def OpenResult.ofAnswer : UartAnswer → OpenResult
  | .ok => .ok
  | .busy => .busy
  | .error => .uartError

/-- What a call of `rx_enable` meets. -/
structure EnableAttempt where
  /-- `rx_buf_alloc` finds a free block. -/
  allocated : Bool
  /-- What `uart_rx_enable` of the physical UART answers when it is not
  receiving. -/
  answer : UartAnswer
  deriving DecidableEq

/-- The bits of the pipe, and the reception below it. -/
structure PipeSystem where
  /-- `SM_PIPE_STATE_INIT_BIT`. -/
  initialised : Bool
  /-- `SM_PIPE_STATE_OPEN_BIT`. -/
  opened : Bool
  /-- `SM_UART_STATE_RX_RECOVERY_DISABLED_BIT`. -/
  recoveryDisabled : Bool
  /-- `SM_UART_STATE_TX_ENABLED_BIT`. -/
  txEnabled : Bool
  /-- `SM_UART_STATE_RX_ENABLED_BIT`, the DTR UART and the physical UART. -/
  reception : ReceptionSystem
  deriving DecidableEq

/-- `api_rx_enable` with nothing else going on meanwhile. -/
def apiRxEnableCall (answer : UartAnswer) (system : ReceptionSystem) :
    OpenResult × ReceptionSystem :=
  let checked := system.data.apiRxEnable
  match checked.1 with
  | .enabling =>
    let started := uartRxEnable answer system.running
    (.ofAnswer started.1,
      { system with
        data := (checked.2.apiRxEnableEnd started.1).2
        running := started.2 })
  | .releasing _ => (.ok, { system with data := checked.2 })
  | _ => (.busy, { system with data := checked.2 })

namespace PipeSystem

def rxEnable (attempt : EnableAttempt) (system : PipeSystem) : OpenResult × PipeSystem :=
  if system.reception.rxEnabled || system.recoveryDisabled then
    (.ok, system)
  else if !attempt.allocated then
    (.noMemory, system)
  else
    let called := apiRxEnableCall attempt.answer system.reception
    if called.1 = .ok then
      (.ok, { system with reception := { called.2 with rxEnabled := true } })
    else
      (called.1, { system with reception := called.2 })

/-- `rx_disable`, without the wait for the end of reception. -/
def rxDisable (system : PipeSystem) : PipeSystem :=
  let result := system.reception.data.apiRxDisable
  { system with
    recoveryDisabled := true
    reception := { system.reception with data := result.2 }.told result.1 }

def rxRecovery (attempt : EnableAttempt) (system : PipeSystem) : PipeSystem :=
  if system.recoveryDisabled then
    system
  else
    (system.rxEnable attempt).2

end PipeSystem

/-- What `pipe_open` sets before `rx_enable`. -/
def PipeSystem.opening (system : PipeSystem) : PipeSystem :=
  { system with opened := true, recoveryDisabled := false }

/-- `pipe_open`. -/
def pipeOpen (attempt : EnableAttempt) (system : PipeSystem) : OpenResult × PipeSystem :=
  if !system.initialised then
    (.invalid, system)
  else if system.opened then
    (.already, system)
  else
    let result := system.opening.rxEnable attempt
    if result.1 = .ok then
      (.ok, { result.2 with txEnabled := true })
    else
      result

def pipeClose (txDisabled : Bool) (system : PipeSystem) : PipeSystem :=
  if !system.opened then
    system
  else
    let closed := { system with opened := false, txEnabled := false }
    if system.txEnabled && !txDisabled then
      closed
    else
      closed.rxDisable

inductive PipeAction where
  | pipeOpen (attempt : EnableAttempt)
  | pipeClose (txDisabled : Bool)
  /-- `pipe_receive` finds the queue of events empty at its end. -/
  | rxRecovery (attempt : EnableAttempt)
  /-- A step of the worker of the DTR UART or of the physical UART. -/
  | driver (action : ReceptionAction)
  deriving DecidableEq

def pipeStep (action : PipeAction) (system : PipeSystem) : Option PipeSystem :=
  match action with
  | .pipeOpen attempt => some (pipeOpen attempt system).2
  | .pipeClose txDisabled => some (pipeClose txDisabled system)
  | .rxRecovery attempt => some (system.rxRecovery attempt)
  | .driver .rxEnable | .driver (.rxEnableEnd _) | .driver .setBit
  | .driver .rxDisable => none
  | .driver action =>
    (receptionStep action system.reception).map fun reception =>
      { system with reception := reception }

/-- The state after `sm_uart_handler_enable`, which may have failed before it
initialises the pipe. -/
def PipeSystem.init (initialised : Bool) : PipeSystem where
  initialised := initialised
  opened := false
  recoveryDisabled := false
  txEnabled := false
  reception := .init

abbrev PipeReachable (allowed : PipeSystem → PipeAction → Prop) : PipeSystem → Prop :=
  Reachable pipeStep allowed fun system =>
    ∃ initialised, system = .init initialised

namespace PipeSystem

/-- A block is free, and the physical UART takes it if DTR is asserted. -/
def Undisturbed (system : PipeSystem) (attempt : EnableAttempt) : Prop :=
  attempt.allocated = true ∧ (system.reception.data.dtrState = true →
      system.reception.running = false ∧ attempt.answer = .ok)

/-- The receiver is enabled already, or a block is free, `app_rx_enabled` is
clear, and the physical UART takes the block if DTR is asserted. -/
def Enables (system : PipeSystem) (attempt : EnableAttempt) : Prop :=
  system.reception.rxEnabled = true ∨
    system.reception.data.appRxEnabled = false ∧ system.Undisturbed attempt

/-- A `pipe_open` of the closed pipe that returns an error leaves the pipe closed
and the receiver of the driver as it was, and the next `pipe_open` succeeds if
nothing fails any more. -/
def FailsCleanly (system : PipeSystem) (attempt : EnableAttempt) : Prop :=
  system.initialised = true → system.opened = false → (pipeOpen attempt system).1 ≠ .ok →
    (pipeOpen attempt system).2.opened = false ∧
      (pipeOpen attempt system).2.reception.data = system.reception.data ∧
      ∀ retry, (pipeOpen attempt system).2.Undisturbed retry →
        (pipeOpen retry (pipeOpen attempt system).2).1 = .ok

instance {system : PipeSystem} {attempt : EnableAttempt} : Decidable (system.Undisturbed attempt) :=
  inferInstanceAs (Decidable (_ ∧ (_ → _)))

end PipeSystem

/-- The reception is enabled only when a block is free and the physical UART takes it. -/
def EnablesUndisturbed (system : PipeSystem) (action : PipeAction) : Prop :=
  match action with
  | .pipeOpen attempt | .rxRecovery attempt =>
    system.reception.rxEnabled = false → system.Undisturbed attempt
  | _ => True

instance {system : PipeSystem} {action : PipeAction} :
    Decidable (EnablesUndisturbed system action) :=
  match action with
  | .pipeOpen _ | .rxRecovery _ => inferInstanceAs (Decidable (_ → _))
  | .pipeClose _ | .driver _ => inferInstanceAs (Decidable True)

variable {system after : PipeSystem} {attempt : EnableAttempt}

theorem apiRxEnableCall_cases (answer : UartAnswer) (system : ReceptionSystem) :
    system.data.appRxEnabled = true ∧ apiRxEnableCall answer system = (.busy, system) ∨
      system.data.appRxEnabled = false ∧ system.data.dtrState = false ∧
        apiRxEnableCall answer system =
          (.ok, { system with
            data := { system.data with appRxEnabled := true } }) ∨
      system.data.appRxEnabled = false ∧ system.data.dtrState = true ∧
        apiRxEnableCall answer system = (.ofAnswer (uartRxEnable answer system.running).1,
            { system with
              data := { system.data with
                appRxEnabled := true, rxActive := true }
              running := (uartRxEnable answer system.running).2 }) := by
  rw [apiRxEnableCall, RxData.apiRxEnable]
  by_cases isEnabled : system.data.appRxEnabled = true
  · rw [if_pos isEnabled]
    exact .inl ⟨isEnabled, rfl⟩
  · rw [if_neg isEnabled]
    have notEnabled := Bool.eq_false_iff.mpr isEnabled
    by_cases isUp : system.data.dtrState = true
    · dsimp only
      rw [if_pos isUp]
      exact .inr (.inr ⟨notEnabled, isUp, rfl⟩)
    · dsimp only
      rw [if_neg isUp]
      exact .inr (.inl ⟨notEnabled, Bool.eq_false_iff.mpr isUp, rfl⟩)

variable {answer : UartAnswer}

theorem ofAnswer_eq_ok : OpenResult.ofAnswer answer = .ok ↔ answer = .ok := by
  cases answer with
  | ok | busy | error => decide

theorem uartRxEnable_eq_ok {running : Bool} :
    (uartRxEnable answer running).1 = .ok ↔ running = false ∧ answer = .ok := by
  rw [uartRxEnable]
  cases running with
  | true | false => simp

theorem apiRxEnableCall_ok {system : ReceptionSystem} :
    (apiRxEnableCall answer system).1 = .ok ↔ system.data.appRxEnabled = false ∧
        (system.data.dtrState = true → system.running = false ∧ answer = .ok) := by
  rcases apiRxEnableCall_cases answer system with
    ⟨isEnabled, called⟩ | ⟨notEnabled, isDown, called⟩ | ⟨notEnabled, isUp, called⟩
  · rw [called, isEnabled]
    simp
  · rw [called, notEnabled, isDown]
    simp
  · rw [called, notEnabled, isUp, ofAnswer_eq_ok, uartRxEnable_eq_ok]
    simp

namespace PipeSystem

theorem rxEnable_ok (recovers : system.recoveryDisabled = false) :
    (system.rxEnable attempt).1 = .ok ↔ system.Enables attempt := by
  rw [rxEnable, recovers, Bool.or_false, Enables, Undisturbed]
  by_cases isEnabled : system.reception.rxEnabled = true
  · rw [if_pos isEnabled]
    exact ⟨fun _ => .inl isEnabled, fun _ => rfl⟩
  · rw [if_neg isEnabled]
    cases isAllocated : attempt.allocated with
    | false =>
      constructor
      · nofun
      · rintro (wasEnabled | ⟨_, allocates, _⟩)
        · exact absurd wasEnabled isEnabled
        · cases allocates
    | true =>
      rw [Bool.not_true, if_neg Bool.false_ne_true]
      constructor
      · intro returns
        by_cases called : (apiRxEnableCall attempt.answer system.reception).1 = .ok
        · obtain ⟨notEnabled, takes⟩ := apiRxEnableCall_ok.mp called
          exact .inr ⟨notEnabled, rfl, takes⟩
        · dsimp only at returns
          rw [if_neg called] at returns
          exact absurd returns called
      · rintro (wasEnabled | ⟨notEnabled, _, takes⟩)
        · exact absurd wasEnabled isEnabled
        · dsimp only
          rw [if_pos (apiRxEnableCall_ok.mpr ⟨notEnabled, takes⟩)]

theorem rxEnable_frame : (system.rxEnable attempt).2 =
    { system with reception := (system.rxEnable attempt).2.reception } := by
  rw [rxEnable]
  split
  · rfl
  · split
    · rfl
    · dsimp only
      split
      · rfl
      · rfl

end PipeSystem

theorem pipeOpen_ok (initialised : system.initialised = true) (closed : system.opened = false) :
    (pipeOpen attempt system).1 = .ok ↔ system.Enables attempt := by
  have enables := @PipeSystem.rxEnable_ok system.opening attempt rfl
  have sameResult : (pipeOpen attempt system).1 = (system.opening.rxEnable attempt).1 := by
    rw [pipeOpen, if_neg (by simp [initialised]), if_neg (by simp [closed])]
    dsimp only
    split
    · rename_i isOk
      exact isOk.symm
    · rfl
  rw [sameResult]
  exact enables

theorem pipeOpen_reception (attempt : EnableAttempt) (system : PipeSystem) :
    (pipeOpen attempt system).2.reception = system.reception ∨
      (pipeOpen attempt system).2.reception = (system.opening.rxEnable attempt).2.reception := by
  rw [pipeOpen]
  split
  · exact .inl rfl
  · split
    · exact .inl rfl
    · dsimp only
      split
      · exact .inr rfl
      · exact .inr rfl

theorem pipeClose_reception (txDisabled : Bool) (system : PipeSystem) :
    (pipeClose txDisabled system).reception = system.reception ∨
      (pipeClose txDisabled system).reception =
        { system.reception with
          data := system.reception.data.apiRxDisable.2 }.told
            system.reception.data.apiRxDisable.1 := by
  rw [pipeClose]
  split
  · exact .inl rfl
  · dsimp only
    split
    · exact .inl rfl
    · exact .inr rfl

theorem pipeOpen_opened (initialised : system.initialised = true) :
    (pipeOpen attempt system).2.opened = true := by
  rw [pipeOpen, if_neg (by simp [initialised])]
  by_cases wasOpen : system.opened = true
  · rw [if_pos wasOpen]
    exact wasOpen
  · rw [if_neg wasOpen]
    have isOpen : (system.opening.rxEnable attempt).2.opened = true :=
      congrArg PipeSystem.opened PipeSystem.rxEnable_frame
    dsimp only
    split
    · exact isOpen
    · exact isOpen

theorem failsCleanly_iff : system.FailsCleanly attempt ↔
      (system.initialised = true → system.opened = false → system.Enables attempt) := by
  constructor
  · intro clean initialised closed
    by_contra disturbed
    have fails : (pipeOpen attempt system).1 ≠ .ok :=
      mt (pipeOpen_ok initialised closed).mp disturbed
    have isClosed := (clean initialised closed fails).1
    rw [pipeOpen_opened initialised] at isClosed
    cases isClosed
  · intro enables initialised closed fails
    exact absurd ((pipeOpen_ok initialised closed).mpr (enables initialised closed)) fails

/-- The driver believes in the reception only if the pipe has enabled it. -/
def Known (reception : ReceptionSystem) : Prop :=
  reception.data.appRxEnabled = true → reception.rxEnabled = true

namespace Known

theorem enables (known : Known system.reception) (undisturbed : system.reception.rxEnabled = false →
      system.Undisturbed attempt) : system.Enables attempt := by
  by_cases isEnabled : system.reception.rxEnabled = true
  · exact .inl isEnabled
  · have notBelieved := Bool.eq_false_iff.mpr (mt known isEnabled)
    exact .inr ⟨notBelieved, undisturbed (Bool.eq_false_iff.mpr isEnabled)⟩

theorem rxEnable (known : Known system.reception)
    (undisturbed : system.reception.rxEnabled = false → system.Undisturbed attempt) :
    Known (system.rxEnable attempt).2.reception := by
  rw [PipeSystem.rxEnable]
  by_cases skips : (system.reception.rxEnabled || system.recoveryDisabled) = true
  · rw [if_pos skips]
    exact known
  · rw [if_neg skips]
    have notEnabled : system.reception.rxEnabled = false := by
      rw [Bool.or_eq_true, not_or] at skips
      exact Bool.eq_false_iff.mpr skips.1
    obtain ⟨isAllocated, takes⟩ := undisturbed notEnabled
    have notBelieved : system.reception.data.appRxEnabled = false :=
      Bool.eq_false_iff.mpr (mt known (by simp [notEnabled]))
    rw [isAllocated, Bool.not_true, if_neg Bool.false_ne_true]
    dsimp only
    rw [if_pos (apiRxEnableCall_ok.mpr ⟨notBelieved, takes⟩)]
    exact fun _ => rfl

variable {reception : ReceptionSystem}

/-- `UART_RX_DISABLED` clears both. -/
theorem told {data : RxData} {isSent : Bool} (running : Bool) (known : Known reception)
    (cleared : isSent = true ∧ data.appRxEnabled = false ∨
      isSent = false ∧ data.appRxEnabled = reception.data.appRxEnabled) :
    Known ({ reception with data := data, running := running }.told isSent) := by
  intro believed
  rcases cleared with ⟨_, notBelieved⟩ | ⟨notSent, same⟩
  · exact absurd (notBelieved.symm.trans believed) nofun
  · rw [notSent, ReceptionSystem.told, Bool.not_false, Bool.and_true]
    exact known (same ▸ believed)

theorem rxDisable (known : Known reception) :
    Known ({ reception with
      data := reception.data.apiRxDisable.2 }.told reception.data.apiRxDisable.1) := by
  apply known.told reception.running
  rw [RxData.apiRxDisable]
  split
  · exact .inr ⟨rfl, rfl⟩
  · split
    · exact .inl ⟨rfl, rfl⟩
    · exact .inr ⟨rfl, rfl⟩

theorem rxDisabled (known : Known reception) :
    Known ({ reception with
      data := reception.data.rxDisabled.2
      running := false }.told reception.data.rxDisabled.1) := by
  apply known.told false
  rw [RxData.rxDisabled]
  split
  · exact .inl ⟨rfl, rfl⟩
  · exact .inr ⟨rfl, rfl⟩

end Known

theorem dtrWork_appRxEnabled {step : WorkerStep} {pc : WorkerPc} {data : RxData}
    {result : WorkerPc × RxData} (taken : dtrWork step pc data = some result) :
    result.2.appRxEnabled = data.appRxEnabled := by
  cases step with
  | start asserted =>
    obtain ⟨_, ⟨_, rfl⟩ | ⟨_, rfl⟩⟩ := dtrWork_start taken
    · rfl
    · rfl
  | activateRx =>
    obtain ⟨_, ⟨_, rfl⟩ | ⟨_, rfl⟩⟩ := dtrWork_activateRx taken
    · rfl
    · rfl
  | requested =>
    rw [(dtrWork_requested taken).2]
  | deactivateRx =>
    rw [(dtrWork_deactivateRx taken).2]
  | powerOff =>
    rw [(dtrWork_powerOff taken).2]

theorem apiRxBufRspEnd_appRxEnabled {data : RxData} :
    (data.apiRxBufRspEnd answer).2.appRxEnabled = data.appRxEnabled := by
  rw [RxData.apiRxBufRspEnd.eq_def]
  split
  · split
    · rfl
    · rfl
    · rfl
  · rfl

/-- What the worker and the physical UART do to the bit of the handler and to the
threads in `rx_enable`. -/
structure DriverEffect (reception next : ReceptionSystem) : Prop where
  known : Known reception → Known next
  sameEnabling : next.enabling = reception.enabling
  sameEnabled : next.enabled = reception.enabled

namespace DriverEffect

variable {reception : ReceptionSystem} {answer : UartAnswer}

theorem work {step : WorkerStep} {pc : WorkerPc} {data : RxData} {running : Bool}
    (taken : dtrWork step reception.worker reception.data = some (pc, data)) :
    DriverEffect reception { reception with
      worker := pc, data := data, running := running } where
  known := fun known believed =>
    known (dtrWork_appRxEnabled taken ▸ believed)
  sameEnabling := rfl
  sameEnabled := rfl

theorem rxBufRsp : DriverEffect reception (reception.rxBufRsp answer) := by
  rw [ReceptionSystem.rxBufRsp]
  split
  · rw [ReceptionSystem.bufRspEnd]
    split
    · exact ⟨id, rfl, rfl⟩
    · refine ⟨fun known believed => known ?_, rfl, rfl⟩
      exact apiRxBufRspEnd_appRxEnabled ▸ believed
  · exact ⟨id, rfl, rfl⟩

theorem trans {second third : ReceptionSystem} (former : DriverEffect reception second)
    (latter : DriverEffect second third) : DriverEffect reception third where
  known := fun known => latter.known (former.known known)
  sameEnabling := latter.sameEnabling.trans former.sameEnabling
  sameEnabled := latter.sameEnabled.trans former.sameEnabled

end DriverEffect

theorem driver_step {action : ReceptionAction}
    (taken : pipeStep (.driver action) system = some after) :
    ∃ next, receptionStep action system.reception = some next ∧
      after = { system with reception := next } ∧
      DriverEffect system.reception next := by
  cases action with
  | work step =>
    cases step with
    | start | activateRx | deactivateRx | powerOff =>
      obtain ⟨_, stepped, rfl⟩ := map_eq_some_iff.mp taken
      obtain ⟨_, works, rfl⟩ := map_eq_some_iff.mp stepped
      exact ⟨_, stepped, rfl, .work works⟩
    | requested => cases taken
  | decline =>
    obtain ⟨_, stepped, rfl⟩ := map_eq_some_iff.mp taken
    obtain ⟨_, works, rfl⟩ := map_eq_some_iff.mp stepped
    exact ⟨_, stepped, rfl, .work works⟩
  | respond answer =>
    obtain ⟨_, stepped, rfl⟩ := map_eq_some_iff.mp taken
    obtain ⟨_, works, rfl⟩ := map_eq_some_iff.mp stepped
    exact ⟨_, stepped, rfl, DriverEffect.rxBufRsp.trans (.work works)⟩
  | bufRequest answer =>
    obtain ⟨_, stepped, rfl⟩ := map_eq_some_iff.mp taken
    refine ⟨_, stepped, rfl, ?_⟩
    rw [receptionStep] at stepped
    split at stepped
    · cases stepped
      exact .rxBufRsp
    · cases stepped
  | rxDisabled =>
    obtain ⟨_, stepped, rfl⟩ := map_eq_some_iff.mp taken
    refine ⟨_, stepped, rfl, ?_⟩
    rw [receptionStep] at stepped
    split at stepped
    · cases stepped
      exact ⟨Known.rxDisabled, rfl, rfl⟩
    · cases stepped
  | rxEnable | rxEnableEnd | setBit | rxDisable => cases taken

theorem known_step {action : PipeAction} (known : Known system.reception)
    (undisturbed : EnablesUndisturbed system action)
    (taken : pipeStep action system = some after) : Known after.reception := by
  cases action with
  | pipeOpen attempt =>
    cases taken
    rcases pipeOpen_reception attempt system with same | opens
    · rw [same]
      exact known
    · rw [opens]
      exact @Known.rxEnable system.opening attempt known undisturbed
  | pipeClose txDisabled =>
    cases taken
    rcases pipeClose_reception txDisabled system with same | closes
    · rw [same]
      exact known
    · rw [closes]
      exact known.rxDisable
  | rxRecovery attempt =>
    cases taken
    rw [PipeSystem.rxRecovery]
    split
    · exact known
    · exact known.rxEnable undisturbed
  | driver action =>
    obtain ⟨_, _, rfl, effect⟩ := driver_step taken
    exact effect.known known

theorem known_of_reachable (reachable : PipeReachable EnablesUndisturbed system) :
    Known system.reception := by
  apply reachable.invariant
  · rintro _ ⟨initialised, rfl⟩
    nofun
  · exact fun _ _ _ known undisturbed taken =>
      known_step known undisturbed taken

/-- A run of the receiver that has come to a point at which no thread is in
`rx_enable`. -/
structure ReceptionRun (reception : ReceptionSystem) : Prop where
  reachable : ReceptionReachable (fun _ _ => True) reception
  noneEnabling : reception.enabling = 0
  noneEnabled : reception.enabled = 0

namespace ReceptionRun

variable {reception next : ReceptionSystem} {answer : UartAnswer}

theorem rxEnable (run : ReceptionRun reception) (notEnabled : reception.rxEnabled = false) :
    ReceptionRun (if (apiRxEnableCall answer reception).1 = .ok then
      { (apiRxEnableCall answer reception).2 with rxEnabled := true }
    else
      (apiRxEnableCall answer reception).2) := by
  have steps : ∀ {actions : List ReceptionAction} {last : ReceptionSystem},
      runActions receptionStep actions reception = some last →
      ReceptionReachable (fun _ _ => True) last :=
    reachable_of_runActions _ (fun _ _ _ => trivial) run.reachable
  obtain ⟨reachable, noneEnabling, noneEnabled⟩ := run
  obtain ⟨⟨isUp, believed, active⟩, worker, running, rxEnabled, enabling, enabled⟩ := reception
  cases notEnabled
  cases noneEnabling
  cases noneEnabled
  cases believed with
  | true => exact ⟨reachable, rfl, rfl⟩
  | false =>
    cases isUp with
    | false => exact ⟨@steps [.rxEnable, .setBit] _ rfl, rfl, rfl⟩
    | true =>
      cases running with
      | true => exact ⟨@steps [.rxEnable, .rxEnableEnd answer] _ rfl, rfl, rfl⟩
      | false =>
        cases answer with
        | ok =>
          exact ⟨@steps [.rxEnable, .rxEnableEnd .ok, .setBit] _ rfl,
            rfl, rfl⟩
        | busy =>
          exact ⟨@steps [.rxEnable, .rxEnableEnd .busy] _ rfl, rfl, rfl⟩
        | error =>
          exact ⟨@steps [.rxEnable, .rxEnableEnd .error] _ rfl, rfl, rfl⟩

theorem rxDisable (run : ReceptionRun reception) :
    ReceptionRun ({ reception with
      data := reception.data.apiRxDisable.2 }.told reception.data.apiRxDisable.1) :=
  ⟨run.reachable.next .rxDisable trivial rfl, run.noneEnabling, run.noneEnabled⟩

end ReceptionRun

theorem PipeSystem.rxEnable_run (run : ReceptionRun system.reception) :
    ReceptionRun (system.rxEnable attempt).2.reception := by
  rw [PipeSystem.rxEnable]
  by_cases skips : (system.reception.rxEnabled || system.recoveryDisabled) = true
  · rw [if_pos skips]
    exact run
  · rw [if_neg skips]
    rw [Bool.or_eq_true, not_or] at skips
    have enabled := @run.rxEnable _ attempt.answer (Bool.eq_false_iff.mpr skips.1)
    split
    · exact run
    · dsimp only
      split
      · rename_i isOk
        rw [if_pos isOk] at enabled
        exact enabled
      · rename_i notOk
        rw [if_neg notOk] at enabled
        exact enabled

theorem receptionRun_step {action : PipeAction} (run : ReceptionRun system.reception)
    (taken : pipeStep action system = some after) :
    ReceptionRun after.reception := by
  cases action with
  | pipeOpen attempt =>
    cases taken
    rcases pipeOpen_reception attempt system with same | opens
    · rw [same]
      exact run
    · rw [opens]
      exact @PipeSystem.rxEnable_run system.opening attempt run
  | pipeClose txDisabled =>
    cases taken
    rcases pipeClose_reception txDisabled system with same | closes
    · rw [same]
      exact run
    · rw [closes]
      exact run.rxDisable
  | rxRecovery attempt =>
    cases taken
    rw [PipeSystem.rxRecovery]
    split
    · exact run
    · exact PipeSystem.rxEnable_run run
  | driver action =>
    obtain ⟨_, stepped, rfl, effect⟩ := driver_step taken
    exact ⟨run.reachable.next action trivial stepped, effect.sameEnabling.trans run.noneEnabling,
      effect.sameEnabled.trans run.noneEnabled⟩

/-- Every run of the handler and the driver is a run of the receiver in which
nothing comes between the steps of `rx_enable`. -/
theorem receptionRun_of_reachable {allowed : PipeSystem → PipeAction → Prop}
    (reachable : PipeReachable allowed system) :
    ReceptionRun system.reception := by
  apply reachable.invariant
  · rintro _ ⟨initialised, rfl⟩
    exact ⟨.start rfl, rfl, rfl⟩
  · exact fun _ _ _ run _ taken => receptionRun_step run taken

/-- An open of the closed pipe that fails leaves the pipe closed and the driver as
it was only if it does not fail, in any state: that is when the receiver is
enabled already, or a block is free, `app_rx_enabled` is clear, and with DTR
asserted the physical UART takes the block.  In every run in which nothing fails
when the receiver has to be enabled, an open of the closed pipe succeeds as long
as nothing fails. -/
theorem failed_open_clean (system : PipeSystem) (attempt : EnableAttempt) :
    (system.FailsCleanly attempt ↔
      (system.initialised = true → system.opened = false → system.Enables attempt)) ∧
    (PipeReachable EnablesUndisturbed system → system.initialised = true → system.opened = false →
      system.Undisturbed attempt → (pipeOpen attempt system).1 = .ok ∧
          (pipeOpen attempt system).2.opened = true) := by
  refine ⟨failsCleanly_iff, ?_⟩
  intro reachable initialised closed undisturbed
  have enables := (known_of_reachable reachable).enables fun _ => undisturbed
  exact ⟨(pipeOpen_ok initialised closed).mpr enables, pipeOpen_opened initialised⟩

/-- A block is free, and the physical UART takes it. -/
def goodAttempt : EnableAttempt := ⟨true, .ok⟩

def openedAndClosed : List PipeAction :=
  [.pipeOpen goodAttempt, .pipeClose true, .driver .rxDisabled]

/-- The pipe is opened and closed before. -/
theorem reopened_after_close : ∃ system, runChecked pipeStep
        (fun system action => decide (EnablesUndisturbed system action))
        openedAndClosed (.init true) = some system ∧
      (pipeOpen goodAttempt system).1 = .ok := by
  have evaluated : runChecked pipeStep
      (fun system action => decide (EnablesUndisturbed system action))
      openedAndClosed (.init true) =
        some { PipeSystem.init true with recoveryDisabled := true } := by
    decide
  have reachable : PipeReachable EnablesUndisturbed
      { PipeSystem.init true with recoveryDisabled := true } :=
    reachable_of_runChecked _ (fun _ _ _ passed => of_decide_eq_true passed)
      (.start ⟨true, rfl⟩) evaluated
  exact ⟨_, evaluated, ((failed_open_clean _ goodAttempt).2 reachable rfl rfl
    ⟨rfl, fun _ => ⟨rfl, rfl⟩⟩).1⟩

/-- The handler opens and closes the pipe. -/
theorem receptionRun_of_reopening : ∃ system,
    runActions pipeStep openedAndClosed (.init true) = some system ∧
      ReceptionRun system.reception := by
  have evaluated : (runActions pipeStep openedAndClosed (.init true)).isSome := by decide
  obtain ⟨system, ran⟩ := isSome_iff_exists.mp evaluated
  have reachable : PipeReachable (fun _ _ => True) system :=
    reachable_of_run _ ⟨true, rfl⟩ ran
  exact ⟨system, ran, receptionRun_of_reachable reachable⟩

/-- DTR is asserted, and the physical UART refuses the block of the first open.
The next open returns at once.  After a close, which has nothing to stop, the
driver still takes the receiver for enabled. -/
theorem failed_open_stays_open : ∃ system after, PipeReachable (fun _ _ => True) system ∧
      pipeOpen ⟨true, .error⟩ system = (.uartError, after) ∧
      ¬system.FailsCleanly ⟨true, .error⟩ ∧
      after.opened = true ∧ after.reception.data.appRxEnabled = true ∧
      (pipeOpen goodAttempt after).1 = .already ∧
      (pipeOpen goodAttempt (pipeClose true after)).1 = .busy := by
  refine ⟨.init true, _, .start ⟨true, rfl⟩, rfl, ?_, rfl, rfl, rfl, rfl⟩
  intro clean
  have isClosed := (clean rfl rfl nofun).1
  cases isClosed

end SerialModem.Uart
