import SerialModem.DtrUart.Driver
import SerialModem.Library.TransitionSystem

/-!
# The DTR UART and its user

`sm_uart_handler` is the user of the driver.  Whether the receiver is enabled is
in its `SM_UART_STATE_RX_ENABLED_BIT`, in `app_rx_enabled` and in the physical
UART.  The handler learns from `UART_RX_DISABLED` that it has to enable the
receiver again.
-/

namespace SerialModem.DtrUart

open Library Option

structure ReceptionSystem where
  data : RxData
  worker : WorkerPc
  running : Bool
  /-- `SM_UART_STATE_RX_ENABLED_BIT`. -/
  rxEnabled : Bool
  /-- The threads in `rx_enable` that are in `api_rx_enable`, after its checks. -/
  enabling : Nat
  /-- The threads in `rx_enable` for which `uart_rx_enable` has returned 0. -/
  enabled : Nat
  deriving DecidableEq

inductive ReceptionAction where
  /-- The worker of the driver takes a step that is not in `user_callback`. -/
  | work (step : WorkerStep)
  /-- The handler has no room for events or no free buffer when the worker
  requests a buffer. -/
  | decline
  /-- The handler calls `uart_rx_buf_rsp` when the worker requests a buffer. -/
  | respond (answer : UartAnswer)
  /-- The physical UART requests a buffer, and the handler calls
  `uart_rx_buf_rsp`. -/
  | bufRequest (answer : UartAnswer)
  | rxDisabled
  /-- `rx_enable` of the handler up to the checks in `api_rx_enable`. -/
  | rxEnable
  /-- The end of `api_rx_enable`. -/
  | rxEnableEnd (answer : UartAnswer)
  /-- `rx_enable` sets the bit. -/
  | setBit
  /-- `rx_disable` of the handler calls `uart_rx_disable`. -/
  | rxDisable
  deriving DecidableEq

/-- `uart_rx_enable` of the physical UART, with what it answers when it is not
receiving. -/
def uartRxEnable (answer : UartAnswer) (running : Bool) : UartAnswer × Bool :=
  if running then (.busy, true) else (answer, answer == .ok)

namespace ReceptionSystem

/-- `api_rx_buf_rsp` past its first checks. -/
def bufRspEnd (answer : UartAnswer) (system : ReceptionSystem) :
    ReceptionSystem :=
  if system.data.rxActive then
    system
  else
    let started := uartRxEnable answer system.running
    { system with
      data := (system.data.apiRxBufRspEnd started.1).2
      running := started.2 }

def rxBufRsp (answer : UartAnswer) (system : ReceptionSystem) :
    ReceptionSystem :=
  if system.data.apiRxBufRsp = .responding then
    system.bufRspEnd answer
  else
    system

/-- `UART_RX_DISABLED` in the callback of the handler, when it is sent. -/
def told (isSent : Bool) (system : ReceptionSystem) : ReceptionSystem :=
  { system with rxEnabled := system.rxEnabled && !isSent }

def rxEnable (system : ReceptionSystem) : ReceptionSystem :=
  let result := system.data.apiRxEnable
  match result.1 with
  | .enabling =>
    { system with data := result.2, enabling := system.enabling + 1 }
  | .releasing false =>
    { system with data := result.2, enabled := system.enabled + 1 }
  | _ => { system with data := result.2 }

def rxEnableEnd (answer : UartAnswer) (system : ReceptionSystem) :
    ReceptionSystem :=
  let started := uartRxEnable answer system.running
  { system with
    data := (system.data.apiRxEnableEnd started.1).2
    running := started.2
    enabling := system.enabling - 1
    enabled := system.enabled + if started.1 = .ok then 1 else 0 }

end ReceptionSystem

def receptionStep (action : ReceptionAction) (system : ReceptionSystem) : Option ReceptionSystem :=
  match action with
  | .work .requested => none
  | .work .powerOff =>
    (dtrWork .powerOff system.worker system.data).map fun result =>
      { system with worker := result.1, data := result.2, running := false }
  | .work step =>
    (dtrWork step system.worker system.data).map fun result =>
      { system with worker := result.1, data := result.2 }
  | .decline =>
    (dtrWork .requested system.worker system.data).map fun result =>
      { system with worker := result.1, data := result.2 }
  | .respond answer =>
    let responded := system.rxBufRsp answer
    (dtrWork .requested responded.worker responded.data).map fun result =>
      { responded with worker := result.1, data := result.2 }
  | .bufRequest answer =>
    if system.running then some (system.rxBufRsp answer) else none
  | .rxDisabled =>
    if system.running then
      let result := system.data.rxDisabled
      some ({ system with data := result.2, running := false }.told result.1)
    else
      none
  | .rxEnable => if system.rxEnabled then none else some system.rxEnable
  | .rxEnableEnd answer =>
    if 0 < system.enabling then some (system.rxEnableEnd answer) else none
  | .setBit =>
    if 0 < system.enabled then
      some { system with rxEnabled := true, enabled := system.enabled - 1 }
    else
      none
  | .rxDisable =>
    let result := system.data.apiRxDisable
    some ({ system with data := result.2 }.told result.1)

/-- The state after `sm_uart_handler_enable`. -/
def ReceptionSystem.init : ReceptionSystem where
  data := .init
  worker := .idle
  running := false
  rxEnabled := false
  enabling := 0
  enabled := 0

/-- The receiver is started when it has to be.  The handler answers the request
of the worker, and the physical UART takes the buffer, unless it is receiving or
another thread is about to start it.  It takes the buffer of `rx_enable` as well.
While a thread is in `rx_enable`, `UART_RX_DISABLED` is not sent to the handler,
and DTR is not deasserted between the check of `dtr_state` and
`uart_rx_enable`. -/
def Starts (system : ReceptionSystem) (action : ReceptionAction) : Prop :=
  match action with
  | .work (.start false) => system.enabling = 0
  | .decline => system.data.appRxEnabled = true → system.running = true ∨ 0 < system.enabling
  | .respond answer => system.data.appRxEnabled = true →
      system.data.rxActive = true ∨ system.running = true ∨ answer = .ok
  | .rxEnableEnd answer => system.running = true ∨ answer = .ok
  | .rxDisabled => system.data.rxDisabled.1 = true → system.enabling = 0 ∧ system.enabled = 0
  | .rxDisable => system.data.apiRxDisable.1 = true → system.enabling = 0 ∧ system.enabled = 0
  | _ => True

instance {system : ReceptionSystem} {action : ReceptionAction} : Decidable (Starts system action) :=
  match action with
  | .work (.start false) => inferInstanceAs (Decidable (_ = _))
  | .decline => inferInstanceAs (Decidable (_ → _ ∨ _))
  | .respond _ => inferInstanceAs (Decidable (_ → _ ∨ _ ∨ _))
  | .rxEnableEnd _ => inferInstanceAs (Decidable (_ ∨ _))
  | .rxDisabled => inferInstanceAs (Decidable (_ → _ ∧ _))
  | .rxDisable => inferInstanceAs (Decidable (_ → _ ∧ _))
  | .work (.start true) | .work .activateRx | .work .requested
  | .work .deactivateRx | .work .powerOff | .bufRequest _ | .rxEnable
  | .setBit => inferInstanceAs (Decidable True)

abbrev ReceptionReachable (allowed : ReceptionSystem → ReceptionAction → Prop) :
    ReceptionSystem → Prop :=
  Reachable receptionStep allowed (fun system => system = .init)

def WorkerPc.Activating : WorkerPc → Prop
  | .asserted | .requesting => True
  | _ => False

def WorkerPc.Deactivating : WorkerPc → Prop
  | .deasserted | .waiting => True
  | _ => False

structure ReceptionSystem.Agreed (system : ReceptionSystem) : Prop where
  believed : system.rxEnabled = true ∨ 0 < system.enabling ∨
    0 < system.enabled → system.data.appRxEnabled = true
  runs : system.data.dtrState = true → system.data.appRxEnabled = true → system.enabling = 0 →
    system.worker.Activating ∧ system.data.rxActive = false ∨ system.running = true
  stopped : system.data.dtrState = false → system.enabling = 0 ∧
    (system.worker ≠ .deasserted → system.data.rxActive = false)
  up : system.worker.Activating → system.data.dtrState = true
  down : system.worker.Deactivating → system.data.dtrState = false

variable {system after : ReceptionSystem}

theorem agreed_init : ReceptionSystem.init.Agreed where
  believed := by
    rintro (isSet | isPending | isPending)
    · cases isSet
    · cases isPending
    · cases isPending
  runs := nofun
  stopped := nofun
  up := nofun
  down := nofun

namespace ReceptionSystem.Agreed

theorem start {asserted : Bool} {pc : WorkerPc} {data : RxData}
    (agreed : system.Agreed) (starts : Starts system (.work (.start asserted)))
    (taken : dtrWork (.start asserted) system.worker system.data = some (pc, data)) :
    ReceptionSystem.Agreed { system with worker := pc, data := data } := by
  obtain ⟨isIdle, ⟨_, same⟩ | ⟨isOther, changed⟩⟩ := dtrWork_start taken
  · cases same
    rw [← isIdle]
    exact agreed
  · cases changed
    have stopped := agreed.stopped
    rw [isIdle] at stopped
    cases asserted with
    | true =>
      have wasDeasserted := Bool.eq_false_iff.mpr isOther
      obtain ⟨_, isInactive⟩ := stopped wasDeasserted
      exact {
        believed := agreed.believed
        runs := fun _ _ _ => .inl ⟨trivial, isInactive nofun⟩
        stopped := nofun
        up := fun _ => rfl
        down := nofun }
    | false =>
      exact {
        believed := agreed.believed
        runs := nofun
        stopped := fun _ => ⟨starts, fun notDeasserted =>
          absurd rfl notDeasserted⟩
        up := nofun
        down := fun _ => rfl }

theorem finish (agreed : system.Agreed) (notDeasserted : system.worker ≠ .deasserted)
    (runs : system.data.dtrState = true → system.data.appRxEnabled = true →
      system.enabling = 0 → system.running = true) :
    ReceptionSystem.Agreed { system with worker := .idle } where
  believed := agreed.believed
  runs := fun isUp isEnabled none => .inr (runs isUp isEnabled none)
  stopped := by
    intro isDown
    obtain ⟨none, isInactive⟩ := agreed.stopped isDown
    exact ⟨none, fun _ => isInactive notDeasserted⟩
  up := nofun
  down := nofun

variable {pc : WorkerPc} {data : RxData}

theorem activateRx (agreed : system.Agreed)
    (taken : dtrWork .activateRx system.worker system.data = some (pc, data)) :
    ReceptionSystem.Agreed { system with worker := pc, data := data } := by
  obtain ⟨isAsserted, ⟨isDone, same⟩ | ⟨⟨isInactive, _⟩, requests⟩⟩ :=
    dtrWork_activateRx taken
  · cases same
    apply agreed.finish
    · rw [isAsserted]
      nofun
    · intro isUp isEnabled none
      rcases agreed.runs isUp isEnabled none with ⟨_, isInactive⟩ | runs
      · rcases isDone with isActive | isDisabled
        · rw [isInactive] at isActive
          cases isActive
        · rw [isEnabled] at isDisabled
          cases isDisabled
      · exact runs
  · cases requests
    have isUp := agreed.up (by
      rw [isAsserted]
      trivial)
    exact {
      believed := agreed.believed
      runs := fun _ _ _ => .inl ⟨trivial, isInactive⟩
      stopped := fun isDown => absurd (isUp.symm.trans isDown) nofun
      up := fun _ => isUp
      down := nofun }

theorem deactivateRx (agreed : system.Agreed)
    (taken : dtrWork .deactivateRx system.worker system.data = some (pc, data)) :
    ReceptionSystem.Agreed { system with worker := pc, data := data } := by
  obtain ⟨isDeasserted, deactivates⟩ := dtrWork_deactivateRx taken
  cases deactivates
  have isDown := agreed.down (by
    rw [isDeasserted]
    trivial)
  exact {
    believed := agreed.believed
    runs := fun isUp => absurd (isDown.symm.trans isUp) nofun
    stopped := fun _ => ⟨(agreed.stopped isDown).1, fun _ => rfl⟩
    up := nofun
    down := fun _ => isDown }

theorem powerOff (agreed : system.Agreed)
    (taken : dtrWork .powerOff system.worker system.data = some (pc, data)) :
    ReceptionSystem.Agreed { system with worker := pc, data := data, running := false } := by
  obtain ⟨isWaiting, same⟩ := dtrWork_powerOff taken
  cases same
  have isDown := agreed.down (by
    rw [isWaiting]
    trivial)
  obtain ⟨none, isInactive⟩ := agreed.stopped isDown
  rw [isWaiting] at isInactive
  exact {
    believed := agreed.believed
    runs := fun isUp => absurd (isDown.symm.trans isUp) nofun
    stopped := fun _ => ⟨none, fun _ => isInactive nofun⟩
    up := nofun
    down := nofun }

end ReceptionSystem.Agreed

namespace ReceptionSystem

/-- The physical UART has been enabled, or was receiving all the time. -/
def started (system : ReceptionSystem) : ReceptionSystem :=
  { system with
    data := { system.data with rxActive := true }
    running := true }

theorem rxBufRsp_eq {answer : UartAnswer} (starts : system.data.appRxEnabled = true →
      system.data.rxActive = true ∨ system.running = true ∨ answer = .ok) :
    (system.rxBufRsp answer = system ∧
        (system.data.dtrState = false ∨ system.data.appRxEnabled = false ∨
          system.data.rxActive = true)) ∨
      system.data.dtrState = true ∧ system.rxBufRsp answer = system.started := by
  rw [rxBufRsp]
  split
  · rename_i responds
    cases isUp : system.data.dtrState with
    | false => simp [RxData.apiRxBufRsp, isUp] at responds
    | true =>
      cases isEnabled : system.data.appRxEnabled with
      | false => simp [RxData.apiRxBufRsp, isUp, isEnabled] at responds
      | true =>
        rw [bufRspEnd]
        split
        · rename_i isActive
          exact .inl ⟨rfl, .inr (.inr isActive)⟩
        · rename_i notActive
          refine .inr ⟨rfl, ?_⟩
          have starting := (starts isEnabled).resolve_left notActive
          have isInactive := Bool.eq_false_iff.mpr notActive
          rw [started]
          rcases starting with isRunning | rfl
          · simp [uartRxEnable, RxData.apiRxBufRspEnd, isRunning, isInactive]
          · cases isRunning : system.running <;>
              simp [uartRxEnable, RxData.apiRxBufRspEnd, isInactive]
  · rename_i releases
    refine .inl ⟨rfl, ?_⟩
    cases isUp : system.data.dtrState with
    | false => exact .inl rfl
    | true =>
      cases isEnabled : system.data.appRxEnabled with
      | false => exact .inr (.inl rfl)
      | true => simp [RxData.apiRxBufRsp, isUp, isEnabled] at releases

namespace Agreed

theorem started (agreed : system.Agreed)
    (isUp : system.data.dtrState = true) : system.started.Agreed where
  believed := agreed.believed
  runs := fun _ _ _ => .inr rfl
  stopped := fun isDown => absurd (isUp.symm.trans isDown) nofun
  up := agreed.up
  down := agreed.down

variable {answer : UartAnswer}

theorem bufRequest (agreed : system.Agreed) (isRunning : system.running = true) :
    (system.rxBufRsp answer).Agreed := by
  rcases rxBufRsp_eq fun _ => .inr (.inl isRunning) with
    ⟨same, _⟩ | ⟨isUp, isStarted⟩
  · rw [same]
    exact agreed
  · rw [isStarted]
    exact agreed.started isUp

/-- A request that is answered leaves the receiver running. -/
theorem respond {pc : WorkerPc} {data : RxData} (agreed : system.Agreed)
    (starts : Starts system (.respond answer))
    (taken : dtrWork .requested (system.rxBufRsp answer).worker
      (system.rxBufRsp answer).data = some (pc, data)) :
    ReceptionSystem.Agreed { system.rxBufRsp answer with worker := pc, data := data } := by
  obtain ⟨isRequesting, same⟩ := dtrWork_requested taken
  cases same
  rcases rxBufRsp_eq starts with ⟨same, isDone⟩ | ⟨isUp, isStarted⟩
  · rw [same] at isRequesting ⊢
    apply agreed.finish
    · rw [isRequesting]
      nofun
    · intro isUp isEnabled none
      rcases agreed.runs isUp isEnabled none with ⟨_, isInactive⟩ | runs
      · rcases isDone with isDown | isDisabled | isActive
        · exact absurd (isDown.symm.trans isUp) nofun
        · exact absurd (isDisabled.symm.trans isEnabled) nofun
        · exact absurd (isInactive.symm.trans isActive) nofun
      · exact runs
  · rw [isStarted] at isRequesting ⊢
    apply (agreed.started isUp).finish
    · rw [isRequesting]
      nofun
    · intros
      rfl

theorem decline {pc : WorkerPc} {data : RxData} (agreed : system.Agreed)
    (starts : Starts system .decline)
    (taken : dtrWork .requested system.worker system.data = some (pc, data)) :
    ReceptionSystem.Agreed { system with worker := pc, data := data } := by
  obtain ⟨isRequesting, same⟩ := dtrWork_requested taken
  cases same
  apply agreed.finish
  · rw [isRequesting]
    nofun
  · intro _ isEnabled none
    rcases starts isEnabled with isRunning | isPending
    · exact isRunning
    · rw [none] at isPending
      cases isPending

theorem told (agreed : system.Agreed) (running : Bool)
    (starts : system.enabling = 0 ∧ system.enabled = 0) :
    ReceptionSystem.Agreed ({ system with
      data := { system.data with appRxEnabled := false }
      running := running }.told true) where
  believed := by
    rw [ReceptionSystem.told, starts.1, starts.2]
    rintro (isSet | isPending | isPending)
    · rw [Bool.not_true, Bool.and_false] at isSet
      cases isSet
    · cases isPending
    · cases isPending
  runs := nofun
  stopped := agreed.stopped
  up := agreed.up
  down := agreed.down

theorem not_told (agreed : system.Agreed) : (system.told false).Agreed where
  believed := by
    rw [ReceptionSystem.told, Bool.not_false, Bool.and_true]
    exact agreed.believed
  runs := agreed.runs
  stopped := agreed.stopped
  up := agreed.up
  down := agreed.down

theorem rxDisabled (agreed : system.Agreed) (starts : Starts system .rxDisabled) :
    ReceptionSystem.Agreed ({ system with
      data := system.data.rxDisabled.2
      running := false }.told system.data.rxDisabled.1) := by
  rw [Starts, RxData.rxDisabled] at starts
  rw [RxData.rxDisabled]
  split
  · rename_i isSent
    rw [if_pos isSent] at starts
    exact agreed.told false (starts rfl)
  · rename_i notSent
    apply not_told
    exact {
      believed := agreed.believed
      runs := by
        intro isUp isEnabled
        dsimp only at isUp isEnabled
        rw [isUp, isEnabled] at notSent
        exact absurd rfl notSent
      stopped := agreed.stopped
      up := agreed.up
      down := agreed.down }

theorem rxDisable (agreed : system.Agreed) (starts : Starts system .rxDisable) :
    ReceptionSystem.Agreed ({ system with
      data := system.data.apiRxDisable.2 }.told system.data.apiRxDisable.1) := by
  rw [Starts, RxData.apiRxDisable] at starts
  rw [RxData.apiRxDisable]
  split
  · exact agreed.not_told
  · rename_i isEnabled
    rw [if_neg isEnabled] at starts
    split
    · rename_i isStopped
      rw [if_pos isStopped] at starts
      exact agreed.told system.running (starts rfl)
    · rename_i notStopped
      apply not_told
      have isActive : system.data.rxActive = true ∧
          system.data.dtrState = true := by simpa using notStopped
      exact {
        believed := agreed.believed
        runs := by
          intro isUp isEnabled none
          rcases agreed.runs isUp isEnabled none with ⟨_, isInactive⟩ | runs
          · rw [isActive.1] at isInactive
            cases isInactive
          · exact .inr runs
        stopped := fun isDown =>
          absurd (isActive.2.symm.trans isDown) nofun
        up := agreed.up
        down := agreed.down }

theorem rxEnable (agreed : system.Agreed) : system.rxEnable.Agreed := by
  rw [ReceptionSystem.rxEnable]
  rcases system.data.apiRxEnable_cases with
    refuses | ⟨isUp, enables⟩ | ⟨isDown, releases⟩
  · rw [refuses]
    exact agreed
  · rw [enables]
    exact {
      believed := fun _ => rfl
      runs := nofun
      stopped := fun isDown => absurd (isUp.symm.trans isDown) nofun
      up := agreed.up
      down := agreed.down }
  · rw [releases]
    exact {
      believed := fun _ => rfl
      runs := fun isUp => absurd (isDown.symm.trans isUp) nofun
      stopped := agreed.stopped
      up := agreed.up
      down := agreed.down }

theorem rxEnableEnd (agreed : system.Agreed) (starts : Starts system (.rxEnableEnd answer))
    (isPending : 0 < system.enabling) : (system.rxEnableEnd answer).Agreed := by
  have isEnabled := agreed.believed (.inr (.inl isPending))
  have isUp : system.data.dtrState = true := by
    cases isDown : system.data.dtrState with
    | true => rfl
    | false =>
      rw [(agreed.stopped isDown).1] at isPending
      cases isPending
  have isRunning : (uartRxEnable answer system.running).2 = true := by
    rw [uartRxEnable]
    rcases starts with isRunning | rfl
    · rw [if_pos isRunning]
    · split
      · rfl
      · rfl
  exact {
    believed := fun _ => isEnabled
    runs := fun _ _ _ => .inr isRunning
    stopped := fun isDown => absurd (isUp.symm.trans isDown) nofun
    up := agreed.up
    down := agreed.down }

theorem setBit (agreed : system.Agreed) (isPending : 0 < system.enabled) :
    ReceptionSystem.Agreed { system with
      rxEnabled := true
      enabled := system.enabled - 1 } where
  believed := fun _ => agreed.believed (.inr (.inr isPending))
  runs := agreed.runs
  stopped := agreed.stopped
  up := agreed.up
  down := agreed.down

end Agreed

end ReceptionSystem

theorem agreed_step {action : ReceptionAction} (agreed : system.Agreed)
    (starts : Starts system action)
    (taken : receptionStep action system = some after) : after.Agreed := by
  cases action with
  | work step =>
    cases step with
    | start asserted =>
      obtain ⟨_, works, rfl⟩ := map_eq_some_iff.mp taken
      exact agreed.start starts works
    | activateRx =>
      obtain ⟨_, works, rfl⟩ := map_eq_some_iff.mp taken
      exact agreed.activateRx works
    | requested => cases taken
    | deactivateRx =>
      obtain ⟨_, works, rfl⟩ := map_eq_some_iff.mp taken
      exact agreed.deactivateRx works
    | powerOff =>
      obtain ⟨_, works, rfl⟩ := map_eq_some_iff.mp taken
      exact agreed.powerOff works
  | decline =>
    obtain ⟨_, works, rfl⟩ := map_eq_some_iff.mp taken
    exact agreed.decline starts works
  | respond answer =>
    obtain ⟨_, works, rfl⟩ := map_eq_some_iff.mp taken
    exact agreed.respond starts works
  | bufRequest answer =>
    rw [receptionStep] at taken
    split at taken
    · rename_i isRunning
      cases taken
      exact agreed.bufRequest isRunning
    · cases taken
  | rxDisabled =>
    rw [receptionStep] at taken
    split at taken
    · cases taken
      exact agreed.rxDisabled starts
    · cases taken
  | rxEnable =>
    rw [receptionStep] at taken
    split at taken
    · cases taken
    · cases taken
      exact agreed.rxEnable
  | rxEnableEnd answer =>
    rw [receptionStep] at taken
    split at taken
    · rename_i isPending
      cases taken
      exact agreed.rxEnableEnd starts isPending
    · cases taken
  | setBit =>
    rw [receptionStep] at taken
    split at taken
    · rename_i isPending
      cases taken
      exact agreed.setBit isPending
    · cases taken
  | rxDisable =>
    cases taken
    exact agreed.rxDisable starts

/-- Pipe, driver and physical UART agree in every run. -/
theorem agreed_of_reachable (reachable : ReceptionReachable Starts system) : system.Agreed := by
  induction reachable with
  | start isInitial =>
    rw [isInitial]
    exact agreed_init
  | next action _ starts taken ih => exact agreed_step ih starts taken

/-- Nothing is under way in the driver. -/
structure ReceptionSystem.Settled (system : ReceptionSystem) : Prop where
  worker : system.worker = .idle
  enabling : system.enabling = 0
  enabled : system.enabled = 0

/-- In every run in which the receiver is started when it has to be, and in
every settled state of it: when DTR is asserted, and the handler believes that
the receiver is enabled, then the driver does so as well and the physical
receiver is running.  If it is not running then the handler knows, and the driver
lets `rx_enable` enable it again. -/
theorem reception_agrees (reachable : ReceptionReachable Starts system)
    (settled : system.Settled) (isUp : system.data.dtrState = true) :
    (system.rxEnabled = true → system.data.appRxEnabled = true) ∧
      (system.data.appRxEnabled = true → system.running = true) ∧
      (system.running = true ∨
        system.rxEnabled = false ∧ system.data.apiRxEnable.1 = .enabling) := by
  have agreed := agreed_of_reachable reachable
  have runs : system.data.appRxEnabled = true → system.running = true := by
    intro isEnabled
    rcases agreed.runs isUp isEnabled settled.enabling with
      ⟨isActivating, _⟩ | isRunning
    · rw [settled.worker] at isActivating
      cases isActivating
    · exact isRunning
  have believed : system.rxEnabled = true → system.data.appRxEnabled = true :=
    fun isSet => agreed.believed (.inl isSet)
  refine ⟨believed, runs, ?_⟩
  cases isEnabled : system.data.appRxEnabled with
  | true => exact .inl (runs isEnabled)
  | false =>
    right
    constructor
    · cases isSet : system.rxEnabled with
      | true => exact absurd (isEnabled.symm.trans (believed isSet)) nofun
      | false => rfl
    · rw [RxData.apiRxEnable, isEnabled, isUp]
      rfl

def reasserted : List ReceptionAction :=
  [.rxEnable, .rxEnableEnd .ok, .setBit, .work (.start false),
    .work .deactivateRx, .rxDisabled, .work .powerOff, .work (.start true),
    .work .activateRx]

/-- DTR goes away and comes back. -/
theorem reception_restarted : ∃ system, runChecked receptionStep
        (fun system action => decide (Starts system action))
        (reasserted ++ [ReceptionAction.respond .ok]) .init = some system ∧
      system.data.dtrState = true ∧ system.running = true := by
  have evaluated : (runChecked receptionStep (fun system action => decide (Starts system action))
      (reasserted ++ [ReceptionAction.respond .ok]) .init).map (fun system =>
        (system.worker, system.enabling, system.enabled, system.rxEnabled,
          system.data.dtrState)) = some (.idle, 0, 0, true, true) := by
    decide
  obtain ⟨system, ran, seen⟩ := map_eq_some_iff.mp evaluated
  simp only [Prod.mk.injEq] at seen
  obtain ⟨isIdle, noneEnabling, noneEnabled, isSet, isUp⟩ := seen
  have reachable : ReceptionReachable Starts system :=
    reachable_of_runChecked _ (fun _ _ _ passed => of_decide_eq_true passed) (.start rfl) ran
  have agrees := reception_agrees reachable ⟨isIdle, noneEnabling, noneEnabled⟩ isUp
  exact ⟨system, ran, isUp, agrees.2.1 (agrees.1 isSet)⟩

/-- The handler has no buffer when the worker requests one, and the receiver
stays off. -/
theorem reception_declined : ∃ system, runActions receptionStep
        (reasserted ++ [ReceptionAction.decline]) .init = some system ∧
      ReceptionReachable (fun _ _ => True) system ∧ system.Settled ∧
      system.data.dtrState = true ∧ system.rxEnabled = true ∧
      system.data.appRxEnabled = true ∧ system.running = false := by
  have ran : runActions receptionStep
      (reasserted ++ [ReceptionAction.decline]) .init = some {
        data := { dtrState := true, appRxEnabled := true, rxActive := false }
        worker := .idle
        running := false
        rxEnabled := true
        enabling := 0
        enabled := 0 } := by
    decide
  exact ⟨_, ran, reachable_of_run _ rfl ran, ⟨rfl, rfl, rfl⟩, rfl, rfl, rfl, rfl⟩

end SerialModem.DtrUart
