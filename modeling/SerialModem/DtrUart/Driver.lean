/-!
# The receiver of the DTR UART

The driver sits between the application and a physical UART.  It hides from the
application that the UART is powered down while DTR is deasserted: it gives a
buffer back at once that it gets then, and asks for a new one when DTR is
asserted again.
-/

namespace SerialModem.DtrUart

/-- What `struct dtr_uart_data` says about the receiver. -/
structure RxData where
  dtrState : Bool
  appRxEnabled : Bool
  rxActive : Bool
  deriving DecidableEq

/-- The data after `dtr_uart_init`. -/
def RxData.init : RxData where
  dtrState := true
  appRxEnabled := false
  rxActive := false

/-- What the physical UART returns: 0, `-EBUSY` or another error. -/
inductive UartAnswer where
  | ok
  | busy
  | error
  deriving DecidableEq

inductive BufferPc where
  /-- In `api_rx_enable`, before `rx_active` is set. -/
  | enabling
  /-- In `api_rx_buf_rsp`, before `rx_active` is checked. -/
  | responding
  /-- Before `UART_RX_BUF_RELEASED`, and whether an error is returned then. -/
  | releasing (error : Bool)
  | returned (error : Bool)
  deriving DecidableEq

namespace RxData

def apiRxEnable (data : RxData) : BufferPc × RxData :=
  if data.appRxEnabled then
    (.returned true, data)
  else
    let enabled := { data with appRxEnabled := true }
    if enabled.dtrState then
      (.enabling, enabled)
    else
      (.releasing false, enabled)

/-- The end of `api_rx_enable`, with the result of `uart_rx_enable`. -/
def apiRxEnableEnd (answer : UartAnswer) (data : RxData) : BufferPc × RxData :=
  (.returned (answer != .ok), { data with rxActive := true })

def apiRxBufRsp (data : RxData) : BufferPc :=
  if !data.dtrState then
    .releasing false
  else if !data.appRxEnabled then
    .releasing false
  else
    .responding

/-- The rest of `api_rx_buf_rsp`, with the result of `uart_rx_enable` or of
`uart_rx_buf_rsp`. -/
def apiRxBufRspEnd (answer : UartAnswer) (data : RxData) : BufferPc × RxData :=
  if !data.rxActive then
    match answer with
    | .ok => (.returned false, { data with rxActive := true })
    | .busy => (.releasing false, { data with rxActive := true })
    | .error => (.releasing true, { data with rxActive := false })
  else
    (.returned (answer != .ok), data)

/-- `api_rx_disable`, and whether it sends `UART_RX_DISABLED`. -/
def apiRxDisable (data : RxData) : Bool × RxData :=
  if !data.appRxEnabled then
    (false, data)
  else if !data.rxActive || !data.dtrState then
    (true, { data with appRxEnabled := false })
  else
    (false, { data with rxActive := false })

/-- `UART_RX_DISABLED` in `uart_callback`, and whether it is passed on. -/
def rxDisabled (data : RxData) : Bool × RxData :=
  if data.dtrState && data.appRxEnabled then
    (true, { data with appRxEnabled := false })
  else
    (false, data)

theorem apiRxEnable_cases (data : RxData) :
    data.apiRxEnable = (.returned true, data) ∨ data.dtrState = true ∧
        data.apiRxEnable = (.enabling, { data with appRxEnabled := true }) ∨
      data.dtrState = false ∧ data.apiRxEnable =
        (.releasing false, { data with appRxEnabled := true }) := by
  rw [apiRxEnable]
  split
  · exact .inl rfl
  · cases isUp : data.dtrState with
    | true => exact .inr (.inl ⟨rfl, by simp⟩)
    | false => exact .inr (.inr ⟨rfl, by simp⟩)

end RxData

/-- Where `dtr_work_handler` is. -/
inductive WorkerPc where
  | idle
  /-- After `power_on_uart`. -/
  | asserted
  /-- In `activate_rx`, with `UART_RX_BUF_REQUEST` sent. -/
  | requesting
  /-- After `deactivate_tx`. -/
  | deasserted
  /-- After `deactivate_rx`. -/
  | waiting
  deriving DecidableEq

inductive WorkerStep where
  /-- The worker has read the input and `pm_suspended`. -/
  | start (asserted : Bool)
  | activateRx
  | requested
  | deactivateRx
  | powerOff
  deriving DecidableEq

/-- `dtr_work_handler`, as far as it is about the receiver. -/
def dtrWork (step : WorkerStep) (pc : WorkerPc) (data : RxData) : Option (WorkerPc × RxData) :=
  match step, pc with
  | .start asserted, .idle =>
    if data.dtrState = asserted then
      some (.idle, data)
    else
      some (if asserted then .asserted else .deasserted, { data with dtrState := asserted })
  | .activateRx, .asserted =>
    if data.rxActive then
      some (.idle, data)
    else if !data.appRxEnabled then
      some (.idle, data)
    else
      some (.requesting, data)
  | .requested, .requesting => some (.idle, data)
  | .deactivateRx, .deasserted => some (.waiting, { data with rxActive := false })
  | .powerOff, .waiting => some (.idle, data)
  | _, _ => none

variable {pc : WorkerPc} {data : RxData} {result : WorkerPc × RxData}

theorem dtrWork_start {asserted : Bool} (taken : dtrWork (.start asserted) pc data = some result) :
    pc = .idle ∧ (data.dtrState = asserted ∧ result = (.idle, data) ∨
        data.dtrState ≠ asserted ∧ result = (if asserted then .asserted else .deasserted,
            { data with dtrState := asserted })) := by
  cases pc with
  | idle =>
    rw [dtrWork] at taken
    refine ⟨rfl, ?_⟩
    split at taken
    · rename_i isSame
      cases taken
      exact .inl ⟨isSame, rfl⟩
    · rename_i isOther
      cases taken
      exact .inr ⟨isOther, rfl⟩
  | asserted | requesting | deasserted | waiting => cases taken

theorem dtrWork_activateRx (taken : dtrWork .activateRx pc data = some result) :
    pc = .asserted ∧ ((data.rxActive = true ∨ data.appRxEnabled = false) ∧ result = (.idle, data) ∨
        (data.rxActive = false ∧ data.appRxEnabled = true) ∧ result = (.requesting, data)) := by
  cases pc with
  | asserted =>
    rw [dtrWork] at taken
    refine ⟨rfl, ?_⟩
    split at taken
    · rename_i isActive
      cases taken
      exact .inl ⟨.inl isActive, rfl⟩
    · rename_i notActive
      have isInactive := Bool.eq_false_iff.mpr notActive
      split at taken
      · rename_i isDisabled
        cases taken
        exact .inl ⟨.inr (by simpa using isDisabled), rfl⟩
      · rename_i isEnabled
        cases taken
        rw [Bool.not_eq_true, Bool.not_eq_false'] at isEnabled
        exact .inr ⟨⟨isInactive, isEnabled⟩, rfl⟩
  | idle | requesting | deasserted | waiting => cases taken

theorem dtrWork_requested (taken : dtrWork .requested pc data = some result) :
    pc = .requesting ∧ result = (.idle, data) := by
  cases pc with
  | requesting =>
    cases taken
    exact ⟨rfl, rfl⟩
  | idle | asserted | deasserted | waiting => cases taken

theorem dtrWork_deactivateRx (taken : dtrWork .deactivateRx pc data = some result) :
    pc = .deasserted ∧ result = (.waiting, { data with rxActive := false }) := by
  cases pc with
  | deasserted =>
    cases taken
    exact ⟨rfl, rfl⟩
  | idle | asserted | requesting | waiting => cases taken

theorem dtrWork_powerOff (taken : dtrWork .powerOff pc data = some result) :
    pc = .waiting ∧ result = (.idle, data) := by
  cases pc with
  | waiting =>
    cases taken
    exact ⟨rfl, rfl⟩
  | idle | asserted | requesting | deasserted => cases taken

end SerialModem.DtrUart
