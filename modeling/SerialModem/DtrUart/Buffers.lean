import SerialModem.DtrUart.Driver
import SerialModem.Library.TransitionSystem

/-!
# The buffers of the DTR UART

The application gives the driver buffers, from any number of threads and from
its callback.  Between two steps of a call DTR can change, and the physical UART
can release what it holds.
-/

namespace SerialModem.DtrUart

open Library List Option

/-- A buffer that is passed to `api_rx_enable` or to `api_rx_buf_rsp`. -/
structure BufferCall where
  pc : BufferPc
  held : Bool
  /-- How often `UART_RX_BUF_RELEASED` has been sent for it. -/
  released : Nat
  deriving DecidableEq

namespace BufferCall

def start (pc : BufferPc) : BufferCall where
  pc := pc
  held := false
  released := 0

def offer (answer : UartAnswer) (pc : BufferPc) (call : BufferCall) :
    BufferCall :=
  { call with pc := pc, held := answer == .ok }

/-- `UART_RX_BUF_RELEASED` of the physical UART. -/
def release (call : BufferCall) : BufferCall :=
  { call with held := false, released := call.released + 1 }

def giveBack (error : Bool) (call : BufferCall) : BufferCall :=
  { call with pc := .returned error, released := call.released + 1 }

/-- How often the application has called `rx_buf_unref` for the buffer: for each
`UART_RX_BUF_RELEASED`, and when the call has returned an error. -/
def unrefs (call : BufferCall) : Nat :=
  call.released + if call.pc = .returned true then 1 else 0

end BufferCall

structure BufferSystem where
  data : RxData
  worker : WorkerPc
  calls : List BufferCall
  deriving DecidableEq

inductive BufferAction where
  | work (step : WorkerStep)
  /-- `api_rx_enable` is called. -/
  | rxEnable
  /-- `api_rx_buf_rsp` is called. -/
  | rxBufRsp
  | offer (index : Nat) (answer : UartAnswer)
  /-- A call sends `UART_RX_BUF_RELEASED`. -/
  | giveBack (index : Nat)
  | rxDisable
  /-- The physical UART sends `UART_RX_BUF_RELEASED`. -/
  | release (index : Nat)
  /-- The physical UART sends `UART_RX_DISABLED`. -/
  | rxDisabled
  deriving DecidableEq

def offerStep (answer : UartAnswer) (call : BufferCall) (data : RxData) :
    Option (BufferCall × RxData) :=
  match call.pc with
  | .enabling =>
    let result := data.apiRxEnableEnd answer
    some (call.offer answer result.1, result.2)
  | .responding =>
    let result := data.apiRxBufRspEnd answer
    some (call.offer answer result.1, result.2)
  | _ => none

def giveBackStep (call : BufferCall) : Option BufferCall :=
  match call.pc with
  | .releasing error => some (call.giveBack error)
  | _ => none

def bufferStep (action : BufferAction) (system : BufferSystem) : Option BufferSystem :=
  match action with
  | .work step =>
    (dtrWork step system.worker system.data).map fun result =>
      { system with worker := result.1, data := result.2 }
  | .rxEnable =>
    let result := system.data.apiRxEnable
    some { system with
      data := result.2
      calls := system.calls ++ [.start result.1] }
  | .rxBufRsp =>
    some { system with
      calls := system.calls ++ [.start system.data.apiRxBufRsp] }
  | .offer index answer =>
    system.calls[index]?.bind fun call =>
      (offerStep answer call system.data).map fun result =>
        { system with
          data := result.2
          calls := system.calls.set index result.1 }
  | .giveBack index =>
    system.calls[index]?.bind fun call =>
      (giveBackStep call).map fun after =>
        { system with calls := system.calls.set index after }
  | .rxDisable => some { system with data := system.data.apiRxDisable.2 }
  | .release index =>
    system.calls[index]?.bind fun call =>
      if call.held then
        some { system with calls := system.calls.set index call.release }
      else
        none
  | .rxDisabled => some { system with data := system.data.rxDisabled.2 }

def BufferSystem.init : BufferSystem where
  data := .init
  worker := .idle
  calls := []

abbrev BufferReachable (allowed : BufferSystem → BufferAction → Prop) : BufferSystem → Prop :=
  Reachable bufferStep allowed (fun system => system = .init)

/-- What is owed for a buffer.  When the call has returned 0, either the buffer
has come back or the physical UART has it.  In any other case the application
has it, or the call has yet to return. -/
structure BufferCall.Owed (call : BufferCall) : Prop where
  accepted : call.pc = .returned false → call.released + (if call.held then 1 else 0) = 1
  refused : call.pc ≠ .returned false → call.held = false ∧ call.released = 0
  clean : call.pc ≠ .releasing true

/-- When `api_rx_buf_rsp` starts the receiver, `uart_rx_enable` does not fail
otherwise than with `-EBUSY`. -/
def RestartAccepted (system : BufferSystem) (action : BufferAction) : Prop :=
  match action with
  | .offer index .error =>
    ∀ call ∈ system.calls[index]?, call.pc = .responding → system.data.rxActive = true
  | _ => True

instance {system : BufferSystem} {action : BufferAction} :
    Decidable (RestartAccepted system action) :=
  match action with
  | .offer _ .error => inferInstanceAs (Decidable (∀ call ∈ _, _ → _))
  | .offer _ .ok | .offer _ .busy | .work _ | .rxEnable | .rxBufRsp
  | .giveBack _ | .rxDisable | .release _ | .rxDisabled =>
    inferInstanceAs (Decidable True)

namespace BufferCall

variable {call : BufferCall}

theorem owed_start {pc : BufferPc} (isNew : pc ≠ .returned false)
    (isClean : pc ≠ .releasing true) : (start pc).Owed where
  accepted := fun accepted => absurd accepted isNew
  refused := fun _ => ⟨rfl, rfl⟩
  clean := isClean

theorem Owed.offer {answer : UartAnswer} {pc : BufferPc} (owed : call.Owed)
    (isPending : call.pc ≠ .returned false)
    (isTaken : pc = .returned false ↔ answer = .ok)
    (isClean : pc ≠ .releasing true) : (call.offer answer pc).Owed where
  accepted := by
    intro accepted
    rw [BufferCall.offer, (owed.refused isPending).2, isTaken.mp accepted]
    rfl
  refused := by
    intro refused
    refine ⟨?_, (owed.refused isPending).2⟩
    exact beq_eq_false_iff_ne.mpr fun accepted =>
      refused (isTaken.mpr accepted)
  clean := isClean

theorem Owed.release (owed : call.Owed) (isHeld : call.held = true) : call.release.Owed where
  accepted := by
    intro accepted
    have once := owed.accepted accepted
    rw [if_pos isHeld] at once
    rw [BufferCall.release]
    exact once
  refused := by
    intro refused
    have notHeld := (owed.refused refused).1
    rw [isHeld] at notHeld
    cases notHeld
  clean := owed.clean

/-- An error is never returned after `UART_RX_BUF_RELEASED`. -/
theorem Owed.giveBack {after : BufferCall} (owed : call.Owed)
    (taken : giveBackStep call = some after) : after.Owed := by
  rw [giveBackStep] at taken
  split at taken
  · rename_i error isReleasing
    cases taken
    cases error with
    | true => exact absurd isReleasing owed.clean
    | false =>
      have isPending : call.pc ≠ .returned false := by
        rw [isReleasing]
        nofun
      obtain ⟨notHeld, notReleased⟩ := owed.refused isPending
      exact {
        accepted := by
          intro
          rw [BufferCall.giveBack, notHeld, notReleased]
          rfl
        refused := fun refused => absurd rfl refused
        clean := nofun }
  · cases taken

theorem Owed.unrefs_le (owed : call.Owed) : call.unrefs ≤ 1 := by
  rw [unrefs]
  by_cases accepted : call.pc = .returned false
  · have once := owed.accepted accepted
    rw [accepted, if_neg nofun]
    omega
  · rw [(owed.refused accepted).2]
    split
    · exact Nat.le_refl 1
    · exact Nat.zero_le 1

end BufferCall

variable {system after : BufferSystem}

theorem returned_iff (answer : UartAnswer) :
    BufferPc.returned (answer != .ok) = .returned false ↔ answer = .ok := by
  cases answer <;> decide

theorem apiRxBufRspEnd_accepts (answer : UartAnswer) (data : RxData) :
    (data.apiRxBufRspEnd answer).1 = .returned false ↔ answer = .ok := by
  unfold RxData.apiRxBufRspEnd
  cases data.rxActive with
  | true => exact returned_iff answer
  | false => cases answer <;> simp

theorem apiRxBufRspEnd_clean {answer : UartAnswer} {data : RxData}
    (restarts : answer = .error → data.rxActive = true) :
    (data.apiRxBufRspEnd answer).1 ≠ .releasing true := by
  unfold RxData.apiRxBufRspEnd
  cases isActive : data.rxActive with
  | true => nofun
  | false =>
    cases answer with
    | ok | busy => nofun
    | error =>
      have active := restarts rfl
      rw [isActive] at active
      cases active

variable {call : BufferCall}

theorem owed_offerStep {answer : UartAnswer} {offered : BufferCall}
    {data next : RxData} (owed : call.Owed)
    (restarts : answer = .error → call.pc = .responding → data.rxActive = true)
    (taken : offerStep answer call data = some (offered, next)) :
    offered.Owed := by
  rw [offerStep] at taken
  split at taken
  · rename_i isEnabling
    cases taken
    apply owed.offer
    · rw [isEnabling]
      nofun
    · exact returned_iff answer
    · nofun
  · rename_i isResponding
    cases taken
    apply owed.offer
    · rw [isResponding]
      nofun
    · exact apiRxBufRspEnd_accepts answer data
    · apply apiRxBufRspEnd_clean
      intro isError
      exact restarts isError isResponding
  · cases taken

variable {calls : List BufferCall}

theorem owed_set {index : Nat} (owed : ∀ other ∈ calls, other.Owed) (isOwed : call.Owed) :
    ∀ other ∈ calls.set index call, other.Owed := by
  intro other member
  rcases mem_or_eq_of_mem_set member with isOld | rfl
  · exact owed other isOld
  · exact isOwed

theorem owed_append (owed : ∀ other ∈ calls, other.Owed) (isOwed : call.Owed) :
    ∀ other ∈ calls ++ [call], other.Owed := by
  intro other member
  rcases mem_append.mp member with isOld | isNew
  · exact owed other isOld
  · rw [mem_singleton.mp isNew]
    exact isOwed

theorem owed_step {action : BufferAction} (owed : ∀ call ∈ system.calls, call.Owed)
    (restarts : RestartAccepted system action)
    (taken : bufferStep action system = some after) :
    ∀ call ∈ after.calls, call.Owed := by
  cases action with
  | work step =>
    obtain ⟨_, _, rfl⟩ := map_eq_some_iff.mp taken
    exact owed
  | rxEnable =>
    cases taken
    apply owed_append owed
    rw [RxData.apiRxEnable]
    split
    · exact BufferCall.owed_start (by simp) (by simp)
    · dsimp only
      split
      · exact BufferCall.owed_start (by simp) (by simp)
      · exact BufferCall.owed_start (by simp) (by simp)
  | rxBufRsp =>
    cases taken
    apply owed_append owed
    rw [RxData.apiRxBufRsp]
    split
    · exact BufferCall.owed_start (by simp) (by simp)
    · split
      · exact BufferCall.owed_start (by simp) (by simp)
      · exact BufferCall.owed_start (by simp) (by simp)
  | offer index answer =>
    obtain ⟨call, found, offering⟩ := bind_eq_some_iff.mp taken
    obtain ⟨⟨offered, next⟩, offers, rfl⟩ :=
      map_eq_some_iff.mp offering
    apply owed_set owed
    refine owed_offerStep (owed call (mem_of_getElem? found)) ?_ offers
    rintro rfl isResponding
    exact restarts call found isResponding
  | giveBack index =>
    obtain ⟨call, found, giving⟩ := bind_eq_some_iff.mp taken
    obtain ⟨given, gives, rfl⟩ := map_eq_some_iff.mp giving
    apply owed_set owed
    exact (owed call (mem_of_getElem? found)).giveBack gives
  | rxDisable =>
    cases taken
    exact owed
  | release index =>
    obtain ⟨call, found, releasing⟩ := bind_eq_some_iff.mp taken
    split at releasing
    · rename_i isHeld
      cases releasing
      apply owed_set owed
      exact (owed call (mem_of_getElem? found)).release isHeld
    · cases releasing
  | rxDisabled =>
    cases taken
    exact owed

/-- In every run in which `uart_rx_enable` does not fail in `api_rx_buf_rsp`,
otherwise than with `-EBUSY`, each buffer comes back once: no
`UART_RX_BUF_RELEASED` is sent for it when the call has returned an error, and
exactly one when it has returned 0, as soon as the physical UART does not have
it any more.  So `rx_buf_unref` is called for it at most once. -/
theorem buffer_comes_back_once (reachable : BufferReachable RestartAccepted system) :
    ∀ call ∈ system.calls, (call.pc = .returned true → call.held = false ∧ call.released = 0) ∧
      (call.pc = .returned false → call.released + (if call.held then 1 else 0) = 1) ∧
      call.unrefs ≤ 1 := by
  have owed : ∀ call ∈ system.calls, call.Owed := by
    induction reachable with
    | start isInitial =>
      rw [isInitial]
      nofun
    | next action _ restarts taken ih => exact owed_step ih restarts taken
  intro call member
  have isOwed := owed call member
  refine ⟨fun refused => ?_, isOwed.accepted, isOwed.unrefs_le⟩
  apply isOwed.refused
  rw [refused]
  nofun

/-- The receiver is enabled while DTR is deasserted, and is asked for a buffer
when DTR is asserted. -/
def requestedBuffer : List BufferAction :=
  [.work (.start false), .work .deactivateRx, .work .powerOff, .rxEnable,
    .giveBack 0, .work (.start true), .work .activateRx, .rxBufRsp]

/-- The physical UART takes the buffer and releases it. -/
theorem requested_buffer_released : ∃ system, runChecked bufferStep
        (fun system action => decide (RestartAccepted system action))
        (requestedBuffer ++ [BufferAction.offer 1 .ok, .release 1]) .init = some system ∧
      ∀ call ∈ system.calls, call.unrefs ≤ 1 := by
  have ran : ∃ system, runChecked bufferStep
      (fun system action => decide (RestartAccepted system action))
      (requestedBuffer ++ [BufferAction.offer 1 .ok, .release 1]) .init = some system :=
    isSome_iff_exists.mp (by decide)
  obtain ⟨system, ran⟩ := ran
  have reachable : BufferReachable RestartAccepted system :=
    reachable_of_runChecked _ (fun _ _ _ passed => of_decide_eq_true passed) (.start rfl) ran
  exact ⟨system, ran, fun call member =>
    (buffer_comes_back_once reachable call member).2.2⟩

/-- The physical UART does not start.  `api_rx_buf_rsp` sends
`UART_RX_BUF_RELEASED` and returns the error. -/
theorem failed_buffer_released_twice : ∃ system, runActions bufferStep
        (requestedBuffer ++ [BufferAction.offer 1 .error, .giveBack 1]) .init = some system ∧
      BufferReachable (fun _ _ => True) system ∧
      ∃ call ∈ system.calls, call.pc = .returned true ∧ call.released = 1 ∧ call.unrefs = 2 := by
  have evaluated : (runActions bufferStep
      (requestedBuffer ++ [BufferAction.offer 1 .error, .giveBack 1]) .init).map
        (fun system => system.calls) =
      some [{ pc := .returned false, held := false, released := 1 },
        { pc := .returned true, held := false, released := 1 }] := by
    decide
  obtain ⟨system, ran, seen⟩ := map_eq_some_iff.mp evaluated
  refine ⟨system, ran, reachable_of_run _ rfl ran,
    { pc := .returned true, held := false, released := 1 }, ?_, rfl, rfl,
    by decide⟩
  rw [seen]
  exact mem_cons_of_mem _ mem_cons_self

end SerialModem.DtrUart
