import Mathlib.Data.List.Basic

/-!
# The transmitter of the DTR UART

A transmission that the user starts while DTR is deasserted is kept, and the
worker starts it when DTR is asserted.  The functions of the driver look at
`tx_buf`, `tx_in_progress` and `dtr_state` and then act on what they have seen.
Between the two the others can run.
-/

namespace SerialModem.DtrUart

inductive TxPc where
  /-- `dtr_state` is set, before `uart_tx`. -/
  | passing
  /-- `dtr_state` is not set, before `tx_buf` is. -/
  | parking
  | returned (error : Bool)
  deriving DecidableEq

/-- A call of `api_tx`. -/
structure TxCall where
  len : Nat
  pc : TxPc
  /-- The length in each `UART_TX_DONE` and `UART_TX_ABORTED` for it. -/
  answers : List Nat
  sent : Nat
  deriving DecidableEq

/-- The user waits for `api_tx` to return, or for the answer. -/
def TxCall.outstanding (call : TxCall) : Bool :=
  match call.pc with
  | .passing | .parking => true
  | .returned error => !error && call.answers.isEmpty

/-- Where `dtr_work_handler` is, as far as it is about the transmitter. -/
inductive TxWorkerPc where
  | idle
  /-- Before `activate_tx`. -/
  | asserted
  /-- `activate_tx` has found a buffer. -/
  | starting (buf : Nat)
  /-- Before `uart_tx`. -/
  | started (buf : Nat)
  /-- Before `deactivate_tx`. -/
  | deasserted
  /-- `deactivate_tx` has found a buffer that is not started. -/
  | aborting (buf : Nat)
  deriving DecidableEq

/-- After `activate_tx` has looked at `tx_buf`. -/
def TxWorkerPc.activateTx : Option Nat → TxWorkerPc
  | none => .idle
  | some buf => .starting buf

/-- After `deactivate_tx` has looked for a buffer that is not started. -/
def TxWorkerPc.deactivateTx : Option Nat → TxWorkerPc
  | none => .idle
  | some buf => .aborting buf

/-- A buffer is denoted by the call of `api_tx` that it belongs to. -/
structure TxSystem where
  dtrState : Bool
  txBuf : Option Nat
  txLen : Nat
  txInProgress : Bool
  worker : TxWorkerPc
  /-- The threads in `api_tx_abort` in which `deactivate_tx` has found a buffer
  that is not started. -/
  aborts : List Nat
  inFlight : Option (Nat × Nat)
  calls : List TxCall
  stray : Nat
  deriving DecidableEq

inductive TxAction where
  /-- `api_tx` up to its checks. -/
  | tx (len : Nat)
  /-- The rest of `api_tx`, and whether the physical UART accepts. -/
  | txEnd (index : Nat) (accepts : Bool)
  /-- `api_tx_abort` up to the check. -/
  | txAbort
  /-- The rest of `api_tx_abort`. -/
  | txAbortEnd (buf : Nat)
  /-- The worker has read the input and `pm_suspended`. -/
  | start (asserted : Bool)
  /-- `activate_tx` looks at `tx_buf`. -/
  | activateTx
  /-- `activate_tx` sets `tx_in_progress`. -/
  | setInProgress
  /-- `activate_tx` calls `uart_tx`, and whether the physical UART accepts. -/
  | startTx (accepts : Bool)
  | deactivateTx
  | deactivateTxEnd
  /-- The physical UART sends `UART_TX_DONE`. -/
  | txDone
  /-- The physical UART sends `UART_TX_ABORTED` after `len` bytes. -/
  | txAborted (len : Nat)
  deriving DecidableEq

namespace TxSystem

def answer (buf : Option Nat) (len : Nat) (system : TxSystem) : TxSystem :=
  match buf with
  | none => { system with stray := system.stray + 1 }
  | some buf =>
    { system with
      calls := system.calls.modify buf fun call =>
        { call with answers := call.answers ++ [len] } }

def txComplete (system : TxSystem) : TxSystem :=
  { system with txBuf := none, txLen := 0, txInProgress := false }

/-- `UART_TX_ABORTED` for a buffer that is not started. -/
def abortBuffered (buf : Option Nat) (system : TxSystem) : TxSystem :=
  system.txComplete.answer buf 0

/-- `uart_tx` of the physical UART, which is busy with one transmission at a
time, and whether it accepts. -/
def uartTx (buf len : Nat) (accepts : Bool) (system : TxSystem) : Bool × TxSystem :=
  if accepts && system.inFlight.isNone then
    (true, { system with inFlight := some (buf, len) })
  else
    (false, system)

/-- `UART_TX_DONE` and `UART_TX_ABORTED` in `uart_callback`, when the physical
UART has sent `len` bytes. -/
def txAnswered (buf len : Nat) (system : TxSystem) : TxSystem :=
  { system with
    inFlight := none
    calls := system.calls.modify buf fun call =>
      { call with sent := call.sent + len } }.txComplete.answer (some buf) len

def setPc (index : Nat) (pc : TxPc) (system : TxSystem) : TxSystem :=
  { system with
    calls := system.calls.modify index fun call => { call with pc := pc } }

/-- What `deactivate_tx` finds: a buffer that is not started. -/
def buffered (system : TxSystem) : Option Nat :=
  if system.txInProgress then none else system.txBuf

def apiTx (len : Nat) (system : TxSystem) : TxSystem :=
  let call (pc : TxPc) (answers : List Nat) : TxCall :=
    { len := len, pc := pc, answers := answers, sent := 0 }
  { system with
    calls := system.calls ++ [if len = 0 then call (.returned false) [0]
       else if system.txBuf.isSome then call (.returned true) []
       else if system.dtrState then call .passing []
       else call .parking []] }

def apiTxEnd (index : Nat) (accepts : Bool) (call : TxCall) (system : TxSystem) : Option TxSystem :=
  match call.pc with
  | .passing =>
    let result := system.uartTx index call.len accepts
    some (result.2.setPc index (.returned !result.1))
  | .parking =>
    some ({ system with txBuf := some index, txLen := call.len }.setPc index (.returned false))
  | .returned _ => none

def activateTxEnd (buf : Nat) (accepts : Bool) (system : TxSystem) : TxSystem :=
  let result := system.uartTx buf system.txLen accepts
  let after := { result.2 with worker := .idle }
  if result.1 then after else after.abortBuffered after.txBuf

end TxSystem

def txStep (action : TxAction) (system : TxSystem) : Option TxSystem :=
  match action with
  | .tx len =>
    -- The user has at most one transmission outstanding.
    if ∀ call ∈ system.calls, call.outstanding = false then
      some (system.apiTx len)
    else
      none
  | .txEnd index accepts =>
    system.calls[index]?.bind fun call => system.apiTxEnd index accepts call
  | .txAbort =>
    some { system with aborts := system.buffered.toList ++ system.aborts }
  | .txAbortEnd buf =>
    if buf ∈ system.aborts then
      some ({ system with aborts := system.aborts.erase buf }.abortBuffered (some buf))
    else
      none
  | .start asserted =>
    if system.worker = .idle then
      if system.dtrState = asserted then
        some system
      else
        some { system with
          dtrState := asserted
          worker := if asserted then .asserted else .deasserted }
    else
      none
  | .activateTx =>
    if system.worker = .asserted then
      some { system with worker := .activateTx system.txBuf }
    else
      none
  | .setInProgress =>
    match system.worker with
    | .starting buf =>
      some { system with worker := .started buf, txInProgress := true }
    | _ => none
  | .startTx accepts =>
    match system.worker with
    | .started buf => some (system.activateTxEnd buf accepts)
    | _ => none
  | .deactivateTx =>
    if system.worker = .deasserted then
      some { system with worker := .deactivateTx system.buffered }
    else
      none
  | .deactivateTxEnd =>
    match system.worker with
    | .aborting buf =>
      some ({ system with worker := .idle }.abortBuffered (some buf))
    | _ => none
  | .txDone =>
    system.inFlight.map fun flight => system.txAnswered flight.1 flight.2
  | .txAborted len =>
    system.inFlight.bind fun flight =>
      if len ≤ flight.2 then
        some (system.txAnswered flight.1 len)
      else
        none

/-- The data after `dtr_uart_init`. -/
def TxSystem.init : TxSystem where
  dtrState := true
  txBuf := none
  txLen := 0
  txInProgress := false
  worker := .idle
  aborts := []
  inFlight := none
  calls := []
  stray := 0

end SerialModem.DtrUart
