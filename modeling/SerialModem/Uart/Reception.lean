import SerialModem.Library.RefCounting
import SerialModem.Library.CharBuffer
import SerialModem.Library.TransitionSystem
import SerialModem.AtHost.Command

/-!
# Receiving from the UART

The driver fills buffers out of a slab and reports what it has received with
events that point into them.  A block of the slab counts the driver and the
events that refer to it.  `pipe_receive` takes the events from a queue, and puts
one back that it could not copy whole.

The events of the driver come in between any two steps of `pipe_receive`:
before it takes an event, before it copies it, and before it gives up its
reference or puts the event back.
-/

namespace SerialModem.Uart

open Library
open AtHost (Byte ascii)

/-- Where the blocks of `rx_slab` are, and the buffer in each of them. -/
structure SlabLayout where
  /-- `rx_slab.buffer`. -/
  buffer : Nat
  /-- `CONFIG_SM_UART_RX_BUF_COUNT`. -/
  blockCount : Nat
  /-- `UART_SLAB_BLOCK_SIZE`. -/
  blockSize : Nat
  /-- The offset of `buf` in `struct rx_buf_t`. -/
  bufOffset : Nat
  /-- `CONFIG_SM_UART_RX_BUF_SIZE`. -/
  bufSize : Nat
  bufSize_pos : 0 < bufSize
  fits : bufOffset + bufSize ≤ blockSize

namespace SlabLayout

variable (slab : SlabLayout)

def blockStart (block : Nat) : Nat :=
  slab.buffer + block * slab.blockSize

def bufStart (block : Nat) : Nat :=
  slab.blockStart block + slab.bufOffset

def blockStartGet (address : Nat) : Nat :=
  (address - slab.buffer) / slab.blockSize

/-- `UART_RX_EVENT_COUNT`. -/
def eventCount : Nat :=
  slab.blockCount * slab.bufSize / 128

/-- `UART_RX_EVENT_COUNT_FOR_BUF`. -/
def eventCountForBuf : Nat :=
  slab.eventCount / slab.blockCount

end SlabLayout

/-- `struct rx_event_t`. -/
structure RxEvent where
  buf : Nat
  len : Nat
  deriving DecidableEq

/-- Where the reader is in `pipe_receive`. -/
inductive ReceivePc where
  | idle
  | loop (room : Nat)
  | got (room : Nat) (event : RxEvent)
  /-- After `memcpy` of the first `copySize` bytes. -/
  | copied (room : Nat) (event : RxEvent) (copySize : Nat)
  | drained
  /-- In `rx_recovery`, before `rx_enable`. -/
  | recovering
  /-- In `rx_recovery`, after `uart_rx_enable` has succeeded or not. -/
  | recovered (enabled : Bool)
  deriving DecidableEq

/-- The event that `pipe_receive` has taken and not finished with. -/
def ReceivePc.event? : ReceivePc → Option RxEvent
  | .got _ event => some event
  | .copied _ event _ => some event
  | _ => none

def ReceivePc.rest : ReceivePc → List RxEvent
  | .got _ event => [event]
  | .copied _ event copySize =>
    [{ buf := event.buf + copySize, len := event.len - copySize }]
  | _ => []

structure RxSystem where
  /-- `rx_slab`. -/
  pool : Pool Nat
  memory : Nat → Byte
  held : List (Nat × Nat)
  /-- `rx_event_queue`. -/
  queue : List RxEvent
  pc : ReceivePc
  /-- `SM_UART_STATE_RX_ENABLED_BIT`. -/
  rxEnabled : Bool
  /-- `SM_UART_STATE_RX_RECOVERY_BIT`. -/
  recovery : Bool
  /-- `SM_UART_STATE_RX_RECOVERY_DISABLED_BIT`. -/
  recoveryDisabled : Bool
  /-- The threads in `pipe_open` in which `uart_rx_enable` has succeeded. -/
  opening : Nat
  /-- `sm_work_q` has been started. -/
  started : Bool
  reported : List Byte
  /-- What `pipe_receive` has returned. -/
  returned : List Byte

inductive RxAction where
  /-- `sm_work_q` is started. -/
  | startQueue
  /-- `UART_RX_RDY`. -/
  | rxRdy (block offset : Nat) (data : List Byte)
  /-- `UART_RX_BUF_REQUEST`, and whether the driver takes the buffer. -/
  | bufRequest (accepts : Bool)
  /-- `UART_RX_BUF_RELEASED`. -/
  | bufReleased (block : Nat)
  /-- `UART_RX_DISABLED`. -/
  | rxDisabled
  /-- `pipe_open` up to `uart_rx_enable`, and whether the driver takes the
  buffer. -/
  | openRx (accepts : Bool)
  /-- `rx_enable` in `pipe_open` sets the bit. -/
  | opened
  /-- The start of `rx_disable`. -/
  | disable
  /-- `pipe_receive` is called. -/
  | receive (size : Nat)
  /-- The next step of `pipe_receive`, and whether the driver takes the buffer
  if it is `uart_rx_enable`. -/
  | reader (accepts : Bool)
  deriving DecidableEq

def readBytes (memory : Nat → Byte) (address len : Nat) : List Byte :=
  (List.range len).map fun index => memory (address + index)

namespace RxSystem

variable (slab : SlabLayout)

def rxBufRef (address : Nat) (system : RxSystem) : RxSystem :=
  { system with pool := system.pool.ref (slab.blockStartGet address) }

def rxBufUnref (address : Nat) (system : RxSystem) : RxSystem :=
  { system with pool := system.pool.unref (slab.blockStartGet address) }

/-- A buffer is allocated and given to the driver, which takes it or returns an
error.  The second component is whether the driver has taken one. -/
def giveBuf (accepts : Bool) (system : RxSystem) : RxSystem × Bool :=
  match system.pool.free with
  | [] => (system, false)
  | block :: rest =>
    let allocated := { system with pool := system.pool.alloc block rest }
    if accepts then
      ({ allocated with held := allocated.held ++ [(block, 0)] }, true)
    else
      (allocated.rxBufUnref slab (slab.blockStart block), false)

/-- `rx_enable` without the bit that it sets at its end. -/
def rxEnable (accepts : Bool) (system : RxSystem) : RxSystem × Bool :=
  if system.rxEnabled || system.recoveryDisabled then
    (system, false)
  else
    system.giveBuf slab accepts

/-- `UART_RX_RDY` in `uart_callback`, after the driver has written `data` into
the buffer of a block. -/
def rxRdy (block offset : Nat) (data : List Byte) (system : RxSystem) :
    RxSystem :=
  if system.started then
    let reported := { system with reported := system.reported ++ data }
    if system.queue.length < slab.eventCount then
      { reported.rxBufRef slab (slab.bufStart block) with
        queue := system.queue ++
          [{ buf := slab.bufStart block + offset, len := data.length }] }
    else
      (reported.rxBufRef slab (slab.bufStart block)).rxBufUnref slab (slab.bufStart block)
  else
    system

def fill (block offset : Nat) (data : List Byte) (system : RxSystem) :
    RxSystem :=
  { system with
    memory :=
      CharBuffer.overlay system.memory (slab.bufStart block + offset) data
    held := system.held.map fun held =>
      if held.1 = block then (block, offset + data.length) else held }

/-- `UART_RX_BUF_REQUEST` in `uart_callback`. -/
def bufRequest (accepts : Bool) (system : RxSystem) : RxSystem :=
  if slab.eventCount - system.queue.length < slab.eventCountForBuf then
    system
  else
    (system.giveBuf slab accepts).1

/-- `UART_RX_BUF_RELEASED` in `uart_callback`. -/
def bufReleased (block : Nat) (system : RxSystem) : RxSystem :=
  { system with
    held := system.held.filter fun held => held.1 ≠ block }.rxBufUnref slab (slab.bufStart block)

/-- What follows `memcpy` in the loop of `pipe_receive`. -/
def finishEvent (room : Nat) (event : RxEvent) (copySize : Nat) (system : RxSystem) : RxSystem :=
  let next := { system with pc := .loop (room - copySize) }
  if event.len = copySize then
    next.rxBufUnref slab event.buf
  else
    let rest : RxEvent :=
      { buf := event.buf + copySize, len := event.len - copySize }
    if system.queue.length < slab.eventCount then
      { next with queue := rest :: system.queue }
    else
      next.rxBufUnref slab rest.buf

/-- The next step of `pipe_receive`. -/
def reader (accepts : Bool) (system : RxSystem) : Option RxSystem :=
  match system.pc with
  | .idle => none
  | .loop room =>
    match system.queue with
    | [] => some { system with pc := .drained }
    | event :: rest =>
      if room = 0 then
        some { system with pc := .drained }
      else
        some { system with pc := .got room event, queue := rest }
  | .got room event =>
    some { system with
      pc := .copied room event (min room event.len)
      returned := system.returned ++
        readBytes system.memory event.buf (min room event.len) }
  | .copied room event copySize =>
    some (system.finishEvent slab room event copySize)
  | .drained =>
    if system.queue = [] ∧ system.recoveryDisabled = false then
      some { system with pc := .recovering, recovery := true }
    else
      some { system with pc := .idle }
  | .recovering =>
    let enabled := system.rxEnable slab accepts
    some { enabled.1 with pc := .recovered enabled.2 }
  | .recovered enabled =>
    some { system with
      pc := .idle
      rxEnabled := system.rxEnabled || enabled
      recovery := false }

end RxSystem

def rxStep (slab : SlabLayout) (action : RxAction) (system : RxSystem) : Option RxSystem :=
  match action with
  | .startQueue => some { system with started := true }
  | .rxRdy block offset data =>
    -- What the driver reports starts inside a buffer that it holds, after what
    -- it has reported of it before, and ends inside it.
    if block ∈ system.held.map Prod.fst ∧ (∀ held ∈ system.held, held.1 = block → held.2 ≤ offset) ∧
        offset < slab.bufSize ∧ offset + data.length ≤ slab.bufSize then
      some ((system.fill slab block offset data).rxRdy slab block offset data)
    else
      none
  | .bufRequest accepts => some (system.bufRequest slab accepts)
  | .bufReleased block =>
    if block ∈ system.held.map Prod.fst then
      some (system.bufReleased slab block)
    else
      none
  | .rxDisabled => some { system with rxEnabled := false }
  | .openRx accepts =>
    let enabled := { system with recoveryDisabled := false }.rxEnable slab accepts
    some { enabled.1 with
      opening := if enabled.2 then system.opening + 1 else system.opening }
  | .opened =>
    if 0 < system.opening then
      some { system with rxEnabled := true, opening := system.opening - 1 }
    else
      none
  | .disable => some { system with recoveryDisabled := true }
  | .receive size =>
    if system.pc = .idle then
      some { system with pc := .loop size }
    else
      none
  | .reader accepts => system.reader slab accepts

/-- The state after `sm_uart_handler_enable`. -/
def freshRx (slab : SlabLayout) : RxSystem where
  pool := { free := List.range slab.blockCount, refCounter := fun _ => 0 }
  memory := fun _ => 0
  held := []
  queue := []
  pc := .idle
  rxEnabled := false
  recovery := false
  recoveryDisabled := false
  opening := 0
  started := false
  reported := []
  returned := []

end SerialModem.Uart
