import SerialModem.Library.RingBuffer
import Mathlib.Logic.Function.Basic

/-!
# The state of the AT host

The AT host owns one context for each AT pipe.  All of its code runs on one
work queue, so its state is a value that the functions of `sm_at_host.c` pass
on: the contexts, the list of live ones, the context that is being served and
the queues that connect the work items.

What the AT host calls and does not define itself, the data-mode handlers, the
modem and the heap, is an `Environment`: a function of everything observed so
far.  Quantifying over environments covers every behaviour of that code.
-/

namespace SerialModem.AtHost

open Library

abbrev Byte := UInt8

/-- Strings end with NUL. -/
instance byteZero : Zero Byte := ⟨0⟩

/-- Contexts, pipes and data-mode handlers are pointers in the source; only
their identity matters. -/
abbrev CtxId := Nat

abbrev PipeId := Nat

abbrev HandlerId := Nat

/-- `enum sm_operation_mode`.  `SM_INVALID_MODE` is only an answer of
`get_sm_mode` and never stored. -/
inductive OperationMode where
  | atCommandMode
  | dataMode
  | nullMode
  deriving DecidableEq

/-- The choice between `CONFIG_SM_CR_TERMINATION`, `CONFIG_SM_LF_TERMINATION`
and `CONFIG_SM_CR_LF_TERMINATION`. -/
inductive Termination where
  | cr
  | lf
  | crLf
  deriving DecidableEq

/-- The build configuration that the AT host reads. -/
structure Config where
  /-- `CONFIG_SM_DATAMODE_TERMINATOR`, without the closing NUL. -/
  terminator : List Byte
  terminator_ne : terminator ≠ []
  /-- `CONFIG_SM_DATAMODE_BUF_SIZE`, with its Kconfig range. -/
  datamodeBufSize : Nat
  datamodeBufSize_range : 1024 ≤ datamodeBufSize ∧ datamodeBufSize ≤ 8192
  /-- `CONFIG_SM_CMUX_CHANNEL_COUNT`. -/
  cmuxChannelCount : Nat
  /-- `CONFIG_SM_URC_BUFFER_SIZE`. -/
  urcBufferSize : Nat
  /-- `CONFIG_SM_UART_RX_BUF_SIZE`. -/
  uartRxBufSize : UInt32
  termination : Termination
  /-- `CONFIG_SM_AT_ECHO_MAX_LEN`. -/
  atEchoMaxLen : Nat
  /-- `sizeof(sm_response_buf)`, that is `CONFIG_SM_AT_BUF_SIZE + 1`. -/
  responseBufSize : Nat

/-- The flags handed to a data-mode handler: `SM_DATAMODE_FLAGS_MORE_DATA` and
`SM_DATAMODE_FLAGS_EXIT_HANDLER`. -/
structure Flags where
  moreData : Bool
  exitHandler : Bool
  deriving DecidableEq

namespace Flags

/-- `SM_DATAMODE_FLAGS_NONE`. -/
def none : Flags := ⟨false, false⟩

end Flags

/-- What `rsp_send` is asked to send. -/
inductive Response where
  | ok
  | error
  | xdatamode (result : Int)
  /-- `CONFIG_SM_DATAMODE_TERMINATOR`, echoed by handlers that were exited. -/
  | terminator
  | text (content : List Byte)
  deriving DecidableEq

/-- What can be observed of the AT host, in the order in which it happens. -/
inductive Event where
  /-- A received byte is handed to `sm_at_receive`. -/
  | received (ctx : CtxId) (byte : Byte)
  | rspSend (ctx : CtxId) (response : Response)
  | urcSent (ctx : CtxId) (content : List Byte)
  | echoed (ctx : CtxId) (content : List Byte)
  /-- The final result of a command, sent by `cmd_send`. -/
  | finalResult (ctx : CtxId) (content : List Byte)
  | rspSendTo (ctx : CtxId) (response : Response)
  | dataSend (ctx : CtxId) (content : List Byte)
  | cmdSend (ctx : CtxId) (line : List Byte)
  /-- `executing_lock` is taken once more. -/
  | locked (ctx : CtxId)
  /-- `executing_lock` is released once. -/
  | unlocked (ctx : CtxId)
  | enterDatamode (ctx : CtxId) (handler : HandlerId) (dataLen : UInt32)
  | exitDatamodeHandler (ctx : CtxId) (result : Int)
  | exitDatamode (ctx : CtxId)
  | rawSend (ctx : CtxId) (flags : Flags)
  | writeDataBuf (ctx : CtxId) (content : List Byte)
  /-- `handler(DATAMODE_SEND, content, ...)` returned `result`. -/
  | handlerSend (ctx : CtxId) (handler : HandlerId)
      (content : List Byte) (flags : Flags) (result : Int)
  /-- `handler(DATAMODE_EXIT, ...)`. -/
  | handlerExit (ctx : CtxId) (handler : HandlerId) (flags : Flags)
  deriving DecidableEq

abbrev History := List Event

inductive HostCall where
  | rspSend (response : Response)
  | urcSend (content : List Byte)
  | urcSendTo (pipe : Option PipeId) (content : List Byte)
  | rspSendTo (pipe : Option PipeId) (response : Response)
  | dataSend (pipe : Option PipeId) (content : List Byte)
  | lockCtx (ctx : CtxId)
  | cmdDone (ctx : CtxId)
  deriving DecidableEq

/-- What a data-mode handler does when it is asked to send `length` bytes: it
calls the AT host, may drop out of data mode through
`exit_datamode_handler(sm_at_host_get_current(), ...)`, and returns the number
of bytes sent or a negative error. -/
structure SendReply (length : Nat) where
  calls : List HostCall := []
  exitResult : Option Int := .none
  callsAfterExit : List HostCall := []
  result : Int
  /-- `sm_at_host.h`: the number of bytes successfully sent. -/
  result_le : result ≤ length

inductive CommandAction where
  | call (hostCall : HostCall)
  | enterDatamode (handler : HandlerId) (dataLen : UInt32)
  /-- `sm_at_host_echo`. -/
  | echo (enable : Bool)
  /-- The set command of `handle_at_datactrl`. -/
  | datactrl (timeLimit : UInt16)
  deriving DecidableEq

/-- What `nrf_modem_at_cmd` returns to `cmd_send`. -/
inductive CommandResult where
  /-- `-AT_COMMAND_CONTINUE_RET`. -/
  | continueRet
  /-- `-SILENT_AT_COMMAND_RET`. -/
  | silentRet
  | failed
  /-- Zero or a positive error, with the response text in the buffer. -/
  | responded (content : List Byte)
  deriving DecidableEq

structure CommandReply where
  actions : List CommandAction
  result : CommandResult

structure Environment where
  handlerSend : History → CtxId → HandlerId →
    (content : List Byte) → Flags → SendReply content.length
  handlerExit : History → CtxId → HandlerId → Flags → List HostCall
  /-- `nrf_modem_at_cmd`, which dispatches to the command handlers. -/
  atCommand : History → CtxId → List Byte → CommandReply
  /-- The bootloader-mode command handlers; `true` stands for success. -/
  bootloaderCommand : History → CtxId → List Byte → List CommandAction × Bool
  alloc : History → CtxId → Nat → Bool

/-- The part of `struct sm_at_host_ctx` that data mode works on, with the
members of `struct data_mode` among its own. -/
structure DataState where
  atMode : OperationMode
  handler : Option HandlerId
  handlerResult : Int
  timeLimit : UInt16
  dataLen : UInt32
  dataRb : RingBuffer Byte
  quitStrMatch : UInt8
  nullDroppedCount : UInt32
  nullMatchCount : UInt8

/-- The part of `struct sm_at_host_ctx` that `cmd_rx_handler` works on. -/
structure CommandState where
  atBuf : List Byte
  atBufSize : Nat
  insideQuotes : Bool
  atCmdLen : Nat
  echoLen : Nat
  prevCharacter : Byte
  echoEnabled : Bool

/-- `struct sm_at_host_ctx`. -/
structure Ctx where
  pipe : Option PipeId
  data : DataState
  command : CommandState
  executingLock : Int
  bufferedUrcs : List (List Byte)
  dataInactivityTimer : Bool
  idleTimer : Bool

def atBufMinSize : Nat := 128

def atBufMaxSize : Nat := 8192

namespace Ctx

/-- `sm_at_host_ctx_init`.  The data ring has no buffer before data mode is
entered for the first time. -/
def init (pipe : Option PipeId) : Ctx where
  pipe := pipe
  data :=
    { atMode := .atCommandMode
      handler := .none
      handlerResult := 0
      timeLimit := 0
      dataLen := 0
      dataRb := RingBuffer.init 0
      quitStrMatch := 0
      nullDroppedCount := 0
      nullMatchCount := 0 }
  command :=
    { atBuf := []
      atBufSize := atBufMinSize
      insideQuotes := false
      atCmdLen := 0
      echoLen := 0
      prevCharacter := 0
      echoEnabled := false }
  executingLock := 0
  bufferedUrcs := []
  dataInactivityTimer := false
  idleTimer := false

end Ctx

/-- `enum sm_event`, what the AT host posts to itself. -/
inductive SmEvent where
  | urc
  | atMode
  deriving DecidableEq

/-- `enum sm_pipe_event`. -/
inductive PipeEvent where
  | opened
  | closed
  deriving DecidableEq

/-- `struct sm_at_host_msg`; `none` stands for a null pointer and for the
events `SM_PIPE_EVENT_NONE` and `SM_EVENT_NONE`. -/
structure Message where
  ctx : Option CtxId
  pipe : Option PipeId := .none
  pipeEvent : Option PipeEvent := .none
  smEvent : Option SmEvent := .none
  deriving DecidableEq

/-- What happens to `sm_at_host_msgq`. -/
inductive MsgqEvent where
  | posted (message : Message)
  | purged
  | taken (message : Message)
  deriving DecidableEq

/-- The work items that the AT host submits to `sm_work_q`. -/
inductive Work where
  /-- `rx_work`. -/
  | rx (ctx : CtxId)
  /-- `raw_send_scheduled_work`.  The count is the number of bytes that the
  context had received when the expiry of its timer queued the item; no code
  reads it. -/
  | rawSendScheduled (ctx : CtxId) (receivedAtExpiry : Nat)
  /-- `sm_at_host_work`. -/
  | atHost
  /-- `poll_ctx.poll_work`. -/
  | poll (ctx : CtxId)
  deriving DecidableEq

inductive Running where
  | idle
  /-- `at_pipe_rx_work_fn` inside its loop, with its local `pipe`. -/
  | rx (ctx : CtxId) (pipe : PipeId)
  | rawSendScheduled (ctx : CtxId) (receivedAtExpiry : Nat)
  deriving DecidableEq

/-- The state of `sm_at_host.c`, with the pipes and the work queue it runs on. -/
structure Host where
  ctx : CtxId → Ctx
  instanceList : List CtxId
  currentCtx : Option CtxId
  /-- `sm_cmux_is_started()`. -/
  cmuxStarted : Bool
  /-- `sm_cmux_get_dlci`. -/
  cmuxDlci : Nat → Option PipeId
  urcChannel : Nat
  urcBuf : List Byte
  msgq : List Message
  /-- What has happened to the message queue; no code reads it. -/
  msgqLog : List MsgqEvent
  uartBaudrate : UInt32
  bootloaderMode : Bool
  pipeRx : PipeId → List Byte
  /-- `sm_pipe_is_open`. -/
  pipeOpen : PipeId → Bool
  workQueue : List Work
  running : Running
  history : History

namespace Host

def setCtx (host : Host) (c : CtxId) (ctx : Ctx) : Host :=
  { host with ctx := Function.update host.ctx c ctx }

def setData (host : Host) (c : CtxId) (data : DataState) : Host :=
  host.setCtx c { host.ctx c with data := data }

def setCommand (host : Host) (c : CtxId) (command : CommandState) : Host :=
  host.setCtx c { host.ctx c with command := command }

def record (host : Host) (event : Event) : Host :=
  { host with history := host.history ++ [event] }

/-- `sm_at_host_set_current_ctx`. -/
def setCurrentCtx (host : Host) (current : Option CtxId) : Host :=
  { host with currentCtx := current }

def data (host : Host) (c : CtxId) : DataState :=
  (host.ctx c).data

def command (host : Host) (c : CtxId) : CommandState :=
  (host.ctx c).command

end Host

end SerialModem.AtHost
