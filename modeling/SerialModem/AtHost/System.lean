import SerialModem.AtHost.Command
import SerialModem.Library.TransitionSystem

/-!
# The AT host on its work queue

Everything of the AT host runs on one work queue, one item after the other;
pipes and timers only queue items.  An execution is a sequence of the actions
below.  The receive item is cut into its bytes, because pipes, timers and
other threads act between two bytes of one batch.
-/

namespace SerialModem.AtHost

open Library

variable (cfg : Config) (env : Environment)

/-- `get_sm_mode`; `none` stands for `SM_INVALID_MODE`. -/
def getSmMode (c : CtxId) (host : Host) : Option OperationMode :=
  if smAtCtxCheck c host then some (host.data c).atMode else none

/-- `k_timer_stop` and `k_timer_start` on `data_inactivity_timer`. -/
def setInactivityTimer (c : CtxId) (active : Bool) (host : Host) : Host :=
  host.setCtx c { host.ctx c with dataInactivityTimer := active }

/-- The end of `sm_at_receive`: data mode waits for the next byte. -/
def startInactivityTimer (c : CtxId) (host : Host) : Host :=
  if getSmMode c host = some .dataMode then
    setInactivityTimer c true host
  else
    host

/-- The start of `sm_at_receive`. -/
def takeByte (c : CtxId) (byte : Byte) (host : Host) : Host :=
  (setInactivityTimer c false host).record (.received c byte)

/-- The `switch` of `sm_at_receive`. -/
def handleByte (c : CtxId) (byte : Byte) (host : Host) : Option Host :=
  match getSmMode c host with
  | some .atCommandMode => cmdRxHandler cfg env c byte host
  | some .dataMode => rawRxHandler cfg env c byte host
  | some .nullMode => some (nullHandler cfg env c byte host)
  | none => some host

def smAtReceive (c : CtxId) (byte : Byte) (host : Host) : Option Host :=
  (handleByte cfg env c byte (takeByte c byte host)).map (startInactivityTimer c)

/-- The bytes that `c` was given. -/
def receivedBytes (c : CtxId) (history : History) : List Byte :=
  history.filterMap fun event =>
    match event with
    | .received d byte => if d = c then some byte else none
    | _ => none

/-- Whether `raw_send_scheduled_work` of `c` is queued. -/
def rawSendQueued (c : CtxId) (queue : List Work) : Bool :=
  queue.any fun work =>
    match work with
    | .rawSendScheduled d _ => d == c
    | _ => false

def inactivityTimerHandler (c : CtxId) (host : Host) : Host :=
  if (host.data c).dataRb.isEmpty || rawSendQueued c host.workQueue then
    host
  else
    submitWork (.rawSendScheduled c (receivedBytes c host.history).length) host

/-- `idle_work`, as far as it concerns the AT host itself. -/
def idleWork (c : CtxId) (host : Host) : Host :=
  (flushPipeUrcs cfg c (host.setCurrentCtx (some c))).setCurrentCtx none

/-- The second `switch` in the loop of `sm_at_host_work_fn`, for a message that
the AT host posted to itself. -/
def handleMessage (message : Message) (host : Host) : Host :=
  match message.ctx, message.smEvent with
  | some c, some _ =>
    if smAtCtxCheck c host then
      if isIdleCtx c host then
        idleWork cfg c host
      else
        checkIdleTimer c false host
    else
      host
  | _, _ => host

/-- `sm_at_host_work_fn`, as long as no pipe event is posted. -/
def smAtHostWorkFn (host : Host) : Host :=
  host.msgq.foldl (fun current message => handleMessage cfg message current)
    { host with
      msgq := []
      msgqLog := host.msgqLog ++ host.msgq.map .taken }

inductive Action where
  /-- Bytes arrive on the pipe of a context: `MODEM_PIPE_EVENT_RECEIVE_READY`
  in `at_pipe_event_handler`. -/
  | pipeReceive (ctx : CtxId) (content : List Byte)
  | inactivityExpiry (ctx : CtxId)
  | idleExpiry (ctx : CtxId)
  /-- The work queue takes its next item and enters it. -/
  | dispatch
  /-- One iteration of `at_pipe_rx_work_fn` that receives a byte. -/
  | receiveByte
  /-- The loop of `at_pipe_rx_work_fn` ends without a byte. -/
  | receiveEnd
  /-- The body of `raw_send_scheduled`. -/
  | flush
  /-- A work item outside the AT host, such as the socket poll work, calls
  `exit_datamode_handler`. -/
  | exitDatamodeHandler (ctx : CtxId) (result : Int)
  | call (hostCall : HostCall)
  deriving DecidableEq

def setPipeRx (pipe : PipeId) (content : List Byte) (host : Host) : Host :=
  { host with pipeRx := Function.update host.pipeRx pipe content }

/-- The entry of `at_pipe_rx_work_fn`, up to its loop. -/
def enterRxWork (c : CtxId) (host : Host) : Host :=
  if smAtCtxCheck c host then
    match (host.ctx c).pipe with
    | none => host
    | some pipe =>
      if (host.ctx c).executingLock > 0 then
        host
      else
        { host.setCurrentCtx (some c) with running := .rx c pipe }
  else
    host

def enterWork (work : Work) (host : Host) : Host :=
  match work with
  | .rx c => enterRxWork c host
  | .rawSendScheduled c mark =>
    { host with running := .rawSendScheduled c mark }
  | .atHost => smAtHostWorkFn cfg host
  -- The calls of the poll work are actions of their own.
  | .poll _ => host

/-- The end of `at_pipe_rx_work_fn`. -/
def leaveRxWork (host : Host) : Host :=
  { host.setCurrentCtx none with running := .idle }

/-- The loop condition of `at_pipe_rx_work_fn` after a byte: the batch ends
when the context has moved to another pipe. -/
def continueRxWork (c : CtxId) (pipe : PipeId) (host : Host) : Host :=
  if (host.ctx c).pipe = some pipe then host else leaveRxWork host

def HostCall.fromAnyThread : HostCall → Bool
  | .urcSend _ => true
  | .urcSendTo _ _ => true
  | .rspSendTo _ _ => true
  | .dataSend _ _ => true
  | .cmdDone _ => true
  | .rspSend _ => false
  | .lockCtx _ => false

/-- One action; `none` when it is not enabled or the firmware does not
return. -/
def step (action : Action) (host : Host) : Option Host :=
  match action, host.running with
  | .pipeReceive c content, _ =>
    if smAtCtxCheck c host then
      match (host.ctx c).pipe with
      | none => none
      | some pipe =>
        some (submitWork (.rx c) (setPipeRx pipe (host.pipeRx pipe ++ content) host))
    else
      none
  | .inactivityExpiry c, _ =>
    if (host.ctx c).dataInactivityTimer then
      some (inactivityTimerHandler c (setInactivityTimer c false host))
    else
      none
  | .idleExpiry c, _ =>
    if (host.ctx c).idleTimer then
      some (smAtHostEventNotify c .urc (host.setCtx c { host.ctx c with idleTimer := false }))
    else
      none
  | .dispatch, .idle =>
    match host.workQueue with
    | [] => none
    | work :: rest =>
      some (enterWork cfg work { host with workQueue := rest })
  | .receiveByte, .rx c pipe =>
    match host.pipeRx pipe with
    | [] => none
    | byte :: rest =>
      (smAtReceive cfg env c byte (setPipeRx pipe rest host)).map (continueRxWork c pipe)
  | .receiveEnd, .rx _ _ => some (leaveRxWork host)
  | .flush, .rawSendScheduled c _ =>
    (rawSendScheduled cfg env c host).map fun flushed =>
      { flushed with running := .idle }
  | .exitDatamodeHandler c result, .idle =>
    some (exitDatamodeHandler cfg env c result host)
  | .call hostCall, running =>
    if running = .idle ∨ hostCall.fromAnyThread then
      some (performCall cfg hostCall host)
    else
      none
  | _, _ => none

/-- The host right after start: every context is as `sm_at_host_ctx_init`
leaves it and nothing is queued or running.  Identifiers outside
`instance_list` stand for no context and stay in that state. -/
structure Initial (host : Host) : Prop where
  ctx : ∀ c, ∃ pipe, host.ctx c = Ctx.init pipe
  current : host.currentCtx = none
  workQueue : host.workQueue = []
  running : host.running = .idle
  history : host.history = []

abbrev ReachableIf (allowed : Host → Action → Prop) : Host → Prop :=
  Reachable (step cfg env) allowed Initial

abbrev ReachableState : Host → Prop :=
  ReachableIf cfg env fun _ _ => True

end SerialModem.AtHost
