import SerialModem.AtHost.System
import SerialModem.Library.IntrusiveList

/-!
# Pipes, contexts and idle work

`System` runs the AT host on a fixed set of contexts.  Here contexts come and
go with their pipes.  A pipe and its context know each other twice: the context
stores the pipe, and the pipe stores a callback with the context as its user
data.  Pipe events arrive in interrupts, which may only move a pipe in or out
of a context; whatever needs more is posted to `sm_at_host_work_fn`.

That function is cut into its iterations, and an iteration that runs idle work
is cut into the items it runs, because an item calls back into the AT host and
interrupts arrive between two items.
-/

namespace SerialModem.AtHost

open Library Function

variable (cfg : Config) (env : Environment)

inductive PipeCallback where
  | none
  | nullPipeHandler
  | atPipeEventHandler (ctx : CtxId)
  /-- A handler of CMUX, PPP or the trace backend. -/
  | other
  deriving DecidableEq

/-- The work items that are handed to `sm_at_host_queue_idle_work`. -/
inductive IdleItem where
  /-- `poll_ctx.idle_work`, a member of its context. -/
  | pollIdle (ctx : CtxId)
  | sendCb
  deriving DecidableEq

def IdleItem.exists (host : Host) : IdleItem → Bool
  | .pollIdle c => smAtCtxCheck c host
  | .sendCb => true

/-- Where `sm_at_host_work_fn` is. -/
inductive WorkLoop where
  | none
  /-- In front of `k_msgq_get`. -/
  | messages
  | idleWork (ctx : CtxId)
  deriving DecidableEq

inductive IdleEvent where
  | accepted (ctx : CtxId) (item : IdleItem)
  | ran (ctx : CtxId) (item : IdleItem)
  deriving DecidableEq

/-- The AT host with the callbacks of its pipes, its idle items and its message loop. -/
structure Machine where
  host : Host
  callback : PipeId → PipeCallback
  /-- Whether the pipe was closed since its callback was attached; no code
  reads it. -/
  closedSince : PipeId → Bool
  /-- The `idle_work_list` of each context. -/
  idle : LinkedLists CtxId IdleItem
  idleLog : List IdleEvent
  loop : WorkLoop
  /-- The length of the history when the context was allocated; no code reads
  it. -/
  createdAt : CtxId → Nat

/-- The marker `(void *)0xdeadbeef`; no pipe has this address. -/
def deadbeef : PipeId := 0xdeadbeef

def Host.storePipe (host : Host) (c : CtxId) (pipe : Option PipeId) : Host :=
  host.setCtx c { host.ctx c with pipe := pipe }

def Message.ofPipe (ctx : Option CtxId) (pipe : PipeId) (event : PipeEvent) :
    Message :=
  { ctx := ctx, pipe := some pipe, pipeEvent := some event }

def smAtPipeOpened (ctx : Option CtxId) (pipe : PipeId) (host : Host) : Host :=
  match ctx with
  | none => sendMsg (.ofPipe none pipe .opened) host
  | some c =>
    if (host.ctx c).pipe = none then
      host.storePipe c (some pipe)
    else if (host.ctx c).pipe = some pipe then
      host
    else
      sendMsg (.ofPipe (some c) pipe .opened) host

def smAtPipeClosed (c : CtxId) (pipe : PipeId) (host : Host) : Host :=
  if (host.ctx c).pipe = some pipe then
    sendMsg (.ofPipe (some c) pipe .closed) (host.storePipe c none)
  else
    host

/-- `at_pipe_event_handler` and `null_pipe_handler` for
`MODEM_PIPE_EVENT_OPENED`. -/
def pipeOpenedEvent (callback : PipeCallback) (pipe : PipeId) (host : Host) :
    Host :=
  match callback with
  | .atPipeEventHandler c =>
    if smAtCtxCheck c host then
      smAtPipeOpened (some c) pipe host
    else
      host
  | .nullPipeHandler => smAtPipeOpened none pipe host
  | _ => host

/-- `at_pipe_event_handler` for `MODEM_PIPE_EVENT_CLOSED`. -/
def pipeClosedEvent (callback : PipeCallback) (pipe : PipeId) (host : Host) :
    Host :=
  match callback with
  | .atPipeEventHandler c =>
    if smAtCtxCheck c host then smAtPipeClosed c pipe host else host
  | _ => host

/-- `at_pipe_event_handler` for `MODEM_PIPE_EVENT_RECEIVE_READY`. -/
def pipeReceiveEvent (callback : PipeCallback) (pipe : PipeId) (host : Host) :
    Host :=
  match callback with
  | .atPipeEventHandler c =>
    if smAtCtxCheck c host ∧ (host.ctx c).pipe = some pipe then
      submitWork (.rx c) host
    else
      host
  | _ => host

namespace Machine

def setHost (machine : Machine) (host : Host) : Machine :=
  { machine with host := host }

def modemPipeAttach (pipe : PipeId) (callback : PipeCallback) (machine : Machine) : Machine :=
  { machine with
    callback := update machine.callback pipe callback
    closedSince := update machine.closedSince pipe false }

end Machine

/-- Whether an item is the `rx_work` or `raw_send_scheduled_work` of `c`. -/
def Work.cancelledWith (c : CtxId) : Work → Bool
  | .rx d => d == c
  | .rawSendScheduled d _ => d == c
  | _ => false

/-- The part of `sm_at_host_destroy` that frees a context. -/
def freeCtx (c : CtxId) (host : Host) : Host :=
  { host.setCtx c
      { host.ctx c with
        idleTimer := false
        dataInactivityTimer := false
        bufferedUrcs := [] } with
    workQueue := host.workQueue.filter fun work => !work.cancelledWith c
    instanceList := host.instanceList.erase c }

/-- `sm_at_host_destroy`.  The last context is kept and only loses its pipe. -/
def smAtHostDestroy (c : CtxId) (host : Host) : Host :=
  if smAtCtxCheck c host = false then
    host
  else if host.currentCtx = some c then
    host
  else if host.instanceList.length = 1 then
    host.storePipe c none
  else
    freeCtx c host

/-- The reuse path of `sm_at_host_create`. -/
def reuseCtx (c : CtxId) (pipe : PipeId) (host : Host) : Host :=
  let reused := host.setCtx c { host.ctx c with pipe := some pipe, executingLock := 0 }
  if host.urcBuf ≠ [] then smAtHostEventNotify c .urc reused else reused

/-- The allocation path of `sm_at_host_create`, with `sm_at_host_ctx_init`.
The memory is cleared as a whole, the links of its idle items included. -/
def allocateCtx (c : CtxId) (pipe : PipeId) (machine : Machine) : Machine :=
  { machine with
    host := { machine.host.setCtx c (Ctx.init (some pipe)) with
      instanceList := machine.host.instanceList ++ [c] }
    idle := (machine.idle.initList c).initNode (.pollIdle c)
    createdAt := update machine.createdAt c
      machine.host.history.length }

/-- The context that `sm_at_host_create` takes over: the URC context, when it
has no pipe. -/
def reusableCtx (host : Host) : Option CtxId :=
  (smAtHostGetUrcCtx cfg host).filter fun c => (host.ctx c).pipe.isNone

/-- `sm_at_host_create`; `allocated` is what `malloc` returns. -/
def smAtHostCreate (allocated : Option CtxId) (pipe : PipeId) (machine : Machine) : Machine :=
  match reusableCtx cfg machine.host, allocated with
  | some c, _ =>
    (machine.setHost (reuseCtx c pipe machine.host)).modemPipeAttach pipe (.atPipeEventHandler c)
  | none, some c =>
    (allocateCtx c pipe machine).modemPipeAttach pipe (.atPipeEventHandler c)
  | none, none => machine

/-- The contexts in `sm_at_host_set_pipe`.  The other owner of the pipe is
looked up after the pipe was stored. -/
def takeOverPipe (c : CtxId) (pipe : PipeId) (host : Host) : Host :=
  let stored := host.storePipe c (some pipe)
  match smAtHostGetCtxFrom (some pipe) stored with
  | some oldCtx =>
    if oldCtx = c then
      stored
    else
      smAtHostDestroy oldCtx (stored.storePipe oldCtx (some deadbeef))
  | none => stored

def releaseOldPipe (oldPipe : Option PipeId) (machine : Machine) : Machine :=
  match oldPipe with
  | some pipe => machine.modemPipeAttach pipe .nullPipeHandler
  | none => machine

def smAtHostSetPipe (c : CtxId) (pipe : PipeId) (machine : Machine) :
    Machine :=
  if smAtCtxCheck c machine.host then
    ((releaseOldPipe (machine.host.ctx c).pipe machine).setHost
      (takeOverPipe c pipe machine.host)).modemPipeAttach pipe (.atPipeEventHandler c)
  else
    machine

/-- `sm_at_host_release`; every caller looks the context up by its pipe. -/
def smAtHostRelease (c : CtxId) (machine : Machine) : Machine :=
  match (machine.host.ctx c).pipe with
  | none => machine
  | some pipe =>
    let released := machine.modemPipeAttach pipe .none
    released.setHost (smAtPipeClosed c pipe released.host)

def smAtHostAttach (pipe : PipeId) (machine : Machine) : Machine :=
  let attached := machine.modemPipeAttach pipe .nullPipeHandler
  if machine.host.pipeOpen pipe then
    attached.setHost (smAtPipeOpened none pipe attached.host)
  else
    attached

def liveCtx (message : Message) (host : Host) : Option CtxId :=
  message.ctx.filter fun c => smAtCtxCheck c host

/-- The first `switch` in the loop of `sm_at_host_work_fn`. -/
def handlePipeEvent (allocated : Option CtxId) (message : Message) (machine : Machine) : Machine :=
  match message.pipeEvent, message.pipe, liveCtx message machine.host with
  | some .opened, some pipe, some c =>
    -- Another pipe and the same pipe are both left alone.
    if (machine.host.ctx c).pipe = none then
      (machine.setHost (machine.host.storePipe c (some pipe))).modemPipeAttach
        pipe (.atPipeEventHandler c)
    else
      machine
  | some .opened, some pipe, none => smAtHostCreate cfg allocated pipe machine
  | some .closed, some pipe, some c =>
    -- A context that has got a pipe since then ignores the event.
    if (machine.host.ctx c).pipe = none then
      let detached :=
        if machine.callback pipe = .atPipeEventHandler c then
          machine.modemPipeAttach pipe .nullPipeHandler
        else
          machine
      detached.setHost (smAtHostDestroy c (detached.host.storePipe c (some deadbeef)))
    else
      machine
  | some .closed, some pipe, none =>
    match machine.callback pipe with
    | .atPipeEventHandler _ => machine.modemPipeAttach pipe .nullPipeHandler
    | _ => machine
  | _, _, _ => machine

def enterIdleWork (c : CtxId) (machine : Machine) : Machine :=
  { machine with
    host := flushPipeUrcs cfg c (machine.host.setCurrentCtx (some c))
    loop := .idleWork c }

/-- The second `switch` in the loop of `sm_at_host_work_fn`. -/
def handleSmEvent (ctx : Option CtxId) (message : Message) (machine : Machine) : Machine :=
  match ctx, message.smEvent with
  | some c, some _ =>
    if isIdleCtx c machine.host then
      enterIdleWork cfg c machine
    else
      machine.setHost (checkIdleTimer c false machine.host)
  | _, _ => machine

/-- `k_msgq_get`, once there is a message. -/
def popMessage (message : Message) (rest : List Message) (host : Host) :
    Host :=
  { host with
    msgq := rest
    msgqLog := host.msgqLog ++ [.taken message] }

/-- One iteration of `sm_at_host_work_fn`, up to the loop of `idle_work`. -/
def takeMessage (allocated : Option CtxId) (message : Message)
    (rest : List Message) (machine : Machine) : Machine :=
  let popped := machine.setHost (popMessage message rest machine.host)
  handleSmEvent cfg (liveCtx message machine.host) message
    (handlePipeEvent cfg allocated message popped)

/-- One iteration of the loop of `idle_work`.  What the item does follows as
actions of its own. -/
def idleWorkStep (c : CtxId) (machine : Machine) : Machine :=
  match machine.idle.get c with
  | none =>
    { machine with
      host := machine.host.setCurrentCtx none
      loop := .messages }
  | some (item, idle) =>
    { machine with
      idle := idle
      idleLog := machine.idleLog ++ [.ran c item] }

def linkIdleItem (c : CtxId) (item : IdleItem) (machine : Machine) : Machine :=
  { machine with
    idle := machine.idle.append c item
    idleLog := machine.idleLog ++ [.accepted c item] }

/-- The end of `sm_at_host_queue_idle_work`. -/
def notifyIfIdle (c : CtxId) (host : Host) : Host :=
  if isIdleCtx c host then smAtHostEventNotify c .urc host else host

/-- `sm_at_host_queue_idle_work`; `none` when the search does not end.  The
idle items are never submitted to a work queue, so none of them is pending. -/
def smAtHostQueueIdleWork (pipe : Option PipeId) (item : IdleItem)
    (machine : Machine) : Option Machine :=
  match smAtHostGetCtxFrom pipe machine.host with
  | none => some machine
  | some c =>
    (machine.idle.find machine.idleLog.length c item).map fun found =>
      let queued := if found then machine else linkIdleItem c item machine
      queued.setHost (notifyIfIdle c machine.host)

/-- What the threads around the AT host do. -/
inductive MachineAction where
  /-- An action of `System`. -/
  | host (action : Action)
  | pipeReceive (pipe : PipeId) (content : List Byte)
  | pipeOpened (pipe : PipeId)
  | pipeClosed (pipe : PipeId)
  /-- `sm_at_host_set_pipe`, by `cmux_start`, `do_at_and_ppp_channel_switch`
  and `stop_work_fn`, all on the current context. -/
  | setPipe (pipe : PipeId)
  | release (pipe : PipeId)
  | attach (pipe : PipeId)
  /-- CMUX, PPP or the trace backend attaches its own handler. -/
  | attachOther (pipe : PipeId)
  /-- `cmux.uart_pipe` is set or cleared. -/
  | setCmux (started : Bool)
  /-- The set command of `handle_at_xcmuxurc`. -/
  | xcmuxurc (channel : Nat)
  | takeMessage (allocated : Option CtxId)
  /-- The loop of `sm_at_host_work_fn` finds no message. -/
  | endMessages
  /-- One iteration of the loop of `idle_work`. -/
  | idleItem
  | queueIdleWork (pipe : Option PipeId) (item : IdleItem)
  | pollCb (pipe : Option PipeId)
  deriving DecidableEq

/-- Whether an action of `System` can happen at this place of
`sm_at_host_work_fn`. -/
def WorkLoop.admits : WorkLoop → Action → Bool
  | .none, .pipeReceive _ _ => false
  | .none, _ => true
  | _, .inactivityExpiry _ => true
  | _, .idleExpiry _ => true
  | .idleWork _, .exitDatamodeHandler _ _ => true
  | .idleWork _, .call _ => true
  | .messages, .call hostCall => hostCall.fromAnyThread
  | _, _ => false

/-- The work queue takes its next item.  `sm_at_host_work_fn` is entered in
front of its loop. -/
def dispatchWork (machine : Machine) : Option Machine :=
  match machine.host.running, machine.host.workQueue with
  | .idle, .atHost :: rest =>
    some { machine with
      host := { machine.host with workQueue := rest }
      loop := .messages }
  | _, _ => (step cfg env .dispatch machine.host).map machine.setHost

/-- One action; `none` when it is not enabled or the firmware does not
return. -/
def machineStep (action : MachineAction) (machine : Machine) : Option Machine :=
  match action with
  | .host action =>
    if machine.loop.admits action then
      if action = .dispatch then
        dispatchWork cfg env machine
      else
        (step cfg env action machine.host).map machine.setHost
    else
      none
  | .pipeReceive pipe content =>
    some (machine.setHost (pipeReceiveEvent (machine.callback pipe) pipe
      (setPipeRx pipe (machine.host.pipeRx pipe ++ content) machine.host)))
  | .pipeOpened pipe =>
    if pipe = deadbeef then
      none
    else
      some (machine.setHost (pipeOpenedEvent (machine.callback pipe) pipe
        { machine.host with
          pipeOpen := update machine.host.pipeOpen pipe true }))
  | .pipeClosed pipe =>
    if pipe = deadbeef then
      none
    else
      some { machine with
        host := pipeClosedEvent (machine.callback pipe) pipe
          { machine.host with
            pipeOpen := update machine.host.pipeOpen pipe false }
        closedSince := update machine.closedSince pipe true }
  | .setPipe pipe =>
    match machine.loop, smAtHostGetCurrent cfg machine.host with
    | .none, some c =>
      if pipe = deadbeef then
        none
      else
        let switched := smAtHostSetPipe c pipe machine
        -- A batch of the old pipe ends.
        some (switched.setHost (match switched.host.running with
          | .rx d old => continueRxWork d old switched.host
          | _ => switched.host))
    | _, _ => none
  | .release pipe =>
    match smAtHostGetCtxFrom (some pipe) machine.host with
    | some c => some (smAtHostRelease c machine)
    | none => some machine
  | .attach pipe =>
    if pipe = deadbeef then none else some (smAtHostAttach pipe machine)
  | .attachOther pipe => some (machine.modemPipeAttach pipe .other)
  | .setCmux started =>
    some (machine.setHost { machine.host with cmuxStarted := started })
  | .xcmuxurc channel =>
    if channel ≤ cfg.cmuxChannelCount then
      let set := { machine.host with urcChannel := channel }
      some (machine.setHost (match smAtHostGetUrcCtx cfg set with
        | some c => checkIdleTimer c false set
        | none => set))
    else
      none
  | .takeMessage allocated =>
    match machine.loop, machine.host.msgq with
    | .messages, message :: rest =>
      if allocated.all fun c => !smAtCtxCheck c machine.host then
        some (takeMessage cfg allocated message rest machine)
      else
        none
    | _, _ => none
  | .endMessages =>
    match machine.loop, machine.host.msgq with
    | .messages, [] => some { machine with loop := .none }
    | _, _ => none
  | .idleItem =>
    match machine.loop with
    | .idleWork c => some (idleWorkStep c machine)
    | _ => none
  | .queueIdleWork pipe item =>
    if item.exists machine.host then
      smAtHostQueueIdleWork pipe item machine
    else
      none
  | .pollCb pipe =>
    match smAtHostGetCtxFrom pipe machine.host with
    | some c => some (machine.setHost (submitWork (.poll c) machine.host))
    | none => some machine

/-- The state that `sm_at_host_init` leaves: one context, attached to its pipe,
and nothing posted or queued. -/
structure Booted (machine : Machine) : Prop where
  host : Initial machine.host
  first : ∃ c pipe, machine.host.instanceList = [c] ∧
    (machine.host.ctx c).pipe = some pipe ∧ pipe ≠ deadbeef ∧
    machine.callback pipe = .atPipeEventHandler c ∧
    ∀ other d, machine.callback other = .atPipeEventHandler d → other = pipe
  urcBuf : machine.host.urcBuf = []
  msgq : machine.host.msgq = []
  msgqLog : machine.host.msgqLog = []
  idle : machine.idle = LinkedLists.empty
  idleLog : machine.idleLog = []
  loop : machine.loop = .none
  createdAt : machine.createdAt = fun _ => 0

abbrev MachineReachableIf (allowed : Machine → MachineAction → Prop) : Machine → Prop :=
  Reachable (machineStep cfg env) allowed Booted

end SerialModem.AtHost
