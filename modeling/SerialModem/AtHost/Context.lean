import SerialModem.AtHost.State

/-!
# Contexts, responses and URCs

The functions of `sm_at_host.c` that find the context to act on and that write
to its pipe.  `sm_at_host_get_current` answers the context that an entry point
has set and falls back to the URC context, so every caller acts on some
context even when none is being served.
-/

namespace SerialModem.AtHost

open Library

variable (cfg : Config)

def smAtCtxCheck (c : CtxId) (host : Host) : Bool :=
  host.instanceList.contains c

def smAtHostGetCtxFrom (pipe : Option PipeId) (host : Host) : Option CtxId :=
  match pipe with
  | none => none
  | some p => host.instanceList.find? fun c => (host.ctx c).pipe == some p

/-- `in_at_mode_ctx`. -/
def inAtModeCtx (c : CtxId) (host : Host) : Bool :=
  smAtCtxCheck c host && (host.data c).atMode == .atCommandMode

/-- The first CMUX channel from `first` on whose context is in AT-command
mode; the loop of `sm_at_host_get_urc_ctx`. -/
def firstAtModeChannel (host : Host) : Nat → Nat → Option CtxId
  | _, 0 => none
  | first, count + 1 =>
    match smAtHostGetCtxFrom (host.cmuxDlci first) host with
    | some c =>
      if inAtModeCtx c host then
        some c
      else
        firstAtModeChannel host (first + 1) count
    | none => firstAtModeChannel host (first + 1) count

def smAtHostGetUrcCtx (host : Host) : Option CtxId :=
  if host.cmuxStarted then
    if host.urcChannel = 0 then
      (firstAtModeChannel host 1 cfg.cmuxChannelCount).orElse fun _ => host.instanceList.head?
    else
      smAtHostGetCtxFrom (host.cmuxDlci host.urcChannel) host
  else
    host.instanceList.head?

/-- Without a current context it is that of the URCs. -/
def smAtHostGetCurrent (host : Host) : Option CtxId :=
  host.currentCtx.orElse fun _ => smAtHostGetUrcCtx cfg host

/-- `is_idle`. -/
def isIdleCtx (c : CtxId) (host : Host) : Bool :=
  smAtCtxCheck c host && inAtModeCtx c host &&
    (host.ctx c).executingLock == 0 && !(host.ctx c).idleTimer

/-- `k_work_submit_to_queue`: an item that is already queued stays where it
is. -/
def submitWork (work : Work) (host : Host) : Host :=
  if work ∈ host.workQueue then
    host
  else
    { host with workQueue := host.workQueue ++ [work] }

/-- The capacity of `sm_at_host_msgq`. -/
def msgqCapacity : Nat := 10

def sendMsg (message : Message) (host : Host) : Host :=
  let full := msgqCapacity ≤ host.msgq.length
  submitWork .atHost
    { host with
      msgq := (if full then [] else host.msgq) ++ [message]
      msgqLog := host.msgqLog ++
        (if full then [.purged] else []) ++ [.posted message] }

/-- The message of `sm_at_host_event_notify`. -/
def Message.event (c : CtxId) (smEvent : SmEvent) : Message :=
  { ctx := some c, smEvent := some smEvent }

def smAtHostEventNotify (c : CtxId) (smEvent : SmEvent) (host : Host) : Host :=
  sendMsg (Message.event c smEvent) host

/-- `check_idle_timer`; only whether the timer runs is kept, not its delay. -/
def checkIdleTimer (c : CtxId) (reschedule : Bool) (host : Host) : Host :=
  if reschedule || !(host.ctx c).idleTimer then
    host.setCtx c { host.ctx c with idleTimer := true }
  else
    host

/-- `send_urcs`: the buffered URCs go out on the URC context only. -/
def sendUrcs (c : CtxId) (host : Host) : Host :=
  if smAtHostGetUrcCtx cfg host = some c ∧ host.urcBuf ≠ [] then
    { host with urcBuf := [] }.record (.urcSent c host.urcBuf)
  else
    host

def flushPipeUrcs (c : CtxId) (host : Host) : Host :=
  let flushed := sendUrcs cfg c host
  let pending := (flushed.ctx c).bufferedUrcs
  pending.foldl (fun current content => current.record (.urcSent c content))
    (flushed.setCtx c { flushed.ctx c with bufferedUrcs := [] })

def flushIfIdle (c : CtxId) (host : Host) : Host :=
  if isIdleCtx c host then flushPipeUrcs cfg c host else host

def smAtMaxRspLen : Nat := 2100

/-- `rsp_send_internal` cuts a formatted text to its buffer. -/
def rspBuf (content : List Byte) : List Byte :=
  content.take (smAtMaxRspLen - 1)

def Response.truncated : Response → Response
  | .text content => .text (rspBuf content)
  | response => response

def rspSend (response : Response) (host : Host) : Host :=
  match smAtHostGetCurrent cfg host with
  | some c =>
    if smAtCtxCheck c host then
      (flushIfIdle cfg c host).record (.rspSend c response.truncated)
    else
      host
  | none => host

/-- The end of `sm_at_send_internal` for a URC: either the context is idle and
is told at once, or its idle timer will bring the URC out. -/
def notifyUrc (c : CtxId) (host : Host) : Host :=
  if isIdleCtx c host then
    smAtHostEventNotify c .urc host
  else
    checkIdleTimer c false host

/-- `urc_send`.  A URC that does not fit drops the buffered ones as well. -/
def urcSend (content : List Byte) (host : Host) : Host :=
  match smAtHostGetUrcCtx cfg host with
  | none => { host with urcBuf := [] }
  | some c =>
    if (rspBuf content).length ≤ cfg.urcBufferSize - host.urcBuf.length then
      notifyUrc c { host with urcBuf := host.urcBuf ++ rspBuf content }
    else
      { host with urcBuf := [] }

/-- `urc_send_to`.  A pipe without a context gets the URC sent as if it had
no addressee. -/
def urcSendTo (pipe : Option PipeId) (content : List Byte) (host : Host) :
    Host :=
  match smAtHostGetCtxFrom pipe host with
  | none => urcSend cfg content host
  | some c =>
    notifyUrc c <| host.setCtx c
      { host.ctx c with
        bufferedUrcs := (host.ctx c).bufferedUrcs ++ [rspBuf content] }

def sendTo (pipe : Option PipeId) (event : CtxId → Event) (host : Host) :
    Host :=
  match smAtHostGetCtxFrom pipe host with
  | none => host
  | some c => (flushIfIdle cfg c host).record (event c)

def rspSendTo (pipe : Option PipeId) (response : Response) (host : Host) :
    Host :=
  sendTo cfg pipe (fun c => .rspSendTo c response.truncated) host

def dataSend (pipe : Option PipeId) (content : List Byte) (host : Host) :
    Host :=
  sendTo cfg pipe (fun c => .dataSend c content) host

/-- `atomic_inc` and `atomic_dec` on `executing_lock`. -/
def addExecutingLock (c : CtxId) (amount : Int) (host : Host) : Host :=
  (host.setCtx c
    { host.ctx c with
      executingLock := (host.ctx c).executingLock + amount }).record
    (if 0 < amount then .locked c else .unlocked c)

def smAtHostLockCtx (c : CtxId) (host : Host) : Host :=
  if smAtCtxCheck c host then
    addExecutingLock c 1 (flushIfIdle cfg c host)
  else
    host

def isOpenCtx (c : CtxId) (host : Host) : Bool :=
  smAtCtxCheck c host && (host.ctx c).pipe.any host.pipeOpen

def smAtHostCmdDone (c : CtxId) (host : Host) : Host :=
  if smAtCtxCheck c host then
    let released := addExecutingLock c (-1) host
    if (host.ctx c).executingLock = 1 ∧ isOpenCtx c released then
      submitWork (.rx c) (smAtHostEventNotify c .urc released)
    else
      released
  else
    host

def performCall (call : HostCall) (host : Host) : Host :=
  match call with
  | .rspSend response => rspSend cfg response host
  | .urcSend content => urcSend cfg content host
  | .urcSendTo pipe content => urcSendTo cfg pipe content host
  | .rspSendTo pipe response => rspSendTo cfg pipe response host
  | .dataSend pipe content => dataSend cfg pipe content host
  | .lockCtx c => smAtHostLockCtx cfg c host
  | .cmdDone c => smAtHostCmdDone c host

def performCalls (calls : List HostCall) (host : Host) : Host :=
  calls.foldl (fun current call => performCall cfg call current) host

/-- `set_sm_mode`.  Entering data mode for the first time allocates the data
ring; a context keeps its ring afterwards. -/
def setSmMode (env : Environment) (c : CtxId) (mode : OperationMode) (host : Host) : Option Host :=
  if smAtCtxCheck c host = false then
    none
  else
    let data := host.data c
    match data.atMode, mode with
    | .atCommandMode, .dataMode =>
      if data.dataRb.size = 0 then
        if env.alloc host.history c cfg.datamodeBufSize then
          some (host.setData c
            { data with
              atMode := .dataMode
              dataRb := RingBuffer.init cfg.datamodeBufSize })
        else
          none
      else
        some (host.setData c { data with atMode := .dataMode })
    | .dataMode, .nullMode
    | .dataMode, .atCommandMode
    | .nullMode, .atCommandMode
    | .nullMode, .nullMode =>
      some (host.setData c { data with atMode := mode })
    | _, _ => none

end SerialModem.AtHost
