import SerialModem.Socket.Callbacks

/-!
# Poll work

`poll_cb` runs in an interrupt: it leaves the events in the socket and submits
the poll work of its channel.  The poll work notifies the host, passes the
events to the HTTP client, receives automatically and registers what is left.
Events that arrive while the channel is not idle are kept aside and polled
again when it is.
-/

namespace SerialModem.Socket

open Library
open AtHost

variable (cfg : Config) (env : Environment) (modem : Modem)

def modifyPoll (slot : Slot) (change : AsyncPoll → AsyncPoll) : SocketM Unit :=
  modify fun world => world.setPoll slot (change (world.poll slot))

/-- `k_work_submit_to_queue` with the poll work of a context. -/
def submitPollWork (c : CtxId) : SocketM Unit :=
  modify fun world => world.setHost (submitWork (.poll c) world.host)

def pollCb (fd : Int) (revents : PollEvents) : SocketM Unit := do
  let world ← get
  match findSocket fd world with
  | none => pure ()
  | some slot =>
    match pollCtxFromSock slot world with
    | none => emit (.pollCallback slot revents)
    | some c =>
      emit (.pollCallback slot revents)
      modifyPoll slot fun poll =>
        { poll with revents := poll.revents ||| revents }
      submitPollWork c

def delayEvents (c : CtxId) (pipe : PipeId) (slot : Slot)
    (revents : PollEvents) : SocketM Unit := do
  modifyPoll slot fun poll =>
    { poll with delayedRevents := poll.delayedRevents ||| revents }
  queueIdleWork (some pipe) (.pollIdle c)

/-- The assignment `async_poll.disable = false`. -/
def enablePoll (slot : Slot) : SocketM Unit :=
  modify fun world =>
    (world.setPoll slot { world.poll slot with disable := false }).record (.reenabled slot)

def reenableEvents (slot : Slot) (revents : PollEvents) : SocketM Unit := do
  enablePoll slot
  let world ← get
  let _ ← updatePollEvents cfg modem .reenabled slot
    ((world.poll slot).delayedRevents ||| revents) true
  modifyPoll slot fun poll => { poll with delayedRevents := 0 }

def takeXapoll (slot : Slot) (events : PollEvents) : SocketM Unit :=
  modify fun world =>
    (world.setPoll slot
      { world.poll slot with
        xapollEvents := (world.poll slot).xapollEvents &&& ~~~events }).record
      (.xapoll slot (world.socks slot).fd events)

def rearmPollin (slot : Slot) : SocketM Unit :=
  modify fun world =>
    (world.setPoll slot
      { world.poll slot with
        xapollEvents := (world.poll slot).xapollEvents ||| zsockPollin
        events := (world.poll slot).events ||| zsockPollin }).record
      (.rearmed slot (world.poll slot).xapollEventsRequested)

/-- Tell the host and the HTTP client; whether the client wants more. -/
def reportXapoll (pipe : PipeId) (slot : Slot) (events : PollEvents) : SocketM Bool := do
  if events = 0 then
    pure false
  else
    let world ← get
    let fd := (world.socks slot).fd
    takeXapoll slot events
    urcSendToPipe cfg (some pipe) (report "#XAPOLL" [decimal fd, decimal events.toNat])
    smAtHttpcPollEvent cfg modem fd events

/-- The part of the poll work that only runs in AT-command mode.  It returns
the events that are still to be handled. -/
def notifyXapoll (pipe : PipeId) (slot : Slot) (revents : PollEvents) : SocketM PollEvents := do
  let world ← get
  let httpNeedsRearm ← reportXapoll cfg modem pipe slot (revents &&& (world.poll slot).xapollEvents)
  if httpNeedsRearm && hasEvent revents zsockPollin then
    rearmPollin slot
    pure (revents &&& ~~~zsockPollin)
  else
    pure revents

/-- Whether automatic reception is enabled for the mode of the channel. -/
def AsyncPoll.receives (poll : AsyncPoll) (atAndIdle dataMode : Bool) : Bool :=
  (atAndIdle && poll.adrFlags &&& smAdrAtMode != 0) ||
    (dataMode && poll.adrFlags &&& smAdrDataMode != 0)

def AsyncPoll.settle (poll : AsyncPoll) (revents : PollEvents) : AsyncPoll :=
  { poll with
    events := poll.events &&& ~~~(revents &&& (zsockPollin ||| zsockPollout))
    disable := poll.disable || hasEvent revents permanentEvents }

def datamodeError (revents : PollEvents) : Option Int :=
  if hasEvent revents zsockPollerr then
    some (-eio)
  else if hasEvent revents zsockPollnval then
    some (-enetdown)
  else if hasEvent revents zsockPollhup then
    some (-econnreset)
  else
    none

def leaveOnError (pipe : PipeId) (revents : PollEvents) : SocketM Unit := do
  let world ← get
  match datamodeError revents, smAtHostGetCtxFrom (some pipe) world.host with
  | some err, some c => leaveDatamode cfg env modem c err
  | _, _ => pure ()

def receiveAndPoll (pipe : PipeId) (atAndIdle dataMode : Bool) (slot : Slot)
    (revents : PollEvents) : SocketM Unit := do
  let world ← get
  if hasEvent revents zsockPollin ∧ (world.poll slot).receives atAndIdle dataMode then
    autoReception cfg modem slot
  else
    pure ()
  let _ ← updatePollEvents cfg modem .remaining slot 0 false
  if dataMode then
    leaveOnError cfg env modem pipe revents
  else
    pure ()

def handleRevents (pipe : PipeId) (atAndIdle dataMode : Bool) (slot : Slot)
    (revents : PollEvents) : SocketM Unit := do
  modifyPoll slot fun poll => poll.settle revents
  receiveAndPoll cfg env modem pipe atAndIdle dataMode slot revents

def keepEvents (c : CtxId) (pipe : PipeId) (atAndIdle : Bool) (slot : Slot)
    (revents : PollEvents) : SocketM Unit :=
  if atAndIdle then
    pure ()
  else
    delayEvents c pipe slot revents

/-- The rest of an iteration of `sm_at_socket_poll_work_handler`, once the
events were taken out of the socket. -/
def processEvents (c : CtxId) (pipe : PipeId) (atAndIdle dataMode : Bool)
    (slot : Slot) (revents : PollEvents) : SocketM Unit := do
  let world ← get
  if !atAndIdle && !dataMode then
    pure ()
  else if dataMode && (world.pollCtx c).datamodeSock != some slot then
    pure ()
  else if atAndIdle && (world.poll slot).delayedRevents != 0 then
    reenableEvents cfg modem slot revents
  else
    let handled ←
      if dataMode then pure revents else notifyXapoll cfg modem pipe slot revents
    handleRevents cfg env modem pipe atAndIdle dataMode slot handled

/-- One iteration of `sm_at_socket_poll_work_handler`. -/
def pollWorkStep (c : CtxId) (pipe : PipeId) (atAndIdle dataMode : Bool)
    (slot : Slot) : SocketM Unit := do
  let world ← get
  if ofPipe (some pipe) slot world then
    let revents := (world.poll slot).revents
    modifyPoll slot fun poll => { poll with revents := 0 }
    keepEvents c pipe atAndIdle slot revents
    processEvents cfg env modem c pipe atAndIdle dataMode slot revents
  else
    pure ()

def smAtSocketPollWorkHandler (c : CtxId) : SocketM Unit := do
  let world ← get
  if smAtCtxCheck c world.host then
    match (world.host.ctx c).pipe with
    | none => pure ()
    | some pipe =>
      let atAndIdle := isIdlePipe (some pipe) world.host
      let dataMode := inDatamodePipe (some pipe) world.host
      slots.forM (pollWorkStep cfg env modem c pipe atAndIdle dataMode)
  else
    pure ()

def smAtSocketPollIdleHandler (c : CtxId) : SocketM Unit := do
  let world ← get
  let pipe := smAtHostGetCurrentPipe cfg world.host
  if isIdlePipe pipe world.host then
    smAtSocketPollWorkHandler cfg env modem c
  else
    queueIdleWork pipe (.pollIdle c)

end SerialModem.Socket
