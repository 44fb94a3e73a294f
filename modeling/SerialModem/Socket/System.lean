import SerialModem.Socket.HttpCommands

/-!
# Sockets on the work queue

An execution interleaves what the AT host does, the interrupts of the modem and
the commands of the socket module.  A command, a work item and an interrupt are
one step each.
-/

namespace SerialModem.Socket

open Library
open AtHost

variable (cfg : Config) (env : Environment) (modem : Modem)

/-- The set commands of `sm_at_socket.c` and `sm_at_httpc.c`. -/
inductive SocketCommand where
  | xsocket
  | xssocket
  | xclose
  | xbind
  | xconnect
  | xsend
  | xsendto
  | xrecv
  | xrecvfrom
  | xlisten
  | xaccept
  | xapoll
  | xrecvcfg
  | xhttpcreq
  | xhttpcdata
  | xhttpccancel
  deriving DecidableEq

def SocketCommand.handler (command : SocketCommand) (parser : AtParser) : SocketM Int :=
  match command with
  | .xsocket => handleAtSocket cfg modem parser
  | .xssocket => handleAtSecureSocket cfg modem parser
  | .xclose => handleAtClose cfg modem parser
  | .xbind => handleAtBind modem parser
  | .xconnect => handleAtConnect cfg modem parser
  | .xsend => handleAtSend cfg env modem parser
  | .xsendto => handleAtSendto cfg env modem parser
  | .xrecv => handleAtRecv cfg modem parser
  | .xrecvfrom => handleAtRecvfrom cfg modem parser
  | .xlisten => handleAtListen modem parser
  | .xaccept => handleAtAccept cfg modem parser
  | .xapoll => handleAtXapoll cfg modem parser
  | .xrecvcfg => handleAtRecvcfg cfg modem parser
  | .xhttpcreq => handleAtHttpcreq cfg env modem parser
  | .xhttpcdata => handleAtHttpcdata cfg modem parser
  | .xhttpccancel => handleAtHttpccancel cfg parser

/-- What the threads, the modem library and the commands do. -/
inductive WorldAction where
  | machine (action : MachineAction)
  | pollCallback (fd : Int) (revents : PollEvents)
  | sendCallback (fd : Int) (status : Int) (bytesSent : Nat)
  | command (command : SocketCommand) (parser : AtParser)
  /-- `http_timeout_work_fn`. -/
  | httpTimeout (expired : Slot → Bool)

def isSocketCall : MachineAction → Bool
  | .queueIdleWork _ _ => true
  | .pollCb _ => true
  | _ => false

inductive SocketWork where
  | poll (ctx : CtxId)
  | idle (item : IdleItem)
  deriving DecidableEq

def SocketWork.polls : SocketWork → Option CtxId
  | .poll c => some c
  | .idle (.pollIdle c) => some c
  | .idle .sendCb => none

def startedWork (machine : Machine) : MachineAction → Option SocketWork
  | .host .dispatch =>
    match machine.host.workQueue with
    | .poll c :: _ => some (.poll c)
    | _ => none
  | .idleItem =>
    match machine.loop with
    | .idleWork c =>
      (machine.idle.get c).map fun taken => .idle taken.1
    | _ => none
  | _ => none

def runWork (work : Option SocketWork) : SocketM Unit :=
  match work with
  | none => pure ()
  | some (.poll c) => smAtSocketPollWorkHandler cfg env modem c
  | some (.idle (.pollIdle c)) => smAtSocketPollIdleHandler cfg env modem c
  | some (.idle .sendCb) => sendCbFn cfg modem

def clearNewPollCtx (before after : Host) (pollCtx : CtxId → AsyncPollCtx) :
    CtxId → AsyncPollCtx := fun c =>
  if smAtCtxCheck c after && !smAtCtxCheck c before then {} else pollCtx c

def machineAction (action : MachineAction) : SocketM Unit := do
  let before ← get
  if isSocketCall action then
    failure
  else
    match machineStep cfg (outside env) action before.machine with
    | none => failure
    | some machine =>
      set { before with
        machine := machine
        pollCtx := clearNewPollCtx before.host machine.host before.pollCtx }
      replayCallbacks cfg modem before.host.history.length
      runWork cfg env modem (startedWork before.machine action)

/-- The context whose line is being received, if it takes commands. -/
def commandCtx (machine : Machine) : Option CtxId :=
  match machine.loop, machine.host.running with
  | .none, .rx c _ => if inAtModeCtx c machine.host then some c else none
  | _, _ => none

def modifyHost (change : Host → Host) : SocketM Unit :=
  modify fun world => world.setHost (change world.host)

/-- The part of `cmd_send` that executes a command of the socket module. -/
def runCommand (command : SocketCommand) (parser : AtParser) : SocketM Unit := do
  let world ← get
  match commandCtx world.machine with
  | none => failure
  | some c =>
    modifyHost (addExecutingLock c 1)
    let err ← command.handler cfg env modem parser
    if err = 0 then
      modifyHost fun host => host.record
        (.finalResult c (formatFinalResult (crlfStr ++ ascii "OK\r\n") cfg.responseBufSize))
    else
      modifyHost (rspSendError cfg)
    modifyHost (addExecutingLock c (-1))

def betweenItems (machine : Machine) : Bool :=
  machine.loop == .none && machine.host.running == .idle

def WorldAction.perform (action : WorldAction) : SocketM Unit :=
  match action with
  | .machine hostAction => machineAction cfg env modem hostAction
  | .pollCallback fd revents => pollCb fd revents
  | .sendCallback fd status bytesSent => sendCb fd status bytesSent
  | .command name parser => runCommand cfg env modem name parser
  | .httpTimeout expired => do
    let world ← get
    if betweenItems world.machine then
      httpTimeoutWorkFn cfg expired
    else
      failure

/-- One action; `none` when it is not enabled or the firmware does not
return. -/
def worldStep (action : WorldAction) (world : World) : Option World :=
  (action.perform cfg env modem world).map Prod.snd

/-- The state that `sm_at_socket_init` leaves. -/
structure World.Initial (world : World) : Prop where
  machine : Booted world.machine
  socks : ∀ slot, ∃ pipe, world.socks slot = SmSocket.cleared pipe 0
  pollCtx : ∀ c, world.pollCtx c = {}
  udpUrl : world.udpUrl = []
  httpRequests : ∀ r, world.httpRequests r = none
  datamodeReq : world.datamodeReq = none
  log : world.log = []

abbrev WorldReachableIf (allowed : World → WorldAction → Prop) : World → Prop :=
  Reachable (worldStep cfg env modem) allowed World.Initial

abbrev WorldReachable : World → Prop :=
  WorldReachableIf cfg env modem fun _ _ => True

end SerialModem.Socket
