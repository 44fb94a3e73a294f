import SerialModem.Socket.Http

/-!
# The data-mode callbacks

The socket module and the HTTP client hand the AT host a callback when they
enter data mode.  The AT host alone knows when it calls them; its history tells
which calls a step of it has made, and what they do here is done right after
that step.  In a step a context sends before it leaves data mode, so the sends
come first.
-/

namespace SerialModem.Socket

open Library
open AtHost

variable (cfg : Config) (env : Environment) (modem : Modem)

def socketDatamodeCallback : HandlerId := 0

def httpDatamodeCallback : HandlerId := 1

def isOwnCallback (handler : HandlerId) : Bool :=
  handler == socketDatamodeCallback || handler == httpDatamodeCallback

def isOutsideAction : CommandAction → Bool
  | .enterDatamode handler _ => !isOwnCallback handler
  | _ => true

/-- The code around the AT host without the socket module and the HTTP client:
it does not enter data mode with their callbacks, and where it stands for the
callbacks it only says what they return. -/
def outside : Environment where
  handlerSend history c handler content flags :=
    let reply := env.handlerSend history c handler content flags
    if isOwnCallback handler then
      { reply with calls := [], callsAfterExit := [] }
    else
      reply
  handlerExit history c handler flags :=
    if isOwnCallback handler then
      []
    else
      env.handlerExit history c handler flags
  atCommand history c line :=
    let reply := env.atCommand history c line
    { reply with actions := reply.actions.filter isOutsideAction }
  bootloaderCommand history c line :=
    let reply := env.bootloaderCommand history c line
    (reply.1.filter isOutsideAction, reply.2)
  alloc := env.alloc

def currentPollCtx (world : World) : Option CtxId :=
  smAtHostGetAsyncPollCtx (smAtHostGetCurrentPipe cfg world.host) world.host

/-- Whether `udp_url` holds a string that is not empty. -/
def World.hasUdpUrl (world : World) : Bool :=
  cString world.udpUrl != []

/-- Where `socket_datamode_callback` sends to. -/
def World.destination (world : World) : Destination :=
  if world.hasUdpUrl then
    .url (cString world.udpUrl) world.udpPort
  else
    .peer

/-- `socket_datamode_callback(DATAMODE_SEND, ...)`, on context `c`.  Leaving
data mode on an overflow is part of what the AT host did. -/
def socketDatamodeSend (c : CtxId) (content : List Byte) (flags : Flags) : SocketM Unit := do
  let world ← get
  match (currentPollCtx cfg world).bind fun p =>
      (world.pollCtx p).datamodeSock with
  | none => failure
  | some slot =>
    let sock := world.socks slot
    if sock.type = sockDgram ∧ flags.moreData = true then
      pure ()
    else
      emit (.sessionSend c slot sock.generation world.destination)
      if world.hasUdpUrl then
        let _ ← doSendto cfg modem slot (cString world.udpUrl) world.udpPort content sock.sendFlags
        pure ()
      else
        let _ ← doSend cfg modem slot content sock.sendFlags
        pure ()

/-- `socket_datamode_callback(DATAMODE_EXIT, ...)`. -/
def socketDatamodeExit (flags : Flags) : SocketM Unit := do
  let world ← get
  match currentPollCtx cfg world with
  | none => failure
  | some p =>
    set { world with udpUrl := [] }
    if flags.exitHandler then
      hostCall cfg (.rspSend .terminator)
    else
      pure ()
    modify fun world =>
      world.setPollCtx p { world.pollCtx p with datamodeSock := none }

/-- The loop that sends all of a chunk; whether it succeeds.  Each iteration
takes a byte at least. -/
def httpSendAll (fd : Int) : Nat → List Byte → SocketM (Outcome Unit)
  | 0, _ => pure (.done ())
  | _ + 1, [] => pure (.done ())
  | fuel + 1, byte :: rest => do
    match ← zsockSend modem fd (byte :: rest) 0 with
    | .failed errno => pure (.failed errno)
    | .done count => httpSendAll fd fuel ((byte :: rest).drop count)

/-- `http_datamode_callback(DATAMODE_SEND, ...)`. -/
def httpDatamodeSend (content : List Byte) : SocketM Unit := do
  let world ← get
  match world.datamodeReq with
  | none => pure ()
  | some r =>
    let req ← getRequest r
    match ← httpSendAll modem req.fd content.length content with
    | .done _ => pure ()
    | .failed _ =>
      modify fun world => { world with datamodeReq := none }
      httpFailRequest cfg r

def httpBodySent (r : Slot) : SocketM Unit := do
  let req ← getRequest r
  let world ← get
  match findSocket req.fd world with
  | none => httpFailRequest cfg r
  | some slot =>
    modifyRequest r fun req =>
      { req with state := .receivingHeaders, recvBuf := [] }
    let err ← setXapollEvents cfg modem .httpClient slot zsockPollin
    if err ≠ 0 then httpFailRequest cfg r else pure ()

/-- `http_datamode_callback(DATAMODE_EXIT, ...)`. -/
def httpDatamodeExit (flags : Flags) : SocketM Unit := do
  let world ← get
  match world.datamodeReq with
  | none => pure ()
  | some r =>
    if flags.exitHandler then
      hostCall cfg (.rspSend .terminator)
      httpFailRequest cfg r
    else
      httpBodySent cfg modem r
    modify fun world => { world with datamodeReq := none }
  if flags.exitHandler then
    hostCall cfg (.rspSend .terminator)
  else
    pure ()

def onCtx (c : CtxId) (callback : SocketM Unit) : SocketM Unit := do
  let before ← get
  set (before.setHost (before.host.setCurrentCtx (some c)))
  callback
  modify fun world =>
    world.setHost (world.host.setCurrentCtx before.host.currentCtx)

def replaySend (event : Event) : SocketM Unit :=
  match event with
  | .handlerSend c handler content flags _ =>
    if handler = socketDatamodeCallback then
      onCtx c (socketDatamodeSend cfg modem c content flags)
    else if handler = httpDatamodeCallback then
      onCtx c (httpDatamodeSend cfg modem content)
    else
      pure ()
  | _ => pure ()

def replayExit (event : Event) : SocketM Unit :=
  match event with
  | .handlerExit c handler flags =>
    if handler = socketDatamodeCallback then
      onCtx c (socketDatamodeExit cfg flags)
    else if handler = httpDatamodeCallback then
      onCtx c (httpDatamodeExit cfg modem flags)
    else
      pure ()
  | _ => pure ()

def replayCallbacks (since : Nat) : SocketM Unit := do
  let world ← get
  let called := world.host.history.drop since
  called.forM (replaySend cfg modem)
  called.forM (replayExit cfg modem)

/-- `exit_datamode_handler`, called by the poll work. -/
def leaveDatamode (c : CtxId) (result : Int) : SocketM Unit := do
  let world ← get
  set (world.setHost (exitDatamodeHandler cfg (outside env) c result world.host))
  replayCallbacks cfg modem world.host.history.length

end SerialModem.Socket
