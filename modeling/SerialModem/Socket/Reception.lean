import SerialModem.Socket.State

/-!
# Polling and reception

A socket is polled by a one-shot callback of the modem.  `events` is what it is
polled for, `xapoll_events` what the host still has to be notified of.  Data is
received by command or automatically; both write the same frames to the channel
of the socket and poll for the next data.
-/

namespace SerialModem.Socket

open Library
open AtHost

variable (cfg : Config) (modem : Modem)

def decimal (value : Int) : List Byte :=
  ascii (toString value)

def report (name : String) (fields : List (List Byte)) : List Byte :=
  crlfStr ++ ascii name ++ ascii ": " ++ [44].intercalate fields ++ crlfStr

def quoted (content : List Byte) : List Byte :=
  34 :: content ++ [34]

/-- The lower-case hexadecimal digit of a value below sixteen. -/
def hex2char (value : Nat) : Byte :=
  UInt8.ofNat (if value < 10 then 48 + value else 87 + value)

/-- `bin2hex`, with room for the whole result. -/
def bin2hex (content : List Byte) : List Byte :=
  content.flatMap fun byte =>
    [hex2char (byte.toNat / 16), hex2char (byte.toNat % 16)]

def smAtHostGetCurrentPipe (host : Host) : Option PipeId :=
  (smAtHostGetCurrent cfg host).bind fun c =>
    if smAtCtxCheck c host then (host.ctx c).pipe else none

def smAtHostGetAsyncPollCtx (pipe : Option PipeId) (host : Host) : Option CtxId :=
  (smAtHostGetCtxFrom pipe host).filter fun c => smAtCtxCheck c host

def isIdlePipe (pipe : Option PipeId) (host : Host) : Bool :=
  (smAtHostGetCtxFrom pipe host).any fun c => isIdleCtx c host

def inDatamodeCtx (ctx : Option CtxId) (host : Host) : Bool :=
  ctx.any fun c => getSmMode c host == some .dataMode

def inDatamodePipe (pipe : Option PipeId) (host : Host) : Bool :=
  inDatamodeCtx (smAtHostGetCtxFrom pipe host) host

def hostCall (call : HostCall) : SocketM Unit :=
  modify fun world => world.setHost (performCall cfg call world.host)

def emit (event : SocketEvent) : SocketM Unit :=
  modify fun world => world.record event

def smAtHostLockPipe (pipe : Option PipeId) : SocketM Unit := do
  let world ← get
  match smAtHostGetCtxFrom pipe world.host with
  | some c => hostCall cfg (.lockCtx c)
  | none => pure ()

/-- `sm_at_host_cmd_done_pipe`, as `sm_at_host_unlock`. -/
def smAtHostUnlockPipe (pipe : Option PipeId) : SocketM Unit := do
  let world ← get
  match smAtHostGetCtxFrom pipe world.host with
  | some c => hostCall cfg (.cmdDone c)
  | none => pure ()

def urcSendToPipe (pipe : Option PipeId) (content : List Byte) : SocketM Unit :=
  hostCall cfg (.urcSendTo pipe content)

def rspSendText (content : List Byte) : SocketM Unit :=
  hostCall cfg (.rspSend (.text content))

def rspSendToPipe (pipe : Option PipeId) (content : List Byte) : SocketM Unit :=
  hostCall cfg (.rspSendTo pipe (.text content))

def dataSendToPipe (pipe : Option PipeId) (content : List Byte) : SocketM Unit :=
  hostCall cfg (.dataSend pipe content)

def slots : List Slot :=
  List.finRange smMaxSocketCount

def findSocket (fd : Int) (world : World) : Option Slot :=
  slots.find? fun slot => (world.socks slot).fd == fd

def findAvailSocket (world : World) : Option Slot :=
  slots.find? fun slot => (world.socks slot).fd == invalidSocket

/-- What `init_socket` leaves in a slot. -/
def SmSocket.cleared (pipe : Option PipeId) (generation : Nat) : SmSocket :=
  { pipe := pipe, generation := generation }

def initSocket (slot : Slot) : SocketM Unit :=
  modify fun world =>
    (world.setSock slot (SmSocket.cleared (smAtHostGetCurrentPipe cfg world.host)
      (world.socks slot).generation)).record (.initSocket slot)

/-- Change members of a socket that neither polling nor the table use. -/
def modifySock (slot : Slot) (change : SmSocket → SmSocket) : SocketM Unit :=
  modify fun world => world.setSock slot (change (world.socks slot))

/-- The assignment `sock->fd = fd` for a new descriptor. -/
def storeFd (slot : Slot) (fd : Int) : SocketM Unit :=
  modify fun world =>
    (world.setSock slot
      { world.socks slot with
        fd := fd
        generation := (world.socks slot).generation + 1 }).record
      (.stored slot fd)

/-- The assignment `sock->pipe = pipe` of a command or of the HTTP client. -/
def attachSock (slot : Slot) (pipe : Option PipeId) : SocketM Unit :=
  modify fun world =>
    (world.setSock slot { world.socks slot with pipe := pipe }).record (.attached slot pipe)

def pollCtxFromSock (slot : Slot) (world : World) : Option CtxId :=
  smAtHostGetAsyncPollCtx (world.socks slot).pipe world.host

def zsockSetsockopt (fd : Int) (option : SockOption) : SocketM (Outcome Unit) := do
  let world ← get
  let result := modem.zsockSetsockopt world.log fd option
  emit (.zsockSetsockopt fd option result)
  pure result

def zsockRecv (fd : Int) (length : Nat) (flags : BitVec 32) : SocketM (Outcome (List Byte)) := do
  let world ← get
  let result : Outcome (List Byte) :=
    match modem.zsockRecv world.log fd length flags with
    | .failed errno => .failed errno
    | .done chunk => .done chunk.content
  emit (.zsockRecv fd result)
  pure result

def zsockRecvfrom (fd : Int) (length : Nat) (flags : BitVec 32) :
    SocketM (Outcome (List Byte × Peer)) := do
  let world ← get
  let result : Outcome (List Byte × Peer) :=
    match modem.zsockRecvfrom world.log fd length flags with
    | .failed errno => .failed errno
    | .done (chunk, remote) => .done (chunk.content, remote)
  emit (.zsockRecvfrom fd result)
  pure result

def setSoPollCb (slot : Slot) (events : PollEvents) : SocketM Int := do
  let world ← get
  match ← zsockSetsockopt modem (world.socks slot).fd (.soPollcb events) with
  | .failed errno => pure errno.code
  | .done _ => pure 0

/-- What `update_poll_events` adds to `xapoll_events`. -/
def AsyncPoll.notified (poll : AsyncPoll) (events : PollEvents) (updateXapoll : Bool) :
    PollEvents :=
  if updateXapoll then poll.xapollEventsRequested &&& events else 0

/-- The assignments of `update_poll_events` to `xapoll_events` and `events`. -/
def AsyncPoll.arm (poll : AsyncPoll) (events notified : PollEvents) : AsyncPoll :=
  { poll with
    xapollEvents := poll.xapollEvents ||| notified
    events := poll.events ||| events }

/-- The part of `update_poll_events` that looks for the channel. -/
def reassignLost (slot : Slot) : SocketM Unit := do
  let world ← get
  if (pollCtxFromSock slot world).isNone then
    let pipe := smAtHostGetCurrentPipe cfg world.host
    set ((world.setSock slot { world.socks slot with pipe := pipe }).record (.reassigned slot pipe))
  else
    pure ()

/-- The part of `update_poll_events` that assigns to the events. -/
def armPoll (cause : PollCause) (slot : Slot) (events : PollEvents)
    (updateXapoll : Bool) : SocketM Unit :=
  modify fun world =>
    let notified := (world.poll slot).notified events updateXapoll
    (world.setPoll slot ((world.poll slot).arm events notified)).record
      (.armed slot cause events notified)

def updatePollEvents (cause : PollCause) (slot : Slot) (events : PollEvents)
    (updateXapoll : Bool) : SocketM Int := do
  let world ← get
  if (world.poll slot).disable then
    pure 0
  else
    reassignLost cfg slot
    armPoll cause slot events updateXapoll
    let armed ← get
    setSoPollCb modem slot (armed.poll slot).events

def selectEvents (cause : PollCause) (slot : Slot) (requested : PollEvents) : SocketM Unit :=
  modify fun world =>
    (world.setPoll slot { world.poll slot with xapollEventsRequested := requested }).record
      (.selected slot cause (world.poll slot).xapollEvents requested)

/-- Whether a loop over the sockets of a channel looks at a slot. -/
def ofPipe (pipe : Option PipeId) (slot : Slot) (world : World) : Bool :=
  world.occupied slot && (world.socks slot).pipe == pipe

/-- The loop of `set_xapoll_events`; it stops at the first error. -/
def setXapollEventsLoop (pipe : Option PipeId) (events : PollEvents) : List Slot → SocketM Int
  | [] => pure 0
  | slot :: rest => do
    let world ← get
    if ofPipe pipe slot world then
      selectEvents .started slot events
      let ret ← updatePollEvents cfg modem .started slot events true
      if ret ≠ 0 then
        pure ret
      else
        setXapollEventsLoop pipe events rest
    else
      setXapollEventsLoop pipe events rest

def setXapollEvents (cause : PollCause) (slot : Slot) (events : PollEvents) : SocketM Int := do
  let world ← get
  attachSock slot (smAtHostGetCurrentPipe cfg world.host)
  selectEvents cause slot events
  updatePollEvents cfg modem cause slot events true

def setXapollEventsAll (events : PollEvents) : SocketM Int := do
  let world ← get
  let pipe := smAtHostGetCurrentPipe cfg world.host
  match smAtHostGetAsyncPollCtx pipe world.host with
  | none => failure
  | some c =>
    set (world.setPollCtx c { world.pollCtx c with xapollEventsRequested := events })
    setXapollEventsLoop cfg modem pipe events slots

def xapollStop (cause : PollCause) (slot : Slot) : SocketM Unit :=
  selectEvents cause slot 0

def xapollStopAll : SocketM Unit := do
  let world ← get
  let pipe := smAtHostGetCurrentPipe cfg world.host
  match smAtHostGetAsyncPollCtx pipe world.host with
  | none => failure
  | some c =>
    set (world.setPollCtx c { world.pollCtx c with xapollEventsRequested := 0 })
    slots.forM fun slot => do
      let world ← get
      if ofPipe pipe slot world then
        selectEvents .stopped slot 0
      else
        pure ()

/-- The chunks that `data_send_hex` converts at a time. -/
def hexChunk : Nat := 128

/-- The loop of `data_send_hex`; `bin2hex` has room for a chunk and cannot
fail. -/
def dataSendHexLoop (pipe : Option PipeId) : Nat → List Byte → SocketM Unit
  | 0, _ => pure ()
  | _ + 1, [] => pure ()
  | fuel + 1, byte :: rest => do
    dataSendToPipe cfg pipe (bin2hex ((byte :: rest).take hexChunk))
    dataSendHexLoop pipe fuel ((byte :: rest).drop hexChunk)

def dataSendHex (pipe : Option PipeId) (content : List Byte) : SocketM Unit :=
  dataSendHexLoop cfg pipe content.length content

def sendHeader (pipe : Option PipeId) (header : List Byte) : SocketM Unit := do
  let world ← get
  if inDatamodePipe pipe world.host then
    pure ()
  else
    rspSendToPipe cfg pipe header

def forwardData (slot : Slot) (mode : UInt16) (header content : List Byte) : SocketM Unit := do
  let world ← get
  let pipe := (world.socks slot).pipe
  smAtHostLockPipe cfg pipe
  sendHeader cfg pipe header
  if mode = atSocketModeHex then
    dataSendHex cfg pipe content
  else
    dataSendToPipe cfg pipe content
  smAtHostUnlockPipe cfg pipe

def doRecv (slot : Slot) (timeout : Int) (flags : BitVec 32) (mode : UInt16)
    (dataLen : Nat) : SocketM Int := do
  let world ← get
  let fd := (world.socks slot).fd
  match ← zsockSetsockopt modem fd (.soRcvtimeo timeout) with
  | .failed errno => pure errno.code
  | .done _ =>
    match ← zsockRecv modem fd dataLen flags with
    | .failed errno => pure errno.code
    | .done content =>
      if content = [] then
        pure 0
      else
        forwardData cfg slot mode (report "#XRECV"
            [decimal fd, decimal mode.toNat, decimal content.length])
          content
        let _ ← updatePollEvents cfg modem .received slot zsockPollin true
        pure 0

def doRecvfrom (slot : Slot) (timeout : Int) (flags : BitVec 32)
    (mode : UInt16) (dataLen : Nat) : SocketM Int := do
  let world ← get
  let fd := (world.socks slot).fd
  match ← zsockSetsockopt modem fd (.soRcvtimeo timeout) with
  | .failed errno => pure errno.code
  | .done _ =>
    match ← zsockRecvfrom modem fd dataLen flags with
    | .failed errno => pure errno.code
    | .done (content, remote) =>
      if content = [] then
        pure 0
      else
        forwardData cfg slot mode (report "#XRECVFROM"
            [decimal fd, decimal mode.toNat, decimal content.length,
              quoted remote.address, decimal remote.port.toNat])
          content
        let _ ← updatePollEvents cfg modem .received slot zsockPollin true
        pure 0

def asReception (slot : Slot) (automatic : Bool) (receive : SocketM Int) : SocketM Int := do
  let before ← get
  let ret ← receive
  let after ← get
  emit (.reception slot automatic (after.host.history.drop before.host.history.length))
  pure ret

/-- The reception in `auto_reception`. -/
def autoReceive (slot : Slot) : SocketM Int := do
  let world ← get
  let sock := world.socks slot
  let mode :=
    if sock.asyncPoll.adrHex then atSocketModeHex else atSocketModeUnformatted
  if sock.connected ∨ sock.type = sockRaw then
    doRecv cfg modem slot 0 msgDontwait mode smMaxMessageSize
  else
    doRecvfrom cfg modem slot 0 msgDontwait mode smMaxMessageSize

def autoReceptionLocked (slot : Slot) : SocketM Int := do
  let world ← get
  let pipe := (world.socks slot).pipe
  smAtHostLockPipe cfg pipe
  let err ← autoReceive cfg modem slot
  let received ← get
  let pipe := (received.socks slot).pipe
  if err ≠ 0 then
    smAtHostUnlockPipe cfg pipe
    pure err
  else
    -- <CR><LF> after the data.
    sendHeader cfg pipe crlfStr
    smAtHostUnlockPipe cfg pipe
    pure err

def autoReception (slot : Slot) : SocketM Unit := do
  let world ← get
  if (world.socks slot).listen then
    pure ()
  else
    let _ ← asReception slot true (autoReceptionLocked cfg modem slot)
    pure ()

end SerialModem.Socket
