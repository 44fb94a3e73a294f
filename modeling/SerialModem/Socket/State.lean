import SerialModem.AtHost.Lifecycle
import SerialModem.Library.BitMask
import SerialModem.Library.EventLog
import SerialModem.Library.Program

/-!
# The state of the socket module

`sm_at_socket.c` keeps a table of eight sockets, `sm_at_httpc.c` a table of as
many HTTP requests.  Both run on the work queue of the AT host, call it for
everything they write to a channel and are called by it from AT commands, data
mode and work items; the modem calls them back from interrupts.  The state of
all of it is one value, the `World`.

What the modem answers is a `Modem`: a function of everything observed so far.
Quantifying over modems covers every behaviour of the sockets below.
-/

namespace SerialModem.Socket

open Library Function
open AtHost

/-- `SM_MAX_SOCKET_COUNT` and `HTTP_MAX_REQUESTS`. -/
abbrev smMaxSocketCount : Nat := 8

/-- An index into `socks`, or into `http_requests`. -/
abbrev Slot := Fin smMaxSocketCount

def invalidSocket : Int := -1

def secTagTlsInvalid : Int := -1

abbrev PollEvents := BitVec 8

def zsockPollin : PollEvents := 1

def zsockPollout : PollEvents := 4

def zsockPollerr : PollEvents := 8

def zsockPollhup : PollEvents := 16

def zsockPollnval : PollEvents := 32

def permanentEvents : PollEvents :=
  zsockPollerr ||| zsockPollnval ||| zsockPollhup

def allPollEvents : PollEvents :=
  zsockPollin ||| zsockPollout ||| zsockPollerr ||| zsockPollhup ||| zsockPollnval

def sockStream : Int := 1

def sockDgram : Int := 2

def sockRaw : Int := 3

def afUnspec : Int := 0

def afInet : Int := 1

def afInet6 : Int := 2

def afPacket : Int := 3

def ipprotoIp : Int := 0

def ipprotoTcp : Int := 6

def ipprotoUdp : Int := 17

def ipprotoRaw : Int := 255

def ipprotoTls12 : Int := 258

def ipprotoDtls12 : Int := 273

def atSocketRoleClient : UInt16 := 0

/-- `enum sm_socket_mode`. -/
def atSocketModeUnformatted : UInt16 := 0

def atSocketModeHex : UInt16 := 1

def atSocketModeData : UInt16 := 2

/-- `enum sm_socket_adr_flags`. -/
def smAdrAtMode : BitVec 8 := 1

def smAdrDataMode : BitVec 8 := 2

def smMsgSendAck : BitVec 32 := 0x2000

def msgDontwait : BitVec 32 := 0x40

def socketSendTmoSec : Int := 30

/-- `SM_MAX_MESSAGE_SIZE`, the size of `sm_data_buf`. -/
def smMaxMessageSize : Nat := 2048

def smMaxUrl : Nat := 128

def binDataSize : Nat := 1400

def eio : Int := 5

def enomem : Int := 12

def ebusy : Int := 16

def einval : Int := 22

def enodata : Int := 61

def eopnotsupp : Int := 95

def econnreset : Int := 104

def enobufs : Int := 105

def enetdown : Int := 115

def enotsup : Int := 134

/-- `struct sm_async_poll`. -/
structure AsyncPoll where
  events : PollEvents := 0
  revents : PollEvents := 0
  delayedRevents : PollEvents := 0
  xapollEvents : PollEvents := 0
  xapollEventsRequested : PollEvents := 0
  adrFlags : BitVec 8 := 0
  disable : Bool := false
  adrHex : Bool := false
  deriving DecidableEq

/-- `struct sm_send_ntf`. -/
structure SendNtf where
  ready : Bool := false
  status : Int := 0
  bytesSent : Nat := 0
  deriving DecidableEq

structure SmSocket where
  type : Int := 0
  role : UInt16 := atSocketRoleClient
  secTag : Int := secTagTlsInvalid
  family : Int := afUnspec
  fd : Int := invalidSocket
  cid : UInt16 := 0
  localPort : UInt16 := 0
  sendFlags : BitVec 32 := 0
  sendCbSet : Bool := false
  connected : Bool := false
  listen : Bool := false
  asyncPoll : AsyncPoll := {}
  sendNtf : SendNtf := {}
  pipe : Option PipeId
  /-- How many descriptors the slot has held; no code reads it. -/
  generation : Nat := 0
  deriving DecidableEq

/-- The part of `struct async_poll_ctx` that is not a work item. -/
structure AsyncPollCtx where
  xapollEventsRequested : PollEvents := 0
  adrFlags : BitVec 8 := 0
  adrHex : Bool := false
  datamodeSock : Option Slot := none
  deriving DecidableEq

/-- `enum sm_http_method`. -/
inductive HttpMethod where
  | get
  | post
  | put
  | delete
  | head
  deriving DecidableEq

inductive HttpState where
  | idle
  | sendingRequest
  | sendingBody
  | receivingHeaders
  | receivingBody
  deriving DecidableEq

/-- The value of an `int`, which wraps around. -/
def int32 (value : Int) : Int :=
  value.bmod 0x100000000

theorem int32_add_left (value more : Int) : int32 (int32 value + more) = int32 (value + more) :=
  Int.bmod_add_bmod

theorem int32_sub_left (value less : Int) : int32 (int32 value - less) = int32 (value - less) :=
  Int.bmod_sub_bmod

theorem int32_zero : int32 0 = 0 := by
  decide

/-- `struct http_request`, without its timestamp: time passes by the action
that lets requests time out. -/
structure HttpRequest where
  fd : Int := -1
  state : HttpState := .idle
  method : HttpMethod := .get
  hostname : List Byte := []
  path : List Byte := []
  port : UInt16 := 0
  requestBodyLen : Int := 0
  extraHeaders : List Byte := []
  /-- The first `recv_buf_len` bytes of `recv_buf`. -/
  recvBuf : List Byte := []
  /-- The `send_remaining` bytes at `send_ptr`. -/
  sendPtr : List Byte := []
  statusCode : Int := 0
  contentLength : Int := -1
  totalReceived : Int := 0
  headersComplete : Bool := false
  needRearmPollin : Bool := false
  pipe : Option PipeId
  manualMode : Bool := false
  hexRx : Bool := false
  bytesSent : Int := 0
  connectionClose : Bool := false
  deriving DecidableEq

structure Errno where
  value : Nat
  positive : 0 < value
  deriving DecidableEq

namespace Errno

def code (errno : Errno) : Int := -errno.value

end Errno

inductive Outcome (Value : Type) where
  | failed (errno : Errno)
  | done (value : Value)
  deriving DecidableEq

inductive SockOption where
  | soRcvtimeo (seconds : Int)
  | soSndtimeo (seconds : Int)
  | soPollcb (events : PollEvents)
  | soSendcb (installed : Bool)
  | soBindtopdn (pdnId : Int)
  | tlsSecTagList (secTag : Int)
  | tlsPeerVerify (verify : UInt16)
  deriving DecidableEq

structure Peer where
  family : Int
  address : List Byte
  port : UInt16
  deriving DecidableEq

/-- Why events are selected or polled for; no code reads it. -/
inductive PollCause where
  | opened
  | started
  | stopped
  | httpClient
  | received
  | sent
  | acknowledged
  | accepted
  /-- Events that came while the channel was not idle are polled again. -/
  | reenabled
  | reception
  | remaining
  deriving DecidableEq

/-- Where the bytes of a data-mode session have to go: to the connected peer,
or to a URL and a port. -/
inductive Destination where
  | peer
  | url (url : List Byte) (port : UInt16)
  deriving DecidableEq

/-- `struct http_parser_url`: offsets and lengths of the parts of a URL. -/
structure UrlFields where
  schema : Option (Nat × Nat)
  host : Option (Nat × Nat)
  port : Option UInt16
  path : Option (Nat × Nat)
  query : Option (Nat × Nat)
  deriving DecidableEq

inductive SocketEvent where
  -- Calls of the modem library, with their results.
  | zsockSocket (result : Outcome Nat)
  | zsockAccept (fd : Int) (result : Outcome (Nat × Peer))
  | zsockClose (fd : Int) (result : Outcome Unit)
  | zsockSetsockopt (fd : Int) (option : SockOption) (result : Outcome Unit)
  | zsockFcntl (fd : Int) (result : Outcome Unit)
  | zsockListen (fd : Int) (result : Outcome Unit)
  | zsockBind (fd : Int) (port : UInt16) (result : Outcome Unit)
  | zsockConnect (fd : Int) (peer : Peer) (result : Outcome Unit)
  | resolveHost (url : List Byte) (port : UInt16) (result : Outcome Peer)
  | zsockSend (fd : Int) (content : List Byte) (result : Outcome Nat)
  | zsockSendto (fd : Int) (content : List Byte) (peer : Peer) (result : Outcome Nat)
  | zsockRecv (fd : Int) (result : Outcome (List Byte))
  | zsockRecvfrom (fd : Int) (result : Outcome (List Byte × Peer))
  | malloc (size : Nat) (granted : Bool)
  -- The socket table.
  | initSocket (slot : Slot)
  | stored (slot : Slot) (fd : Int)
  /-- A command, or the HTTP client, moves a socket to a channel. -/
  | attached (slot : Slot) (pipe : Option PipeId)
  /-- `update_poll_events` finds the channel of a socket gone. -/
  | reassigned (slot : Slot) (pipe : Option PipeId)
  -- Polling.
  /-- `xapoll_events_requested` is replaced while `pending` events are still to
  be notified. -/
  | selected (slot : Slot) (cause : PollCause) (pending requested : PollEvents)
  /-- `update_poll_events` adds to the polled events and, from the requested
  ones, to those to be notified. -/
  | armed (slot : Slot) (cause : PollCause) (events notified : PollEvents)
  /-- A socket is polled again, after events that came while the channel was
  not idle. -/
  | reenabled (slot : Slot)
  | rearmed (slot : Slot) (requested : PollEvents)
  | pollCallback (slot : Slot) (revents : PollEvents)
  | xapoll (slot : Slot) (fd : Int) (events : PollEvents)
  -- Send notifications.
  | sendCallback (slot : Slot) (status : Int) (bytesSent : Nat) (accepted : Bool)
  | xsendntf (slot : Slot) (fd : Int) (status : Int) (bytesSent : Nat)
  -- Data mode.
  | sessionEntered (ctx : CtxId) (slot : Slot) (generation : Nat) (destination : Destination)
  | sessionSend (ctx : CtxId) (slot : Slot) (generation : Nat) (destination : Destination)
  | reception (slot : Slot) (automatic : Bool) (written : List Event)
  -- HTTP requests.
  /-- `alloc_request`. -/
  | httpStarted (r : Slot)
  | httpReceived (r : Slot) (content : List Byte)
  /-- The first bytes of the response are its header block. -/
  | httpHeaders (r : Slot) (size : Nat)
  /-- `#XHTTPCDATA` with bytes. -/
  | httpDelivered (r : Slot) (offset : Int) (content : List Byte)
  /-- `#XHTTPCSTAT`. -/
  | httpStat (r : Slot) (status bytes : Int)
  deriving DecidableEq

abbrev SocketLog := List SocketEvent

def SocketEvent.updateOpen (opened : List Int) : SocketEvent → List Int
  | .zsockSocket (.done fd) => fd :: opened
  | .zsockAccept _ (.done (fd, _)) => fd :: opened
  | .zsockClose fd (.done _) => opened.erase fd
  | _ => opened

def openDescriptors (log : SocketLog) : List Int :=
  log.foldl SocketEvent.updateOpen []

/-- How many of `length` bytes a call took: at least one. -/
structure Taken (length : Nat) where
  count : Nat
  positive : 0 < count
  bounded : count ≤ length

/-- At most `length` bytes. -/
structure Chunk (length : Nat) where
  content : List Byte
  bounded : content.length ≤ length

/-- The modem library, and the functions of `sm_util.c` that ask the modem. -/
structure Modem where
  zsockSocket : SocketLog → (family type proto : Int) → Outcome Nat
  zsockAccept : SocketLog → (fd : Int) → Outcome (Nat × Peer)
  zsockClose : SocketLog → (fd : Int) → Outcome Unit
  zsockSetsockopt : SocketLog → (fd : Int) → SockOption → Outcome Unit
  /-- `zsock_fcntl(fd, ZVFS_F_SETFL, ZVFS_O_NONBLOCK)`. -/
  zsockFcntl : SocketLog → (fd : Int) → Outcome Unit
  zsockListen : SocketLog → (fd : Int) → Outcome Unit
  /-- The local address of a connection is known; `util_get_ip_addr`. -/
  localAddress : SocketLog → (cid : UInt16) → (family : Int) → Bool
  zsockBind : SocketLog → (fd : Int) → (port : UInt16) → Outcome Unit
  zsockConnect : SocketLog → (fd : Int) → Peer → Outcome Unit
  /-- `util_resolve_host`. -/
  resolveHost : SocketLog → (cid : UInt16) → (url : List Byte) →
    (port : UInt16) → (family : Int) → Outcome Peer
  /-- `sm_util_pdn_id_get`. -/
  pdnIdGet : SocketLog → (cid : UInt16) → Outcome Nat
  zsockSend : SocketLog → (fd : Int) → (content : List Byte) →
    (flags : BitVec 32) → Outcome (Taken content.length)
  zsockSendto : SocketLog → (fd : Int) → (content : List Byte) →
    (flags : BitVec 32) → Peer → Outcome (Taken content.length)
  zsockRecv : SocketLog → (fd : Int) → (length : Nat) → (flags : BitVec 32) → Outcome (Chunk length)
  zsockRecvfrom : SocketLog → (fd : Int) → (length : Nat) →
    (flags : BitVec 32) → Outcome (Chunk length × Peer)
  malloc : SocketLog → (size : Nat) → Bool
  httpParserParseUrl : List Byte → Option UrlFields

/-- The sockets with their polls and requests, and the AT host beside them. -/
structure World where
  machine : Machine
  socks : Slot → SmSocket
  pollCtx : CtxId → AsyncPollCtx
  udpUrl : List Byte
  udpPort : UInt16
  httpRequests : Slot → Option HttpRequest
  datamodeReq : Option Slot
  log : SocketLog

namespace World

def host (world : World) : Host :=
  world.machine.host

def setHost (world : World) (host : Host) : World :=
  { world with machine := world.machine.setHost host }

def record (world : World) (event : SocketEvent) : World :=
  { world with log := world.log ++ [event] }

def setSock (world : World) (slot : Slot) (sock : SmSocket) : World :=
  { world with socks := update world.socks slot sock }

def setPoll (world : World) (slot : Slot) (poll : AsyncPoll) : World :=
  world.setSock slot { world.socks slot with asyncPoll := poll }

def setPollCtx (world : World) (c : CtxId) (pollCtx : AsyncPollCtx) : World :=
  { world with pollCtx := update world.pollCtx c pollCtx }

def setRequest (world : World) (slot : Slot) (request : Option HttpRequest) :
    World :=
  { world with
    httpRequests := update world.httpRequests slot request }

variable (world : World)

@[simp] theorem httpRequests_setRequest_self (slot : Slot) (request : Option HttpRequest) :
    (world.setRequest slot request).httpRequests slot = request := by
  simp [setRequest]

theorem httpRequests_setRequest_of_ne {slot other : Slot} (request : Option HttpRequest)
    (different : other ≠ slot) :
    (world.setRequest slot request).httpRequests other = world.httpRequests other := by
  simp [setRequest, different]

@[simp] theorem socks_setSock_self (slot : Slot) (sock : SmSocket) :
    (world.setSock slot sock).socks slot = sock := by
  simp [setSock]

theorem socks_setSock_of_ne {slot other : Slot} (sock : SmSocket) (different : other ≠ slot) :
    (world.setSock slot sock).socks other = world.socks other := by
  simp [setSock, different]

def poll (world : World) (slot : Slot) : AsyncPoll :=
  (world.socks slot).asyncPoll

def occupied (world : World) (slot : Slot) : Bool :=
  (world.socks slot).fd != invalidSocket

end World

/-- Code of the socket module; it does not return where it dereferences a null
pointer. -/
abbrev SocketM := Program World

end SerialModem.Socket
