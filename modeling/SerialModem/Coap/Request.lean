import SerialModem.Library.CharBuffer
import SerialModem.Socket.HexOutput

/-!
# CoAP requests

`sm_at_coap.c` has one request at a time, which two threads share: the work
queue, with the AT commands and the data mode, and the thread of the CoAP
client library.

The threads interleave between operations.  An operation is a statement of the
source, or a few of them that touch the request under the mutex or only read
it.  What a thread has still to do is a list of operations; an operation that
can not go on leaves its thread where it is.

The library is whatever the documentation of its callbacks permits: it calls
the payload callback, copies the block that it got at any time before its next
call, and reports responses or an error for a request that it accepted.  Log
output is left out.
-/

namespace SerialModem.Coap

open Library
open AtHost
open Socket (bin2hex coapDataSendHexRun)

/-- An allocation of `struct coap_request`. -/
abbrev ReqId := Nat

/-- `struct coap_request`, without what is only copied to the library.  The
semaphores are binary. -/
structure CoapRequest where
  fd : Int
  pipe : Option PipeId
  payloadLen : Nat
  payloadSent : Nat
  coapStarted : Bool
  staging : Nat → Byte
  stagingFilled : Nat
  stagingReady : Bool
  stagingConsumed : Bool
  payloadAborted : Bool
  bytesSent : Nat
  statusCode : Int
  manualRx : Bool
  hexRx : Bool
  rxBuf : Nat → Byte
  rxBufFilled : Nat
  rxConsumed : Bool

inductive CoapThread where
  | work
  | client
  deriving DecidableEq

/-- `struct coap_client_response_data`: an error, or a block of the
response. -/
inductive CoapResponse where
  | failed
  | block (resultCode : Int) (payload : List Byte) (lastBlock : Bool)
  deriving DecidableEq

/-- What `AT#XCOAPCREQ` asks for, and what it gets on its way: the memory of the
request, its buffers and options, and the data mode. -/
structure CoapReqCommand where
  handle : Int
  pipe : Option PipeId
  payloadLen : Nat
  manualRx : Bool
  hexRx : Bool
  allocated : Bool
  prepared : Bool
  datamode : Bool

inductive CoapOp where
  /-- `k_mutex_lock(&coap_mutex)` and its release. -/
  | lock
  | unlock
  /-- `coap_finish_request` and `coap_fail_request`. -/
  | failStatus (id : ReqId)
  | sendStatus (id : ReqId)
  | closeRequest (id : ReqId)
  /-- `coap_callback`. -/
  | callback (id : ReqId) (data : CoapResponse)
  | storeBlock (id : ReqId) (payload : List Byte)
  | sendHead (id : ReqId) (resultCode : Int) (length : Nat)
  | takeRxConsumed (id : ReqId)
  | sendData (id : ReqId) (payload : List Byte)
  | callbackEnd (id : ReqId) (lastBlock : Bool)
  /-- `coap_payload_cb`. -/
  | payloadCb (id : ReqId)
  | takeStagingReady (id : ReqId)
  | payloadTake (id : ReqId)
  | giveStagingConsumed (id : ReqId)
  | payloadReturn (id : ReqId) (block : Option (Nat × Bool))
  /-- `coap_start_request`. -/
  | startRequest (id : ReqId)
  | clientReqReturn (id : ReqId)
  /-- `coap_datamode_send_block` and `coap_datamode_callback`. -/
  | sendBlock (id : ReqId) (data : List Byte)
  | giveStagingReady (id : ReqId)
  | startUnlessStarted (id : ReqId)
  | takeStagingConsumed (id : ReqId)
  | resetStaging (id : ReqId)
  | datamodeSend (data : List Byte)
  | datamodeSendTo (id : ReqId) (data : List Byte)
  | datamodeExit
  | datamodeExitTo (id : ReqId)
  | allocRequest (command : CoapReqCommand)
  | prepareRequest (id : ReqId) (command : CoapReqCommand)
  | pullData (handle : Int) (length : Option Int)
  | giveRxConsumed (id : ReqId)
  | checkOwner (handle : Int)

def CoapOp.request : CoapOp → Option ReqId
  | .lock | .unlock | .datamodeSend _ | .datamodeExit | .allocRequest _ => none
  | .pullData _ _ | .checkOwner _ => none
  | .failStatus id | .sendStatus id | .closeRequest id => some id
  | .callback id _ | .storeBlock id _ | .sendHead id _ _ => some id
  | .takeRxConsumed id | .sendData id _ | .callbackEnd id _ => some id
  | .payloadCb id | .takeStagingReady id | .payloadTake id => some id
  | .giveStagingConsumed id | .payloadReturn id _ => some id
  | .startRequest id | .clientReqReturn id | .sendBlock id _ => some id
  | .giveStagingReady id | .startUnlessStarted id => some id
  | .takeStagingConsumed id | .resetStaging id => some id
  | .datamodeSendTo id _ | .datamodeExitTo id => some id
  | .prepareRequest id _ | .giveRxConsumed id => some id

inductive CoapEvent where
  /-- The request is the host's to wait for: data mode was entered, or the
  request is passed to the library. -/
  | accepted (id : ReqId)
  /-- `#XCOAPCSTAT`. -/
  | status (id : ReqId) (code : Int) (bytesSent : Nat)
  | closed (id : ReqId)
  /-- A block of the response is stored in `rx_buf`. -/
  | stored (id : ReqId) (payload : List Byte)
  /-- `#XCOAPCHEAD`. -/
  | head (id : ReqId) (code : Int) (length : Nat)
  /-- `#XCOAPCDATA` for a pull, with the format of the request and what is written
  after it. -/
  | pulled (id : ReqId) (offset length : Nat) (hexRx : Bool) (written : List (List Byte))
  /-- `#XCOAPCDATA` for a pull that finds nothing. -/
  | pulledNothing (id : ReqId) (offset : Nat)
  /-- `#XCOAPCDATA` of the automatic mode. -/
  | delivered (id : ReqId) (offset length : Nat) (written : List (List Byte))
  /-- `coap_callback` returns after a block was pulled. -/
  | returned (id : ReqId)
  | received (id : ReqId) (data : List Byte)
  | copied (id : ReqId) (block : List Byte) (lastBlock : Bool)
  | misused (id : ReqId)
  deriving DecidableEq

/-- What the library knows: the request that it accepted, whether it calls the
payload callback, and the block that it got and has not copied. -/
structure CoapClient where
  accepted : Option ReqId
  payloadCallback : Bool
  handed : Option (ReqId × Nat × Bool)

/-- The module, the two threads with what is left of their functions, and the library. -/
structure CoapWorld where
  pendingReq : Option ReqId
  heap : ReqId → Option CoapRequest
  fresh : ReqId
  mutex : Option CoapThread
  work : List CoapOp
  client : List CoapOp
  datamodes : List (ReqId × Nat)
  library : CoapClient
  log : List CoapEvent

namespace CoapWorld

def initial : CoapWorld where
  pendingReq := none
  heap _ := none
  fresh := 0
  mutex := none
  work := []
  client := []
  datamodes := []
  library := ⟨none, false, none⟩
  log := []

def ops (world : CoapWorld) : CoapThread → List CoapOp
  | .work => world.work
  | .client => world.client

def setOps (world : CoapWorld) (thread : CoapThread) (ops : List CoapOp) :
    CoapWorld :=
  match thread with
  | .work => { world with work := ops }
  | .client => { world with client := ops }

def setRequest (world : CoapWorld) (id : ReqId) (req : CoapRequest) :
    CoapWorld :=
  { world with heap := Function.update world.heap id (some req) }

def record (world : CoapWorld) (events : List CoapEvent) : CoapWorld :=
  { world with log := world.log ++ events }

def useRequest (world : CoapWorld) (thread : CoapThread) (id : ReqId)
    (use : CoapRequest → Option CoapWorld) : Option CoapWorld :=
  match world.heap id with
  | none => some ((world.setOps thread []).record [.misused id])
  | some req => use req

end CoapWorld

section Functions

variable (blockSize : Nat)

def bytesOf (buffer : Nat → Byte) (length : Nat) : List Byte :=
  (List.range length).map buffer

/-- The pieces in which the payload of a pull is written. -/
def coapDataWritten (hexRx : Bool) (content : List Byte) : List (List Byte) :=
  if hexRx then
    (coapDataSendHexRun (content.length + 1) content).getD []
  else
    [content]

def allocRequest (pipe : Option PipeId) : CoapRequest where
  fd := 0
  pipe := pipe
  payloadLen := 0
  payloadSent := 0
  coapStarted := false
  staging _ := 0
  stagingFilled := 0
  stagingReady := false
  stagingConsumed := false
  payloadAborted := false
  bytesSent := 0
  statusCode := 0
  manualRx := false
  hexRx := false
  rxBuf _ := 0
  rxBufFilled := 0
  rxConsumed := false

def coapFinishRequest (id : ReqId) : List CoapOp :=
  [.sendStatus id, .lock, .closeRequest id, .unlock]

def coapFailRequest (id : ReqId) : List CoapOp :=
  .failStatus id :: coapFinishRequest id

def coapStartRequest (id : ReqId) : List CoapOp :=
  [.startRequest id]

/-- An operation on a request: the request afterwards, what the thread has still
to do and what is observed.  `expired` says that a semaphore is not waited for
any longer. -/
def requestOp (expired : Bool) (req : CoapRequest) (rest : List CoapOp) :
    CoapOp → Option (CoapRequest × List CoapOp × List CoapEvent)
  | .failStatus _ => some ({ req with statusCode := -1 }, rest, [])
  | .sendStatus id =>
    some (req, rest, [.status id req.statusCode req.bytesSent])
  -- coap_callback
  | .callback id .failed => some (req, coapFailRequest id, [])
  | .callback id (.block resultCode payload lastBlock) =>
    let req := { req with statusCode := resultCode }
    if payload = [] then
      some (req, [.callbackEnd id lastBlock], [])
    else if req.manualRx then
      if blockSize < payload.length then
        some (req, coapFailRequest id, [])
      else
        some (req, [.lock, .storeBlock id payload, .unlock,
          .sendHead id resultCode payload.length, .takeRxConsumed id,
          .callbackEnd id lastBlock], [])
    else
      some (req, [.sendData id payload, .callbackEnd id lastBlock], [])
  | .storeBlock id payload =>
    some ({ req with
      rxBuf := CharBuffer.overlay req.rxBuf 0 payload
      rxBufFilled := payload.length }, rest, [.stored id payload])
  | .sendHead id resultCode length =>
    some (req, rest, [.head id resultCode length])
  | .takeRxConsumed id =>
    if req.rxConsumed then
      some ({ req with rxConsumed := false }, rest, [.returned id])
    else if expired then
      some (req, coapFailRequest id, [])
    else
      none
  | .sendData id payload =>
    some ({ req with bytesSent := req.bytesSent + payload.length }, rest,
      [.delivered id req.bytesSent payload.length (coapDataWritten req.hexRx payload)])
  | .callbackEnd id lastBlock =>
    some (req, if lastBlock then coapFinishRequest id else [], [])
  -- coap_payload_cb
  | .payloadCb id =>
    if req.payloadLen ≤ req.payloadSent then
      some (req, .payloadReturn id (some (req.stagingFilled, true)) :: rest, [])
    else
      some (req, .takeStagingReady id :: .payloadTake id :: rest, [])
  | .takeStagingReady id =>
    if req.stagingReady then
      some ({ req with stagingReady := false }, rest, [])
    else if expired then
      some (req, .payloadReturn id none :: rest.drop 1, [])
    else
      none
  | .payloadTake id =>
    if req.payloadAborted then
      some (req, .payloadReturn id none :: rest, [])
    else
      let lastBlock : Bool :=
        req.payloadLen ≤ req.payloadSent + req.stagingFilled
      let back := .payloadReturn id (some (req.stagingFilled, lastBlock)) :: rest
      some ({ req with payloadSent := req.payloadSent + req.stagingFilled },
        if lastBlock then back else .giveStagingConsumed id :: back, [])
  | .giveStagingConsumed _ =>
    some ({ req with stagingConsumed := true }, rest, [])
  -- coap_start_request
  | .startRequest id =>
    some ({ req with coapStarted := true },
      if blockSize < req.payloadLen then
        .payloadCb id :: .clientReqReturn id :: rest
      else
        .clientReqReturn id :: rest, [])
  -- coap_datamode_send_block
  | .sendBlock id data =>
    if data = [] then
      some (req, rest, [])
    else
      let space := blockSize - req.stagingFilled
      let copy := min data.length space
      let totalReceived := req.payloadSent + req.stagingFilled + copy
      let isLastBlock : Bool := req.payloadLen ≤ totalReceived
      let stored := { req with
        staging := CharBuffer.overlay req.staging req.stagingFilled (data.take copy)
        stagingFilled := req.stagingFilled + copy }
      let back := .sendBlock id (data.drop copy) :: rest
      if stored.stagingFilled = blockSize ∨ isLastBlock then
        some (stored, .giveStagingReady id :: .startUnlessStarted id ::
          if isLastBlock then
            back
          else
            .takeStagingConsumed id :: .resetStaging id :: back, [])
      else
        some (stored, back, [])
  | .giveStagingReady _ => some ({ req with stagingReady := true }, rest, [])
  | .startUnlessStarted id =>
    some (req, if req.coapStarted then rest else coapStartRequest id ++ rest, [])
  | .takeStagingConsumed _ =>
    if req.stagingConsumed then
      some ({ req with stagingConsumed := false }, rest, [])
    else if expired then
      some ({ req with payloadAborted := true }, [], [])
    else
      none
  | .resetStaging _ => some ({ req with stagingFilled := 0 }, rest, [])
  -- coap_datamode_callback
  | .datamodeSendTo id data =>
    if req.payloadLen ≤ blockSize then
      let copy := min data.length (blockSize - req.stagingFilled)
      some ({ req with
        staging := CharBuffer.overlay req.staging req.stagingFilled (data.take copy)
        stagingFilled := req.stagingFilled + copy }, rest, [])
    else
      some (req, .sendBlock id data :: rest, [])
  | .datamodeExitTo id =>
    if req.payloadLen ≤ blockSize then
      if 0 < req.stagingFilled then
        some ({ req with payloadLen := req.stagingFilled }, coapStartRequest id ++ rest, [])
      else
        some (req, coapFailRequest id, [])
    else if !req.coapStarted then
      some (if 0 < req.stagingFilled then
          { req with payloadLen := req.stagingFilled }
        else
          { req with payloadAborted := true },
        .giveStagingReady id :: coapStartRequest id ++ rest, [])
    else if req.payloadSent + req.stagingFilled < req.payloadLen then
      some (if 0 < req.stagingFilled then
          { req with payloadLen := req.payloadSent + req.stagingFilled }
        else
          { req with payloadAborted := true },
        .giveStagingReady id :: rest, [])
    else
      some (req, rest, [])
  -- handle_at_coap_data
  | .giveRxConsumed _ => some ({ req with rxConsumed := true }, rest, [])
  | _ => none

end Functions

end SerialModem.Coap
