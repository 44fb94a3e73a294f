import SerialModem.Coap.Request

/-!
# The two threads of a CoAP request

An execution interleaves the AT commands and data mode callbacks on the work
queue, the calls of the library and the operations of both threads.
-/

namespace SerialModem.Coap

open Library
open AtHost

variable (blockSize : Nat)

/-- `pull_len` of `handle_at_coap_data`. -/
def pullLen (length : Option Int) : Nat :=
  match length with
  | none => blockSize
  | some length =>
    if 0 < length then min length.toNat blockSize else blockSize

def pullRequest (handle : Int) (length : Option Int) (id : ReqId)
    (req : CoapRequest) : CoapRequest × List CoapOp × List CoapEvent :=
  if req.fd ≠ handle ∨ !req.manualRx then
    (req, [.unlock], [])
  else if req.rxBufFilled = 0 then
    (req, [.unlock], [.pulledNothing id req.bytesSent])
  else
    let sendLen := min (pullLen blockSize length) req.rxBufFilled
    let left := req.rxBufFilled - sendLen
    let pulled : CoapEvent := .pulled id req.bytesSent sendLen req.hexRx
      (coapDataWritten req.hexRx (bytesOf req.rxBuf sendLen))
    let drained := { req with
      bytesSent := req.bytesSent + sendLen
      rxBufFilled := left }
    if 0 < left then
      ({ drained with
        rxBuf := CharBuffer.overlay req.rxBuf 0
          ((bytesOf req.rxBuf req.rxBufFilled).drop sendLen) },
        [.unlock], [pulled])
    else
      (drained, [.unlock, .giveRxConsumed id], [pulled])

/-- `coap_close_request`. -/
def closeRequest (id : ReqId) (world : CoapWorld) : CoapWorld :=
  { world with
    pendingReq := if world.pendingReq = some id then none else world.pendingReq
    heap := Function.update world.heap id none
    log := world.log ++ [.closed id] }

/-- `coap_close_request` after an error of the command. -/
def cleanupReq (id : ReqId) : List CoapOp :=
  [.lock, .closeRequest id, .unlock]

def prepareRequest (id : ReqId) (command : CoapReqCommand)
    (req : CoapRequest) (world : CoapWorld) : CoapWorld :=
  let prepared := { req with
    fd := command.handle
    manualRx := command.manualRx
    hexRx := command.hexRx
    payloadLen := command.payloadLen }
  if !command.prepared then
    { world with work := cleanupReq id }
  else if 0 < command.payloadLen then
    if command.datamode then
      { (world.setRequest id prepared).record [.accepted id] with
        work := []
        datamodes := world.datamodes ++ [(id, command.payloadLen)] }
    else
      { world with work := cleanupReq id }
  else
    { (world.setRequest id prepared).record [.accepted id] with
      work := coapStartRequest id }

def moduleOp (thread : CoapThread) (rest : List CoapOp) (world : CoapWorld) :
    CoapOp → Option CoapWorld
  | .lock =>
    if world.mutex = none then
      some { world.setOps thread rest with mutex := some thread }
    else
      none
  | .unlock => some { world.setOps thread rest with mutex := none }
  | .closeRequest id =>
    world.useRequest thread id fun _ =>
      some (closeRequest id (world.setOps thread rest))
  | .payloadReturn id block =>
    some { world.setOps thread rest with
      library := { world.library with
        handed := block.map fun block => (id, block) } }
  | .datamodeSend data =>
    match world.pendingReq with
    | none => some (world.setOps thread rest)
    | some id => some (world.setOps thread (.datamodeSendTo id data :: rest))
  | .datamodeExit =>
    match world.pendingReq with
    | none => some (world.setOps thread rest)
    | some id => some (world.setOps thread (.datamodeExitTo id :: rest))
  | .allocRequest command =>
    if world.pendingReq = none ∧ command.allocated then
      some { world.setOps thread [.unlock, .prepareRequest world.fresh command] with
        pendingReq := some world.fresh
        heap := Function.update world.heap world.fresh (some (allocRequest command.pipe))
        fresh := world.fresh + 1 }
    else
      some (world.setOps thread [.unlock])
  | .prepareRequest id command =>
    world.useRequest thread id fun req =>
      some (prepareRequest id command req world)
  | .pullData handle length =>
    match world.pendingReq with
    | none => some (world.setOps thread [.unlock])
    | some id => world.useRequest thread id fun req =>
      let result := pullRequest blockSize handle length id req
      some (((world.setOps thread result.2.1).setRequest id result.1).record result.2.2)
  | .checkOwner _ => some (world.setOps thread rest)
  | _ => none

def CoapOp.onRequest : CoapOp → Option ReqId
  | .failStatus id | .sendStatus id => some id
  | .callback id _ | .storeBlock id _ | .sendHead id _ _ => some id
  | .takeRxConsumed id | .sendData id _ | .callbackEnd id _ => some id
  | .payloadCb id | .takeStagingReady id | .payloadTake id => some id
  | .giveStagingConsumed id | .startRequest id | .sendBlock id _ => some id
  | .giveStagingReady id | .startUnlessStarted id => some id
  | .takeStagingConsumed id | .resetStaging id => some id
  | .datamodeSendTo id _ | .datamodeExitTo id | .giveRxConsumed id => some id
  | _ => none

def runOp (thread : CoapThread) (expired : Bool) (world : CoapWorld) : Option CoapWorld :=
  match world.ops thread with
  | [] => none
  | op :: rest =>
    match op.onRequest with
    | none => moduleOp blockSize thread rest world op
    | some id => world.useRequest thread id fun req =>
      (requestOp blockSize expired req rest op).map fun result =>
        ((world.setOps thread result.2.1).setRequest id result.1).record result.2.2

/-- What the commands, the data mode and the library do. -/
inductive CoapAction where
  /-- `AT#XCOAPCREQ`. -/
  | request (command : CoapReqCommand)
  /-- `AT#XCOAPCCANCEL`: the library is asked to report an error. -/
  | cancel (handle : Int)
  /-- `AT#XCOAPCDATA`. -/
  | pull (handle : Int) (length : Option Int)
  /-- `coap_datamode_callback` with `DATAMODE_SEND` and `DATAMODE_EXIT`. -/
  | datamodeSend (index : Nat) (data : List Byte)
  | datamodeExit (index : Nat)
  /-- The thread of the library calls `coap_payload_cb`. -/
  | payloadCall
  | copyBlock
  /-- The thread of the library calls `coap_callback`. -/
  | response (data : CoapResponse)
  /-- `coap_client_req` returns. -/
  | clientReqReturn (success : Bool)
  | run (thread : CoapThread) (expired : Bool)

def CoapResponse.final : CoapResponse → Bool
  | .failed => true
  | .block _ _ lastBlock => lastBlock

/-- `coap_client_req` returns: the library knows the request from now on, or it is
failed. -/
def clientReqReturn (success : Bool) (id : ReqId) (rest : List CoapOp)
    (world : CoapWorld) : Option CoapWorld :=
  world.useRequest .work id fun req =>
    some (if success then
      { world with
        work := rest
        library := ⟨some id, blockSize < req.payloadLen, world.library.handed⟩ }
    else
      { world with
        work := coapFailRequest id
        library := { world.library with handed := none } })

def copyBlock (world : CoapWorld) : Option CoapWorld :=
  world.library.handed.bind fun handed =>
    let world :=
      { world with library := { world.library with handed := none } }
    match world.heap handed.1 with
    | none => some (world.record [.misused handed.1])
    | some req => some (world.record [.copied handed.1 (bytesOf req.staging handed.2.1) handed.2.2])

/-- One step of one of the threads, or the start of a new function. -/
def coapStep (action : CoapAction) (world : CoapWorld) : Option CoapWorld :=
  match action with
  | .request command =>
    if world.work = [] then
      some { world with work := [.lock, .allocRequest command] }
    else
      none
  | .cancel handle =>
    if world.work = [] then
      some { world with work := [.lock, .checkOwner handle, .unlock] }
    else
      none
  | .pull handle length =>
    if world.work = [] then
      some { world with work := [.lock, .pullData handle length] }
    else
      none
  | .datamodeSend index data =>
    world.datamodes[index]?.bind fun mode =>
      if world.work = [] ∧ data.length ≤ mode.2 then
        some { world.record [.received mode.1 data] with
          work := [.datamodeSend data]
          datamodes := world.datamodes.set index
            (mode.1, mode.2 - data.length) }
      else
        none
  | .datamodeExit index =>
    world.datamodes[index]?.bind fun _ =>
      if world.work = [] then
        some { world with
          work := [.datamodeExit]
          datamodes := world.datamodes.eraseIdx index }
      else
        none
  | .payloadCall =>
    world.library.accepted.bind fun id =>
      if world.client = [] ∧ world.library.payloadCallback ∧ world.library.handed = none then
        some { world with client := [.payloadCb id] }
      else
        none
  | .copyBlock => copyBlock world
  | .response data =>
    world.library.accepted.bind fun id =>
      if world.client = [] ∧ world.library.handed = none then
        some { world with
          client := [.callback id data]
          library := if data.final then ⟨none, false, none⟩
            else world.library }
      else
        none
  | .clientReqReturn success =>
    match world.work with
    | .clientReqReturn id :: rest =>
      clientReqReturn blockSize success id rest world
    | _ => none
  | .run thread expired => runOp blockSize thread expired world

end SerialModem.Coap
