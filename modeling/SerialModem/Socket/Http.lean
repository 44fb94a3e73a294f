import SerialModem.Socket.Transfer

/-!
# The HTTP client

A request runs on a socket of the socket table.  The poll work of the socket
module tells the client which events its socket has; the client sends or
receives without blocking and selects the events that it waits for next through
`set_xapoll_events`, as the host would with AT#XAPOLL.
-/

namespace SerialModem.Socket

open Library
open AtHost

variable (cfg : Config) (modem : Modem)

def httpRecvBufSize : Nat := 2049

def httpUrlMaxLen : Nat := 512

def httpHostMaxLen : Nat := 256

def httpPathMaxLen : Nat := 256

def httpExtraHeadersSize : Nat := 512

/-- `sizeof(struct http_request)`. -/
def httpRequestSize : Nat := 112

def findRequest (fd : Int) (world : World) : Option Slot :=
  slots.find? fun slot => (world.httpRequests slot).any fun req => req.fd == fd

def getRequest (r : Slot) : SocketM HttpRequest := do
  let world ← get
  match world.httpRequests r with
  | none => failure
  | some req => pure req

def modifyRequest (r : Slot) (change : HttpRequest → HttpRequest) : SocketM Unit :=
  modify fun world =>
    world.setRequest r ((world.httpRequests r).map change)

def malloc (size : Nat) : SocketM Bool := do
  let world ← get
  let granted := modem.malloc world.log size
  emit (.malloc size granted)
  pure granted

def allocRequest : SocketM (Option Slot) := do
  let world ← get
  match slots.find? fun slot => (world.httpRequests slot).isNone with
  | none => pure none
  | some r =>
    if ← malloc modem httpRequestSize then
      if ← malloc modem httpRecvBufSize then
        modify fun world => world.setRequest r
          (some { pipe := smAtHostGetCurrentPipe cfg world.host })
        emit (.httpStarted r)
        pure (some r)
      else
        pure none
    else
      pure none

def httpCloseRequest (r : Slot) : SocketM Unit := do
  let req ← getRequest r
  let world ← get
  if 0 ≤ req.fd then
    match findSocket req.fd world with
    | some slot => xapollStop .httpClient slot
    | none => pure ()
  else
    pure ()
  modify fun world =>
    { world.setRequest r none with
      datamodeReq :=
        if world.datamodeReq = some r then none else world.datamodeReq }

def httpSendStat (r : Slot) (req : HttpRequest) (status bytes : Int) : SocketM Unit := do
  urcSendToPipe cfg req.pipe (report "#XHTTPCSTAT" [decimal req.fd, decimal status, decimal bytes,
      decimal (if req.connectionClose then 1 else 0)])
  emit (.httpStat r status bytes)

def httpFailRequest (r : Slot) : SocketM Unit := do
  let req ← getRequest r
  httpSendStat cfg r req (-1) req.totalReceived
  httpCloseRequest r

def httpFinishRequest (r : Slot) : SocketM Unit := do
  let req ← getRequest r
  httpSendStat cfg r req req.statusCode req.totalReceived
  httpCloseRequest r

/-- `http_send_cancel_status` and `http_close_request`. -/
def httpCancelRequest (r : Slot) : SocketM Unit := do
  let req ← getRequest r
  httpSendStat cfg r req (-1) req.bytesSent
  httpCloseRequest r

def httpSendHeadersComplete (req : HttpRequest) : SocketM Unit :=
  urcSendToPipe cfg req.pipe (report "#XHTTPCHEAD"
    [decimal req.fd, decimal req.statusCode, decimal req.contentLength])

/-- The payload of `#XHTTPCDATA`; `http_data_send_hex` cuts it as
`data_send_hex` does. -/
def httpSendPayload (req : HttpRequest) (content : List Byte) : SocketM Unit :=
  if req.hexRx then
    dataSendHex cfg req.pipe content
  else
    dataSendToPipe cfg req.pipe content

def httpDataHeader (req : HttpRequest) (length : Nat) : List Byte :=
  report "#XHTTPCDATA" [decimal req.fd, decimal req.bytesSent, decimal length]

def httpSendData (r : Slot) (content : List Byte) : SocketM Unit := do
  let req ← getRequest r
  if content = [] then
    pure ()
  else
    smAtHostLockPipe cfg req.pipe
    rspSendToPipe cfg req.pipe (httpDataHeader req content.length)
    modifyRequest r fun req =>
      { req with bytesSent := int32 (req.bytesSent + content.length) }
    emit (.httpDelivered r req.bytesSent content)
    httpSendPayload cfg req content
    -- <CR><LF> after the chunk, as after automatically received data.
    rspSendToPipe cfg req.pipe crlfStr
    smAtHostUnlockPipe cfg req.pipe

def cString (buffer : List Byte) : List Byte :=
  buffer.takeWhile fun byte => byte != 0

def strstr (haystack needle : List Byte) : Option Nat :=
  (List.range (haystack.length + 1)).find? fun index =>
    (haystack.drop index).take needle.length == needle

def isspace (byte : Byte) : Bool :=
  byte == 32 || (9 ≤ byte && byte ≤ 13)

def isdigit (byte : Byte) : Bool :=
  48 ≤ byte && byte ≤ 57

def digitsValue (digits : List Byte) : Nat :=
  digits.foldl (fun value byte => value * 10 + (byte.toNat - 48)) 0

def clampInt (value : Int) : Int :=
  max (-2147483648) (min 2147483647 value)

/-- The conversion `%d` of `sscanf`, with the rest of the input. -/
def scanInt (input : List Byte) : Option (Int × List Byte) :=
  let text := input.dropWhile isspace
  let negative := text.head? == some 45
  let unsigned :=
    if negative || text.head? == some 43 then text.tail else text
  let digits := unsigned.takeWhile isdigit
  if digits = [] then
    none
  else
    let value : Int := digitsValue digits
    some (clampInt (if negative then -value else value), unsigned.dropWhile isdigit)

def parseHttpStatusCode (buf : List Byte) : Option Int :=
  let prefixText := ascii "HTTP/1."
  match strstr (cString buf) prefixText with
  | none => none
  | some index =>
    match scanInt ((cString buf).drop (index + prefixText.length)) with
    | none => none
    | some (_, rest) => (scanInt rest).map Prod.fst

def parseConnectionClose (buf : List Byte) (headerEnd : Nat) : Bool :=
  let found := (strstr (cString buf) (ascii "Connection: close")).orElse
    fun _ => strstr (cString buf) (ascii "connection: close")
  found.any fun index => index < headerEnd

def parseContentLength (buf : List Byte) (headerEnd : Nat) : Option Int :=
  let name := ascii "Content-Length:"
  let found := (strstr (cString buf) name).orElse
    fun _ => strstr (cString buf) (ascii "content-length:")
  match found with
  | none => none
  | some index =>
    if headerEnd ≤ index then
      none
    else
      (scanInt (((cString buf).drop (index + name.length)).dropWhile
        fun byte => byte == 32)).map Prod.fst

def chunkedEof (content : List Byte) : Bool :=
  5 ≤ content.length && content.drop (content.length - 5) == [48, 13, 10, 13, 10]

def headerTerminator : List Byte := [13, 10, 13, 10]

/-- What `http_headers_complete` reads from a complete header block. -/
def HttpRequest.readHeaders (req : HttpRequest) (headerEnd : Nat) :
    HttpRequest :=
  { req with
    statusCode := (parseHttpStatusCode req.recvBuf).getD req.statusCode
    contentLength :=
      (parseContentLength req.recvBuf headerEnd).getD req.contentLength
    connectionClose := parseConnectionClose req.recvBuf headerEnd
    headersComplete := true
    state := .receivingBody
    totalReceived := int32 (req.totalReceived -
      (headerEnd + headerTerminator.length : Nat)) }

def HttpRequest.bodyless (req : HttpRequest) : Bool :=
  req.method == .head || req.statusCode.tdiv 100 == 1 ||
    req.statusCode == 204 || req.statusCode == 304

/-- `http_headers_complete`; whether the caller is done with the request. -/
def httpHeadersComplete (r : Slot) (headerEnd : Nat) (slot : Slot) (hup : Bool) : SocketM Bool := do
  let received ← getRequest r
  let body := received.recvBuf.drop (headerEnd + headerTerminator.length)
  modifyRequest r fun req => req.readHeaders headerEnd
  emit (.httpHeaders r (headerEnd + headerTerminator.length))
  let req ← getRequest r
  httpSendHeadersComplete cfg req
  if req.bodyless then
    httpFinishRequest cfg r
    pure true
  else if req.manualMode then
    -- The first bytes of the body wait for the host to pull them.
    modifyRequest r fun req => { req with recvBuf := body }
    xapollStop .httpClient slot
    pure true
  else
    httpSendData cfg r body
    modifyRequest r fun req => { req with recvBuf := [] }
    let req ← getRequest r
    if hup then
      httpFinishRequest cfg r
      pure true
    else if (0 ≤ req.contentLength ∧ req.contentLength ≤ req.bytesSent) ∨
        (req.contentLength < 0 ∧ chunkedEof body = true) then
      httpFinishRequest cfg r
      pure true
    else
      pure false

/-- `http_recv_read`: the bytes read, zero at the end of the stream, -1 when
there is nothing to read, or another error. -/
def httpRecvRead (r : Slot) (slot : Slot) : SocketM Int := do
  let req ← getRequest r
  match ← zsockRecv modem req.fd (httpRecvBufSize - req.recvBuf.length - 1) msgDontwait with
  | .failed errno =>
    if (errno.value : Int) = eagain then
      let _ ← setXapollEvents cfg modem .httpClient slot zsockPollin
      pure (-1)
    else
      pure errno.code
  | .done content =>
    if content = [] then
      pure 0
    else
      modifyRequest r fun req =>
        { req with
          recvBuf := req.recvBuf ++ content
          totalReceived := int32 (req.totalReceived + content.length) }
      emit (.httpReceived r content)
      pure content.length

def needRearm (r : Slot) : SocketM Unit :=
  modifyRequest r fun req => { req with needRearmPollin := true }

def hasEvent (events event : PollEvents) : Bool :=
  events &&& event != 0

def httpProcessRecvHeaders (r : Slot) (slot : Slot) (events : PollEvents) : SocketM Unit := do
  let req ← getRequest r
  match strstr (cString req.recvBuf) headerTerminator with
  | some headerEnd =>
    if ← httpHeadersComplete cfg r headerEnd slot (hasEvent events zsockPollhup) then
      pure ()
    else
      needRearm r
  | none =>
    if httpRecvBufSize - 1 ≤ req.recvBuf.length then
      httpFailRequest cfg r
    else
      needRearm r

def httpProcessRecvBody (r : Slot) (slot : Slot) (events : PollEvents) : SocketM Unit := do
  let received ← getRequest r
  if received.manualMode then
    xapollStop .httpClient slot
  else
    httpSendData cfg r received.recvBuf
    modifyRequest r fun req => { req with recvBuf := [] }
    let req ← getRequest r
    if chunkedEof received.recvBuf = true ∨
        (0 < req.contentLength ∧ req.contentLength ≤ req.bytesSent) ∨
        hasEvent events zsockPollhup = true then
      httpFinishRequest cfg r
    else
      needRearm r

/-- `http_process_request` in `HTTP_STATE_SENDING_REQUEST`. -/
def httpSendPart (r : Slot) (slot : Slot) : SocketM Unit := do
  let req ← getRequest r
  match ← zsockSend modem req.fd req.sendPtr msgDontwait with
  | .failed errno =>
    if (errno.value : Int) = eagain then
      -- Wait for the next POLLOUT.
      let _ ← setXapollEvents cfg modem .httpClient slot (zsockPollout ||| zsockPollin)
      pure ()
    else
      httpFailRequest cfg r
  | .done count =>
    modifyRequest r fun req => { req with sendPtr := req.sendPtr.drop count }
    if req.sendPtr.drop count = [] then
      modifyRequest r fun req =>
        { req with state := .receivingHeaders, recvBuf := [] }
      let _ ← setXapollEvents cfg modem .httpClient slot zsockPollin
      pure ()
    else
      let _ ← setXapollEvents cfg modem .httpClient slot (zsockPollout ||| zsockPollin)
      pure ()

/-- `http_process_request` in the two receiving states; `closed` ends a request
whose stream has ended, `process` takes the bytes that were read. -/
def httpReceivePart (r : Slot) (slot : Slot) (events : PollEvents)
    (closed process : SocketM Unit) : SocketM Unit := do
  if hasEvent events zsockPollhup ∧ ¬hasEvent events zsockPollin then
    closed
  else if hasEvent events zsockPollin then
    let ret ← httpRecvRead cfg modem r slot
    if ret < 0 then
      if ret ≠ -1 then httpFailRequest cfg r else pure ()
    else if ret = 0 then
      closed
    else
      process
  else
    pure ()

/-- The `switch` of `http_process_request`. -/
def httpProcessState (r : Slot) (slot : Slot) (events : PollEvents) : HttpState → SocketM Unit
  | .sendingRequest =>
    if hasEvent events zsockPollhup then
      httpFailRequest cfg r
    else if hasEvent events zsockPollout then
      httpSendPart cfg modem r slot
    else
      pure ()
  | .receivingHeaders =>
    httpReceivePart cfg modem r slot events (httpFailRequest cfg r)
      (httpProcessRecvHeaders cfg r slot events)
  | .receivingBody =>
    httpReceivePart cfg modem r slot events (httpFinishRequest cfg r)
      (httpProcessRecvBody cfg r slot events)
  | .idle => pure ()
  | .sendingBody => pure ()

def httpProcessRequest (r : Slot) (events : PollEvents) : SocketM Unit := do
  let req ← getRequest r
  let world ← get
  match findSocket req.fd world with
  | none => httpFailRequest cfg r
  | some slot =>
    if hasEvent events (zsockPollerr ||| zsockPollnval) then
      httpFailRequest cfg r
    else
      httpProcessState cfg modem r slot events req.state

def smAtHttpcPollEvent (fd : Int) (events : PollEvents) : SocketM Bool := do
  let world ← get
  match findRequest fd world with
  | none => pure false
  | some r =>
    modifyRequest r fun req => { req with needRearmPollin := false }
    httpProcessRequest cfg modem r events
    -- The request may be gone.
    let world ← get
    pure ((findRequest fd world).any fun r =>
      (world.httpRequests r).any HttpRequest.needRearmPollin)

def smAtHttpcSocketClosed (fd : Int) : SocketM Unit := do
  let world ← get
  match findRequest fd world with
  | none => pure ()
  | some r => httpCancelRequest cfg r

/-- `http_timeout_work_fn`; `expired` tells which deadlines have passed. -/
def httpTimeoutWorkFn (expired : Slot → Bool) : SocketM Unit :=
  slots.forM fun r => do
    let world ← get
    match world.httpRequests r with
    | none => pure ()
    | some req =>
      if req.state = .idle ∨ req.state = .sendingBody then
        pure ()
      else if expired r then
        httpFailRequest cfg r
      else
        pure ()

end SerialModem.Socket
