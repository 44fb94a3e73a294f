import SerialModem.Socket.Commands

/-!
# AT commands of the HTTP client

AT#XHTTPCREQ starts a request on an open socket, AT#XHTTPCDATA pulls the body
of a request in manual mode and AT#XHTTPCCANCEL ends a request.
-/

namespace SerialModem.Socket

open Library
open AtHost

variable (cfg : Config) (env : Environment) (modem : Modem)
variable (parser : AtParser)

def httpMethodStr : HttpMethod → List Byte
  | .get => ascii "GET"
  | .post => ascii "POST"
  | .put => ascii "PUT"
  | .delete => ascii "DELETE"
  | .head => ascii "HEAD"

/-- `http_build_request`, into a buffer of `http_headers_size` bytes. -/
def httpBuildRequest (req : HttpRequest) : List Byte :=
  httpMethodStr req.method ++ [32] ++ req.path ++ ascii " HTTP/1.1" ++
    crlfStr ++ ascii "Host: " ++ req.hostname ++ crlfStr ++
    ascii "User-Agent: nRF91-Serial-Modem" ++ crlfStr ++
    ascii "Accept: */*" ++ crlfStr ++
    (if 0 < req.requestBodyLen then
      ascii "Content-Length: " ++ decimal req.requestBodyLen ++ crlfStr
    else
      []) ++
    req.extraHeaders ++ crlfStr

def urlPart (url : List Byte) (part : Nat × Nat) : List Byte :=
  (url.drop part.1).take part.2

def defaultPort (url : List Byte) (schema : Option (Nat × Nat)) : UInt16 :=
  if schema.any fun part => urlPart url part == ascii "https" then 443 else 80

def withCopy (content : List Byte) (next : SocketM Int) : SocketM Int := do
  if ← malloc modem (content.length + 1) then next else pure (-enomem)

def httpParseUrlComponents (r : Slot) (url : List Byte) : SocketM Int :=
  match modem.httpParserParseUrl url with
  | none => pure (-einval)
  | some fields =>
    match fields.host with
    | none => pure (-einval)
    | some host =>
      if httpHostMaxLen ≤ host.2 then
        pure (-einval)
      else
        withCopy modem (urlPart url host) do
          modifyRequest r fun req =>
            { req with
              hostname := urlPart url host
              port := fields.port.getD (defaultPort url fields.schema) }
          match fields.path with
          | none =>
            withCopy modem [47] do
              modifyRequest r fun req => { req with path := [47] }
              pure 0
          | some path =>
            -- The query follows the path, after a question mark.
            let length := path.2 + (fields.query.map fun query => 1 + query.2).getD 0
            if httpPathMaxLen ≤ length then
              pure (-einval)
            else
              withCopy modem (urlPart url (path.1, length)) do
                modifyRequest r fun req =>
                  { req with path := urlPart url (path.1, length) }
                pure 0

def httpStartRequest (r : Slot) : SocketM Int := do
  let req ← getRequest r
  let text := httpBuildRequest req
  withCopy modem text do
    modifyRequest r fun req =>
      { req with sendPtr := text, state := .sendingRequest }
    let world ← get
    match findSocket req.fd world with
    | none => pure (-einval)
    | some slot =>
      setXapollEvents cfg modem .httpClient slot (zsockPollout ||| zsockPollin)

def httpSendRequestHeaders (r : Slot) : SocketM Int := do
  let req ← getRequest r
  let text := httpBuildRequest req
  withCopy modem text do
    match ← httpSendAll modem req.fd text.length text with
    | .failed errno => pure errno.code
    | .done _ =>
      modifyRequest r fun req => { req with state := .sendingBody }
      pure 0

def optionalNum (index : Nat) : Option Int :=
  if index < parser.count then
    match parser.num index with
    | .failed _ => none
    | .done value => some value
  else
    none

def optionalFlag (index : Nat) (default : Bool) : Option (Bool × Nat) :=
  match optionalNum parser index with
  | none => some (default, index)
  | some value =>
    if value = 0 then
      some (false, index + 1)
    else if value = 1 then
      some (true, index + 1)
    else
      none

def optionalBodyLen (method : HttpMethod) (index : Nat) : Option (Int × Nat) :=
  match optionalNum parser index with
  | none => some (0, index)
  | some bodyLen =>
    if method = .post ∨ method = .put then
      if bodyLen < 0 then none else some (bodyLen, index + 1)
    else if bodyLen ≠ 0 then
      none
    else
      some (bodyLen, index + 1)

def httpMethodOf (method : Int) : Option HttpMethod :=
  match method with
  | 0 => some .get
  | 1 => some .post
  | 2 => some .put
  | 3 => some .delete
  | 4 => some .head
  | _ => none

def headerParams (index : Nat) : List (List Byte) :=
  (List.range' index (parser.count + 1 - index)).filterMap fun i =>
    match parser.string i with
    | .failed _ => none
    | .done header =>
      if header = [] ∨ header.head? = some 0 then none else some header

def extraHeaders (index : Nat) : List Byte :=
  (headerParams parser index).flatMap fun header => header ++ crlfStr

def storeExtraHeaders (r : Slot) (headers : List Byte) (next : SocketM Int) : SocketM Int :=
  if headers = [] then
    next
  else if httpExtraHeadersSize < headers.length + 1 then
    pure (-enomem)
  else
    withCopy modem headers do
      modifyRequest r fun req => { req with extraHeaders := headers }
      next

def httpStreamBody (r : Slot) (bodyLen : Int) : SocketM Int := do
  modifyRequest r fun req => { req with requestBodyLen := bodyLen }
  unlessError (httpSendRequestHeaders modem r) do
    let req ← getRequest r
    modify fun world => { world with datamodeReq := some r }
    rspSendText cfg (report "#XHTTPCREQ" [decimal req.fd])
    enterDatamodeWith cfg env httpDatamodeCallback bodyLen

/-- The part of `handle_at_httpcreq` after the request was set up. -/
def httpLaunch (r : Slot) (method : HttpMethod) (bodyLen : Int) : SocketM Int :=
  if (method = .post ∨ method = .put) ∧ 0 < bodyLen then
    httpStreamBody cfg env modem r bodyLen
  else
    unlessError (httpStartRequest cfg modem r) do
      let req ← getRequest r
      rspSendText cfg (report "#XHTTPCREQ" [decimal req.fd])
      pure 0

/-- The part of `handle_at_httpcreq` that fills the request in. -/
def httpSetupRequest (r : Slot) (fd : Int) : SocketM Int :=
  withParam (parser.string 2) fun url =>
    if url = [] ∨ httpUrlMaxLen ≤ url.length then
      pure (-einval)
    else
      withParam (parser.num 3) fun number =>
        match httpMethodOf number with
        | none => pure (-einval)
        | some method =>
          match optionalFlag parser 4 true with
          | none => pure (-einval)
          | some (autoReception, index) =>
            match optionalFlag parser index false with
            | none => pure (-einval)
            | some (hex, index) =>
              match optionalBodyLen parser method index with
              | none => pure (-einval)
              | some (bodyLen, index) => do
                modifyRequest r fun req =>
                  { req with fd := fd, method := method }
                storeExtraHeaders modem r (extraHeaders parser index) do
                  modifyRequest r fun req =>
                    { req with
                      manualMode := !autoReception
                      hexRx := hex }
                  unlessError (httpParseUrlComponents modem r url)
                    (httpLaunch cfg env modem r method bodyLen)

def orCloseRequest (r : Slot) (starting : SocketM Int) : SocketM Int := do
  let err ← starting
  if err ≠ 0 then
    httpCloseRequest r
    pure err
  else
    pure 0

def handleAtHttpcreq : SocketM Int :=
  if parser.count < 4 then
    pure (-einval)
  else
    withParam (parser.num 1) fun fd =>
      withSocket fd fun _ => do
        let world ← get
        if (findRequest fd world).isSome then
          pure (-ebusy)
        else
          match ← allocRequest cfg modem with
          | none => pure (-enomem)
          | some r =>
            orCloseRequest r (httpSetupRequest cfg env modem parser r fd)

/-- The end of `pull_data`, from the label `check_complete` on. -/
def pullCheckComplete (r : Slot) (last : List Byte) : SocketM Int := do
  let req ← getRequest r
  if (0 < req.contentLength ∧ req.contentLength ≤ req.bytesSent) ∨
      (req.contentLength < 0 ∧ req.recvBuf = [] ∧ chunkedEof last = true) then
    httpFinishRequest cfg r
    pure 0
  else
    pure 0

def pullForward (r : Slot) (content : List Byte) : SocketM Unit := do
  let req ← getRequest r
  rspSendText cfg (httpDataHeader req content.length)
  modifyRequest r fun req =>
    { req with bytesSent := int32 (req.bytesSent + content.length) }
  emit (.httpDelivered r req.bytesSent content)
  httpSendPayload cfg req content

/-- `pull_data`.  The bytes looked at for the end of a chunked body are those
at the start of `recv_buf`, where the ones just sent still are. -/
def pullData (fd : Int) (pullLen : Nat) : SocketM Int := do
  let world ← get
  match findRequest fd world with
  | none => pure (-einval)
  | some r =>
    let req ← getRequest r
    if req.manualMode = false then
      pure (-einval)
    else if req.headersComplete = false then
      pure (-eagain)
    else if req.recvBuf ≠ [] then
      let content := req.recvBuf.take pullLen
      pullForward cfg r content
      modifyRequest r fun req =>
        { req with recvBuf := req.recvBuf.drop pullLen }
      pullCheckComplete cfg r content
    else
      match ← zsockRecv modem req.fd pullLen msgDontwait with
      | .failed errno =>
        if (errno.value : Int) = eagain then
          rspSendText cfg (httpDataHeader req 0)
          pure 0
        else
          httpFailRequest cfg r
          pure errno.code
      | .done content =>
        if content = [] then
          httpFinishRequest cfg r
          pure 0
        else
          modifyRequest r fun req =>
            { req with
              totalReceived := int32 (req.totalReceived + content.length) }
          emit (.httpReceived r content)
          pullForward cfg r content
          pullCheckComplete cfg r content

def handleAtHttpcdata : SocketM Int :=
  if parser.count < 2 then
    pure (-einval)
  else
    withParam (parser.num 1) fun fd =>
      let pullLen :=
        match parser.num 2 with
        | .failed _ => httpRecvBufSize - 1
        | .done length =>
          if 3 ≤ parser.count ∧ 0 < length then
            min length.toNat (httpRecvBufSize - 1)
          else
            httpRecvBufSize - 1
      pullData cfg modem fd pullLen

def handleAtHttpccancel : SocketM Int :=
  withParam (parser.num 1) fun fd => do
    let world ← get
    match findRequest fd world with
    | none => pure (-einval)
    | some r =>
      httpCancelRequest cfg r
      pure 0

end SerialModem.Socket
