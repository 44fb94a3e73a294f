import SerialModem.Socket.PollWork

/-!
# AT commands

The set commands of the socket module.  Their read and test commands only
print.  A command handler finds its parameters through a parser that belongs to
the modem library, takes the channel from `sm_at_host_get_current_pipe` and
returns zero or a negative error.
-/

namespace SerialModem.Socket

open Library
open AtHost

variable (cfg : Config) (env : Environment) (modem : Modem)

structure AtParser where
  count : Nat
  /-- `at_parser_num_get` into an `int`. -/
  num : Nat → Outcome Int
  /-- `at_parser_num_get` into a `uint16_t`. -/
  num16 : Nat → Outcome UInt16
  /-- `at_parser_string_ptr_get`. -/
  string : Nat → Outcome (List Byte)

variable (parser : AtParser)

def withParam {Value : Type} (param : Outcome Value) (next : Value → SocketM Int) : SocketM Int :=
  match param with
  | .failed errno => pure errno.code
  | .done value => next value

/-- Go on with the socket of a handle, or return `-EINVAL`. -/
def withSocket (fd : Int) (next : Slot → SocketM Int) : SocketM Int := do
  let world ← get
  match findSocket fd world with
  | none => pure (-einval)
  | some slot => next slot

def unlessError (first next : SocketM Int) : SocketM Int := do
  let err ← first
  if err ≠ 0 then pure err else next

def zsockSocket (family type proto : Int) : SocketM (Outcome Nat) := do
  let world ← get
  let result := modem.zsockSocket world.log family type proto
  emit (.zsockSocket result)
  pure result

def zsockClose (fd : Int) : SocketM (Outcome Unit) := do
  let world ← get
  let result := modem.zsockClose world.log fd
  emit (.zsockClose fd result)
  pure result

def setOption (slot : Slot) (option : SockOption) : SocketM Int := do
  let world ← get
  match ← zsockSetsockopt modem (world.socks slot).fd option with
  | .failed errno => pure errno.code
  | .done _ => pure 0

def bindToPdn (slot : Slot) : SocketM Int := do
  let world ← get
  let cid := (world.socks slot).cid
  if 0 < cid then
    match modem.pdnIdGet world.log cid with
    | .failed errno => pure errno.code
    | .done pdnId => setOption modem slot (.soBindtopdn pdnId)
  else
    pure 0

def dropFd (slot : Slot) : SocketM Unit :=
  modify fun world =>
    (world.setSock slot { world.socks slot with fd := invalidSocket }).record
      (.stored slot invalidSocket)

/-- The label `error` of `do_socket_open` and `do_secure_socket_open`. -/
def abandonSocket (slot : Slot) : SocketM Unit := do
  let world ← get
  let _ ← zsockClose modem (world.socks slot).fd
  dropFd slot

def adoptPollCtx (pollCtx : AsyncPollCtx) (slot : Slot) : SocketM Unit := do
  modifyPoll slot fun poll =>
    { poll with adrFlags := pollCtx.adrFlags, adrHex := pollCtx.adrHex }
  selectEvents .opened slot pollCtx.xapollEventsRequested
  let _ ← updatePollEvents cfg modem .opened slot allPollEvents true
  pure ()

/-- The end of `do_socket_open` and `do_secure_socket_open`, once the
descriptor is set up. -/
def announceSocket (slot : Slot) (name : String) (proto : Int) : SocketM Int := do
  let world ← get
  let sock := world.socks slot
  rspSendText cfg (report name [decimal sock.fd, decimal sock.type, decimal proto])
  let world ← get
  match pollCtxFromSock slot world with
  | none => pure (-einval)
  | some c =>
    adoptPollCtx cfg modem (world.pollCtx c) slot
    pure 0

/-- The common part of `do_socket_open` and `do_secure_socket_open`: obtain a
descriptor, set it up and announce it. -/
def openDescriptor (slot : Slot) (name : String) (modemProto proto : Int)
    (setup : SocketM Int) : SocketM Int := do
  let world ← get
  let sock := world.socks slot
  match ← zsockSocket modem sock.family sock.type modemProto with
  | .failed errno => pure errno.code
  | .done fd =>
    storeFd slot fd
    let ret ← unlessError (setOption modem slot (.soSndtimeo socketSendTmoSec))
      (unlessError (bindToPdn modem slot) setup)
    if ret ≠ 0 then
      abandonSocket modem slot
      pure ret
    else
      announceSocket cfg modem slot name proto

def doSocketOpen (slot : Slot) : SocketM Int := do
  let world ← get
  let sock := world.socks slot
  let opening := openDescriptor cfg modem slot "#XSOCKET"
  if sock.family ≠ afInet ∧ sock.family ≠ afInet6 ∧ sock.family ≠ afPacket then
    pure (-enotsup)
  else if (sock.type = sockRaw ∨ sock.family = afPacket) ∧
      (sock.type ≠ sockRaw ∨ sock.family ≠ afPacket) then
    pure (-einval)
  else if sock.type = sockStream then
    opening ipprotoTcp ipprotoTcp (pure 0)
  else if sock.type = sockDgram then
    opening ipprotoUdp ipprotoUdp (pure 0)
  else if sock.type = sockRaw then
    opening ipprotoRaw ipprotoIp (pure 0)
  else
    pure (-enotsup)

def doSecureSocketOpen (slot : Slot) (peerVerify : UInt16) : SocketM Int := do
  let world ← get
  let sock := world.socks slot
  let proto := if sock.type = sockStream then ipprotoTls12 else ipprotoDtls12
  if sock.family ≠ afInet ∧ sock.family ≠ afInet6 then
    pure (-enotsup)
  else if sock.type ≠ sockStream ∧ sock.type ≠ sockDgram then
    pure (-enotsup)
  else
    openDescriptor cfg modem slot "#XSSOCKET" proto proto
      (unlessError (setOption modem slot (.tlsSecTagList sock.secTag))
        (setOption modem slot (.tlsPeerVerify peerVerify)))

/-- The label `error` of the two commands that open a socket. -/
def orInit (slot : Slot) (opening : SocketM Int) : SocketM Int := do
  let err ← opening
  if err ≠ 0 then
    initSocket cfg slot
    pure err
  else
    pure 0

def withFreeSlot (opening : Slot → SocketM Int) : SocketM Int := do
  let world ← get
  match findAvailSocket world with
  | none => pure (-einval)
  | some slot =>
    initSocket cfg slot
    orInit cfg slot (opening slot)

def openParams (slot : Slot) (next : SocketM Int) : SocketM Int :=
  withParam (parser.num 1) fun family => do
    modifySock slot fun sock => { sock with family := family }
    withParam (parser.num 2) fun type => do
      modifySock slot fun sock => { sock with type := type }
      withParam (parser.num16 3) fun role => do
        modifySock slot fun sock => { sock with role := role }
        next

/-- The optional parameter `cid` of the two commands. -/
def cidParam (slot : Slot) (index : Nat) (next : SocketM Int) : SocketM Int :=
  if index < parser.count then
    withParam (parser.num16 index) fun cid => do
      modifySock slot fun sock => { sock with cid := cid }
      if 10 < cid then pure (-einval) else next
  else
    next

def handleAtSocket : SocketM Int :=
  withFreeSlot cfg fun slot =>
    openParams parser slot (cidParam parser slot 4 (doSocketOpen cfg modem slot))

/-- `ZSOCK_TLS_PEER_VERIFY_REQUIRED`. -/
def tlsPeerVerifyRequired : UInt16 := 2

def peerVerifyParam (next : UInt16 → SocketM Int) : SocketM Int :=
  if 5 < parser.count then
    withParam (parser.num16 5) next
  else
    next tlsPeerVerifyRequired

def handleAtSecureSocket : SocketM Int :=
  withFreeSlot cfg fun slot =>
    openParams parser slot (withParam (parser.num 4) fun secTag => do
        modifySock slot fun sock => { sock with secTag := secTag }
        peerVerifyParam parser fun peerVerify =>
          cidParam parser slot 6 (doSecureSocketOpen cfg modem slot peerVerify))

def doSocketClose (slot : Slot) : SocketM Int := do
  let world ← get
  let fd := (world.socks slot).fd
  if fd = invalidSocket then
    pure 0
  else
    let ret ← match ← zsockClose modem fd with
      | .failed errno => pure errno.code
      | .done _ => pure 0
    rspSendText cfg (report "#XCLOSE" [decimal fd, decimal ret])
    smAtHttpcSocketClosed cfg fd
    initSocket cfg slot
    pure ret

/-- The loop of `handle_at_close` over all sockets; the last error counts. -/
def closeAll : List Slot → Int → SocketM Int
  | [], err => pure err
  | slot :: rest, err => do
    let ret ← doSocketClose cfg modem slot
    closeAll rest (if ret < 0 then ret else err)

def handleAtClose : SocketM Int :=
  if 1 < parser.count then
    withParam (parser.num 1) fun fd =>
      withSocket fd (doSocketClose cfg modem)
  else
    closeAll cfg modem slots 0

def bindToLocalAddr (slot : Slot) (port : UInt16) : SocketM Int := do
  let world ← get
  let sock := world.socks slot
  if sock.family = afInet ∨ sock.family = afInet6 then
    if modem.localAddress world.log sock.cid sock.family then
      let result := modem.zsockBind world.log sock.fd port
      emit (.zsockBind sock.fd port result)
      match result with
      | .failed errno => pure errno.code
      | .done _ =>
        modifySock slot fun sock => { sock with localPort := port }
        pure 0
    else
      pure (-enetdown)
  else
    pure (-einval)

def handleAtBind : SocketM Int :=
  withParam (parser.num 1) fun fd =>
    withSocket fd fun slot =>
      withParam (parser.num16 2) fun port =>
        bindToLocalAddr modem slot port

def doConnect (slot : Slot) (url : List Byte) (port : UInt16) : SocketM Int := do
  let world ← get
  let sock := world.socks slot
  match ← utilResolveHost modem sock.cid url port sock.family with
  | .failed _ => pure (-eagain)
  | .done peer =>
    let world ← get
    let result := modem.zsockConnect world.log sock.fd peer
    emit (.zsockConnect sock.fd peer result)
    match result with
    | .failed errno => pure errno.code
    | .done _ =>
      modifySock slot fun sock => { sock with connected := true }
      rspSendText cfg (report "#XCONNECT" [decimal sock.fd, decimal 1])
      pure 0

/-- `util_string_get` into a buffer of `SM_MAX_URL` bytes. -/
def withUrl (param : Outcome (List Byte)) (next : List Byte → SocketM Int) : SocketM Int :=
  withParam param fun url =>
    if url.length < smMaxUrl then next url else pure (-enomem)

def attachCurrent (slot : Slot) : SocketM Unit := do
  let world ← get
  attachSock slot (smAtHostGetCurrentPipe cfg world.host)

def handleAtConnect : SocketM Int :=
  withParam (parser.num 1) fun fd =>
    withSocket fd fun slot =>
      withUrl (parser.string 2) fun url =>
        withParam (parser.num16 3) fun port => do
          attachCurrent cfg slot
          doConnect cfg modem slot url port

def doListen (slot : Slot) : SocketM Int := do
  let world ← get
  let sock := world.socks slot
  if sock.type ≠ sockStream ∨ sock.localPort = 0 ∨ sock.secTag ≠ secTagTlsInvalid then
    pure (-eopnotsupp)
  else
    let nonblocking := modem.zsockFcntl world.log sock.fd
    emit (.zsockFcntl sock.fd nonblocking)
    match nonblocking with
    | .failed errno => pure errno.code
    | .done _ =>
      let world ← get
      let listening := modem.zsockListen world.log sock.fd
      emit (.zsockListen sock.fd listening)
      match listening with
      | .failed errno => pure errno.code
      | .done _ =>
        modifySock slot fun sock => { sock with listen := true }
        pure 0

def handleAtListen : SocketM Int :=
  withParam (parser.num 1) fun fd =>
    withSocket fd (doListen modem)

/-- What `do_accept` writes into a free slot for an accepted connection. -/
def fillAccepted (slot accepting : Slot) (fd : Nat) (remote : Peer) : SocketM Unit := do
  initSocket cfg slot
  storeFd slot fd
  let world ← get
  modifySock slot fun sock =>
    { sock with
      family := remote.family
      type := sockStream
      role := atSocketRoleClient
      cid := (world.socks accepting).cid
      connected := true }

/-- `do_accept`.  The poll context is looked up first and used last. -/
def doAccept (slot : Slot) : SocketM Int := do
  let world ← get
  let sock := world.socks slot
  if sock.type ≠ sockStream ∨ sock.listen = false then
    pure (-eopnotsupp)
  else
    let pollCtx := pollCtxFromSock slot world
    let result := modem.zsockAccept world.log sock.fd
    emit (.zsockAccept sock.fd result)
    match result with
    | .failed errno => pure errno.code
    | .done (fd, remote) =>
      match findAvailSocket world with
      | none =>
        let _ ← zsockClose modem fd
        pure (-einval)
      | some newSlot =>
        fillAccepted cfg newSlot slot fd remote
        rspSendText cfg (report "#XACCEPT"
          [decimal fd, decimal sock.cid.toNat, quoted remote.address, decimal remote.port.toNat])
        match pollCtx with
        | none => failure
        | some c =>
          let world ← get
          adoptPollCtx cfg modem (world.pollCtx c) newSlot
          -- Restore POLLIN for the listening socket.
          let _ ← updatePollEvents cfg modem .accepted slot zsockPollin true
          pure 0

def handleAtAccept : SocketM Int :=
  withParam (parser.num 1) fun fd =>
    withSocket fd (doAccept cfg modem)

def char2hex (character : Byte) : Option Nat :=
  if 48 ≤ character ∧ character ≤ 57 then
    some (character.toNat - 48)
  else if 97 ≤ character ∧ character ≤ 102 then
    some (character.toNat - 87)
  else if 65 ≤ character ∧ character ≤ 70 then
    some (character.toNat - 55)
  else
    none

/-- The loop of `hex2bin` over pairs of digits. -/
def hexPairs : List Byte → Option (List Byte)
  | high :: low :: rest =>
    match char2hex high, char2hex low, hexPairs rest with
    | some upper, some lower, some bytes =>
      some (UInt8.ofNat (upper * 16 + lower) :: bytes)
    | _, _, _ => none
  | _ => some []

/-- `hex2bin` into `bin_data`; an odd number of digits gets a leading zero. -/
def hex2bin (hex : List Byte) : Option (List Byte) :=
  if binDataSize < hex.length / 2 + hex.length % 2 then
    none
  else if hex.length % 2 = 1 then
    hexPairs (48 :: hex)
  else
    hexPairs hex

def withSendData (mode : UInt16) (index : Nat) (next : List Byte → SocketM Int) : SocketM Int :=
  if index < parser.count then
    withParam (parser.string index) fun text =>
      if mode = atSocketModeHex then
        match hex2bin text with
        | none => pure (-einval)
        | some [] => pure (-einval)
        | some content => next content
      else
        next text
  else
    pure (-einval)

/-- The result of a command that sent `length` bytes. -/
def sendResult (length : Nat) (err : Int) : Int :=
  if err = length then 0 else if err < 0 then err else -eagain

/-- The optional parameter `data_len` of a send in data mode. -/
def dataLenParam (index : Nat) (next : Int → SocketM Int) : SocketM Int :=
  if index < parser.count then
    withParam (parser.num index) next
  else
    next 0

def enterDatamodeWith (handler : HandlerId) (dataLen : Int) : SocketM Int := do
  let world ← get
  match enterDatamode cfg (outside env) handler (UInt32.ofInt dataLen) world.host with
  | none => failure
  | some (entered, host) =>
    set (world.setHost host)
    pure (if entered then 0 else -einval)

def recordSession (slot : Slot) (destination : Destination) : SocketM Unit := do
  let world ← get
  match smAtHostGetCurrent cfg world.host with
  | none => pure ()
  | some c =>
    emit (.sessionEntered c slot (world.socks slot).generation destination)

def pollInDatamode (slot : Slot) : SocketM Unit := do
  let world ← get
  if (world.poll slot).adrFlags &&& smAdrDataMode != 0 then
    let _ ← updatePollEvents cfg modem .reception slot zsockPollin false
    pure ()
  else
    pure ()

/-- The branch of `handle_at_send` and `handle_at_sendto` that enters data
mode. -/
def enterSocketSession (slot : Slot) (dataLen : Int) (destination : Destination) : SocketM Int := do
  let world ← get
  match pollCtxFromSock slot world with
  | none => failure
  | some p =>
    set (world.setPollCtx p { world.pollCtx p with datamodeSock := some slot })
    unlessError (enterDatamodeWith cfg env socketDatamodeCallback dataLen) do
      recordSession cfg slot destination
      pollInDatamode cfg modem slot
      pure 0

def setSendFlags (slot : Slot) (flags : Int) : SocketM Unit :=
  modifySock slot fun sock => { sock with sendFlags := BitVec.ofInt 32 flags }

def handleAtSend : SocketM Int :=
  withParam (parser.num 1) fun fd =>
    withSocket fd fun slot =>
      withParam (parser.num16 2) fun mode =>
        withParam (parser.num 3) fun flags => do
          setSendFlags slot flags
          attachCurrent cfg slot
          if mode = atSocketModeUnformatted ∨ mode = atSocketModeHex then
            withSendData parser mode 4 fun content => do
              let err ← doSend cfg modem slot content (BitVec.ofInt 32 flags)
              pure (sendResult content.length err)
          else if mode = atSocketModeData then
            dataLenParam parser 4 fun dataLen =>
              enterSocketSession cfg env modem slot dataLen .peer
          else
            pure (-einval)

/-- `util_string_get` into `udp_url`. -/
def withUdpUrl (next : List Byte → SocketM Int) : SocketM Int :=
  withParam (parser.string 4) fun url =>
    if url.length ≤ smMaxUrl then do
      modify fun world => { world with udpUrl := url }
      if url.length < smMaxUrl then next url else pure (-enomem)
    else
      pure (-enomem)

def handleAtSendto : SocketM Int :=
  withParam (parser.num 1) fun fd =>
    withSocket fd fun slot =>
      withParam (parser.num16 2) fun mode =>
        withParam (parser.num 3) fun flags => do
          setSendFlags slot flags
          withUdpUrl parser fun url =>
            withParam (parser.num16 5) fun port => do
              modify fun world => { world with udpPort := port }
              attachCurrent cfg slot
              if mode = atSocketModeUnformatted ∨ mode = atSocketModeHex then
                withSendData parser mode 6 fun content => do
                  let err ← doSendto cfg modem slot (cString url) port content
                    (BitVec.ofInt 32 flags)
                  modify fun world => { world with udpUrl := [] }
                  pure (sendResult content.length err)
              else if mode = atSocketModeData then
                dataLenParam parser 6 fun dataLen =>
                  enterSocketSession cfg env modem slot dataLen (.url (cString url) port)
              else
                pure (-einval)

/-- The optional parameter `data_len` of the receive commands. -/
def receiveLenParam (next : Nat → SocketM Int) : SocketM Int :=
  if 5 < parser.count then
    withParam (parser.num 5) fun dataLen =>
      -- The comparison is unsigned.
      if 0 ≤ dataLen ∧ dataLen ≤ smMaxMessageSize then
        next dataLen.toNat
      else
        pure (-enobufs)
  else
    next smMaxMessageSize

/-- `handle_at_recv` and `handle_at_recvfrom`, with the function that
receives. -/
def handleReceive (receive : Slot → Int → BitVec 32 → UInt16 → Nat → SocketM Int) : SocketM Int :=
  withParam (parser.num 1) fun fd =>
    withSocket fd fun slot =>
      withParam (parser.num16 2) fun mode =>
        if mode ≠ atSocketModeUnformatted ∧ mode ≠ atSocketModeHex then
          pure (-einval)
        else
          withParam (parser.num 3) fun flags =>
            withParam (parser.num 4) fun timeout =>
              receiveLenParam parser fun dataLen => do
                attachCurrent cfg slot
                asReception slot false (receive slot timeout (BitVec.ofInt 32 flags) mode dataLen)

def handleAtRecv : SocketM Int :=
  handleReceive cfg parser (doRecv cfg modem)

def handleAtRecvfrom : SocketM Int :=
  handleReceive cfg parser (doRecvfrom cfg modem)

def withOptionalSocket (next : Option Slot → SocketM Int) : SocketM Int :=
  let selected (fd : Int) : SocketM Int :=
    if fd ≠ -1 then withSocket fd fun slot => next (some slot) else next none
  match parser.num 1 with
  | .done fd => selected fd
  | .failed errno =>
    if (errno.value : Int) = enodata then selected (-1) else pure errno.code

def atAsyncpollStop : Int := 0

def atAsyncpollStart : Int := 1

def handleAtXapoll : SocketM Int :=
  withOptionalSocket parser fun sock =>
    match parser.num 2 with
    | .failed _ => pure (-einval)
    | .done op =>
      if op = atAsyncpollStop then do
        match sock with
        | some slot => xapollStop .stopped slot
        | none => xapollStopAll cfg
        pure 0
      else if op = atAsyncpollStart then
        withParam (parser.num16 3) fun events =>
          let events := BitVec.ofNat 16 events.toNat
          if events &&& ~~~(zsockPollin ||| zsockPollout).setWidth 16 ≠ 0
              then
            pure (-einval)
          else
            -- The modem library always returns these.
            let requested := events.setWidth 8 ||| permanentEvents
            match sock with
            | some slot => setXapollEvents cfg modem .started slot requested
            | none => setXapollEventsAll cfg modem requested
      else
        pure (-einval)

def configureReception (slot : Slot) (flags : BitVec 8) (hex : Bool) : SocketM Int := do
  modifyPoll slot fun poll => { poll with adrFlags := flags, adrHex := hex }
  updatePollEvents cfg modem .reception slot zsockPollin false

/-- The loop of `handle_at_recvcfg`; it stops at the first error. -/
def configureReceptionLoop (pipe : Option PipeId) (flags : BitVec 8)
    (hex : Bool) : List Slot → Int → SocketM Int
  | [], err => pure err
  | slot :: rest, err => do
    let world ← get
    if ofPipe pipe slot world then
      let ret ← configureReception cfg modem slot flags hex
      if ret ≠ 0 then
        pure ret
      else
        configureReceptionLoop pipe flags hex rest ret
    else
      configureReceptionLoop pipe flags hex rest err

def hexModeParam (next : Bool → SocketM Int) : SocketM Int :=
  if 3 < parser.count then
    match parser.num16 3 with
    | .failed _ => pure (-einval)
    | .done hexMode =>
      if hexMode = atSocketModeUnformatted then
        next false
      else if hexMode = atSocketModeHex then
        next true
      else
        pure (-einval)
  else
    next false

/-- What `handle_at_recvcfg` does with valid parameters. -/
def applyReception (pipe : Option PipeId) (sock : Option Slot)
    (flags : BitVec 8) (hex : Bool) : SocketM Int := do
  match sock with
  | some slot =>
    attachSock slot pipe
    configureReception cfg modem slot flags hex
  | none =>
    let world ← get
    match smAtHostGetAsyncPollCtx pipe world.host with
    | none => failure
    | some c =>
      set (world.setPollCtx c { world.pollCtx c with adrFlags := flags, adrHex := hex })
      configureReceptionLoop cfg modem pipe flags hex slots 0

def handleAtRecvcfg : SocketM Int := do
  let world ← get
  let pipe := smAtHostGetCurrentPipe cfg world.host
  withOptionalSocket parser fun sock =>
    match parser.num16 2 with
    | .failed _ => pure (-einval)
    | .done flags =>
      if flags.toNat ≤ 3 then
        let flags := BitVec.ofNat 8 flags.toNat
        hexModeParam parser fun hex =>
          if flags &&& smAdrDataMode ≠ 0 ∧ hex = true then
            pure (-einval)
          else
            applyReception cfg modem pipe sock flags hex
      else
        pure (-einval)

end SerialModem.Socket
