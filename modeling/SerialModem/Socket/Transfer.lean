import SerialModem.Socket.Reception

/-!
# Sending

A send that asks for it is acknowledged by the network later on: the modem
calls `send_cb` in an interrupt, which leaves the result in the socket and
queues one work item, shared by all sockets, on the channel of the socket.
-/

namespace SerialModem.Socket

open Library
open AtHost

variable (cfg : Config) (modem : Modem)

def zsockSend (fd : Int) (content : List Byte) (flags : BitVec 32) : SocketM (Outcome Nat) := do
  let world ← get
  let result : Outcome Nat :=
    match modem.zsockSend world.log fd content flags with
    | .failed errno => .failed errno
    | .done taken => .done taken.count
  emit (.zsockSend fd content result)
  pure result

/-- `zsock_sendto`.  An empty datagram counts as failed, as the caller takes a
result of zero for an error. -/
def zsockSendto (fd : Int) (content : List Byte) (flags : BitVec 32)
    (peer : Peer) : SocketM (Outcome Nat) := do
  let world ← get
  let result : Outcome Nat :=
    match modem.zsockSendto world.log fd content flags peer with
    | .failed errno => .failed errno
    | .done taken => .done taken.count
  emit (.zsockSendto fd content peer result)
  pure result

def utilResolveHost (cid : UInt16) (url : List Byte) (port : UInt16)
    (family : Int) : SocketM (Outcome Peer) := do
  let world ← get
  let result := modem.resolveHost world.log cid url port family
  emit (.resolveHost url port result)
  pure result

def setSoSendCb (slot : Slot) : SocketM Int := do
  let world ← get
  let sock := world.socks slot
  if sock.sendCbSet then
    pure 0
  else
    match ← zsockSetsockopt modem sock.fd (.soSendcb true) with
    | .failed errno => pure errno.code
    | .done _ =>
      modifySock slot fun sock => { sock with sendCbSet := true }
      pure 0

def clearSoSendCb (slot : Slot) : SocketM Int := do
  let world ← get
  let sock := world.socks slot
  if sock.sendCbSet then
    let result ← zsockSetsockopt modem sock.fd (.soSendcb false)
    modifySock slot fun sock => { sock with sendCbSet := false }
    match result with
    | .failed errno => pure errno.code
    | .done _ => pure 0
  else
    pure 0

def asksForAck (flags : BitVec 32) : Bool :=
  flags &&& smMsgSendAck != 0

def prepareSendCb (slot : Slot) (flags : BitVec 32) : SocketM Int :=
  if asksForAck flags then
    setSoSendCb modem slot
  else
    clearSoSendCb modem slot

/-- `AT_SOCKET_SEND_RESULT_NW_ACK_URC` or `AT_SOCKET_SEND_RESULT_DEFAULT`. -/
def sendResultMode (flags : BitVec 32) : Int :=
  if asksForAck flags then 1 else 0

/-- The loop of `do_send`: the last result and the bytes sent.  Each iteration
takes a byte at least, so the fuel is never used up. -/
def sendLoop (fd : Int) (flags : BitVec 32) : Nat → List Byte → Int → Nat → SocketM (Int × Nat)
  | 0, _, ret, sent => pure (ret, sent)
  | _ + 1, [], ret, sent => pure (ret, sent)
  | fuel + 1, byte :: rest, _, sent => do
    match ← zsockSend modem fd (byte :: rest) flags with
    | .failed errno => pure (errno.code, sent)
    | .done count =>
      sendLoop fd flags fuel ((byte :: rest).drop count) count (sent + count)

/-- The end of `do_send` and `do_sendto`: POLLOUT is polled again, unless the
acknowledgement will do that. -/
def pollAfterSend (slot : Slot) (flags : BitVec 32) : SocketM Unit :=
  if asksForAck flags then
    pure ()
  else do
    let _ ← updatePollEvents cfg modem .sent slot zsockPollout true
    pure ()

def doSend (slot : Slot) (content : List Byte) (flags : BitVec 32) : SocketM Int := do
  let world ← get
  let fd := (world.socks slot).fd
  let ret ← prepareSendCb modem slot flags
  if ret < 0 then
    pure ret
  else
    let (ret, sent) ← sendLoop modem fd (flags &&& ~~~smMsgSendAck) content.length content ret 0
    let world ← get
    if inDatamodeCtx (smAtHostGetCurrent cfg world.host) world.host then
      pure ()
    else
      rspSendText cfg (report "#XSEND" [decimal fd, decimal (sendResultMode flags), decimal sent])
    pollAfterSend cfg modem slot flags
    pure (if 0 < sent then sent else ret)

/-- The loop of `do_sendto`; a datagram is sent once. -/
def sendtoLoop (fd : Int) (datagram : Bool) (flags : BitVec 32) (peer : Peer) :
    Nat → List Byte → Nat → SocketM (Int × Nat)
  | 0, _, sent => pure (0, sent)
  | fuel + 1, content, sent => do
    match ← zsockSendto modem fd content flags peer with
    | .failed errno => pure (errno.code, sent)
    | .done count =>
      if datagram ∨ content.drop count = [] then
        pure (count, sent + count)
      else
        sendtoLoop fd datagram flags peer fuel (content.drop count) (sent + count)

def doSendto (slot : Slot) (url : List Byte) (port : UInt16)
    (content : List Byte) (flags : BitVec 32) : SocketM Int := do
  let world ← get
  let sock := world.socks slot
  match ← utilResolveHost modem sock.cid url port sock.family with
  | .failed _ => pure (-eagain)
  | .done peer =>
    let ret ← prepareSendCb modem slot flags
    if ret < 0 then
      pure ret
    else
      let datagram := sock.type == sockDgram
      let (ret, sent) ← sendtoLoop modem sock.fd datagram
        (flags &&& ~~~smMsgSendAck) peer (content.length + 1) content 0
      -- A datagram that was sent in part counts as not sent.
      let cut := ret ≥ 0 ∧ datagram ∧ sent ≠ content.length
      let ret := if cut then -eagain else ret
      let sent := if cut then 0 else sent
      let world ← get
      if inDatamodePipe (world.socks slot).pipe world.host then
        pure ()
      else
        rspSendText cfg (report "#XSENDTO"
          [decimal sock.fd, decimal (sendResultMode flags), decimal sent])
      pollAfterSend cfg modem slot flags
      pure (if 0 < sent then sent else ret)

def queueIdleWork (pipe : Option PipeId) (item : IdleItem) : SocketM Unit := do
  let world ← get
  match smAtHostQueueIdleWork pipe item world.machine with
  | none => failure
  | some machine => set { world with machine := machine }

/-- The part of `send_cb` that stores a result in a socket. -/
def storeSendNtf (slot : Slot) (status : Int) (bytesSent : Nat) : SocketM Unit :=
  modify fun world =>
    (world.setSock slot
      { world.socks slot with
        sendNtf :=
          { ready := true, status := status, bytesSent := bytesSent } }).record
      (.sendCallback slot status bytesSent true)

def sendCb (fd : Int) (status : Int) (bytesSent : Nat) : SocketM Unit := do
  let world ← get
  match findSocket fd world with
  | none => pure ()
  | some slot =>
    if (world.socks slot).sendNtf.ready then
      emit (.sendCallback slot status bytesSent false)
    else
      storeSendNtf slot status bytesSent
      queueIdleWork (world.socks slot).pipe .sendCb

/-- The status that `#XSENDNTF` shows. -/
def shownStatus (status : Int) : Int :=
  if status = 0 then 0 else -1

/-- The part of `send_cb_fn` that takes the result out of a socket. -/
def takeSendNtf (slot : Slot) : SocketM Unit :=
  modify fun world =>
    let sock := world.socks slot
    (world.setSock slot { sock with sendNtf := { sock.sendNtf with ready := false } }).record
      (.xsendntf slot sock.fd (shownStatus sock.sendNtf.status) sock.sendNtf.bytesSent)

def sendCbFnStep (slot : Slot) : SocketM Unit := do
  let world ← get
  let sock := world.socks slot
  if world.occupied slot ∧ sock.sendNtf.ready then
    takeSendNtf slot
    urcSendToPipe cfg sock.pipe (report "#XSENDNTF"
      [decimal sock.fd, decimal (shownStatus sock.sendNtf.status), decimal sock.sendNtf.bytesSent])
    let _ ← updatePollEvents cfg modem .acknowledged slot zsockPollout true
    pure ()
  else
    pure ()

def sendCbFn : SocketM Unit :=
  slots.forM (sendCbFnStep cfg modem)

end SerialModem.Socket
