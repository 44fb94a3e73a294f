import SerialModem.AtHost.Context

/-!
# Data mode

Bytes received in data mode are collected in the data ring of the context and
handed to the data-mode handler when the ring is full, when the inactivity
work runs, when the requested length is reached or when the terminator is
recognised.  A handler that fails moves its context to null mode, where bytes
are dropped until the terminator arrives.

`raw_send` and `write_data_buf` act on the context that is being served, which
need not be the one whose byte is processed.  They end in `none` where the
firmware would not return: a missing context is dereferenced, or the loop of
`write_data_buf` finds no room that a flush could make.
-/

namespace SerialModem.AtHost

open Library

variable (cfg : Config) (env : Environment)

def eagain : Int := 11

/-- `handler(DATAMODE_EXIT, NULL, 0, flags)`, when there is a handler. -/
def callHandlerExit (c : CtxId) (flags : Flags) (host : Host) : Host :=
  match (host.data c).handler with
  | none => host
  | some handler =>
    performCalls cfg (env.handlerExit host.history c handler flags)
      (host.record (.handlerExit c handler flags))

/-- `exit_datamode_handler`: drop the handler and start discarding.  On
success the served context is cleared, also when the caller is in the middle
of serving it. -/
def exitDatamodeHandler (c : CtxId) (result : Int) (host : Host) : Host :=
  match setSmMode cfg env c .nullMode host with
  | none => host
  | some switched =>
    let served :=
      (switched.record (.exitDatamodeHandler c result)).setCurrentCtx (some c)
    let exited := callHandlerExit cfg env c ⟨false, true⟩ served
    (exited.setData c
      { exited.data c with
        handler := none
        handlerResult := result
        dataLen := 0 }).setCurrentCtx none

/-- `exit_datamode`.  The answer goes to the served context, the state change
to `c`. -/
def exitDatamode (c : CtxId) (host : Host) : Host :=
  match setSmMode cfg env c .atCommandMode host with
  | none => host
  | some switched =>
    let exited := callHandlerExit cfg env c Flags.none switched
    let data := exited.data c
    let result : Int := if data.handlerResult = 0 then 0 else -1
    let cleared := exited.setData c
      { data with
        handler := none
        dataLen := 0
        quitStrMatch := 0
        dataRb := data.dataRb.reset
        handlerResult := result }
    let answered := rspSend cfg (.xdatamode result) cleared
    let finished := answered.setData c { answered.data c with handlerResult := 0 }
    (smAtHostEventNotify c .atMode finished).record (.exitDatamode c)

/-- `handler(DATAMODE_SEND, ...)`, with what the handler does to the host. -/
def callHandlerSend (c : CtxId) (handler : HandlerId) (content : List Byte) (flags : Flags)
    (host : Host) : Int × Host :=
  let reply := env.handlerSend host.history c handler content flags
  let called := performCalls cfg reply.calls host
  let exited :=
    match reply.exitResult, smAtHostGetCurrent cfg called with
    | some result, some current =>
      exitDatamodeHandler cfg env current result called
    | _, _ => called
  let finished := performCalls cfg reply.callsAfterExit exited
  (reply.result, finished.record (.handlerSend c handler content flags reply.result))

/-- `ring_buf_get_finish` on the data ring of `c`. -/
def finishClaim (c : CtxId) (count : Nat) (host : Host) : Host :=
  host.setData c { host.data c with dataRb := (host.data c).dataRb.getFinish count }

/-- The loop of `raw_send`.  `retry` is the local that allows one result of
zero after each success. -/
def rawSendLoop (c : CtxId) (flags : Flags) : Nat → Bool → Host → Option Host
  | 0, _, _ => none
  | fuel + 1, retry, host =>
    let ring := (host.data c).dataRb
    let claim := ring.getClaim cfg.datamodeBufSize
    if claim = [] then
      some host
    else
      let sendFlags : Flags :=
        if claim.length ≠ ring.sizeGet then
          { flags with moreData := true }
        else
          flags
      match (host.data c).handler with
      | none =>
        -- No handler: the claim is dropped.
        rawSendLoop c flags fuel retry (finishClaim c claim.length host)
      | some handler =>
        let (result, sent) :=
          callHandlerSend cfg env c handler claim sendFlags host
        if result < 0 ∨ (result = 0 ∧ retry = false) then
          let failure := if result = 0 then -eagain else result
          let dropped := exitDatamodeHandler cfg env c failure sent
          rawSendLoop c flags fuel retry (finishClaim c claim.length dropped)
        else if result = 0 then
          rawSendLoop c flags fuel false (finishClaim c 0 sent)
        else
          rawSendLoop c flags fuel true (finishClaim c result.toNat sent)

/-- `raw_send`.  Every second iteration at the latest takes a byte off the
ring, so the fuel is never used up. -/
def rawSend (flags : Flags) (host : Host) : Option Host :=
  match smAtHostGetCurrent cfg host with
  | none => none
  | some c =>
    rawSendLoop cfg env c flags (2 * (host.data c).dataRb.sizeGet + 2) true
      (host.record (.rawSend c flags))

/-- `ring_buf_put` on the data ring of `c`. -/
def storeBytes (c : CtxId) (content : List Byte) (host : Host) : Host :=
  host.setData c { host.data c with dataRb := (host.data c).dataRb.put content }

def writeDataBufLoop (c : CtxId) : Nat → List Byte → Host → Option Host
  | _, [], host => some host
  | 0, _ :: _, _ => none
  | fuel + 1, byte :: rest, host =>
    let stored := (host.data c).dataRb.putCount (byte :: rest)
    if stored = 0 then
      match rawSend cfg env ⟨true, false⟩ host with
      | none => none
      | some flushed => writeDataBufLoop c fuel (byte :: rest) flushed
    else
      writeDataBufLoop c fuel ((byte :: rest).drop stored) (storeBytes c (byte :: rest) host)

/-- `write_data_buf` before its loop: an empty ring is rewound, so that a
datagram is stored contiguously. -/
def startWrite (c : CtxId) (content : List Byte) (host : Host) : Host :=
  let started := host.record (.writeDataBuf c content)
  if (started.data c).dataRb.isEmpty then
    started.setData c { started.data c with dataRb := (started.data c).dataRb.reset }
  else
    started

/-- `write_data_buf`.  A loop that goes on for longer than one store and one
flush for each byte makes no progress and never ends. -/
def writeDataBuf (content : List Byte) (host : Host) : Option Host :=
  match smAtHostGetCurrent cfg host with
  | none => none
  | some c =>
    writeDataBufLoop cfg env c (2 * content.length + 1) content (startWrite c content host)

def setQuitStrMatch (c : CtxId) (count : UInt8) (host : Host) : Host :=
  host.setData c { host.data c with quitStrMatch := count }

/-- `raw_send_scheduled`: a partial terminator is data after all. -/
def rawSendScheduled (c : CtxId) (host : Host) : Option Host :=
  let served := host.setCurrentCtx (some c)
  let partialMatch := (served.data c).quitStrMatch
  let written :=
    if 0 < partialMatch then
      (writeDataBuf cfg env (cfg.terminator.take partialMatch.toNat) served).map
        (setQuitStrMatch c 0)
    else
      some served
  match written with
  | none => none
  | some ready =>
    (rawSend cfg env Flags.none ready).map (Host.setCurrentCtx · none)

/-- The branch of `raw_rx_handler` for a byte that continues the terminator. -/
def advanceQuitStr (c : CtxId) (host : Host) : Option Host :=
  let count := (host.data c).quitStrMatch + 1
  let counted := setQuitStrMatch c count host
  if count.toNat = cfg.terminator.length then
    (rawSend cfg env Flags.none counted).map fun sent =>
      setQuitStrMatch c 0 (exitDatamode cfg env c sent)
  else
    some counted

def rawRxHandler (c : CtxId) (byte : Byte) (host : Host) : Option Host :=
  if 0 < (host.data c).dataLen then
    match writeDataBuf cfg env [byte] host with
    | none => none
    | some written =>
      let remaining := (written.data c).dataLen - 1
      let counted :=
        written.setData c { written.data c with dataLen := remaining }
      if remaining = 0 then
        (rawSend cfg env Flags.none counted).map (exitDatamode cfg env c)
      else
        some counted
  else
    let matched := (host.data c).quitStrMatch
    if cfg.terminator[matched.toNat]? = some byte then
      advanceQuitStr cfg env c host
    else if 0 < matched then
      match writeDataBuf cfg env (cfg.terminator.take matched.toNat) host with
      | none => none
      | some written =>
        let restarted := setQuitStrMatch c 0 written
        -- `goto retry_match`, which now finds no partial match.
        if cfg.terminator[0]? = some byte then
          advanceQuitStr cfg env c restarted
        else
          writeDataBuf cfg env [byte] restarted
    else
      writeDataBuf cfg env [byte] host

def nullHandler (c : CtxId) (byte : Byte) (host : Host) : Host :=
  let data := host.data c
  let continues :=
    cfg.terminator[data.nullMatchCount.toNat]? = some byte
  let matched := if continues then data.nullMatchCount + 1 else 0
  let dropped := data.nullDroppedCount + 1
  if continues ∧ matched.toNat = cfg.terminator.length then
    let reported := dropped - UInt32.ofNat cfg.terminator.length + UInt32.ofNat data.dataRb.sizeGet
    let exited := exitDatamode cfg env c (host.setData c
        { data with nullMatchCount := matched, nullDroppedCount := reported })
    exited.setData c { exited.data c with nullMatchCount := 0, nullDroppedCount := 0 }
  else
    host.setData c { data with nullMatchCount := matched, nullDroppedCount := dropped }

def uartRxMarginMs : UInt16 := 10

def getMinDataModeIdleTimeoutMs (host : Host) : UInt16 :=
  if host.uartBaudrate = 0 then
    1000
  else
    (cfg.uartRxBufSize * (8 + 1 + 1) * 1000 / host.uartBaudrate).toUInt16 + uartRxMarginMs

/-- `enter_datamode`; the flag is false for the result `-EINVAL`. -/
def enterDatamode (handler : HandlerId) (dataLen : UInt32) (host : Host) : Option (Bool × Host) :=
  match smAtHostGetCurrent cfg host with
  | none => none
  | some c =>
    if (host.data c).handler.isSome then
      some (false, host)
    else
      match setSmMode cfg env c .dataMode host with
      | none => some (false, host)
      | some switched =>
        let data := switched.data c
        let timeLimit :=
          if data.timeLimit = 0 then
            getMinDataModeIdleTimeoutMs cfg switched
          else
            data.timeLimit
        some (true, (switched.setData c
            { data with
              dataRb := data.dataRb.reset
              handler := some handler
              dataLen := dataLen
              timeLimit := timeLimit }).record
            (.enterDatamode c handler dataLen))

end SerialModem.AtHost
