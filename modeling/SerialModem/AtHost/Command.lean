import SerialModem.AtHost.DataMode

/-!
# AT commands

`cmd_rx_handler` collects a command line, `cmd_send` checks its grammar, hands
it to the modem and sends the final result.  Character strings are lists of
bytes without their closing NUL; reading past the end reads that NUL.
-/

namespace SerialModem.AtHost

open Library

variable (cfg : Config) (env : Environment)

def ascii (text : String) : List Byte :=
  text.toList.map fun character => UInt8.ofNat character.toNat

def crlfStr : List Byte := [13, 10]

def toupper (character : Byte) : Byte :=
  if 97 ≤ character ∧ character ≤ 122 then character - 32 else character

/-- `isalpha(c) || isdigit(c) || c == '_'`. -/
def isBodyCharacter (character : Byte) : Bool :=
  (65 ≤ character && character ≤ 90) || (97 ≤ character && character ≤ 122) ||
    (48 ≤ character && character ≤ 57) || character == 95

/-- The character at an index; the closing NUL stands past the end. -/
def charAt (text : List Byte) (index : Nat) : Byte :=
  text.getD index 0

/-- `cmd_grammar_check`; `true` stands for the result zero. -/
def cmdGrammarCheck (cmd : List Byte) : Bool :=
  if cmd.length < 2 ∨ toupper (charAt cmd 0) ≠ 65 ∨ toupper (charAt cmd 1) ≠ 84 then
    false
  else
    let cmd := cmd.drop 2
    if charAt cmd 0 = 0 then
      true
    else if toupper (charAt cmd 0) = 69 ∧
        (charAt cmd 1 = 48 ∨ charAt cmd 1 = 49) ∧ charAt cmd 2 = 0 then
      true
    else if charAt cmd 0 ≠ 43 ∧ charAt cmd 0 ≠ 37 ∧ charAt cmd 0 ≠ 35 then
      false
    else
      let body := cmd.drop 1
      let cmd := body.dropWhile isBodyCharacter
      if cmd.length = body.length then
        false
      else if charAt cmd 0 = 0 then
        true
      else if charAt cmd 0 ≠ 61 ∧ charAt cmd 0 ≠ 63 then
        false
      else if charAt cmd 0 = 63 then
        charAt cmd 1 == 0
      else if charAt cmd 1 = 0 then
        true
      else if charAt cmd 1 = 63 then
        charAt cmd 2 == 0
      else
        true

/-- The last index below `count` at which `str2` starts in `str1`. -/
def lastIndexOf (str1 str2 : List Byte) : Nat → Option Nat
  | 0 => none
  | index + 1 =>
    if (str1.drop index).take str2.length = str2 then
      some index
    else
      lastIndexOf str1 str2 index

def strrstr (str1 str2 : List Byte) : Option Nat :=
  if str2.length > str1.length ∨ str1.length = 0 ∨ str2.length = 0 then
    none
  else
    lastIndexOf str1 str2 (str1.length - str2.length + 1)

def formatFinalResult (buf : List Byte) (bufMaxLen : Nat) : List Byte :=
  let found :=
    (strrstr buf (ascii "OK\r\n")).orElse fun _ =>
    (strrstr buf (ascii "ERROR\r\n")).orElse fun _ =>
    (strrstr buf (ascii "+CME ERROR:")).orElse fun _ =>
      strrstr buf (ascii "+CMS ERROR:")
  match found with
  | none => buf
  | some result =>
    if result ≠ crlfStr.length ∧ buf.length + crlfStr.length < bufMaxLen then
      buf.take result ++ crlfStr ++ buf.drop result
    else
      buf

def rspSendError (host : Host) : Host :=
  rspSend cfg .error host

/-- One action of a command handler; `none` where a missing context would be
dereferenced. -/
def performAction (action : CommandAction) (host : Host) : Option Host :=
  match action with
  | .call hostCall => some (performCall cfg hostCall host)
  | .enterDatamode handler dataLen =>
    (enterDatamode cfg env handler dataLen host).map Prod.snd
  | .echo enable =>
    (smAtHostGetCurrent cfg host).map fun c =>
      let command := host.command c
      let switched := host.setCommand c { command with echoEnabled := enable }
      switched.setCtx c { switched.ctx c with idleTimer := false }
  | .datactrl timeLimit =>
    (smAtHostGetCurrent cfg host).map fun c =>
      if timeLimit < getMinDataModeIdleTimeoutMs cfg host then
        host
      else
        host.setData c { host.data c with timeLimit := timeLimit }

def performActions : List CommandAction → Host → Option Host
  | [], host => some host
  | action :: rest, host =>
    (performAction cfg env action host).bind (performActions rest)

/-- `strncasecmp(at_cmd, name, strlen(name)) == 0`. -/
def hasPrefixIgnoringCase (cmd name : List Byte) : Bool :=
  (cmd.take name.length).map toupper == name.map toupper

/-- `handle_bootloader_at_cmd`.  `AT#XRESET` only schedules the restart of the
device. -/
def handleBootloaderAtCmd (c : CtxId) (atCmd : List Byte) (host : Host) : Option Host :=
  if hasPrefixIgnoringCase atCmd (ascii "AT#XDFUINIT") ∨
      hasPrefixIgnoringCase atCmd (ascii "AT#XDFUWRITE") ∨
      hasPrefixIgnoringCase atCmd (ascii "AT#XDFUAPPLY") then
    let reply := env.bootloaderCommand host.history c atCmd
    (performActions cfg env reply.1 host).map fun ran =>
      if reply.2 then
        rspSend cfg .ok ran
      else
        rspSendError cfg ran
  else if hasPrefixIgnoringCase atCmd (ascii "AT#XRESET") then
    some host
  else
    some (rspSendError cfg host)

/-- Skip to the first `AT` of the line; the loop of `cmd_send`.  A line without
one is kept whole. -/
def skipToAt : List Byte → Option (List Byte)
  | first :: second :: rest =>
    if toupper first = 65 ∧ toupper second = 84 then
      some (first :: second :: rest)
    else
      skipToAt (second :: rest)
  | _ => none

def cmdSend (c : CtxId) (line : List Byte) (called : Host) : Option Host :=
  let host := called.record (.cmdSend c line)
  let atCmd := (skipToAt line).getD line
  if cmdGrammarCheck atCmd = false then
    some (rspSendError cfg host)
  else if host.bootloaderMode then
    handleBootloaderAtCmd cfg env c atCmd host
  else
    let locked := addExecutingLock c 1 host
    let reply :=
      env.atCommand locked.history c (atCmd.takeWhile fun byte => byte ≠ 0)
    (performActions cfg env reply.actions locked).map fun ran =>
      match reply.result with
      | .continueRet => ran
      | .silentRet => addExecutingLock c (-1) ran
      | .failed => addExecutingLock c (-1) (rspSendError cfg ran)
      | .responded content =>
        let response := crlfStr ++ content
        let answered :=
          if response.length > crlfStr.length then
            ran.record (.finalResult c (formatFinalResult response cfg.responseBufSize))
          else
            ran
        addExecutingLock c (-1) answered

def cmdFinnishOrFail (c : CtxId) (host : Host) : Host :=
  let command := host.command c
  let shrink := atBufMinSize < command.atBufSize ∧ env.alloc host.history c atBufMinSize
  let cleared := host.setCommand c
    { command with
      insideQuotes := false
      atCmdLen := 0
      echoLen := 0
      atBufSize := if shrink then atBufMinSize else command.atBufSize }
  smAtHostEventNotify c .urc (cleared.setCtx c { cleared.ctx c with idleTimer := false })

def handleEcho (c : CtxId) (byte : Byte) (send : Bool) (host : Host) : Host :=
  let command := host.command c
  if command.echoEnabled then
    let echoLen := command.echoLen + 1
    let counted := host.setCommand c { command with echoLen := echoLen }
    if echoLen < cfg.atEchoMaxLen then
      counted.record (.echoed c [byte])
    else if send then
      -- A truncated echo still shows the termination characters.
      counted.record (.echoed c (match cfg.termination with
        | .cr => [13]
        | .lf => [10]
        | .crLf => [13, 10]))
    else
      counted
  else
    host

/-- The end of `cmd_rx_handler`, from the label `handle_echo` on. -/
def cmdRxEnd (c : CtxId) (byte : Byte) (send : Bool) (host : Host) : Option Host :=
  let echoed := handleEcho cfg c byte send host
  if send then
    let command := echoed.command c
    let ran :=
      if command.atCmdLen > command.atBufSize - 1 then
        some (rspSendError cfg echoed)
      else if 0 < command.atCmdLen then
        cmdSend cfg env c (command.atBuf.take command.atCmdLen) echoed
      else
        some echoed
    ran.map (cmdFinnishOrFail env c)
  else
    some echoed

/-- Whether `byte` ends the line; only asked outside quotes. -/
def isTermination (command : CommandState) (byte : Byte) : Bool :=
  match cfg.termination with
  | .cr => byte == 13
  | .lf => byte == 10
  | .crLf => byte == 10 && 0 < command.atCmdLen && command.prevCharacter == 13

/-- `cmd_rx_handler` once there is room for the character. -/
def cmdRxStore (c : CtxId) (byte : Byte) (host : Host) : Option Host :=
  let command := host.command c
  if (byte = 8 ∨ byte = 127) ∧ 0 < command.atCmdLen then
    let shorter := command.atCmdLen - 1
    cmdRxEnd cfg env c byte false (host.setCommand c
      { command with
        atCmdLen := shorter
        insideQuotes :=
          if command.prevCharacter = 34 then
            !command.insideQuotes
          else
            command.insideQuotes
        prevCharacter :=
          if 0 < shorter then command.atBuf.getD (shorter - 1) 0 else 0 })
  else if !command.insideQuotes && isTermination cfg command byte then
    -- With CR+LF the CR was stored and is trimmed here.
    let trimmed :=
      if cfg.termination = .crLf then command.atCmdLen - 1
      else command.atCmdLen
    cmdRxEnd cfg env c byte true (host.setCommand c { command with atCmdLen := trimmed })
  else
    cmdRxEnd cfg env c byte false (host.setCommand c
      { command with
        atBuf :=
          if command.atCmdLen < command.atBufSize - 1 then
            command.atBuf.take command.atCmdLen ++ [byte]
          else
            command.atBuf
        atCmdLen := command.atCmdLen + 1
        insideQuotes :=
          if byte = 34 then !command.insideQuotes else command.insideQuotes
        prevCharacter := byte })

/-- `cmd_rx_handler`.  The first two characters are a filter for `AT`. -/
def cmdRxHandler (c : CtxId) (byte : Byte) (received : Host) : Option Host :=
  let host := checkIdleTimer c true received
  let command := host.command c
  if (command.atCmdLen = 0 ∧ toupper byte ≠ 65) ∨ (command.atCmdLen = 1 ∧ toupper byte ≠ 84) then
    cmdRxEnd cfg env c byte false (host.setCommand c
      { command with insideQuotes := false, atCmdLen := 0 })
  else if command.atBufSize - 2 ≤ command.atCmdLen then
    let newSize := command.atBufSize * 2
    if newSize > atBufMaxSize ∨ env.alloc host.history c newSize = false then
      some (cmdFinnishOrFail env c (rspSendError cfg host))
    else
      cmdRxStore cfg env c byte (host.setCommand c { command with atBufSize := newSize })
  else
    cmdRxStore cfg env c byte host

end SerialModem.AtHost
