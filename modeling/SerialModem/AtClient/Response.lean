import SerialModem.Socket.HttpBody

/-!
# Responses of the Serial Modem

`sm_at_client.c` collects what it receives in one buffer.  While a command is
pending it looks there for a final result; while none is, what ends in a line
end is passed on as notifications.

`response_handler` is cut where the thread of the commands can come in between:
after a final result was looked for, and after `at_rsp` was given.
-/

namespace SerialModem.AtClient

open Library
open AtHost (Byte ascii crlfStr)
open Socket (strstr cString)

inductive AtCmdState where
  | ok
  | error
  | errorCms
  | errorCme
  | pending
  deriving DecidableEq

inductive ClientEvent where
  /-- `sm_at_client_send_cmd` makes the client wait for a response. -/
  | called
  /-- `response_handler` is called. -/
  | received (data : List Byte)
  /-- `parse_at_response` has found a final result: the text that is taken
  out of the buffer, and where in it the result starts. -/
  | answered (state : AtCmdState) (text : List Byte) (start : Nat)
  /-- The buffer is full without a final result. -/
  | overflowed (text : List Byte)
  /-- `sm_monitor_dispatch`. -/
  | dispatched (text : List Byte)
  /-- `sm_at_client_send_cmd` returns after `at_rsp` was taken. -/
  | returned (state : AtCmdState)
  deriving DecidableEq

/-- What the receiver of `sm_at_client` keeps between two chunks. -/
structure ClientState where
  /-- The first `resp_len` bytes of `at_cmd_resp`. -/
  atCmdResp : List Byte
  smAtState : AtCmdState
  atRsp : Bool
  log : List ClientEvent
  deriving DecidableEq

/-- `strnstr` on as many bytes as there are; what follows a NUL is not
searched. -/
def strnstr (haystack needle : List Byte) : Option Nat :=
  strstr (cString haystack) needle

def atResponses : List (AtCmdState × List Byte) :=
  [(.ok, ascii "\r\nOK\r\n"), (.error, ascii "\r\nERROR\r\n"),
    (.errorCms, ascii "\r\n+CMS ERROR:"), (.errorCme, ascii "\r\n+CME ERROR:")]

def AtCmdState.isWhole (state : AtCmdState) : Bool :=
  state == .ok || state == .error

/-- One turn of the loop of `parse_at_response`: where the response starts and
where it ends. -/
def findResponse (data : List Byte) (response : AtCmdState × List Byte) : Option (Nat × Nat) :=
  (strnstr data response.2).bind fun start =>
    let after := start + response.2.length
    if response.1.isWhole then
      some (start, after)
    else
      (strnstr (data.drop after) crlfStr).map fun index =>
        (start, after + index + 2)

/-- `parse_at_response`: the new state, and where the response starts and ends;
`none` stands for 0. -/
def parseAtResponse (data : List Byte) : Option (AtCmdState × Nat × Nat) :=
  atResponses.findSome? fun response =>
    (findResponse data response).map fun found => (response.1, found)

namespace ClientState

def record (client : ClientState) (event : ClientEvent) : ClientState :=
  { client with log := client.log ++ [event] }

/-- What was processed is taken out of the buffer, and what did not fit into it
is copied as far as there is room now. -/
def shift (size processed : Nat) (stored left : List Byte) (client : ClientState) : ClientState :=
  let rest := stored.drop processed
  { client with atCmdResp := rest ++ left.take (size - rest.length) }

end ClientState

variable (size : Nat)

/-- The start of `response_handler`, and whether `at_rsp` is to be given. -/
def receive (data : List Byte) (client : ClientState) : ClientState × Bool :=
  let copied := data.take (size - client.atCmdResp.length)
  let stored := client.atCmdResp ++ copied
  let left := data.drop copied.length
  let received := client.record (.received data)
  if client.smAtState = .pending then
    match parseAtResponse stored with
    | some (state, start, processed) =>
      (({ received with smAtState := state }.shift size processed stored
        left).record (.answered state (stored.take processed) start), true)
    | none =>
      if stored.length = size then
        ((received.shift size stored.length stored left).record (.overflowed stored), true)
      else
        ({ received with atCmdResp := stored }, false)
  else
    ({ received with atCmdResp := stored }, false)

/-- `k_sem_give(&at_rsp)`, if there was a final result. -/
def giveRsp (gives : Bool) (client : ClientState) : ClientState :=
  if gives then { client with atRsp := true } else client

/-- The end of `response_handler`. -/
def dispatch (client : ClientState) : ClientState :=
  if client.smAtState ≠ .pending ∧ crlfStr <:+ client.atCmdResp then
    { client with atCmdResp := [] }.record (.dispatched client.atCmdResp)
  else
    client

/-- `response_handler`. -/
def responseHandler (data : List Byte) (client : ClientState) : ClientState :=
  let received := receive size data client
  dispatch (giveRsp received.2 received.1)

def receiveChunks (chunks : List (List Byte)) (client : ClientState) : ClientState :=
  chunks.foldl (fun client data => responseHandler size data client) client

end SerialModem.AtClient
