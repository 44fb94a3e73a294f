import SerialModem.AtHost.Lifecycle
import SerialModem.Library.Text

/-!
# PPP and the threads that drive it

PPP runs on a thread of its own, `ppp_data_passing_thread`.  It polls the event
descriptor and the two data sockets, takes events from a queue and starts or
stops the link.  AT commands, the activation of the PDP context and CMUX run on
`sm_work_q`, `+CGEV` notifications and the events of the network stack on
threads of the system.  They all only post events.

Each thread is the list of its operations: one operation reads and writes the
variables of the module at one moment, and other threads run between two of
them.
-/

namespace SerialModem.Ppp

open AtHost
open Library

inductive PppAction where
  | start
  | restart
  | stop
  deriving DecidableEq

inductive PppReason where
  | cmd
  | network
  | error
  | peerDisconnected
  deriving DecidableEq

structure PppEvent where
  action : PppAction
  reason : PppReason
  deriving DecidableEq

inductive PppStates where
  | stopped
  | starting
  | running
  | stopping
  deriving DecidableEq

/-- The variables of `sm_ppp.c` and what it knows of its interface. -/
structure PppVars where
  pppState : PppStates
  /-- `ppp_work.queue`. -/
  queue : List PppEvent
  pppPipe : Option PipeId
  pppUrcPipe : Option PipeId
  smPppAutoStart : Bool
  smPppDetachAtPipe : Bool
  smPppKeepPipeAttached : Bool
  pppPdnCid : Nat
  pppPeerConnected : Bool
  /-- `ppp_fds[ZEPHYR_FD_IDX]` and `ppp_fds[MODEM_FD_IDX]`. -/
  zephyrFd : Option Nat
  modemFd : Option Nat
  /-- Whether `sm_ppp_on_cgev` is paused. -/
  cgevPaused : Bool
  /-- `net_if_is_admin_up(ppp_iface)`. -/
  adminUp : Bool
  /-- The pipe that `ppp_module` is attached to. -/
  modulePipe : Option PipeId
  /-- Whether `activate_pdp_dwork` is scheduled. -/
  activatePdp : Bool
  deriving DecidableEq

/-- The operations of `ppp_data_passing_thread`. -/
inductive ThreadOp where
  | delegate (event : PppEvent)
  /-- `POLLIN` on the event descriptor. -/
  | serveEvents
  /-- The `revents` of a data socket. -/
  | serveSocket (fd : Nat) (pollin : Bool)
  /-- `ppp_work_fn` in front of `k_msgq_get`. -/
  | workFn
  /-- `ppp_start` from its begin to `net_if_up`. -/
  | start
  | netIfUp
  | openSockets
  | detachAtPipe
  | attachModule
  | started
  /-- `ppp_stop` from its begin to `net_if_down`; `ppp_start` follows when the
  event is `PPP_RESTART`. -/
  | stop (reason : PppReason) (restart : Bool)
  | netIfDown (reason : PppReason) (restart : Bool)
  | releaseModule
  | handBack
  | forgetPipe
  | stopped (restart : Bool)
  deriving DecidableEq

inductive PppCommand where
  | xpppStart (cid : Option Nat)
  /-- `AT#XPPP=0`. -/
  | xpppStop
  | cgdata (cid : Nat)
  | xcmux (dlci : Option Nat)
  /-- `AT+CMUX=0`. -/
  | cmux
  deriving DecidableEq

/-- The operations of `sm_work_q`.  Those of a command belong to the context
that it came on. -/
inductive WorkOp where
  | delegate (event : PppEvent)
  /-- `sm_ppp_set_auto_start`. -/
  | setAutoStart (enable : Bool)
  | command (ctx : CtxId) (command : PppCommand)
  | rspSendOk
  /-- `sm_ppp_detach_at_pipe` is set by `AT#XPPP=1`. -/
  | setDetachAtPipe
  /-- `cmd_send` with what the handler returned. -/
  | finish (ctx : CtxId) (result : CommandResult)
  /-- `handle_at_cgdata` from `sm_util_cfun_is_lte_enabled`. -/
  | cgdataConnected (ctx : CtxId) (cid : Nat)
  | cgdataTakePipe (ctx : CtxId) (cid : Nat)
  /-- `sm_ppp_activate_pdp_dwork_fn`, cut where it waits for the modem. -/
  | activatePdp
  | activateCid
  /-- `ppp_cmd_fail_return_to_at_mode`. -/
  | sendNoCarrier
  | cmdDone
  | forgetPipe
  | sendConnect
  | releaseCtx
  | attachModule
  | smPppAttach (pipe : Option PipeId)
  | smPppDetach
  | smPppDetachAfterDisconnect
  /-- `sm_at_host_release` of the context of a pipe. -/
  | releasePipe (pipe : Option PipeId)
  /-- `sm_at_host_set_pipe` on the context of a command. -/
  | setPipe (ctx : CtxId) (pipe : Option PipeId)
  | cmuxStart (ctx : CtxId)
  /-- The end of `stop_work_fn`. -/
  | cmuxRelease
  deriving DecidableEq

/-- What happens to the commands that `handle_at_cgdata` accepted; no code
reads it. -/
inductive CgdataEvent where
  /-- `handle_at_cgdata` returned `-AT_COMMAND_CONTINUE_RET`. -/
  | accepted (ctx : CtxId) (pipe : PipeId)
  | connect (ctx : CtxId)
  | noCarrier (ctx : CtxId)
  | unlocked (ctx : CtxId)
  | released (ctx : CtxId)
  deriving DecidableEq

/-- The module with its threads, and the AT host beside it. -/
structure World where
  ppp : PppVars
  machine : Machine
  thread : List ThreadOp
  work : List WorkOp
  /-- `at_notif_on_cgev` and `ppp_net_mgmt_event_handler` about to post. -/
  cgevPost : Option PppEvent
  netMgmtPost : Option PppEvent
  /-- `at_pipe_rx_work_fn` in its loop, with its context and pipe. -/
  batch : Option (CtxId × PipeId)
  /-- `cmux.at_channel`. -/
  atChannel : Nat
  uartPipe : PipeId
  log : List CgdataEvent

/-- What the modem, the network stack and the clock answer to an operation. -/
structure Outcome where
  success : Bool := true
  /-- Whether `net_if_down` in `ppp_start_failure` succeeds. -/
  down : Bool := true
  /-- `sys_timepoint_expired(ppp_pdn_timeout)`. -/
  expired : Bool := false
  zephyrFd : Nat := 0
  modemFd : Nat := 0
  deriving DecidableEq

/-- `CONNECT` and `NO_CARRIER`. -/
def connectText : Response := .text (ascii "\r\nCONNECT\r\n")

def noCarrierText : Response := .text (ascii "\r\nNO CARRIER\r\n")

/-- The capacity of `ppp_work.queue`. -/
def queueCapacity : Nat := 4

def delegatePppEvent (event : PppEvent) (ppp : PppVars) : PppVars :=
  if ppp.queue.length < queueCapacity then
    { ppp with queue := ppp.queue ++ [event] }
  else
    ppp

def closePppSockets (ppp : PppVars) : PppVars :=
  { ppp with zephyrFd := none, modemFd := none }

namespace World

def setPpp (world : World) (ppp : PppVars) : World :=
  { world with ppp := ppp }

def setHost (world : World) (host : Host) : World :=
  { world with machine := world.machine.setHost host }

def callThread (world : World) (ops : List ThreadOp) : World :=
  { world with thread := ops ++ world.thread }

def callWork (world : World) (ops : List WorkOp) : World :=
  { world with work := ops ++ world.work }

def record (world : World) (events : List CgdataEvent) : World :=
  { world with log := world.log ++ events }

end World

end SerialModem.Ppp
