import SerialModem.Ppp.State

/-!
# The operations of PPP and its executions

`perform` functions take the next operation of a thread that has already been
removed from its list.  What the rest of the source function does is put in
front of the list again.
-/

namespace SerialModem.Ppp

open AtHost Function
open Library

variable (cfg : Config)

def xpppText (ppp : PppVars) : List Byte :=
  let stopped := if ppp.pppState = .stopped then 0 else 1
  let connected := if ppp.pppPeerConnected then 1 else 0
  ascii "\r\n#XPPP: " ++ encodeAscii (decimal stopped) ++ ascii "," ++
    encodeAscii (decimal connected) ++ ascii "," ++
    encodeAscii (decimal ppp.pppPdnCid) ++ crlfStr

def sendStatusNotification (world : World) : World :=
  match world.ppp.pppUrcPipe with
  | none => world
  | some pipe =>
    world.setHost (urcSendTo cfg (some pipe) (xpppText world.ppp) world.machine.host)

def releaseCtxOf (pipe : Option PipeId) (world : World) : World :=
  match smAtHostGetCtxFrom pipe world.machine.host with
  | none => world
  | some c =>
    { world with machine := smAtHostRelease c world.machine }.record [.released c]

/-- `modem_ppp_attach(&ppp_module, pipe)`: an attached module stays where it
is, and a null pipe is not caught. -/
def modemPppAttach (pipe : Option PipeId) (world : World) : Option World :=
  match world.ppp.modulePipe, pipe with
  | some _, _ => some world
  | none, none => none
  | none, some pipe =>
    some { world with
      machine := world.machine.modemPipeAttach pipe .other
      ppp := { world.ppp with modulePipe := some pipe } }

/-- `modem_ppp_release(&ppp_module)`. -/
def modemPppRelease (world : World) : World :=
  match world.ppp.modulePipe with
  | none => world
  | some pipe =>
    { world with
      machine := world.machine.modemPipeAttach pipe .none
      ppp := { world.ppp with modulePipe := none } }

/-- `ppp_start` up to `net_if_up`; `success` is what
`configure_ppp_link_ip_addresses` returns. -/
def pppStart (success : Bool) (world : World) : World :=
  if world.ppp.pppState = .running then
    sendStatusNotification cfg world
  else
    let resumed := world.setPpp { world.ppp with cgevPaused := false }
    if !success then
      resumed
    else if world.ppp.pppPipe = none then
      resumed
    else
      (resumed.setPpp { resumed.ppp with pppState := .starting }).callThread [.netIfUp]

def pppStop (reason : PppReason) (restart : Bool) (world : World) : World :=
  if world.ppp.pppState = .stopped then
    world.callThread (if restart then [.start] else [])
  else
    let restarting := world.ppp.smPppKeepPipeAttached && (reason == .network || reason == .error)
    (world.setPpp
      { closePppSockets world.ppp with
        pppState := .stopping
        cgevPaused := world.ppp.cgevPaused || !restarting }).callThread
      [.netIfDown reason restart]

/-- The rest of `ppp_stop` after the interface is down. -/
def stopReleasing (restart : Bool) : List ThreadOp :=
  [.releaseModule, .handBack, .stopped restart]

/-- What `ppp_work_fn` does with an event. -/
def PppEvent.ops (event : PppEvent) : List ThreadOp :=
  match event.action with
  | .start => [.start]
  | .restart => [.stop event.reason true]
  | .stop => [.stop event.reason false]

/-- An operation of `ppp_data_passing_thread`. -/
def performThread (outcome : Outcome) (world : World) : ThreadOp → Option World
  | .delegate event => some (world.setPpp (delegatePppEvent event world.ppp))
  | .serveEvents =>
    some (if outcome.success then world.callThread [.workFn] else world)
  | .serveSocket fd pollin =>
    if world.ppp.zephyrFd = some fd ∨ world.ppp.modemFd = some fd then
      if pollin then
        -- A packet is forwarded.
        some world
      else
        some ((world.setPpp { world.ppp with pppState := .stopping }).callThread
          [.delegate ⟨.stop, .network⟩])
    else
      some world
  | .workFn =>
    match world.ppp.queue with
    | [] => some world
    | event :: rest =>
      some ((world.setPpp { world.ppp with queue := rest }).callThread (event.ops ++ [.workFn]))
  | .start => some (pppStart cfg outcome.success world)
  | .netIfUp =>
    some (if outcome.success then
      (world.setPpp { world.ppp with adminUp := true }).callThread [.openSockets]
    else
      world.callThread [.stop .error false])
  | .openSockets =>
    some (if outcome.success then
      (sendStatusNotification cfg (world.setPpp
        { world.ppp with
          zephyrFd := some outcome.zephyrFd
          modemFd := some outcome.modemFd })).callThread
        [.detachAtPipe, .attachModule, .started]
    else
      -- `ppp_start_failure`
      (world.setPpp
        { closePppSockets world.ppp with
          adminUp := world.ppp.adminUp && !outcome.down }).callThread
        [.stop .error false])
  | .detachAtPipe =>
    some (if world.ppp.smPppDetachAtPipe then
      releaseCtxOf world.ppp.pppPipe world
    else
      world)
  | .attachModule => modemPppAttach world.ppp.pppPipe world
  | .started => some (world.setPpp { world.ppp with pppState := .running })
  | .stop reason restart => some (pppStop reason restart world)
  | .netIfDown reason restart =>
    some (if !world.ppp.adminUp then
      world.callThread (stopReleasing restart)
    else if outcome.success then
      (world.setPpp { world.ppp with adminUp := false }).callThread (stopReleasing restart)
    else
      -- Retry later
      world.callThread [.delegate ⟨.stop, reason⟩])
  | .releaseModule => some (modemPppRelease world)
  | .handBack =>
    some (if world.ppp.smPppKeepPipeAttached then
      world
    else
      { world with
        machine := match world.ppp.pppPipe with
          | none => world.machine
          | some pipe => smAtHostAttach pipe world.machine }.callThread
        [.forgetPipe])
  | .forgetPipe =>
    some (world.setPpp { world.ppp with pppPipe := none, smPppDetachAtPipe := false })
  | .stopped restart =>
    let stopped := world.setPpp { world.ppp with pppState := .stopped }
    some ((sendStatusNotification cfg stopped).callThread (if restart then [.start] else []))

/-- `sm_at_host_get_current_pipe` while a context is served. -/
def pipeOf (c : CtxId) (world : World) : Option PipeId :=
  if smAtCtxCheck c world.machine.host then
    (world.machine.host.ctx c).pipe
  else
    none

/-- The operations that end an accepted `AT#XPPP=1`. -/
def xpppStarting (c : CtxId) : List WorkOp :=
  [.setAutoStart true, .delegate ⟨.start, .cmd⟩, .finish c .silentRet]

/-- `handle_at_ppp` for `AT#XPPP=1`. -/
def handleXpppStart (c : CtxId) (cid : Option Nat) (world : World) : World :=
  let addressed := world.setPpp { world.ppp with pppUrcPipe := pipeOf c world }
  if world.ppp.pppState ≠ .stopped then
    addressed.callWork [.finish c .failed]
  else
    let chosen := addressed.setPpp { addressed.ppp with pppPdnCid := cid.getD 0 }
    match world.ppp.pppPipe, pipeOf c world with
    | none, none => chosen.callWork [.finish c .failed]
    | none, some pipe =>
      (chosen.setPpp { chosen.ppp with pppPipe := some pipe }).callWork
        (.rspSendOk :: .setDetachAtPipe :: xpppStarting c)
    | some _, _ => chosen.callWork (.rspSendOk :: xpppStarting c)

/-- `handle_at_ppp` for `AT#XPPP=0`. -/
def handleXpppStop (c : CtxId) (world : World) : World :=
  (world.setPpp { world.ppp with pppUrcPipe := pipeOf c world }).callWork
    [.rspSendOk, .setAutoStart false, .delegate ⟨.stop, .cmd⟩, .finish c .silentRet]

/-- `handle_at_cgdata` up to `sm_util_cfun_is_lte_enabled`. -/
def handleCgdata (c : CtxId) (cid : Nat) (world : World) : World :=
  if world.ppp.pppState ≠ .stopped then
    world.callWork [.finish c .failed]
  else
    world.callWork [.cgdataConnected c cid]

/-- `handle_at_cgdata` once an earlier pipe is detached. -/
def cgdataTakePipe (c : CtxId) (cid : Nat) (world : World) : World :=
  let silenced := world.setPpp { world.ppp with pppUrcPipe := none }
  match pipeOf c world with
  | none => silenced.callWork [.finish c .failed]
  | some pipe =>
    ((silenced.setPpp
      { silenced.ppp with
        pppPipe := some pipe
        smPppKeepPipeAttached := false
        pppPdnCid := cid
        activatePdp := true }).callWork [.finish c .continueRet]).record
      [.accepted c pipe]

/-- The channel that `assign_default_channels` and
`do_at_and_ppp_channel_switch` leave to PPP: the other one of the first two. -/
def pppChannel (atChannel : Nat) : Nat :=
  if atChannel = 0 then 2 else 1

/-- `do_at_and_ppp_channel_switch`. -/
def channelSwitch (c : CtxId) (channel : Nat) (world : World) : World :=
  let dlci := world.machine.host.cmuxDlci
  { world with atChannel := channel }.callWork [.rspSendOk, .setPipe c (dlci (channel + 1)),
      .releasePipe (dlci (pppChannel channel)),
      .smPppAttach (dlci (pppChannel channel)),
      .smPppDetachAfterDisconnect, .finish c .silentRet]

/-- The rest of `handle_at_xcmux`: `assign_default_channels` and
`cmux_start`. -/
def xcmuxStart (c : CtxId) (world : World) : World :=
  let dlci := world.machine.host.cmuxDlci
  world.callWork [.releasePipe (dlci (pppChannel world.atChannel)),
      .smPppAttach (dlci (pppChannel world.atChannel)),
      .rspSendOk, .cmuxStart c]

/-- `handle_at_xcmux`. -/
def handleXcmux (c : CtxId) (dlci : Option Nat) (world : World) : World :=
  match dlci with
  | none =>
    if world.machine.host.cmuxStarted then
      world.callWork [.finish c .failed]
    else
      xcmuxStart c world
  | some dlci =>
    if dlci ≠ 1 ∧ dlci ≠ 2 then
      world.callWork [.finish c .failed]
    else if world.ppp.pppState = .running ∧ dlci - 1 ≠ world.atChannel then
      world.callWork [.finish c .failed]
    else if world.machine.host.cmuxStarted then
      channelSwitch c (dlci - 1) world
    else
      xcmuxStart c { world with atChannel := dlci - 1 }

/-- `handle_at_cmux`. -/
def handleCmux (c : CtxId) (world : World) : World :=
  if world.machine.host.cmuxStarted then
    world.callWork [.finish c .failed]
  else
    world.callWork [.rspSendOk, .cmuxStart c]

/-- `cmd_send` calls the handler of a command, with the lock taken. -/
def handleCommand (c : CtxId) (command : PppCommand) (world : World) : World :=
  let locked := world.setHost (addExecutingLock c 1 world.machine.host)
  match command with
  | .xpppStart cid => handleXpppStart c cid locked
  | .xpppStop => handleXpppStop c locked
  | .cgdata cid => handleCgdata c cid locked
  | .xcmux dlci => handleXcmux c dlci locked
  | .cmux => handleCmux c locked

/-- `cmd_send` after the handler; the handlers here either answer themselves or
leave the error to `cmd_send`. -/
def finishCommand (c : CtxId) (result : CommandResult) (world : World) :
    World :=
  match result with
  | .continueRet => world
  | .failed =>
    world.setHost (addExecutingLock c (-1) (rspSendError cfg world.machine.host))
  | _ => world.setHost (addExecutingLock c (-1) world.machine.host)

def answerTo (response : Response) (event : CtxId → CgdataEvent) (world : World) : World :=
  let answered := world.setHost (rspSendTo cfg world.ppp.pppPipe response world.machine.host)
  match smAtHostGetCtxFrom world.ppp.pppPipe world.machine.host with
  | none => answered
  | some c => answered.record [event c]

def cmdDone (world : World) : World :=
  match smAtHostGetCtxFrom world.ppp.pppPipe world.machine.host with
  | none => world
  | some c =>
    (world.setHost (smAtHostCmdDone c world.machine.host)).record [.unlocked c]

def smPppAttach (pipe : Option PipeId) (world : World) : World :=
  { world with
    machine := match pipe with
      | none => world.machine
      | some pipe => world.machine.modemPipeAttach pipe .none
    ppp := { world.ppp with pppPipe := pipe, smPppKeepPipeAttached := true } }

def setPipe (c : CtxId) (pipe : Option PipeId) (world : World) : World :=
  match pipe with
  | none => world
  | some pipe => { world with machine := smAtHostSetPipe c pipe world.machine }

def smPppDetach (world : World) : World :=
  (world.setPpp
    { world.ppp with
      pppPipe := none
      smPppKeepPipeAttached := false
      smPppAutoStart := false }).callWork
    (if world.ppp.pppState = .stopped then [] else [.delegate ⟨.stop, .cmd⟩])

def initDlci (machine : Machine) (channel : Nat) : Machine :=
  match machine.host.cmuxDlci channel with
  | none => machine
  | some pipe =>
    smAtHostAttach pipe (machine.setHost
      { machine.host with
        pipeOpen := update machine.host.pipeOpen pipe false })

/-- `stop_work_fn` after `sm_ppp_detach`. -/
def cmuxRelease (world : World) : World :=
  let stopped := world.machine.setHost { world.machine.host with cmuxStarted := false }
  let returned :=
    match smAtHostGetUrcCtx cfg stopped.host with
    | none => stopped
    | some c => smAtHostSetPipe c world.uartPipe stopped
  { world with
    atChannel := 0
    machine := (List.range cfg.cmuxChannelCount).foldl
      (fun machine index => initDlci machine (index + 1)) returned }

/-- An operation of `sm_work_q`. -/
def performWork (outcome : Outcome) (world : World) : WorkOp → Option World
  | .delegate event => some (world.setPpp (delegatePppEvent event world.ppp))
  | .setAutoStart enable =>
    some (world.setPpp { world.ppp with smPppAutoStart := enable })
  | .command c command => some (handleCommand c command world)
  | .rspSendOk =>
    some (world.setHost (rspSend cfg .ok world.machine.host))
  | .setDetachAtPipe =>
    some (world.setPpp { world.ppp with smPppDetachAtPipe := true })
  | .finish c result => some (finishCommand cfg c result world)
  | .cgdataConnected c cid =>
    some (if !outcome.success then
      world.callWork [.finish c .failed]
    else if world.ppp.pppPipe = none then
      world.callWork [.cgdataTakePipe c cid]
    else
      world.callWork [.smPppDetach, .cgdataTakePipe c cid])
  | .cgdataTakePipe c cid => some (cgdataTakePipe c cid world)
  | .activatePdp =>
    some (if outcome.success then
      world.callWork [.activateCid]
    else if outcome.expired then
      world.callWork [.sendNoCarrier]
    else
      world.setPpp { world.ppp with activatePdp := true })
  | .activateCid =>
    some (world.callWork [if outcome.success then .sendConnect else .sendNoCarrier])
  | .sendNoCarrier =>
    some (if world.ppp.pppPipe = none then
      world
    else
      (answerTo cfg noCarrierText .noCarrier world).callWork [.cmdDone, .forgetPipe])
  | .cmdDone => some (cmdDone world)
  | .forgetPipe => some (world.setPpp { world.ppp with pppPipe := none })
  | .sendConnect =>
    some ((answerTo cfg connectText .connect world).callWork
      [.releaseCtx, .attachModule, .setAutoStart true, .delegate ⟨.start, .cmd⟩])
  | .releaseCtx => some (releaseCtxOf world.ppp.pppPipe world)
  | .attachModule => modemPppAttach world.ppp.pppPipe world
  | .smPppAttach pipe => some (smPppAttach pipe world)
  | .smPppDetach => some (smPppDetach world)
  | .smPppDetachAfterDisconnect =>
    some (world.setPpp { world.ppp with smPppKeepPipeAttached := false })
  | .releasePipe pipe => some (releaseCtxOf pipe world)
  | .setPipe c pipe => some (setPipe c pipe world)
  | .cmuxStart c =>
    let started := world.setHost { world.machine.host with cmuxStarted := true }
    let dlci := started.machine.host.cmuxDlci (world.atChannel + 1)
    -- `modem_cmux_attach` is the last thing that can fail.
    some ((setPipe c dlci started).callWork
      [.finish c (if outcome.success then .silentRet else .failed)])
  | .cmuxRelease => some (cmuxRelease cfg world)

/-- The `revents` that `zsock_poll` returned. -/
inductive PollResult where
  | failed
  /-- `POLLIN` on the event descriptor; for each data socket, whether its
  `revents` contain `POLLIN` when it has any. -/
  | ready (events : Bool) (zephyr modem : Option Bool)
  deriving DecidableEq

inductive Action where
  /-- The loop of `ppp_data_passing_thread` comes back from `zsock_poll`. -/
  | poll (result : PollResult)
  | runThread (outcome : Outcome)
  | runWork (outcome : Outcome)
  /-- `at_pipe_rx_work_fn` begins, finds a command, and ends. -/
  | rxStart (ctx : CtxId)
  | command (command : PppCommand)
  | rxEnd
  /-- `activate_pdp_dwork` expires. -/
  | activatePdp
  /-- `stop_work_fn`. -/
  | cmuxStop
  /-- `sm_at_host_work_fn` takes a message of a pipe. -/
  | takeMessage (allocated : Option CtxId)
  | pipeOpened (pipe : PipeId)
  | pipeClosed (pipe : PipeId)
  /-- `+CGEV: ME PDN ACT` with a number. -/
  | cgev (number : Nat)
  | cgevPost
  /-- `NET_EVENT_PPP_PHASE_RUNNING` and `NET_EVENT_PPP_PHASE_DEAD`. -/
  | phaseRunning
  | phaseDead
  | netMgmtPost
  deriving DecidableEq

def serveSocketOps (fd : Option Nat) (revents : Option Bool) : List ThreadOp :=
  match fd, revents with
  | some fd, some pollin => [.serveSocket fd pollin]
  | _, _ => []

/-- The body of the loop of `ppp_data_passing_thread`. -/
def pollStep (result : PollResult) (world : World) : World :=
  match result with
  | .failed =>
    if world.ppp.pppState = .running then
      (world.setPpp { world.ppp with pppState := .starting }).callThread
        [.delegate ⟨.restart, .error⟩]
    else
      world
  | .ready events zephyr modem =>
    world.callThread ((if events then [.serveEvents] else []) ++
        if world.ppp.pppState = .running then
          serveSocketOps world.ppp.zephyrFd zephyr ++ serveSocketOps world.ppp.modemFd modem
        else
          [])

def atNotifOnCgev (number : Nat) (world : World) : World :=
  if !world.ppp.cgevPaused ∧ world.ppp.smPppAutoStart ∧ number % 256 = world.ppp.pppPdnCid then
    { world with cgevPost := some ⟨.start, .network⟩ }
  else
    world

/-- `ppp_net_mgmt_event_handler` for `NET_EVENT_PPP_PHASE_DEAD`. -/
def phaseDead (world : World) : World :=
  if !world.ppp.pppPeerConnected then
    world
  else
    let gone := world.setPpp { world.ppp with pppPeerConnected := false }
    if world.ppp.pppState ≠ .running then
      gone
    else
      { sendStatusNotification cfg gone with
        netMgmtPost := some ⟨.stop, .peerDisconnected⟩ }

/-- A message of a pipe in `sm_at_host_work_fn`. -/
def takePipeMessage (allocated : Option CtxId) (world : World) : Option World :=
  match world.machine.host.msgq with
  | [] => none
  | message :: rest =>
    some { world with
      machine := handlePipeEvent cfg allocated message (world.machine.setHost
        (popMessage message rest world.machine.host)) }

def pipeOpened (pipe : PipeId) (world : World) : World :=
  world.setHost (pipeOpenedEvent (world.machine.callback pipe) pipe
    { world.machine.host with
      pipeOpen := update world.machine.host.pipeOpen pipe true })

def pipeClosed (pipe : PipeId) (world : World) : World :=
  { world with
    machine := { world.machine with
      host := pipeClosedEvent (world.machine.callback pipe) pipe
        { world.machine.host with
          pipeOpen := update world.machine.host.pipeOpen pipe false }
      closedSince := update world.machine.closedSince pipe true } }

/-- One step; `none` when it is not enabled or the firmware crashes. -/
def step (action : Action) (world : World) : Option World :=
  match action with
  | .poll result =>
    if world.thread = [] then some (pollStep result world) else none
  | .runThread outcome =>
    match world.thread with
    | [] => none
    | op :: rest => performThread cfg outcome { world with thread := rest } op
  | .runWork outcome =>
    match world.work with
    | [] => none
    | op :: rest => performWork cfg outcome { world with work := rest } op
  | .rxStart c =>
    match (world.machine.host.ctx c).pipe with
    | some pipe =>
      if world.work = [] ∧ world.batch = none ∧ smAtCtxCheck c world.machine.host ∧
          (world.machine.host.ctx c).executingLock ≤ 0 then
        some { world.setHost (world.machine.host.setCurrentCtx (some c)) with
          batch := some (c, pipe) }
      else
        none
    | none => none
  | .command command =>
    match world.batch with
    | some (c, pipe) =>
      if world.work = [] ∧ (world.machine.host.ctx c).pipe = some pipe then
        some (world.callWork [.command c command])
      else
        none
    | none => none
  | .rxEnd =>
    if world.work = [] ∧ world.batch ≠ none then
      some { world.setHost (world.machine.host.setCurrentCtx none) with
        batch := none }
    else
      none
  | .activatePdp =>
    if world.work = [] ∧ world.batch = none ∧ world.ppp.activatePdp then
      some ((world.setPpp { world.ppp with activatePdp := false }).callWork [.activatePdp])
    else
      none
  | .cmuxStop =>
    if world.work = [] ∧ world.batch = none then
      some (if world.machine.host.cmuxStarted then
        world.callWork [.smPppDetach, .cmuxRelease]
      else
        world)
    else
      none
  | .takeMessage allocated =>
    if world.work = [] ∧ world.batch = none ∧
        ∀ c, allocated = some c → c ∉ world.machine.host.instanceList then
      takePipeMessage cfg allocated world
    else
      none
  | .pipeOpened pipe =>
    if pipe = deadbeef then none else some (pipeOpened pipe world)
  | .pipeClosed pipe =>
    if pipe = deadbeef then none else some (pipeClosed pipe world)
  | .cgev number =>
    if world.cgevPost = none then some (atNotifOnCgev number world) else none
  | .cgevPost =>
    world.cgevPost.map fun event =>
      { world.setPpp (delegatePppEvent event world.ppp) with
        cgevPost := none }
  | .phaseRunning =>
    if world.netMgmtPost = none then
      some (sendStatusNotification cfg (world.setPpp { world.ppp with pppPeerConnected := true }))
    else
      none
  | .phaseDead =>
    if world.netMgmtPost = none then some (phaseDead cfg world) else none
  | .netMgmtPost =>
    world.netMgmtPost.map fun event =>
      { world.setPpp (delegatePppEvent event world.ppp) with
        netMgmtPost := none }

def PppVars.initial : PppVars where
  pppState := .stopped
  queue := []
  pppPipe := none
  pppUrcPipe := none
  smPppAutoStart := false
  smPppDetachAtPipe := false
  smPppKeepPipeAttached := false
  pppPdnCid := 0
  pppPeerConnected := false
  zephyrFd := none
  modemFd := none
  cgevPaused := true
  adminUp := false
  modulePipe := none
  activatePdp := false

/-- After start PPP is stopped and every thread waits. -/
structure Initial (world : World) : Prop where
  ppp : world.ppp = PppVars.initial
  machine : Booted world.machine
  thread : world.thread = []
  work : world.work = []
  cgevPost : world.cgevPost = none
  netMgmtPost : world.netMgmtPost = none
  batch : world.batch = none
  log : world.log = []

end SerialModem.Ppp
