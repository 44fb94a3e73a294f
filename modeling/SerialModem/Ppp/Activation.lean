import Mathlib.Data.List.Find
import SerialModem.AtHost.PipeOwnership
import SerialModem.Ppp.Driver

/-!
# What an activation of the PDP context depends on

While `activate_pdp_dwork` waits for the network, the command that scheduled it
is remembered only in `ppp_pipe` and in the context that owns this pipe.  Most
operations of all threads leave both alone; the others are named here.
-/

namespace SerialModem.Ppp

open AtHost
open Library

variable {cfg : Config}

/-- The operations of `sm_ppp_activate_pdp_dwork_fn` up to the one that frees
the channel. -/
def WorkOp.Activates : WorkOp → Prop
  | .activatePdp => True
  | .activateCid => True
  | .sendNoCarrier => True
  | .cmdDone => True
  | .sendConnect => True
  | .releaseCtx => True
  | _ => False

/-- An accepted command waits for its answer or for its channel to be freed. -/
def Activating (world : World) : Prop :=
  world.ppp.activatePdp = true ∨ ∃ op rest, world.work = op :: rest ∧ op.Activates

structure SameActivation (before after : World) : Prop where
  log : after.log = before.log
  activatePdp : after.ppp.activatePdp = before.ppp.activatePdp
  pppPipe : after.ppp.pppPipe = before.ppp.pppPipe
  pipes : SamePipes before.machine.host after.machine.host

theorem SameActivation.refl (world : World) : SameActivation world world :=
  ⟨rfl, rfl, rfl, SamePipes.refl _⟩

theorem SameActivation.trans {first second third : World} (left : SameActivation first second)
    (right : SameActivation second third) : SameActivation first third where
  log := right.log.trans left.log
  activatePdp := right.activatePdp.trans left.activatePdp
  pppPipe := right.pppPipe.trans left.pppPipe
  pipes := left.pipes.trans right.pipes

theorem sendMsg_samePipes (message : Message) (host : Host) :
    SamePipes host (sendMsg message host) := by
  have undisturbed : Undisturbed plusConfig host (sendMsg message host) :=
    sendMsg_undisturbed message host
  exact undisturbed.frame.samePipes

theorem addExecutingLock_samePipes (c : CtxId) (amount : Int) (host : Host) :
    SamePipes host (addExecutingLock c amount host) := by
  have undisturbed : Undisturbed plusConfig host (addExecutingLock c amount host) :=
    addExecutingLock_undisturbed c amount host
  exact undisturbed.frame.samePipes

theorem rspSend_samePipes (response : Response) (host : Host) :
    SamePipes host (rspSend cfg response host) := by
  have undisturbed : Undisturbed cfg host (rspSend cfg response host) :=
    rspSend_undisturbed response host
  exact undisturbed.frame.samePipes

theorem rspSendTo_samePipes (pipe : Option PipeId) (response : Response) (host : Host) :
    SamePipes host (rspSendTo cfg pipe response host) := by
  have undisturbed : Undisturbed cfg host (performCall cfg (.rspSendTo pipe response) host) :=
    performCall_undisturbed (.rspSendTo pipe response) host
  exact undisturbed.frame.samePipes

theorem urcSendTo_samePipes (pipe : Option PipeId) (content : List Byte) (host : Host) :
    SamePipes host (urcSendTo cfg pipe content host) := by
  have undisturbed : Undisturbed cfg host (urcSendTo cfg pipe content host) :=
    urcSendTo_undisturbed pipe content host
  exact undisturbed.frame.samePipes

variable {world : World} {host : Host}

theorem SameActivation.of_samePipes (same : SamePipes world.machine.host host) :
    SameActivation world (world.setHost host) :=
  ⟨rfl, rfl, rfl, same⟩

variable (cfg) in
theorem sendStatusNotification_same (world : World) :
    SameActivation world (sendStatusNotification cfg world) := by
  unfold sendStatusNotification
  split
  · exact .refl world
  · exact .of_samePipes (urcSendTo_samePipes _ _ _)

theorem sendStatusNotification_work (world : World) :
    (sendStatusNotification cfg world).work = world.work := by
  unfold sendStatusNotification
  split <;> rfl

variable {after : World}

theorem modemPppAttach_same {pipe : Option PipeId}
    (attached : modemPppAttach pipe world = some after) :
    SameActivation world after ∧ after.work = world.work := by
  unfold modemPppAttach at attached
  split at attached
  · cases attached
    exact ⟨.refl world, rfl⟩
  · cases attached
  · cases attached
    exact ⟨⟨rfl, rfl, rfl, SamePipes.refl _⟩, rfl⟩

theorem smAtHostAttach_samePipes (pipe : PipeId) (machine : Machine) :
    SamePipes machine.host (smAtHostAttach pipe machine).host := by
  unfold smAtHostAttach
  dsimp only
  split
  · exact sendMsg_samePipes _ _
  · exact SamePipes.refl _

theorem delegatePppEvent_same (event : PppEvent) (world : World) :
    SameActivation world (world.setPpp (delegatePppEvent event world.ppp)) := by
  unfold delegatePppEvent
  split <;> exact ⟨rfl, rfl, rfl, SamePipes.refl _⟩

def ThreadOp.KeepsPipe (ppp : PppVars) : ThreadOp → Prop
  | .forgetPipe => False
  | .detachAtPipe => ppp.smPppDetachAtPipe = false
  | _ => True

variable {outcome : Outcome} {op : ThreadOp}

theorem performThread_same (keeps : op.KeepsPipe world.ppp)
    (performed : performThread cfg outcome world op = some after) :
    SameActivation world after := by
  cases op with
  | delegate event =>
    cases performed
    exact delegatePppEvent_same event world
  | serveEvents =>
    cases performed
    split <;> exact ⟨rfl, rfl, rfl, SamePipes.refl _⟩
  | serveSocket fd pollin =>
    simp only [performThread] at performed
    repeat' split at performed
    all_goals
      cases performed
      exact ⟨rfl, rfl, rfl, SamePipes.refl _⟩
  | workFn =>
    simp only [performThread] at performed
    split at performed
    all_goals
      cases performed
      exact ⟨rfl, rfl, rfl, SamePipes.refl _⟩
  | start =>
    cases performed
    unfold pppStart
    dsimp only
    split
    · exact sendStatusNotification_same cfg world
    · repeat' split
      all_goals exact ⟨rfl, rfl, rfl, SamePipes.refl _⟩
  | netIfUp =>
    cases performed
    split <;> exact ⟨rfl, rfl, rfl, SamePipes.refl _⟩
  | openSockets =>
    cases performed
    split
    · have notified := sendStatusNotification_same cfg (world.setPpp
          { world.ppp with
            zephyrFd := some outcome.zephyrFd
            modemFd := some outcome.modemFd })
      exact ⟨notified.log, notified.activatePdp, notified.pppPipe, notified.pipes⟩
    · exact ⟨rfl, rfl, rfl, SamePipes.refl _⟩
  | detachAtPipe =>
    have isOff : world.ppp.smPppDetachAtPipe = false := keeps
    simp only [performThread, isOff, Bool.false_eq_true, if_false, Option.some.injEq] at performed
    subst performed
    exact .refl world
  | attachModule => exact (modemPppAttach_same performed).1
  | started =>
    cases performed
    exact ⟨rfl, rfl, rfl, SamePipes.refl _⟩
  | stop reason restart =>
    cases performed
    unfold pppStop
    split <;> exact ⟨rfl, rfl, rfl, SamePipes.refl _⟩
  | netIfDown reason restart =>
    cases performed
    repeat' split
    all_goals exact ⟨rfl, rfl, rfl, SamePipes.refl _⟩
  | releaseModule =>
    cases performed
    unfold modemPppRelease
    split <;> exact ⟨rfl, rfl, rfl, SamePipes.refl _⟩
  | handBack =>
    cases performed
    split
    · exact .refl world
    · refine ⟨rfl, rfl, rfl, ?_⟩
      dsimp only [World.callThread]
      split
      · exact SamePipes.refl _
      · exact smAtHostAttach_samePipes _ _
  | forgetPipe => exact absurd keeps id
  | stopped restart =>
    cases performed
    have notified := sendStatusNotification_same cfg
      (world.setPpp { world.ppp with pppState := .stopped })
    exact ⟨notified.log, notified.activatePdp, notified.pppPipe, notified.pipes⟩

def LogsReleases (before after : List CgdataEvent) : Prop :=
  ∃ events, after = before ++ events ∧ ∀ event, event ∈ events → ∃ c, event = .released c

theorem LogsReleases.refl (log : List CgdataEvent) : LogsReleases log log :=
  ⟨[], by simp, by simp⟩

variable {before : World}

theorem SameActivation.logsReleases (same : SameActivation before after) :
    LogsReleases before.log after.log := by
  rw [same.log]
  exact .refl _

theorem releaseCtxOf_logsReleases (pipe : Option PipeId) (world : World) :
    LogsReleases world.log (releaseCtxOf pipe world).log := by
  unfold releaseCtxOf
  split
  · exact .refl _
  · rename_i c _
    exact ⟨[.released c], rfl, by simp⟩

/-- What every operation of the thread of PPP leaves alone. -/
structure Aside (before after : World) : Prop where
  activatePdp : after.ppp.activatePdp = before.ppp.activatePdp
  log : LogsReleases before.log after.log

theorem SameActivation.aside (same : SameActivation before after) : Aside before after :=
  ⟨same.activatePdp, same.logsReleases⟩

theorem releaseCtxOf_aside (pipe : Option PipeId) (world : World) :
    Aside world (releaseCtxOf pipe world) :=
  ⟨by rw [releaseCtxOf_ppp], releaseCtxOf_logsReleases pipe world⟩

theorem performThread_aside (performed : performThread cfg outcome world op = some after) :
    Aside world after := by
  by_cases keeps : op.KeepsPipe world.ppp
  · exact (performThread_same keeps performed).aside
  · cases op with
    | forgetPipe =>
      cases performed
      exact ⟨rfl, .refl _⟩
    | detachAtPipe =>
      cases performed
      split
      · exact releaseCtxOf_aside _ world
      · exact (SameActivation.refl world).aside
    | _ => exact absurd trivial keeps

theorem releaseCtxOf_work (pipe : Option PipeId) (world : World) :
    (releaseCtxOf pipe world).work = world.work := by
  unfold releaseCtxOf
  split <;> rfl

theorem performThread_work (performed : performThread cfg outcome world op = some after) :
    after.work = world.work := by
  cases op with
  | attachModule => exact (modemPppAttach_same performed).2
  | serveSocket fd pollin =>
    simp only [performThread] at performed
    repeat' split at performed
    all_goals
      cases performed
      rfl
  | workFn =>
    simp only [performThread] at performed
    split at performed
    all_goals
      cases performed
      rfl
  | start =>
    cases performed
    unfold pppStart
    dsimp only
    split
    · exact sendStatusNotification_work world
    · repeat' split
      all_goals rfl
  | openSockets =>
    cases performed
    split
    · exact sendStatusNotification_work _
    · rfl
  | detachAtPipe =>
    cases performed
    split
    · exact releaseCtxOf_work _ world
    · rfl
  | stop reason restart =>
    cases performed
    unfold pppStop
    split <;> rfl
  | releaseModule =>
    cases performed
    unfold modemPppRelease
    split <;> rfl
  | handBack =>
    cases performed
    split <;> rfl
  | stopped restart =>
    cases performed
    exact sendStatusNotification_work _
  | serveEvents | netIfUp =>
    cases performed
    split <;> rfl
  | netIfDown reason restart =>
    cases performed
    repeat' split
    all_goals rfl
  | _ =>
    cases performed
    rfl

def WorkOp.KeepsPipe : WorkOp → Prop
  | .cgdataTakePipe _ _ => False
  | .smPppAttach _ => False
  | .smPppDetach => False
  | .releasePipe _ => False
  | .setPipe _ _ => False
  | .cmuxStart _ => False
  | .cmuxRelease => False
  | .forgetPipe => False
  | _ => True

theorem addExecutingLock_same (c : CtxId) (amount : Int) (world : World) :
    SameActivation world (world.setHost (addExecutingLock c amount world.machine.host)) :=
  .of_samePipes (addExecutingLock_samePipes c amount _)

variable {c : CtxId}

theorem handleCommand_same {command : PppCommand} (hasPipe : world.ppp.pppPipe ≠ none) :
    SameActivation world (handleCommand c command world) := by
  refine (addExecutingLock_same c 1 world).trans ?_
  cases command with
  | xpppStart cid =>
    simp only [handleCommand, handleXpppStart]
    split
    · exact ⟨rfl, rfl, rfl, SamePipes.refl _⟩
    · split
      · rename_i noPipe _
        exact absurd noPipe hasPipe
      · rename_i noPipe _
        exact absurd noPipe hasPipe
      · exact ⟨rfl, rfl, rfl, SamePipes.refl _⟩
  | xpppStop => exact ⟨rfl, rfl, rfl, SamePipes.refl _⟩
  | cgdata cid =>
    simp only [handleCommand, handleCgdata]
    split <;> exact ⟨rfl, rfl, rfl, SamePipes.refl _⟩
  | xcmux dlci =>
    simp only [handleCommand, handleXcmux, xcmuxStart, channelSwitch]
    repeat' split
    all_goals exact ⟨rfl, rfl, rfl, SamePipes.refl _⟩
  | cmux =>
    simp only [handleCommand, handleCmux]
    split <;> exact ⟨rfl, rfl, rfl, SamePipes.refl _⟩

theorem finishCommand_same (c : CtxId) (result : CommandResult) (world : World) :
    SameActivation world (finishCommand cfg c result world) := by
  unfold finishCommand
  split
  · exact .refl world
  · exact .of_samePipes ((rspSend_samePipes _ _).trans (addExecutingLock_samePipes c (-1) _))
  · exact addExecutingLock_same c (-1) world

theorem performWork_same {op : WorkOp} (keeps : op.KeepsPipe)
    (notActivating : ¬op.Activates) (hasPipe : world.ppp.pppPipe ≠ none)
    (performed : performWork cfg outcome world op = some after) :
    SameActivation world after := by
  cases op with
  | delegate event =>
    cases performed
    exact delegatePppEvent_same event world
  | setAutoStart enable =>
    cases performed
    exact ⟨rfl, rfl, rfl, SamePipes.refl _⟩
  | command c command =>
    cases performed
    exact handleCommand_same hasPipe
  | rspSendOk =>
    cases performed
    exact .of_samePipes (rspSend_samePipes _ _)
  | setDetachAtPipe =>
    cases performed
    exact ⟨rfl, rfl, rfl, SamePipes.refl _⟩
  | finish c result =>
    cases performed
    exact finishCommand_same c result world
  | cgdataConnected c cid =>
    cases performed
    repeat' split
    all_goals exact ⟨rfl, rfl, rfl, SamePipes.refl _⟩
  | attachModule => exact (modemPppAttach_same performed).1
  | smPppDetachAfterDisconnect =>
    cases performed
    exact ⟨rfl, rfl, rfl, SamePipes.refl _⟩
  | activatePdp | activateCid | sendNoCarrier | cmdDone | sendConnect | releaseCtx =>
    exact absurd trivial notActivating
  | _ => exact absurd keeps id

def Continues (before after : World) : Prop :=
  ∃ ops, after.work = ops ++ before.work ∧ ∀ op, op ∈ ops → ¬op.Activates

theorem Continues.of_same (same : after.work = before.work) : Continues before after :=
  ⟨[], by simp [same], by simp⟩

theorem continues_callWork (world : World) {ops : List WorkOp}
    (others : ∀ op, op ∈ ops → ¬op.Activates) :
    Continues world (world.callWork ops) :=
  ⟨ops, rfl, others⟩

theorem handleCommand_aside (c : CtxId) (command : PppCommand) (world : World) :
    Aside world (handleCommand c command world) ∧
      Continues world (handleCommand c command world) := by
  cases command with
  | xpppStart cid =>
    simp only [handleCommand, handleXpppStart]
    split
    · exact ⟨⟨rfl, .refl _⟩, continues_callWork _ (by simp [WorkOp.Activates])⟩
    · split
      all_goals exact ⟨⟨rfl, .refl _⟩,
        continues_callWork _ (by simp [xpppStarting, WorkOp.Activates])⟩
  | xpppStop =>
    exact ⟨⟨rfl, .refl _⟩, continues_callWork _ (by simp [WorkOp.Activates])⟩
  | cgdata cid =>
    simp only [handleCommand, handleCgdata]
    split
    all_goals exact ⟨⟨rfl, .refl _⟩, continues_callWork _ (by simp [WorkOp.Activates])⟩
  | xcmux dlci =>
    simp only [handleCommand, handleXcmux, xcmuxStart, channelSwitch]
    repeat' split
    all_goals exact ⟨⟨rfl, .refl _⟩, continues_callWork _ (by simp [WorkOp.Activates])⟩
  | cmux =>
    simp only [handleCommand, handleCmux]
    split
    all_goals exact ⟨⟨rfl, .refl _⟩, continues_callWork _ (by simp [WorkOp.Activates])⟩

theorem setPipe_same_log (c : CtxId) (pipe : Option PipeId) (world : World) :
    (setPipe c pipe world).log = world.log ∧ (setPipe c pipe world).work = world.work := by
  unfold setPipe
  split <;> exact ⟨rfl, rfl⟩

theorem performWork_aside {op : WorkOp} (notActivating : ¬op.Activates)
    (notAccepting : ∀ c cid, op ≠ .cgdataTakePipe c cid)
    (performed : performWork cfg outcome world op = some after) :
    Aside world after ∧ Continues world after := by
  cases op with
  | delegate event =>
    cases performed
    exact ⟨(delegatePppEvent_same event world).aside, .of_same rfl⟩
  | command c command =>
    cases performed
    exact handleCommand_aside c command world
  | finish c result =>
    cases performed
    refine ⟨(finishCommand_same c result world).aside, .of_same ?_⟩
    unfold finishCommand
    split <;> rfl
  | cgdataConnected c cid =>
    cases performed
    repeat' split
    all_goals exact ⟨⟨rfl, .refl _⟩, continues_callWork _ (by simp [WorkOp.Activates])⟩
  | cgdataTakePipe c cid => exact absurd rfl (notAccepting c cid)
  | attachModule =>
    obtain ⟨same, work⟩ := modemPppAttach_same performed
    exact ⟨same.aside, .of_same work⟩
  | smPppDetach =>
    cases performed
    refine ⟨⟨rfl, .refl _⟩, continues_callWork _ ?_⟩
    split <;> simp [WorkOp.Activates]
  | releasePipe pipe =>
    cases performed
    exact ⟨releaseCtxOf_aside pipe world, .of_same (releaseCtxOf_work pipe world)⟩
  | setPipe c pipe =>
    cases performed
    obtain ⟨log, work⟩ := setPipe_same_log c pipe world
    exact ⟨⟨by simp, log ▸ .refl _⟩, .of_same work⟩
  | cmuxStart c =>
    cases performed
    refine ⟨⟨by simp, ?_⟩, ?_⟩
    · change LogsReleases world.log (setPipe c _ _).log
      rw [(setPipe_same_log ..).1]
      exact .refl _
    · refine ⟨[.finish c (if outcome.success then .silentRet else .failed)],
        ?_, by simp [WorkOp.Activates]⟩
      change _ :: (setPipe c _ _).work = _
      rw [(setPipe_same_log ..).2]
      rfl
  | activatePdp | activateCid | sendNoCarrier | cmdDone | sendConnect | releaseCtx =>
    exact absurd trivial notActivating
  | _ =>
    cases performed
    exact ⟨⟨rfl, .refl _⟩, .of_same rfl⟩

variable {d : CtxId} {pipe : PipeId}

theorem getCtxFrom_setCtx {ctx : Ctx} (owner : smAtHostGetCtxFrom (some pipe) host = some c)
    (other : (host.ctx d).pipe ≠ some pipe) (different : ctx.pipe ≠ some pipe) :
    smAtHostGetCtxFrom (some pipe) (host.setCtx d ctx) = some c := by
  have holders : (fun e => ((host.setCtx d ctx).ctx e).pipe == some pipe) =
      fun e => (host.ctx e).pipe == some pipe := by
    funext e
    by_cases same : e = d
    · subst same
      simp [Host.setCtx, other, different]
    · simp [Host.setCtx, same]
  rw [← owner]
  simp only [smAtHostGetCtxFrom, holders]
  rfl

theorem getCtxFrom_storePipe {host : Host} {c d : CtxId} {pipe : PipeId} {stored : Option PipeId}
    (owner : smAtHostGetCtxFrom (some pipe) host = some c)
    (other : (host.ctx d).pipe ≠ some pipe) (different : stored ≠ some pipe) :
    smAtHostGetCtxFrom (some pipe) (host.storePipe d stored) = some c :=
  getCtxFrom_setCtx owner other different

theorem getCtxFrom_freeCtx (owner : smAtHostGetCtxFrom (some pipe) host = some c)
    (other : (host.ctx d).pipe ≠ some pipe) :
    smAtHostGetCtxFrom (some pipe) (freeCtx d host) = some c := by
  have holders : (fun e => ((freeCtx d host).ctx e).pipe == some pipe) =
      fun e => (host.ctx e).pipe == some pipe := by
    funext e
    by_cases same : e = d
    · subst same
      simp [freeCtx, Host.setCtx]
    · simp [freeCtx, Host.setCtx, same]
  rw [← owner]
  simp only [smAtHostGetCtxFrom, holders]
  change (host.instanceList.erase d).find? _ = _
  rw [List.erase_eq_eraseP]
  induction host.instanceList with
  | nil => rfl
  | cons first rest ih =>
    by_cases same : first = d
    · subst same
      simp [other]
    · rw [List.eraseP_cons_of_neg (by simpa using fun equal => same equal.symm)]
      simp only [List.find?_cons, ih]

theorem getCtxFrom_destroy (owner : smAtHostGetCtxFrom (some pipe) host = some c)
    (other : (host.ctx d).pipe ≠ some pipe) :
    smAtHostGetCtxFrom (some pipe) (smAtHostDestroy d host) = some c := by
  unfold smAtHostDestroy
  split
  · exact owner
  · split
    · exact owner
    · split
      · exact getCtxFrom_storePipe owner other (by simp)
      · exact getCtxFrom_freeCtx owner other

variable {other : PipeId}

theorem getCtxFrom_allocateCtx {machine : Machine} {fresh : CtxId}
    (owner : smAtHostGetCtxFrom (some pipe) machine.host = some c)
    (unused : fresh ∉ machine.host.instanceList) :
    smAtHostGetCtxFrom (some pipe) (allocateCtx fresh other machine).host = some c := by
  have found : machine.host.instanceList.find?
      (fun d => (machine.host.ctx d).pipe == some pipe) = some c := owner
  change (machine.host.instanceList ++ [fresh]).find? (fun d =>
    ((machine.host.setCtx fresh (Ctx.init (some other))).ctx d).pipe == some pipe) = some c
  rw [List.find?_append]
  have same : machine.host.instanceList.find? (fun d =>
      ((machine.host.setCtx fresh (Ctx.init (some other))).ctx d).pipe == some pipe) = some c := by
    rw [← found]
    apply List.find?_congr
    intro d member
    have different : d ≠ fresh := by
      rintro rfl
      exact unused member
    simp [Host.setCtx, different]
  rw [same]
  rfl

theorem getCtxFrom_handlePipeEvent {allocated : Option CtxId}
    {message : Message} {machine : Machine}
    (owner : smAtHostGetCtxFrom (some pipe) machine.host = some c)
    (real : pipe ≠ deadbeef)
    (unused : ∀ d, allocated = some d → d ∉ machine.host.instanceList)
    (otherPipe : message.pipeEvent = some .opened → message.pipe ≠ some pipe) :
    smAtHostGetCtxFrom (some pipe)
      (handlePipeEvent cfg allocated message machine).host = some c := by
  have marker : some deadbeef ≠ some pipe := fun same =>
    real (Option.some.inj same).symm
  unfold handlePipeEvent
  split
  · rename_i other d opened isPipe _
    have different : some other ≠ some pipe := isPipe ▸ otherPipe opened
    split
    · rename_i free
      exact getCtxFrom_storePipe owner (by simp [free]) different
    · exact owner
  · rename_i other opened isPipe _
    have different : some other ≠ some pipe := isPipe ▸ otherPipe opened
    unfold smAtHostCreate
    split
    · rename_i d reusable
      obtain ⟨_, isFree⟩ := Option.filter_eq_some_iff.mp reusable
      have free : (machine.host.ctx d).pipe = none := by simpa using isFree
      have reused : smAtHostGetCtxFrom (some pipe) (machine.host.setCtx d
            { machine.host.ctx d with
              pipe := some other, executingLock := 0 }) = some c :=
        getCtxFrom_setCtx owner (by simp [free]) different
      change smAtHostGetCtxFrom (some pipe) (reuseCtx d other machine.host) = _
      unfold reuseCtx
      dsimp only
      split
      · exact ((sendMsg_samePipes _ _).getCtxFrom _).trans reused
      · exact reused
    · rename_i d _
      exact getCtxFrom_allocateCtx owner (unused d rfl)
    · exact owner
  · split
    · rename_i free
      have marked := getCtxFrom_storePipe owner (by rw [free]; simp) marker
      refine getCtxFrom_destroy ?_ ?_
      · split
        · exact marked
        · exact marked
      · split
        · simpa [Host.storePipe, Host.setCtx] using marker
        · simpa [Host.storePipe, Host.setCtx] using marker
    · exact owner
  · split
    · exact owner
    · exact owner
  · exact owner

theorem getCtxFrom_pipeOpened (owner : smAtHostGetCtxFrom (some pipe) world.machine.host = some c)
    (different : other ≠ pipe) :
    smAtHostGetCtxFrom (some pipe) (pipeOpened other world).machine.host = some c := by
  have posted : ∀ message (host : Host), smAtHostGetCtxFrom (some pipe) host = some c →
      smAtHostGetCtxFrom (some pipe) (sendMsg message host) = some c := by
    intro message host found
    exact ((sendMsg_samePipes message host).getCtxFrom _).trans found
  change smAtHostGetCtxFrom (some pipe) (pipeOpenedEvent _ other _) = some c
  unfold pipeOpenedEvent
  split
  · split
    · unfold smAtPipeOpened
      dsimp only
      split
      · rename_i free
        exact @getCtxFrom_storePipe { world.machine.host with pipeOpen := _ }
          _ _ _ _ owner (by simp [free]) (by simpa using different)
      · split
        · exact owner
        · exact posted _ _ owner
    · exact owner
  · exact posted _ _ owner
  · exact owner

theorem getCtxFrom_pipeClosed (owner : smAtHostGetCtxFrom (some pipe) world.machine.host = some c)
    (different : other ≠ pipe) :
    smAtHostGetCtxFrom (some pipe) (pipeClosed other world).machine.host = some c := by
  change smAtHostGetCtxFrom (some pipe) (pipeClosedEvent _ other _) = some c
  unfold pipeClosedEvent
  split
  · split
    · unfold smAtPipeClosed
      split
      · rename_i held
        refine ((sendMsg_samePipes _ _).getCtxFrom _).trans ?_
        refine @getCtxFrom_storePipe { world.machine.host with pipeOpen := _ }
          _ _ _ _ owner ?_ (by simp)
        dsimp only at held ⊢
        rw [held]
        simpa using different
      · exact owner
    · exact owner
  · exact owner

end SerialModem.Ppp
