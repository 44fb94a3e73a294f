import SerialModem.AtHost.MachineSteps
import SerialModem.Socket.CommandFootprint

/-!
# What a step leaves alone

Every step is a sequence of effects.  Without the permission for it, an effect
neither fills nor empties a slot, serves no other context and starts no request;
whatever is permitted, the contexts and their pipes stay as they are.
-/

namespace SerialModem.Socket

open Library Library.Program List Option
open AtHost

variable {cfg : Config} {env : Environment} {modem : Modem}
variable {permits : Permits} {before after : World}

/-! ## The AT host -/

theorem notifyIfIdle_steady (cfg : Config) (c : CtxId) (host : Host) :
    Steady host (notifyIfIdle c host) := by
  unfold notifyIfIdle
  split
  · have sent : Undisturbed cfg host (smAtHostEventNotify c .urc host) :=
      sendMsg_undisturbed _ host
    exact Steady.of_undisturbed sent
  · exact Steady.refl host

theorem smAtHostQueueIdleWork_steady (cfg : Config) {pipe : Option PipeId} {item : IdleItem}
    {machine queued : Machine}
    (ran : smAtHostQueueIdleWork pipe item machine = some queued) :
    Steady machine.host queued.host := by
  rcases smAtHostQueueIdleWork_cases ran with
    rfl | ⟨c, found, _, _, rfl⟩
  · exact Steady.refl _
  · exact notifyIfIdle_steady cfg c machine.host

namespace Effect

/-- No effect changes a context's pipe, or creates or frees a context. -/
theorem frame (effect : Effect cfg permits before after) : Frame before.host after.host := by
  cases effect with
  | host steady => exact steady.frame
  | session _ frame _ | serve _ frame => exact frame
  | queue _ queued => exact (smAtHostQueueIdleWork_steady cfg queued).frame
  | _ => exact Frame.refl _

theorem steady (noSession : ¬permits.sessions) (serving : ¬permits.serves)
    (effect : Effect cfg permits before after) :
    Steady before.host after.host := by
  cases effect with
  | host steady => exact steady
  | session permitted => exact absurd permitted noSession
  | serve permitted => exact absurd permitted serving
  | queue _ queued => exact smAtHostQueueIdleWork_steady cfg queued
  | _ => exact Steady.refl _

theorem current (serving : ¬permits.serves) (effect : Effect cfg permits before after) :
    after.host.currentCtx = before.host.currentCtx := by
  cases effect with
  | host steady => exact steady.current
  | session _ _ current => exact current
  | serve permitted => exact absurd permitted serving
  | queue _ queued => exact (smAtHostQueueIdleWork_steady cfg queued).current
  | _ => rfl

end Effect

/-! ## The socket table -/

variable {world : World}

theorem setSock_keeps {slot : Slot} {sock : SmSocket} {property : SmSocket → SmSocket → Prop}
    (assigned : property (world.socks slot) sock)
    (reflexive : ∀ same, property same same) (other : Slot) :
    property (world.socks other) ((world.setSock slot sock).socks other) := by
  by_cases equal : other = slot
  · subst equal
    rw [World.socks_setSock_self]
    exact assigned
  · rw [World.socks_setSock_of_ne _ _ equal]
    exact reflexive _

def SmSocket.SameFd (before after : SmSocket) : Prop :=
  after.fd = before.fd ∧ after.generation = before.generation

theorem SmSocket.SameFd.refl (sock : SmSocket) : SmSocket.SameFd sock sock :=
  ⟨rfl, rfl⟩

theorem Effect.sameFd (closed : ¬permits.opens)
    (effect : Effect cfg permits before after) (slot : Slot) :
    SmSocket.SameFd (before.socks slot) (after.socks slot) := by
  have assigned : ∀ {target : Slot} {sock : SmSocket}, SmSocket.SameFd (before.socks target) sock →
      SmSocket.SameFd (before.socks slot) ((before.setSock target sock).socks slot) :=
    fun same => setSock_keeps same SmSocket.SameFd.refl slot
  cases effect with
  | init permitted | store permitted | drop permitted => exact absurd permitted closed
  | member same => exact assigned ⟨same.fd, same.generation⟩
  | attach | reassign | select | arm | settings | reenable | xapoll | rearm | sendCallback
  | xsendntf => exact assigned ⟨rfl, rfl⟩
  | _ => exact SmSocket.SameFd.refl _

/-! ## The requests -/

def SameHandles (before after : World) : Prop :=
  ∀ r req, after.httpRequests r = some req →
    ∃ old, before.httpRequests r = some old ∧ req.fd = old.fd

theorem SameHandles.refl (world : World) : SameHandles world world :=
  fun _ req found => ⟨req, found, rfl⟩

theorem SameHandles.trans {first second third : World}
    (left : SameHandles first second) (right : SameHandles second third) :
    SameHandles first third := by
  intro r req found
  obtain ⟨middle, isMiddle, sameMiddle⟩ := right r req found
  obtain ⟨old, isOld, same⟩ := left r middle isMiddle
  exact ⟨old, isOld, sameMiddle.trans same⟩

theorem Effect.sameHandles (noRequest : ¬permits.requests)
    (effect : Effect cfg permits before after) :
    SameHandles before after := by
  cases effect with
  | request permitted => exact absurd permitted noRequest
  | requests _ handles _ => exact handles
  | _ => exact fun _ req found => ⟨req, found, rfl⟩

theorem Effect.datamodeReq (noRequest : ¬permits.requests) (noStream : ¬permits.streams)
    (effect : Effect cfg permits before after) :
    after.datamodeReq = before.datamodeReq ∨ after.datamodeReq = none := by
  cases effect with
  | request permitted => exact absurd permitted noRequest
  | stream permitted => exact absurd permitted noStream
  | requests _ _ datamode => exact datamode
  | _ => exact .inl rfl

theorem findRequest_isSome (fd : Int) (world : World) : (findRequest fd world).isSome = true ↔
      ∃ r req, world.httpRequests r = some req ∧ req.fd = fd := by
  unfold findRequest
  rw [find?_isSome]
  constructor
  · rintro ⟨r, _, found⟩
    rw [Option.any_eq_true] at found
    obtain ⟨req, isRequest, same⟩ := found
    exact ⟨r, req, isRequest, by simpa using same⟩
  · rintro ⟨r, req, isRequest, same⟩
    exact ⟨r, mem_finRange r, by simp [isRequest, same]⟩

theorem SameHandles.findRequest {fd : Int} (same : SameHandles before after)
    (found : (findRequest fd after).isSome = true) :
    (findRequest fd before).isSome = true := by
  rw [findRequest_isSome] at found ⊢
  obtain ⟨r, req, isRequest, onFd⟩ := found
  obtain ⟨old, isOld, sameFd⟩ := same r req isRequest
  exact ⟨r, old, isOld, sameFd.symm.trans onFd⟩

/-! ## Sequences of effects -/

namespace Effects

theorem frame (effects : Effects cfg permits before after) : Frame before.host after.host :=
  effects.relates (fun first last => Frame first.host last.host)
    (fun world => Frame.refl world.host) Frame.trans Effect.frame

theorem steady (noSession : ¬permits.sessions) (serving : ¬permits.serves)
    (effects : Effects cfg permits before after) :
    Steady before.host after.host :=
  effects.relates (fun first last => Steady first.host last.host)
    (fun world => Steady.refl world.host) Steady.trans
    (Effect.steady noSession serving)

theorem current (serving : ¬permits.serves) (effects : Effects cfg permits before after) :
    after.host.currentCtx = before.host.currentCtx :=
  effects.relates (fun first last => last.host.currentCtx = first.host.currentCtx)
    (fun _ => rfl) (fun left right => right.trans left)
    (Effect.current serving)

theorem sameFd (closed : ¬permits.opens)
    (effects : Effects cfg permits before after) (slot : Slot) :
    SmSocket.SameFd (before.socks slot) (after.socks slot) :=
  effects.relates (fun first last => SmSocket.SameFd (first.socks slot) (last.socks slot))
    (fun world => SmSocket.SameFd.refl (world.socks slot))
    (fun left right => ⟨right.1.trans left.1, right.2.trans left.2⟩)
    (fun effect => effect.sameFd closed slot)

theorem findSocket (closed : ¬permits.opens)
    (effects : Effects cfg permits before after) (fd : Int) :
    findSocket fd after = findSocket fd before :=
  findSocket_congr fd fun slot => (effects.sameFd closed slot).1

theorem sameHandles (noRequest : ¬permits.requests) (effects : Effects cfg permits before after) :
    SameHandles before after :=
  effects.relates SameHandles SameHandles.refl SameHandles.trans (Effect.sameHandles noRequest)

theorem datamodeReq (noRequest : ¬permits.requests) (noStream : ¬permits.streams)
    (effects : Effects cfg permits before after) :
    after.datamodeReq = before.datamodeReq ∨ after.datamodeReq = none := by
  refine effects.relates (fun first last =>
    last.datamodeReq = first.datamodeReq ∨ last.datamodeReq = none)
    (fun _ => .inl rfl) ?_ (Effect.datamodeReq noRequest noStream)
  intro first second third left right
  rcases right with same | cleared
  · rw [same]
    exact left
  · exact .inr cleared

theorem currentPipe_of_current {c : CtxId} (serving : ¬permits.serves)
    (effects : Effects cfg permits before after)
    (current : before.host.currentCtx = some c)
    (live : c ∈ before.host.instanceList) :
    smAtHostGetCurrentPipe cfg after.host = (before.host.ctx c).pipe := by
  have stillCurrent : after.host.currentCtx = some c :=
    (effects.current serving).trans current
  have stillLive : c ∈ after.host.instanceList := by
    rw [effects.frame.instanceList]
    exact live
  rw [smAtHostGetCurrentPipe, smAtHostGetCurrent_of_current stillCurrent]
  simp [smAtCtxCheck, stillLive, effects.frame.pipe]

theorem currentPipe_of_steady (noSession : ¬permits.sessions) (serving : ¬permits.serves)
    (effects : Effects cfg permits before after) :
    smAtHostGetCurrentPipe cfg after.host = smAtHostGetCurrentPipe cfg before.host := by
  have steady := effects.steady noSession serving
  rw [smAtHostGetCurrentPipe, smAtHostGetCurrentPipe, steady.getCurrent]
  simp [smAtCtxCheck, steady.frame.instanceList, steady.frame.pipe]

theorem getCtxFrom (effects : Effects cfg permits before after) (pipe : Option PipeId) :
    smAtHostGetCtxFrom pipe after.host = smAtHostGetCtxFrom pipe before.host := by
  cases pipe with
  | none => rfl
  | some p =>
    simp [smAtHostGetCtxFrom, effects.frame.instanceList, effects.frame.pipe]

end Effects

/-! ## Commands -/

namespace SocketCommand

def opens : SocketCommand → Bool
  | .xsocket => true
  | .xssocket => true
  | .xclose => true
  | .xaccept => true
  | _ => false

def entersDatamode : SocketCommand → Bool
  | .xsend => true
  | .xsendto => true
  | .xhttpcreq => true
  | _ => false

def changesBodies : SocketCommand → Bool
  | .xclose => true
  | .xhttpcreq => true
  | .xhttpcdata => true
  | .xhttpccancel => true
  | _ => false

/-- The effects of a command that starts from `base`. -/
def permissions (command : SocketCommand) (attaches : Slot → Option PipeId → Prop) : Permits where
  opens := command.opens = true
  attaches := attaches
  sessions := command.entersDatamode = true
  serves := False
  requests := command = .xhttpcreq
  streams := command = .xhttpcreq
  bodies := command.changesBodies = true
  acknowledges := False
  notifies := False
  renews := True
  queues _ _ := False

end SocketCommand

instance (attaches : Slot → Option PipeId → Prop) :
    Fact (SocketCommand.xclose.permissions attaches).bodies :=
  ⟨rfl⟩

instance (attaches : Slot → Option PipeId → Prop) :
    Fact (SocketCommand.xhttpcreq.permissions attaches).bodies :=
  ⟨rfl⟩

instance (attaches : Slot → Option PipeId → Prop) :
    Fact (SocketCommand.xhttpcdata.permissions attaches).bodies :=
  ⟨rfl⟩

instance (attaches : Slot → Option PipeId → Prop) :
    Fact (SocketCommand.xhttpccancel.permissions attaches).bodies :=
  ⟨rfl⟩

variable {attaches : Slot → Option PipeId → Prop}

variable {command : SocketCommand}

theorem handler_performs {base : World} {parser : AtParser}
    (mayAttach : ∀ slot, parser.Names base slot →
      MayAttach cfg (command.permissions attaches) base slot) :
    Ends base (command.handler cfg env modem parser) fun _ after =>
        Effects cfg (command.permissions attaches) base after := by
  cases command with
  | xsocket => exact Performs.handleAtSocket rfl trivial id base (Effects.refl base)
  | xssocket =>
    exact Performs.handleAtSecureSocket rfl trivial id base (Effects.refl base)
  | xclose => exact Performs.handleAtClose rfl base (Effects.refl base)
  | xbind => exact Performs.handleAtBind base (Effects.refl base)
  | xconnect => exact Performs.handleAtConnect mayAttach
  | xsend => exact Performs.handleAtSend rfl mayAttach
  | xsendto => exact Performs.handleAtSendto rfl mayAttach
  | xrecv => exact Performs.handleReceive mayAttach Performs.doRecv
  | xrecvfrom => exact Performs.handleReceive mayAttach Performs.doRecvfrom
  | xlisten => exact Performs.handleAtListen base (Effects.refl base)
  | xaccept => exact Performs.handleAtAccept rfl trivial id base (Effects.refl base)
  | xapoll => exact Performs.handleAtXapoll trivial mayAttach
  | xrecvcfg => exact Performs.handleAtRecvcfg mayAttach
  | xhttpcreq =>
    apply Performs.handleAtHttpcreq rfl rfl rfl
    intro slot _ r fd middle handle reached runs world req effects isRequest
      later target laterEffects found
    -- The request still runs on the socket that the command names.
    obtain ⟨old, isOld, sameFd⟩ := effects.sameHandles id r req isRequest
    rw [sameFd, runs old isOld, laterEffects.findSocket Bool.false_ne_true,
      reached.findSocket Bool.false_ne_true] at found
    intro final finalEffects
    exact mayAttach target ⟨fd, handle, found⟩ final
      (reached.trans (finalEffects.widen (Permits.whileStarting_narrows _)))
  | xhttpcdata =>
    exact Performs.handleAtHttpcdata base (Effects.refl base)
  | xhttpccancel =>
    exact Performs.handleAtHttpccancel base (Effects.refl base)

def World.locked (world : World) (c : CtxId) : World :=
  world.setHost (addExecutingLock c 1 world.host)

theorem addExecutingLock_steady (cfg : Config) (c : CtxId) (amount : Int)
    (host : Host) : Steady host (addExecutingLock c amount host) := by
  have moved : Undisturbed cfg host (addExecutingLock c amount host) :=
    addExecutingLock_undisturbed c amount host
  exact Steady.of_undisturbed moved

theorem World.locked_effects (world : World) (c : CtxId) :
    Effects cfg permits world (world.locked c) :=
  Effects.of_effect (.host (addExecutingLock_steady cfg c 1 world.host))

theorem runCommand_effects {parser : AtParser}
    (mayAttach : ∀ c, commandCtx world.machine = some c → ∀ slot, parser.Names world slot →
        MayAttach cfg (command.permissions attaches) (world.locked c) slot) :
    Ends world (runCommand cfg env modem command parser) fun _ after =>
        Effects cfg (command.permissions attaches) world after := by
  have unlocks : ∀ c, Performs cfg (command.permissions attaches) world
      (modifyHost (addExecutingLock c (-1))) :=
    fun c => Performs.assigns fun state =>
      .host (addExecutingLock_steady cfg c (-1) state.host)
  unfold runCommand
  rw [ends_bind, ends_get]
  split
  · exact ends_failure _
  · rename_i c isCommandCtx
    rw [modifyHost, ends_bind, ends_modify]
    refine (handler_performs (mayAttach c isCommandCtx)).call ?_
    intro err handled effects
    have reachedHandled := (world.locked_effects c).trans effects
    split
    · refine (Performs.bind ?_ (fun _ => unlocks c)) handled reachedHandled
      exact Performs.assigns fun state => .host (Steady.record state.host _)
    · refine (Performs.bind ?_ (fun _ => unlocks c)) handled reachedHandled
      exact Performs.assigns fun state => .host (Steady.of_undisturbed
        (rspSend_undisturbed .error state.host))

/-! ## Steps -/

def machinePermissions (attaches : Slot → Option PipeId → Prop) : Permits where
  opens := False
  attaches := attaches
  sessions := True
  serves := True
  requests := False
  streams := False
  bodies := True
  acknowledges := False
  notifies := True
  renews := True
  queues _ _ := True

instance (attaches : Slot → Option PipeId → Prop) : Fact (machinePermissions attaches).bodies :=
  ⟨trivial⟩

def World.afterMachine (world : World) (machine : Machine) : World :=
  { world with
    machine := machine
    pollCtx := clearNewPollCtx world.host machine.host world.pollCtx }

variable {action : MachineAction}

theorem machineStep_started {machine after : Machine} {work : SocketWork}
    (started : startedWork machine action = some work)
    (stepped : machineStep cfg env action machine = some after) :
    ∃ waiting, after.host = { machine.host with workQueue := waiting } := by
  unfold startedWork at started
  split at started
  · split at started
    · rename_i c rest isQueue
      simp only [machineStep] at stepped
      split at stepped
      · unfold dispatchWork at stepped
        rw [if_pos trivial, isQueue] at stepped
        cases isRunning : machine.host.running with
        | idle =>
          simp only [isRunning, step, isQueue, enterWork, map_some, Option.some.injEq] at stepped
          refine ⟨rest, ?_⟩
          rw [← stepped, ← isRunning]
          rfl
        | rx d pipe | rawSendScheduled d mark => simp [isRunning, step] at stepped
      · cases stepped
    · cases started
  · split at started
    · rename_i c inLoop
      obtain ⟨taken, isTaken, rfl⟩ := map_eq_some_iff.mp started
      simp only [machineStep, inLoop, Option.some.injEq] at stepped
      subst stepped
      exact ⟨machine.host.workQueue, by rw [idleWorkStep, isTaken]⟩
    · cases started
  · cases started

theorem replayCallbacks_nothing {since : Nat} (nothing : world.host.history.drop since = []) :
    Ends world (replayCallbacks cfg modem since) fun _ after =>
      after = world := by
  unfold replayCallbacks
  rw [ends_bind, ends_get, nothing]
  exact (ends_pure _ _).mpr rfl

theorem machineAction_ends {required : World → Prop} (replayed : ∀ machine,
      machineStep cfg (outside env) action world.machine = some machine →
      Ends (world.afterMachine machine) (replayCallbacks cfg modem world.host.history.length)
        fun _ after => required after)
    (worked : ∀ machine work, machineStep cfg (outside env) action world.machine = some machine →
      startedWork world.machine action = some work →
      Ends (world.afterMachine machine)
        (runWork cfg env modem (some work)) fun _ after => required after) :
    Ends world (machineAction cfg env modem action) fun _ after => required after := by
  unfold machineAction
  rw [ends_bind, ends_get]
  split
  · exact ends_failure _
  · split
    · exact ends_failure _
    · rename_i machine stepped
      rw [ends_bind, ends_set]
      cases started : startedWork world.machine action with
      | none =>
        refine (replayed machine stepped).call ?_
        intro _ after holds
        rw [runWork, ends_pure]
        exact holds
      | some work =>
        -- The AT host has called nothing.
        obtain ⟨waiting, sameHost⟩ := machineStep_started started stepped
        have nothing : machine.host.history.drop world.host.history.length = [] := by
          rw [sameHost]
          exact drop_length
        refine (replayCallbacks_nothing nothing).call ?_
        rintro _ _ rfl
        exact worked machine work stepped started

theorem machineAction_effects {narrow : Permits} [changes : Fact narrow.bodies]
    (narrows : narrow.Narrows (machinePermissions attaches))
    (exits : ∀ machine, machineStep cfg (outside env) action world.machine = some machine →
      ∀ event, event ∈ machine.host.history.drop world.host.history.length →
        ExitMayAttach cfg (machinePermissions attaches) (world.afterMachine machine) event)
    (works : ∀ machine, machineStep cfg (outside env) action world.machine = some machine →
      ∀ work, startedWork world.machine action = some work →
        WorkPermitted cfg narrow (world.afterMachine machine) work) :
    Ends world (machineAction cfg env modem action) fun _ after =>
      ∃ machine, machineStep cfg (outside env) action world.machine = some machine ∧
        Effects cfg (machinePermissions attaches) (world.afterMachine machine) after := by
  apply machineAction_ends
  · intro machine stepped
    refine Ends.mono (Performs.replayCallbacks trivial trivial _
      (Effects.refl _) (exits machine stepped)) ?_
    exact fun _ _ replayed => ⟨machine, stepped, replayed⟩
  · intro machine work stepped started
    have permitted : ∀ item, some work = some item →
        WorkPermitted cfg narrow (world.afterMachine machine) item := by
      intro item isItem
      cases isItem
      exact works machine stepped work started
    exact (Performs.runWork permitted).mono fun _ _ worked =>
      ⟨machine, stepped, worked.widen narrows⟩

def interruptPermissions (acknowledges : Prop) : Permits where
  opens := False
  attaches _ _ := False
  sessions := False
  serves := False
  requests := False
  streams := False
  bodies := True
  acknowledges := acknowledges
  notifies := False
  renews := False
  queues _ item := item = .sendCb ∧ acknowledges

instance (acknowledges : Prop) : Fact (interruptPermissions acknowledges).bodies :=
  ⟨trivial⟩

def anywhere (_ : Slot) (_ : Option PipeId) : Prop :=
  True

inductive StepEffects (cfg : Config) (env : Environment) (world : World) :
    WorldAction → World → Prop
  | machine {action : MachineAction} {machine : Machine} {after : World}
      (stepped : machineStep cfg (outside env) action world.machine = some machine)
      (effects : Effects cfg (machinePermissions anywhere) (world.afterMachine machine) after) :
      StepEffects cfg env world (.machine action) after
  | pollCallback {fd : Int} {revents : PollEvents} {after : World}
      (effects : Effects cfg (interruptPermissions False) world after) :
      StepEffects cfg env world (.pollCallback fd revents) after
  | sendCallback {fd status : Int} {bytesSent : Nat} {after : World}
      (effects : Effects cfg (interruptPermissions True) world after) :
      StepEffects cfg env world (.sendCallback fd status bytesSent) after
  | command {command : SocketCommand} {parser : AtParser} {after : World}
      (effects : Effects cfg (command.permissions anywhere) world after) :
      StepEffects cfg env world (.command command parser) after
  | httpTimeout {expired : Slot → Bool} {after : World}
      (between : betweenItems world.machine = true)
      (effects : Effects cfg (interruptPermissions False) world after) :
      StepEffects cfg env world (.httpTimeout expired) after

theorem worldStep_effects {action : WorldAction} {after : World}
    (taken : worldStep cfg env modem action world = some after) :
    StepEffects cfg env world action after := by
  have ended : ∀ {required : World → Prop}, Ends world (action.perform cfg env modem)
        (fun _ final => required final) → required after := by
    intro required ends
    obtain ⟨⟨value, final⟩, performed, rfl⟩ := map_eq_some_iff.mp taken
    exact ends value final performed
  cases action with
  | machine action =>
    have performed : ∃ machine, machineStep cfg (outside env) action world.machine = some machine ∧
        Effects cfg (machinePermissions anywhere) (world.afterMachine machine) after := by
      apply ended
      apply machineAction_effects (Permits.Narrows.refl _)
      · intros
        intro c flags isExit normally middle reached current r req slot
          isDatamodeReq isRequest found final effects
        trivial
      · intros
        apply WorkPermitted.of_polls fun _ _ => trivial
        intro c _
        refine ⟨trivial, trivial, fun _ _ => trivial, fun _ _ _ => ⟨trivial, trivial⟩, ?_⟩
        intro pipe isPipe idle final slot target effects isOfPipe hasRequest found last lastEffects
        trivial
    obtain ⟨machine, stepped, effects⟩ := performed
    exact .machine stepped effects
  | pollCallback fd revents =>
    exact .pollCallback (ended (Performs.pollCb fd revents world (Effects.refl world)))
  | sendCallback fd status bytesSent =>
    have queues : ∀ slot, findSocket fd world = some slot →
        (interruptPermissions True).queues (world.socks slot).pipe .sendCb :=
      fun _ _ => ⟨rfl, trivial⟩
    exact .sendCallback (ended (Performs.sendCb trivial (Effects.refl world)
      queues status bytesSent))
  | command name parser =>
    exact .command (ended (runCommand_effects fun _ _ _ _ _ _ => trivial))
  | httpTimeout expired =>
    have performed : betweenItems world.machine = true ∧
        Effects cfg (interruptPermissions False) world after := by
      apply ended
      unfold WorldAction.perform
      rw [ends_bind, ends_get]
      split
      · rename_i between
        exact (Performs.httpTimeoutWorkFn expired world
          (Effects.refl world)).mono fun _ _ effects => ⟨between, effects⟩
      · exact ends_failure _
    exact .httpTimeout performed.1 performed.2

/-! ## Invariants -/

theorem Effect.log (effect : Effect cfg permits before after) :
    ∃ events, after.log = before.log ++ events := by
  cases effect with
  | host | session | serve | queue | member | settings | request | stream | requests
  | context | datamodeSock | udp => exact ⟨[], (append_nil _).symm⟩
  | _ => exact ⟨[_], rfl⟩

theorem Effects.log (effects : Effects cfg permits before after) :
    ∃ events, after.log = before.log ++ events := by
  refine effects.relates (fun first last => ∃ events, last.log = first.log ++ events)
    (fun _ => ⟨[], (append_nil _).symm⟩) ?_ Effect.log
  rintro first second third ⟨events, appended⟩ ⟨more, appendedMore⟩
  exact ⟨events ++ more, by rw [appendedMore, appended, append_assoc]⟩

section

variable {property : World → Prop} {judge : SocketLog → SocketEvent → Prop}

theorem Effects.preserves_logged (kept : ∀ {first last}, Effect cfg permits first last →
      Always judge last.log → property first → property last)
    (effects : Effects cfg permits before after)
    (always : Always judge after.log) (holds : property before) :
    property after := by
  induction effects with
  | refl => exact holds
  | tail _ last ih =>
    obtain ⟨events, appended⟩ := last.log
    have alwaysBefore := always
    rw [appended] at alwaysBefore
    exact kept last always (ih alwaysBefore.of_append)

theorem StepEffects.effects {world : World} {action : WorldAction}
    (step : StepEffects cfg env world action after) :
    (∃ permits, Effects cfg permits world after) ∨
      ∃ hostAction machine, action = .machine hostAction ∧
        machineStep cfg (outside env) hostAction world.machine = some machine ∧
        Effects cfg (machinePermissions anywhere) (world.afterMachine machine) after := by
  cases step with
  | machine stepped effects => exact .inr ⟨_, _, rfl, stepped, effects⟩
  | pollCallback effects | sendCallback effects | command effects | httpTimeout _ effects =>
    exact .inl ⟨_, effects⟩

theorem invariant_logged {allowed : World → WorldAction → Prop}
    (initially : ∀ world, World.Initial world → property world)
    (machineKept : ∀ world machine, property world → property (world.afterMachine machine))
    (kept : ∀ {permits : Permits} {first last},
      Effect cfg permits first last → Always judge last.log →
      property first → property last)
    {world : World} (reachable : WorldReachableIf cfg env modem allowed world)
    (always : Always judge world.log) : property world := by
  induction reachable with
  | start initial => exact initially _ initial
  | @next before final action _ _ taken ih =>
    rcases (worldStep_effects taken).effects with
      ⟨permits, effects⟩ | ⟨_, machine, _, _, effects⟩
    · have alwaysBefore := always
      obtain ⟨events, appended⟩ := effects.log
      rw [appended] at alwaysBefore
      exact effects.preserves_logged kept always (ih alwaysBefore.of_append)
    · have alwaysBefore := always
      obtain ⟨events, appended⟩ := effects.log
      rw [appended] at alwaysBefore
      exact effects.preserves_logged kept always (machineKept before machine
          (ih alwaysBefore.of_append))

end

/-! ## Invariants of the poll work -/

theorem not_datamode_of_idle {pipe : Option PipeId} {host : Host}
    (idle : isIdlePipe pipe host = true) :
    inDatamodePipe pipe host = false := by
  cases found : smAtHostGetCtxFrom pipe host with
  | none => simp [inDatamodePipe, inDatamodeCtx, found]
  | some c =>
    have inAtMode : (host.data c).atMode = .atCommandMode := by
      rw [isIdlePipe, found, any_some] at idle
      simp only [isIdleCtx, inAtModeCtx, Bool.and_eq_true, beq_iff_eq] at idle
      exact idle.1.1.2.2
    simp [inDatamodePipe, inDatamodeCtx, found, getSmMode, inAtMode]

def unnotified : Permits :=
  { machinePermissions anywhere with notifies := False }

instance : Fact unnotified.bodies :=
  ⟨trivial⟩

section

variable {property : World → Prop} (machineKept : ∀ world machine, property world →
    property (world.afterMachine machine))
  (kept : ∀ {permits : Permits} {first last}, ¬permits.notifies →
    Effect cfg permits first last → property first → property last)
  (polled : ∀ world c pipe atAndIdle dataMode slot,
    (atAndIdle = true → dataMode = false) → property world →
    Ends world (pollWorkStep cfg env modem c pipe atAndIdle dataMode slot)
      fun _ after => property after)

variable {world : World}

include polled in
theorem pollWork_keeps (holds : property world) (c : CtxId) :
    Ends world (smAtSocketPollWorkHandler cfg env modem c) fun _ after => property after := by
  unfold smAtSocketPollWorkHandler
  rw [ends_bind, ends_get]
  split
  · split
    · exact (ends_pure _ _).mpr holds
    · rename_i pipe _
      refine ends_forM slots ?_ holds
      intro slot _ state holdsState
      exact polled state c pipe _ _ slot not_datamode_of_idle holdsState
  · exact (ends_pure _ _).mpr holds

include kept polled

/-- A property that the poll work of one socket keeps, and every effect but a
notification, is kept by every work item of the socket module. -/
theorem runWork_keeps (holds : property world) (work : Option SocketWork) :
    Ends world (runWork cfg env modem work) fun _ after => property after := by
  have quiet : ∀ {Value : Type} {program : SocketM Value}, Performs cfg unnotified world program →
      Ends world program fun _ after => property after :=
    fun performs => (performs world (Effects.refl world)).mono
      fun _ _ effects => effects.preserves (kept id) holds
  unfold runWork
  split
  · exact quiet (Performs.pure _)
  · exact pollWork_keeps polled holds _
  · unfold smAtSocketPollIdleHandler
    rw [ends_bind, ends_get]
    dsimp only
    split
    · exact pollWork_keeps polled holds _
    · exact quiet (Performs.queueIdleWork trivial)
  · exact quiet Performs.sendCbFn

include machineKept

theorem machineAction_keeps (holds : property world) (action : MachineAction) :
    Ends world (machineAction cfg env modem action) fun _ after => property after := by
  apply machineAction_ends
  · intro machine _
    have replays : Ends (world.afterMachine machine)
        (replayCallbacks cfg modem world.host.history.length)
        fun _ after => Effects cfg unnotified (world.afterMachine machine) after := by
      apply Performs.replayCallbacks trivial trivial _ (Effects.refl _)
      intro event _ c flags isExit normally middle reached current r req
        slot isDatamodeReq isRequest found final effects
      trivial
    exact replays.mono fun _ _ effects =>
      effects.preserves (kept id) (machineKept world machine holds)
  · intro machine work _ _
    exact runWork_keeps kept polled (machineKept world machine holds) _

theorem worldStep_keeps {action : WorldAction} {final : World}
    (taken : worldStep cfg env modem action world = some final)
    (holds : property world) : property final := by
  have keeps : ∀ {permits : Permits}, ¬permits.notifies →
      Effects cfg permits world final → property final :=
    fun silent effects => effects.preserves (kept silent) holds
  cases action with
  | machine action =>
    obtain ⟨⟨value, after⟩, performed, rfl⟩ :=
      map_eq_some_iff.mp taken
    exact machineAction_keeps machineKept kept polled holds action value after performed
  | pollCallback fd revents =>
    cases worldStep_effects taken with
    | pollCallback effects => exact keeps id effects
  | sendCallback fd status bytesSent =>
    cases worldStep_effects taken with
    | sendCallback effects => exact keeps id effects
  | command command parser =>
    cases worldStep_effects taken with
    | command effects => exact keeps id effects
  | httpTimeout expired =>
    cases worldStep_effects taken with
    | httpTimeout _ effects => exact keeps id effects

theorem invariant_polled {allowed : World → WorldAction → Prop}
    (initially : ∀ world, World.Initial world → property world)
    (reachable : WorldReachableIf cfg env modem allowed world) :
    property world := by
  induction reachable with
  | start initial => exact initially _ initial
  | @next _ _ _ _ _ taken ih =>
    exact worldStep_keeps machineKept kept polled taken ih

end

/-! ## Runs from the start -/

def nextDescriptor (opened : List Int) : Nat :=
  opened.foldr (fun fd next => max next (fd.toNat + 1)) 0

/-- A modem on which every call succeeds: descriptors are counted up, sends take
everything and nothing is received. -/
def calmModem : Modem where
  zsockSocket log _ _ _ := .done (nextDescriptor (openDescriptors log))
  zsockAccept log _ :=
    .done (nextDescriptor (openDescriptors log), ⟨afInet, [], 0⟩)
  zsockClose _ _ := .done ()
  zsockSetsockopt _ _ _ := .done ()
  zsockFcntl _ _ := .done ()
  zsockListen _ _ := .done ()
  localAddress _ _ _ := true
  zsockBind _ _ _ := .done ()
  zsockConnect _ _ _ := .done ()
  resolveHost _ _ _ port family := .done ⟨family, [], port⟩
  pdnIdGet _ _ := .done 0
  zsockSend _ _ content _ :=
    if nonempty : 0 < content.length then
      .done ⟨content.length, nonempty, Nat.le_refl _⟩
    else
      .failed ⟨22, by decide⟩
  zsockSendto _ _ content _ _ :=
    if nonempty : 0 < content.length then
      .done ⟨content.length, nonempty, Nat.le_refl _⟩
    else
      .failed ⟨22, by decide⟩
  zsockRecv _ _ _ _ := .failed ⟨11, by decide⟩
  zsockRecvfrom _ _ _ _ := .failed ⟨11, by decide⟩
  malloc _ _ := true
  httpParserParseUrl _ := none

def bootedWorld : World where
  machine := bootedMachine
  socks _ := SmSocket.cleared (some 0) 0
  pollCtx _ := {}
  udpUrl := []
  udpPort := 0
  httpRequests _ := none
  datamodeReq := none
  log := []

theorem bootedWorld_initial : World.Initial bootedWorld where
  machine := bootedMachine_booted
  socks _ := ⟨some 0, rfl⟩
  pollCtx _ := rfl
  udpUrl := rfl
  httpRequests _ := rfl
  datamodeReq := rfl
  log := rfl

def numbers (values : List Int) (text : List Byte) : AtParser where
  count := values.length + 1
  num index :=
    match values[index - 1]? with
    | some value => .done value
    | none => .failed ⟨61, by decide⟩
  num16 index :=
    match values[index - 1]? with
    | some value => .done (UInt16.ofInt value)
    | none => .failed ⟨61, by decide⟩
  string _ := .done text

def lineActions (c : CtxId) (command : SocketCommand) (parser : AtParser) : List WorldAction :=
  [.machine (.pipeReceive c []), .machine (.host .dispatch),
    .command command parser, .machine (.host .receiveEnd)]

theorem exists_world_run_if {result : Type} (cfg : Config) (env : Environment) (modem : Modem)
    (allowed : World → WorldAction → Prop)
    (check : World → WorldAction → Bool) (actions : List WorldAction)
    (permitted : ∀ world action, action ∈ actions →
      check world action = true → allowed world action)
    (look : World → result) (value : result)
    (evaluated : (runChecked (worldStep cfg env modem) check actions
      bootedWorld).map look = some value) :
    ∃ world, WorldReachableIf cfg env modem allowed world ∧ look world = value :=
  exists_reachable bootedWorld_initial permitted evaluated

theorem exists_world_run {result : Type} (cfg : Config) (env : Environment) (modem : Modem)
    (actions : List WorldAction) (look : World → result) (value : result)
    (evaluated : (runActions (worldStep cfg env modem) actions bootedWorld).map look = some value) :
    ∃ world, WorldReachable cfg env modem world ∧ look world = value := by
  obtain ⟨world, ran, same⟩ := map_eq_some_iff.mp evaluated
  exact ⟨world, reachable_of_run actions bootedWorld_initial ran, same⟩

end SerialModem.Socket
