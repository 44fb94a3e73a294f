import SerialModem.AtHost.Lifecycle
import SerialModem.AtHost.Updates
import SerialModem.AtHost.OpenSession

/-!
# The steps of the machine

What a step of the machine can do is said once, as `MachineStep`, and every
invariant of the later modules is derived from it.  The other results of this
module tie the machine to the model it extends: a step that is an action of
`System` is a step of the host, and a message loop without pipe events and idle
items computes `smAtHostWorkFn`.
-/

namespace SerialModem.AtHost

open Library List Function Option

variable {cfg : Config} {env : Environment}

inductive MachineStep (cfg : Config) (env : Environment)
    (machine : Machine) : MachineAction → Machine → Prop
  | host (action : Action) (after : Host) : machine.loop.admits action = true →
      NotWorkFn machine.host action →
      step cfg env action machine.host = some after →
      MachineStep cfg env machine (.host action) (machine.setHost after)
  | enterLoop (rest : List Work) : machine.loop = .none → machine.host.running = .idle →
      machine.host.workQueue = .atHost :: rest →
      MachineStep cfg env machine (.host .dispatch)
        { machine with
          host := { machine.host with workQueue := rest }
          loop := .messages }
  | pipeReceive (pipe : PipeId) (content : List Byte) :
      MachineStep cfg env machine (.pipeReceive pipe content)
        (machine.setHost (pipeReceiveEvent (machine.callback pipe) pipe
          (setPipeRx pipe (machine.host.pipeRx pipe ++ content) machine.host)))
  | pipeOpened (pipe : PipeId) : pipe ≠ deadbeef → MachineStep cfg env machine (.pipeOpened pipe)
        (machine.setHost (pipeOpenedEvent (machine.callback pipe) pipe
          { machine.host with
            pipeOpen := update machine.host.pipeOpen pipe true }))
  | pipeClosed (pipe : PipeId) : pipe ≠ deadbeef → MachineStep cfg env machine (.pipeClosed pipe)
        { machine with
          host := pipeClosedEvent (machine.callback pipe) pipe
            { machine.host with
              pipeOpen := update machine.host.pipeOpen pipe false }
          closedSince := update machine.closedSince pipe true }
  | setPipe (pipe : PipeId) (c : CtxId) (after : Host) : machine.loop = .none →
      smAtHostGetCurrent cfg machine.host = some c →
      pipe ≠ deadbeef →
      (after = (smAtHostSetPipe c pipe machine).host ∨
        ((∃ d old, (smAtHostSetPipe c pipe machine).host.running = .rx d old) ∧
          after = leaveRxWork (smAtHostSetPipe c pipe machine).host)) →
      MachineStep cfg env machine (.setPipe pipe) ((smAtHostSetPipe c pipe machine).setHost after)
  | release (pipe : PipeId) (c : CtxId) : smAtHostGetCtxFrom (some pipe) machine.host = some c →
      MachineStep cfg env machine (.release pipe) (smAtHostRelease c machine)
  | attach (pipe : PipeId) : pipe ≠ deadbeef →
      MachineStep cfg env machine (.attach pipe) (smAtHostAttach pipe machine)
  | attachOther (pipe : PipeId) : MachineStep cfg env machine (.attachOther pipe)
        (machine.modemPipeAttach pipe .other)
  | setCmux (started : Bool) : MachineStep cfg env machine (.setCmux started)
        (machine.setHost { machine.host with cmuxStarted := started })
  | xcmuxurc (channel : Nat) (after : Host) :
      after = { machine.host with urcChannel := channel } ∧ smAtHostGetUrcCtx cfg after = none ∨
        (∃ c, smAtHostGetUrcCtx cfg { machine.host with urcChannel := channel } = some c ∧
          after = checkIdleTimer c false { machine.host with urcChannel := channel }) →
      MachineStep cfg env machine (.xcmuxurc channel) (machine.setHost after)
  | takeMessage (allocated : Option CtxId) (message : Message) (rest : List Message) :
      machine.loop = .messages →
      machine.host.msgq = message :: rest →
      (∀ c, allocated = some c → c ∉ machine.host.instanceList) →
      MachineStep cfg env machine (.takeMessage allocated)
        (takeMessage cfg allocated message rest machine)
  | endMessages : machine.loop = .messages → machine.host.msgq = [] →
      MachineStep cfg env machine .endMessages { machine with loop := .none }
  | idleItem (c : CtxId) : machine.loop = .idleWork c →
      MachineStep cfg env machine .idleItem (idleWorkStep c machine)
  | queueIdleWork (pipe : Option PipeId) (item : IdleItem) (after : Machine) :
      item.exists machine.host = true →
      smAtHostQueueIdleWork pipe item machine = some after →
      MachineStep cfg env machine (.queueIdleWork pipe item) after
  | pollCb (pipe : Option PipeId) (c : CtxId) : smAtHostGetCtxFrom pipe machine.host = some c →
      MachineStep cfg env machine (.pollCb pipe)
        (machine.setHost (submitWork (.poll c) machine.host))
  | nothing (action : MachineAction) : MachineStep cfg env machine action machine

variable {machine after : Machine}

theorem dispatchWork_cases (outside : machine.loop = .none)
    (taken : dispatchWork cfg env machine = some after) :
    MachineStep cfg env machine (.host .dispatch) after := by
  have stepped : NotWorkFn machine.host .dispatch →
      (step cfg env .dispatch machine.host).map machine.setHost = some after →
      MachineStep cfg env machine (.host .dispatch) after := by
    intro other mapped
    obtain ⟨host, ran, rfl⟩ := map_eq_some_iff.mp mapped
    exact MachineStep.host .dispatch host (by rw [outside]; rfl) other ran
  unfold dispatchWork at taken
  split at taken
  · rename_i rest idle queue
    cases taken
    exact MachineStep.enterLoop rest outside idle queue
  · rename_i notWorkFn
    cases running : machine.host.running with
    | idle =>
      exact stepped (fun _ rest queue => notWorkFn rest running queue) taken
    | rx c pipe | rawSendScheduled c mark => simp [step, running] at taken

variable {action : MachineAction}

theorem machineStep_cases (taken : machineStep cfg env action machine = some after) :
    MachineStep cfg env machine action after := by
  cases action with
  | host action =>
    simp only [machineStep] at taken
    split at taken
    · rename_i admitted
      split at taken
      · rename_i isDispatch
        subst isDispatch
        apply dispatchWork_cases ?_ taken
        cases outside : machine.loop with
        | none => rfl
        | messages | idleWork c => simp [outside, WorkLoop.admits] at admitted
      · rename_i notDispatch
        obtain ⟨host, ran, rfl⟩ := map_eq_some_iff.mp taken
        exact MachineStep.host action host admitted
          (fun isDispatch => absurd isDispatch notDispatch) ran
    · cases taken
  | pipeReceive pipe content =>
    cases taken
    exact MachineStep.pipeReceive pipe content
  | pipeOpened pipe =>
    simp only [machineStep] at taken
    split at taken
    · cases taken
    · rename_i real
      cases taken
      exact MachineStep.pipeOpened pipe real
  | pipeClosed pipe =>
    simp only [machineStep] at taken
    split at taken
    · cases taken
    · rename_i real
      cases taken
      exact MachineStep.pipeClosed pipe real
  | setPipe pipe =>
    simp only [machineStep] at taken
    split at taken
    · rename_i c outside current
      split at taken
      · cases taken
      · rename_i real
        cases taken
        refine MachineStep.setPipe pipe c _ outside current real ?_
        split
        · rename_i d old isRunning
          unfold continueRxWork
          split
          · exact .inl rfl
          · exact .inr ⟨⟨d, old, isRunning⟩, rfl⟩
        · exact .inl rfl
    · cases taken
  | release pipe =>
    simp only [machineStep] at taken
    split at taken
    · rename_i c found
      cases taken
      exact MachineStep.release pipe c found
    · cases taken
      exact MachineStep.nothing _
  | attach pipe =>
    simp only [machineStep] at taken
    split at taken
    · cases taken
    · rename_i real
      cases taken
      exact MachineStep.attach pipe real
  | attachOther pipe =>
    cases taken
    exact MachineStep.attachOther pipe
  | setCmux started =>
    cases taken
    exact MachineStep.setCmux started
  | xcmuxurc channel =>
    simp only [machineStep] at taken
    split at taken
    · cases taken
      apply MachineStep.xcmuxurc channel
      split
      · rename_i c found
        exact .inr ⟨c, found, rfl⟩
      · rename_i missing
        exact .inl ⟨rfl, missing⟩
    · cases taken
  | takeMessage allocated =>
    simp only [machineStep] at taken
    split at taken
    · rename_i message rest inLoop queue
      split at taken
      · rename_i fresh
        cases taken
        refine MachineStep.takeMessage allocated message rest inLoop queue ?_
        intro c isAllocated
        simpa [isAllocated, smAtCtxCheck] using fresh
      · cases taken
    · cases taken
  | endMessages =>
    simp only [machineStep] at taken
    split at taken
    · rename_i inLoop queue
      cases taken
      exact MachineStep.endMessages inLoop queue
    · cases taken
  | idleItem =>
    simp only [machineStep] at taken
    split at taken
    · rename_i c inLoop
      cases taken
      exact MachineStep.idleItem c inLoop
    · cases taken
  | queueIdleWork pipe item =>
    simp only [machineStep] at taken
    split at taken
    · rename_i isItem
      exact MachineStep.queueIdleWork pipe item after isItem taken
    · cases taken
  | pollCb pipe =>
    simp only [machineStep] at taken
    split at taken
    · rename_i c found
      cases taken
      exact MachineStep.pollCb pipe c found
    · cases taken
      exact MachineStep.nothing _

/-! ## Looking contexts up -/

variable {host : Host} {c : CtxId}

theorem smAtHostGetCtxFrom_some {pipe : Option PipeId}
    (found : smAtHostGetCtxFrom pipe host = some c) :
    c ∈ host.instanceList ∧ pipe ≠ none ∧ (host.ctx c).pipe = pipe := by
  unfold smAtHostGetCtxFrom at found
  split at found
  · cases found
  · have holds := find?_some found
    exact ⟨mem_of_find?_eq_some found, by simp, by simpa using holds⟩

theorem firstAtModeChannel_live (count : Nat) :
    ∀ first, firstAtModeChannel host first count = some c → c ∈ host.instanceList := by
  induction count with
  | zero =>
    intro first found
    cases found
  | succ count ih =>
    intro first found
    unfold firstAtModeChannel at found
    split at found
    · rename_i d isCtx
      split at found
      · cases found
        exact (smAtHostGetCtxFrom_some isCtx).1
      · exact ih _ found
    · exact ih _ found

theorem smAtHostGetUrcCtx_live (found : smAtHostGetUrcCtx cfg host = some c) :
    c ∈ host.instanceList := by
  have first : host.instanceList.head? = some c → c ∈ host.instanceList :=
    List.mem_of_mem_head?
  unfold smAtHostGetUrcCtx at found
  split at found
  · split at found
    · cases channel : firstAtModeChannel host 1 cfg.cmuxChannelCount with
      | none =>
        rw [channel] at found
        exact first found
      | some d =>
        rw [channel] at found
        cases found
        exact firstAtModeChannel_live _ 1 channel
    · exact (smAtHostGetCtxFrom_some found).1
  · exact first found

theorem reusableCtx_popMessage
    (cfg : Config) (message : Message) (rest : List Message) (host : Host) :
    reusableCtx cfg (popMessage message rest host) = reusableCtx cfg host := by
  have same : smAtHostGetUrcCtx cfg (popMessage message rest host) =
      smAtHostGetUrcCtx cfg host := by
    apply smAtHostGetUrcCtx_congr
    · exact ⟨fun _ => rfl, rfl, rfl, rfl, rfl, rfl⟩
    · exact fun _ => rfl
  simp only [reusableCtx, same]
  rfl

/-! ## Where the work queue is -/

/-- Nothing else runs while `sm_at_host_work_fn` does, and a context is only
served by a receive item or by idle work. -/
structure Exclusive (machine : Machine) : Prop where
  alone : machine.loop ≠ .none → machine.host.running = .idle
  unserved : (∀ c, machine.loop ≠ .idleWork c) → (∀ c pipe, machine.host.running ≠ .rx c pipe) →
    machine.host.currentCtx = none

theorem step_serving {action : Action} {after : Host} (notWorkFn : NotWorkFn host action)
    (taken : step cfg env action host = some after) :
    (after.running = host.running ∧
      (after.currentCtx = host.currentCtx ∨ after.currentCtx = none)) ∨
    ((host.running ≠ .idle ∨ action = .dispatch) ∧ ∃ c pipe, after.running = .rx c pipe) ∨
    (after.running = .idle ∧ after.currentCtx = none) ∨
    (action = .dispatch ∧ host.running = .idle ∧ after.currentCtx = host.currentCtx) := by
  have submitted : ∀ (work : Work) (state : Host), (submitWork work state).running = state.running ∧
        (submitWork work state).currentCtx = state.currentCtx := by
    intro work state
    unfold submitWork
    split
    · exact ⟨rfl, rfl⟩
    · exact ⟨rfl, rfl⟩
  cases step_cases taken with
  | pipeReceive c content pipe _ _ =>
    exact .inl ⟨(submitted _ _).1, .inl (submitted _ _).2⟩
  | inactivityExpiry c _ =>
    unfold inactivityTimerHandler
    split
    · exact .inl ⟨rfl, .inl rfl⟩
    · exact .inl ⟨(submitted _ _).1, .inl (submitted _ _).2⟩
  | idleExpiry c _ =>
    exact .inl ⟨(submitted _ _).1, .inl (submitted _ _).2⟩
  | dispatch work rest idle queue =>
    cases work with
    | rx c =>
      rcases enterRxWork_cases c { host with workQueue := rest } with
        same | ⟨pipe, _, _, _, entered⟩
      · rw [enterWork, same]
        exact .inl ⟨rfl, .inl rfl⟩
      · rw [enterWork, entered]
        exact .inr (.inl ⟨.inr rfl, c, pipe, rfl⟩)
    | rawSendScheduled c mark =>
      exact .inr (.inr (.inr ⟨rfl, idle, rfl⟩))
    | atHost => exact absurd queue (notWorkFn rfl rest)
    | poll c => exact .inl ⟨rfl, .inl rfl⟩
  | receiveByte c pipe byte rest handled isRunning _ received =>
    have stays : handled.running = .rx c pipe :=
      (Updates.frame (smAtReceive_updates received)).running.trans isRunning
    unfold continueRxWork
    split
    · exact .inr (.inl ⟨.inl (by rw [isRunning]; simp), c, pipe, stays⟩)
    · exact .inr (.inr (.inl ⟨rfl, rfl⟩))
  | receiveEnd => exact .inr (.inr (.inl ⟨rfl, rfl⟩))
  | flush c mark flushed _ ran =>
    refine .inr (.inr (.inl ⟨rfl, ?_⟩))
    unfold rawSendScheduled at ran
    dsimp only at ran
    split at ran
    · cases ran
    · obtain ⟨sent, _, rfl⟩ := map_eq_some_iff.mp ran
      rfl
  | exitDatamodeHandler c result _ =>
    have exited : Updates host (exitDatamodeHandler cfg env c result host) :=
      (exitDatamodeHandler_effects c result host).updates fun _ plain => plain
    refine .inl ⟨(Updates.frame exited).running, ?_⟩
    unfold exitDatamodeHandler
    split
    · exact .inl rfl
    · exact .inr rfl
  | call hostCall _ =>
    have called : Undisturbed cfg host (performCall cfg hostCall host) :=
      performCall_undisturbed hostCall host
    exact .inl ⟨called.frame.running, .inl called.current⟩

/-! ## How pipes and contexts come and go -/

/-- Only `sm_at_host_create` is `creating` and only `sm_at_host_destroy` is
`freeing`. -/
inductive Rewire (creating freeing : Prop) : Host → Host → Prop
  | post (host : Host) {message : Message}
      (single : message.pipeEvent = none ∨ message.smEvent = none) :
      Rewire creating freeing host (sendMsg message host)
  | submit (host : Host) (work : Work) : Rewire creating freeing host (submitWork work host)
  | storePipe (host : Host) (c : CtxId) (pipe : Option PipeId) :
      Rewire creating freeing host (host.storePipe c pipe)
  | free (host : Host) {c : CtxId} (live : c ∈ host.instanceList)
      (others : host.instanceList.length ≠ 1) (frees : freeing) :
      Rewire creating freeing host (freeCtx c host)
  | idleTimer (host : Host) (c : CtxId) : Rewire creating freeing host
        (host.setCtx c { host.ctx c with idleTimer := true })
  | settings (host : Host) (pipeRx : PipeId → List Byte)
      (pipeOpen : PipeId → Bool) (cmuxStarted : Bool) (urcChannel : Nat) :
      Rewire creating freeing host { host with
        pipeRx := pipeRx
        pipeOpen := pipeOpen
        cmuxStarted := cmuxStarted
        urcChannel := urcChannel }
  /-- `atomic_set(&ctx->executing_lock, 0)`. -/
  | reset (host : Host) (c : CtxId) (creates : creating) : Rewire creating freeing host
        (host.setCtx c { host.ctx c with executingLock := 0 })
  | allocate (host : Host) {c : CtxId} (pipe : PipeId)
      (fresh : c ∉ host.instanceList) (creates : creating) :
      Rewire creating freeing host { host.setCtx c (Ctx.init (some pipe)) with
        instanceList := host.instanceList ++ [c] }

abbrev Rewires (creating freeing : Prop) : Host → Host → Prop :=
  Relation.ReflTransGen (Rewire creating freeing)

namespace Rewires

variable {creating freeing : Prop}

theorem refl (host : Host) : Rewires creating freeing host host :=
  Relation.ReflTransGen.refl

theorem single {before after : Host} (rewire : Rewire creating freeing before after) :
    Rewires creating freeing before after :=
  Relation.ReflTransGen.single rewire

theorem preserves {property : Host → Prop}
    (kept : ∀ {before after}, Rewire creating freeing before after → property before →
      property after)
    {before after : Host} (rewires : Rewires creating freeing before after)
    (holds : property before) : property after := by
  induction rewires with
  | refl => exact holds
  | tail _ last ih => exact kept last ih

theorem checkIdleTimer (c : CtxId) (reschedule : Bool) (host : Host) :
    Rewires creating freeing host (checkIdleTimer c reschedule host) := by
  unfold AtHost.checkIdleTimer
  split
  · exact single (Rewire.idleTimer host c)
  · exact refl host

theorem notifyIfIdle (c : CtxId) (host : Host) :
    Rewires creating freeing host (notifyIfIdle c host) := by
  unfold AtHost.notifyIfIdle
  split
  · exact single (Rewire.post host (.inl rfl))
  · exact refl host

theorem smAtPipeOpened (ctx : Option CtxId) (pipe : PipeId) (host : Host) :
    Rewires creating freeing host (smAtPipeOpened ctx pipe host) := by
  unfold AtHost.smAtPipeOpened
  split
  · exact single (Rewire.post host (.inr rfl))
  · split
    · exact single (Rewire.storePipe host _ _)
    · split
      · exact refl host
      · exact single (Rewire.post host (.inr rfl))

theorem smAtPipeClosed (c : CtxId) (pipe : PipeId) (host : Host) :
    Rewires creating freeing host (smAtPipeClosed c pipe host) := by
  unfold AtHost.smAtPipeClosed
  split
  · exact (single (Rewire.storePipe host c none)).trans (single (Rewire.post _ (.inr rfl)))
  · exact refl host

theorem pipeOpenedEvent (callback : PipeCallback) (pipe : PipeId) (host : Host) :
    Rewires creating freeing host (pipeOpenedEvent callback pipe host) := by
  unfold AtHost.pipeOpenedEvent
  split
  · split
    · exact smAtPipeOpened _ pipe host
    · exact refl host
  · exact smAtPipeOpened none pipe host
  · exact refl host

theorem pipeClosedEvent (callback : PipeCallback) (pipe : PipeId) (host : Host) :
    Rewires creating freeing host (pipeClosedEvent callback pipe host) := by
  unfold AtHost.pipeClosedEvent
  split
  · split
    · exact smAtPipeClosed _ pipe host
    · exact refl host
  · exact refl host

theorem pipeReceiveEvent (callback : PipeCallback) (pipe : PipeId) (host : Host) :
    Rewires creating freeing host (pipeReceiveEvent callback pipe host) := by
  unfold AtHost.pipeReceiveEvent
  split
  · split
    · exact single (Rewire.submit host _)
    · exact refl host
  · exact refl host

theorem smAtHostDestroy (frees : freeing) (c : CtxId) (host : Host) :
    Rewires creating freeing host (smAtHostDestroy c host) := by
  unfold AtHost.smAtHostDestroy
  split
  · exact refl host
  · rename_i live
    split
    · exact refl host
    · split
      · exact single (Rewire.storePipe host c none)
      · rename_i others
        exact single (Rewire.free host (by simpa [smAtCtxCheck] using live) others frees)

theorem reuseCtx (c : CtxId) (pipe : PipeId) (host : Host) :
    Rewires True True host (reuseCtx c pipe host) := by
  have reused : Rewires True True host (host.setCtx c
      { host.ctx c with pipe := some pipe, executingLock := 0 }) := by
    have cleared : Rewires True True host (host.setCtx c { host.ctx c with executingLock := 0 }) :=
      single (Rewire.reset host c trivial)
    simpa [Host.storePipe, Host.setCtx] using
      cleared.trans (single (Rewire.storePipe _ c (some pipe)))
  unfold AtHost.reuseCtx
  dsimp only
  split
  · exact reused.trans (single (Rewire.post _ (.inl rfl)))
  · exact reused

variable {allocated : Option CtxId}

theorem smAtHostCreate (pipe : PipeId) {machine : Machine}
    (fresh : ∀ c, allocated = some c → c ∉ machine.host.instanceList) :
    Rewires True True machine.host (smAtHostCreate cfg allocated pipe machine).host := by
  unfold AtHost.smAtHostCreate
  split
  · exact reuseCtx _ pipe machine.host
  · exact single (Rewire.allocate machine.host pipe (fresh _ rfl) trivial)
  · exact refl machine.host

theorem takeOverPipe (frees : freeing) (c : CtxId) (pipe : PipeId) (host : Host) :
    Rewires creating freeing host (takeOverPipe c pipe host) := by
  have stored : Rewires creating freeing host (host.storePipe c (some pipe)) :=
    single (Rewire.storePipe host c (some pipe))
  unfold AtHost.takeOverPipe
  dsimp only
  split
  · split
    · exact stored
    · exact stored.trans ((single (Rewire.storePipe _ _ _)).trans (smAtHostDestroy frees _ _))
  · exact stored

theorem smAtHostSetPipe (frees : freeing) (c : CtxId) (pipe : PipeId) (machine : Machine) :
    Rewires creating freeing machine.host (smAtHostSetPipe c pipe machine).host := by
  unfold AtHost.smAtHostSetPipe
  split
  · exact takeOverPipe frees c pipe machine.host
  · exact refl machine.host

theorem smAtHostRelease (c : CtxId) (machine : Machine) :
    Rewires creating freeing machine.host (smAtHostRelease c machine).host := by
  unfold AtHost.smAtHostRelease
  split
  · exact refl machine.host
  · exact smAtPipeClosed c _ machine.host

theorem smAtHostAttach (pipe : PipeId) (machine : Machine) :
    Rewires creating freeing machine.host (smAtHostAttach pipe machine).host := by
  unfold AtHost.smAtHostAttach
  dsimp only
  split
  · exact smAtPipeOpened none pipe machine.host
  · exact refl machine.host

theorem handlePipeEvent (message : Message) (machine : Machine)
    (fresh : ∀ c, allocated = some c → c ∉ machine.host.instanceList) :
    Rewires True True machine.host (handlePipeEvent cfg allocated message machine).host := by
  have marked : ∀ c, Rewires True True machine.host (AtHost.smAtHostDestroy c
      (machine.host.storePipe c (some deadbeef))) :=
    fun c => (single (Rewire.storePipe machine.host c _)).trans (smAtHostDestroy trivial c _)
  unfold AtHost.handlePipeEvent
  split
  · split
    · exact single (Rewire.storePipe machine.host _ _)
    · exact refl machine.host
  · exact smAtHostCreate _ fresh
  · split
    · dsimp only
      split
      · exact marked _
      · exact marked _
    · exact refl machine.host
  · split
    · exact refl machine.host
    · exact refl machine.host
  · exact refl machine.host

end Rewires

structure SameServing (before after : Host) : Prop where
  running : after.running = before.running
  currentCtx : after.currentCtx = before.currentCtx
  history : after.history = before.history

theorem SameServing.trans {first second third : Host}
    (left : SameServing first second) (right : SameServing second third) :
    SameServing first third :=
  ⟨right.running.trans left.running, right.currentCtx.trans left.currentCtx,
    right.history.trans left.history⟩

theorem SameServing.submitWork (work : Work) (host : Host) :
    SameServing host (submitWork work host) := by
  unfold AtHost.submitWork
  split
  · exact ⟨rfl, rfl, rfl⟩
  · exact ⟨rfl, rfl, rfl⟩

theorem SameServing.sendMsg (message : Message) (host : Host) :
    SameServing host (sendMsg message host) := by
  refine SameServing.trans ?_ (SameServing.submitWork .atHost _)
  exact ⟨rfl, rfl, rfl⟩

theorem Rewire.sameServing {creating freeing : Prop} {before after : Host}
    (rewire : Rewire creating freeing before after) : SameServing before after := by
  cases rewire with
  | post _ => exact SameServing.sendMsg _ before
  | submit work => exact SameServing.submitWork work before
  | _ => exact ⟨rfl, rfl, rfl⟩

theorem Rewires.sameServing {creating freeing : Prop} {before after : Host}
    (rewires : Rewires creating freeing before after) : SameServing before after := by
  induction rewires with
  | refl => exact ⟨rfl, rfl, rfl⟩
  | tail _ last ih =>
    exact ih.trans last.sameServing

structure SameItems (before after : Machine) : Prop where
  idle : after.idle = before.idle
  idleLog : after.idleLog = before.idleLog
  createdAt : after.createdAt = before.createdAt

theorem SameItems.trans {first second third : Machine}
    (left : SameItems first second) (right : SameItems second third) :
    SameItems first third :=
  ⟨right.idle.trans left.idle, right.idleLog.trans left.idleLog,
    right.createdAt.trans left.createdAt⟩

inductive Creates (cfg : Config) (allocated : Option CtxId)
    (message : Message) (before after : Machine) : Prop
  | nothing : Rewires False True before.host after.host →
      SameItems before after → Creates cfg allocated message before after
  | reused (c : CtxId) (pipe : PipeId) : message.pipeEvent = some .opened →
      message.pipe = some pipe →
      liveCtx message before.host = none →
      reusableCtx cfg before.host = some c →
      after.host = reuseCtx c pipe before.host →
      SameItems before after → Creates cfg allocated message before after
  | allocated (c : CtxId) (pipe : PipeId) : liveCtx message before.host = none →
      allocated = some c →
      after.host = { before.host.setCtx c (Ctx.init (some pipe)) with
        instanceList := before.host.instanceList ++ [c] } →
      after.idle = (before.idle.initList c).initNode (.pollIdle c) →
      after.idleLog = before.idleLog →
      after.createdAt = update before.createdAt c before.host.history.length →
      Creates cfg allocated message before after

theorem handlePipeEvent_creates (cfg : Config) (allocated : Option CtxId) (message : Message)
    (machine : Machine) :
    Creates cfg allocated message machine (handlePipeEvent cfg allocated message machine) := by
  have marked : ∀ c, Rewires False True machine.host (AtHost.smAtHostDestroy c
      (machine.host.storePipe c (some deadbeef))) :=
    fun c => (Rewires.single (Rewire.storePipe machine.host c _)).trans
      (Rewires.smAtHostDestroy trivial c _)
  have same : Creates cfg allocated message machine machine :=
    Creates.nothing (Rewires.refl _) ⟨rfl, rfl, rfl⟩
  unfold handlePipeEvent
  split
  · split
    · exact Creates.nothing (Rewires.single (Rewire.storePipe machine.host _ _)) ⟨rfl, rfl, rfl⟩
    · exact same
  · rename_i pipe opened isPipe dead
    unfold smAtHostCreate
    split
    · rename_i c reusable
      exact Creates.reused c pipe opened isPipe dead reusable rfl ⟨rfl, rfl, rfl⟩
    · rename_i c _
      exact Creates.allocated c pipe dead rfl rfl rfl rfl rfl
    · exact same
  · split
    · dsimp only
      split
      · exact Creates.nothing (marked _) ⟨rfl, rfl, rfl⟩
      · exact Creates.nothing (marked _) ⟨rfl, rfl, rfl⟩
    · exact same
  · split
    · exact Creates.nothing (Rewires.refl _) ⟨rfl, rfl, rfl⟩
    · exact same
  · exact same

theorem handleSmEvent_sameItems (cfg : Config) (ctx : Option CtxId) (message : Message)
    (machine : Machine) :
    SameItems machine (handleSmEvent cfg ctx message machine) := by
  unfold handleSmEvent
  split
  · split
    · exact ⟨rfl, rfl, rfl⟩
    · exact ⟨rfl, rfl, rfl⟩
  · exact ⟨rfl, rfl, rfl⟩

theorem handlePipeEvent_loop (allocated : Option CtxId) (message : Message) (machine : Machine) :
    (handlePipeEvent cfg allocated message machine).loop = machine.loop := by
  unfold handlePipeEvent smAtHostCreate
  split
  · split <;> rfl
  · split <;> rfl
  · split
    · dsimp only
      split <;> rfl
    · rfl
  · split <;> rfl
  · rfl

theorem handleSmEvent_cases (cfg : Config)
    (ctx : Option CtxId) (message : Message) (machine : Machine) :
    ((ctx = none ∨ message.smEvent = none) ∧ handleSmEvent cfg ctx message machine = machine) ∨
      ∃ c, ctx = some c ∧ message.smEvent ≠ none ∧ ((isIdleCtx c machine.host = true ∧
            handleSmEvent cfg ctx message machine = enterIdleWork cfg c machine) ∨
          (isIdleCtx c machine.host = false ∧ handleSmEvent cfg ctx message machine =
              machine.setHost (checkIdleTimer c false machine.host))) := by
  cases ctx with
  | none => exact .inl ⟨.inl rfl, rfl⟩
  | some c =>
    cases isEvent : message.smEvent with
    | none => exact .inl ⟨.inr rfl, by simp [handleSmEvent, isEvent]⟩
    | some event =>
      refine .inr ⟨c, rfl, by simp, ?_⟩
      cases idle : isIdleCtx c machine.host with
      | true => exact .inl ⟨rfl, by simp [handleSmEvent, isEvent, idle]⟩
      | false =>
        exact .inr ⟨rfl, by simp [handleSmEvent, isEvent, idle]⟩

theorem smAtHostQueueIdleWork_cases {pipe : Option PipeId} {item : IdleItem}
    (ran : smAtHostQueueIdleWork pipe item machine = some after) :
    after = machine ∨ ∃ c found, smAtHostGetCtxFrom pipe machine.host = some c ∧
        machine.idle.find machine.idleLog.length c item = some found ∧
        after = (if found then machine
          else linkIdleItem c item machine).setHost (notifyIfIdle c machine.host) := by
  unfold smAtHostQueueIdleWork at ran
  split at ran
  · cases ran
    exact .inl rfl
  · rename_i c isCtx
    obtain ⟨found, isFound, rfl⟩ := map_eq_some_iff.mp ran
    exact .inr ⟨c, found, isCtx, isFound, rfl⟩

theorem smAtHostSetPipe_loop (c : CtxId) (pipe : PipeId) (machine : Machine) :
    (smAtHostSetPipe c pipe machine).loop = machine.loop := by
  unfold smAtHostSetPipe releaseOldPipe
  split
  · split <;> rfl
  · rfl

/-- What a step of the machine does to the host and to the place in
`sm_at_host_work_fn`. -/
inductive HostChange (cfg : Config) (env : Environment)
    (action : MachineAction) (before after : Machine) : Prop
  | step (hostAction : Action) : before.loop.admits hostAction = true →
      NotWorkFn before.host hostAction →
      step cfg env hostAction before.host = some after.host →
      after.loop = before.loop → HostChange cfg env action before after
  | rewires : Rewires False (∃ pipe, action = .setPipe pipe) before.host after.host →
      after.loop = before.loop → HostChange cfg env action before after
  | leaveRx (host : Host) : Rewires False (∃ pipe, action = .setPipe pipe) before.host host →
      after.host = leaveRxWork host →
      after.loop = before.loop → HostChange cfg env action before after
  | enterLoop (rest : List Work) : before.loop = .none → before.host.running = .idle →
      before.host.workQueue = .atHost :: rest →
      after.host = { before.host with workQueue := rest } →
      after.loop = .messages → HostChange cfg env action before after
  | endLoop : before.loop = .messages → before.host.msgq = [] → after.host = before.host →
      after.loop = .none → HostChange cfg env action before after
  | message (allocated : Option CtxId) (message : Message) (rest : List Message) (handled : Host) :
      action = .takeMessage allocated →
      before.loop = .messages →
      before.host.msgq = message :: rest →
      Rewires True True (popMessage message rest before.host) handled →
      (after.host = handled ∧ after.loop = .messages ∨ ∃ c, after.host =
            flushPipeUrcs cfg c (handled.setCurrentCtx (some c)) ∧
          after.loop = .idleWork c) →
      HostChange cfg env action before after
  | endIdleWork (c : CtxId) : before.loop = .idleWork c →
      after.host = before.host.setCurrentCtx none →
      after.loop = .messages → HostChange cfg env action before after

theorem machineStep_hostChange (taken : machineStep cfg env action machine = some after) :
    HostChange cfg env action machine after := by
  -- An interrupt changes a setting of its pipe before it calls the handler.
  have settled : ∀ (pipeRx : PipeId → List Byte) (pipeOpen : PipeId → Bool)
      {handler : Host → Host} {freeing : Prop},
      (∀ host, Rewires False freeing host (handler host)) →
      Rewires False freeing machine.host (handler { machine.host with
        pipeRx := pipeRx, pipeOpen := pipeOpen }) :=
    fun pipeRx pipeOpen _ _ handles =>
      (Rewires.single (Rewire.settings machine.host pipeRx pipeOpen
        machine.host.cmuxStarted machine.host.urcChannel)).trans (handles _)
  cases machineStep_cases taken with
  | host action host admitted notWorkFn ran =>
    exact HostChange.step action admitted notWorkFn ran rfl
  | enterLoop rest outside idle queue =>
    exact HostChange.enterLoop rest outside idle queue rfl rfl
  | pipeReceive pipe content =>
    exact HostChange.rewires (settled _ _ (Rewires.pipeReceiveEvent _ pipe))
      rfl
  | pipeOpened pipe _ =>
    exact HostChange.rewires (settled _ _ (Rewires.pipeOpenedEvent _ pipe))
      rfl
  | pipeClosed pipe _ =>
    exact HostChange.rewires (settled _ _ (Rewires.pipeClosedEvent _ pipe))
      rfl
  | setPipe pipe c host outside _ _ result =>
    have switched : Rewires False
        (∃ other, MachineAction.setPipe pipe = .setPipe other) machine.host
        (smAtHostSetPipe c pipe machine).host :=
      Rewires.smAtHostSetPipe ⟨pipe, rfl⟩ c pipe machine
    have loop := smAtHostSetPipe_loop c pipe machine
    rcases result with rfl | ⟨_, rfl⟩
    · exact HostChange.rewires switched loop
    · exact HostChange.leaveRx _ switched rfl loop
  | release pipe c _ =>
    refine HostChange.rewires (Rewires.smAtHostRelease c machine) ?_
    unfold smAtHostRelease
    split <;> rfl
  | attach pipe _ =>
    refine HostChange.rewires (Rewires.smAtHostAttach pipe machine) ?_
    unfold smAtHostAttach
    dsimp only
    split <;> rfl
  | attachOther pipe => exact HostChange.rewires (Rewires.refl _) rfl
  | setCmux started =>
    exact HostChange.rewires (Rewires.single (Rewire.settings _ _ _ _ _))
      rfl
  | xcmuxurc channel host result =>
    have set : ∀ {freeing : Prop}, Rewires False freeing machine.host
        { machine.host with urcChannel := channel } :=
      Rewires.single (Rewire.settings _ _ _ _ _)
    rcases result with ⟨rfl, _⟩ | ⟨c, _, rfl⟩
    · exact HostChange.rewires set rfl
    · exact HostChange.rewires (set.trans (Rewires.checkIdleTimer c false _)) rfl
  | takeMessage allocated message rest inLoop queue fresh =>
    have handled : Rewires True True (popMessage message rest machine.host)
        (handlePipeEvent cfg allocated message
          (machine.setHost (popMessage message rest machine.host))).host :=
      Rewires.handlePipeEvent message (machine.setHost (popMessage message rest machine.host)) fresh
    have inside : (handlePipeEvent cfg allocated message
        (machine.setHost (popMessage message rest machine.host))).loop = .messages :=
      (handlePipeEvent_loop allocated message _).trans inLoop
    unfold AtHost.takeMessage
    dsimp only
    generalize handlePipeEvent cfg allocated message
      (machine.setHost (popMessage message rest machine.host)) = current
      at handled inside ⊢
    rcases handleSmEvent_cases cfg (liveCtx message machine.host) message
      current with ⟨_, same⟩ | ⟨c, _, _, ⟨_, entered⟩ | ⟨_, delayed⟩⟩
    · rw [same]
      exact HostChange.message allocated message rest _ rfl inLoop queue handled
        (.inl ⟨rfl, inside⟩)
    · rw [entered]
      exact HostChange.message allocated message rest _ rfl inLoop queue handled
        (.inr ⟨c, rfl, rfl⟩)
    · rw [delayed]
      exact HostChange.message allocated message rest _ rfl inLoop queue
        (handled.trans (Rewires.checkIdleTimer c false _))
        (.inl ⟨rfl, inside⟩)
  | endMessages inLoop queue =>
    exact HostChange.endLoop inLoop queue rfl rfl
  | idleItem c inLoop =>
    unfold idleWorkStep
    split
    · exact HostChange.endIdleWork c inLoop rfl rfl
    · exact HostChange.rewires (Rewires.refl _) rfl
  | queueIdleWork pipe item _ _ ran =>
    rcases smAtHostQueueIdleWork_cases ran with
      rfl | ⟨c, found, _, _, rfl⟩
    · exact HostChange.rewires (Rewires.refl _) rfl
    · refine HostChange.rewires (Rewires.notifyIfIdle c machine.host) ?_
      split <;> rfl
  | pollCb pipe c _ =>
    exact HostChange.rewires (Rewires.single (Rewire.submit _ _)) rfl
  | nothing action => exact HostChange.rewires (Rewires.refl _) rfl

/-- The steps that change neither the idle lists nor the contexts that
exist. -/
theorem machineStep_sameItems (taken : machineStep cfg env action machine = some after)
    (notTaken : ∀ allocated, action ≠ .takeMessage allocated)
    (notItem : action ≠ .idleItem)
    (notQueued : ∀ pipe item, action ≠ .queueIdleWork pipe item) :
    SameItems machine after := by
  cases machineStep_cases taken with
  | setPipe pipe c host _ _ _ _ =>
    unfold smAtHostSetPipe releaseOldPipe
    split
    · split
      · exact ⟨rfl, rfl, rfl⟩
      · exact ⟨rfl, rfl, rfl⟩
    · exact ⟨rfl, rfl, rfl⟩
  | release pipe c _ =>
    unfold smAtHostRelease
    split
    · exact ⟨rfl, rfl, rfl⟩
    · exact ⟨rfl, rfl, rfl⟩
  | attach pipe _ =>
    unfold smAtHostAttach
    dsimp only
    split
    · exact ⟨rfl, rfl, rfl⟩
    · exact ⟨rfl, rfl, rfl⟩
  | takeMessage allocated message rest _ _ _ =>
    exact absurd rfl (notTaken allocated)
  | idleItem c _ => exact absurd rfl notItem
  | queueIdleWork pipe item _ _ _ => exact absurd rfl (notQueued pipe item)
  | _ => exact ⟨rfl, rfl, rfl⟩

theorem machineStep_createdAt (taken : machineStep cfg env action machine = some after)
    (notTaken : ∀ allocated, action ≠ .takeMessage allocated) :
    after.createdAt = machine.createdAt := by
  by_cases isItem : action = .idleItem
  · subst isItem
    cases machineStep_cases taken with
    | idleItem c _ =>
      unfold idleWorkStep
      split <;> rfl
    | nothing => rfl
  · by_cases isQueued : ∃ pipe item, action = .queueIdleWork pipe item
    · obtain ⟨pipe, item, rfl⟩ := isQueued
      cases machineStep_cases taken with
      | queueIdleWork _ _ _ _ ran =>
        rcases smAtHostQueueIdleWork_cases ran with
          rfl | ⟨c, found, _, _, rfl⟩
        · rfl
        · split <;> rfl
      | nothing => rfl
    · exact (machineStep_sameItems taken notTaken isItem
        (fun pipe item same => isQueued ⟨pipe, item, same⟩)).createdAt

namespace Exclusive

theorem of_same {before after : Machine} (exclusive : Exclusive before)
    (same : SameServing before.host after.host)
    (loop : after.loop = before.loop) : Exclusive after where
  alone := by
    rw [loop, same.running]
    exact exclusive.alone
  unserved := by
    rw [loop, same.running, same.currentCtx]
    exact exclusive.unserved

theorem step {action : Action} {machine : Machine} {after : Host} (exclusive : Exclusive machine)
    (admitted : machine.loop.admits action = true)
    (notWorkFn : NotWorkFn machine.host action)
    (taken : step cfg env action machine.host = some after) :
    Exclusive (machine.setHost after) := by
  have outside : action = .dispatch → machine.loop = .none := by
    rintro rfl
    cases place : machine.loop with
    | none => rfl
    | messages | idleWork c => simp [place, WorkLoop.admits] at admitted
  constructor
  · intro inside
    have idle := exclusive.alone inside
    rcases step_serving notWorkFn taken with
      ⟨same, _⟩ | ⟨busy | isDispatch, _⟩ | ⟨isIdle, _⟩ | ⟨isDispatch, _⟩
    · exact same.trans idle
    · exact absurd idle busy
    · exact absurd (outside isDispatch) inside
    · exact isIdle
    · exact absurd (outside isDispatch) inside
  · intro notIdleWork notRx
    have unserved := exclusive.unserved notIdleWork
    rcases step_serving notWorkFn taken with
      ⟨same, served | cleared⟩ | ⟨_, c, pipe, isRx⟩ | ⟨_, cleared⟩ | ⟨_, idle, served⟩
    · refine served.trans (unserved fun c pipe isRx => ?_)
      exact notRx c pipe (same.trans isRx)
    · exact cleared
    · exact absurd isRx (notRx c pipe)
    · exact cleared
    · refine served.trans (unserved fun c pipe isRx => ?_)
      rw [idle] at isRx
      cases isRx

theorem hostChange {action : MachineAction} {before after : Machine} (exclusive : Exclusive before)
    (change : HostChange cfg env action before after) : Exclusive after := by
  cases change with
  | step action admitted notWorkFn ran loop =>
    exact (exclusive.step admitted notWorkFn ran).of_same ⟨rfl, rfl, rfl⟩ loop
  | rewires rewired loop => exact exclusive.of_same rewired.sameServing loop
  | leaveRx host _ left loop =>
    refine ⟨fun _ => ?_, fun _ _ => ?_⟩
    · rw [left]
      rfl
    · rw [left]
      rfl
  | enterLoop rest outside idle _ same loop =>
    have unserved := exclusive.unserved (by rw [outside]; simp) (by rw [idle]; simp)
    refine ⟨fun _ => ?_, fun _ _ => ?_⟩
    · rw [same]
      exact idle
    · rw [same]
      exact unserved
  | endLoop inLoop _ same loop =>
    refine ⟨fun inside => absurd loop inside, fun _ => ?_⟩
    rw [same]
    exact exclusive.unserved (by rw [inLoop]; simp)
  | message _ message rest handled _ inLoop _ rewired result =>
    have popped : SameServing before.host (popMessage message rest before.host) := ⟨rfl, rfl, rfl⟩
    have same := popped.trans (Rewires.sameServing rewired)
    have idle := same.running.trans (exclusive.alone (by rw [inLoop]; simp))
    rcases result with ⟨rfl, loop⟩ | ⟨c, flushed, loop⟩
    · exact exclusive.of_same same (loop.trans inLoop.symm)
    · refine ⟨fun _ => ?_, fun notIdleWork => absurd loop (notIdleWork c)⟩
      rw [flushed]
      have undisturbed : Undisturbed cfg (handled.setCurrentCtx (some c))
          (flushPipeUrcs cfg c (handled.setCurrentCtx (some c))) :=
        flushPipeUrcs_undisturbed c _
      exact undisturbed.frame.running.trans idle
  | endIdleWork c inLoop left loop =>
    have idle := exclusive.alone (by rw [inLoop]; simp)
    refine ⟨fun _ => ?_, fun _ _ => ?_⟩
    · rw [left]
      exact idle
    · rw [left]
      rfl

theorem booted {machine : Machine} (booted : Booted machine) : Exclusive machine :=
  ⟨fun inside => absurd booted.loop inside, fun _ _ => booted.host.current⟩

end Exclusive

theorem reachable_exclusive {allowed : Machine → MachineAction → Prop}
    (reachable : MachineReachableIf cfg env allowed machine) :
    Exclusive machine := by
  refine reachable.invariant (fun _ => Exclusive.booted) ?_
  intro before action after exclusive _ taken
  exact exclusive.hostChange (machineStep_hostChange taken)

/-! ## The message loop and `smAtHostWorkFn` -/

theorem handleMessage_queue (message : Message) (host : Host) (queue : List Message)
    (log : List MsgqEvent) :
    handleMessage cfg message { host with msgq := queue, msgqLog := log } =
      { handleMessage cfg message host with
        msgq := queue
        msgqLog := log } := by
  let queued : Host := { host with msgq := queue, msgqLog := log }
  have target : ∀ c, smAtHostGetUrcCtx cfg (queued.setCurrentCtx (some c)) =
      smAtHostGetUrcCtx cfg (host.setCurrentCtx (some c)) := by
    intro c
    apply smAtHostGetUrcCtx_congr
    · exact ⟨fun _ => rfl, rfl, rfl, rfl, rfl, rfl⟩
    · exact fun _ => rfl
  have flushed : ∀ c, idleWork cfg c queued =
      { idleWork cfg c host with msgq := queue, msgqLog := log } := by
    intro c
    unfold idleWork
    rw [flushPipeUrcs_eq, flushPipeUrcs_eq]
    simp only [pendingUrcs, target]
    rfl
  have delayed : ∀ c, checkIdleTimer c false queued =
      { checkIdleTimer c false host with msgq := queue, msgqLog := log } := by
    intro c
    unfold checkIdleTimer
    by_cases stopped : (false || !(host.ctx c).idleTimer) = true
    · rw [if_pos stopped, if_pos stopped]
      rfl
    · rw [if_neg stopped, if_neg stopped]
  have checked : ∀ c, smAtCtxCheck c queued = smAtCtxCheck c host :=
    fun _ => rfl
  have idle : ∀ c, isIdleCtx c queued = isIdleCtx c host := fun _ => rfl
  change handleMessage cfg message queued = _
  unfold handleMessage
  split
  · rename_i c _ _ _
    simp only [checked, idle, flushed, delayed]
    split
    · split <;> rfl
    · rfl
  · rfl

variable {message : Message}

theorem handleMessage_of_skipped (skipped : liveCtx message host = none ∨ message.smEvent = none) :
    handleMessage cfg message host = host := by
  unfold handleMessage
  split
  · rename_i c event isCtx isEvent
    rcases skipped with dead | noEvent
    · have notLive : smAtCtxCheck c host = false := by
        simpa [liveCtx, isCtx] using dead
      rw [notLive]
      rfl
    · rw [noEvent] at isEvent
      cases isEvent
  · rfl

theorem handleMessage_of_live (isLive : liveCtx message host = some c)
    (isEvent : message.smEvent ≠ none) :
    handleMessage cfg message host =
      if isIdleCtx c host then
        idleWork cfg c host
      else
        checkIdleTimer c false host := by
  obtain ⟨isCtx, live⟩ := filter_eq_some_iff.mp isLive
  obtain ⟨event, hasEvent⟩ := ne_none_iff_exists'.mp isEvent
  simp only [handleMessage, isCtx, hasEvent, live, if_true]

theorem takeMessage_handleMessage {rest : List Message} (inLoop : machine.loop = .messages)
    (waiting : machine.host.msgq = message :: rest)
    (own : message.pipeEvent = none) (noItems : ∀ c, machine.idle.head c = none) :
    ∃ actions, runActions (machineStep cfg env) actions machine =
      some (machine.setHost (handleMessage cfg message
        (popMessage message rest machine.host))) := by
  let popped := machine.setHost (popMessage message rest machine.host)
  have taken : machineStep cfg env (.takeMessage none) machine =
      some (handleSmEvent cfg (liveCtx message machine.host) message popped) := by
    simp [machineStep, inLoop, waiting, takeMessage, handlePipeEvent, own, popped]
  have once : ∀ {host : Host}, handleSmEvent cfg (liveCtx message machine.host) message popped =
        machine.setHost host →
      ∃ actions, runActions (machineStep cfg env) actions machine =
        some (machine.setHost host) := by
    intro host handled
    refine ⟨[.takeMessage none], ?_⟩
    rw [runActions, taken, handled]
    rfl
  rcases handleSmEvent_cases cfg (liveCtx message machine.host) message popped
    with ⟨skipped, same⟩ | ⟨c, isLive, isEvent, ⟨idle, entered⟩ | ⟨busy, delayed⟩⟩
  · have stillSkipped : liveCtx message popped.host = none ∨ message.smEvent = none := skipped
    refine once (same.trans ?_)
    change popped = machine.setHost (handleMessage cfg message popped.host)
    rw [handleMessage_of_skipped stillSkipped]
    rfl
  · have stillLive : liveCtx message popped.host = some c := isLive
    refine ⟨[.takeMessage none, .idleItem], ?_⟩
    change _ = some (machine.setHost (handleMessage cfg message popped.host))
    rw [runActions, taken, entered, handleMessage_of_live stillLive isEvent, if_pos idle]
    simp [runActions, machineStep, enterIdleWork, idleWorkStep,
      LinkedLists.get, noItems, popped, Machine.setHost, idleWork, inLoop]
  · have stillLive : liveCtx message popped.host = some c := isLive
    refine once (delayed.trans ?_)
    change _ = machine.setHost (handleMessage cfg message popped.host)
    rw [handleMessage_of_live stillLive isEvent, if_neg (by rw [busy]; simp)]
    rfl

theorem handleMessage_popMessage (message : Message) (rest : List Message) (host : Host) :
    handleMessage cfg message (popMessage message rest host) =
      { handleMessage cfg message host with
        msgq := rest
        msgqLog := host.msgqLog ++ [.taken message] } :=
  handleMessage_queue message host rest _

theorem smAtHostWorkFn_cons {rest : List Message} (waiting : host.msgq = message :: rest) :
    smAtHostWorkFn cfg host = smAtHostWorkFn cfg (handleMessage cfg message
        (popMessage message rest host)) := by
  unfold smAtHostWorkFn
  rw [waiting, foldl_cons, handleMessage_queue, handleMessage_popMessage]
  simp

/-- The message loop of the machine, message after message, does what
`sm_at_host_work_fn` does at once to the host. -/
theorem messageLoop_eq (messages : List Message)
    (inLoop : machine.loop = .messages) (waiting : machine.host.msgq = messages)
    (own : ∀ message, message ∈ messages → message.pipeEvent = none)
    (noItems : ∀ c, machine.idle.head c = none) :
    ∃ actions, runActions (machineStep cfg env) actions machine =
      some { machine with
        host := smAtHostWorkFn cfg machine.host
        loop := .none } := by
  induction messages generalizing machine with
  | nil =>
    refine ⟨[.endMessages], ?_⟩
    have unchanged : smAtHostWorkFn cfg machine.host = machine.host := by
      simp only [smAtHostWorkFn, waiting, foldl_nil, map_nil, append_nil]
      rw [← waiting]
    rw [unchanged]
    simp [runActions, machineStep, inLoop, waiting]
  | cons message rest ih =>
    obtain ⟨first, handled⟩ : ∃ actions, runActions (machineStep cfg env) actions machine =
          some (machine.setHost (handleMessage cfg message
            (popMessage message rest machine.host))) :=
      takeMessage_handleMessage inLoop waiting (own message (mem_cons_self ..)) noItems
    rw [smAtHostWorkFn_cons waiting]
    have remaining : (handleMessage cfg message
        (popMessage message rest machine.host)).msgq = rest := by
      rw [handleMessage_popMessage]
    generalize handleMessage cfg message
      (popMessage message rest machine.host) = host at handled remaining ⊢
    have inside : (machine.setHost host).loop = .messages := inLoop
    obtain ⟨others, finished⟩ := ih inside remaining
      (fun later member => own later (mem_cons_of_mem _ member))
      noItems
    refine ⟨first ++ others, ?_⟩
    rw [runActions_append, handled, bind_some, finished]
    rfl

/-! ## Runs from the start -/

def bootedMachine : Machine where
  host := { freshHost [0] with
    cmuxDlci := some
    pipeOpen := fun pipe => pipe == 0 }
  callback pipe :=
    if pipe = 0 then .atPipeEventHandler 0 else .nullPipeHandler
  closedSince _ := false
  idle := LinkedLists.empty
  idleLog := []
  loop := .none
  createdAt _ := 0

/-- A URC waits for the first context, and the second one executes a command. -/
def notifiedMachine : Machine :=
  { bootedMachine with
    loop := .messages
    host := { bootedMachine.host with
      ctx := Function.update bootedMachine.host.ctx 1 { Ctx.init (some 1) with executingLock := 1 }
      instanceList := [0, 1]
      urcBuf := ascii "U"
      msgq := [{ ctx := some 0, smEvent := some .urc }, { ctx := some 1, smEvent := some .urc }] } }

/-- The first context sends the URC, and the second one is left for later. -/
theorem messageLoop_eq_twoContexts :
    (∃ actions, runActions (machineStep plusConfig (sessionEnv 0 consumeAll))
      actions notifiedMachine = some { notifiedMachine with
        host := smAtHostWorkFn plusConfig notifiedMachine.host
        loop := .none }) ∧
    (smAtHostWorkFn plusConfig notifiedMachine.host).history = [.urcSent 0 (ascii "U")] ∧
    ((smAtHostWorkFn plusConfig notifiedMachine.host).ctx 0).idleTimer = false ∧
    ((smAtHostWorkFn plusConfig notifiedMachine.host).ctx 1).idleTimer = true :=
  ⟨messageLoop_eq _ rfl rfl (by simp [notifiedMachine]) fun _ => rfl, by decide, by decide, by decide⟩

theorem bootedMachine_booted : Booted bootedMachine where
  host := ⟨fun c => ⟨some c, rfl⟩, rfl, rfl, rfl, rfl⟩
  first := by
    refine ⟨0, 0, rfl, rfl, by decide, rfl, ?_⟩
    intro other d attached
    by_contra notUart
    simp [bootedMachine, notUart] at attached
  urcBuf := rfl
  msgq := rfl
  msgqLog := rfl
  idle := rfl
  idleLog := rfl
  loop := rfl
  createdAt := rfl

theorem exists_machine_run_if {result : Type} (cfg : Config) (env : Environment)
    (allowed : Machine → MachineAction → Prop)
    (check : Machine → MachineAction → Bool)
    (actions : List MachineAction)
    (permitted : ∀ machine action, action ∈ actions →
      check machine action = true → allowed machine action)
    (look : Machine → result) (value : result)
    (evaluated : (runChecked (machineStep cfg env) check actions
      bootedMachine).map look = some value) :
    ∃ machine, MachineReachableIf cfg env allowed machine ∧ look machine = value :=
  exists_reachable bootedMachine_booted permitted evaluated

theorem exists_machine_run {result : Type}
    (cfg : Config) (env : Environment) (actions : List MachineAction)
    (look : Machine → result) (value : result)
    (evaluated : (runActions (machineStep cfg env) actions bootedMachine).map look = some value) :
    ∃ machine, MachineReachableIf cfg env (fun _ _ => True) machine ∧ look machine = value := by
  obtain ⟨machine, ran, same⟩ := map_eq_some_iff.mp evaluated
  exact ⟨machine, reachable_of_run actions bootedMachine_booted ran, same⟩

end SerialModem.AtHost
