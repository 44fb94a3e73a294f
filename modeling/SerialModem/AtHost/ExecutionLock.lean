import SerialModem.AtHost.OpenSession

/-!
# The executing lock

`at_pipe_rx_work_fn` looks at `executing_lock` before its loop and not again.
A batch in which a command leaves the context locked goes on parsing unless
that command is the last thing that waits in the pipe.
-/

namespace SerialModem.AtHost

open Library Function Option

variable {cfg : Config} {env : Environment}

theorem sendMsg_executingLock (message : Message) (host : Host) (c : CtxId) :
    ((sendMsg message host).ctx c).executingLock = (host.ctx c).executingLock := by
  unfold sendMsg submitWork
  dsimp only
  split <;> rfl

theorem setCtx_executingLock (host : Host) {d : CtxId} {ctx : Ctx}
    (same : ctx.executingLock = (host.ctx d).executingLock) (c : CtxId) :
    ((host.setCtx d ctx).ctx c).executingLock = (host.ctx c).executingLock := by
  by_cases equal : c = d
  · subst equal
    simpa [Host.setCtx] using same
  · simp [Host.setCtx, update_of_ne equal]

theorem notifyUrc_executingLock (d : CtxId) (host : Host) (c : CtxId) :
    ((notifyUrc d host).ctx c).executingLock = (host.ctx c).executingLock := by
  unfold notifyUrc checkIdleTimer
  split
  · exact sendMsg_executingLock _ host c
  · split
    · apply setCtx_executingLock
      rfl
    · rfl

theorem urcSend_executingLock (content : List Byte) (host : Host) (c : CtxId) :
    ((urcSend cfg content host).ctx c).executingLock = (host.ctx c).executingLock := by
  unfold urcSend
  split
  · rfl
  · split
    · rw [notifyUrc_executingLock]
    · rfl

theorem flushIfIdle_executingLock (d : CtxId) (host : Host) (c : CtxId) :
    ((flushIfIdle cfg d host).ctx c).executingLock = (host.ctx c).executingLock := by
  unfold flushIfIdle
  split
  · rw [flushPipeUrcs_eq]
    apply setCtx_executingLock
    rfl
  · rfl

theorem sendTo_executingLock
    (pipe : Option PipeId) (event : CtxId → Event) (host : Host) (c : CtxId) :
    ((sendTo cfg pipe event host).ctx c).executingLock = (host.ctx c).executingLock := by
  unfold sendTo
  split
  · rfl
  · exact flushIfIdle_executingLock _ host c

theorem performCall_executingLock (cfg : Config) {hostCall : HostCall} (host : Host)
    (permitted : hostCall.fromAnyThread = true) (c : CtxId) :
    ((performCall cfg hostCall host).ctx c).executingLock ≤ (host.ctx c).executingLock := by
  cases hostCall with
  | rspSend response | lockCtx d => cases permitted
  | urcSend content =>
    exact Int.le_of_eq (urcSend_executingLock content host c)
  | urcSendTo pipe content =>
    apply Int.le_of_eq
    simp only [performCall]
    unfold urcSendTo
    split
    · exact urcSend_executingLock content host c
    · rw [notifyUrc_executingLock]
      apply setCtx_executingLock
      rfl
  | rspSendTo pipe response | dataSend pipe content =>
    exact Int.le_of_eq (sendTo_executingLock pipe _ host c)
  | cmdDone d =>
    have released : ((addExecutingLock d (-1) host).ctx c).executingLock ≤
        (host.ctx c).executingLock := by
      by_cases equal : c = d
      · subst equal
        simp only [addExecutingLock, Host.record, Host.setCtx, update_self]
        omega
      · simp [addExecutingLock, Host.record, Host.setCtx, update_of_ne equal]
    simp only [performCall]
    unfold smAtHostCmdDone
    split
    · dsimp only
      split
      · have submitted : ∀ (work : Work) (state : Host),
            ((submitWork work state).ctx c).executingLock = (state.ctx c).executingLock := by
          intro work state
          unfold submitWork
          split <;> rfl
        rw [submitted, smAtHostEventNotify, sendMsg_executingLock]
        exact released
      · exact released
    · exact Int.le_refl _

theorem submitWork_executingLock (work : Work) (host : Host) (c : CtxId) :
    ((submitWork work host).ctx c).executingLock = (host.ctx c).executingLock := by
  unfold submitWork
  split <;> rfl

theorem inactivityTimerHandler_quietLock (d : CtxId) (host : Host) (c : CtxId) :
    ((inactivityTimerHandler d (setInactivityTimer d false host)).ctx
        c).executingLock = (host.ctx c).executingLock ∧
      (inactivityTimerHandler d (setInactivityTimer d false host)).pipeRx = host.pipeRx := by
  have stopped : ((setInactivityTimer d false host).ctx c).executingLock =
      (host.ctx c).executingLock := by
    apply setCtx_executingLock
    rfl
  unfold inactivityTimerHandler
  split
  · exact ⟨stopped, rfl⟩
  · refine ⟨(submitWork_executingLock _ _ c).trans stopped, ?_⟩
    unfold submitWork
    split <;> rfl

def LeavesLocked (cfg : Config) (env : Environment) (c : CtxId) (byte : Byte)
    (host : Host) : Prop :=
  ∃ handled, smAtReceive cfg env c byte host = some handled ∧ 0 < (handled.ctx c).executingLock

/-- How the bytes are grouped: a byte that leaves its context locked is the
last one that waits in the pipe, and none arrives until the batch has ended. -/
def LockEndsBatch (cfg : Config) (env : Environment) (host : Host) (action : Action) :
    Prop :=
  ∀ c pipe, host.running = .rx c pipe →
    match action with
    | .receiveByte => ∀ byte rest, host.pipeRx pipe = byte :: rest →
        LeavesLocked cfg env c byte (setPipeRx pipe rest host) → rest = []
    | .pipeReceive d content => (host.ctx d).pipe = some pipe →
        0 < (host.ctx c).executingLock → content = []
    | _ => True

def BatchUnlocked (host : Host) : Prop :=
  ∀ c pipe, host.running = .rx c pipe → 0 < (host.ctx c).executingLock → host.pipeRx pipe = []

theorem step_batchUnlocked {action : Action} {host after : Host}
    (wellFormed : AllWellFormed cfg host)
    (unlocked : BatchUnlocked host)
    (permitted : LockEndsBatch cfg env host action)
    (taken : step cfg env action host = some after) :
    BatchUnlocked after := by
  intro c pipe running locked
  rcases step_rx wellFormed taken running with
    already | ⟨_, _, _, free, rest, rfl⟩
  · have before := unlocked c pipe already
    have condition := permitted c pipe already
    cases step_cases taken with
    | pipeReceive d content p live isPipe =>
      rw [submitWork_executingLock] at locked
      have drained := before locked
      let offered := setPipeRx p (host.pipeRx p ++ content) host
      have submitted : Frame offered (submitWork (.rx d) offered) :=
        Frame.submitWork _ trivial
      rw [submitted.pipeRx]
      by_cases same : pipe = p
      · subst same
        simp [offered, setPipeRx, drained, condition isPipe locked]
      · simp [offered, setPipeRx, update_of_ne same, drained]
    | inactivityExpiry d _ =>
      obtain ⟨sameLock, samePipe⟩ :=
        inactivityTimerHandler_quietLock d host c
      rw [sameLock] at locked
      rw [samePipe]
      exact before locked
    | idleExpiry d _ =>
      have expired : Undisturbed cfg host (host.setCtx d { host.ctx d with idleTimer := false }) :=
        Undisturbed.setCtx host rfl rfl
      have notified := expired.trans (sendMsg_undisturbed (Message.event d .urc) _)
      have same : ((host.setCtx d { host.ctx d with
          idleTimer := false }).ctx c).executingLock = (host.ctx c).executingLock := by
        apply setCtx_executingLock
        rfl
      rw [smAtHostEventNotify, sendMsg_executingLock, same] at locked
      rw [smAtHostEventNotify, notified.frame.pipeRx]
      exact before locked
    | dispatch work rest idle _ =>
      rw [idle] at already
      cases already
    | receiveByte d p byte rest handled isRunning waiting received =>
      rw [already] at isRunning
      cases isRunning
      have arrived : AllWellFormed cfg (setPipeRx pipe rest host) :=
        wellFormed
      have frame := smAtReceive_frame arrived received
      have unmoved : continueRxWork c pipe handled = handled := by
        unfold continueRxWork at running ⊢
        split
        · rfl
        · rename_i moved
          rw [if_neg moved] at running
          cases running
      rw [unmoved] at locked ⊢
      rw [frame.pipeRx]
      simpa [setPipeRx] using condition byte rest waiting ⟨handled, received, locked⟩
    | receiveEnd d p _ | flush d mark flushed _ _ => cases running
    | exitDatamodeHandler d result idle =>
      rw [idle] at already
      cases already
    | call hostCall allowed =>
      have called : Undisturbed cfg host (performCall cfg hostCall host) :=
        performCall_undisturbed hostCall host
      rw [already] at allowed
      have fromOutside : hostCall.fromAnyThread = true := by
        rcases allowed with impossible | fromOutside
        · cases impossible
        · exact fromOutside
      have released := performCall_executingLock cfg host fromOutside c
      rw [called.frame.pipeRx]
      exact before (by omega)
  · have stays : 0 < (host.ctx c).executingLock := locked
    omega

/-- A batch that serves a locked context has no byte left. -/
theorem reachable_batchUnlocked {host : Host}
    (reachable : ReachableIf cfg env (LockEndsBatch cfg env) host) :
    BatchUnlocked host := by
  induction reachable with
  | start initial =>
    intro c pipe isRunning
    rw [initial.running] at isRunning
    cases isRunning
  | next action before permitted taken ih =>
    exact step_batchUnlocked (reachable_wellFormed before) ih permitted taken

/-- As long as no byte waits behind one that leaves its context locked, no
byte is handed to `sm_at_receive` while a command is executing. -/
theorem no_byte_while_executing {host after : Host} {c : CtxId} {pipe : PipeId}
    (reachable : ReachableIf cfg env (LockEndsBatch cfg env) host)
    (running : host.running = .rx c pipe)
    (received : step cfg env .receiveByte host = some after) :
    (host.ctx c).executingLock ≤ 0 := by
  by_contra positive
  have drained := reachable_batchUnlocked reachable c pipe running (by omega)
  simp [step, running, drained] at received

def continuingEnv : Environment where
  handlerSend _ _ _ content _ := consumeAll [] content
  handlerExit _ _ _ _ := []
  atCommand _ _ _ := ⟨[], .continueRet⟩
  bootloaderCommand _ _ _ := ([], true)
  alloc _ _ _ := true

/-- Whether no byte waits behind one that leaves the context locked. -/
def endsBatch (cfg : Config) (env : Environment) (host : Host) (action : Action) : Bool :=
  match host.running, action with
  | .rx c pipe, .receiveByte =>
    match host.pipeRx pipe with
    | byte :: rest => rest.isEmpty || (smAtReceive cfg env c byte (setPipeRx pipe rest host)).all
        fun handled => (handled.ctx c).executingLock ≤ 0
    | [] => true
  | .rx c pipe, .pipeReceive d content =>
    (host.ctx d).pipe != some pipe || (host.ctx c).executingLock ≤ 0 || content.isEmpty
  | _, _ => true

theorem endsBatch_sound {host : Host} {action : Action}
    (checked : endsBatch cfg env host action = true) : LockEndsBatch cfg env host action := by
  intro c pipe running
  cases action with
  | receiveByte =>
    rintro byte rest waiting ⟨handled, received, locked⟩
    simp only [endsBatch, running, waiting, received, all_some, Bool.or_eq_true,
      List.isEmpty_iff, decide_eq_true_eq] at checked
    exact checked.resolve_right (by omega)
  | pipeReceive d content =>
    intro isPipe locked
    simp only [endsBatch, running, isPipe, bne_self_eq_false, Bool.false_or, Bool.or_eq_true,
      List.isEmpty_iff, decide_eq_true_eq] at checked
    exact checked.resolve_left (by omega)
  | _ => trivial

/-- A command locks its context; a byte that arrives then stays in the pipe until
the command is done. -/
theorem no_byte_while_executing_released : ∃ waiting host,
      (waiting.ctx 0).executingLock = 1 ∧ waiting.pipeRx 0 = [65] ∧
      waiting.running = .idle ∧ waiting.workQueue = [] ∧
      runChecked (step plusConfig continuingEnv) (endsBatch plusConfig continuingEnv)
        [.call (.cmdDone 0), .dispatch, .dispatch] waiting = some host ∧
      host.running = .rx 0 0 ∧ host.pipeRx 0 = [65] ∧ (host.ctx 0).executingLock ≤ 0 := by
  have evaluated : (runChecked (step plusConfig continuingEnv)
      (endsBatch plusConfig continuingEnv) [.pipeReceive 0 [65, 84, 13], .dispatch, .receiveByte,
        .receiveByte, .receiveByte, .receiveEnd, .pipeReceive 0 [65], .dispatch, .dispatch]
      (freshHost [0])).map (fun waiting => ((waiting.ctx 0).executingLock, waiting.pipeRx 0,
        waiting.running, waiting.workQueue.isEmpty,
        (runChecked (step plusConfig continuingEnv) (endsBatch plusConfig continuingEnv)
          [.call (.cmdDone 0), .dispatch, .dispatch] waiting).map fun host =>
            decide (host.running = .rx 0 0 ∧ host.pipeRx 0 = [65] ∧
              (step plusConfig continuingEnv .receiveByte host).isSome = true))) =
      some (1, [65], .idle, true, some true) := by
    decide
  obtain ⟨waiting, ran, seen⟩ := map_eq_some_iff.mp evaluated
  simp only [Prod.mk.injEq, List.isEmpty_iff, map_eq_some_iff,
    decide_eq_true_eq] at seen
  obtain ⟨locked, held, idle, queue, host, released, running, arrived, received⟩ := seen
  obtain ⟨after, received⟩ := isSome_iff_exists.mp received
  have sound : ∀ host action, endsBatch plusConfig continuingEnv host action = true →
      LockEndsBatch plusConfig continuingEnv host action := fun _ _ checked =>
    endsBatch_sound checked
  have reachable := reachable_of_runChecked _ (fun host action _ => sound host action)
    (reachable_of_runChecked _ (fun host action _ => sound host action)
      (.start (freshHost_initial [0])) ran) released
  exact ⟨waiting, host, locked, held, idle, queue, released, running, arrived,
    no_byte_while_executing reachable running received⟩

/-- Two command lines that arrive together are both parsed, although the first
command is still executing. -/
theorem second_command_parsed_while_executing :
    ¬ ∀ (cfg : Config) (env : Environment) (host after : Host) (c : CtxId) (pipe : PipeId),
      ReachableState cfg env host → host.running = .rx c pipe →
      step cfg env .receiveByte host = some after →
      (host.ctx c).executingLock ≤ 0 := by
  intro claimed
  obtain ⟨host, reachable, seen⟩ := exists_run plusConfig continuingEnv [0]
    [.pipeReceive 0 [65, 84, 13, 65, 84, 13], .dispatch, .receiveByte, .receiveByte, .receiveByte]
    (fun state => (state.running, (state.ctx 0).executingLock,
      (step plusConfig continuingEnv .receiveByte state).isSome))
    (.rx 0 0, 1, true) (by decide)
  obtain ⟨running, seen⟩ := Prod.mk.inj seen
  obtain ⟨locked, enabled⟩ := Prod.mk.inj seen
  obtain ⟨after, received⟩ := isSome_iff_exists.mp enabled
  have unlocked := claimed plusConfig continuingEnv host after 0 0 reachable running received
  omega

end SerialModem.AtHost
