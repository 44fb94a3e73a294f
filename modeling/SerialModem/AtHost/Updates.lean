import SerialModem.AtHost.Effects
import SerialModem.AtHost.Steps

/-!
# The updates that every action is made of

The effects of `Effects` still contain calls of the environment and whole
command handlers.  For what only depends on which parts of the state can change
at all, every function is cut further, down to single updates.  None of them
moves a pipe or a lock without saying so, and the message queue is only filled
by `send_msg`.

A property that every update keeps is an invariant of all actions of `System`,
`sm_at_host_work_fn` apart.
-/

namespace SerialModem.AtHost

open Library Option

variable {cfg : Config} {env : Environment}

def NotLock : Event → Prop
  | .locked _ => False
  | .unlocked _ => False
  | _ => True

inductive Update : Host → Host → Prop
  | ctx (host : Host) (c : CtxId) {ctx : Ctx} (samePipe : ctx.pipe = (host.ctx c).pipe)
      (sameLock : ctx.executingLock = (host.ctx c).executingLock) :
      Update host (host.setCtx c ctx)
  | urcBuf (host : Host) (content : List Byte) : Update host { host with urcBuf := content }
  | record (host : Host) {event : Event} (notLock : NotLock event) : Update host (host.record event)
  | lock (host : Host) (c : CtxId) {amount : Int} (unit : amount = 1 ∨ amount = -1) :
      Update host (addExecutingLock c amount host)
  /-- `send_msg`, for anything but a pipe event. -/
  | post (host : Host) {message : Message} (own : message.pipeEvent = none) :
      Update host (sendMsg message host)
  | submit (host : Host) {work : Work} (notFlush : NotFlush work) :
      Update host (submitWork work host)
  | current (host : Host) (current : Option CtxId) : Update host (host.setCurrentCtx current)

abbrev Updates : Host → Host → Prop :=
  Relation.ReflTransGen Update

namespace Updates

theorem refl (host : Host) : Updates host host :=
  Relation.ReflTransGen.refl

theorem of_update {before after : Host} (update : Update before after) : Updates before after :=
  Relation.ReflTransGen.single update

theorem preserves {property : Host → Prop}
    (kept : ∀ {before after}, Update before after → property before → property after)
    {before after : Host} (updates : Updates before after)
    (holds : property before) : property after := by
  induction updates with
  | refl => exact holds
  | tail _ last ih => exact kept last ih

theorem records {events : List Event}
    (notLock : ∀ event, event ∈ events → NotLock event) (host : Host) :
    Updates host { host with history := host.history ++ events } := by
  induction events generalizing host with
  | nil => simpa using refl host
  | cons event rest ih =>
    have recorded : Updates host (host.record event) :=
      of_update (Update.record host (notLock event (List.mem_cons_self ..)))
    have others := ih (fun later member => notLock later (List.mem_cons_of_mem _ member))
      (host.record event)
    simpa [Host.record] using recorded.trans others

variable (c : CtxId)

theorem flushPipeUrcs (host : Host) : Updates host (flushPipeUrcs cfg c host) := by
  let cleared := host.setCtx c { host.ctx c with bufferedUrcs := [] }
  let emptied : Host := { cleared with
    urcBuf := if smAtHostGetUrcCtx cfg host = some c then [] else host.urcBuf }
  have clearing : Updates host cleared :=
    of_update (Update.ctx host c rfl rfl)
  have emptying : Updates cleared emptied :=
    of_update (Update.urcBuf cleared _)
  rw [flushPipeUrcs_eq]
  refine (clearing.trans emptying).trans (records ?_ emptied)
  intro event member
  obtain ⟨content, _, rfl⟩ := List.mem_map.mp member
  trivial

theorem flushIfIdle (host : Host) : Updates host (flushIfIdle cfg c host) := by
  unfold AtHost.flushIfIdle
  split
  · exact flushPipeUrcs c host
  · exact refl host

theorem rspSend (response : Response) (host : Host) : Updates host (rspSend cfg response host) := by
  unfold AtHost.rspSend
  split
  · split
    · exact (flushIfIdle _ host).trans (of_update (Update.record _ trivial))
    · exact refl host
  · exact refl host

theorem checkIdleTimer (reschedule : Bool) (host : Host) :
    Updates host (checkIdleTimer c reschedule host) := by
  unfold AtHost.checkIdleTimer
  split
  · exact of_update (Update.ctx host c rfl rfl)
  · exact refl host

theorem notifyUrc (host : Host) : Updates host (notifyUrc c host) := by
  unfold AtHost.notifyUrc
  split
  · exact of_update (Update.post host rfl)
  · exact checkIdleTimer c false host

theorem urcSend (content : List Byte) (host : Host) : Updates host (urcSend cfg content host) := by
  unfold AtHost.urcSend
  split
  · exact of_update (Update.urcBuf host [])
  · split
    · exact (of_update (Update.urcBuf host _)).trans (notifyUrc _ _)
    · exact of_update (Update.urcBuf host [])

theorem sendTo (pipe : Option PipeId) {event : CtxId → Event}
    (notLock : ∀ c, NotLock (event c)) (host : Host) :
    Updates host (sendTo cfg pipe event host) := by
  unfold AtHost.sendTo
  split
  · exact refl host
  · exact (flushIfIdle _ host).trans (of_update (Update.record _ (notLock _)))

theorem performCall (call : HostCall) (host : Host) : Updates host (performCall cfg call host) := by
  cases call with
  | rspSend response => exact rspSend response host
  | urcSend content => exact urcSend content host
  | urcSendTo pipe content =>
    unfold AtHost.performCall urcSendTo
    dsimp only
    split
    · exact urcSend content host
    · refine Relation.ReflTransGen.trans (of_update (Update.ctx host _ ?_ ?_)) (notifyUrc _ _)
      · rfl
      · rfl
  | rspSendTo pipe response | dataSend pipe content =>
    apply sendTo pipe
    intro _
    trivial
  | lockCtx c =>
    unfold AtHost.performCall smAtHostLockCtx
    dsimp only
    split
    · exact (flushIfIdle c host).trans (of_update (Update.lock _ c (.inl rfl)))
    · exact refl host
  | cmdDone c =>
    unfold AtHost.performCall smAtHostCmdDone
    dsimp only
    split
    · have released : Updates host (addExecutingLock c (-1) host) :=
        of_update (Update.lock host c (.inr rfl))
      split
      · exact (released.trans (of_update (Update.post _ rfl))).trans
          (of_update (Update.submit _ trivial))
      · exact released
    · exact refl host

theorem performCalls (calls : List HostCall) :
    ∀ host : Host, Updates host (performCalls cfg calls host) := by
  induction calls with
  | nil =>
    intro host
    exact refl host
  | cons call rest ih =>
    intro host
    exact (performCall call host).trans (ih _)

theorem setData (data : DataState) (host : Host) : Updates host (host.setData c data) :=
  of_update (Update.ctx host c rfl rfl)

theorem setSmMode {c : CtxId} {mode : OperationMode} {host after : Host}
    (switched : setSmMode cfg env c mode host = some after) :
    Updates host after := by
  obtain ⟨data, rfl, _⟩ := setSmMode_cases switched
  exact setData c data host

theorem callHandlerExit (flags : Flags) (host : Host) :
    Updates host (callHandlerExit cfg env c flags host) := by
  unfold AtHost.callHandlerExit
  split
  · exact refl host
  · have noted : ∀ handler, Updates host (host.record (.handlerExit c handler flags)) :=
      fun handler => of_update (Update.record host trivial)
    exact (noted _).trans (performCalls _ _)

theorem exitDatamode (c : CtxId) (host : Host) : Updates host (exitDatamode cfg env c host) := by
  rcases exitDatamode_cases c host with
    same | ⟨switched, cleared, finished, response, isSwitched, _, _, parts⟩
  · rw [same]
  · rw [parts]
    have exited : Updates host (AtHost.callHandlerExit cfg env c Flags.none switched) :=
      (setSmMode isSwitched).trans (callHandlerExit c Flags.none switched)
    have answered : ∀ state : Host, Updates state (AtHost.rspSend cfg response state) :=
      rspSend response
    refine (exited.trans (setData c cleared _)).trans
      ((answered _).trans ((setData c finished _).trans ?_))
    have posted : ∀ state : Host, Updates state (smAtHostEventNotify c .atMode state) :=
      fun state => of_update (Update.post state rfl)
    exact (posted _).trans (of_update (Update.record _ trivial))

theorem performActions (actions : List CommandAction) : ∀ {host after : Host},
      performActions cfg env actions host = some after →
      Updates host after := by
  induction actions with
  | nil =>
    intro host after performed
    cases performed
    exact refl host
  | cons action rest ih =>
    intro host after performed
    obtain ⟨middle, first, remaining⟩ := bind_eq_some_iff.mp performed
    refine Relation.ReflTransGen.trans ?_ (ih remaining)
    cases action with
    | call hostCall =>
      cases first
      exact performCall hostCall host
    | enterDatamode handler dataLen =>
      obtain ⟨⟨entered, opened⟩, ran, rfl⟩ :=
        map_eq_some_iff.mp first
      rcases enterDatamode_cases ran with
        rfl | ⟨c, data, _, _, _, rfl⟩
      · exact refl _
      · exact (setData c data host).trans (of_update (Update.record _ trivial))
    | echo enable =>
      obtain ⟨c, _, rfl⟩ := map_eq_some_iff.mp first
      have switched : Updates host (host.setCommand c
          { host.command c with echoEnabled := enable }) :=
        of_update (Update.ctx host c rfl rfl)
      exact switched.trans (of_update (Update.ctx _ c rfl rfl))
    | datactrl timeLimit =>
      obtain ⟨c, _, rfl⟩ := map_eq_some_iff.mp first
      dsimp only
      split
      · exact refl host
      · exact setData _ _ host

theorem cmdFinnishOrFail (host : Host) : Updates host (cmdFinnishOrFail env c host) := by
  have cleared : ∀ command : CommandState, Updates host (host.setCommand c command) :=
    fun command => of_update (Update.ctx host c rfl rfl)
  have stopped : ∀ state : Host,
      Updates state (state.setCtx c { state.ctx c with idleTimer := false }) :=
    fun state => of_update (Update.ctx state c rfl rfl)
  unfold AtHost.cmdFinnishOrFail
  exact ((cleared _).trans (stopped _)).trans (of_update (Update.post _ rfl))

end Updates

theorem Plain.notLock {event : Event} (plain : Plain event) : NotLock event := by
  cases event <;> first | exact plain | trivial

variable {before after : Host}

theorem Performs.updates {effect : Effect} (performed : Performs cfg env effect before after)
    (plain : ∀ event, effect = .record event → Plain event) :
    Updates before after := by
  cases performed with
  | data c _ => exact Updates.setData c _ before
  | toNullMode c switched => exact Updates.setSmMode switched
  | leave => exact Updates.exitDatamode _ before
  | record =>
    exact Updates.of_update (Update.record before (plain _ rfl).notLock)
  | current _ served =>
    exact Updates.of_update (Update.current before served)
  | calls issued => exact Updates.performCalls _ before
  | actions issued performed => exact Updates.performActions _ performed
  | command c fits =>
    exact Updates.of_update (Update.ctx before c rfl rfl)
  | idleTimer => exact Updates.of_update (Update.ctx before _ rfl rfl)
  | inactivityTimer _ c active =>
    exact Updates.of_update (Update.ctx before c rfl rfl)
  | lock _ unit => exact Updates.of_update (Update.lock before _ unit)

theorem Effects.updates {allowed : Effect → Prop} (effects : Effects cfg env allowed before after)
    (plain : ∀ event, allowed (.record event) → Plain event) :
    Updates before after := by
  refine effects.relates Updates.refl Relation.ReflTransGen.trans ?_
  intro effect first second isAllowed performed
  apply performed.updates
  rintro event rfl
  exact plain event isAllowed

theorem smAtReceive_updates {c : CtxId} {byte : Byte} {host : Host}
    (ran : smAtReceive cfg env c byte host = some after) :
    Updates host after := by
  rcases smAtReceive_effects ran with
    ⟨_, inSession⟩ | ⟨_, wakes⟩ | ⟨_, typing⟩
  · exact inSession.updates fun _ plain => plain
  · rcases wakes with typing | ⟨settled, executing, typing⟩
    · exact typing.updates fun _ plain => plain
    · exact (executing.updates fun _ plain => plain).trans
        ((Updates.cmdFinnishOrFail c settled).trans (typing.updates fun _ plain => plain))
  · exact typing.updates fun _ plain => plain

theorem Frame.addExecutingLock (c : CtxId) (amount : Int) (host : Host) :
    Frame host (addExecutingLock c amount host) := by
  have moved : Frame host (host.setCtx c { host.ctx c with
      executingLock := (host.ctx c).executingLock + amount }) :=
    Frame.setCtx host rfl
  exact moved.trans (Frame.record _ _)

theorem Frame.sendMsg (message : Message) (host : Host) : Frame host (sendMsg message host) := by
  have posted : ∀ (queue : List Message) (log : List MsgqEvent),
      Frame host { host with msgq := queue, msgqLog := log } :=
    fun queue log => { Frame.refl host with }
  exact (posted _ _).trans (Frame.submitWork _ trivial)

theorem mem_sendMsg {message other : Message} {host : Host}
    (member : other ∈ (sendMsg message host).msgq) :
    other ∈ host.msgq ∨ other = message := by
  have queue : (sendMsg message host).msgq =
      (if msgqCapacity ≤ host.msgq.length then [] else host.msgq) ++ [message] := by
    unfold sendMsg submitWork
    dsimp only
    split <;> rfl
  rw [queue] at member
  rcases List.mem_append.mp member with old | new
  · split at old
    · cases old
    · exact .inl old
  · exact .inr (List.mem_singleton.mp new)

theorem Update.frame (update : Update before after) : Frame before after := by
  cases update with
  | ctx c samePipe _ => exact Frame.setCtx before samePipe
  | urcBuf content => exact { Frame.refl before with }
  | record notLock => exact Frame.record before _
  | lock c unit => exact Frame.addExecutingLock c _ before
  | post own => exact Frame.sendMsg _ before
  | submit notFlush => exact Frame.submitWork before notFlush
  | current current => exact Frame.setCurrentCtx before current

theorem Updates.frame (updates : Updates before after) : Frame before after := by
  induction updates with
  | refl => exact Frame.refl before
  | tail _ last ih => exact ih.trans last.frame

/-- The work queue does not take `sm_at_host_work` next. -/
def NotWorkFn (host : Host) (action : Action) : Prop :=
  action = .dispatch → ∀ rest, host.workQueue ≠ .atHost :: rest

/-- What it takes for a property of the host to survive every action of
`System` except `sm_at_host_work_fn`. -/
structure StepInvariant (property : Host → Prop) : Prop where
  update : ∀ {before after : Host}, Update before after → property before → property after
  submit : ∀ (work : Work) {host : Host}, property host → property (submitWork work host)
  pop : ∀ {work : Work} {rest : List Work} {host : Host},
    work ≠ .atHost → host.workQueue = work :: rest →
    property host → property { host with workQueue := rest }
  relabel : ∀ (running : Running) (pipeRx : PipeId → List Byte) {host : Host},
    property host → property { host with running := running, pipeRx := pipeRx }

namespace StepInvariant

variable {property : Host → Prop}

theorem updates (invariant : StepInvariant property)
    {before after : Host} (updates : Updates before after)
    (holds : property before) : property after :=
  updates.preserves invariant.update holds

variable {host : Host}

theorem leaveRxWork (invariant : StepInvariant property) (holds : property host) :
    property (leaveRxWork host) :=
  invariant.relabel .idle host.pipeRx (invariant.update (Update.current host none) holds)

theorem enterWork (invariant : StepInvariant property) {work : Work}
    {rest : List Work} (other : work ≠ .atHost)
    (queue : host.workQueue = work :: rest) (holds : property host) :
    property (enterWork cfg work { host with workQueue := rest }) := by
  have popped : property { host with workQueue := rest } :=
    invariant.pop other queue holds
  cases work with
  | rx c =>
    rcases enterRxWork_cases c { host with workQueue := rest } with
      same | ⟨pipe, _, _, _, entered⟩
    · rw [AtHost.enterWork, same]
      exact popped
    · rw [AtHost.enterWork, entered]
      exact invariant.relabel (.rx c pipe) host.pipeRx
        (invariant.update (Update.current _ (some c)) popped)
  | rawSendScheduled c mark =>
    exact invariant.relabel (.rawSendScheduled c mark) host.pipeRx popped
  | atHost => exact absurd rfl other
  | poll c => exact popped

theorem step (invariant : StepInvariant property) {action : Action}
    {after : Host} (notWorkFn : NotWorkFn host action)
    (taken : step cfg env action host = some after) (holds : property host) : property after := by
  have stored : ∀ pipe content, property (setPipeRx pipe content host) :=
    fun pipe content => invariant.relabel host.running _ holds
  cases step_cases taken with
  | pipeReceive c content pipe _ _ =>
    exact invariant.submit _ (stored pipe _)
  | inactivityExpiry c _ =>
    have stopped : property (setInactivityTimer c false host) :=
      invariant.update (Update.ctx host c rfl rfl) holds
    unfold inactivityTimerHandler
    split
    · exact stopped
    · exact invariant.submit _ stopped
  | idleExpiry c _ =>
    exact invariant.update (Update.post _ rfl) (invariant.update (Update.ctx host c rfl rfl) holds)
  | dispatch work rest _ queue =>
    refine invariant.enterWork ?_ queue holds
    rintro rfl
    exact notWorkFn rfl rest queue
  | receiveByte c pipe byte rest handled _ _ received =>
    have handling : property handled :=
      invariant.updates (smAtReceive_updates received) (stored pipe rest)
    unfold continueRxWork
    split
    · exact handling
    · exact invariant.leaveRxWork handling
  | receiveEnd => exact invariant.leaveRxWork holds
  | flush c mark flushed _ ran =>
    have sent : property flushed :=
      invariant.updates ((rawSendScheduled_effects ran).updates fun _ plain => plain) holds
    exact invariant.relabel .idle flushed.pipeRx sent
  | exitDatamodeHandler c result _ =>
    have exited : Updates host (exitDatamodeHandler cfg env c result host) :=
      (exitDatamodeHandler_effects c result host).updates fun _ plain => plain
    exact invariant.updates exited holds
  | call hostCall _ =>
    exact invariant.updates (Updates.performCall hostCall host) holds

end StepInvariant

end SerialModem.AtHost
