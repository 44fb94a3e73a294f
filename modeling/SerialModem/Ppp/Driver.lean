import SerialModem.AtHost.MachineSteps
import SerialModem.Ppp.System

/-!
# What drives PPP out of a transitional state

Only its own thread writes `ppp_state`.  It posts an event after each change to
a transitional state, or the queue is full, so that there is an event to
process.  What is processed then may be a start event, and `ppp_start` returns
early without an address or a pipe and leaves the state as it is.  When no
event is left after it, nothing moves PPP on.
-/

namespace SerialModem.Ppp

open AtHost List Option
open Library

variable {cfg : Config}

/-! ## What an operation leaves alone -/

section Frame

variable (world : World)

@[simp] theorem setPpp_ppp (ppp : PppVars) : (world.setPpp ppp).ppp = ppp :=
  rfl

@[simp] theorem setPpp_thread (ppp : PppVars) : (world.setPpp ppp).thread = world.thread :=
  rfl

@[simp] theorem setHost_ppp (host : Host) : (world.setHost host).ppp = world.ppp :=
  rfl

@[simp] theorem setHost_thread (host : Host) : (world.setHost host).thread = world.thread :=
  rfl

@[simp] theorem callThread_ppp (ops : List ThreadOp) : (world.callThread ops).ppp = world.ppp :=
  rfl

@[simp] theorem callThread_thread (ops : List ThreadOp) :
    (world.callThread ops).thread = ops ++ world.thread :=
  rfl

@[simp] theorem callWork_ppp (ops : List WorkOp) : (world.callWork ops).ppp = world.ppp :=
  rfl

@[simp] theorem callWork_thread (ops : List WorkOp) : (world.callWork ops).thread = world.thread :=
  rfl

@[simp] theorem record_ppp (events : List CgdataEvent) : (world.record events).ppp = world.ppp :=
  rfl

@[simp] theorem record_thread (events : List CgdataEvent) :
    (world.record events).thread = world.thread :=
  rfl

@[simp] theorem sendStatusNotification_ppp :
    (sendStatusNotification cfg world).ppp = world.ppp := by
  unfold sendStatusNotification
  split <;> rfl

@[simp] theorem sendStatusNotification_thread :
    (sendStatusNotification cfg world).thread = world.thread := by
  unfold sendStatusNotification
  split <;> rfl

@[simp] theorem releaseCtxOf_ppp (pipe : Option PipeId) :
    (releaseCtxOf pipe world).ppp = world.ppp := by
  unfold releaseCtxOf
  split <;> rfl

@[simp] theorem releaseCtxOf_thread (pipe : Option PipeId) :
    (releaseCtxOf pipe world).thread = world.thread := by
  unfold releaseCtxOf
  split <;> rfl

@[simp] theorem answerTo_ppp (response : Response) (event : CtxId → CgdataEvent) :
    (answerTo cfg response event world).ppp = world.ppp := by
  unfold answerTo
  dsimp only
  split <;> rfl

@[simp] theorem answerTo_thread (response : Response) (event : CtxId → CgdataEvent) :
    (answerTo cfg response event world).thread = world.thread := by
  unfold answerTo
  dsimp only
  split <;> rfl

@[simp] theorem cmdDone_ppp : (cmdDone world).ppp = world.ppp := by
  unfold cmdDone
  split <;> rfl

@[simp] theorem cmdDone_thread : (cmdDone world).thread = world.thread := by
  unfold cmdDone
  split <;> rfl

variable (c : CtxId)

@[simp] theorem setPipe_ppp (pipe : Option PipeId) : (setPipe c pipe world).ppp = world.ppp := by
  unfold setPipe
  split <;> rfl

@[simp] theorem setPipe_thread (pipe : Option PipeId) :
    (setPipe c pipe world).thread = world.thread := by
  unfold setPipe
  split <;> rfl

@[simp] theorem finishCommand_ppp (result : CommandResult) :
    (finishCommand cfg c result world).ppp = world.ppp := by
  unfold finishCommand
  split <;> rfl

@[simp] theorem finishCommand_thread (result : CommandResult) :
    (finishCommand cfg c result world).thread = world.thread := by
  unfold finishCommand
  split <;> rfl

end Frame

/-! ## The other threads -/

structure OnlyPosts (before after : World) : Prop where
  thread : after.thread = before.thread
  pppState : after.ppp.pppState = before.ppp.pppState
  queue : ∀ event, event ∈ before.ppp.queue → event ∈ after.ppp.queue

theorem OnlyPosts.refl (world : World) : OnlyPosts world world :=
  ⟨rfl, rfl, fun _ member => member⟩

theorem OnlyPosts.trans {first second third : World}
    (left : OnlyPosts first second) (right : OnlyPosts second third) :
    OnlyPosts first third where
  thread := right.thread.trans left.thread
  pppState := right.pppState.trans left.pppState
  queue event member := right.queue event (left.queue event member)

variable (event : PppEvent)

@[simp] theorem delegatePppEvent_pppState (ppp : PppVars) :
    (delegatePppEvent event ppp).pppState = ppp.pppState := by
  unfold delegatePppEvent
  split <;> rfl

variable {ppp : PppVars}

theorem mem_delegatePppEvent {event other : PppEvent} (member : other ∈ ppp.queue) :
    other ∈ (delegatePppEvent event ppp).queue := by
  unfold delegatePppEvent
  split
  · exact mem_append_left _ member
  · exact member

theorem mem_delegatePppEvent_self {event : PppEvent} (room : ppp.queue.length < queueCapacity) :
    event ∈ (delegatePppEvent event ppp).queue := by
  rw [delegatePppEvent, if_pos room]
  exact mem_append_right _ (mem_singleton_self event)

theorem OnlyPosts.delegate (world : World) :
    OnlyPosts world (world.setPpp (delegatePppEvent event world.ppp)) :=
  ⟨rfl, delegatePppEvent_pppState event world.ppp, fun _ member => mem_delegatePppEvent member⟩

variable {after : World}

theorem OnlyPosts.of_same {before : World} (thread : after.thread = before.thread)
    (pppState : after.ppp.pppState = before.ppp.pppState)
    (queue : after.ppp.queue = before.ppp.queue) :
    OnlyPosts before after :=
  ⟨thread, pppState, fun _ member => queue ▸ member⟩

theorem handleCommand_onlyPosts (c : CtxId) (command : PppCommand) (world : World) :
    OnlyPosts world (handleCommand c command world) := by
  cases command with
  | xpppStart cid =>
    simp only [handleCommand, handleXpppStart]
    split
    · exact .of_same rfl rfl rfl
    · split <;> exact .of_same rfl rfl rfl
  | xpppStop => exact .of_same rfl rfl rfl
  | cgdata cid =>
    simp only [handleCommand, handleCgdata]
    split <;> exact .of_same rfl rfl rfl
  | xcmux dlci =>
    simp only [handleCommand, handleXcmux, xcmuxStart, channelSwitch]
    repeat' split
    all_goals exact .of_same rfl rfl rfl
  | cmux =>
    simp only [handleCommand, handleCmux]
    split <;> exact .of_same rfl rfl rfl

variable {world : World}

theorem modemPppAttach_onlyPosts {pipe : Option PipeId}
    (attached : modemPppAttach pipe world = some after) :
    OnlyPosts world after := by
  unfold modemPppAttach at attached
  split at attached
  · cases attached
    exact .refl _
  · cases attached
  · cases attached
    exact .of_same rfl rfl rfl

variable {outcome : Outcome}

theorem performWork_onlyPosts {op : WorkOp}
    (performed : performWork cfg outcome world op = some after) :
    OnlyPosts world after := by
  cases op with
  | delegate event =>
    cases performed
    exact .delegate event world
  | command c command =>
    cases performed
    exact handleCommand_onlyPosts c command world
  | attachModule => exact modemPppAttach_onlyPosts performed
  | cgdataTakePipe c cid =>
    cases performed
    unfold cgdataTakePipe
    dsimp only
    split <;> exact .of_same rfl rfl rfl
  | cgdataConnected c cid | activatePdp =>
    cases performed
    repeat' split
    all_goals exact .of_same rfl rfl rfl
  | sendNoCarrier =>
    cases performed
    split
    · exact .refl world
    · exact .of_same (by simp) (by simp) (by simp)
  | sendConnect | cmuxStart c | finish c result | cmdDone | releaseCtx | releasePipe pipe
  | setPipe c pipe =>
    cases performed
    exact .of_same (by simp) (by simp) (by simp)
  | _ =>
    cases performed
    exact .of_same rfl rfl rfl

variable {action : Action}

/-- All steps but those of `ppp_data_passing_thread`. -/
theorem step_onlyPosts (noPoll : ∀ result, action ≠ .poll result)
    (noRun : ∀ outcome, action ≠ .runThread outcome)
    (taken : step cfg action world = some after) :
    OnlyPosts world after := by
  cases action with
  | poll result => exact absurd rfl (noPoll result)
  | runThread outcome => exact absurd rfl (noRun outcome)
  | runWork outcome =>
    simp only [step] at taken
    split at taken
    · cases taken
    · have performed := performWork_onlyPosts taken
      exact ⟨performed.thread, performed.pppState, performed.queue⟩
  | rxStart c | command command =>
    simp only [step] at taken
    repeat' split at taken
    all_goals first
      | (cases taken; done)
      | (cases taken; exact .of_same rfl rfl rfl)
  | rxEnd | activatePdp =>
    simp only [step] at taken
    split at taken
    · cases taken
      exact .of_same rfl rfl rfl
    · cases taken
  | cmuxStop =>
    simp only [step] at taken
    split at taken
    · cases taken
      split <;> exact .of_same rfl rfl rfl
    · cases taken
  | takeMessage allocated =>
    simp only [step, takePipeMessage] at taken
    split at taken
    · split at taken
      · cases taken
      · cases taken
        exact .of_same rfl rfl rfl
    · cases taken
  | pipeOpened pipe | pipeClosed pipe =>
    simp only [step] at taken
    split at taken
    · cases taken
    · cases taken
      exact .of_same rfl rfl rfl
  | cgev number =>
    simp only [step, atNotifOnCgev] at taken
    split at taken
    · cases taken
      split <;> exact .of_same rfl rfl rfl
    · cases taken
  | cgevPost =>
    obtain ⟨event, _, rfl⟩ := map_eq_some_iff.mp taken
    exact OnlyPosts.trans (.delegate event world) (.of_same rfl rfl rfl)
  | phaseRunning =>
    simp only [step] at taken
    split at taken
    · cases taken
      exact .of_same (by simp) (by simp) (by simp)
    · cases taken
  | phaseDead =>
    simp only [step, phaseDead] at taken
    split at taken
    · cases taken
      repeat' split
      all_goals exact .of_same (by simp) (by simp) (by simp)
    · cases taken
  | netMgmtPost =>
    obtain ⟨event, _, rfl⟩ := map_eq_some_iff.mp taken
    exact OnlyPosts.trans (.delegate event world) (.of_same rfl rfl rfl)

/-! ## The thread of PPP -/

/-- The states in which `AT#XPPP=1` and `AT+CGDATA` are refused although PPP is
not running. -/
def PppStates.Transitional (state : PppStates) : Prop :=
  state = .starting ∨ state = .stopping

def Covered (ppp : PppVars) : Prop :=
  ppp.pppState.Transitional → ppp.queue ≠ []

def ThreadOp.Waits : ThreadOp → Prop
  | .serveEvents => True
  | .serveSocket _ _ => True
  | .workFn => True
  | _ => False

/-- What is left of `ppp_start` after the state is `STARTING`, and of
`ppp_stop`. -/
inductive Handling : List ThreadOp → Prop
  | netIfUp : Handling [.netIfUp]
  | openSockets : Handling [.openSockets]
  | detachAtPipe : Handling [.detachAtPipe, .attachModule, .started]
  | attachModule : Handling [.attachModule, .started]
  | started : Handling [.started]
  | stop (reason : PppReason) (restart : Bool) : Handling [.stop reason restart]
  | netIfDown (reason : PppReason) (restart : Bool) : Handling [.netIfDown reason restart]
  | releaseModule (restart : Bool) : Handling (stopReleasing restart)
  | handBack (restart : Bool) : Handling [.handBack, .stopped restart]
  | forgetPipe (restart : Bool) : Handling [.forgetPipe, .stopped restart]
  | stopped (restart : Bool) : Handling [.stopped restart]

inductive Driven (ppp : PppVars) : List ThreadOp → Prop
  | waiting {ops : List ThreadOp} (covered : Covered ppp)
      (waits : ∀ op, op ∈ ops → op.Waits) : Driven ppp ops
  | starting {rest : List ThreadOp} (waits : ∀ op, op ∈ rest → op.Waits) :
      Driven ppp (.start :: .workFn :: rest)
  | handling {ops rest : List ThreadOp} (isHandling : Handling ops)
      (waits : ∀ op, op ∈ rest → op.Waits) :
      Driven ppp (ops ++ .workFn :: rest)
  | posting {event : PppEvent} {rest : List ThreadOp} (waits : ∀ op, op ∈ rest → op.Waits) :
      Driven ppp (.delegate event :: rest)

theorem Covered.mono {before after : PppVars} (covered : Covered before)
    (pppState : after.pppState = before.pppState)
    (queue : ∀ event, event ∈ before.queue → event ∈ after.queue) :
    Covered after := by
  intro transitional
  obtain ⟨event, member⟩ :=
    exists_mem_of_ne_nil _ (covered (pppState ▸ transitional))
  exact ne_nil_of_mem (queue event member)

theorem Covered.of_stopped (stopped : ppp.pppState = .stopped) : Covered ppp := by
  rintro (starting | stopping)
  · exact absurd (stopped.symm.trans starting) (by decide)
  · exact absurd (stopped.symm.trans stopping) (by decide)

theorem Covered.of_running (running : ppp.pppState = .running) : Covered ppp := by
  rintro (starting | stopping)
  · exact absurd (running.symm.trans starting) (by decide)
  · exact absurd (running.symm.trans stopping) (by decide)

variable {ops : List ThreadOp}

theorem Driven.mono {before after : PppVars} (driven : Driven before ops)
    (pppState : after.pppState = before.pppState)
    (queue : ∀ event, event ∈ before.queue → event ∈ after.queue) :
    Driven after ops := by
  cases driven with
  | waiting covered waits =>
    exact .waiting (covered.mono pppState queue) waits
  | starting waits => exact .starting waits
  | handling isHandling waits => exact .handling isHandling waits
  | posting waits => exact .posting waits

variable {rest : List ThreadOp}

theorem PppEvent.ops_driven (waits : ∀ op, op ∈ rest → op.Waits) :
    Driven ppp (event.ops ++ .workFn :: rest) := by
  obtain ⟨action, reason⟩ := event
  cases action with
  | start => exact .starting waits
  | restart => exact .handling (.stop reason true) waits
  | stop => exact .handling (.stop reason false) waits

variable {op : ThreadOp}

theorem Waits.cons (first : op.Waits) (waits : ∀ other, other ∈ rest → other.Waits) :
    ∀ other, other ∈ op :: rest → other.Waits := by
  intro other member
  rcases mem_cons.mp member with rfl | later
  · exact first
  · exact waits other later

theorem Waits.workFn (waits : ∀ other, other ∈ rest → other.Waits) :
    ∀ other, other ∈ .workFn :: rest → other.Waits :=
  Waits.cons trivial waits

theorem performThread_waiting (performed : performThread cfg outcome world op = some after)
    (isWait : op.Waits) (covered : Covered world.ppp)
    (waits : ∀ other, other ∈ world.thread → other.Waits) :
    Driven after.ppp after.thread := by
  cases op with
  | serveEvents =>
    cases performed
    split
    · exact .waiting covered (Waits.cons trivial waits)
    · exact .waiting covered waits
  | serveSocket fd pollin =>
    simp only [performThread] at performed
    split at performed
    · split at performed
      · cases performed
        exact .waiting covered waits
      · cases performed
        exact .posting waits
    · cases performed
      exact .waiting covered waits
  | workFn =>
    simp only [performThread] at performed
    split at performed
    · cases performed
      exact .waiting covered waits
    · rename_i event rest waiting
      cases performed
      have handled : Driven { world.ppp with queue := rest }
          (event.ops ++ .workFn :: world.thread) := event.ops_driven waits
      simpa using handled
  | _ => exact absurd isWait id

/-- `ppp_start` returns early or sets the state to `STARTING`. -/
theorem pppStart_driven {success : Bool} (thread : world.thread = .workFn :: rest)
    (moves : world.ppp.pppState.Transitional →
      (success = true ∧ world.ppp.pppPipe ≠ none) ∨ world.ppp.queue ≠ [])
    (waits : ∀ op, op ∈ rest → op.Waits) :
    Driven (pppStart cfg success world).ppp (pppStart cfg success world).thread := by
  have waiting := Waits.workFn waits
  unfold pppStart
  dsimp only
  split
  · rename_i running
    refine .waiting (.of_running (by simpa using running)) ?_
    simpa [thread] using waiting
  · split
    · rename_i failed
      have covered : Covered { world.ppp with cgevPaused := false } := by
        intro transitional
        rcases moves transitional with ⟨succeeded, _⟩ | waitingEvent
        · simp [succeeded] at failed
        · exact waitingEvent
      refine .waiting covered ?_
      simpa [thread] using waiting
    · split
      · rename_i noPipe
        have covered : Covered { world.ppp with cgevPaused := false } := by
          intro transitional
          rcases moves transitional with ⟨_, pipe⟩ | waitingEvent
          · exact absurd noPipe pipe
          · exact waitingEvent
        refine .waiting covered ?_
        simpa [thread] using waiting
      · have handling : Driven { world.ppp with cgevPaused := false, pppState := .starting }
            ([.netIfUp] ++ .workFn :: rest) := .handling .netIfUp waits
        simpa [thread] using handling

/-- An operation of `ppp_start` or `ppp_stop` on a changed state. -/
theorem performThread_handling (performed : performThread cfg outcome world op = some after)
    (isHandling : Handling (op :: ops))
    (thread : world.thread = ops ++ .workFn :: rest)
    (waits : ∀ other, other ∈ rest → other.Waits) :
    Driven after.ppp after.thread := by
  have waiting := Waits.workFn waits
  cases isHandling with
  | netIfUp =>
    cases performed
    split
    · simpa [thread] using Driven.handling .openSockets waits
    · simpa [thread] using Driven.handling (.stop .error false) waits
  | openSockets =>
    cases performed
    split
    · simpa [thread] using Driven.handling .detachAtPipe waits
    · simpa [thread] using Driven.handling (.stop .error false) waits
  | detachAtPipe =>
    cases performed
    split
    · simpa [thread] using Driven.handling .attachModule waits
    · simpa [thread] using Driven.handling .attachModule waits
  | attachModule =>
    have posts := modemPppAttach_onlyPosts performed
    rw [posts.thread, thread]
    exact Driven.handling .started waits
  | started =>
    cases performed
    refine .waiting (.of_running rfl) ?_
    simpa [thread] using waiting
  | stop reason restart =>
    cases performed
    unfold pppStop
    split
    · rename_i stopped
      cases restart with
      | true =>
        simpa [thread] using Driven.starting waits
      | false =>
        refine .waiting (.of_stopped stopped) ?_
        simpa [thread] using waiting
    · simpa [thread] using Driven.handling (.netIfDown reason restart) waits
  | netIfDown reason restart =>
    cases performed
    split
    · simpa [thread] using Driven.handling (.releaseModule restart) waits
    · split
      · simpa [thread] using Driven.handling (.releaseModule restart) waits
      · refine @Driven.posting _ ⟨.stop, reason⟩ _ ?_
        simpa [thread] using waiting
  | releaseModule restart =>
    cases performed
    unfold modemPppRelease
    split
    · simpa [thread] using Driven.handling (.handBack restart) waits
    · simpa [thread] using Driven.handling (.handBack restart) waits
  | handBack restart =>
    cases performed
    split
    · simpa [thread] using Driven.handling (.stopped restart) waits
    · simpa [thread, World.callThread] using Driven.handling (.forgetPipe restart) waits
  | forgetPipe restart =>
    cases performed
    simpa [thread] using Driven.handling (.stopped restart) waits
  | stopped restart =>
    cases performed
    have covered : Covered { world.ppp with pppState := .stopped } :=
      .of_stopped rfl
    cases restart with
    | true => simpa [thread] using Driven.starting waits
    | false =>
      refine .waiting (by simpa using covered) ?_
      simpa [thread] using waiting

theorem serveSocketOps_waits {fd : Option Nat} {revents : Option Bool} :
    ∀ op, op ∈ serveSocketOps fd revents → op.Waits := by
  intro op member
  unfold serveSocketOps at member
  split at member
  · cases mem_singleton.mp member
    trivial
  · cases member

theorem pollStep_driven (result : PollResult) (idle : world.thread = [])
    (covered : Covered world.ppp) :
    Driven (pollStep result world).ppp (pollStep result world).thread := by
  cases result with
  | failed =>
    simp only [pollStep]
    split
    · refine @Driven.posting _ ⟨.restart, .error⟩ _ ?_
      simp [idle]
    · exact .waiting covered (by simp [idle])
  | ready events zephyr modem =>
    refine .waiting covered ?_
    intro op member
    simp only [pollStep, callThread_thread, idle, append_nil, mem_append] at member
    rcases member with isEvent | isSocket
    · split at isEvent
      · cases mem_singleton.mp isEvent
        trivial
      · cases isEvent
    · split at isSocket
      · rcases mem_append.mp isSocket with zephyr | modem
        · exact serveSocketOps_waits op zephyr
        · exact serveSocketOps_waits op modem
      · cases isSocket

/-- `ppp_start` that runs in a transitional state finds an address and a pipe,
or another event is left for the thread. -/
def StartMoves (world : World) (action : Action) : Prop :=
  ∀ outcome rest, action = .runThread outcome →
    world.thread = .start :: rest → world.ppp.pppState.Transitional →
    (outcome.success = true ∧ world.ppp.pppPipe ≠ none) ∨ world.ppp.queue ≠ []

theorem delegatePppEvent_queue_ne (ppp : PppVars) : (delegatePppEvent event ppp).queue ≠ [] := by
  by_cases room : ppp.queue.length < queueCapacity
  · exact ne_nil_of_mem (mem_delegatePppEvent_self room)
  · rw [delegatePppEvent, if_neg room]
    rintro empty
    simp [empty, queueCapacity] at room

theorem step_driven (moves : StartMoves world action) (driven : Driven world.ppp world.thread)
    (taken : step cfg action world = some after) :
    Driven after.ppp after.thread := by
  by_cases isPoll : ∃ result, action = .poll result
  · obtain ⟨result, rfl⟩ := isPoll
    simp only [step] at taken
    split at taken
    · rename_i idle
      cases taken
      rw [idle] at driven
      refine pollStep_driven result idle ?_
      generalize ops : ([] : List ThreadOp) = none at driven
      cases driven with
      | waiting covered _ => exact covered
      | starting => cases ops
      | handling => simp at ops
      | posting => cases ops
    · cases taken
  · by_cases isRun : ∃ outcome, action = .runThread outcome
    · obtain ⟨outcome, rfl⟩ := isRun
      simp only [step] at taken
      split at taken
      · cases taken
      · rename_i op rest thread
        rw [thread] at driven
        generalize ops : op :: rest = all at driven
        cases driven with
        | waiting covered waits =>
          subst ops
          exact performThread_waiting taken (waits op (mem_cons_self ..)) covered
            fun other member => waits other (mem_cons_of_mem _ member)
        | starting waits =>
          cases ops
          cases taken
          exact pppStart_driven rfl (moves outcome _ rfl thread) waits
        | @handling handled others isHandling waits =>
          cases handled with
          | nil => cases isHandling
          | cons first later =>
            cases ops
            exact performThread_handling taken isHandling rfl waits
        | @posting event others waits =>
          cases ops
          cases taken
          exact .waiting (fun _ => delegatePppEvent_queue_ne event world.ppp) waits
    · have posts := step_onlyPosts (fun result same => isPoll ⟨result, same⟩)
        (fun outcome same => isRun ⟨outcome, same⟩) taken
      rw [posts.thread]
      exact driven.mono posts.pppState posts.queue

/-! ## Every transitional state has a driver -/

/-- An event is being processed by `ppp_work_fn`. -/
def Processing (thread : List ThreadOp) : Prop :=
  ∃ op ops, thread = op :: ops ∧ ¬op.Waits ∧ .workFn ∈ ops

/-- The thread posts an event next, and then does not run the work function. -/
def AboutToPost (thread : List ThreadOp) : Prop :=
  ∃ event rest, thread = .delegate event :: rest ∧ .workFn ∉ rest

theorem Driven.driver (driven : Driven ppp ops)
    (transitional : ppp.pppState.Transitional) (notPosting : ¬AboutToPost ops) :
    ppp.queue ≠ [] ∨ Processing ops := by
  cases driven with
  | waiting covered _ => exact .inl (covered transitional)
  | starting _ =>
    exact .inr ⟨.start, _, rfl, id, mem_cons_self ..⟩
  | handling isHandling _ =>
    right
    cases isHandling
    all_goals exact ⟨_, _, rfl, id, by simp⟩
  | @posting event rest _ =>
    by_cases inside : .workFn ∈ rest
    · exact .inr ⟨.delegate event, rest, rfl, id, inside⟩
    · exact absurd ⟨event, rest, rfl, inside⟩ notPosting

/-- In a run in which no start event is the last one and returns early in a
transitional state, such a state always has an event in the queue or in
processing, except in front of the post that follows the change of the state
at once. -/
theorem transitional_driven {world : World}
    (reachable : Reachable (step cfg) StartMoves Initial world)
    (transitional : world.ppp.pppState.Transitional)
    (notPosting : ¬AboutToPost world.thread) :
    world.ppp.queue ≠ [] ∨ Processing world.thread := by
  have driven : Driven world.ppp world.thread := by
    apply reachable.invariant
    · intro world initial
      rw [initial.ppp, initial.thread]
      exact .waiting (.of_stopped rfl) (by simp)
    · intro before action after holds moves taken
      exact step_driven moves holds taken
  exact driven.driver transitional notPosting

/-- The condition is exact: a step that breaks it leaves a transitional state
without a driver. -/
theorem undriven_of_not_startMoves (driven : Driven world.ppp world.thread)
    (broken : ¬StartMoves world action)
    (taken : step cfg action world = some after) :
    after.ppp.pppState.Transitional ∧ after.ppp.queue = [] ∧
      ¬Processing after.thread ∧ ¬AboutToPost after.thread := by
  simp only [StartMoves, not_forall] at broken
  obtain ⟨outcome, rest, rfl, thread, transitional, stuck⟩ := broken
  obtain ⟨early, empty⟩ := not_or.mp stuck
  have next : ∃ later, rest = .workFn :: later := by
    rw [thread] at driven
    generalize ops : ThreadOp.start :: rest = all at driven
    cases driven with
    | waiting _ waits =>
      subst ops
      exact (waits .start (mem_cons_self ..)).elim
    | starting _ =>
      cases ops
      exact ⟨_, rfl⟩
    | handling isHandling _ =>
      cases isHandling
      all_goals cases ops
    | posting _ => cases ops
  obtain ⟨later, rfl⟩ := next
  simp only [step, thread, performThread, Option.some.injEq] at taken
  have notRunning : world.ppp.pppState ≠ .running := by
    rintro running
    rcases transitional with starting | stopping
    · exact absurd (running.symm.trans starting) (by decide)
    · exact absurd (running.symm.trans stopping) (by decide)
  have returned : after = { world with thread := .workFn :: later }.setPpp
        { world.ppp with cgevPaused := false } := by
    rw [← taken, pppStart, if_neg notRunning]
    by_cases configured : outcome.success = true
    · have noPipe : world.ppp.pppPipe = none := by
        by_contra pipe
        exact early ⟨configured, pipe⟩
      simp [configured, noPipe]
    · simp [configured]
  subst returned
  refine ⟨transitional, not_not.mp empty, ?_, ?_⟩
  · rintro ⟨op, ops, same, notWaits, _⟩
    cases same
    exact notWaits trivial
  · rintro ⟨event, ops, same, _⟩
    cases same

/-- A step of such a run leaves a transitional state without a driver exactly if
it breaks the condition. -/
theorem undriven_iff_not_startMoves (reachable : Reachable (step cfg) StartMoves Initial world)
    (taken : step cfg action world = some after) :
    (after.ppp.pppState.Transitional ∧ after.ppp.queue = [] ∧
      ¬Processing after.thread ∧ ¬AboutToPost after.thread) ↔ ¬StartMoves world action := by
  have driven : Driven world.ppp world.thread := by
    apply reachable.invariant
    · intro world initial
      rw [initial.ppp, initial.thread]
      exact .waiting (.of_stopped rfl) (by simp)
    · exact fun _ _ _ holds moves taken => step_driven moves holds taken
  constructor
  · rintro ⟨transitional, empty, notProcessing, notPosting⟩ moves
    rcases (step_driven moves driven taken).driver transitional notPosting with some | processing
    · exact some empty
    · exact notProcessing processing
  · intro broken
    exact undriven_of_not_startMoves driven broken taken

/-! ## Runs from the start -/

def initialWorld : World where
  ppp := PppVars.initial
  machine := bootedMachine
  thread := []
  work := []
  cgevPost := none
  netMgmtPost := none
  batch := none
  atChannel := 0
  uartPipe := 0
  log := []

theorem initialWorld_initial : Initial initialWorld :=
  ⟨rfl, bootedMachine_booted, rfl, rfl, rfl, rfl, rfl, rfl⟩

theorem exists_run_if {result : Type} (cfg : Config) (allowed : World → Action → Prop)
    (check : World → Action → Bool) (actions : List Action)
    (permitted : ∀ world action, action ∈ actions →
      check world action = true → allowed world action)
    (look : World → result) (value : result)
    (evaluated : (runChecked (step cfg) check actions initialWorld).map look = some value) :
    ∃ world, Reachable (step cfg) allowed Initial world ∧ look world = value :=
  exists_reachable initialWorld_initial permitted evaluated

def commandRun (c : CtxId) (command : PppCommand) (operations : Nat) : List Action :=
  [.rxStart c, .command command] ++ replicate operations (.runWork {}) ++ [.rxEnd]

def eventRun (outcome : Outcome) (operations : Nat) : List Action :=
  .poll (.ready true none none) :: replicate operations (.runThread outcome)

/-- `AT#XPPP=1`, and PPP starts. -/
def startRun : List Action :=
  commandRun 0 (.xpppStart none) 6 ++ eventRun { zephyrFd := 1, modemFd := 2 } 9

/-- The modem socket fails, and before the thread can post its event the
network activates the PDP context four times. -/
def lostStopRun : List Action :=
  startRun ++ [.poll (.ready false none (some false))] ++
    [.cgev 0, .cgevPost, .cgev 0, .cgevPost, .cgev 0, .cgevPost, .cgev 0, .cgevPost] ++
    [.runThread {}, .runThread {}] ++
    eventRun { success := true } 1 ++
    [.runThread {}, .runThread { success := false }, .runThread {},
      .runThread { success := false }, .runThread {},
      .runThread { success := false }, .runThread {},
      .runThread { success := false }, .runThread {}]

/-- The queue is full of start events when the stop event is posted, and none
of them moves PPP. -/
theorem stopping_without_driver :
    ∃ world, Reachable (step plusConfig) (fun _ _ => True) Initial world ∧
      world.ppp.pppState.Transitional ∧ world.ppp.queue = [] ∧
      world.thread = [] ∧ world.work = [] ∧ world.cgevPost = none ∧
      world.netMgmtPost = none := by
  obtain ⟨world, reachable, same⟩ := exists_run_if plusConfig (fun _ _ => True)
    (fun _ _ => true) lostStopRun (fun _ _ _ _ => trivial)
    (fun world => (world.ppp.pppState, decide (world.ppp.queue = [] ∧
      world.thread = [] ∧ world.work = [] ∧ world.cgevPost = none ∧
      world.netMgmtPost = none))) (.stopping, true) (by decide)
  simp only [Prod.mk.injEq, decide_eq_true_eq] at same
  obtain ⟨stopping, queue, thread, work, cgevPost, netMgmtPost⟩ := same
  exact ⟨world, reachable, .inr stopping, queue, thread, work, cgevPost, netMgmtPost⟩

/-- Whether a step keeps the condition. -/
def startMoves (world : World) (action : Action) : Bool :=
  match action, world.thread with
  | .runThread outcome, .start :: _ =>
    !(world.ppp.pppState = .starting || world.ppp.pppState = .stopping) ||
      (outcome.success && world.ppp.pppPipe.isSome) || world.ppp.queue != []
  | _, _ => true

theorem startMoves_sound (checked : startMoves world action = true) : StartMoves world action := by
  rintro outcome rest rfl thread transitional
  have isTransitional :
      (world.ppp.pppState = .starting || world.ppp.pppState = .stopping) = true := by
    rw [Bool.or_eq_true, decide_eq_true_eq, decide_eq_true_eq]
    exact transitional
  simp only [startMoves, thread, isTransitional, Bool.not_true, Bool.false_or, Bool.or_eq_true,
    Bool.and_eq_true, bne_iff_ne, isSome_iff_ne_none] at checked
  exact checked

theorem transitional_driven_lostSocket :
    ∃ world, Reachable (step plusConfig) StartMoves Initial world ∧
      world.ppp.pppState.Transitional ∧ ¬AboutToPost world.thread ∧
      (world.ppp.queue ≠ [] ∨ Processing world.thread) := by
  obtain ⟨world, reachable, same⟩ := exists_run_if plusConfig StartMoves startMoves
    (startRun ++ [.poll (.ready false none (some false)), .runThread {}, .runThread {}])
    (fun _ _ _ checked => startMoves_sound checked)
    (fun world => (world.ppp.pppState, world.thread)) (.stopping, [])
    (by decide)
  simp only [Prod.mk.injEq] at same
  obtain ⟨stopping, thread⟩ := same
  have transitional : world.ppp.pppState.Transitional := .inr stopping
  have notPosting : ¬AboutToPost world.thread := by
    rintro ⟨event, rest, posting, _⟩
    exact absurd (thread.symm.trans posting) (by simp)
  exact ⟨world, reachable, transitional, notPosting,
    transitional_driven reachable transitional notPosting⟩

/-- All steps up to the last `ppp_start` leave an event in the queue; that one
fails, and nothing is left to stop PPP. -/
theorem undriven_iff_not_startMoves_lostStop :
    ∃ world after, Reachable (step plusConfig) StartMoves Initial world ∧
      step plusConfig (.runThread { success := false }) world = some after ∧
      ¬StartMoves world (.runThread { success := false }) ∧
      after.ppp.pppState.Transitional ∧ after.ppp.queue = [] ∧
      ¬Processing after.thread ∧ ¬AboutToPost after.thread := by
  obtain ⟨world, reachable, same⟩ := exists_run_if plusConfig StartMoves startMoves
    (lostStopRun.take 39) (fun _ _ _ checked => startMoves_sound checked)
    (fun world => (world.ppp.pppState, world.thread, world.ppp.queue,
      (step plusConfig (.runThread { success := false }) world).isSome))
    (.stopping, [.start, .workFn], [], true) (by decide)
  simp only [Prod.mk.injEq] at same
  obtain ⟨stopping, thread, queue, isStep⟩ := same
  obtain ⟨after, taken⟩ := isSome_iff_exists.mp isStep
  have broken : ¬StartMoves world (.runThread { success := false }) := by
    intro moves
    rcases moves _ _ rfl thread (.inr stopping) with ⟨succeeds, _⟩ | some
    · cases succeeds
    · exact some queue
  exact ⟨world, after, reachable, taken, broken,
    (undriven_iff_not_startMoves reachable taken).mpr broken⟩

end SerialModem.Ppp
