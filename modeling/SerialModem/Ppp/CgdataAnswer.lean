import SerialModem.Library.EventLog
import SerialModem.Library.Exchange
import SerialModem.Ppp.Activation

/-!
# The answer of `AT+CGDATA`

An accepted `AT+CGDATA` is remembered only in `ppp_pipe` and in the schedule of
`activate_pdp_dwork`, and PPP counts as stopped until the command is answered.
Whatever writes `ppp_pipe` in the meantime, or takes the pipe from the context
of the command, loses the answer.
-/

namespace SerialModem.Ppp

open AtHost List
open Library

variable {cfg : Config}

/-! ## The exchange of every channel -/

def cgdataTurn (c : CtxId) : CgdataEvent → Option Turn
  | .accepted d _ => if d = c then some .request else none
  | .connect d => if d = c then some .reply else none
  | .noCarrier d => if d = c then some .reply else none
  | .unlocked d => if d = c then some .close else none
  | .released d => if d = c then some .close else none

def acceptedPipe (c : CtxId) : CgdataEvent → Option PipeId
  | .accepted d pipe => if d = c then some pipe else none
  | _ => none

/-- No command is accepted without its answer and its release. -/
def Settled (log : List CgdataEvent) : Prop :=
  ∀ c, exchange (cgdataTurn c) log = some .idle

theorem Settled.released {before after : List CgdataEvent}
    (settled : Settled before) (released : LogsReleases before after) :
    Settled after := by
  obtain ⟨events, rfl, each⟩ := released
  intro c
  induction events using reverseRecOn with
  | nil => simpa using settled c
  | append_singleton front last ih =>
    obtain ⟨d, rfl⟩ := each last (by simp)
    rw [← append_assoc, exchange_concat, ih
      fun event member => each event (mem_append_left _ member)]
    simp only [Option.bind_some, cgdataTurn]
    split <;> rfl

structure Remembered (world : World) (c : CtxId) (pipe : PipeId)
    (state : Exchange) : Prop where
  own : exchange (cgdataTurn c) world.log = some state
  others : ∀ d, d ≠ c → exchange (cgdataTurn d) world.log = some .idle
  pppPipe : world.ppp.pppPipe = some pipe
  real : pipe ≠ deadbeef
  owner : smAtHostGetCtxFrom (some pipe) world.machine.host = some c
  accepted : latest (acceptedPipe c) world.log = some pipe

variable {before after : World} {c : CtxId} {pipe : PipeId} {state : Exchange}

theorem Remembered.same (remembered : Remembered before c pipe state)
    (same : SameActivation before after) : Remembered after c pipe state where
  own := same.log ▸ remembered.own
  others d different := same.log ▸ remembered.others d different
  pppPipe := same.pppPipe.trans remembered.pppPipe
  real := remembered.real
  owner := (same.pipes.getCtxFrom _).trans remembered.owner
  accepted := same.log ▸ remembered.accepted

theorem Remembered.of_eq (remembered : Remembered before c pipe state)
    (log : after.log = before.log)
    (pppPipe : after.ppp.pppPipe = before.ppp.pppPipe)
    (host : after.machine.host = before.machine.host) :
    Remembered after c pipe state where
  own := log ▸ remembered.own
  others := log ▸ remembered.others
  pppPipe := pppPipe ▸ remembered.pppPipe
  real := remembered.real
  owner := host ▸ remembered.owner
  accepted := log ▸ remembered.accepted

def WorkOp.Decides : WorkOp → Prop
  | .activatePdp => True
  | .activateCid => True
  | .sendNoCarrier => True
  | .sendConnect => True
  | _ => False

def afterConnect : List WorkOp :=
  [.attachModule, .setAutoStart true, .delegate ⟨.start, .cmd⟩]

inductive Tracked (world : World) : Prop
  | settled (log : Settled world.log) (unscheduled : world.ppp.activatePdp = false)
      (work : ∀ op, op ∈ world.work → ¬op.Activates)
  | scheduled {c : CtxId} {pipe : PipeId} (remembered : Remembered world c pipe .waiting)
      (isScheduled : world.ppp.activatePdp = true)
      (work : ∀ op, op ∈ world.work → ¬op.Activates)
  | deciding {c : CtxId} {pipe : PipeId} {op : WorkOp}
      (remembered : Remembered world c pipe .waiting)
      (unscheduled : world.ppp.activatePdp = false)
      (decides : op.Decides) (work : world.work = [op])
  | refused {c : CtxId} {pipe : PipeId} (remembered : Remembered world c pipe .replied)
      (unscheduled : world.ppp.activatePdp = false)
      (work : world.work = [.cmdDone, .forgetPipe])
  | connected {c : CtxId} {pipe : PipeId} (remembered : Remembered world c pipe .replied)
      (unscheduled : world.ppp.activatePdp = false)
      (work : world.work = .releaseCtx :: afterConnect)

/-- The steps that do not come between an accepted command and its answer.  A
command is accepted only on a context that the AT host finds by its pipe. -/
structure Undisturbing (world : World) (action : Action) : Prop where
  found : ∀ outcome c cid rest pipe, action = .runWork outcome →
    world.work = .cgdataTakePipe c cid :: rest → pipeOf c world = some pipe →
    pipe ≠ deadbeef ∧ smAtHostGetCtxFrom (some pipe) world.machine.host = some c
  work : Activating world → ∀ outcome op rest, action = .runWork outcome →
    world.work = op :: rest → op.KeepsPipe
  thread : Activating world → ∀ outcome op rest,
    action = .runThread outcome → world.thread = op :: rest →
    op.KeepsPipe world.ppp
  message : Activating world → ∀ allocated message rest, action = .takeMessage allocated →
    world.machine.host.msgq = message :: rest →
    message.pipeEvent = some .opened → message.pipe ≠ world.ppp.pppPipe
  pipe : Activating world → ∀ pipe, action = .pipeOpened pipe ∨ action = .pipeClosed pipe →
    world.ppp.pppPipe ≠ some pipe

/-! ## One event of a channel -/

variable {event : CgdataEvent}

theorem exchange_other {log : List CgdataEvent} {d : CtxId}
    (followed : exchange (cgdataTurn d) log = some state)
    (silent : cgdataTurn d event = none) :
    exchange (cgdataTurn d) (log ++ [event]) = some state := by
  rw [exchange_concat, followed, silent]
  cases state <;> rfl

theorem Remembered.reply (remembered : Remembered before c pipe .waiting)
    (isAnswer : event = .connect c ∨ event = .noCarrier c)
    (log : after.log = before.log ++ [event])
    (pppPipe : after.ppp.pppPipe = before.ppp.pppPipe)
    (pipes : SamePipes before.machine.host after.machine.host) :
    Remembered after c pipe .replied where
  own := by
    rw [log, exchange_concat, remembered.own]
    rcases isAnswer with rfl | rfl
    · simp [cgdataTurn, Exchange.next]
    · simp [cgdataTurn, Exchange.next]
  others d different := by
    rw [log]
    refine exchange_other (remembered.others d different) ?_
    rcases isAnswer with rfl | rfl
    · simp [cgdataTurn, different.symm]
    · simp [cgdataTurn, different.symm]
  pppPipe := pppPipe.trans remembered.pppPipe
  real := remembered.real
  owner := (pipes.getCtxFrom _).trans remembered.owner
  accepted := by
    rw [log, latest_concat, remembered.accepted]
    rcases isAnswer with rfl | rfl <;> rfl

variable {world : World}

theorem Remembered.settle (remembered : Remembered world c pipe .replied)
    (frees : event = .unlocked c ∨ event = .released c) :
    Settled (world.log ++ [event]) := by
  intro d
  by_cases same : d = c
  · subst same
    rw [exchange_concat, remembered.own]
    rcases frees with rfl | rfl
    · simp [cgdataTurn, Exchange.next]
    · simp [cgdataTurn, Exchange.next]
  · refine exchange_other (remembered.others d same) ?_
    rcases frees with rfl | rfl
    · simp [cgdataTurn, Ne.symm same]
    · simp [cgdataTurn, Ne.symm same]

theorem answerTo_remembered (remembered : Remembered world c pipe .waiting)
    (response : Response) (event : CtxId → CgdataEvent) :
    answerTo cfg response event world = (world.setHost (rspSendTo cfg world.ppp.pppPipe response
        world.machine.host)).record [event c] := by
  have owner : smAtHostGetCtxFrom world.ppp.pppPipe world.machine.host =
      some c := remembered.pppPipe ▸ remembered.owner
  unfold answerTo
  dsimp only
  rw [owner]

/-! ## The operations of the activation -/

variable {outcome : Outcome} {op : WorkOp}

/-- `sm_ppp_activate_pdp_dwork_fn` decides and answers. -/
theorem performWork_deciding (remembered : Remembered world c pipe .waiting)
    (unscheduled : world.ppp.activatePdp = false) (last : world.work = [])
    (decides : op.Decides)
    (performed : performWork cfg outcome world op = some after) :
    Tracked after := by
  cases op with
  | activatePdp =>
    cases performed
    split
    · exact @Tracked.deciding _ c pipe .activateCid
        (remembered.same ⟨rfl, rfl, rfl, .refl _⟩) unscheduled trivial
        (by simp [World.callWork, last])
    · split
      · exact @Tracked.deciding _ c pipe .sendNoCarrier
          (remembered.same ⟨rfl, rfl, rfl, .refl _⟩) unscheduled trivial
          (by simp [World.callWork, last])
      · exact .scheduled (remembered.of_eq rfl rfl rfl) rfl (by simp [World.setPpp, last])
  | activateCid =>
    cases performed
    refine .deciding (remembered.same ⟨rfl, rfl, rfl, .refl _⟩)
      unscheduled ?_ (by simp [World.callWork, last]; rfl)
    split <;> trivial
  | sendNoCarrier =>
    simp only [performWork, remembered.pppPipe, reduceCtorEq, if_false,
      Option.some.injEq] at performed
    subst performed
    rw [answerTo_remembered remembered]
    refine .refused (remembered.reply (.inr rfl) rfl rfl ?_) unscheduled
      (by simp [World.callWork, World.record, World.setHost, last])
    exact rspSendTo_samePipes _ _ _
  | sendConnect =>
    cases performed
    rw [answerTo_remembered remembered]
    refine .connected (remembered.reply (.inl rfl) rfl rfl ?_) unscheduled
      (by simp [World.callWork, World.record, World.setHost, last, afterConnect])
    exact rspSendTo_samePipes _ _ _
  | _ => exact absurd decides id

theorem performWork_refused (remembered : Remembered world c pipe .replied)
    (unscheduled : world.ppp.activatePdp = false)
    (rest : world.work = [.forgetPipe])
    (performed : performWork cfg outcome world .cmdDone = some after) :
    Tracked after := by
  have owner : smAtHostGetCtxFrom world.ppp.pppPipe world.machine.host =
      some c := remembered.pppPipe ▸ remembered.owner
  cases performed
  rw [cmdDone, owner]
  refine .settled (remembered.settle (.inl rfl)) unscheduled ?_
  simp [World.record, World.setHost, rest, WorkOp.Activates]

theorem performWork_connected (remembered : Remembered world c pipe .replied)
    (unscheduled : world.ppp.activatePdp = false)
    (rest : world.work = afterConnect)
    (performed : performWork cfg outcome world .releaseCtx = some after) :
    Tracked after := by
  have owner : smAtHostGetCtxFrom world.ppp.pppPipe world.machine.host =
      some c := remembered.pppPipe ▸ remembered.owner
  cases performed
  rw [releaseCtxOf, owner]
  refine .settled (remembered.settle (.inr rfl)) unscheduled ?_
  simp [World.record, rest, afterConnect, WorkOp.Activates]

theorem cgdataTakePipe_tracked {cid : Nat} (settled : Settled world.log)
    (unscheduled : world.ppp.activatePdp = false)
    (work : ∀ op, op ∈ world.work → ¬op.Activates)
    (found : ∀ pipe, pipeOf c world = some pipe → pipe ≠ deadbeef ∧
      smAtHostGetCtxFrom (some pipe) world.machine.host = some c) :
    Tracked (cgdataTakePipe c cid world) := by
  have finished : ∀ result, ∀ op, op ∈ WorkOp.finish c result :: world.work → ¬op.Activates := by
    intro result op member
    rcases mem_cons.mp member with rfl | later
    · exact id
    · exact work op later
  unfold cgdataTakePipe
  dsimp only
  cases owned : pipeOf c world with
  | none =>
    refine .settled settled unscheduled ?_
    simpa [World.callWork, World.setPpp] using finished .failed
  | some pipe =>
    obtain ⟨real, owner⟩ := found pipe owned
    refine @Tracked.scheduled _ c pipe ?_ rfl ?_
    · refine ⟨?_, ?_, rfl, real, owner, ?_⟩
      · simp [World.record, World.callWork, World.setPpp, exchange_concat,
          settled c, cgdataTurn, Exchange.next]
      · intro d different
        refine exchange_other (settled d) ?_
        simp [cgdataTurn, different.symm]
      · simp [World.record, World.callWork, World.setPpp, latest_concat, acceptedPipe]
    · simpa [World.callWork, World.setPpp, World.record] using finished .continueRet

/-! ## Steps -/

theorem Activating.of_scheduled (scheduled : world.ppp.activatePdp = true) : Activating world :=
  .inl scheduled

theorem Activating.of_work {rest : List WorkOp} (work : world.work = op :: rest)
    (activates : op.Activates) :
    Activating world :=
  .inr ⟨op, rest, work, activates⟩

theorem WorkOp.Decides.activates (decides : op.Decides) : op.Activates := by
  cases op
  all_goals first
    | exact trivial
    | exact absurd decides id

theorem Tracked.aside (tracked : Tracked before) (aside : Aside before after)
    (same : Activating before → SameActivation before after)
    (work : after.work = before.work) : Tracked after := by
  cases tracked with
  | settled log unscheduled others =>
    exact .settled (log.released aside.log)
      (aside.activatePdp.trans unscheduled) (work.symm ▸ others)
  | scheduled remembered isScheduled others =>
    exact .scheduled (remembered.same (same (.of_scheduled isScheduled)))
      (aside.activatePdp.trans isScheduled) (work.symm ▸ others)
  | deciding remembered unscheduled decides last =>
    exact .deciding (remembered.same (same (.of_work last decides.activates)))
      (aside.activatePdp.trans unscheduled) decides (work.trans last)
  | refused remembered unscheduled last =>
    exact .refused (remembered.same (same (.of_work last trivial)))
      (aside.activatePdp.trans unscheduled) (work.trans last)
  | connected remembered unscheduled last =>
    exact .connected (remembered.same (same (.of_work last trivial)))
      (aside.activatePdp.trans unscheduled) (work.trans last)

theorem Tracked.same (tracked : Tracked before)
    (same : SameActivation before after) (work : after.work = before.work) :
    Tracked after :=
  tracked.aside same.aside (fun _ => same) work

theorem Tracked.continue (tracked : Tracked before) (idle : before.work = [])
    (same : SameActivation before after) (continues : Continues before after) : Tracked after := by
  obtain ⟨ops, work, others⟩ := continues
  rw [idle, append_nil] at work
  cases tracked with
  | settled log unscheduled _ =>
    exact .settled (log.released same.logsReleases)
      (same.activatePdp.trans unscheduled) (work.symm ▸ others)
  | scheduled remembered isScheduled _ =>
    exact .scheduled (remembered.same same)
      (same.activatePdp.trans isScheduled) (work.symm ▸ others)
  | deciding _ _ _ last | refused _ _ last | connected _ _ last => cases idle.symm.trans last

/-- The next operation of `sm_work_q`. -/
theorem runWork_tracked {rest : List WorkOp} (tracked : Tracked world)
    (isNext : world.work = op :: rest)
    (undisturbing : Undisturbing world (.runWork outcome))
    (performed : performWork cfg outcome { world with work := rest } op = some after) :
    Tracked after := by
  have continued : ∀ op, op ∈ world.work → ¬op.Activates →
      Continues { world with work := rest } after →
      ∀ other, other ∈ after.work → other ∈ rest ∨ ¬other.Activates := by
    rintro _ _ _ ⟨ops, work, others⟩ other member
    rw [work] at member
    rcases mem_append.mp member with pushed | old
    · exact .inr (others other pushed)
    · exact .inl old
  cases tracked with
  | settled log unscheduled others =>
    have notActivating := others op (isNext ▸ mem_cons_self ..)
    have left : ∀ other, other ∈ rest → ¬other.Activates :=
      fun other member =>
        others other (isNext ▸ mem_cons_of_mem _ member)
    by_cases accepts : ∃ c cid, op = .cgdataTakePipe c cid
    · obtain ⟨c, cid, rfl⟩ := accepts
      cases performed
      exact cgdataTakePipe_tracked log unscheduled left fun pipe owned =>
        undisturbing.found outcome c cid rest pipe rfl isNext owned
    · obtain ⟨aside, continues⟩ := performWork_aside notActivating
        (fun c cid same => accepts ⟨c, cid, same⟩) performed
      refine .settled (log.released aside.log) (aside.activatePdp.trans unscheduled) ?_
      intro other member
      rcases continued op (isNext ▸ mem_cons_self ..) notActivating
        continues other member with old | new
      · exact left other old
      · exact new
  | @scheduled c pipe remembered isScheduled others =>
    have notActivating := others op (isNext ▸ mem_cons_self ..)
    have left : ∀ other, other ∈ rest → ¬other.Activates :=
      fun other member =>
        others other (isNext ▸ mem_cons_of_mem _ member)
    have keeps := undisturbing.work (.of_scheduled isScheduled) outcome op rest rfl isNext
    have hasPipe : world.ppp.pppPipe ≠ none := by
      rw [remembered.pppPipe]
      simp
    have same : SameActivation { world with work := rest } after :=
      performWork_same keeps notActivating hasPipe performed
    have notAccepting : ∀ c cid, op ≠ .cgdataTakePipe c cid := by
      rintro c cid rfl
      exact keeps
    obtain ⟨_, continues⟩ :=
      performWork_aside notActivating notAccepting performed
    have running : Remembered { world with work := rest } c pipe .waiting :=
      remembered.of_eq rfl rfl rfl
    refine .scheduled (running.same same) (same.activatePdp.trans isScheduled) ?_
    · intro other member
      rcases continued op (isNext ▸ mem_cons_self ..) notActivating
        continues other member with old | new
      · exact left other old
      · exact new
  | @deciding c pipe op remembered unscheduled decides last =>
    cases isNext.symm.trans last
    have kept : Remembered { world with work := [] } c pipe .waiting :=
      remembered.of_eq rfl rfl rfl
    exact performWork_deciding kept unscheduled rfl decides performed
  | @refused c pipe remembered unscheduled last =>
    cases isNext.symm.trans last
    have kept : Remembered { world with work := [.forgetPipe] } c pipe
        .replied := remembered.of_eq rfl rfl rfl
    exact performWork_refused kept unscheduled rfl performed
  | @connected c pipe remembered unscheduled last =>
    cases isNext.symm.trans last
    have kept : Remembered { world with work := afterConnect } c pipe
        .replied := remembered.of_eq rfl rfl rfl
    exact performWork_connected kept unscheduled rfl performed

/-- `sm_at_host_work_fn` takes a message. -/
theorem takePipeMessage_tracked {allocated : Option CtxId}
    (tracked : Tracked world) (idle : world.work = [])
    (unused : ∀ d, allocated = some d → d ∉ world.machine.host.instanceList)
    (undisturbing : Undisturbing world (.takeMessage allocated))
    (taken : takePipeMessage cfg allocated world = some after) :
    Tracked after := by
  unfold takePipeMessage at taken
  split at taken
  · cases taken
  · rename_i message rest waiting
    cases taken
    cases tracked with
    | settled log unscheduled others =>
      exact .settled log unscheduled others
    | @scheduled c pipe remembered isScheduled others =>
      have otherPipe : message.pipeEvent = some .opened → message.pipe ≠ some pipe := by
        intro opened
        rw [← remembered.pppPipe]
        exact undisturbing.message (.of_scheduled isScheduled) allocated
          message rest rfl waiting opened
      have popped : smAtHostGetCtxFrom (some pipe) (world.machine.setHost
          (popMessage message rest world.machine.host)).host = some c :=
        remembered.owner
      exact .scheduled ⟨remembered.own, remembered.others, remembered.pppPipe, remembered.real,
        getCtxFrom_handlePipeEvent popped remembered.real unused otherPipe,
        remembered.accepted⟩ isScheduled others
    | deciding _ _ _ last | refused _ _ last | connected _ _ last => cases idle.symm.trans last

theorem Tracked.otherPipe (tracked : Tracked before)
    (ppp : after.ppp = before.ppp) (log : after.log = before.log)
    (work : after.work = before.work)
    (owner : Activating before → ∀ {c pipe}, before.ppp.pppPipe = some pipe →
      smAtHostGetCtxFrom (some pipe) before.machine.host = some c →
      smAtHostGetCtxFrom (some pipe) after.machine.host = some c) :
    Tracked after := by
  have kept : Activating before → ∀ {c pipe state},
      Remembered before c pipe state → Remembered after c pipe state := by
    intro activating c pipe state remembered
    exact ⟨log ▸ remembered.own, log ▸ remembered.others, ppp ▸ remembered.pppPipe, remembered.real,
      owner activating remembered.pppPipe remembered.owner,
      log ▸ remembered.accepted⟩
  cases tracked with
  | settled settled unscheduled others =>
    exact .settled (log ▸ settled) (ppp ▸ unscheduled) (work ▸ others)
  | scheduled remembered isScheduled others =>
    exact .scheduled (kept (.of_scheduled isScheduled) remembered)
      (ppp ▸ isScheduled) (work ▸ others)
  | deciding remembered unscheduled decides last =>
    exact .deciding (kept (.of_work last decides.activates) remembered)
      (ppp ▸ unscheduled) decides (work.trans last)
  | refused remembered unscheduled last =>
    exact .refused (kept (.of_work last trivial) remembered) (ppp ▸ unscheduled) (work.trans last)
  | connected remembered unscheduled last =>
    exact .connected (kept (.of_work last trivial) remembered) (ppp ▸ unscheduled) (work.trans last)

/-- The timer of `activate_pdp_dwork` expires. -/
theorem activatePdp_tracked (tracked : Tracked world) (idle : world.work = [])
    (isScheduled : world.ppp.activatePdp = true) :
    Tracked ((world.setPpp { world.ppp with activatePdp := false }).callWork [.activatePdp]) := by
  cases tracked with
  | settled _ unscheduled _ => cases isScheduled.symm.trans unscheduled
  | @scheduled c pipe remembered _ _ =>
    exact @Tracked.deciding _ c pipe .activatePdp (remembered.of_eq rfl rfl rfl) rfl trivial
      (by simp [World.callWork, World.setPpp, idle])
  | deciding _ _ _ last | refused _ _ last | connected _ _ last => cases idle.symm.trans last

theorem pollStep_same (result : PollResult) (world : World) :
    SameActivation world (pollStep result world) ∧ (pollStep result world).work = world.work := by
  cases result with
  | failed =>
    simp only [pollStep]
    split <;> exact ⟨⟨rfl, rfl, rfl, .refl _⟩, rfl⟩
  | ready events zephyr modem => exact ⟨⟨rfl, rfl, rfl, .refl _⟩, rfl⟩

variable (cfg) in
theorem phaseDead_same (world : World) : SameActivation world (phaseDead cfg world) ∧
      (phaseDead cfg world).work = world.work := by
  unfold phaseDead
  dsimp only
  split
  · exact ⟨.refl world, rfl⟩
  · split
    · exact ⟨⟨rfl, rfl, rfl, .refl _⟩, rfl⟩
    · have notified := sendStatusNotification_same cfg
        (world.setPpp { world.ppp with pppPeerConnected := false })
      exact ⟨⟨notified.log, notified.activatePdp, notified.pppPipe,
        notified.pipes⟩, sendStatusNotification_work _⟩

theorem step_tracked {action : Action} (tracked : Tracked world)
    (undisturbing : Undisturbing world action)
    (taken : step cfg action world = some after) : Tracked after := by
  cases action with
  | poll result =>
    simp only [step] at taken
    split at taken
    · cases taken
      obtain ⟨same, work⟩ := pollStep_same result world
      exact tracked.same same work
    · cases taken
  | runThread outcome =>
    simp only [step] at taken
    split at taken
    · cases taken
    · rename_i op rest isNext
      have aside := performThread_aside taken
      have work := performThread_work taken
      refine tracked.aside ⟨aside.activatePdp, aside.log⟩ ?_ work
      intro activating
      have same : SameActivation { world with thread := rest } after :=
        performThread_same (undisturbing.thread activating outcome op rest rfl isNext) taken
      exact ⟨same.log, same.activatePdp, same.pppPipe, same.pipes⟩
  | runWork outcome =>
    simp only [step] at taken
    split at taken
    · cases taken
    · rename_i op rest isNext
      exact runWork_tracked tracked isNext undisturbing taken
  | rxStart c =>
    simp only [step] at taken
    split at taken
    · split at taken
      · cases taken
        exact tracked.same ⟨rfl, rfl, rfl, rfl, fun _ => rfl⟩ rfl
      · cases taken
    · cases taken
  | command command =>
    simp only [step] at taken
    split at taken
    · split at taken
      · rename_i enabled
        cases taken
        exact tracked.continue enabled.1 ⟨rfl, rfl, rfl, .refl _⟩
          (continues_callWork world (by simp [WorkOp.Activates]))
      · cases taken
    · cases taken
  | rxEnd =>
    simp only [step] at taken
    split at taken
    · cases taken
      exact tracked.same ⟨rfl, rfl, rfl, rfl, fun _ => rfl⟩ rfl
    · cases taken
  | activatePdp =>
    simp only [step] at taken
    split at taken
    · rename_i enabled
      cases taken
      exact activatePdp_tracked tracked enabled.1 enabled.2.2
    · cases taken
  | cmuxStop =>
    simp only [step] at taken
    split at taken
    · rename_i enabled
      cases taken
      split
      · exact tracked.continue enabled.1 ⟨rfl, rfl, rfl, .refl _⟩
          (continues_callWork world (by simp [WorkOp.Activates]))
      · exact tracked
    · cases taken
  | takeMessage allocated =>
    simp only [step] at taken
    split at taken
    · rename_i enabled
      exact takePipeMessage_tracked tracked enabled.1 enabled.2.2 undisturbing taken
    · cases taken
  | pipeOpened pipe =>
    simp only [step] at taken
    split at taken
    · cases taken
    · cases taken
      refine tracked.otherPipe rfl rfl rfl fun activating {c own} stored =>
        fun owner => getCtxFrom_pipeOpened owner ?_
      rintro rfl
      exact undisturbing.pipe activating pipe (.inl rfl) stored
  | pipeClosed pipe =>
    simp only [step] at taken
    split at taken
    · cases taken
    · cases taken
      refine tracked.otherPipe rfl rfl rfl fun activating {c own} stored =>
        fun owner => getCtxFrom_pipeClosed owner ?_
      rintro rfl
      exact undisturbing.pipe activating pipe (.inr rfl) stored
  | cgev number =>
    simp only [step, atNotifOnCgev] at taken
    split at taken
    · cases taken
      split
      · exact tracked.same ⟨rfl, rfl, rfl, .refl _⟩ rfl
      · exact tracked
    · cases taken
  | cgevPost =>
    obtain ⟨event, _, rfl⟩ := Option.map_eq_some_iff.mp taken
    have same := delegatePppEvent_same event world
    exact tracked.same ⟨same.log, same.activatePdp, same.pppPipe, same.pipes⟩ rfl
  | phaseRunning =>
    simp only [step] at taken
    split at taken
    · cases taken
      have notified := sendStatusNotification_same cfg
        (world.setPpp { world.ppp with pppPeerConnected := true })
      exact tracked.same ⟨notified.log, notified.activatePdp,
        notified.pppPipe, notified.pipes⟩ (sendStatusNotification_work _)
    · cases taken
  | phaseDead =>
    simp only [step] at taken
    split at taken
    · cases taken
      obtain ⟨same, work⟩ := phaseDead_same cfg world
      exact tracked.same same work
    · cases taken
  | netMgmtPost =>
    obtain ⟨event, _, rfl⟩ := Option.map_eq_some_iff.mp taken
    have same := delegatePppEvent_same event world
    exact tracked.same ⟨same.log, same.activatePdp, same.pppPipe, same.pipes⟩ rfl

/-! ## Every accepted command -/

def ActivationPending (world : World) : Prop :=
  world.ppp.activatePdp = true ∨ ∃ op, world.work = [op] ∧ op.Decides

def ReleasePending (world : World) : Prop :=
  ∃ rest, world.work = .cmdDone :: rest ∨ world.work = .releaseCtx :: rest

/-- What has become of a command that was accepted on `c` with `pipe`; `later`
is what happened since. -/
def AnsweredOnce (world : World) (c : CtxId) (pipe : PipeId) (later : List CgdataEvent) : Prop :=
  (untilRequest (cgdataTurn c) later = later ∧
      (∀ event, event ∈ later → cgdataTurn c event ≠ some .reply) ∧
      world.ppp.pppPipe = some pipe ∧ ActivationPending world) ∨
    ∃ after, RepliedOnce (cgdataTurn c) (untilRequest (cgdataTurn c) later) after ∧
      ((∃ close, close ∈ after ∧ cgdataTurn c close = some .close) ∨ ReleasePending world)

variable {earlier later : List CgdataEvent}

theorem latest_accepted (last : untilRequest (cgdataTurn c) later = later) :
    latest (acceptedPipe c) (earlier ++ .accepted c pipe :: later) = some pipe := by
  have none : latest (acceptedPipe c) later = none := by
    unfold latest
    rw [findSome?_eq_none_iff]
    intro event member
    have noRequest := untilRequest_eq_self.mp last event (mem_reverse.mp member)
    cases event with
    | accepted d other =>
      simp only [acceptedPipe, ite_eq_right_iff, reduceCtorEq, imp_false]
      rintro rfl
      exact noRequest (by simp [cgdataTurn])
    | _ => rfl
  rw [latest_append, ← singleton_append, latest_append, none]
  simp [latest, acceptedPipe]

theorem Tracked.answered (tracked : Tracked world)
    (log : world.log = earlier ++ .accepted c pipe :: later) :
    AnsweredOnce world c pipe later := by
  have status : ∀ {state}, exchange (cgdataTurn c) world.log = some state →
      RequestStatus (cgdataTurn c) later state := by
    intro state followed
    rw [log] at followed
    exact exchange_request (by simp [cgdataTurn]) followed
  have idle : exchange (cgdataTurn c) world.log = some .idle → AnsweredOnce world c pipe later := by
    intro followed
    cases status followed with
    | closed _ once member isClose =>
      exact .inr ⟨_, once, .inl ⟨_, member, isClose⟩⟩
  have waiting : ∀ {d owned}, Remembered world d owned .waiting →
      ActivationPending world → AnsweredOnce world c pipe later := by
    intro d owned remembered pending
    by_cases same : d = c
    · subst same
      cases status remembered.own with
      | waiting last noReply =>
        have stored := remembered.accepted
        rw [log, latest_accepted last] at stored
        exact .inl ⟨last, noReply, remembered.pppPipe.trans stored.symm, pending⟩
      | closed _ once member isClose =>
        exact .inr ⟨_, once, .inl ⟨_, member, isClose⟩⟩
    · exact idle (remembered.others c (Ne.symm same))
  have replied : ∀ {d owned}, Remembered world d owned .replied →
      ReleasePending world → AnsweredOnce world c pipe later := by
    intro d owned remembered pending
    by_cases same : d = c
    · subst same
      cases status remembered.own with
      | replied last once =>
        exact .inr ⟨_, last.symm ▸ once, .inr pending⟩
      | closed _ once member isClose =>
        exact .inr ⟨_, once, .inl ⟨_, member, isClose⟩⟩
    · exact idle (remembered.others c (Ne.symm same))
  cases tracked with
  | settled settled _ _ => exact idle (settled c)
  | scheduled remembered isScheduled _ =>
    exact waiting remembered (.inl isScheduled)
  | deciding remembered _ decides last =>
    exact waiting remembered (.inr ⟨_, last, decides⟩)
  | refused remembered _ last => exact replied remembered ⟨_, .inl last⟩
  | connected remembered _ last => exact replied remembered ⟨_, .inr last⟩

/-- In every run the log tells who waits for the answer of `AT+CGDATA`. -/
theorem reachable_tracked (reachable : Reachable (step cfg) Undisturbing Initial world) :
    Tracked world := by
  refine reachable.invariant ?_ ?_
  · intro world initial
    refine .settled ?_ ?_ ?_
    · intro c
      rw [initial.log]
      rfl
    · rw [initial.ppp]
      rfl
    · rw [initial.work]
      simp
  · intro before action after tracked undisturbing taken
    exact step_tracked tracked undisturbing taken

/-- In a run in which nothing comes between an accepted `AT+CGDATA` and its
answer, every accepted command is pending with its own pipe and its activation
scheduled, or has got exactly one answer on its own channel, after which the
channel is freed. -/
theorem cgdata_answered_once {world : World} {c : CtxId} {pipe : PipeId}
    {earlier later : List CgdataEvent}
    (reachable : Reachable (step cfg) Undisturbing Initial world)
    (log : world.log = earlier ++ .accepted c pipe :: later) :
    AnsweredOnce world c pipe later :=
  (reachable_tracked reachable).answered log

/-! ## Runs from the start -/

/-- `sm_ppp_activate_pdp_dwork_fn` finds the network and connects. -/
def connectRun : List Action :=
  .activatePdp :: replicate 7 (.runWork {})

/-- `AT#XCMUX` on the UART, a second channel opens, and both channels start
PPP. -/
def twoChannelsRun : List Action :=
  commandRun 0 (.xcmux none) 6 ++ [.pipeOpened 3, .takeMessage (some 1)] ++
    commandRun 0 (.cgdata 0) 5 ++ commandRun 1 (.cgdata 0) 5 ++ connectRun

/-- The second `AT+CGDATA` replaces the first one, which gets no answer and
keeps its channel locked. -/
theorem cgdata_replaced : ∃ world later,
      Reachable (step plusConfig) (fun _ _ => True) Initial world ∧
      world.log = [] ++ .accepted 0 1 :: later ∧
      ¬AnsweredOnce world 0 1 later ∧ world.ppp.activatePdp = false ∧
      world.work = [] ∧ (world.machine.host.ctx 0).executingLock = 1 := by
  obtain ⟨world, reachable, same⟩ := exists_run_if plusConfig (fun _ _ => True)
    (fun _ _ => true) twoChannelsRun (fun _ _ _ _ => trivial)
    (fun world => (world.log, world.ppp.pppPipe,
      decide (world.ppp.activatePdp = false ∧ world.work = [] ∧
        (world.machine.host.ctx 0).executingLock = 1)))
    ([.accepted 0 1, .accepted 1 3, .connect 1, .released 1], some 3, true)
    (by decide)
  simp only [Prod.mk.injEq, decide_eq_true_eq] at same
  obtain ⟨log, pppPipe, unscheduled, work, locked⟩ := same
  refine ⟨world, [.accepted 1 3, .connect 1, .released 1], reachable, log, ?_,
    unscheduled, work, locked⟩
  rintro (⟨_, _, stored, _⟩ | ⟨after, once, _⟩)
  · rw [pppPipe] at stored
    exact absurd stored (by decide)
  · obtain ⟨before, reply, split, isReply, _, _⟩ := once
    have member : reply ∈ [CgdataEvent.accepted 1 3, .connect 1, .released 1] := by
      have own : reply ∈ untilRequest (cgdataTurn 0) [.accepted 1 3, .connect 1, .released 1] := by
        rw [split]
        simp
      exact (List.takeWhile_prefix _).subset own
    simp only [mem_cons, not_mem_nil, or_false] at member
    rcases member with rfl | rfl | rfl
    all_goals exact absurd isReply (by decide)

instance : DecidablePred WorkOp.KeepsPipe := fun op => by
  cases op
  all_goals first
    | exact isTrue trivial
    | exact isFalse id

instance : DecidablePred WorkOp.Activates := fun op => by
  cases op
  all_goals first
    | exact isTrue trivial
    | exact isFalse id

def isActivating (world : World) : Bool :=
  world.ppp.activatePdp || match world.work with
    | op :: _ => decide op.Activates
    | [] => false

theorem isActivating_of_activating (activating : Activating world) : isActivating world = true := by
  rcases activating with scheduled | ⟨op, rest, work, activates⟩
  · simp [isActivating, scheduled]
  · simp [isActivating, work, activates]

def onlyWork (world : World) (action : Action) : Bool :=
  match action, world.work with
  | .runWork _, .cgdataTakePipe c _ :: _ =>
    !isActivating world && decide (pipeOf c world ≠ some deadbeef) &&
      decide (smAtHostGetCtxFrom (pipeOf c world) world.machine.host = some c)
  | .runWork _, op :: _ => !isActivating world || decide op.KeepsPipe
  | .rxEnd, _ => true
  | .activatePdp, _ => true
  | _, _ => !isActivating world

theorem undisturbing_of_onlyWork {action : Action} (checked : onlyWork world action = true) :
    Undisturbing world action where
  found := by
    rintro outcome c cid rest pipe rfl work owned
    simp only [onlyWork, work, owned, Bool.and_eq_true, decide_eq_true_eq] at checked
    exact ⟨fun marker => checked.1.2 (by rw [marker]), checked.2⟩
  work := by
    rintro activating outcome op rest rfl work
    have isActive := isActivating_of_activating activating
    cases op
    case cgdataTakePipe c cid => simp [onlyWork, work, isActive] at checked
    all_goals simpa [onlyWork, work, isActive] using checked
  thread := by
    rintro activating outcome op rest rfl _
    simp [onlyWork, isActivating_of_activating activating] at checked
  message := by
    rintro activating allocated message rest rfl _ _
    simp [onlyWork, isActivating_of_activating activating] at checked
  pipe := by
    rintro activating pipe (rfl | rfl)
    · simp [onlyWork, isActivating_of_activating activating] at checked
    · simp [onlyWork, isActivating_of_activating activating] at checked

/-- The command is answered when PPP is up. -/
theorem cgdata_answered_once_connected :
    ∃ world, Reachable (step plusConfig) Undisturbing Initial world ∧
      world.log = [] ++ .accepted 0 0 :: [.connect 0, .released 0] ∧
      AnsweredOnce world 0 0 [.connect 0, .released 0] := by
  obtain ⟨world, reachable, log⟩ := exists_run_if plusConfig Undisturbing
    onlyWork (commandRun 0 (.cgdata 0) 4 ++ connectRun)
    (fun _ _ _ checked => undisturbing_of_onlyWork checked)
    (fun world => world.log) [.accepted 0 0, .connect 0, .released 0]
    (by decide)
  have split : world.log = [] ++ .accepted 0 0 :: [.connect 0, .released 0] := log
  exact ⟨world, reachable, split, cgdata_answered_once reachable split⟩

end SerialModem.Ppp
