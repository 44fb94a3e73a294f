import SerialModem.AtHost.System

/-!
# What the AT host leaves alone

Most functions of the AT host touch one part of the state.  `Frame` collects
what none of them touches between two actions of the work queue, and what they
may only extend: the work queue and the history.  `Undisturbed` is the
stronger fact about the calls that the environment makes back into the host:
they keep every mode and the served context, and answer on that context only.
-/

namespace SerialModem.AtHost

open Library List Function

variable {cfg : Config} {env : Environment}

namespace Host

variable (host : Host)

@[simp]
theorem data_setData_self (c : CtxId) (data : DataState) : (host.setData c data).data c = data := by
  simp [Host.data, setData, setCtx]

variable {c : CtxId}

theorem data_setData_of_ne {d : CtxId} (data : DataState) (different : d ≠ c) :
    (host.setData c data).data d = host.data d := by
  simp [Host.data, setData, setCtx, update_of_ne different]

theorem setData_setData (c : CtxId) (first second : DataState) :
    (host.setData c first).setData c second = host.setData c second := by
  simp [setData, setCtx]

theorem setData_data (c : CtxId) : host.setData c (host.data c) = host := by
  simp [setData, setCtx, Host.data]

@[simp]
theorem data_record (event : Event) (c : CtxId) : (host.record event).data c = host.data c := rfl

@[simp]
theorem data_setCurrentCtx (current : Option CtxId) (c : CtxId) :
    (host.setCurrentCtx current).data c = host.data c := rfl

@[simp]
theorem history_setData (c : CtxId) (data : DataState) :
    (host.setData c data).history = host.history := rfl

@[simp]
theorem history_setCurrentCtx (current : Option CtxId) :
    (host.setCurrentCtx current).history = host.history := rfl

@[simp]
theorem history_record (event : Event) :
    (host.record event).history = host.history ++ [event] := rfl

theorem data_setCtx_of_eq {ctx : Ctx} (same : ctx.data = host.data c) (d : CtxId) :
    (host.setCtx c ctx).data d = host.data d := by
  by_cases equal : d = c
  · subst equal
    simpa [Host.data, setCtx] using same
  · simp [Host.data, setCtx, update_of_ne equal]

theorem pipe_setCtx_of_eq {ctx : Ctx} (same : ctx.pipe = (host.ctx c).pipe) (d : CtxId) :
    ((host.setCtx c ctx).ctx d).pipe = (host.ctx d).pipe := by
  by_cases equal : d = c
  · subst equal
    simpa [setCtx] using same
  · simp [setCtx, update_of_ne equal]

end Host

def Appends (property : Event → Prop) (before after : Host) : Prop :=
  ∃ events, after.history = before.history ++ events ∧ ∀ event, event ∈ events → property event

namespace Appends

variable {property : Event → Prop}

theorem of_eq {before after : Host} (same : after.history = before.history) :
    Appends property before after :=
  ⟨[], by simp [same], by simp⟩

theorem refl (host : Host) : Appends property host host :=
  of_eq rfl

theorem trans {first second third : Host} (left : Appends property first second)
    (right : Appends property second third) :
    Appends property first third := by
  obtain ⟨leftEvents, leftHistory, leftAll⟩ := left
  obtain ⟨rightEvents, rightHistory, rightAll⟩ := right
  refine ⟨leftEvents ++ rightEvents, ?_, ?_⟩
  · rw [rightHistory, leftHistory, append_assoc]
  · intro event member
    rcases mem_append.mp member with inLeft | inRight
    · exact leftAll event inLeft
    · exact rightAll event inRight

theorem record (host : Host) {event : Event} (holds : property event) :
    Appends property host (host.record event) :=
  ⟨[event], rfl, by simpa using holds⟩

theorem mono {weaker : Event → Prop} {before after : Host} (appends : Appends property before after)
    (weakens : ∀ event, property event → weaker event) :
    Appends weaker before after := by
  obtain ⟨events, history, all⟩ := appends
  exact ⟨events, history, fun event member => weakens event (all event member)⟩

end Appends

/-- Neither a received byte nor an entry into data mode. -/
def Internal : Event → Prop
  | .received _ _ => False
  | .enterDatamode _ _ _ => False
  | _ => True

def NotFlush : Work → Prop
  | .rawSendScheduled _ _ => False
  | _ => True

/-- What stays fixed, or only grows, while one action is carried out. -/
structure Frame (before after : Host) : Prop where
  pipe : ∀ c, (after.ctx c).pipe = (before.ctx c).pipe
  instanceList : after.instanceList = before.instanceList
  cmuxStarted : after.cmuxStarted = before.cmuxStarted
  cmuxDlci : after.cmuxDlci = before.cmuxDlci
  urcChannel : after.urcChannel = before.urcChannel
  pipeRx : after.pipeRx = before.pipeRx
  pipeOpen : after.pipeOpen = before.pipeOpen
  running : after.running = before.running
  workQueue : ∃ added, after.workQueue = before.workQueue ++ added ∧
    ∀ work, work ∈ added → NotFlush work

namespace Frame

variable (host : Host)

theorem refl : Frame host host where
  pipe _ := rfl
  instanceList := rfl
  cmuxStarted := rfl
  cmuxDlci := rfl
  urcChannel := rfl
  pipeRx := rfl
  pipeOpen := rfl
  running := rfl
  workQueue := ⟨[], by simp, by simp⟩

theorem trans {first second third : Host} (left : Frame first second) (right : Frame second third) :
    Frame first third where
  pipe c := (right.pipe c).trans (left.pipe c)
  instanceList := right.instanceList.trans left.instanceList
  cmuxStarted := right.cmuxStarted.trans left.cmuxStarted
  cmuxDlci := right.cmuxDlci.trans left.cmuxDlci
  urcChannel := right.urcChannel.trans left.urcChannel
  pipeRx := right.pipeRx.trans left.pipeRx
  pipeOpen := right.pipeOpen.trans left.pipeOpen
  running := right.running.trans left.running
  workQueue := by
    obtain ⟨leftAdded, leftQueue, leftAll⟩ := left.workQueue
    obtain ⟨rightAdded, rightQueue, rightAll⟩ := right.workQueue
    refine ⟨leftAdded ++ rightAdded, ?_, ?_⟩
    · rw [rightQueue, leftQueue, append_assoc]
    · intro work member
      rcases mem_append.mp member with inLeft | inRight
      · exact leftAll work inLeft
      · exact rightAll work inRight

theorem setCtx {c : CtxId} {ctx : Ctx} (same : ctx.pipe = (host.ctx c).pipe) :
    Frame host (host.setCtx c ctx) :=
  { refl host with pipe := host.pipe_setCtx_of_eq same }

theorem setData (c : CtxId) (data : DataState) : Frame host (host.setData c data) :=
  setCtx host rfl

theorem record (host : Host) (event : Event) : Frame host (host.record event) :=
  { refl host with }

theorem setCurrentCtx (current : Option CtxId) : Frame host (host.setCurrentCtx current) :=
  { refl host with }

theorem submitWork {work : Work} (notFlush : NotFlush work) :
    Frame host (submitWork work host) := by
  unfold AtHost.submitWork
  split
  · exact refl host
  · exact { refl host with
      workQueue := ⟨[work], rfl, by simpa using notFlush⟩ }

theorem notFlush {before after : Host} (frame : Frame before after)
    (unflushed : ∀ work, work ∈ before.workQueue → NotFlush work) :
    ∀ work, work ∈ after.workQueue → NotFlush work := by
  obtain ⟨added, queue, addedAll⟩ := frame.workQueue
  intro work member
  rw [queue] at member
  exact (mem_append.mp member).elim (unflushed work) (addedAll work)

end Frame

structure SameWiring (before after : Host) : Prop where
  pipe : ∀ c, (after.ctx c).pipe = (before.ctx c).pipe
  instanceList : after.instanceList = before.instanceList
  cmuxStarted : after.cmuxStarted = before.cmuxStarted
  cmuxDlci : after.cmuxDlci = before.cmuxDlci
  urcChannel : after.urcChannel = before.urcChannel
  pipeOpen : after.pipeOpen = before.pipeOpen

variable {before after : Host}

theorem Frame.sameWiring (frame : Frame before after) : SameWiring before after :=
  ⟨frame.pipe, frame.instanceList, frame.cmuxStarted, frame.cmuxDlci,
    frame.urcChannel, frame.pipeOpen⟩

theorem SameWiring.trans {first second third : Host}
    (left : SameWiring first second) (right : SameWiring second third) :
    SameWiring first third :=
  ⟨fun c => (right.pipe c).trans (left.pipe c),
    right.instanceList.trans left.instanceList,
    right.cmuxStarted.trans left.cmuxStarted,
    right.cmuxDlci.trans left.cmuxDlci,
    right.urcChannel.trans left.urcChannel,
    right.pipeOpen.trans left.pipeOpen⟩

/-- The URC context depends only on the list of contexts, their pipes, which of
them are in AT-command mode, and the CMUX settings. -/
theorem smAtHostGetUrcCtx_of_atMode (same : SameWiring before after)
    (atMode : ∀ c, inAtModeCtx c after = inAtModeCtx c before) :
    smAtHostGetUrcCtx cfg after = smAtHostGetUrcCtx cfg before := by
  have ctxFrom : ∀ pipe, smAtHostGetCtxFrom pipe after = smAtHostGetCtxFrom pipe before := by
    intro pipe
    cases pipe with
    | none => rfl
    | some p => simp [smAtHostGetCtxFrom, same.instanceList, same.pipe]
  have channels : ∀ count first, firstAtModeChannel after first count =
        firstAtModeChannel before first count := by
    intro count
    induction count with
    | zero =>
      intro first
      rfl
    | succ count ih =>
      intro first
      simp [firstAtModeChannel, same.cmuxDlci, ctxFrom, atMode, ih]
  simp [smAtHostGetUrcCtx, same.cmuxStarted, same.urcChannel,
    same.cmuxDlci, same.instanceList, ctxFrom, channels]

theorem smAtHostGetUrcCtx_congr (same : SameWiring before after)
    (modes : ∀ c, (after.data c).atMode = (before.data c).atMode) :
    smAtHostGetUrcCtx cfg after = smAtHostGetUrcCtx cfg before := by
  apply smAtHostGetUrcCtx_of_atMode same
  intro c
  rw [inAtModeCtx, inAtModeCtx, smAtCtxCheck, smAtCtxCheck, same.instanceList, modes]

theorem smAtHostGetCurrent_congr (frame : Frame before after)
    (modes : ∀ c, (after.data c).atMode = (before.data c).atMode)
    (current : after.currentCtx = before.currentCtx) :
    smAtHostGetCurrent cfg after = smAtHostGetCurrent cfg before := by
  rw [smAtHostGetCurrent, smAtHostGetCurrent, current,
    smAtHostGetUrcCtx_congr frame.sameWiring modes]

theorem smAtHostGetCurrent_of_current
    {host : Host} {c : CtxId} (current : host.currentCtx = some c) :
    smAtHostGetCurrent cfg host = some c := by
  simp [smAtHostGetCurrent, current]

/-- An answer on the served context, output that names its own context, or a
move of a lock. -/
def IsReply (current : Option CtxId) : Event → Prop
  | .rspSend c _ => current = some c
  | .urcSent _ _ => True
  | .rspSendTo _ _ => True
  | .dataSend _ _ => True
  | .locked _ => True
  | .unlocked _ => True
  | _ => False

variable (cfg) in
/-- The effect of the calls that keep all modes. -/
structure Undisturbed (before after : Host) : Prop where
  frame : Frame before after
  data : ∀ c, after.data c = before.data c
  current : after.currentCtx = before.currentCtx
  replies : Appends (IsReply (smAtHostGetCurrent cfg before)) before after

namespace Undisturbed

theorem refl (host : Host) : Undisturbed cfg host host where
  frame := Frame.refl host
  data _ := rfl
  current := rfl
  replies := Appends.refl host

theorem getCurrent {before after : Host} (undisturbed : Undisturbed cfg before after) :
    smAtHostGetCurrent cfg after = smAtHostGetCurrent cfg before :=
  smAtHostGetCurrent_congr undisturbed.frame
    (fun c => by rw [undisturbed.data c]) undisturbed.current

theorem trans {first second third : Host} (left : Undisturbed cfg first second)
    (right : Undisturbed cfg second third) :
    Undisturbed cfg first third where
  frame := left.frame.trans right.frame
  data c := (right.data c).trans (left.data c)
  current := right.current.trans left.current
  replies := left.replies.trans (left.getCurrent ▸ right.replies)

/-- A change outside the data-mode parts, the served context and the
history. -/
theorem of_frame {before after : Host} (frame : Frame before after)
    (data : ∀ c, after.data c = before.data c)
    (current : after.currentCtx = before.currentCtx)
    (history : after.history = before.history) :
    Undisturbed cfg before after where
  frame := frame
  data := data
  current := current
  replies := Appends.of_eq history

theorem record (host : Host) {event : Event} (reply : IsReply (smAtHostGetCurrent cfg host) event) :
    Undisturbed cfg host (host.record event) where
  frame := Frame.record host event
  data _ := rfl
  current := rfl
  replies := Appends.record host reply

theorem setCtx (host : Host) {c : CtxId} {ctx : Ctx} (samePipe : ctx.pipe = (host.ctx c).pipe)
    (sameData : ctx.data = host.data c) :
    Undisturbed cfg host (host.setCtx c ctx) :=
  of_frame (Frame.setCtx host samePipe) (host.data_setCtx_of_eq sameData)
    rfl rfl

theorem submitWork (host : Host) {work : Work} (notFlush : NotFlush work) :
    Undisturbed cfg host (submitWork work host) := by
  refine of_frame (Frame.submitWork host notFlush) ?_ ?_ ?_
  · intro c
    unfold AtHost.submitWork
    split <;> rfl
  · unfold AtHost.submitWork
    split <;> rfl
  · unfold AtHost.submitWork
    split <;> rfl

end Undisturbed

theorem sendMsg_undisturbed (message : Message) (host : Host) :
    Undisturbed cfg host (sendMsg message host) := by
  have posted : ∀ (kept : List Message) (log : List MsgqEvent),
      Undisturbed cfg host { host with msgq := kept, msgqLog := log } :=
    fun kept log => Undisturbed.of_frame { Frame.refl host with } (fun _ => rfl) rfl rfl
  exact (posted _ _).trans (Undisturbed.submitWork _ trivial)

theorem checkIdleTimer_undisturbed (c : CtxId) (reschedule : Bool) (host : Host) :
    Undisturbed cfg host (checkIdleTimer c reschedule host) := by
  unfold checkIdleTimer
  split
  · exact Undisturbed.setCtx host rfl rfl
  · exact Undisturbed.refl host

def pendingUrcs (cfg : Config) (c : CtxId) (host : Host) : List (List Byte) :=
  (if smAtHostGetUrcCtx cfg host = some c ∧ host.urcBuf ≠ [] then
    [host.urcBuf]
  else
    []) ++ (host.ctx c).bufferedUrcs

theorem flushPipeUrcs_eq (c : CtxId) (host : Host) : flushPipeUrcs cfg c host =
      { host.setCtx c { host.ctx c with bufferedUrcs := [] } with
        urcBuf :=
          if smAtHostGetUrcCtx cfg host = some c then [] else host.urcBuf
        history := host.history ++
          (pendingUrcs cfg c host).map (.urcSent c) } := by
  have emitted : ∀ (pending : List (List Byte)) (state : Host),
      pending.foldl (fun current content =>
        current.record (.urcSent c content)) state =
          { state with
            history := state.history ++ pending.map (.urcSent c) } := by
    intro pending
    induction pending with
    | nil =>
      intro state
      simp
    | cons content rest ih =>
      intro state
      rw [foldl_cons, ih]
      simp [Host.record]
  unfold flushPipeUrcs sendUrcs pendingUrcs
  dsimp only
  rw [emitted]
  by_cases target : smAtHostGetUrcCtx cfg host = some c
  · by_cases empty : host.urcBuf = []
    · simp [target, empty, Host.setCtx]
    · simp [target, empty, Host.setCtx, Host.record]
  · simp [target, Host.setCtx]

theorem flushPipeUrcs_undisturbed (c : CtxId) (host : Host) :
    Undisturbed cfg host (flushPipeUrcs cfg c host) := by
  have cleared : Undisturbed cfg host (host.setCtx c { host.ctx c with bufferedUrcs := [] }) :=
    Undisturbed.setCtx host rfl rfl
  rw [flushPipeUrcs_eq]
  refine ⟨{ cleared.frame with }, cleared.data, rfl, _, rfl, ?_⟩
  intro event member
  obtain ⟨content, _, rfl⟩ := List.mem_map.mp member
  trivial

theorem flushIfIdle_undisturbed (c : CtxId) (host : Host) :
    Undisturbed cfg host (flushIfIdle cfg c host) := by
  unfold flushIfIdle
  split
  · exact flushPipeUrcs_undisturbed c host
  · exact Undisturbed.refl host

theorem rspSend_undisturbed (response : Response) (host : Host) :
    Undisturbed cfg host (rspSend cfg response host) := by
  unfold rspSend
  cases served : smAtHostGetCurrent cfg host with
  | none => exact Undisturbed.refl host
  | some c =>
    dsimp only
    split
    · have flushed : Undisturbed cfg host (flushIfIdle cfg c host) :=
        flushIfIdle_undisturbed c host
      refine flushed.trans (Undisturbed.record _ ?_)
      exact flushed.getCurrent.trans served
    · exact Undisturbed.refl host

theorem notifyUrc_undisturbed (c : CtxId) (host : Host) :
    Undisturbed cfg host (notifyUrc c host) := by
  unfold notifyUrc
  split
  · exact sendMsg_undisturbed _ host
  · exact checkIdleTimer_undisturbed c false host

theorem urcSend_undisturbed (content : List Byte) (host : Host) :
    Undisturbed cfg host (urcSend cfg content host) := by
  have buffered : ∀ kept : List Byte, Undisturbed cfg host { host with urcBuf := kept } :=
    fun kept => Undisturbed.of_frame { Frame.refl host with } (fun _ => rfl) rfl rfl
  unfold urcSend
  split
  · exact buffered []
  · split
    · exact (buffered _).trans (notifyUrc_undisturbed _ _)
    · exact buffered []

theorem urcSendTo_undisturbed (pipe : Option PipeId) (content : List Byte) (host : Host) :
    Undisturbed cfg host (urcSendTo cfg pipe content host) := by
  unfold urcSendTo
  split
  · exact urcSend_undisturbed content host
  · refine Undisturbed.trans ?_ (notifyUrc_undisturbed _ _)
    exact Undisturbed.setCtx host rfl rfl

theorem sendTo_undisturbed (pipe : Option PipeId) {event : CtxId → Event}
    (reply : ∀ c current, IsReply current (event c)) (host : Host) :
    Undisturbed cfg host (sendTo cfg pipe event host) := by
  unfold sendTo
  split
  · exact Undisturbed.refl host
  · exact (flushIfIdle_undisturbed _ host).trans (Undisturbed.record _ (reply _ _))

theorem addExecutingLock_undisturbed (c : CtxId) (amount : Int) (host : Host) :
    Undisturbed cfg host (addExecutingLock c amount host) := by
  have moved : Undisturbed cfg host
      (host.setCtx c { host.ctx c with
        executingLock := (host.ctx c).executingLock + amount }) :=
    Undisturbed.setCtx host rfl rfl
  refine moved.trans (Undisturbed.record _ ?_)
  split <;> trivial

theorem smAtHostLockCtx_undisturbed (c : CtxId) (host : Host) :
    Undisturbed cfg host (smAtHostLockCtx cfg c host) := by
  unfold smAtHostLockCtx
  split
  · exact (flushIfIdle_undisturbed c host).trans (addExecutingLock_undisturbed c 1 _)
  · exact Undisturbed.refl host

theorem smAtHostCmdDone_undisturbed (c : CtxId) (host : Host) :
    Undisturbed cfg host (smAtHostCmdDone c host) := by
  have released : Undisturbed cfg host (addExecutingLock c (-1) host) :=
    addExecutingLock_undisturbed c (-1) host
  unfold smAtHostCmdDone
  split
  · dsimp only
    split
    · exact (released.trans (sendMsg_undisturbed _ _)).trans (Undisturbed.submitWork _ trivial)
    · exact released
  · exact Undisturbed.refl host

theorem performCall_undisturbed (call : HostCall) (host : Host) :
    Undisturbed cfg host (performCall cfg call host) := by
  cases call with
  | rspSend response => exact rspSend_undisturbed response host
  | urcSend content => exact urcSend_undisturbed content host
  | urcSendTo pipe content => exact urcSendTo_undisturbed pipe content host
  | rspSendTo pipe response | dataSend pipe content =>
    apply sendTo_undisturbed pipe
    intro _ _
    trivial
  | lockCtx c => exact smAtHostLockCtx_undisturbed c host
  | cmdDone c => exact smAtHostCmdDone_undisturbed c host

theorem performCalls_undisturbed (calls : List HostCall) (host : Host) :
    Undisturbed cfg host (performCalls cfg calls host) := by
  induction calls generalizing host with
  | nil => exact Undisturbed.refl host
  | cons call rest ih =>
    exact (performCall_undisturbed call host).trans (ih (performCall cfg call host))

end SerialModem.AtHost
