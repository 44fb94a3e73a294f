import SerialModem.AtHost.MachineSteps

/-!
# What is left of a destroyed context

A context embeds four work items and two timers.  `sm_at_host_destroy` stops
the timers and cancels `rx_work` and `raw_send_scheduled_work`; the two items
of the socket poll context belong to another module and are left where they
are.

A step in which a context is freed is found from its `instance_list` alone, so
the results hold for every caller of `sm_at_host_destroy`.
-/

namespace SerialModem.AtHost

open Library List

variable {cfg : Config} {env : Environment}

/-- No message carries an event of its pipe and one of the AT host. -/
def SingleEvents (host : Host) : Prop :=
  ∀ message, message ∈ host.msgq → message.pipeEvent = none ∨ message.smEvent = none

namespace SingleEvents

variable {host after : Host}

theorem sendMsg (single : SingleEvents host) {message : Message}
    (isSingle : message.pipeEvent = none ∨ message.smEvent = none) :
    SingleEvents (sendMsg message host) := by
  intro other member
  rcases mem_sendMsg member with old | rfl
  · exact single other old
  · exact isSingle

theorem submitWork (single : SingleEvents host) (work : Work) :
    SingleEvents (submitWork work host) := by
  unfold AtHost.submitWork
  split
  · exact single
  · exact single

theorem stepInvariant : StepInvariant SingleEvents where
  update update single := by
    cases update with
    | post own => exact single.sendMsg (.inl own)
    | submit => exact single.submitWork _
    | _ => exact single
  submit work _ single := single.submitWork work
  pop _ _ single := single
  relabel _ _ _ single := single

theorem rewires {creating freeing : Prop} (single : SingleEvents host)
    (rewires : Rewires creating freeing host after) : SingleEvents after := by
  refine rewires.preserves ?_ single
  intro first second rewire holds
  cases rewire with
  | post isSingle => exact holds.sendMsg isSingle
  | submit work => exact holds.submitWork work
  | _ => exact holds

theorem hostChange {action : MachineAction} {machine next : Machine}
    (single : SingleEvents machine.host)
    (change : HostChange cfg env action machine next) :
    SingleEvents next.host := by
  cases change with
  | step _ _ notWorkFn ran _ =>
    exact stepInvariant.step notWorkFn ran single
  | rewires rewired _ => exact single.rewires rewired
  | leaveRx host rewired left _ =>
    rw [left]
    exact stepInvariant.leaveRxWork (single.rewires rewired)
  | enterLoop rest _ _ _ same _ | endLoop _ _ same _ =>
    rw [same]
    exact single
  | message _ message rest handled _ _ queue rewired result =>
    have popped : SingleEvents (popMessage message rest machine.host) := by
      intro other member
      apply single
      rw [queue]
      exact mem_cons_of_mem _ member
    have kept : SingleEvents handled := popped.rewires rewired
    rcases result with ⟨same, _⟩ | ⟨c, flushed, _⟩
    · rw [same]
      exact kept
    · rw [flushed]
      exact stepInvariant.updates (Updates.flushPipeUrcs c _) kept
  | endIdleWork c _ left _ =>
    rw [left]
    exact single

end SingleEvents

variable {machine : Machine}

theorem reachable_singleEvents {allowed : Machine → MachineAction → Prop}
    (reachable : MachineReachableIf cfg env allowed machine) :
    SingleEvents machine.host := by
  induction reachable with
  | start booted =>
    intro message member
    rw [booted.msgq] at member
    cases member
  | next action _ _ taken ih =>
    exact ih.hostChange (machineStep_hostChange taken)

/-- What `sm_at_host_destroy` does when it frees a context. -/
structure Freed (c : CtxId) (before after : Host) : Prop where
  instanceList : after.instanceList = before.instanceList.erase c
  workQueue : after.workQueue = before.workQueue.filter fun work => !work.cancelledWith c
  idleTimer : (after.ctx c).idleTimer = false
  dataInactivityTimer : (after.ctx c).dataInactivityTimer = false
  bufferedUrcs : (after.ctx c).bufferedUrcs = []

theorem freeCtx_freed (c : CtxId) (host : Host) : Freed c host (freeCtx c host) where
  instanceList := rfl
  workQueue := rfl
  idleTimer := by simp [freeCtx, Host.setCtx]
  dataInactivityTimer := by simp [freeCtx, Host.setCtx]
  bufferedUrcs := by simp [freeCtx, Host.setCtx]

variable {c d : CtxId}

theorem smAtHostDestroy_freed {host : Host} (live : c ∈ host.instanceList)
    (gone : c ∉ (smAtHostDestroy d host).instanceList) :
    d = c ∧ host.instanceList.length ≠ 1 ∧ Freed c host (smAtHostDestroy d host) := by
  unfold smAtHostDestroy at gone ⊢
  split at gone
  · exact absurd live gone
  · split at gone
    · exact absurd live gone
    · split at gone
      · exact absurd live gone
      · rename_i isLive notServed others
        rw [if_neg isLive, if_neg notServed, if_neg others]
        have same : d = c := by
          by_contra different
          exact gone ((mem_erase_of_ne (Ne.symm different)).mpr live)
        refine ⟨same, others, ?_⟩
        rw [same]
        exact freeCtx_freed c host

theorem Freed.of_storePipe {pipe : Option PipeId} {before after : Host}
    (freed : Freed c (before.storePipe d pipe) after) :
    Freed c before after :=
  ⟨freed.instanceList, freed.workQueue, freed.idleTimer,
    freed.dataInactivityTimer, freed.bufferedUrcs⟩

theorem Rewires.instanceList {creating freeing : Prop} {before after : Host}
    (notCreating : ¬creating) (notFreeing : ¬freeing)
    (rewires : Rewires creating freeing before after) :
    after.instanceList = before.instanceList := by
  induction rewires with
  | refl => rfl
  | tail _ last ih =>
    rw [← ih]
    cases last with
    | post => exact (Frame.sendMsg _ _).instanceList
    | submit work =>
      unfold submitWork
      split <;> rfl
    | free _ _ frees => exact absurd frees notFreeing
    | reset c creates | allocate pipe _ creates => exact absurd creates notCreating
    | _ => rfl

variable {allocated : Option CtxId}

theorem smAtHostCreate_instanceList {pipe : PipeId} (live : c ∈ machine.host.instanceList) :
    c ∈ (smAtHostCreate cfg allocated pipe machine).host.instanceList := by
  unfold smAtHostCreate
  split
  · rename_i d _
    change c ∈ (reuseCtx d pipe machine.host).instanceList
    unfold reuseCtx
    dsimp only
    split
    · rw [smAtHostEventNotify, (Frame.sendMsg _ _).instanceList]
      exact live
    · exact live
  · exact mem_append_left _ live
  · exact live

/-- The context that a step calls `sm_at_host_destroy` for, if that can free
it. -/
def destroyCall (cfg : Config) (machine : Machine) : MachineAction → Option CtxId
  | .takeMessage _ =>
    (machine.host.msgq.head?.bind fun message =>
      if message.pipeEvent = some .closed then
        liveCtx message machine.host
      else
        none).filter fun c =>
      (machine.host.ctx c).pipe.isNone && machine.host.instanceList.length != 1
  | .setPipe pipe =>
    (smAtHostGetCurrent cfg machine.host).bind fun c =>
      (smAtHostGetCtxFrom (some pipe) (machine.host.storePipe c (some pipe))).filter fun old =>
          old != c && machine.host.instanceList.length != 1
  | _ => none

theorem handlePipeEvent_freed {message : Message} (live : c ∈ machine.host.instanceList)
    (gone : c ∉ (handlePipeEvent cfg allocated message machine).host.instanceList) :
    (message.pipeEvent = some .closed ∧ liveCtx message machine.host = some c ∧
      (machine.host.ctx c).pipe = none ∧
      machine.host.instanceList.length ≠ 1) ∧
    Freed c machine.host (handlePipeEvent cfg allocated message machine).host ∧
    SameItems machine (handlePipeEvent cfg allocated message machine) := by
  revert gone
  unfold handlePipeEvent
  split
  · split
    · exact fun gone => absurd live gone
    · exact fun gone => absurd live gone
  · exact fun gone => absurd (smAtHostCreate_instanceList live) gone
  · rename_i pipe d closed _ isLive
    split
    · rename_i noPipe
      dsimp only
      intro gone
      have marked : c ∈ (machine.host.storePipe d (some deadbeef)).instanceList := live
      have destroyed : d = c ∧ machine.host.instanceList.length ≠ 1 ∧
          Freed c machine.host (smAtHostDestroy d (machine.host.storePipe d (some deadbeef))) := by
        have goneNow : c ∉ (smAtHostDestroy d
            (machine.host.storePipe d (some deadbeef))).instanceList := by
          split at gone
          · exact gone
          · exact gone
        obtain ⟨same, others, freed⟩ := smAtHostDestroy_freed marked goneNow
        exact ⟨same, others, freed.of_storePipe⟩
      obtain ⟨rfl, others, freed⟩ := destroyed
      refine ⟨⟨closed, isLive, noPipe, others⟩, ?_, ?_⟩
      · split
        · exact freed
        · exact freed
      · split
        · exact ⟨rfl, rfl, rfl⟩
        · exact ⟨rfl, rfl, rfl⟩
    · exact fun gone => absurd live gone
  · split
    · exact fun gone => absurd live gone
    · exact fun gone => absurd live gone
  · exact fun gone => absurd live gone

theorem smAtHostSetPipe_freed {pipe : PipeId} (live : c ∈ machine.host.instanceList)
    (gone : c ∉ (smAtHostSetPipe d pipe machine).host.instanceList) :
    (smAtHostGetCtxFrom (some pipe) (machine.host.storePipe d (some pipe)) =
        some c ∧ c ≠ d ∧ machine.host.instanceList.length ≠ 1) ∧
      Freed c machine.host (smAtHostSetPipe d pipe machine).host := by
  revert gone
  unfold smAtHostSetPipe
  split
  · change c ∉ (takeOverPipe d pipe machine.host).instanceList →
      _ ∧ Freed c machine.host (takeOverPipe d pipe machine.host)
    unfold takeOverPipe
    dsimp only
    split
    · split
      · exact fun gone => absurd live gone
      · rename_i old found different
        intro gone
        have marked : c ∈ ((machine.host.storePipe d (some pipe)).storePipe old
            (some deadbeef)).instanceList := live
        obtain ⟨rfl, others, freed⟩ := smAtHostDestroy_freed marked gone
        exact ⟨⟨found, different, others⟩, freed.of_storePipe.of_storePipe⟩
    · exact fun gone => absurd live gone
  · exact fun gone => absurd live gone

theorem handleSmEvent_instanceList (cfg : Config) (ctx : Option CtxId) (message : Message)
    (machine : Machine) :
    (handleSmEvent cfg ctx message machine).host.instanceList = machine.host.instanceList := by
  rcases handleSmEvent_cases cfg ctx message machine with
    ⟨_, unchanged⟩ | ⟨d, _, _, ⟨_, entered⟩ | ⟨_, delayed⟩⟩
  · rw [unchanged]
  · rw [entered]
    have flushing : Updates (machine.host.setCurrentCtx (some d))
        (enterIdleWork cfg d machine).host :=
      Updates.flushPipeUrcs d _
    exact (Updates.frame flushing).instanceList
  · rw [delayed]
    exact (Updates.frame (Updates.checkIdleTimer d false machine.host)).instanceList

theorem takeMessage_freed {message : Message} {rest : List Message}
    (single : message.pipeEvent = none ∨ message.smEvent = none)
    (live : c ∈ machine.host.instanceList)
    (gone : c ∉ (takeMessage cfg allocated message rest machine).host.instanceList) :
    (message.pipeEvent = some .closed ∧ liveCtx message machine.host = some c ∧
      (machine.host.ctx c).pipe = none ∧
      machine.host.instanceList.length ≠ 1) ∧
    Freed c machine.host (takeMessage cfg allocated message rest machine).host ∧
    SameItems machine (takeMessage cfg allocated message rest machine) := by
  let popped := machine.setHost (popMessage message rest machine.host)
  let handled := handlePipeEvent cfg allocated message popped
  have stays : c ∈ popped.host.instanceList := live
  have goneNow : c ∉ handled.host.instanceList := by
    rw [← handleSmEvent_instanceList cfg (liveCtx message machine.host) message handled]
    exact gone
  obtain ⟨closed, freed, items⟩ := handlePipeEvent_freed stays goneNow
  have noEvent : message.smEvent = none := by
    rcases single with noPipe | noEvent
    · rw [noPipe] at closed
      exact absurd closed.1 (by simp)
    · exact noEvent
  have isHandled : takeMessage cfg allocated message rest machine = handled := by
    rcases handleSmEvent_cases cfg (liveCtx message machine.host) message
      handled with ⟨_, unchanged⟩ | ⟨_, _, hasEvent, _⟩
    · exact unchanged
    · exact absurd noEvent hasEvent
  rw [isHandled]
  exact ⟨closed, ⟨freed.instanceList, freed.workQueue, freed.idleTimer,
    freed.dataInactivityTimer, freed.bufferedUrcs⟩,
    ⟨items.idle, items.idleLog, items.createdAt⟩⟩

/-- Only taking a message and `sm_at_host_set_pipe` change the list of
contexts. -/
theorem HostChange.instanceList {action : MachineAction} {after : Machine}
    (change : HostChange cfg env action machine after)
    (notTaken : ∀ allocated, action ≠ .takeMessage allocated)
    (notSet : ¬∃ pipe, action = .setPipe pipe) :
    after.host.instanceList = machine.host.instanceList := by
  have frame : StepInvariant fun host : Host =>
      host.instanceList = machine.host.instanceList := by
    refine ⟨fun update same => ?_, fun work _ same => ?_, fun _ _ same => same,
      fun _ _ _ same => same⟩
    · exact update.frame.instanceList.trans same
    · unfold submitWork
      split
      · exact same
      · exact same
  cases change with
  | step hostAction _ notWorkFn ran _ =>
    exact frame.step notWorkFn ran rfl
  | rewires rewired _ => exact rewired.instanceList id notSet
  | leaveRx host rewired left _ =>
    have same : host.instanceList = machine.host.instanceList :=
      rewired.instanceList id notSet
    rw [left]
    exact same
  | enterLoop rest _ _ _ same _ | endLoop _ _ same _ => rw [same]
  | message allocated _ _ _ isTaken _ _ _ _ =>
    exact absurd isTaken (notTaken allocated)
  | endIdleWork c _ left _ =>
    rw [left]
    rfl

/-- A context only disappears when `sm_at_host_destroy` frees it, and nothing
else happens to its work items and timers in the same step. -/
theorem machineStep_freed {action : MachineAction} {after : Machine}
    (single : SingleEvents machine.host)
    (taken : machineStep cfg env action machine = some after)
    (live : c ∈ machine.host.instanceList) (gone : c ∉ after.host.instanceList) :
    destroyCall cfg machine action = some c ∧
      Freed c machine.host after.host ∧ SameItems machine after := by
  by_cases isTaken : ∃ allocated, action = .takeMessage allocated
  · obtain ⟨allocated, rfl⟩ := isTaken
    cases machineStep_cases taken with
    | takeMessage _ message rest _ queue _ =>
      have isSingle := single message (by rw [queue]; exact mem_cons_self ..)
      obtain ⟨⟨closed, isLive, noPipe, others⟩, freed⟩ :=
        takeMessage_freed isSingle live gone
      refine ⟨?_, freed⟩
      simp [destroyCall, queue, closed, isLive, noPipe, others]
    | nothing => exact absurd live gone
  · by_cases isSet : ∃ pipe, action = .setPipe pipe
    · obtain ⟨pipe, rfl⟩ := isSet
      have same := machineStep_sameItems taken (by simp) (by simp) (by simp)
      cases machineStep_cases taken with
      | setPipe _ d host _ current _ result =>
        have goneNow : c ∉ (smAtHostSetPipe d pipe machine).host.instanceList := by
          rcases result with rfl | ⟨_, rfl⟩
          · exact gone
          · exact gone
        obtain ⟨⟨found, different, others⟩, freed⟩ :=
          smAtHostSetPipe_freed live goneNow
        refine ⟨?_, ?_, same⟩
        · simp [destroyCall, current, found, different, others]
        · rcases result with rfl | ⟨_, rfl⟩
          · exact freed
          · exact ⟨freed.instanceList, freed.workQueue, freed.idleTimer,
              freed.dataInactivityTimer, freed.bufferedUrcs⟩
      | nothing => exact absurd live gone
    · have same := (machineStep_hostChange taken).instanceList
        (fun allocated equal => isTaken ⟨allocated, equal⟩) isSet
      rw [same] at gone
      exact absurd live gone

/-- Nothing of a context is queued, linked, running or allocated. -/
structure Unreferenced (c : CtxId) (machine : Machine) : Prop where
  rxWork : .rx c ∉ machine.host.workQueue
  rawSendScheduledWork : ∀ mark, .rawSendScheduled c mark ∉ machine.host.workQueue
  pollWork : .poll c ∉ machine.host.workQueue
  idleWork : ∀ d, d ∈ machine.host.instanceList → ¬machine.idle.Linked d (.pollIdle c)
  idleTimer : (machine.host.ctx c).idleTimer = false
  dataInactivityTimer : (machine.host.ctx c).dataInactivityTimer = false
  bufferedUrcs : (machine.host.ctx c).bufferedUrcs = []

/-- A step that frees a context leaves no reference to it exactly when its
`poll_work` was not queued and its `idle_work` stood in no other list. -/
theorem destroyed_unreferenced_iff {action : MachineAction} {machine after : Machine} {c : CtxId}
    (reachable : MachineReachableIf cfg env (fun _ _ => True) machine)
    (taken : machineStep cfg env action machine = some after)
    (live : c ∈ machine.host.instanceList)
    (gone : c ∉ after.host.instanceList) :
    Unreferenced c after ↔ .poll c ∉ machine.host.workQueue ∧
        ∀ d, d ∈ machine.host.instanceList → d ≠ c → ¬machine.idle.Linked d (.pollIdle c) := by
  obtain ⟨_, freed, items⟩ := machineStep_freed (reachable_singleEvents reachable) taken live gone
  have left : ∀ d, d ∈ after.host.instanceList ↔ d ∈ machine.host.instanceList ∧ d ≠ c := by
    intro d
    constructor
    · intro isLeft
      refine ⟨?_, fun same => gone (same ▸ isLeft)⟩
      rw [freed.instanceList] at isLeft
      exact mem_of_mem_erase isLeft
    · rintro ⟨isLive, different⟩
      rw [freed.instanceList]
      exact (mem_erase_of_ne different).mpr isLive
  have queued : ∀ work : Work, work ∈ after.host.workQueue ↔
      work ∈ machine.host.workQueue ∧ work.cancelledWith c = false := by
    intro work
    rw [freed.workQueue, mem_filter, Bool.not_eq_true']
  constructor
  · intro unreferenced
    refine ⟨fun waits => ?_, fun d isLive different linked => ?_⟩
    · exact unreferenced.pollWork ((queued (.poll c)).mpr ⟨waits, rfl⟩)
    · apply unreferenced.idleWork d ((left d).mpr ⟨isLive, different⟩)
      rw [items.idle]
      exact linked
  · rintro ⟨noPoll, unlinked⟩
    refine ⟨?_, ?_, ?_, ?_, freed.idleTimer, freed.dataInactivityTimer, freed.bufferedUrcs⟩
    · intro waits
      simpa [Work.cancelledWith] using ((queued _).mp waits).2
    · intro mark waits
      simpa [Work.cancelledWith] using ((queued _).mp waits).2
    · exact fun waits => noPoll ((queued _).mp waits).1
    · intro d isLeft
      obtain ⟨isLive, different⟩ := (left d).mp isLeft
      rw [items.idle]
      exact unlinked d isLive different

def closeChannel (between : List MachineAction) : List MachineAction :=
  [.pipeOpened 1, .host .dispatch, .takeMessage (some 1)] ++ between ++ [.pipeClosed 1]

/-- The context of a channel is freed and nothing refers to it. -/
theorem closed_channel_unreferenced :
    ∃ machine after, MachineReachableIf plusConfig (sessionEnv 0 consumeAll)
        (fun _ _ => True) machine ∧
      machineStep plusConfig (sessionEnv 0 consumeAll) (.takeMessage none) machine = some after ∧
      1 ∈ machine.host.instanceList ∧ 1 ∉ after.host.instanceList ∧
      Unreferenced 1 after := by
  obtain ⟨machine, reachable, seen⟩ := exists_machine_run plusConfig
    (sessionEnv 0 consumeAll) (closeChannel [])
    (fun machine => (machine.host.instanceList, machine.host.workQueue, machine.idle.head 0,
      (machineStep plusConfig (sessionEnv 0 consumeAll) (.takeMessage none)
        machine).map fun after => after.host.instanceList))
    ([0, 1], [.atHost], none, some [0]) (by decide)
  obtain ⟨contexts, queue, noItems, freed⟩ := by
    simpa only [Prod.mk.injEq] using seen
  obtain ⟨after, taken, remaining⟩ := Option.map_eq_some_iff.mp freed
  have live : 1 ∈ machine.host.instanceList := by
    rw [contexts]
    decide
  have gone : 1 ∉ after.host.instanceList := by
    rw [remaining]
    decide
  refine ⟨machine, after, reachable, taken, live, gone,
    (destroyed_unreferenced_iff reachable taken live gone).mpr ⟨?_, ?_⟩⟩
  · rw [queue]
    decide
  · intro d isLive different linked
    have isFirst : d = 0 := by
      rw [contexts] at isLive
      simpa [different] using isLive
    rw [isFirst, LinkedLists.Linked, noItems] at linked
    cases linked

/-- A socket of the channel becomes ready right before the pipe closes.  The
context is freed while its `poll_work` is queued. -/
theorem freed_with_poll_work_queued :
    ∃ machine after, MachineReachableIf plusConfig (sessionEnv 0 consumeAll)
        (fun _ _ => True) machine ∧
      machineStep plusConfig (sessionEnv 0 consumeAll) (.takeMessage none) machine = some after ∧
      1 ∈ machine.host.instanceList ∧ 1 ∉ after.host.instanceList ∧
      .poll 1 ∈ after.host.workQueue := by
  obtain ⟨machine, reachable, seen⟩ := exists_machine_run plusConfig
    (sessionEnv 0 consumeAll) (closeChannel [.pollCb (some 1)])
    (fun machine => (machine.host.instanceList,
      (machineStep plusConfig (sessionEnv 0 consumeAll) (.takeMessage none)
        machine).map fun after =>
          (after.host.instanceList, after.host.workQueue)))
    ([0, 1], some ([0], [.poll 1, .atHost])) (by decide)
  obtain ⟨contexts, freed⟩ := Prod.mk.inj seen
  obtain ⟨after, taken, remaining⟩ := Option.map_eq_some_iff.mp freed
  obtain ⟨others, queue⟩ := Prod.mk.inj remaining
  refine ⟨machine, after, reachable, taken, ?_, ?_, ?_⟩
  · rw [contexts]
    decide
  · rw [others]
    decide
  · rw [queue]
    decide

end SerialModem.AtHost
