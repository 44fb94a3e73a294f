import SerialModem.AtHost.Processing

/-!
# What a step does to a context

A step of the system either makes moves of a context, or lets it receive a
byte first, or lets it discard a byte in null mode.  An invariant of single
contexts is proved from these three cases.
-/

namespace SerialModem.AtHost

open Library Option

/-! ## Null mode -/

/-- What `null_handler` makes of the data-mode part. -/
def DataState.discard (cfg : Config) (byte : Byte) (data : DataState) :
    DataState :=
  if cfg.terminator[data.nullMatchCount.toNat]? = some byte then
    if (data.nullMatchCount + 1).toNat = cfg.terminator.length then
      { data.cleared with nullMatchCount := 0, nullDroppedCount := 0 }
    else
      { data with
        nullMatchCount := data.nullMatchCount + 1
        nullDroppedCount := data.nullDroppedCount + 1 }
  else
    { data with
      nullMatchCount := 0
      nullDroppedCount := data.nullDroppedCount + 1 }

section Receive

variable {cfg : Config} {env : Environment} {orderly : Prop} {c : CtxId}

variable {byte : Byte} {host : Host}

theorem nullHandler_settled (live : c ∈ host.instanceList)
    (mode : (host.data c).atMode = .nullMode) :
    Settled cfg c ((host.data c).discard cfg byte) host (nullHandler cfg env c byte host) := by
  by_cases continues : cfg.terminator[(host.data c).nullMatchCount.toNat]? = some byte
  · by_cases complete : ((host.data c).nullMatchCount + 1).toNat = cfg.terminator.length
    · let reported : UInt32 :=
        (host.data c).nullDroppedCount + 1 - UInt32.ofNat cfg.terminator.length +
          UInt32.ofNat (host.data c).dataRb.sizeGet
      let counted := host.setData c
        { host.data c with
          nullMatchCount := (host.data c).nullMatchCount + 1
          nullDroppedCount := reported }
      have countedSettled : Settled cfg c _ host counted :=
        Settled.setData host _
      have left : (counted.data c).atMode ≠ .atCommandMode := by
        simp [counted, mode]
      obtain ⟨exited, _⟩ := exitDatamode_spec cfg env
        (countedSettled.frame.instanceList.symm ▸ live) left
      have unfolded : nullHandler cfg env c byte host = (exitDatamode cfg env c counted).setData c
            { (exitDatamode cfg env c counted).data c with
              nullMatchCount := 0
              nullDroppedCount := 0 } := by
        simp [nullHandler, continues, complete, counted, reported]
      have result :
          { (exitDatamode cfg env c counted).data c with
            nullMatchCount := 0
            nullDroppedCount := 0 } =
          (host.data c).discard cfg byte := by
        rw [exited.data]
        simp [DataState.discard, continues, complete, counted, DataState.cleared]
      rw [unfolded, result]
      exact (countedSettled.trans exited).trans (Settled.setData _ _)
    · have unfolded : nullHandler cfg env c byte host =
          host.setData c ((host.data c).discard cfg byte) := by
        simp [nullHandler, continues, complete, DataState.discard, -UInt8.toNat_add]
      rw [unfolded]
      exact Settled.setData host _
  · have unfolded : nullHandler cfg env c byte host =
        host.setData c ((host.data c).discard cfg byte) := by
      simp [nullHandler, continues, DataState.discard]
    rw [unfolded]
    exact Settled.setData host _

/-! ## The scheduled flush -/

variable {after : Host}

theorem rawSendScheduled_processed (orderly : Prop) (wellFormed : AllWellFormed cfg host)
    (guard : orderly → 0 < (host.data c).quitStrMatch → (host.data c).atMode ≠ .atCommandMode)
    (ran : rawSendScheduled cfg env c host = some after) :
    ∃ inner, Processed cfg orderly c (host.setCurrentCtx (some c)) inner ∧
      after = inner.setCurrentCtx none := by
  unfold rawSendScheduled at ran
  dsimp only at ran
  have wellFormedServed : AllWellFormed cfg (host.setCurrentCtx (some c)) :=
    wellFormed
  have current : smAtHostGetCurrent cfg (host.setCurrentCtx (some c)) =
      some c := smAtHostGetCurrent_of_current rfl
  rw [← Host.data_setCurrentCtx host (some c) c] at guard
  generalize host.setCurrentCtx (some c) = served at ran wellFormedServed current guard ⊢
  by_cases pending : 0 < (served.data c).quitStrMatch
  · rw [if_pos pending] at ran
    cases write : writeDataBuf cfg env
        (cfg.terminator.take (served.data c).quitStrMatch.toNat) served with
    | none => simp [write] at ran
    | some written =>
      simp only [write, map_some] at ran
      obtain ⟨inner, flushed, equality⟩ :=
        map_eq_some_iff.mp ran
      have stored : Processed cfg orderly c served written := by
        refine writeDataBuf_processed wellFormedServed (partialMatch_nonempty served pending)
          (partialMatch_short served) (fun isOrderly e isServed => ?_) write
        have same : c = e :=
          Option.some.inj (current.symm.trans isServed)
        subst same
        exact guard isOrderly pending
      refine ⟨inner, (stored.trans ?_).trans (rawSend_processed flushed), equality.symm⟩
      exact Processed.setQuitStrMatch 0 fun _ => .inr rfl
  · rw [if_neg pending] at ran
    obtain ⟨inner, flushed, equality⟩ := map_eq_some_iff.mp ran
    exact ⟨inner, rawSend_processed flushed, equality.symm⟩

/-! ## The own byte -/

def Session.receive (record : Session) (byte : Byte) : Session :=
  { record with
    received := record.received ++ [byte]
    dropped := record.dropped.map (· ++ [byte]) }

inductive Evolves (cfg : Config) (orderly live : Prop) :
    DataState × Session → DataState × Session → Prop
  | moves {before after : DataState × Session} :
      Relation.ReflTransGen (Move cfg orderly live) before after →
      Evolves cfg orderly live before after
  | receive {data : DataState} {record : Session} {after : DataState × Session} (byte : Byte) :
      data.atMode ≠ .nullMode →
      Relation.ReflTransGen (Move cfg orderly live) (data, record.receive byte) after →
      Evolves cfg orderly live (data, record) after
  | discard {data : DataState} {record : Session} (byte : Byte) : live → data.atMode = .nullMode →
      Evolves cfg orderly live (data, record) (data.discard cfg byte, record.receive byte)

/-- An invariant of single contexts is kept by the three kinds of evolution. -/
theorem Evolves.invariant {live : Prop} {motive : DataState × Session → Prop}
    {before after : DataState × Session}
    (evolves : Evolves cfg orderly live before after)
    (holds : motive before)
    (moved : ∀ first second, Move cfg orderly live first second → motive first → motive second)
    (received : ∀ data record byte, data.atMode ≠ .nullMode → motive (data, record) →
      motive (data, record.receive byte))
    (discarded : ∀ data record byte, live → data.atMode = .nullMode → motive (data, record) →
      motive (data.discard cfg byte, record.receive byte)) :
    motive after := by
  have movedAll : ∀ {first second}, Relation.ReflTransGen (Move cfg orderly live) first second →
      motive first → motive second := by
    intro first second moves start
    induction moves with
    | refl => exact start
    | tail _ move ih =>
      exact moved _ _ move ih
  cases evolves with
  | moves moves => exact movedAll moves holds
  | receive byte notNull moves =>
    exact movedAll moves (received _ _ byte notNull holds)
  | discard byte isLive mode => exact discarded _ _ byte isLive mode holds

theorem setInactivityTimer_undisturbed (c : CtxId) (active : Bool) (host : Host) :
    Undisturbed cfg host (setInactivityTimer c active host) := by
  unfold setInactivityTimer
  exact Undisturbed.setCtx host rfl rfl

theorem startInactivityTimer_undisturbed (c : CtxId) (host : Host) :
    Undisturbed cfg host (startInactivityTimer c host) := by
  unfold startInactivityTimer
  split
  · exact setInactivityTimer_undisturbed c true host
  · exact Undisturbed.refl host

theorem takeByte_data (byte : Byte) (host : Host) (d : CtxId) :
    (takeByte c byte host).data d = host.data d := by
  rw [takeByte, Host.data_record]
  apply host.data_setCtx_of_eq
  rfl

theorem takeByte_view_self (byte : Byte) (host : Host) : view c (takeByte c byte host) =
      (host.data c, (session c host.history).receive byte) := by
  have record : session c (takeByte c byte host).history =
      (session c host.history).receive byte := by
    simp [takeByte, setInactivityTimer, Host.setCtx, Session.next, Session.receive]
  rw [view, takeByte_data, record]

theorem takeByte_view_of_ne {d : CtxId} (byte : Byte) (host : Host) (different : d ≠ c) :
    view d (takeByte c byte host) = view d host := by
  have record : session d (takeByte c byte host).history = session d host.history := by
    simp [takeByte, setInactivityTimer, Host.setCtx, Session.next, Ne.symm different]
  rw [view, takeByte_data, record, view]

theorem takeByte_frame (c : CtxId) (byte : Byte) (host : Host) :
    Frame host (takeByte c byte host) := by
  unfold takeByte setInactivityTimer
  refine Frame.trans ?_ (Frame.record _ _)
  exact Frame.setCtx host rfl

/-- The state in which `sm_at_receive` handles a byte is as well formed as the
one in which the byte arrived. -/
theorem takeByte_wellFormed (wellFormed : AllWellFormed cfg host) :
    AllWellFormed cfg (takeByte c byte host) := by
  intro d
  have same := takeByte_data (c := c) byte host d
  have old := wellFormed d
  refine ⟨?_, ?_, ?_⟩
  · simpa only [view, same] using old.ring
  · simpa only [view, same, (takeByte_frame c byte host).instanceList] using old.left
  · simpa only [view, same] using old.counters

theorem handleByte_cases (orderly : Prop) (wellFormed : AllWellFormed cfg host)
    (guard : orderly → (host.data c).atMode = .dataMode → OrderlyByte cfg env c byte host)
    (ran : handleByte cfg env c byte host = some after) :
    ((host.data c).atMode = .atCommandMode ∧ Commanded cfg host after) ∨
      ((host.data c).atMode = .dataMode ∧ rawRxHandler cfg env c byte host = some after ∧
        Processed cfg orderly c host after) ∨
      (c ∈ host.instanceList ∧ (host.data c).atMode = .nullMode ∧
        Settled cfg c ((host.data c).discard cfg byte) host after) ∨
      (c ∉ host.instanceList ∧ after = host) := by
  unfold handleByte getSmMode at ran
  by_cases live : smAtCtxCheck c host = true
  · have isLive : c ∈ host.instanceList := by
      simpa [smAtCtxCheck] using live
    rw [if_pos live] at ran
    cases mode : (host.data c).atMode with
    | atCommandMode =>
      simp only [mode] at ran
      exact .inl ⟨rfl, cmdRxHandler_commanded cfg env ran⟩
    | dataMode =>
      simp only [mode] at ran
      exact .inr (.inl ⟨rfl, ran, rawRxHandler_processed wellFormed
        mode (fun isOrderly => guard isOrderly mode) ran⟩)
    | nullMode =>
      simp only [mode] at ran
      cases ran
      exact .inr (.inr (.inl ⟨isLive, rfl, nullHandler_settled isLive mode⟩))
  · rw [if_neg live] at ran
    cases ran
    exact .inr (.inr (.inr ⟨by simpa [smAtCtxCheck] using live, rfl⟩))

theorem handleByte_frame (wellFormed : AllWellFormed cfg host)
    (ran : handleByte cfg env c byte host = some after) :
    Frame host after ∧ Appends NotReceived host after := by
  rcases handleByte_cases False wellFormed (fun impossible =>
      impossible.elim) ran with
    ⟨_, commanded⟩ | ⟨_, _, processed⟩ | ⟨_, _, settled⟩ | ⟨_, rfl⟩
  · exact ⟨commanded.frame, commanded.notReceived⟩
  · exact ⟨processed.frame, processed.internal.mono fun _ => Internal.notReceived⟩
  · exact ⟨settled.frame, settled.internal.mono fun _ => Internal.notReceived⟩
  · exact ⟨Frame.refl _, Appends.refl _⟩

theorem smAtReceive_frame (wellFormed : AllWellFormed cfg host)
    (ran : smAtReceive cfg env c byte host = some after) :
    Frame host after := by
  obtain ⟨handled, handling, rfl⟩ := map_eq_some_iff.mp ran
  have started : Undisturbed cfg handled (startInactivityTimer c handled) :=
    startInactivityTimer_undisturbed c handled
  exact (takeByte_frame c byte host).trans
    ((handleByte_frame (takeByte_wellFormed wellFormed) handling).1.trans started.frame)

theorem smAtReceive_evolves (orderly : Prop) (wellFormed : AllWellFormed cfg host)
    (guard : orderly → (host.data c).atMode = .dataMode →
      OrderlyByte cfg env c byte (takeByte c byte host))
    (ran : smAtReceive cfg env c byte host = some after) (d : CtxId) :
    Evolves cfg orderly (d ∈ host.instanceList) (view d host) (view d after) := by
  obtain ⟨handled, handling, equality⟩ := map_eq_some_iff.mp ran
  have started : Undisturbed cfg handled after := by
    rw [← equality]
    exact startInactivityTimer_undisturbed c handled
  have sameList := (takeByte_frame c byte host).instanceList
  have sameMode : ((takeByte c byte host).data c).atMode =
      (host.data c).atMode := by rw [takeByte_data]
  rw [started.view_eq d]
  -- All modes but null mode make moves from the state with the byte.
  have byMoves : (host.data c).atMode ≠ .nullMode →
      Moves cfg orderly d (takeByte c byte host) handled →
      Evolves cfg orderly (d ∈ host.instanceList) (view d host) (view d handled) := by
    intro notNull moves
    unfold Moves at moves
    rw [sameList] at moves
    by_cases same : d = c
    · subst same
      rw [takeByte_view_self] at moves
      exact Evolves.receive byte notNull moves
    · rw [takeByte_view_of_ne byte host same] at moves
      exact Evolves.moves moves
  rcases handleByte_cases orderly (takeByte_wellFormed wellFormed)
      (fun isOrderly mode => guard isOrderly (sameMode.symm.trans mode))
      handling with
    ⟨mode, commanded⟩ | ⟨mode, _, processed⟩ | ⟨live, mode, settled⟩ | ⟨unknown, rfl⟩
  · refine byMoves (by simp [← sameMode, mode]) ?_
    exact Relation.ReflTransGen.mono (fun _ _ => Move.entry) _ _ (commanded.entries d)
  · exact byMoves (by simp [← sameMode, mode]) (processed.moves d)
  · by_cases same : d = c
    · subst same
      have own : view d handled = ((host.data d).discard cfg byte,
          (session d host.history).receive byte) := by
        have record := congrArg Prod.snd (takeByte_view_self (c := d) byte host)
        rw [view, settled.data, settled.sessions d, takeByte_data]
        exact congrArg (Prod.mk _) record
      rw [own]
      exact Evolves.discard byte (sameList ▸ live) (sameMode ▸ mode)
    · have other : view d handled = view d host := by
        rw [view, settled.others d same, settled.sessions d]
        exact takeByte_view_of_ne byte host same
      rw [other]
      exact Evolves.moves Relation.ReflTransGen.refl
  · refine byMoves ?_ Relation.ReflTransGen.refl
    intro mode
    rw [sameList] at unknown
    exact unknown ((wellFormed c).left (by simp [view, mode])).1

theorem rawSendScheduled_frame (wellFormed : AllWellFormed cfg host)
    (ran : rawSendScheduled cfg env c host = some after) :
    Frame host after := by
  obtain ⟨inner, processed, rfl⟩ := rawSendScheduled_processed False
    wellFormed (fun impossible => impossible.elim) ran
  exact ((Frame.setCurrentCtx host _).trans processed.frame).trans (Frame.setCurrentCtx inner _)

end Receive

/-! ## Steps -/

section Steps

variable (cfg : Config) {env : Environment} {orderly : Prop}

theorem idleWork_quiet (c : CtxId) (host : Host) : Frame host (idleWork cfg c host) ∧
      Appends Quiet host (idleWork cfg c host) ∧
      ∀ d, view d (idleWork cfg c host) = view d host := by
  have flushed : Undisturbed cfg (host.setCurrentCtx (some c))
      (flushPipeUrcs cfg c (host.setCurrentCtx (some c))) :=
    flushPipeUrcs_undisturbed c _
  refine ⟨?_, flushed.quiet, fun d => flushed.view_eq d⟩
  exact ((Frame.setCurrentCtx host _).trans flushed.frame).trans (Frame.setCurrentCtx _ _)

theorem handleMessage_quiet (message : Message) (host : Host) :
    Frame host (handleMessage cfg message host) ∧
      Appends Quiet host (handleMessage cfg message host) ∧
      ∀ d, view d (handleMessage cfg message host) = view d host := by
  unfold handleMessage
  split
  · split
    · split
      · exact idleWork_quiet cfg _ host
      · have checked : ∀ c, Undisturbed cfg host (checkIdleTimer c false host) :=
          fun c => checkIdleTimer_undisturbed c _ _
        exact ⟨(checked _).frame, (checked _).quiet, fun d => (checked _).view_eq d⟩
    · exact ⟨Frame.refl host, Appends.refl host, fun _ => rfl⟩
  · exact ⟨Frame.refl host, Appends.refl host, fun _ => rfl⟩

theorem smAtHostWorkFn_quiet (host : Host) : Frame host (smAtHostWorkFn cfg host) ∧
      Appends Quiet host (smAtHostWorkFn cfg host) ∧
      ∀ d, view d (smAtHostWorkFn cfg host) = view d host := by
  have folded : ∀ (messages : List Message) (state : Host), Frame state (messages.foldl
          (fun current message => handleMessage cfg message current) state) ∧
        Appends Quiet state (messages.foldl
          (fun current message => handleMessage cfg message current) state) ∧
        ∀ d, view d (messages.foldl
          (fun current message => handleMessage cfg message current) state) = view d state := by
    intro messages
    induction messages with
    | nil =>
      intro state
      exact ⟨Frame.refl state, Appends.refl state, fun _ => rfl⟩
    | cons message rest ih =>
      intro state
      obtain ⟨frame, quiet, same⟩ :=
        handleMessage_quiet cfg message state
      obtain ⟨frameRest, quietRest, sameRest⟩ :=
        ih (handleMessage cfg message state)
      exact ⟨frame.trans frameRest, quiet.trans quietRest, fun d => (sameRest d).trans (same d)⟩
  have emptied : Frame host { host with
      msgq := []
      msgqLog := host.msgqLog ++ host.msgq.map .taken } :=
    { Frame.refl host with }
  obtain ⟨frame, quiet, same⟩ := folded host.msgq { host with
    msgq := []
    msgqLog := host.msgqLog ++ host.msgq.map .taken }
  exact ⟨emptied.trans frame, quiet, same⟩

theorem submitWork_view (work : Work) (host : Host) (d : CtxId) :
    view d (submitWork work host) = view d host := by
  unfold submitWork
  split <;> rfl

theorem submitWork_history (work : Work) (host : Host) :
    (submitWork work host).history = host.history := by
  unfold submitWork
  split <;> rfl

theorem inactivityTimerHandler_view (c : CtxId) (host : Host) (d : CtxId) :
    view d (inactivityTimerHandler c host) = view d host := by
  unfold inactivityTimerHandler
  split
  · rfl
  · exact submitWork_view _ _ d

variable {cfg}

inductive Step (cfg : Config) (env : Environment) (host : Host) :
    Action → Host → Prop
  | pipeReceive (c : CtxId) (content : List Byte) (pipe : PipeId) : c ∈ host.instanceList →
      (host.ctx c).pipe = some pipe →
      Step cfg env host (.pipeReceive c content) (submitWork (.rx c)
          (setPipeRx pipe (host.pipeRx pipe ++ content) host))
  | inactivityExpiry (c : CtxId) : (host.ctx c).dataInactivityTimer = true →
      Step cfg env host (.inactivityExpiry c)
        (inactivityTimerHandler c (setInactivityTimer c false host))
  | idleExpiry (c : CtxId) : (host.ctx c).idleTimer = true →
      Step cfg env host (.idleExpiry c) (smAtHostEventNotify c .urc
          (host.setCtx c { host.ctx c with idleTimer := false }))
  | dispatch (work : Work) (rest : List Work) : host.running = .idle →
      host.workQueue = work :: rest →
      Step cfg env host .dispatch (enterWork cfg work { host with workQueue := rest })
  | receiveByte (c : CtxId) (pipe : PipeId) (byte : Byte) (rest : List Byte) (handled : Host) :
      host.running = .rx c pipe →
      host.pipeRx pipe = byte :: rest →
      smAtReceive cfg env c byte (setPipeRx pipe rest host) = some handled →
      Step cfg env host .receiveByte (continueRxWork c pipe handled)
  | receiveEnd (c : CtxId) (pipe : PipeId) : host.running = .rx c pipe →
      Step cfg env host .receiveEnd (leaveRxWork host)
  | flush (c : CtxId) (mark : Nat) (flushed : Host) : host.running = .rawSendScheduled c mark →
      rawSendScheduled cfg env c host = some flushed →
      Step cfg env host .flush { flushed with running := .idle }
  | exitDatamodeHandler (c : CtxId) (result : Int) : host.running = .idle →
      Step cfg env host (.exitDatamodeHandler c result) (exitDatamodeHandler cfg env c result host)
  | call (hostCall : HostCall) : host.running = .idle ∨ hostCall.fromAnyThread = true →
      Step cfg env host (.call hostCall) (performCall cfg hostCall host)

variable {action : Action} {host after : Host}

theorem step_cases (taken : step cfg env action host = some after) :
    Step cfg env host action after := by
  cases action with
  | pipeReceive c content =>
    simp only [step] at taken
    split at taken
    · rename_i live
      split at taken
      · cases taken
      · rename_i pipe isPipe
        cases taken
        exact Step.pipeReceive c content pipe (by simpa [smAtCtxCheck] using live) isPipe
    · cases taken
  | inactivityExpiry c =>
    simp only [step] at taken
    split at taken
    · rename_i active
      cases taken
      exact Step.inactivityExpiry c active
    · cases taken
  | idleExpiry c =>
    simp only [step] at taken
    split at taken
    · rename_i active
      cases taken
      exact Step.idleExpiry c active
    · cases taken
  | dispatch =>
    cases running : host.running with
    | idle =>
      simp only [step, running] at taken
      split at taken
      · cases taken
      · rename_i work rest queue
        cases taken
        have entered : Step cfg env host .dispatch _ :=
          Step.dispatch work rest running queue
        simpa only [running] using entered
    | rx c pipe | rawSendScheduled c mark => simp [step, running] at taken
  | receiveByte =>
    cases running : host.running with
    | idle => simp [step, running] at taken
    | rx c pipe =>
      simp only [step, running] at taken
      split at taken
      · cases taken
      · rename_i byte rest waiting
        obtain ⟨handled, received, rfl⟩ :=
          map_eq_some_iff.mp taken
        exact Step.receiveByte c pipe byte rest handled running waiting received
    | rawSendScheduled c mark => simp [step, running] at taken
  | receiveEnd =>
    cases running : host.running with
    | idle => simp [step, running] at taken
    | rx c pipe =>
      simp only [step, running] at taken
      cases taken
      exact Step.receiveEnd c pipe running
    | rawSendScheduled c mark => simp [step, running] at taken
  | flush =>
    cases running : host.running with
    | idle | rx c pipe => simp [step, running] at taken
    | rawSendScheduled c mark =>
      simp only [step, running] at taken
      obtain ⟨flushed, ran, rfl⟩ := map_eq_some_iff.mp taken
      exact Step.flush c mark flushed running ran
  | exitDatamodeHandler c result =>
    cases running : host.running with
    | idle =>
      simp only [step, running] at taken
      cases taken
      exact Step.exitDatamodeHandler c result running
    | rx c pipe | rawSendScheduled c mark => simp [step, running] at taken
  | call hostCall =>
    simp only [step] at taken
    split at taken
    · rename_i permitted
      cases taken
      exact Step.call hostCall permitted
    · cases taken

/-! ## What steps leave alone -/

theorem submitWork_sameWiring (work : Work) (host : Host) :
    SameWiring host (submitWork work host) := by
  unfold submitWork
  split
  · exact (Frame.refl host).sameWiring
  · exact ⟨fun _ => rfl, rfl, rfl, rfl, rfl, rfl⟩

/-- The entry of a work item: a receive item that is not turned away serves its
context from then on. -/
theorem enterRxWork_cases (c : CtxId) (host : Host) : enterRxWork c host = host ∨
      ∃ pipe, c ∈ host.instanceList ∧ (host.ctx c).pipe = some pipe ∧
        (host.ctx c).executingLock ≤ 0 ∧
        enterRxWork c host = { host.setCurrentCtx (some c) with running := .rx c pipe } := by
  unfold enterRxWork
  split
  · rename_i live
    split
    · exact .inl rfl
    · rename_i pipe isPipe
      split
      · exact .inl rfl
      · rename_i free
        exact .inr ⟨pipe, by simpa [smAtCtxCheck] using live, isPipe, by omega, rfl⟩
  · exact .inl rfl

theorem step_sameWiring (wellFormed : AllWellFormed cfg host)
    (taken : step cfg env action host = some after) :
    SameWiring host after := by
  cases step_cases taken with
  | pipeReceive d content p _ _ =>
    refine SameWiring.trans ?_ (submitWork_sameWiring _ _)
    exact ⟨fun _ => rfl, rfl, rfl, rfl, rfl, rfl⟩
  | inactivityExpiry d _ =>
    have stopped : Undisturbed cfg host (setInactivityTimer d false host) :=
      setInactivityTimer_undisturbed d false host
    refine stopped.frame.sameWiring.trans ?_
    unfold inactivityTimerHandler
    split
    · exact (Frame.refl _).sameWiring
    · exact submitWork_sameWiring _ _
  | idleExpiry d _ =>
    have expired : Undisturbed cfg host (host.setCtx d { host.ctx d with idleTimer := false }) :=
      Undisturbed.setCtx host rfl rfl
    exact (expired.trans (sendMsg_undisturbed (Message.event d .urc) _)).frame.sameWiring
  | dispatch work rest _ _ =>
    cases work with
    | rx d =>
      rcases enterRxWork_cases d { host with workQueue := rest } with
        same | ⟨p, _, _, _, entered⟩
      · rw [enterWork, same]
        exact ⟨fun _ => rfl, rfl, rfl, rfl, rfl, rfl⟩
      · rw [enterWork, entered]
        exact ⟨fun _ => rfl, rfl, rfl, rfl, rfl, rfl⟩
    | rawSendScheduled d mark =>
      exact ⟨fun _ => rfl, rfl, rfl, rfl, rfl, rfl⟩
    | atHost =>
      obtain ⟨frame, _, _⟩ :=
        smAtHostWorkFn_quiet cfg { host with workQueue := rest }
      exact ⟨frame.pipe, frame.instanceList, frame.cmuxStarted,
        frame.cmuxDlci, frame.urcChannel, frame.pipeOpen⟩
    | poll d => exact ⟨fun _ => rfl, rfl, rfl, rfl, rfl, rfl⟩
  | receiveByte d p byte rest handled isRunning waiting received =>
    have arrived : AllWellFormed cfg (setPipeRx p rest host) := wellFormed
    have frame := smAtReceive_frame arrived received
    unfold continueRxWork
    split
    · exact ⟨frame.pipe, frame.instanceList, frame.cmuxStarted,
        frame.cmuxDlci, frame.urcChannel, frame.pipeOpen⟩
    · exact ⟨frame.pipe, frame.instanceList, frame.cmuxStarted,
        frame.cmuxDlci, frame.urcChannel, frame.pipeOpen⟩
  | receiveEnd d p _ => exact ⟨fun _ => rfl, rfl, rfl, rfl, rfl, rfl⟩
  | flush d mark flushed _ ran =>
    have frame := rawSendScheduled_frame wellFormed ran
    exact ⟨frame.pipe, frame.instanceList, frame.cmuxStarted,
      frame.cmuxDlci, frame.urcChannel, frame.pipeOpen⟩
  | exitDatamodeHandler d result idle =>
    exact (exitDatamodeHandler_confined cfg env d result host).frame.sameWiring
  | call hostCall _ =>
    have called : Undisturbed cfg host (performCall cfg hostCall host) :=
      performCall_undisturbed hostCall host
    exact called.frame.sameWiring

theorem step_views (taken : step cfg env action host = some after) :
    (Appends Quiet host after ∧ ∀ d, view d after = view d host) ∨
      action = .receiveByte ∨ action = .flush ∨
      ∃ c result, action = .exitDatamodeHandler c result := by
  cases step_cases taken with
  | pipeReceive c content pipe _ _ =>
    exact .inl ⟨Appends.of_eq (submitWork_history _ _), submitWork_view _ _⟩
  | inactivityExpiry c _ =>
    have stopped : Undisturbed cfg host (setInactivityTimer c false host) :=
      setInactivityTimer_undisturbed c false host
    refine .inl ⟨Appends.of_eq ?_, fun d =>
      (inactivityTimerHandler_view c _ d).trans (stopped.view_eq d)⟩
    unfold inactivityTimerHandler
    split
    · rfl
    · exact submitWork_history _ _
  | idleExpiry c _ =>
    have expired : Undisturbed cfg host (host.setCtx c { host.ctx c with idleTimer := false }) :=
      Undisturbed.setCtx host rfl rfl
    have notified :=
      expired.trans (sendMsg_undisturbed (Message.event c .urc) _)
    exact .inl ⟨notified.quiet, fun d => notified.view_eq d⟩
  | dispatch work rest _ _ =>
    cases work with
    | rx c =>
      rcases enterRxWork_cases c { host with workQueue := rest } with
        turnedAway | ⟨pipe, _, _, _, entered⟩
      · rw [enterWork, turnedAway]
        exact .inl ⟨Appends.of_eq rfl, fun _ => rfl⟩
      · rw [enterWork, entered]
        exact .inl ⟨Appends.of_eq rfl, fun _ => rfl⟩
    | rawSendScheduled c mark =>
      exact .inl ⟨Appends.of_eq rfl, fun _ => rfl⟩
    | atHost =>
      exact .inl (smAtHostWorkFn_quiet cfg { host with workQueue := rest }).2
    | poll c => exact .inl ⟨Appends.of_eq rfl, fun _ => rfl⟩
  | receiveByte => exact .inr (.inl rfl)
  | receiveEnd c pipe _ => exact .inl ⟨Appends.of_eq rfl, fun _ => rfl⟩
  | flush => exact .inr (.inr (.inl rfl))
  | exitDatamodeHandler c result _ =>
    exact .inr (.inr (.inr ⟨c, result, rfl⟩))
  | call hostCall _ =>
    have called : Undisturbed cfg host (performCall cfg hostCall host) :=
      performCall_undisturbed hostCall host
    exact .inl ⟨called.quiet, fun d => called.view_eq d⟩

theorem continueRxWork_view (c : CtxId) (pipe : PipeId) (host : Host) (d : CtxId) :
    view d (continueRxWork c pipe host) = view d host := by
  unfold continueRxWork
  split <;> rfl

/-! ## One byte of a batch -/

def finishByte (c : CtxId) (pipe : PipeId) (handled : Host) : Host :=
  continueRxWork c pipe (startInactivityTimer c handled)

theorem finishByte_data (c : CtxId) (pipe : PipeId) (handled : Host)
    (d : CtxId) : (finishByte c pipe handled).data d = handled.data d := by
  have started : (startInactivityTimer c handled).data d = handled.data d := by
    unfold startInactivityTimer setInactivityTimer
    split
    · apply handled.data_setCtx_of_eq
      rfl
    · rfl
  unfold finishByte continueRxWork
  split
  · exact started
  · exact started

theorem startInactivityTimer_history (c : CtxId) (host : Host) :
    (startInactivityTimer c host).history = host.history := by
  unfold startInactivityTimer setInactivityTimer
  split <;> rfl

theorem finishByte_history (c : CtxId) (pipe : PipeId) (handled : Host) :
    (finishByte c pipe handled).history = handled.history := by
  unfold finishByte continueRxWork
  split
  · exact startInactivityTimer_history c handled
  · exact startInactivityTimer_history c handled

variable {c : CtxId} {pipe : PipeId} {byte : Byte}

theorem step_receiveByte {rest : List Byte} (live : c ∈ host.instanceList)
    (running : host.running = .rx c pipe)
    (waiting : host.pipeRx pipe = byte :: rest) :
    step cfg env .receiveByte host = (match (host.data c).atMode with
        | .atCommandMode => cmdRxHandler cfg env c byte (takeByte c byte (setPipeRx pipe rest host))
        | .dataMode => rawRxHandler cfg env c byte (takeByte c byte (setPipeRx pipe rest host))
        | .nullMode => some (nullHandler cfg env c byte
            (takeByte c byte (setPipeRx pipe rest host)))).map
        (finishByte c pipe) := by
  have found : smAtCtxCheck c (takeByte c byte (setPipeRx pipe rest host)) = true := by
    rw [smAtCtxCheck, (takeByte_frame c byte _).instanceList]
    simpa [setPipeRx] using live
  have mode : (takeByte c byte (setPipeRx pipe rest host)).data c =
      host.data c := takeByte_data byte _ c
  simp only [step, running, waiting, smAtReceive, handleByte, getSmMode,
    found, mode, if_true, Option.map_map]
  cases (host.data c).atMode <;> rfl

/-- A byte that is received in data mode is an orderly one. -/
def OrderlyStep (cfg : Config) (env : Environment) (host : Host) (action : Action) :
    Prop :=
  action = .receiveByte → ∀ c pipe byte rest, host.running = .rx c pipe →
      host.pipeRx pipe = byte :: rest →
      (host.data c).atMode = .dataMode →
      OrderlyByte cfg env c byte (takeByte c byte (setPipeRx pipe rest host))

theorem step_evolves (orderly : Prop) (wellFormed : AllWellFormed cfg host)
    (byteGuard : orderly → OrderlyStep cfg env host action)
    (flushGuard : orderly → ∀ c, 0 < (host.data c).quitStrMatch →
      (host.data c).atMode ≠ .atCommandMode)
    (taken : step cfg env action host = some after) (d : CtxId) :
    Evolves cfg orderly (d ∈ host.instanceList) (view d host) (view d after) := by
  have quiet : view d after = view d host → Evolves cfg orderly (d ∈ host.instanceList)
        (view d host) (view d after) := by
    intro same
    rw [same]
    exact Evolves.moves Relation.ReflTransGen.refl
  rcases step_views taken with ⟨_, same⟩ | rfl | rfl | ⟨c, result, rfl⟩
  · exact quiet (same d)
  · cases step_cases taken with
    | receiveByte c pipe byte rest handled running waiting received =>
      have arrived : AllWellFormed cfg (setPipeRx pipe rest host) :=
        wellFormed
      rw [continueRxWork_view]
      exact smAtReceive_evolves orderly arrived
        (fun isOrderly mode => byteGuard isOrderly rfl c pipe byte rest
          running waiting mode) received d
  · cases step_cases taken with
    | flush c mark flushed _ ran =>
      obtain ⟨inner, processed, rfl⟩ :=
        rawSendScheduled_processed orderly wellFormed (fun isOrderly => flushGuard isOrderly c) ran
      exact Evolves.moves (processed.moves d)
  · cases step_cases taken with
    | exitDatamodeHandler c result _ =>
      rcases exitDatamodeHandler_spec cfg env c result host with
        unchanged | ⟨confined, moved, _⟩
      · exact quiet (by rw [unchanged])
      · exact Evolves.moves (confined.moves (fun _ => .inl moved.left) d)

/-! ## Reachable states -/

theorem DataState.discard_wellFormed {live : Prop} {data : DataState}
    {record later : Session} (mode : data.atMode = .nullMode)
    (wellFormed : WellFormed cfg live (data, record)) :
    WellFormed cfg live (data.discard cfg byte, later) := by
  have sized := wellFormed.left (by simp [mode])
  unfold DataState.discard
  split
  · split
    · refine ⟨wellFormed.ring, ?_, fun _ => ⟨rfl, rfl⟩⟩
      intro left
      exact absurd rfl left
    · refine ⟨wellFormed.ring, fun _ => sized, ?_⟩
      intro notNull
      exact absurd mode notNull
  · refine ⟨wellFormed.ring, fun _ => sized, ?_⟩
    intro notNull
    exact absurd mode notNull

theorem Evolves.wellFormed {live : Prop} {before after : DataState × Session}
    (evolves : Evolves cfg orderly live before after)
    (wellFormed : WellFormed cfg live before) :
    WellFormed cfg live after := by
  refine evolves.invariant wellFormed ?_ ?_ ?_
  · intro first second move holds
    exact move.wellFormed holds
  · intro data record byte _ holds
    exact ⟨holds.ring, holds.left, holds.counters⟩
  · intro data record byte _ mode holds
    exact DataState.discard_wellFormed mode holds

theorem Initial.data_eq (initial : Initial host) (d : CtxId) :
    host.data d = (Ctx.init none).data := by
  obtain ⟨pipe, equality⟩ := initial.ctx d
  rw [Host.data, equality]
  rfl

theorem Initial.view_eq (initial : Initial host) (d : CtxId) :
    view d host = ((Ctx.init none).data, Session.start) := by
  rw [view, initial.data_eq d, initial.history]
  rfl

theorem Initial.wellFormed (initial : Initial host) : AllWellFormed cfg host := by
  intro d
  rw [initial.view_eq d]
  refine ⟨.inl rfl, ?_, fun _ => ⟨rfl, rfl⟩⟩
  intro left
  exact absurd rfl left

theorem step_wellFormed (wellFormed : AllWellFormed cfg host)
    (taken : step cfg env action host = some after) :
    AllWellFormed cfg after := by
  intro d
  rw [(step_sameWiring wellFormed taken).instanceList]
  exact (step_evolves False wellFormed (fun impossible => impossible.elim)
    (fun impossible => impossible.elim) taken d).wellFormed (wellFormed d)

variable {allowed : Host → Action → Prop}

theorem reachable_wellFormed (reachable : ReachableIf cfg env allowed host) :
    AllWellFormed cfg host := by
  refine reachable.invariant (fun _ initial => initial.wellFormed) ?_
  intro state action after wellFormed _ taken
  exact step_wellFormed wellFormed taken

/-- A property of single contexts that holds at the start and that every
evolution keeps holds in every reachable state. -/
theorem reachable_views {motive : Prop → DataState × Session → Prop}
    (initially : ∀ live, motive live ((Ctx.init none).data, Session.start))
    (evolved : ∀ live before after,
      Evolves cfg False live before after → WellFormed cfg live before →
      motive live before → motive live after)
    (reachable : ReachableIf cfg env allowed host) (d : CtxId) :
    motive (d ∈ host.instanceList) (view d host) := by
  induction reachable with
  | start initial =>
    rw [Initial.view_eq initial d]
    exact initially _
  | next action before _ taken ih =>
    have wellFormed := reachable_wellFormed before
    rw [(step_sameWiring wellFormed taken).instanceList]
    exact evolved _ _ _ (step_evolves False wellFormed (fun impossible => impossible.elim)
      (fun impossible => impossible.elim) taken d) (wellFormed d)
      ih

/-! ## Which work item runs -/

theorem step_rx (wellFormed : AllWellFormed cfg host)
    (taken : step cfg env action host = some after)
    (running : after.running = .rx c pipe) :
    host.running = .rx c pipe ∨ (action = .dispatch ∧ c ∈ host.instanceList ∧
        (host.ctx c).pipe = some pipe ∧ (host.ctx c).executingLock ≤ 0 ∧
        ∃ rest, after =
          { { host with workQueue := rest }.setCurrentCtx (some c) with
            running := .rx c pipe }) := by
  cases step_cases taken with
  | pipeReceive d content p _ _ =>
    left
    rw [← running]
    unfold submitWork
    split <;> rfl
  | inactivityExpiry d _ =>
    left
    rw [← running]
    unfold inactivityTimerHandler submitWork
    split
    · rfl
    · split <;> rfl
  | idleExpiry d _ =>
    left
    rw [← running]
    have notified : Undisturbed cfg (host.setCtx d { host.ctx d with idleTimer := false }) _ :=
      sendMsg_undisturbed (Message.event d .urc) _
    exact notified.frame.running.symm
  | dispatch work rest idle _ =>
    cases work with
    | rx d =>
      rcases enterRxWork_cases d { host with workQueue := rest } with
        same | ⟨p, live, isPipe, free, entered⟩
      · have stays : (enterRxWork d { host with workQueue := rest }).running = .idle := by
          rw [same]
          exact idle
        rw [enterWork, stays] at running
        cases running
      · rw [enterWork, entered] at running
        cases running
        right
        exact ⟨rfl, live, isPipe, free, rest, entered⟩
    | rawSendScheduled d mark => cases running
    | atHost =>
      obtain ⟨frame, _, _⟩ :=
        smAtHostWorkFn_quiet cfg { host with workQueue := rest }
      have stays := frame.running
      rw [enterWork, stays] at running
      exact absurd (idle.symm.trans running) (by simp)
    | poll d => exact absurd (idle.symm.trans running) (by simp)
  | receiveByte d p byte rest handled isRunning waiting received =>
    left
    have arrived : AllWellFormed cfg (setPipeRx p rest host) := wellFormed
    have frame := smAtReceive_frame arrived received
    have stays : handled.running = .rx d p :=
      frame.running.trans isRunning
    unfold continueRxWork at running
    split at running
    · rw [isRunning, ← stays, running]
    · cases running
  | receiveEnd d p _ | flush d mark flushed _ _ => cases running
  | exitDatamodeHandler d result idle =>
    have stays := (exitDatamodeHandler_confined cfg env d result host).frame.running
    rw [stays, idle] at running
    cases running
  | call hostCall _ =>
    left
    have called : Undisturbed cfg host (performCall cfg hostCall host) :=
      performCall_undisturbed hostCall host
    rw [← running, called.frame.running]

theorem step_current (running : host.running = .rx c pipe) (other : action ≠ .receiveByte)
    (taken : step cfg env action host = some after)
    (stillRunning : after.running = .rx c pipe) :
    after.currentCtx = host.currentCtx := by
  cases step_cases taken with
  | pipeReceive d content p _ _ =>
    unfold submitWork
    split <;> rfl
  | inactivityExpiry d _ =>
    unfold inactivityTimerHandler submitWork
    split
    · rfl
    · split <;> rfl
  | idleExpiry d _ =>
    have notified : Undisturbed cfg (host.setCtx d { host.ctx d with idleTimer := false }) _ :=
      sendMsg_undisturbed (Message.event d .urc) _
    exact notified.current
  | dispatch work rest idle _ =>
    rw [running] at idle
    cases idle
  | receiveByte => exact absurd rfl other
  | receiveEnd d p _ | flush d mark flushed _ _ => cases stillRunning
  | exitDatamodeHandler d result idle =>
    rw [running] at idle
    cases idle
  | call hostCall _ =>
    have called : Undisturbed cfg host (performCall cfg hostCall host) :=
      performCall_undisturbed hostCall host
    exact called.current

theorem step_receiveByte_dataMode {handled : Host} {rest : List Byte}
    (wellFormed : AllWellFormed cfg host)
    (isPipe : (host.ctx c).pipe = some pipe)
    (running : host.running = .rx c pipe)
    (waiting : host.pipeRx pipe = byte :: rest)
    (mode : (host.data c).atMode = .dataMode)
    (ran : rawRxHandler cfg env c byte
      (takeByte c byte (setPipeRx pipe rest host)) = some handled) :
    ∃ after, step cfg env .receiveByte host = some after ∧
      after.running = .rx c pipe ∧ after.pipeRx pipe = rest ∧
      after.currentCtx = handled.currentCtx ∧
      after.history = handled.history ∧
      ∀ d, after.data d = handled.data d := by
  have live := ((wellFormed c).left (by simp [view, mode])).1
  have arrived : AllWellFormed cfg (takeByte c byte (setPipeRx pipe rest host)) :=
    takeByte_wellFormed (wellFormed : AllWellFormed cfg (setPipeRx pipe rest host))
  have processed : Processed cfg False c _ handled :=
    rawRxHandler_processed arrived (by rw [takeByte_data]; exact mode)
      (fun impossible => impossible.elim) ran
  have frame : Frame (setPipeRx pipe rest host) handled :=
    (takeByte_frame c byte _).trans processed.frame
  have started : Undisturbed cfg handled (startInactivityTimer c handled) :=
    startInactivityTimer_undisturbed c handled
  have whole : finishByte c pipe handled = startInactivityTimer c handled := by
    unfold finishByte continueRxWork
    rw [if_pos]
    rw [started.frame.pipe c, frame.pipe c]
    exact isPipe
  refine ⟨finishByte c pipe handled, ?_, ?_, ?_, ?_,
    finishByte_history c pipe handled, finishByte_data c pipe handled⟩
  · rw [step_receiveByte live running waiting, mode]
    simp only [ran, map_some]
  · rw [whole, started.frame.running, frame.running]
    exact running
  · rw [whole, started.frame.pipeRx, frame.pipeRx]
    simp [setPipeRx]
  · rw [whole, started.current]

theorem step_receiveByte_workQueue (wellFormed : AllWellFormed cfg host)
    (taken : step cfg env .receiveByte host = some after) :
    ∃ added, after.workQueue = host.workQueue ++ added ∧ ∀ work, work ∈ added → NotFlush work := by
  cases step_cases taken with
  | receiveByte c pipe byte rest received running waiting ran =>
    have offered : AllWellFormed cfg (setPipeRx pipe rest host) := wellFormed
    have frame := smAtReceive_frame offered ran
    unfold continueRxWork
    split
    · exact frame.workQueue
    · exact frame.workQueue

theorem step_receiveByte_timer (wellFormed : AllWellFormed cfg host)
    (live : c ∈ host.instanceList) (running : host.running = .rx c pipe)
    (taken : step cfg env .receiveByte host = some after)
    (mode : (after.data c).atMode = .dataMode) :
    (after.ctx c).dataInactivityTimer = true := by
  cases step_cases taken with
  | receiveByte d p byte rest received isRunning waiting ran =>
    rw [running] at isRunning
    cases isRunning
    have offered : AllWellFormed cfg (setPipeRx pipe rest host) := wellFormed
    have frame := smAtReceive_frame offered ran
    obtain ⟨handled, _, rfl⟩ := map_eq_some_iff.mp ran
    have started : Undisturbed cfg handled (startInactivityTimer c handled) :=
      startInactivityTimer_undisturbed c handled
    have sameMode : (handled.data c).atMode = .dataMode := by
      have same := congrArg (fun own => own.1.atMode)
        ((continueRxWork_view c pipe (startInactivityTimer c handled) c).trans (started.view_eq c))
      exact same.symm.trans mode
    have stillLive : c ∈ handled.instanceList := by
      rw [← started.frame.instanceList, frame.instanceList]
      exact live
    have isData : getSmMode c handled = some .dataMode := by
      rw [getSmMode, if_pos (by simpa [smAtCtxCheck] using stillLive), sameMode]
    have sameCtx : (continueRxWork c pipe (startInactivityTimer c handled)).ctx =
          (startInactivityTimer c handled).ctx := by
      unfold continueRxWork
      split <;> rfl
    rw [sameCtx, startInactivityTimer, if_pos isData]
    simp [setInactivityTimer, Host.setCtx]

def RxWired (host : Host) : Prop :=
  ∀ c pipe, host.running = .rx c pipe → c ∈ host.instanceList ∧ (host.ctx c).pipe = some pipe

theorem step_rxWired (wellFormed : AllWellFormed cfg host)
    (wired : RxWired host) (taken : step cfg env action host = some after) : RxWired after := by
  intro c pipe running
  have same := step_sameWiring wellFormed taken
  rw [same.instanceList, same.pipe c]
  rcases step_rx wellFormed taken running with
    already | ⟨_, live, isPipe, _, _⟩
  · exact wired c pipe already
  · exact ⟨live, isPipe⟩

theorem reachable_rx (reachable : ReachableIf cfg env allowed host) : RxWired host := by
  induction reachable with
  | start initial =>
    intro c pipe running
    rw [initial.running] at running
    cases running
  | next action before _ taken ih =>
    exact step_rxWired (reachable_wellFormed before) ih taken

end Steps

end SerialModem.AtHost
