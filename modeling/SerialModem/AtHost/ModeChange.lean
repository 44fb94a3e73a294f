import SerialModem.AtHost.Delivery

/-!
# Entering and leaving data mode

`exit_datamode` brings the data-mode part of its context back to what it was
before data mode.  The other direction is taken by AT commands only: whatever a
command does to the data-mode part of a context is a sequence of `Entry` steps.
-/

namespace SerialModem.AtHost

open Library Option

/-- What `exit_datamode` leaves of the data-mode part. -/
def DataState.cleared (data : DataState) : DataState :=
  { data with
    atMode := .atCommandMode
    handler := none
    dataLen := 0
    quitStrMatch := 0
    dataRb := data.dataRb.reset
    handlerResult := 0 }

/-- The data-mode part of `c` has become `data`; sessions, modes of other
contexts and the served context are as before. -/
structure Settled (cfg : Config) (c : CtxId) (data : DataState)
    (before after : Host) : Prop where
  frame : Frame before after
  quiet : Appends Quiet before after
  data : after.data c = data
  others : ∀ d, d ≠ c → after.data d = before.data d
  current : after.currentCtx = before.currentCtx
  routed : Served cfg c before → Appends (Routed c) before after

namespace Settled

variable {cfg : Config} {c : CtxId}

variable {data : DataState}

theorem trans {first second third : Host} {middle : DataState}
    (left : Settled cfg c middle first second)
    (right : Settled cfg c data second third) :
    Settled cfg c data first third where
  frame := left.frame.trans right.frame
  quiet := left.quiet.trans right.quiet
  data := right.data
  others d different :=
    (right.others d different).trans (left.others d different)
  current := right.current.trans left.current
  routed served :=
    (left.routed served).trans (right.routed (served.of_frame left.frame left.current))

theorem setData (host : Host) (data : DataState) :
    Settled cfg c data host (host.setData c data) where
  frame := Frame.setData host c data
  quiet := Appends.of_eq rfl
  data := host.data_setData_self c data
  others _ different := host.data_setData_of_ne data different
  current := rfl
  routed _ := Appends.of_eq rfl

theorem internal {before after : Host} (settled : Settled cfg c data before after) :
    Appends Internal before after :=
  settled.quiet.mono fun _ quiet => quiet.internal

theorem sessions {before after : Host} (settled : Settled cfg c data before after) (d : CtxId) :
    session d after.history = session d before.history :=
  session_of_appends_neutral <| settled.quiet.mono fun _ quiet => quiet.neutral d

end Settled

section Exit

variable (cfg : Config) (env : Environment)

variable {c : CtxId} {host : Host}

theorem setSmMode_atCommandMode (live : c ∈ host.instanceList)
    (left : (host.data c).atMode ≠ .atCommandMode) :
    setSmMode cfg env c .atCommandMode host =
      some (host.setData c { host.data c with atMode := .atCommandMode }) := by
  have found : smAtCtxCheck c host = true := by
    simpa [smAtCtxCheck] using live
  cases mode : (host.data c).atMode with
  | atCommandMode => exact False.elim (left mode)
  | dataMode | nullMode => simp [setSmMode, found, mode]

theorem rspSend_answers (response : Response) (served : smAtHostGetCurrent cfg host = some c)
    (live : c ∈ host.instanceList) :
    ∃ events, (rspSend cfg response host).history =
        host.history ++ events ++ [.rspSend c response.truncated] := by
  have found : smAtCtxCheck c host = true := by
    simpa [smAtCtxCheck] using live
  have flushed : Undisturbed cfg host (flushIfIdle cfg c host) :=
    flushIfIdle_undisturbed c host
  obtain ⟨events, history, _⟩ := flushed.replies
  refine ⟨events, ?_⟩
  simp [rspSend, served, found, history]

theorem exitDatamode_spec (live : c ∈ host.instanceList)
    (left : (host.data c).atMode ≠ .atCommandMode) :
    Settled cfg c (host.data c).cleared host (exitDatamode cfg env c host) ∧
      (Served cfg c host → ∃ events later, (exitDatamode cfg env c host).history =
          host.history ++ events ++ [.rspSend c (.xdatamode
            (if (host.data c).handlerResult = 0 then 0 else -1))] ++ later) := by
  let switched :=
    host.setData c { host.data c with atMode := .atCommandMode }
  let exited := callHandlerExit cfg env c Flags.none switched
  let result : Int := if (host.data c).handlerResult = 0 then 0 else -1
  let reset := exited.setData c
    { exited.data c with
      handler := none
      dataLen := 0
      quitStrMatch := 0
      dataRb := (exited.data c).dataRb.reset
      handlerResult := result }
  let answered := rspSend cfg (.xdatamode result) reset
  let finished := answered.setData c { answered.data c with handlerResult := 0 }
  let notified := smAtHostEventNotify c .atMode finished
  obtain ⟨called, calledKept, calledData, calledQuiet⟩ :=
    callHandlerExit_spec cfg env c Flags.none switched
  have unfolded : exitDatamode cfg env c host = notified.record (.exitDatamode c) := by
    have sameResult : (exited.data c).handlerResult = (host.data c).handlerResult := by
      rw [calledData c]
      simp [switched]
    simp only [exitDatamode, setSmMode_atCommandMode cfg env live left]
    simp only [notified, finished, answered, reset, result, exited, switched] at sameResult ⊢
    rw [sameResult]
  have answeredUndisturbed : Undisturbed cfg reset answered :=
    rspSend_undisturbed _ _
  have notifiedUndisturbed : Undisturbed cfg finished notified :=
    sendMsg_undisturbed _ _
  have frameReset : Frame host reset :=
    (Frame.setData host c _).trans (called.frame.trans (Frame.setData exited c _))
  have frameAfter : Frame reset (notified.record (.exitDatamode c)) :=
    answeredUndisturbed.frame.trans ((Frame.setData answered c _).trans
        (notifiedUndisturbed.frame.trans (Frame.record notified _)))
  have currentReset : reset.currentCtx = host.currentCtx :=
    calledKept.current
  have currentFinished : finished.currentCtx = reset.currentCtx :=
    answeredUndisturbed.current
  refine ⟨⟨?_, ?_, ?_, ?_, ?_, ?_⟩, ?_⟩
  · rw [unfolded]
    exact frameReset.trans frameAfter
  · rw [unfolded]
    have left : Appends Quiet host reset := calledQuiet
    have right : Appends Quiet finished notified := notifiedUndisturbed.quiet
    exact (left.trans answeredUndisturbed.quiet).trans
      (right.trans (Appends.record notified trivial))
  · rw [unfolded, Host.data_record, notifiedUndisturbed.data c,
      Host.data_setData_self, answeredUndisturbed.data c,
      Host.data_setData_self, calledData c]
    simp [switched, DataState.cleared]
  · intro d different
    rw [unfolded, Host.data_record, notifiedUndisturbed.data d,
      Host.data_setData_of_ne _ _ different, answeredUndisturbed.data d,
      Host.data_setData_of_ne _ _ different, calledData d]
    exact host.data_setData_of_ne _ different
  · rw [unfolded]
    exact notifiedUndisturbed.current.trans (currentFinished.trans currentReset)
  · intro served
    have servedSwitched : Served cfg c switched :=
      served.of_frame (Frame.setData host c _) rfl
    have servedReset : Served cfg c reset :=
      served.of_frame frameReset currentReset
    have servedFinished : Served cfg c finished :=
      servedReset.of_frame (answeredUndisturbed.frame.trans (Frame.setData answered c _))
        currentFinished
    have first : Appends (Routed c) host reset :=
      (called.routed (.inr calledKept.exits) servedSwitched).1
    have second : Appends (Routed c) reset answered :=
      ((Confined.of_undisturbed c answeredUndisturbed).routed
        (.inr (Kept.of_undisturbed c answeredUndisturbed).exits)
        servedReset).1
    have third : Appends (Routed c) finished notified :=
      ((Confined.of_undisturbed c notifiedUndisturbed).routed
        (.inr (Kept.of_undisturbed c notifiedUndisturbed).exits)
        servedFinished).1
    rw [unfolded]
    exact (first.trans second).trans (third.trans (Appends.record notified trivial))
  · intro served
    have servedReset : Served cfg c reset :=
      served.of_frame frameReset currentReset
    obtain ⟨early, earlyHistory, _⟩ := called.internal
    obtain ⟨middle, answer⟩ :=
      rspSend_answers cfg (.xdatamode result) servedReset.getCurrent
        (frameReset.instanceList.symm ▸ live)
    obtain ⟨late, lateHistory, _⟩ := notifiedUndisturbed.replies
    refine ⟨early ++ middle, late ++ [.exitDatamode c], ?_⟩
    have resetHistory : reset.history = host.history ++ early := earlyHistory
    have finishedHistory : finished.history = host.history ++ early ++ middle ++
          [.rspSend c (.xdatamode result)] := by
      change answered.history = _
      rw [answer, resetHistory]
      simp [Response.truncated]
    rw [unfolded, Host.history_record, lateHistory, finishedHistory]
    simp [result]

theorem exitDatamode_refused (refused : ¬ (c ∈ host.instanceList ∧
      (host.data c).atMode ≠ .atCommandMode)) :
    exitDatamode cfg env c host = host := by
  by_cases live : c ∈ host.instanceList
  · have mode : (host.data c).atMode = .atCommandMode := by
      by_contra left
      exact refused ⟨live, left⟩
    simp [exitDatamode, setSmMode, mode]
  · simp [exitDatamode, setSmMode, smAtCtxCheck, live]

end Exit

/-- What the data-mode functions know of a context and what has happened to it. -/
def view (c : CtxId) (host : Host) : DataState × Session :=
  (host.data c, session c host.history)

/-- What is done to the served context is done to `c`, and the others stay as
they are. -/
structure ActsOn (c : CtxId) (before after : Host) : Prop where
  events : Appends (Routed c) before after
  others : ∀ d, d ≠ c → view d after = view d before

namespace ActsOn

theorem trans {c : CtxId} {first second third : Host}
    (left : ActsOn c first second) (right : ActsOn c second third) :
    ActsOn c first third :=
  ⟨left.events.trans right.events, fun d different =>
    (right.others d different).trans (left.others d different)⟩

theorem refl (c : CtxId) (host : Host) : ActsOn c host host :=
  ⟨Appends.refl host, fun _ _ => rfl⟩

theorem setData (host : Host) (c : CtxId) (data : DataState) :
    ActsOn c host (host.setData c data) := by
  refine ⟨Appends.of_eq rfl, fun d different => ?_⟩
  rw [view, Host.data_setData_of_ne _ _ different, Host.history_setData, view]

end ActsOn

theorem Settled.actsOn {cfg : Config} {c : CtxId} {data : DataState} {before after : Host}
    (settled : Settled cfg c data before after)
    (served : Served cfg c before) : ActsOn c before after := by
  refine ⟨settled.routed served, fun d different => ?_⟩
  rw [view, settled.others d different, settled.sessions d, view]

theorem Undisturbed.view_eq {cfg : Config} {before after : Host}
    (undisturbed : Undisturbed cfg before after)
    (d : CtxId) : view d after = view d before := by
  rw [view, undisturbed.data d, undisturbed.session d, view]

/-- What one action of a command does to a context: `AT#XDATACTRL` sets the
time limit, and `enter_datamode` succeeds on a live context in AT-command mode
without a handler. -/
inductive Entry (cfg : Config) (live : Prop) :
    DataState × Session → DataState × Session → Prop
  | timeLimit (data : DataState) (record : Session) (limit : UInt16) :
      Entry cfg live (data, record) ({ data with timeLimit := limit }, record)
  | enter (data : DataState) (record : Session) (ring : RingBuffer Byte)
      (handler : HandlerId) (dataLen : UInt32) (limit : UInt16) :
      live →
      data.atMode = .atCommandMode →
      data.handler = none →
      ring.content = [] →
      (ring.size = if data.dataRb.size = 0 then cfg.datamodeBufSize
        else data.dataRb.size) →
      Entry cfg live (data, record)
        ({ data with
            atMode := .dataMode
            dataRb := ring
            handler := some handler
            dataLen := dataLen
            timeLimit := limit },
          ⟨dataLen, [], [], none⟩)

structure Commanded (cfg : Config) (before after : Host) : Prop where
  frame : Frame before after
  notReceived : Appends NotReceived before after
  entries : ∀ d, Relation.ReflTransGen
    (Entry cfg (d ∈ before.instanceList)) (view d before) (view d after)
  current : after.currentCtx = before.currentCtx
  exits : ∀ d, handlerExits d after = handlerExits d before
  routed : ∀ c, Served cfg c before → ActsOn c before after

namespace Commanded

variable {cfg : Config}

theorem trans {first second third : Host} (left : Commanded cfg first second)
    (right : Commanded cfg second third) :
    Commanded cfg first third where
  frame := left.frame.trans right.frame
  notReceived := left.notReceived.trans right.notReceived
  entries d := by
    have later := right.entries d
    rw [left.frame.instanceList] at later
    exact (left.entries d).trans later
  current := right.current.trans left.current
  exits d := (right.exits d).trans (left.exits d)
  routed c served :=
    (left.routed c served).trans (right.routed c (served.of_frame left.frame left.current))

theorem of_undisturbed {before after : Host} (undisturbed : Undisturbed cfg before after) :
    Commanded cfg before after where
  frame := undisturbed.frame
  notReceived := undisturbed.internal.mono fun _ => Internal.notReceived
  entries d := by rw [undisturbed.view_eq d]
  current := undisturbed.current
  exits d := (Kept.of_undisturbed d undisturbed).exits
  routed c served := by
    refine ⟨?_, fun d _ => undisturbed.view_eq d⟩
    exact ((Confined.of_undisturbed c undisturbed).routed
      (.inr (Kept.of_undisturbed c undisturbed).exits) served).1

theorem refl (host : Host) : Commanded cfg host host :=
  of_undisturbed (Undisturbed.refl host)

theorem setCtx (host : Host) {c : CtxId} {ctx : Ctx} (samePipe : ctx.pipe = (host.ctx c).pipe)
    (sameData : ctx.data = host.data c) :
    Commanded cfg host (host.setCtx c ctx) :=
  of_undisturbed (Undisturbed.setCtx host samePipe sameData)

theorem setCommand (host : Host) (c : CtxId) (command : CommandState) :
    Commanded cfg host (host.setCommand c command) :=
  setCtx host rfl rfl

theorem record (host : Host) {event : Event} (notReceived : NotReceived event)
    (neutral : ∀ d, Neutral d event)
    (notExit : ∀ d, isHandlerExit d event = false)
    (routed : ∀ c, Routed c event) :
    Commanded cfg host (host.record event) where
  frame := Frame.record host event
  notReceived := Appends.record host notReceived
  entries d := by
    have same : view d (host.record event) = view d host := by
      simp [view, neutral d (session d host.history)]
    rw [same]
  current := rfl
  exits d := by simp [handlerExits, notExit d]
  routed c _ := by
    refine ⟨Appends.record host (routed c), fun d _ => ?_⟩
    simp [view, neutral d (session d host.history)]

end Commanded

section Commands

variable (cfg : Config) (env : Environment)

variable {c : CtxId} {host : Host}

theorem setSmMode_dataMode {switched : Host}
    (ran : setSmMode cfg env c .dataMode host = some switched) :
    c ∈ host.instanceList ∧ (host.data c).atMode = .atCommandMode ∧
      ∃ ring : RingBuffer Byte, (ring.size = if (host.data c).dataRb.size = 0
          then cfg.datamodeBufSize else (host.data c).dataRb.size) ∧
        switched = host.setData c { host.data c with atMode := .dataMode, dataRb := ring } := by
  by_cases live : c ∈ host.instanceList
  · have found : smAtCtxCheck c host = true := by
      simpa [smAtCtxCheck] using live
    cases mode : (host.data c).atMode with
    | dataMode | nullMode => simp [setSmMode, found, mode] at ran
    | atCommandMode =>
      refine ⟨live, rfl, ?_⟩
      by_cases noRing : (host.data c).dataRb.size = 0
      · simp only [setSmMode, found, mode, noRing, if_true, Bool.true_eq_false, if_false] at ran
        split at ran
        · cases ran
          exact ⟨RingBuffer.init cfg.datamodeBufSize, by simp [noRing],
            rfl⟩
        · cases ran
      · simp only [setSmMode, found, mode, noRing, Bool.true_eq_false, if_false] at ran
        cases ran
        exact ⟨(host.data c).dataRb, by simp [noRing], rfl⟩
  · simp [setSmMode, smAtCtxCheck, live] at ran

variable {after : Host}

theorem enterDatamode_commanded {handler : HandlerId} {dataLen : UInt32} {done : Bool}
    (ran : enterDatamode cfg env handler dataLen host = some (done, after)) :
    Commanded cfg host after := by
  unfold enterDatamode at ran
  cases served : smAtHostGetCurrent cfg host with
  | none => simp [served] at ran
  | some c =>
    simp only [served] at ran
    by_cases busy : (host.data c).handler.isSome
    · rw [if_pos busy] at ran
      cases ran
      exact Commanded.refl host
    · rw [if_neg busy] at ran
      cases switch : setSmMode cfg env c .dataMode host with
      | none =>
        rw [switch] at ran
        cases ran
        exact Commanded.refl host
      | some switched =>
        obtain ⟨live, mode, ring, size, equality⟩ :=
          setSmMode_dataMode cfg env switch
        have free : (host.data c).handler = none := by
          simpa using busy
        rw [switch] at ran
        dsimp only at ran
        generalize (if (switched.data c).timeLimit = 0 then
          getMinDataModeIdleTimeoutMs cfg switched
          else (switched.data c).timeLimit) = limit at ran
        subst equality
        rw [Host.data_setData_self, Host.setData_setData] at ran
        cases ran
        refine ⟨(Frame.setData host c _).trans (Frame.record _ _),
          Appends.record (host.setData c _) trivial, ?_, rfl, ?_, ?_⟩
        · intro d
          by_cases same : d = c
          · subst same
            apply Relation.ReflTransGen.single
            simp only [view, Host.data_record, Host.data_setData_self,
              Host.history_record, Host.history_setData,
              session_append_singleton, Session.next, if_true]
            exact Entry.enter _ _ ring.reset handler dataLen limit live mode free rfl size
          · simp only [view, Host.data_record,
              Host.data_setData_of_ne _ _ same, Host.history_record,
              Host.history_setData, session_append_singleton,
              Session.next, Ne.symm same, if_false]
            exact Relation.ReflTransGen.refl
        · intro d
          simp [handlerExits, isHandlerExit]
        · intro d servedHere
          have same : c = d :=
            Option.some.inj (served.symm.trans servedHere.getCurrent)
          subst same
          refine (ActsOn.setData host c _).trans ⟨Appends.record _ rfl, fun d different => ?_⟩
          simp [view, Session.next, Ne.symm different]

theorem performAction_commanded {action : CommandAction}
    (ran : performAction cfg env action host = some after) :
    Commanded cfg host after := by
  cases action with
  | call hostCall =>
    cases ran
    exact Commanded.of_undisturbed (performCall_undisturbed hostCall host)
  | enterDatamode handler dataLen =>
    obtain ⟨outcome, entered, rfl⟩ := map_eq_some_iff.mp ran
    exact enterDatamode_commanded cfg env entered
  | echo enable =>
    obtain ⟨c, _, rfl⟩ := map_eq_some_iff.mp ran
    exact (Commanded.setCommand host c _).trans (Commanded.setCtx _ rfl rfl)
  | datactrl limit =>
    obtain ⟨c, served, equality⟩ := map_eq_some_iff.mp ran
    split at equality
    · subst equality
      exact Commanded.refl host
    · subst equality
      refine ⟨Frame.setData host c _, Appends.of_eq rfl, ?_, rfl, fun _ => rfl, ?_⟩
      · intro d
        by_cases same : d = c
        · subst same
          apply Relation.ReflTransGen.single
          simp only [view, Host.data_setData_self, Host.history_setData]
          exact Entry.timeLimit _ _ limit
        · simp only [view, Host.data_setData_of_ne _ _ same, Host.history_setData]
          exact Relation.ReflTransGen.refl
      · intro d servedHere
        have same : c = d :=
          Option.some.inj (served.symm.trans servedHere.getCurrent)
        subst same
        exact ActsOn.setData host c _

theorem performActions_commanded (actions : List CommandAction) :
    ∀ {host after : Host}, performActions cfg env actions host = some after →
      Commanded cfg host after := by
  induction actions with
  | nil =>
    intro host after ran
    cases ran
    exact Commanded.refl host
  | cons action rest ih =>
    intro host after ran
    obtain ⟨middle, first, remaining⟩ := bind_eq_some_iff.mp ran
    exact (performAction_commanded cfg env first).trans (ih remaining)

theorem rspSend_commanded (response : Response) (host : Host) :
    Commanded cfg host (rspSend cfg response host) :=
  Commanded.of_undisturbed (rspSend_undisturbed response host)

theorem addExecutingLock_commanded (c : CtxId) (amount : Int) (host : Host) :
    Commanded cfg host (addExecutingLock c amount host) :=
  Commanded.of_undisturbed (addExecutingLock_undisturbed c amount host)

theorem handleBootloaderAtCmd_commanded {atCmd : List Byte}
    (ran : handleBootloaderAtCmd cfg env c atCmd host = some after) :
    Commanded cfg host after := by
  unfold handleBootloaderAtCmd at ran
  split at ran
  · obtain ⟨middle, actions, equality⟩ := map_eq_some_iff.mp ran
    refine (performActions_commanded cfg env _ actions).trans ?_
    subst equality
    split
    · exact rspSend_commanded cfg _ middle
    · exact rspSend_commanded cfg _ middle
  · split at ran
    · cases ran
      exact Commanded.of_undisturbed (Undisturbed.refl host)
    · cases ran
      exact rspSend_commanded cfg _ host

theorem cmdSend_commanded {line : List Byte} (ran : cmdSend cfg env c line host = some after) :
    Commanded cfg host after := by
  have called : Commanded cfg host (host.record (.cmdSend c line)) :=
    Commanded.record host trivial (fun _ _ => rfl) (fun _ => rfl) (fun _ => trivial)
  unfold cmdSend at ran
  dsimp only at ran
  split at ran
  · cases ran
    exact called.trans (rspSend_commanded cfg _ _)
  · split at ran
    · exact called.trans (handleBootloaderAtCmd_commanded cfg env ran)
    · obtain ⟨middle, actions, equality⟩ :=
        map_eq_some_iff.mp ran
      refine called.trans (((addExecutingLock_commanded cfg c 1 _).trans
        (performActions_commanded cfg env _ actions)).trans ?_)
      subst equality
      split
      · exact Commanded.refl middle
      · exact addExecutingLock_commanded cfg c (-1) middle
      · exact (rspSend_commanded cfg _ middle).trans (addExecutingLock_commanded cfg c (-1) _)
      · refine Commanded.trans ?_ (addExecutingLock_commanded cfg c (-1) _)
        split
        · exact Commanded.record middle trivial (fun _ _ => rfl) (fun _ => rfl) (fun _ => trivial)
        · exact Commanded.refl middle

theorem cmdFinnishOrFail_commanded (c : CtxId) (host : Host) :
    Commanded cfg host (cmdFinnishOrFail env c host) := by
  unfold cmdFinnishOrFail
  refine Commanded.trans ?_
    (Commanded.of_undisturbed (sendMsg_undisturbed (Message.event c .urc) _))
  refine Commanded.trans ?_ (Commanded.setCtx _ rfl rfl)
  exact Commanded.setCommand host c _

theorem handleEcho_commanded (c : CtxId) (byte : Byte) (send : Bool) (host : Host) :
    Commanded cfg host (handleEcho cfg c byte send host) := by
  have echoed : ∀ (state : Host) (content : List Byte),
      Commanded cfg state (state.record (.echoed c content)) :=
    fun state content => Commanded.record state trivial (fun _ _ => rfl)
      (fun _ => rfl) (fun _ => trivial)
  unfold handleEcho
  dsimp only
  split
  · split
    · exact (Commanded.setCommand host c _).trans (echoed _ _)
    · split
      · exact (Commanded.setCommand host c _).trans (echoed _ _)
      · exact Commanded.setCommand host c _
  · exact Commanded.refl host

variable {byte : Byte}

theorem cmdRxEnd_commanded {send : Bool} (ran : cmdRxEnd cfg env c byte send host = some after) :
    Commanded cfg host after := by
  have echoed := handleEcho_commanded cfg c byte send host
  unfold cmdRxEnd at ran
  dsimp only at ran
  split at ran
  · obtain ⟨middle, run, equality⟩ := map_eq_some_iff.mp ran
    subst equality
    refine (echoed.trans ?_).trans (cmdFinnishOrFail_commanded cfg env c middle)
    split at run
    · cases run
      exact rspSend_commanded cfg _ _
    · split at run
      · exact cmdSend_commanded cfg env run
      · cases run
        exact Commanded.refl _
  · cases ran
    exact echoed

theorem cmdRxStore_commanded (ran : cmdRxStore cfg env c byte host = some after) :
    Commanded cfg host after := by
  unfold cmdRxStore at ran
  dsimp only at ran
  split at ran
  · exact (Commanded.setCommand host c _).trans (cmdRxEnd_commanded cfg env ran)
  · split at ran
    · exact (Commanded.setCommand host c _).trans (cmdRxEnd_commanded cfg env ran)
    · exact (Commanded.setCommand host c _).trans (cmdRxEnd_commanded cfg env ran)

theorem cmdRxHandler_commanded (ran : cmdRxHandler cfg env c byte host = some after) :
    Commanded cfg host after := by
  have started : Commanded cfg host (checkIdleTimer c true host) :=
    Commanded.of_undisturbed (checkIdleTimer_undisturbed c true host)
  unfold cmdRxHandler at ran
  dsimp only at ran
  refine started.trans ?_
  split at ran
  · exact (Commanded.setCommand _ c _).trans (cmdRxEnd_commanded cfg env ran)
  · split at ran
    · split at ran
      · cases ran
        exact (rspSend_commanded cfg _ _).trans (cmdFinnishOrFail_commanded cfg env c _)
      · exact (Commanded.setCommand _ c _).trans (cmdRxStore_commanded cfg env ran)
    · exact cmdRxStore_commanded cfg env ran

end Commands

end SerialModem.AtHost
