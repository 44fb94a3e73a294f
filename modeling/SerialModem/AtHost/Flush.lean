import SerialModem.AtHost.Session

/-!
# Flushing the data ring

The functions that move bytes into and out of the data ring change the
data-mode part of one context only.  Either the context keeps its mode and the
served context stays, or the handler has failed: then the context is in null
mode, has no handler, and no context is served any more.

`raw_send` always returns, with the ring empty, whatever the handler answers.
-/

namespace SerialModem.AtHost

open Library List

variable {cfg : Config}

/-! ## The two outcomes -/

/-- What `exit_datamode_handler` leaves of the data-mode part. -/
def DataState.exited (data : DataState) (result : Int) : DataState :=
  { data with
    atMode := .nullMode
    handler := none
    handlerResult := result
    dataLen := 0 }

def droppedBytes (c : CtxId) (host : Host) : Option (List Byte) :=
  (session c host.history).dropped

def isHandlerExit (c : CtxId) : Event → Bool
  | .exitDatamodeHandler d _ => d == c
  | _ => false

/-- How often `exit_datamode_handler` has moved `c` to null mode. -/
def handlerExits (c : CtxId) (host : Host) : Nat :=
  host.history.countP (isHandlerExit c)

variable {c : CtxId} {before after : Host}

theorem handlerExits_of_quiet (quiet : Appends Quiet before after) :
    handlerExits c after = handlerExits c before := by
  obtain ⟨events, history, allQuiet⟩ := quiet
  have none : events.countP (isHandlerExit c) = 0 := by
    apply countP_eq_zero.mpr
    intro event member
    have isQuiet := allQuiet event member
    cases event with
    | exitDatamodeHandler => exact False.elim isQuiet
    | _ => simp [isHandlerExit]
  rw [handlerExits, history, countP_append, none]
  rfl

/-- Only the data ring of `c` has changed. -/
structure Kept (c : CtxId) (before after : Host) : Prop where
  data : ∃ ring, ring.size = (before.data c).dataRb.size ∧
    after.data c = { before.data c with dataRb := ring }
  current : after.currentCtx = before.currentCtx
  dropped : droppedBytes c after = droppedBytes c before
  exits : handlerExits c after = handlerExits c before

/-- The context `c` has been moved to null mode. -/
structure Dropped (c : CtxId) (before after : Host) : Prop where
  live : c ∈ before.instanceList
  left : (before.data c).atMode ≠ .atCommandMode
  data : ∃ ring result, ring.size = (before.data c).dataRb.size ∧
    after.data c = { (before.data c).exited result with dataRb := ring }
  current : after.currentCtx = none
  dropped : droppedBytes c after = some ((droppedBytes c before).getD [])
  exits : handlerExits c before < handlerExits c after

namespace Kept

theorem refl (c : CtxId) (host : Host) : Kept c host host where
  data := ⟨(host.data c).dataRb, rfl, rfl⟩
  current := rfl
  dropped := rfl
  exits := rfl

variable {c : CtxId}

theorem trans {first second third : Host} (left : Kept c first second)
    (right : Kept c second third) :
    Kept c first third := by
  obtain ⟨leftRing, leftSize, leftData⟩ := left.data
  obtain ⟨rightRing, rightSize, rightData⟩ := right.data
  refine ⟨⟨rightRing, ?_, ?_⟩, ?_, ?_, ?_⟩
  · rw [rightSize, leftData, leftSize]
  · rw [rightData, leftData]
  · exact right.current.trans left.current
  · exact right.dropped.trans left.dropped
  · exact right.exits.trans left.exits

theorem setRing (host : Host) (c : CtxId) {ring : RingBuffer Byte}
    (size : ring.size = (host.data c).dataRb.size) :
    Kept c host (host.setData c { host.data c with dataRb := ring }) where
  data := ⟨ring, size, host.data_setData_self c _⟩
  current := rfl
  dropped := rfl
  exits := rfl

theorem record (host : Host) (c : CtxId) {event : Event} (notExit : isHandlerExit c event = false)
    (dropped : ∀ record : Session, (Session.next c record event).dropped = record.dropped) :
    Kept c host (host.record event) where
  data := ⟨(host.data c).dataRb, rfl, rfl⟩
  current := rfl
  dropped := by simpa [droppedBytes] using dropped (session c host.history)
  exits := by simp [handlerExits, notExit]

variable {before after : Host}

theorem of_undisturbed (c : CtxId) (undisturbed : Undisturbed cfg before after) :
    Kept c before after where
  data := ⟨(before.data c).dataRb, rfl, undisturbed.data c⟩
  current := undisturbed.current
  dropped := by
    rw [droppedBytes, undisturbed.session c]
    rfl
  exits := handlerExits_of_quiet undisturbed.quiet

theorem atMode (kept : Kept c before after) : (after.data c).atMode = (before.data c).atMode := by
  obtain ⟨ring, _, equality⟩ := kept.data
  rw [equality]

theorem handler (kept : Kept c before after) :
    (after.data c).handler = (before.data c).handler := by
  obtain ⟨ring, _, equality⟩ := kept.data
  rw [equality]

end Kept

/-! ## Routing -/

/-- The URC context is `c`, whatever the modes of the contexts are. -/
def Fallback (cfg : Config) (c : CtxId) (host : Host) : Prop :=
  ¬ (host.cmuxStarted = true ∧ host.urcChannel = 0) ∧ smAtHostGetUrcCtx cfg host = some c

/-- The context `c` is served, and stays so when nothing but modes and the
data-mode parts change. -/
def Served (cfg : Config) (c : CtxId) (host : Host) : Prop :=
  host.currentCtx = some c ∨ (host.currentCtx = none ∧ Fallback cfg c host)

/-- What the AT host does to the served context is done to `c`. -/
def Routed (c : CtxId) : Event → Prop
  | .rspSend d _ => d = c
  | .enterDatamode d _ _ => d = c
  | .rawSend d _ => d = c
  | .writeDataBuf d _ => d = c
  | .handlerSend d _ _ _ _ => d = c
  | _ => True

theorem Fallback.of_wiring (same : SameWiring before after)
    (fallback : Fallback cfg c before) : Fallback cfg c after := by
  obtain ⟨fixed, urcCtx⟩ := fallback
  have ctxFrom : ∀ pipe, smAtHostGetCtxFrom pipe after = smAtHostGetCtxFrom pipe before := by
    intro pipe
    cases pipe with
    | none => rfl
    | some p => simp [smAtHostGetCtxFrom, same.instanceList, same.pipe]
  refine ⟨by rwa [same.cmuxStarted, same.urcChannel], ?_⟩
  rw [← urcCtx]
  simp only [smAtHostGetUrcCtx, same.cmuxStarted, same.urcChannel,
    same.cmuxDlci, same.instanceList, ctxFrom]
  by_cases started : before.cmuxStarted = true
  · have channel : before.urcChannel ≠ 0 := fun zero => fixed ⟨started, zero⟩
    simp [started, channel]
  · simp [started]

theorem Served.getCurrent {host : Host} (served : Served cfg c host) :
    smAtHostGetCurrent cfg host = some c := by
  rcases served with current | ⟨current, _, urcCtx⟩
  · exact smAtHostGetCurrent_of_current current
  · simp [smAtHostGetCurrent, current, urcCtx]

theorem Served.of_wiring (same : SameWiring before after)
    (current : after.currentCtx = before.currentCtx)
    (served : Served cfg c before) : Served cfg c after := by
  rcases served with set | ⟨cleared, fallback⟩
  · exact .inl (current.trans set)
  · exact .inr ⟨current.trans cleared, fallback.of_wiring same⟩

theorem Served.of_frame (frame : Frame before after)
    (current : after.currentCtx = before.currentCtx)
    (served : Served cfg c before) : Served cfg c after :=
  served.of_wiring frame.sameWiring current

theorem IsReply.routed {event : Event} (reply : IsReply (some c) event) : Routed c event := by
  cases event with
  | rspSend d response => exact (Option.some.inj reply).symm
  | urcSent | rspSendTo | dataSend | locked | unlocked => trivial
  | _ => exact False.elim reply

/-! ## Changes of one context -/

variable (cfg) in
/-- A change of the data-mode part of `c` with one of the two outcomes. -/
structure Confined (c : CtxId) (before after : Host) : Prop where
  frame : Frame before after
  internal : Appends Internal before after
  others : ∀ d, d ≠ c → after.data d = before.data d ∧
      session d after.history = session d before.history
  outcome : Kept c before after ∨ Dropped c before after
  /-- As long as the handler stays, or the URC context is `c` itself,
  everything is done to `c`. -/
  routed : Fallback cfg c before ∨ handlerExits c after = handlerExits c before →
    Served cfg c before →
    Appends (Routed c) before after ∧ Served cfg c after

theorem handlerExits_le {property : Event → Prop} (appends : Appends property before after) :
    handlerExits c before ≤ handlerExits c after := by
  obtain ⟨events, history, _⟩ := appends
  simp [handlerExits, history]

namespace Confined

theorem refl (c : CtxId) (host : Host) : Confined cfg c host host where
  frame := Frame.refl host
  internal := Appends.refl host
  others _ _ := ⟨rfl, rfl⟩
  outcome := .inl (Kept.refl c host)
  routed _ served := ⟨Appends.refl host, served⟩

theorem size {c : CtxId} {before after : Host} (confined : Confined cfg c before after) :
    (after.data c).dataRb.size = (before.data c).dataRb.size := by
  rcases confined.outcome with kept | moved
  · obtain ⟨ring, size, equality⟩ := kept.data
    rw [equality]
    exact size
  · obtain ⟨ring, result, size, equality⟩ := moved.data
    rw [equality]
    exact size

theorem trans {c : CtxId} {first second third : Host} (left : Confined cfg c first second)
    (right : Confined cfg c second third) :
    Confined cfg c first third where
  frame := left.frame.trans right.frame
  internal := left.internal.trans right.internal
  others d different :=
    ⟨(right.others d different).1.trans (left.others d different).1,
      (right.others d different).2.trans (left.others d different).2⟩
  outcome := by
    rcases left.outcome with leftKept | leftMoved
    · obtain ⟨leftRing, leftSize, leftData⟩ := leftKept.data
      rcases right.outcome with rightKept | rightMoved
      · exact .inl (leftKept.trans rightKept)
      · obtain ⟨rightRing, result, rightSize, rightData⟩ := rightMoved.data
        refine .inr ⟨?_, ?_, ⟨rightRing, result, ?_, ?_⟩, ?_, ?_, ?_⟩
        · exact left.frame.instanceList ▸ rightMoved.live
        · exact leftKept.atMode ▸ rightMoved.left
        · rw [rightSize, leftData, leftSize]
        · rw [rightData, leftData]
          rfl
        · exact rightMoved.current
        · rw [rightMoved.dropped, leftKept.dropped]
        · rw [← leftKept.exits]
          exact rightMoved.exits
    · obtain ⟨leftRing, result, leftSize, leftData⟩ := leftMoved.data
      have more := Nat.lt_of_lt_of_le leftMoved.exits (handlerExits_le right.internal)
      rcases right.outcome with rightKept | rightMoved
      · obtain ⟨rightRing, rightSize, rightData⟩ := rightKept.data
        refine .inr ⟨leftMoved.live, leftMoved.left, ⟨rightRing, result, ?_, ?_⟩, ?_, ?_, more⟩
        · rw [rightSize, leftData, leftSize]
        · rw [rightData, leftData]
        · exact rightKept.current.trans leftMoved.current
        · rw [rightKept.dropped, leftMoved.dropped]
      · obtain ⟨rightRing, rightResult, rightSize, rightData⟩ :=
          rightMoved.data
        refine .inr ⟨leftMoved.live, leftMoved.left,
          ⟨rightRing, rightResult, ?_, ?_⟩, rightMoved.current, ?_, more⟩
        · rw [rightSize, leftData, leftSize]
        · rw [rightData, leftData]
          rfl
        · rw [rightMoved.dropped, leftMoved.dropped]
          rfl
  routed safe served := by
    have leftLe : handlerExits c first ≤ handlerExits c second :=
      handlerExits_le left.internal
    have rightLe : handlerExits c second ≤ handlerExits c third :=
      handlerExits_le right.internal
    obtain ⟨leftRouted, middle⟩ :=
      left.routed (safe.imp id fun same => by omega) served
    obtain ⟨rightRouted, finally_⟩ := right.routed
      (safe.imp (Fallback.of_wiring left.frame.sameWiring) fun same => by omega) middle
    exact ⟨leftRouted.trans rightRouted, finally_⟩

theorem setRing (host : Host) (c : CtxId) {ring : RingBuffer Byte}
    (size : ring.size = (host.data c).dataRb.size) :
    Confined cfg c host (host.setData c { host.data c with dataRb := ring }) where
  frame := Frame.setData host c _
  internal := Appends.of_eq rfl
  others _ different := ⟨host.data_setData_of_ne _ different, rfl⟩
  outcome := .inl (Kept.setRing host c size)
  routed _ served :=
    ⟨Appends.of_eq rfl, served.of_frame (Frame.setData host c _) rfl⟩

theorem record (host : Host) (c : CtxId) {event : Event}
    (internal : Internal event) (routed : Routed c event)
    (notExit : isHandlerExit c event = false)
    (dropped : ∀ record : Session, (Session.next c record event).dropped = record.dropped)
    (neutral : ∀ d, d ≠ c → Neutral d event) :
    Confined cfg c host (host.record event) where
  frame := Frame.record host event
  internal := Appends.record host internal
  others d different := ⟨rfl, by
    rw [Host.history_record, session_append_singleton]
    exact neutral d different _⟩
  outcome := .inl (Kept.record host c notExit dropped)
  routed _ served :=
    ⟨Appends.record host routed, served.of_frame (Frame.record host event) rfl⟩

theorem of_undisturbed {before after : Host} (c : CtxId)
    (undisturbed : Undisturbed cfg before after) :
    Confined cfg c before after where
  frame := undisturbed.frame
  internal := undisturbed.internal
  others d _ := ⟨undisturbed.data d, undisturbed.session d⟩
  outcome := .inl (Kept.of_undisturbed c undisturbed)
  routed _ served := by
    refine ⟨?_, served.of_frame undisturbed.frame undisturbed.current⟩
    have replies := undisturbed.replies
    rw [served.getCurrent] at replies
    exact replies.mono fun _ reply => reply.routed

end Confined

def Serves (cfg : Config) (c : CtxId) (host : Host) : Prop :=
  (host.data c).handler.isSome → smAtHostGetCurrent cfg host = some c

theorem Confined.getCurrent_of_kept (confined : Confined cfg c before after)
    (kept : Kept c before after) :
    smAtHostGetCurrent cfg after = smAtHostGetCurrent cfg before := by
  refine smAtHostGetCurrent_congr confined.frame ?_ kept.current
  intro d
  by_cases equal : d = c
  · subst equal
    exact kept.atMode
  · rw [(confined.others d equal).1]

theorem Confined.serves (confined : Confined cfg c before after) (serves : Serves cfg c before) :
    Serves cfg c after := by
  intro hasHandler
  rcases confined.outcome with kept | moved
  · rw [confined.getCurrent_of_kept kept]
    exact serves (kept.handler ▸ hasHandler)
  · obtain ⟨ring, result, _, equality⟩ := moved.data
    rw [equality] at hasHandler
    cases hasHandler

section Functions

variable (cfg : Config) (env : Environment)

/-! ## Leaving data mode -/

variable {c : CtxId} {host : Host}

theorem setSmMode_nullMode (live : c ∈ host.instanceList)
    (left : (host.data c).atMode ≠ .atCommandMode) :
    setSmMode cfg env c .nullMode host =
      some (host.setData c { host.data c with atMode := .nullMode }) := by
  have found : smAtCtxCheck c host = true := by
    simpa [smAtCtxCheck] using live
  cases mode : (host.data c).atMode with
  | atCommandMode => exact False.elim (left mode)
  | dataMode | nullMode => simp [setSmMode, found, mode]

theorem setSmMode_nullMode_refused (refused : ¬ (c ∈ host.instanceList ∧
      (host.data c).atMode ≠ .atCommandMode)) :
    setSmMode cfg env c .nullMode host = none := by
  by_cases live : c ∈ host.instanceList
  · have mode : (host.data c).atMode = .atCommandMode := by
      by_contra left
      exact refused ⟨live, left⟩
    simp [setSmMode, mode]
  · simp [setSmMode, smAtCtxCheck, live]

/-- Calling the handler with `DATAMODE_EXIT` keeps every mode. -/
theorem callHandlerExit_spec (c : CtxId) (flags : Flags) (host : Host) :
    Confined cfg c host (callHandlerExit cfg env c flags host) ∧
      Kept c host (callHandlerExit cfg env c flags host) ∧
      (∀ d, (callHandlerExit cfg env c flags host).data d = host.data d) ∧
      Appends Quiet host (callHandlerExit cfg env c flags host) := by
  unfold callHandlerExit
  split
  · exact ⟨Confined.refl c host, Kept.refl c host, fun _ => rfl, Appends.refl host⟩
  · rename_i handler _
    have calls : Undisturbed cfg (host.record (.handlerExit c handler flags))
        (performCalls cfg (env.handlerExit host.history c handler flags)
          (host.record (.handlerExit c handler flags))) :=
      performCalls_undisturbed _ _
    have recorded : Confined cfg c host (host.record (.handlerExit c handler flags)) :=
      Confined.record host c trivial trivial rfl (fun _ => rfl) (fun _ _ _ => rfl)
    have recordedKept : Kept c host (host.record (.handlerExit c handler flags)) :=
      Kept.record host c rfl (fun _ => rfl)
    exact ⟨recorded.trans (Confined.of_undisturbed c calls),
      recordedKept.trans (Kept.of_undisturbed c calls),
      fun d => calls.data d,
      (Appends.record host trivial).trans calls.quiet⟩

theorem exitDatamodeHandler_effective (result : Int) (live : c ∈ host.instanceList)
    (left : (host.data c).atMode ≠ .atCommandMode) :
    Confined cfg c host (exitDatamodeHandler cfg env c result host) ∧
      Dropped c host (exitDatamodeHandler cfg env c result host) ∧
      (exitDatamodeHandler cfg env c result host).data c = (host.data c).exited result := by
  let switched :=
    host.setData c { host.data c with atMode := .nullMode }
  let served :=
    (switched.record (.exitDatamodeHandler c result)).setCurrentCtx (some c)
  let exited := callHandlerExit cfg env c ⟨false, true⟩ served
  have unfolded : exitDatamodeHandler cfg env c result host = (exited.setData c
        { exited.data c with
          handler := none
          handlerResult := result
          dataLen := 0 }).setCurrentCtx none := by
    simp only [exitDatamodeHandler, setSmMode_nullMode cfg env live left]
    rfl
  obtain ⟨called, kept, data, quiet⟩ :=
    callHandlerExit_spec cfg env c ⟨false, true⟩ served
  have sessions : ∀ d, session d exited.history = session d served.history :=
    fun d => session_of_appends_neutral <| quiet.mono fun _ isQuiet => isQuiet.neutral d
  have dataSelf : (exitDatamodeHandler cfg env c result host).data c =
        (host.data c).exited result := by
    rw [unfolded, Host.data_setCurrentCtx, Host.data_setData_self, data c]
    simp [served, switched, DataState.exited]
  have sessionAfter : ∀ d, session d (exitDatamodeHandler cfg env c result host).history =
        Session.next d (session d host.history) (.exitDatamodeHandler c result) := by
    intro d
    rw [unfolded, Host.history_setCurrentCtx, Host.history_setData, sessions d]
    simp [served, switched]
  have frame : Frame host (exitDatamodeHandler cfg env c result host) := by
    rw [unfolded]
    exact ((Frame.setData host c _).trans ((Frame.record switched _).trans
        ((Frame.setCurrentCtx _ _).trans called.frame))).trans
      ((Frame.setData _ c _).trans (Frame.setCurrentCtx _ _))
  have exits : handlerExits c host <
      handlerExits c (exitDatamodeHandler cfg env c result host) := by
    have recorded : handlerExits c served = handlerExits c host + 1 := by
      simp [handlerExits, served, switched, isHandlerExit]
    have grows : handlerExits c served ≤ handlerExits c exited :=
      handlerExits_le called.internal
    rw [unfolded]
    change handlerExits c host < handlerExits c exited
    omega
  have moved : Dropped c host (exitDatamodeHandler cfg env c result host) := by
    refine ⟨live, left, ⟨(host.data c).dataRb, result, rfl, dataSelf⟩, ?_, ?_, exits⟩
    · rw [unfolded]
      rfl
    · rw [droppedBytes, sessionAfter c]
      simp [Session.next, droppedBytes]
  refine ⟨⟨frame, ?_, ?_, .inr moved, ?_⟩, moved, dataSelf⟩
  · have before : Appends Internal host served :=
      Appends.record switched trivial
    rw [unfolded]
    exact (before.trans called.internal).trans (Appends.of_eq rfl)
  · intro d different
    refine ⟨?_, by simp [sessionAfter d, Session.next, Ne.symm different]⟩
    rw [unfolded, Host.data_setCurrentCtx, Host.data_setData_of_ne _ _ different, data d]
    exact host.data_setData_of_ne _ different
  · intro safe _
    have fallback : Fallback cfg c host := by
      rcases safe with fallback | same
      · exact fallback
      · exact absurd same (Nat.ne_of_gt exits)
    refine ⟨?_, .inr ⟨?_, fallback.of_wiring frame.sameWiring⟩⟩
    · have before : Appends (Routed c) host served :=
        Appends.record switched trivial
      have exitedRouted : Appends (Routed c) served exited :=
        (called.routed (.inr kept.exits) (.inl rfl)).1
      rw [unfolded]
      exact (before.trans exitedRouted).trans (Appends.of_eq rfl)
    · rw [unfolded]
      rfl

theorem exitDatamodeHandler_spec (c : CtxId) (result : Int) (host : Host) :
    exitDatamodeHandler cfg env c result host = host ∨
      (Confined cfg c host (exitDatamodeHandler cfg env c result host) ∧
        Dropped c host (exitDatamodeHandler cfg env c result host) ∧
        (exitDatamodeHandler cfg env c result host).data c = (host.data c).exited result) := by
  by_cases effective : c ∈ host.instanceList ∧ (host.data c).atMode ≠ .atCommandMode
  · exact .inr (exitDatamodeHandler_effective cfg env result effective.1 effective.2)
  · left
    simp [exitDatamodeHandler, setSmMode_nullMode_refused cfg env effective]

theorem exitDatamodeHandler_confined (c : CtxId) (result : Int) (host : Host) :
    Confined cfg c host (exitDatamodeHandler cfg env c result host) := by
  rcases exitDatamodeHandler_spec cfg env c result host with
    unchanged | ⟨confined, _, _⟩
  · rw [unchanged]
    exact Confined.refl c host
  · exact confined

theorem exitDatamodeHandler_dataRb (c : CtxId) (result : Int) (host : Host) :
    ((exitDatamodeHandler cfg env c result host).data c).dataRb = (host.data c).dataRb := by
  rcases exitDatamodeHandler_spec cfg env c result host with
    unchanged | ⟨_, _, data⟩
  · rw [unchanged]
  · rw [data]
    rfl

/-! ## Handing a claim to the handler -/

theorem callHandlerSend_spec (handler : HandlerId) (content : List Byte)
    (flags : Flags) (served : smAtHostGetCurrent cfg host = some c) :
    Confined cfg c host (callHandlerSend cfg env c handler content flags host).2 ∧
      ((callHandlerSend cfg env c handler content flags host).2.data c).dataRb =
        (host.data c).dataRb := by
  let reply := env.handlerSend host.history c handler content flags
  have calls : Undisturbed cfg host (performCalls cfg reply.calls host) :=
    performCalls_undisturbed _ _
  have stillServed : smAtHostGetCurrent cfg (performCalls cfg reply.calls host) = some c :=
    calls.getCurrent.trans served
  have called := Confined.of_undisturbed c calls
  have recorded : ∀ state : Host, Confined cfg c state
        (state.record (.handlerSend c handler content flags reply.result)) := by
    intro state
    refine Confined.record state c trivial rfl rfl ?_ ?_
    · intro record
      simp [Session.next]
    · intro d different record
      simp [Session.next, Ne.symm different]
  have finished : ∀ state : Host, Confined cfg c host state →
      (state.data c).dataRb = (host.data c).dataRb →
      Confined cfg c host ((performCalls cfg reply.callsAfterExit state).record
            (.handlerSend c handler content flags reply.result)) ∧
        (((performCalls cfg reply.callsAfterExit state).record
          (.handlerSend c handler content flags reply.result)).data c).dataRb =
            (host.data c).dataRb := by
    intro state confined ring
    have after : Undisturbed cfg state (performCalls cfg reply.callsAfterExit state) :=
      performCalls_undisturbed _ _
    refine ⟨(confined.trans (Confined.of_undisturbed c after)).trans (recorded _), ?_⟩
    rw [Host.data_record, after.data c, ring]
  have calledRing : ((performCalls cfg reply.calls host).data c).dataRb = (host.data c).dataRb := by
    rw [calls.data c]
  unfold callHandlerSend
  cases exitResult : reply.exitResult with
  | none =>
    simpa [reply, exitResult] using finished _ called calledRing
  | some result =>
    have exited :=
      exitDatamodeHandler_confined cfg env c result (performCalls cfg reply.calls host)
    have ring :=
      (exitDatamodeHandler_dataRb cfg env c result
        (performCalls cfg reply.calls host)).trans calledRing
    simpa [reply, exitResult, stillServed] using finished _ (called.trans exited) ring

/-! ## Draining the ring -/

theorem finishClaim_confined (c : CtxId) (count : Nat) (host : Host) :
    Confined cfg c host (finishClaim c count host) :=
  Confined.setRing host c (RingBuffer.getFinish_size _ count)

theorem finishClaim_content {count : Nat} (within : count ≤ (host.data c).dataRb.content.length) :
    ((finishClaim c count host).data c).dataRb.content =
      (host.data c).dataRb.content.drop count := by
  simp [finishClaim, RingBuffer.getFinish_content _ within]

theorem datamodeBufSize_pos : 0 < cfg.datamodeBufSize :=
  Nat.lt_of_lt_of_le (by decide) cfg.datamodeBufSize_range.1

/-- The loop of `raw_send` ends with the ring empty.  Two iterations at most
pass without taking a byte off the ring, and `retry` counts the first. -/
theorem rawSendLoop_spec (c : CtxId) (flags : Flags) :
    ∀ (fuel : Nat) (retry : Bool) (host : Host), Serves cfg c host →
      2 * (host.data c).dataRb.content.length + retry.toNat < fuel →
      ∃ after, rawSendLoop cfg env c flags fuel retry host = some after ∧
        Confined cfg c host after ∧ (after.data c).dataRb.content = [] := by
  intro fuel
  induction fuel with
  | zero =>
    intro retry host _ enough
    omega
  | succ fuel ih =>
    intro retry host serves enough
    -- The rest of the loop, from a state that has released `count` items.
    have proceed : ∀ (state : Host) (count : Nat) (again : Bool), Confined cfg c host state →
        (state.data c).dataRb = (host.data c).dataRb →
        count ≤ (host.data c).dataRb.content.length →
        2 * ((host.data c).dataRb.content.length - count) + again.toNat < fuel →
        ∃ after, rawSendLoop cfg env c flags fuel again (finishClaim c count state) = some after ∧
            Confined cfg c host after ∧
            (after.data c).dataRb.content = [] := by
      intro state count again confined sameRing within less
      have released :=
        confined.trans (finishClaim_confined cfg c count state)
      have content : ((finishClaim c count state).data c).dataRb.content =
            (host.data c).dataRb.content.drop count := by
        rw [finishClaim_content (by rw [sameRing]; exact within), sameRing]
      obtain ⟨after, ran, rest, empty⟩ :=
        ih again (finishClaim c count state) (released.serves serves)
          (by rw [content, length_drop]; exact less)
      exact ⟨after, ran, released.trans rest, empty⟩
    simp only [rawSendLoop]
    have claimLe :=
      (host.data c).dataRb.getClaim_length_le cfg.datamodeBufSize
    have claimNil :=
      (host.data c).dataRb.getClaim_eq_nil_iff (datamodeBufSize_pos cfg)
    generalize (host.data c).dataRb.getClaim cfg.datamodeBufSize = claim at claimLe claimNil ⊢
    by_cases claimed : claim = []
    · rw [if_pos claimed]
      exact ⟨host, rfl, Confined.refl c host, claimNil.mp claimed⟩
    · have claimPos : 0 < claim.length := length_pos_iff.mpr claimed
      rw [if_neg claimed]
      cases hasHandler : (host.data c).handler with
      | none =>
        exact proceed host claim.length retry (Confined.refl c host) rfl claimLe (by omega)
      | some handler =>
        dsimp only
        generalize (if claim.length ≠ (host.data c).dataRb.sizeGet then
          { flags with moreData := true } else flags) = sendFlags
        obtain ⟨sent, sentRing⟩ :=
          callHandlerSend_spec cfg env handler claim sendFlags (serves (by simp [hasHandler]))
        have resultLe : (callHandlerSend cfg env c handler claim sendFlags host).1 ≤ claim.length :=
          (env.handlerSend host.history c handler claim sendFlags).result_le
        generalize callHandlerSend cfg env c handler claim sendFlags host =
          outcome at sent sentRing resultLe ⊢
        by_cases failed : outcome.1 < 0 ∨ (outcome.1 = 0 ∧ retry = false)
        · rw [if_pos failed]
          refine proceed _ claim.length retry
            (sent.trans (exitDatamodeHandler_confined cfg env c _ _)) ?_
            claimLe (by omega)
          rw [exitDatamodeHandler_dataRb, sentRing]
        · rw [if_neg failed]
          by_cases zero : outcome.1 = 0
          · rw [if_pos zero]
            have retried : retry = true := by
              by_contra notRetried
              exact failed (.inr ⟨zero, by simpa using notRetried⟩)
            rw [retried, Bool.toNat_true] at enough
            exact proceed _ 0 false sent sentRing (Nat.zero_le _) (by rw [Bool.toNat_false]; omega)
          · rw [if_neg zero]
            exact proceed _ _ true sent sentRing (by omega) (by rw [Bool.toNat_true]; omega)

theorem rawSend_spec (flags : Flags) (served : smAtHostGetCurrent cfg host = some c) :
    ∃ after, rawSend cfg env flags host = some after ∧
      Confined cfg c host after ∧ (after.data c).dataRb.content = [] := by
  have recorded : Confined cfg c host (host.record (.rawSend c flags)) :=
    Confined.record host c trivial rfl rfl (fun _ => rfl) (fun _ _ _ => rfl)
  have serves : Serves cfg c (host.record (.rawSend c flags)) :=
    recorded.serves fun _ => served
  obtain ⟨after, ran, confined, empty⟩ :=
    rawSendLoop_spec cfg env c flags (2 * (host.data c).dataRb.sizeGet + 2) true
      (host.record (.rawSend c flags)) serves
      (by simp [RingBuffer.sizeGet])
  refine ⟨after, ?_, recorded.trans confined, empty⟩
  simpa only [rawSend, served] using ran

theorem rawSend_of_empty (flags : Flags) (served : smAtHostGetCurrent cfg host = some c)
    (empty : (host.data c).dataRb.content = []) :
    rawSend cfg env flags host = some (host.record (.rawSend c flags)) := by
  have nothing : (host.data c).dataRb.getClaim cfg.datamodeBufSize = [] :=
    ((host.data c).dataRb.getClaim_eq_nil_iff (datamodeBufSize_pos cfg)).mpr empty
  simp [rawSend, served, rawSendLoop, nothing]

/-! ## Storing into the ring -/

theorem storeBytes_kept (c : CtxId) (content : List Byte) (host : Host) :
    Kept c host (storeBytes c content host) :=
  Kept.setRing host c rfl

theorem storeBytes_confined (c : CtxId) (content : List Byte) (host : Host) :
    Confined cfg c host (storeBytes c content host) :=
  Confined.setRing host c rfl

theorem startWrite_ring (c : CtxId) (content : List Byte) (host : Host) :
    ((startWrite c content host).data c).dataRb.content = (host.data c).dataRb.content ∧
      ((startWrite c content host).data c).dataRb.size = (host.data c).dataRb.size := by
  unfold startWrite
  dsimp only
  split
  · rename_i empty
    rw [Host.data_setData_self, RingBuffer.reset_content]
    exact ⟨(((host.data c).dataRb.isEmpty_iff).mp empty).symm, rfl⟩
  · exact ⟨rfl, rfl⟩

theorem startWrite_spec (c : CtxId) (content : List Byte) (host : Host) :
    Confined cfg c host (startWrite c content host) ∧ Kept c host (startWrite c content host) ∧
      ((startWrite c content host).data c).dataRb.content = (host.data c).dataRb.content := by
  have recorded : Confined cfg c host (host.record (.writeDataBuf c content)) :=
    Confined.record host c trivial rfl rfl (fun _ => rfl) (fun _ _ _ => rfl)
  have recordedKept : Kept c host (host.record (.writeDataBuf c content)) :=
    Kept.record host c rfl (fun _ => rfl)
  have sameContent := (startWrite_ring c content host).1
  revert sameContent
  unfold startWrite
  dsimp only
  split
  · exact fun sameContent => ⟨recorded.trans (Confined.setRing _ c rfl),
      recordedKept.trans (Kept.setRing _ c rfl), sameContent⟩
  · exact fun sameContent => ⟨recorded, recordedKept, sameContent⟩

theorem writeDataBuf_eq_loop (content : List Byte) (served : smAtHostGetCurrent cfg host = some c) :
    writeDataBuf cfg env content host = writeDataBufLoop cfg env c (2 * content.length + 1) content
        (startWrite c content host) := by
  simp only [writeDataBuf, served]

variable {content : List Byte}

theorem writeDataBufLoop_of_fits (fuel : Nat) (nonempty : content ≠ [])
    (fits : (host.data c).dataRb.content.length + content.length ≤ (host.data c).dataRb.size) :
    writeDataBufLoop cfg env c (fuel + 1) content host = some (storeBytes c content host) := by
  have stored := (host.data c).dataRb.putCount_eq_length fits
  cases content with
  | nil => exact False.elim (nonempty rfl)
  | cons byte rest =>
    simp only [writeDataBufLoop]
    rw [stored, if_neg (by simp), drop_length]
    simp [writeDataBufLoop]

theorem writeDataBufLoop_of_full (fuel : Nat)
    (served : smAtHostGetCurrent cfg host = some c) (nonempty : content ≠ [])
    (short : content.length ≤ (host.data c).dataRb.size)
    (full : (host.data c).dataRb.content.length = (host.data c).dataRb.size) :
    writeDataBufLoop cfg env c (fuel + 2) content host =
      (rawSend cfg env ⟨true, false⟩ host).map (storeBytes c content) := by
  obtain ⟨flushed, ran, confined, empty⟩ :=
    rawSend_spec cfg env ⟨true, false⟩ served
  have fits : (flushed.data c).dataRb.content.length + content.length ≤
      (flushed.data c).dataRb.size := by
    rw [empty, confined.size]
    simpa using short
  have afterwards := writeDataBufLoop_of_fits cfg env fuel nonempty fits
  have noRoom : (host.data c).dataRb.putCount content = 0 := by
    simp [RingBuffer.putCount, RingBuffer.spaceGet, full]
  cases content with
  | nil => exact False.elim (nonempty rfl)
  | cons byte rest =>
    rw [writeDataBufLoop, if_pos noRoom, ran]
    exact afterwards

theorem writeDataBuf_of_fits (served : smAtHostGetCurrent cfg host = some c)
    (nonempty : content ≠ [])
    (fits : (host.data c).dataRb.content.length + content.length ≤ (host.data c).dataRb.size) :
    writeDataBuf cfg env content host =
      some (storeBytes c content (startWrite c content host)) := by
  obtain ⟨confined, _, same⟩ := startWrite_spec cfg c content host
  rw [writeDataBuf_eq_loop cfg env content served]
  apply writeDataBufLoop_of_fits cfg env _ nonempty
  rw [same, confined.size]
  exact fits

theorem writeDataBuf_of_overflow (served : smAtHostGetCurrent cfg host = some c)
    (short : content.length ≤ (host.data c).dataRb.size)
    (overflow : (host.data c).dataRb.size < (host.data c).dataRb.content.length + content.length) :
    writeDataBuf cfg env content host = (rawSend cfg env ⟨true, false⟩
          (storeBytes c content (startWrite c content host))).map
        (storeBytes c (content.drop (host.data c).dataRb.spaceGet)) := by
  obtain ⟨confined, kept, same⟩ := startWrite_spec cfg c content host
  have within := (host.data c).dataRb.content_le
  have startedServed : smAtHostGetCurrent cfg (startWrite c content host) = some c :=
    (confined.getCurrent_of_kept kept).trans served
  have nonempty : content ≠ [] := by
    rintro rfl
    simp only [length_nil] at overflow
    omega
  rw [writeDataBuf_eq_loop cfg env content served]
  rcases Nat.eq_zero_or_pos (host.data c).dataRb.spaceGet with zero | positive
  · -- The ring is full already: nothing is stored before the flush.
    have full : ((startWrite c content host).data c).dataRb.content.length =
        ((startWrite c content host).data c).dataRb.size := by
      rw [same, confined.size]
      unfold RingBuffer.spaceGet at zero
      omega
    have unchanged : storeBytes c content (startWrite c content host) =
        startWrite c content host := by
      rw [storeBytes, RingBuffer.put_of_full _ _ full]
      exact Host.setData_data _ c
    obtain ⟨fuel, enough⟩ : ∃ fuel, 2 * content.length + 1 = fuel + 2 := by
      have := length_pos_iff.mpr nonempty
      exact ⟨2 * content.length - 1, by omega⟩
    rw [zero, drop_zero, unchanged, enough]
    exact writeDataBufLoop_of_full cfg env fuel startedServed nonempty
      (by rw [confined.size]; exact short) full
  · -- What fits is stored, the rest after the flush.
    let started := startWrite c content host
    let stored := storeBytes c content started
    have space : (started.data c).dataRb.spaceGet = (host.data c).dataRb.spaceGet := by
      simp only [RingBuffer.spaceGet, started, same, confined.size]
    have count : (started.data c).dataRb.putCount content = (host.data c).dataRb.spaceGet := by
      rw [RingBuffer.putCount, space]
      unfold RingBuffer.spaceGet at positive ⊢
      omega
    have storedServed : smAtHostGetCurrent cfg stored = some c :=
      ((storeBytes_confined cfg c content started).getCurrent_of_kept
        (storeBytes_kept c content started)).trans startedServed
    have storedSize : (stored.data c).dataRb.size = (host.data c).dataRb.size :=
      (storeBytes_confined cfg c content started).size.trans confined.size
    have full : (stored.data c).dataRb.content.length = (stored.data c).dataRb.size := by
      rw [storedSize]
      simp only [stored, storeBytes, Host.data_setData_self,
        RingBuffer.put_content, length_append, length_take]
      rw [count, show (started.data c).dataRb.content = (host.data c).dataRb.content from same]
      unfold RingBuffer.spaceGet
      omega
    have rest : content.drop (host.data c).dataRb.spaceGet ≠ [] := by
      apply ne_nil_of_length_pos
      rw [length_drop]
      unfold RingBuffer.spaceGet
      omega
    obtain ⟨fuel, enough⟩ : ∃ fuel, 2 * content.length = fuel + 2 := by
      have := length_pos_iff.mpr nonempty
      exact ⟨2 * content.length - 2, by omega⟩
    have afterwards := writeDataBufLoop_of_full cfg env fuel storedServed
      rest (by rw [storedSize, length_drop]; omega) full
    rw [enough]
    cases content with
    | nil => exact False.elim (nonempty rfl)
    | cons byte others =>
      simp only [writeDataBufLoop]
      rw [count, if_neg (Nat.ne_of_gt positive)]
      exact afterwards

/-- What `write_data_buf` has stored when it looks at the room left. -/
def firstWrite (c : CtxId) (content : List Byte) (host : Host) : Host :=
  storeBytes c content (startWrite c content host)

theorem firstWrite_spec (c : CtxId) (content : List Byte) (host : Host) :
    Confined cfg c host (firstWrite c content host) ∧ Kept c host (firstWrite c content host) := by
  obtain ⟨confined, kept, _⟩ := startWrite_spec cfg c content host
  exact ⟨confined.trans (storeBytes_confined cfg c content _),
    kept.trans (storeBytes_kept c content _)⟩

theorem firstWrite_quiet (c : CtxId) (content : List Byte) (host : Host) :
    Appends Quiet host (firstWrite c content host) := by
  have started : Appends Quiet host (startWrite c content host) := by
    unfold startWrite
    dsimp only
    split
    · exact (Appends.record host trivial).trans (Appends.of_eq rfl)
    · exact Appends.record host trivial
  exact started.trans (Appends.of_eq rfl)

theorem firstWrite_content (c : CtxId) (content : List Byte) (host : Host) :
    ((firstWrite c content host).data c).dataRb.content = (host.data c).dataRb.content ++
        content.take (host.data c).dataRb.spaceGet := by
  obtain ⟨sameContent, sameSize⟩ := startWrite_ring c content host
  have space : ((startWrite c content host).data c).dataRb.spaceGet =
      (host.data c).dataRb.spaceGet := by
    simp only [RingBuffer.spaceGet, sameContent, sameSize]
  rw [firstWrite, storeBytes, Host.data_setData_self]
  change ((startWrite c content host).data c).dataRb.content ++ content.take _ = _
  rw [space, sameContent]

/-- Either everything fits, or a full ring is flushed and takes the rest. -/
theorem writeDataBuf_cases (served : smAtHostGetCurrent cfg host = some c) (nonempty : content ≠ [])
    (short : content.length ≤ (host.data c).dataRb.size) :
    ((host.data c).dataRb.content.length + content.length ≤ (host.data c).dataRb.size ∧
      writeDataBuf cfg env content host = some (firstWrite c content host)) ∨
    ((host.data c).dataRb.size < (host.data c).dataRb.content.length + content.length ∧
      smAtHostGetCurrent cfg (firstWrite c content host) = some c ∧
      ∃ flushed, rawSend cfg env ⟨true, false⟩ (firstWrite c content host) = some flushed ∧
        writeDataBuf cfg env content host =
          some (storeBytes c (content.drop (host.data c).dataRb.spaceGet) flushed)) := by
  by_cases fits : (host.data c).dataRb.content.length + content.length ≤ (host.data c).dataRb.size
  · exact .inl ⟨fits, writeDataBuf_of_fits cfg env served nonempty fits⟩
  · obtain ⟨confined, kept⟩ := firstWrite_spec cfg c content host
    have stillServed := (confined.getCurrent_of_kept kept).trans served
    obtain ⟨flushed, ran, _⟩ :=
      rawSend_spec cfg env ⟨true, false⟩ stillServed
    refine .inr ⟨by omega, stillServed, flushed, ran, ?_⟩
    have unfolded :=
      writeDataBuf_of_overflow cfg env served short (by omega)
    rw [unfolded]
    exact congrArg _ ran

theorem writeDataBuf_spec (served : smAtHostGetCurrent cfg host = some c) (nonempty : content ≠ [])
    (short : content.length ≤ (host.data c).dataRb.size) :
    ∃ after, writeDataBuf cfg env content host = some after ∧ Confined cfg c host after := by
  obtain ⟨confined, _⟩ := firstWrite_spec cfg c content host
  rcases writeDataBuf_cases cfg env served nonempty short with
    ⟨_, ran⟩ | ⟨_, stillServed, flushed, flushing, ran⟩
  · exact ⟨_, ran, confined⟩
  · obtain ⟨result, returned, flushConfined, _⟩ :=
      rawSend_spec cfg env ⟨true, false⟩ stillServed
    rw [flushing] at returned
    cases returned
    exact ⟨_, ran, (confined.trans flushConfined).trans (storeBytes_confined cfg c _ flushed)⟩

theorem writeDataBufLoop_of_noRing (nonempty : content ≠ []) :
    ∀ (fuel : Nat) (host : Host), (host.data c).dataRb.size = 0 →
      writeDataBufLoop cfg env c fuel content host = none := by
  intro fuel
  induction fuel with
  | zero =>
    intro host _
    cases content with
    | nil => exact False.elim (nonempty rfl)
    | cons byte rest => rfl
  | succ fuel ih =>
    intro host noRing
    cases content with
    | nil => exact False.elim (nonempty rfl)
    | cons byte rest =>
      have noRoom : (host.data c).dataRb.putCount (byte :: rest) = 0 := by
        simp [RingBuffer.putCount, RingBuffer.spaceGet, noRing]
      rw [writeDataBufLoop, if_pos noRoom]
      cases served : smAtHostGetCurrent cfg host with
      | none => simp [rawSend, served]
      | some e =>
        obtain ⟨flushed, ran, confined, _⟩ :=
          rawSend_spec cfg env ⟨true, false⟩ served
        rw [ran]
        apply ih
        by_cases same : c = e
        · subst same
          rw [confined.size, noRing]
        · rw [(confined.others c same).1, noRing]

theorem writeDataBuf_of_noRing (served : smAtHostGetCurrent cfg host = some c)
    (nonempty : content ≠ []) (noRing : (host.data c).dataRb.size = 0) :
    writeDataBuf cfg env content host = none := by
  obtain ⟨confined, _, _⟩ := startWrite_spec cfg c content host
  rw [writeDataBuf_eq_loop cfg env content served]
  apply writeDataBufLoop_of_noRing cfg env nonempty
  rw [confined.size, noRing]

end Functions

end SerialModem.AtHost
