import SerialModem.AtHost.HandlerCalls
import SerialModem.AtHost.Routing

/-!
# Contexts that do not disturb each other

While handlers consume what they are given, no context loses its handler inside
its own batch or flush.  A batch then serves its own context to its end, and a
step that is taken for one context leaves the data mode of every other one
alone.
-/

namespace SerialModem.AtHost

open Library Library.PatternMatching Option

variable {cfg : Config} {env : Environment}

structure Undropped (c : CtxId) (before after : Host) : Prop where
  exits : handlerExits c after = handlerExits c before
  current : after.currentCtx = before.currentCtx
  size : (after.data c).dataRb.size = (before.data c).dataRb.size

namespace Undropped

variable {c : CtxId}

theorem trans {first second third : Host}
    (left : Undropped c first second) (right : Undropped c second third) :
    Undropped c first third :=
  ⟨right.exits.trans left.exits, right.current.trans left.current,
    right.size.trans left.size⟩

theorem of_kept {before after : Host} (confined : Confined cfg c before after)
    (kept : Kept c before after) : Undropped c before after :=
  ⟨kept.exits, kept.current, confined.size⟩

theorem setData {host : Host} {data : DataState} (ring : data.dataRb = (host.data c).dataRb) :
    Undropped c host (host.setData c data) :=
  ⟨rfl, rfl, by rw [Host.data_setData_self, ring]⟩

theorem exitDatamode (host : Host) : Undropped c host (exitDatamode cfg env c host) := by
  refine ⟨handlerExits_of_quiet (exitDatamode_quiet host), ?_, ?_⟩
  · by_cases leaves : c ∈ host.instanceList ∧ (host.data c).atMode ≠ .atCommandMode
    · exact (exitDatamode_spec cfg env leaves.1 leaves.2).1.current
    · rw [exitDatamode_refused cfg env leaves]
  · by_cases leaves : c ∈ host.instanceList ∧ (host.data c).atMode ≠ .atCommandMode
    · rw [(exitDatamode_spec cfg env leaves.1 leaves.2).1.data]
      rfl
    · rw [exitDatamode_refused cfg env leaves]

end Undropped

section Consuming

variable {c : CtxId}

structure Current (cfg : Config) (c : CtxId) (host : Host) : Prop where
  current : host.currentCtx = some c
  ring : (host.data c).dataRb.size = 0 ∨ (host.data c).dataRb.size = cfg.datamodeBufSize

variable {host : Host}

theorem Current.getCurrent (serving : Current cfg c host) : smAtHostGetCurrent cfg host = some c :=
  smAtHostGetCurrent_of_current serving.current

variable {after : Host}

theorem Current.of_undropped (serving : Current cfg c host)
    (undropped : Undropped c host after) : Current cfg c after := by
  refine ⟨undropped.current.trans serving.current, ?_⟩
  rw [undropped.size]
  exact serving.ring

theorem rawSend_undropped (consuming : Consuming env c) {flags : Flags}
    (serving : Current cfg c host)
    (ran : rawSend cfg env flags host = some after) :
    Undropped c host after := by
  have served := serving.getCurrent
  obtain ⟨result, returned, confined, _⟩ := rawSend_spec cfg env flags served
  rw [ran] at returned
  cases returned
  exact Undropped.of_kept confined (rawSend_kept cfg consuming served ran)

theorem writeDataBuf_undropped (consuming : Consuming env c)
    {content : List Byte} (serving : Current cfg c host)
    (nonempty : content ≠ []) (short : content.length ≤ 255)
    (ran : writeDataBuf cfg env content host = some after) :
    Undropped c host after := by
  have served := serving.getCurrent
  rcases serving.ring with noRing | sized
  · rw [writeDataBuf_of_noRing cfg env served nonempty noRing] at ran
    cases ran
  · have range := cfg.datamodeBufSize_range
    obtain ⟨result, returned, confined, kept⟩ :=
      writeDataBuf_kept cfg consuming served nonempty (by omega)
    rw [ran] at returned
    cases returned
    exact Undropped.of_kept confined kept

theorem advanceQuitStr_undropped (consuming : Consuming env c) (serving : Current cfg c host)
    (ran : advanceQuitStr cfg env c host = some after) :
    Undropped c host after := by
  unfold advanceQuitStr at ran
  dsimp only at ran
  have counted : Undropped c host (setQuitStrMatch c ((host.data c).quitStrMatch + 1) host) :=
    Undropped.setData rfl
  split at ran
  · obtain ⟨sent, flushed, rfl⟩ := map_eq_some_iff.mp ran
    exact ((counted.trans (rawSend_undropped consuming
      (serving.of_undropped counted) flushed)).trans
      (Undropped.exitDatamode sent)).trans (Undropped.setData rfl)
  · cases ran
    exact counted

theorem rawRxUnmatched_undropped (consuming : Consuming env c) {byte : Byte}
    (serving : Current cfg c host)
    (ran : rawRxUnmatched cfg env c byte host = some after) :
    Undropped c host after := by
  unfold rawRxUnmatched at ran
  split at ran
  · exact advanceQuitStr_undropped consuming serving ran
  · exact writeDataBuf_undropped consuming serving (by simp) (by simp) ran

theorem rawRxHandler_undropped (consuming : Consuming env c) {byte : Byte}
    (serving : Current cfg c host)
    (ran : rawRxHandler cfg env c byte host = some after) :
    Undropped c host after := by
  by_cases limited : 0 < (host.data c).dataLen
  · unfold rawRxHandler at ran
    rw [if_pos limited] at ran
    split at ran
    · cases ran
    · rename_i written write
      have stored := writeDataBuf_undropped consuming serving (by simp) (by simp) write
      have counted := stored.trans (Undropped.setData
        (rfl : { written.data c with
          dataLen := (written.data c).dataLen - 1 }.dataRb = _))
      dsimp only at ran
      split at ran
      · obtain ⟨sent, flushed, rfl⟩ := map_eq_some_iff.mp ran
        exact (counted.trans (rawSend_undropped consuming
          (serving.of_undropped counted) flushed)).trans
          (Undropped.exitDatamode sent)
      · cases ran
        exact counted
  · have unlimited : (host.data c).dataLen = 0 := by
      rwa [UInt32.pos_iff_ne_zero, not_not] at limited
    by_cases continues : cfg.terminator[(host.data c).quitStrMatch.toNat]? = some byte
    · rw [rawRxHandler_of_continues unlimited continues] at ran
      exact advanceQuitStr_undropped consuming serving ran
    · by_cases pending : 0 < (host.data c).quitStrMatch
      · rw [rawRxHandler_of_refused unlimited continues pending] at ran
        obtain ⟨written, write, restart⟩ :=
          bind_eq_some_iff.mp ran
        have stored := writeDataBuf_undropped consuming serving
          (partialMatch_nonempty host pending) (partialMatch_short host) write
        have restarted : Undropped c host (setQuitStrMatch c 0 written) :=
          stored.trans (Undropped.setData rfl)
        exact restarted.trans (rawRxUnmatched_undropped consuming
          (serving.of_undropped restarted) restart)
      · rw [rawRxHandler_of_unmatched unlimited (count_eq_zero pending)] at ran
        exact rawRxUnmatched_undropped consuming serving ran

theorem rawSendScheduled_exits (consuming : Consuming env c) (wellFormed : AllWellFormed cfg host)
    (ran : rawSendScheduled cfg env c host = some after) :
    handlerExits c after = handlerExits c host := by
  have serving : Current cfg c (host.setCurrentCtx (some c)) :=
    ⟨rfl, (wellFormed c).ring⟩
  change _ = handlerExits c (host.setCurrentCtx (some c))
  unfold rawSendScheduled at ran
  dsimp only at ran
  generalize host.setCurrentCtx (some c) = served at serving ran ⊢
  split at ran
  · cases ran
  · rename_i ready prepare
    have prepared : Undropped c served ready := by
      split at prepare
      · rename_i pending
        obtain ⟨written, write, rfl⟩ := map_eq_some_iff.mp prepare
        exact (writeDataBuf_undropped consuming serving
          (partialMatch_nonempty served pending) (partialMatch_short served)
          write).trans (Undropped.setData rfl)
      · cases prepare
        exact ⟨rfl, rfl, rfl⟩
    obtain ⟨sent, flushed, rfl⟩ := map_eq_some_iff.mp ran
    exact (rawSend_undropped consuming (serving.of_undropped prepared)
      flushed).exits.trans prepared.exits

end Consuming

def BatchCurrent (host : Host) : Prop :=
  ∀ c pipe, host.running = .rx c pipe → host.currentCtx = some c

section Others

variable {c : CtxId} {host after : Host}

theorem handleByte_undropped (consuming : Consuming env c) {byte : Byte}
    (wellFormed : AllWellFormed cfg host) (current : host.currentCtx = some c)
    (ran : handleByte cfg env c byte host = some after) :
    handlerExits c after = handlerExits c host ∧ after.currentCtx = host.currentCtx := by
  rcases handleByte_cases False wellFormed (fun impossible =>
      impossible.elim) ran with
    ⟨_, commanded⟩ | ⟨_, raw, _⟩ | ⟨_, _, settled⟩ | ⟨_, rfl⟩
  · exact ⟨commanded.exits c, commanded.current⟩
  · have undropped := rawRxHandler_undropped consuming ⟨current, (wellFormed c).ring⟩ raw
    exact ⟨undropped.exits, undropped.current⟩
  · exact ⟨handlerExits_of_quiet settled.quiet, settled.current⟩
  · exact ⟨rfl, rfl⟩

theorem receiveByte_undropped (consuming : ∀ d, Consuming env d) {pipe : PipeId}
    (wellFormed : AllWellFormed cfg host) (running : host.running = .rx c pipe)
    (current : host.currentCtx = some c)
    (taken : step cfg env .receiveByte host = some after) :
    handlerExits c after = handlerExits c host ∧
      (after.running ≠ .idle → after.currentCtx = some c) := by
  cases step_cases taken with
  | receiveByte d p byte rest received isRunning waiting ran =>
    rw [running] at isRunning
    cases isRunning
    obtain ⟨handled, handling, rfl⟩ := map_eq_some_iff.mp ran
    have offered : AllWellFormed cfg (setPipeRx pipe rest host) := wellFormed
    obtain ⟨exits, sameCurrent⟩ := handleByte_undropped (consuming c)
      (takeByte_wellFormed offered) current handling
    have arrived : handlerExits c (takeByte c byte (setPipeRx pipe rest
        host)) = handlerExits c host :=
      takeByte_exits c byte (setPipeRx pipe rest host)
    have started : Undisturbed cfg handled (startInactivityTimer c handled) :=
      startInactivityTimer_undisturbed c handled
    refine ⟨?_, fun stillRunning => ?_⟩
    · change handlerExits c (finishByte c pipe handled) = _
      rw [handlerExits, finishByte_history, ← handlerExits, exits, arrived]
    · unfold continueRxWork at stillRunning ⊢
      split
      · rw [started.current, sameCurrent]
        exact current
      · rename_i moved
        rw [if_neg moved] at stillRunning
        exact absurd rfl stillRunning

theorem noExitInside_of_consuming (consuming : ∀ d, Consuming env d)
    (wellFormed : AllWellFormed cfg host) (batch : BatchCurrent host)
    (action : Action) : NoExitInside cfg env host action := by
  rintro c (⟨rfl, pipe, running⟩ | ⟨rfl, mark, running⟩)
  · right
    intro after taken
    exact (receiveByte_undropped consuming wellFormed running (batch c pipe running) taken).1
  · right
    intro after taken
    cases step_cases taken with
    | flush d m flushed isRunning ran =>
      rw [running] at isRunning
      cases isRunning
      have exits := rawSendScheduled_exits (consuming c) wellFormed ran
      exact exits

theorem step_batchCurrent (consuming : ∀ d, Consuming env d) {action : Action}
    (wellFormed : AllWellFormed cfg host) (batch : BatchCurrent host)
    (taken : step cfg env action host = some after) : BatchCurrent after := by
  intro c pipe running
  rcases step_rx wellFormed taken running with
    already | ⟨_, _, _, _, rest, rfl⟩
  · by_cases byte : action = .receiveByte
    · subst byte
      exact (receiveByte_undropped consuming wellFormed already
        (batch c pipe already) taken).2 (by rw [running]; simp)
    · rw [step_current already byte taken running]
      exact batch c pipe already
  · rfl

theorem exitDatamodeHandler_calls (c d : CtxId) (result : Int) (host : Host) :
    handlerCalls c (exitDatamodeHandler cfg env d result host).history =
      handlerCalls c host.history := by
  by_cases effective : d ∈ host.instanceList ∧ (host.data d).atMode ≠ .atCommandMode
  · let served := ((host.setData d { host.data d with
      atMode := .nullMode }).record (.exitDatamodeHandler d result)).setCurrentCtx (some d)
    have quiet : Appends Quiet served _ :=
      (callHandlerExit_spec cfg env d ⟨false, true⟩ served).2.2.2
    have recorded : handlerCalls c served.history = handlerCalls c host.history := by
      change handlerCalls c (host.history ++ _) = _
      rw [handlerCalls_append]
      exact List.append_nil _
    simp only [exitDatamodeHandler, setSmMode_nullMode cfg env effective.1 effective.2]
    exact (handlerCalls_of_quiet quiet).trans recorded
  · simp only [exitDatamodeHandler, setSmMode_nullMode_refused cfg env effective]

theorem step_elsewhere (consuming : ∀ d, Consuming env d) {action : Action}
    (wellFormed : AllWellFormed cfg host) (batch : BatchCurrent host)
    (elsewhere : ¬ Serving c host action)
    (stays : ∀ result, action ≠ .exitDatamodeHandler c result)
    (taken : step cfg env action host = some after) :
    view c after = view c host ∧ handlerCalls c after.history = handlerCalls c host.history := by
  have permitted := noExitInside_of_consuming consuming wellFormed batch action
  rcases step_views taken with ⟨quiet, same⟩ | rfl | rfl | ⟨d, result, rfl⟩
  · exact ⟨same c, handlerCalls_of_quiet quiet⟩
  · cases running : host.running with
    | rx d pipe =>
      have different : d ≠ c := by
        rintro rfl
        exact elsewhere (.inl ⟨rfl, pipe, running⟩)
      have acts := (receiveByte_actsOn wellFormed running
        (.inl (batch d pipe running)) permitted taken).1
      exact ⟨acts.others c (Ne.symm different), handlerCalls_of_routed different acts.events⟩
    | _ => simp [step, running] at taken
  · cases running : host.running with
    | rawSendScheduled d mark =>
      have different : d ≠ c := by
        rintro rfl
        exact elsewhere (.inr ⟨rfl, mark, running⟩)
      have acts := flush_actsOn wellFormed running permitted taken
      exact ⟨acts.others c (Ne.symm different), handlerCalls_of_routed different acts.events⟩
    | _ => simp [step, running] at taken
  · cases step_cases taken with
    | exitDatamodeHandler d result _ =>
      refine ⟨?_, exitDatamodeHandler_calls c d result host⟩
      have different : c ≠ d := by
        rintro rfl
        exact stays result rfl
      have confined : Confined cfg d host _ :=
        exitDatamodeHandler_confined cfg env d result host
      rw [view, (confined.others c different).1, (confined.others c different).2, view]

end Others

end SerialModem.AtHost
