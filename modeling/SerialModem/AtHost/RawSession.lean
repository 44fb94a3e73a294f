import SerialModem.AtHost.Processing
import SerialModem.Library.PatternMatching

/-!
# One byte of data mode

A context in data mode that is being served handles a byte by itself: it stays
in data mode, leaves for AT-command mode, or loses its handler.  What happens
to its counter does not depend on the handler.  When the handler consumes what
it is given, the data-mode part and the session after the byte are known.
-/

namespace SerialModem.AtHost

open Library Library.PatternMatching List Option

variable {cfg : Config} {env : Environment} {c : CtxId}

structure Attended (cfg : Config) (c : CtxId) (host : Host) : Prop where
  live : c ∈ host.instanceList
  current : host.currentCtx = some c
  mode : (host.data c).atMode = .dataMode
  handler : (host.data c).handler.isSome
  sized : (host.data c).dataRb.size = cfg.datamodeBufSize

structure InSession (cfg : Config) (c : CtxId) (host : Host) : Prop
    extends Attended cfg c host where
  matched : (host.data c).quitStrMatch.toNat < cfg.terminator.length

def nextCount (cfg : Config) (fallback : Byte → Nat) (count : UInt8) (byte : Byte) : UInt8 :=
  if cfg.terminator[count.toNat]? = some byte then
    count + 1
  else
    UInt8.ofNat (fallback byte)

variable {count : UInt8}

theorem nextCount_toNat {fallback : Byte → Nat}
    (bounded : ∀ byte, fallback byte ≤ 1) (short : cfg.terminator.length ≤ 255)
    (matched : count.toNat < cfg.terminator.length) (byte : Byte) :
    (nextCount cfg fallback count byte).toNat =
      advance cfg.terminator fallback count.toNat byte := by
  unfold nextCount advance
  split
  · rw [UInt8.toNat_add, UInt8.toNat_one]
    omega
  · have small := bounded byte
    rw [UInt8.toNat_ofNat']
    omega

theorem count_eq_zero (notPositive : ¬ 0 < count) : count = 0 := by
  rw [UInt8.lt_iff_toNat_lt] at notPositive
  apply UInt8.toNat_inj.mp
  simpa using notPositive

theorem nextCount_of_long (fallback : Byte → Nat) (long : 256 ≤ cfg.terminator.length)
    (count : UInt8) (byte : Byte) :
    (nextCount cfg fallback count byte).toNat < cfg.terminator.length :=
  Nat.lt_of_lt_of_le (UInt8.toNat_lt _) long

namespace Attended

variable {host : Host}

theorem getCurrent (session : Attended cfg c host) : smAtHostGetCurrent cfg host = some c :=
  smAtHostGetCurrent_of_current session.current

theorem left (session : Attended cfg c host) : (host.data c).atMode ≠ .atCommandMode := by
  simp [session.mode]

theorem partialMatch_fits (session : Attended cfg c host) :
    (cfg.terminator.take (host.data c).quitStrMatch.toNat).length ≤ (host.data c).dataRb.size := by
  have range := cfg.datamodeBufSize_range
  have short : (cfg.terminator.take (host.data c).quitStrMatch.toNat).length ≤ 255 :=
    partialMatch_short host
  rw [session.sized]
  omega

theorem byte_fits (session : Attended cfg c host) (byte : Byte) :
    [byte].length ≤ (host.data c).dataRb.size := by
  have range := cfg.datamodeBufSize_range
  rw [session.sized, length_singleton]
  omega

theorem of_kept {after : Host} (session : Attended cfg c host)
    (confined : Confined cfg c host after) (kept : Kept c host after) :
    Attended cfg c after := by
  refine ⟨confined.frame.instanceList ▸ session.live,
    kept.current.trans session.current, ?_, ?_, ?_⟩
  · rw [kept.atMode]
    exact session.mode
  · rw [kept.handler]
    exact session.handler
  · rw [confined.size]
    exact session.sized

theorem setQuitStrMatch (session : Attended cfg c host) (count : UInt8) :
    Attended cfg c (setQuitStrMatch c count host) := by
  unfold AtHost.setQuitStrMatch
  refine ⟨session.live, session.current, ?_, ?_, ?_⟩
  · simpa using session.mode
  · simpa using session.handler
  · simpa using session.sized

end Attended

variable {host after : Host}

theorem InSession.of_kept (session : InSession cfg c host)
    (confined : Confined cfg c host after) (kept : Kept c host after) :
    InSession cfg c after := by
  obtain ⟨ring, _, equality⟩ := kept.data
  refine ⟨session.toAttended.of_kept confined kept, ?_⟩
  rw [equality]
  exact session.matched

theorem InSession.setQuitStrMatch (session : InSession cfg c host)
    (short : count.toNat < cfg.terminator.length) :
    InSession cfg c (setQuitStrMatch c count host) := by
  refine ⟨session.toAttended.setQuitStrMatch count, ?_⟩
  simpa [AtHost.setQuitStrMatch] using short

theorem Confined.stays_null {e d : CtxId} {before : Host} (confined : Confined cfg e before after)
    (mode : (before.data d).atMode = .nullMode) :
    (after.data d).atMode = .nullMode := by
  rcases confined.data_cases d with ⟨ring, kept⟩ | moved
  · rw [kept]
    exact mode
  · exact moved

theorem Dropped.nullMode {before : Host} (moved : Dropped c before after) :
    (after.data c).atMode = .nullMode := by
  obtain ⟨ring, result, _, equality⟩ := moved.data
  rw [equality]
  rfl

theorem advanceQuitStr_of_incomplete (incomplete : ((host.data c).quitStrMatch + 1).toNat ≠
      cfg.terminator.length) :
    advanceQuitStr cfg env c host =
      some (setQuitStrMatch c ((host.data c).quitStrMatch + 1) host) := by
  unfold advanceQuitStr
  dsimp only
  rw [if_neg incomplete]

theorem advanceQuitStr_of_complete (session : Attended cfg c host)
    (complete : ((host.data c).quitStrMatch + 1).toNat = cfg.terminator.length)
    (ran : advanceQuitStr cfg env c host = some after) :
    (after.data c).atMode = .atCommandMode := by
  unfold advanceQuitStr at ran
  dsimp only at ran
  rw [if_pos complete] at ran
  obtain ⟨sent, flushed, rfl⟩ := map_eq_some_iff.mp ran
  have served : smAtHostGetCurrent cfg
      (setQuitStrMatch c ((host.data c).quitStrMatch + 1) host) = some c := by
    rw [setQuitStrMatch_getCurrent]
    exact session.getCurrent
  obtain ⟨result, returned, confined, _⟩ :=
    rawSend_spec cfg env Flags.none served
  rw [flushed] at returned
  cases returned
  have live : c ∈ sent.instanceList := by
    rw [confined.frame.instanceList]
    exact session.live
  have left : (sent.data c).atMode ≠ .atCommandMode := by
    apply confined.stays_left
    rw [setQuitStrMatch_atMode]
    exact session.left
  rw [setQuitStrMatch_atMode, (exitDatamode_spec cfg env live left).1.data]
  rfl

structure Counted (cfg : Config) (c : CtxId) (count : UInt8) (after : Host) :
    Prop where
  session : InSession cfg c after
  unlimited : (after.data c).dataLen = 0
  counted : (after.data c).quitStrMatch = count

theorem advanceQuitStr_counted (session : InSession cfg c host)
    (unlimited : (host.data c).dataLen = 0)
    (ran : advanceQuitStr cfg env c host = some after) :
    let count := (host.data c).quitStrMatch + 1
    (count.toNat = cfg.terminator.length ∧ (after.data c).atMode = .atCommandMode) ∨
      (count.toNat < cfg.terminator.length ∧ Counted cfg c count after) := by
  intro count
  by_cases complete : count.toNat = cfg.terminator.length
  · exact .inl ⟨complete, advanceQuitStr_of_complete session.toAttended complete ran⟩
  · have below : count.toNat < cfg.terminator.length := by
      have matched := session.matched
      have next : count.toNat = ((host.data c).quitStrMatch.toNat + 1) % 256 :=
        UInt8.toNat_add _ _
      omega
    rw [advanceQuitStr_of_incomplete complete] at ran
    cases ran
    refine .inr ⟨below, session.setQuitStrMatch below, ?_, ?_⟩
    · simpa [setQuitStrMatch] using unlimited
    · simp [setQuitStrMatch, count]

variable {byte : Byte}

theorem writeDataBuf_byte (ran : writeDataBuf cfg env [byte] host = some after) :
    ∃ e, smAtHostGetCurrent cfg host = some e ∧ Confined cfg e host after := by
  refine writeDataBuf_of_room (cons_ne_nil _ _) ?_ ran
  exact fun e hasRing => Nat.pos_of_ne_zero hasRing

/-- What `raw_rx_handler` does to a byte when nothing is matched. -/
def rawRxUnmatched (cfg : Config) (env : Environment) (c : CtxId) (byte : Byte)
    (host : Host) : Option Host :=
  if cfg.terminator[0]? = some byte then
    advanceQuitStr cfg env c host
  else
    writeDataBuf cfg env [byte] host

theorem rawRxHandler_of_continues (unlimited : (host.data c).dataLen = 0)
    (continues : cfg.terminator[(host.data c).quitStrMatch.toNat]? = some byte) :
    rawRxHandler cfg env c byte host = advanceQuitStr cfg env c host := by
  have notCounting : ¬ 0 < (host.data c).dataLen := by simp [unlimited]
  unfold rawRxHandler
  rw [if_neg notCounting]
  dsimp only
  rw [if_pos continues]

theorem rawRxHandler_of_unmatched (unlimited : (host.data c).dataLen = 0)
    (unmatched : (host.data c).quitStrMatch = 0) :
    rawRxHandler cfg env c byte host = rawRxUnmatched cfg env c byte host := by
  have notCounting : ¬ 0 < (host.data c).dataLen := by simp [unlimited]
  unfold rawRxHandler rawRxUnmatched
  rw [if_neg notCounting]
  simp only [unmatched, UInt8.toNat_zero, UInt8.lt_irrefl, if_false]

theorem rawRxHandler_of_refused (unlimited : (host.data c).dataLen = 0)
    (refused : cfg.terminator[(host.data c).quitStrMatch.toNat]? ≠ some byte)
    (pending : 0 < (host.data c).quitStrMatch) :
    rawRxHandler cfg env c byte host = (writeDataBuf cfg env
        (cfg.terminator.take (host.data c).quitStrMatch.toNat) host).bind
        fun written =>
          rawRxUnmatched cfg env c byte (setQuitStrMatch c 0 written) := by
  have notCounting : ¬ 0 < (host.data c).dataLen := by simp [unlimited]
  unfold rawRxHandler rawRxUnmatched
  rw [if_neg notCounting]
  dsimp only
  rw [if_neg refused, if_pos pending]
  cases writeDataBuf cfg env (cfg.terminator.take (host.data c).quitStrMatch.toNat) host <;> rfl

theorem rawRxUnmatched_counted (session : InSession cfg c host)
    (unlimited : (host.data c).dataLen = 0)
    (unmatched : (host.data c).quitStrMatch = 0)
    (ran : rawRxUnmatched cfg env c byte host = some after) :
    let count := UInt8.ofNat (restartFallback cfg.terminator byte)
    (count.toNat = cfg.terminator.length ∧ (after.data c).atMode = .atCommandMode) ∨
      (count.toNat < cfg.terminator.length ∧
        ((after.data c).atMode = .nullMode ∨ Counted cfg c count after)) := by
  intro count
  unfold rawRxUnmatched at ran
  by_cases starts : cfg.terminator[0]? = some byte
  · have one : count = (host.data c).quitStrMatch + 1 := by
      simp [count, restartFallback, starts, unmatched]
    rw [if_pos starts] at ran
    rw [one]
    exact (advanceQuitStr_counted session unlimited ran).imp_right
      fun later => ⟨later.1, .inr later.2⟩
  · have zero : count = (host.data c).quitStrMatch := by
      simp [count, restartFallback, starts, unmatched]
    rw [if_neg starts] at ran
    obtain ⟨e, served, confined⟩ := writeDataBuf_byte ran
    cases session.getCurrent.symm.trans served
    rw [zero]
    refine .inr ⟨session.matched, ?_⟩
    rcases confined.outcome with kept | moved
    · obtain ⟨ring, _, equality⟩ := kept.data
      refine .inr ⟨session.of_kept confined kept, ?_, ?_⟩
      · rw [equality]
        exact unlimited
      · rw [equality]
    · exact .inl moved.nullMode

theorem rawRxUnmatched_nullMode (mode : (host.data c).atMode = .nullMode)
    (unmatched : (host.data c).quitStrMatch = 0)
    (long : 1 < cfg.terminator.length)
    (ran : rawRxUnmatched cfg env c byte host = some after) :
    (after.data c).atMode = .nullMode := by
  unfold rawRxUnmatched at ran
  split at ran
  · have one : ((host.data c).quitStrMatch + 1).toNat = 1 := by
      simp [unmatched]
    rw [advanceQuitStr_of_incomplete (by omega)] at ran
    cases ran
    rw [setQuitStrMatch_atMode]
    exact mode
  · obtain ⟨e, _, confined⟩ := writeDataBuf_byte ran
    exact confined.stays_null mode

/-- Whatever the handler does, a byte without a requested length moves the
counter, and completes the terminator exactly when the counter says so. -/
theorem rawRxHandler_counted (session : InSession cfg c host)
    (unlimited : (host.data c).dataLen = 0)
    (ran : rawRxHandler cfg env c byte host = some after) :
    let count := nextCount cfg (restartFallback cfg.terminator) (host.data c).quitStrMatch byte
    (count.toNat = cfg.terminator.length ∧ (after.data c).atMode = .atCommandMode) ∨
      (count.toNat < cfg.terminator.length ∧
        ((after.data c).atMode = .nullMode ∨ Counted cfg c count after)) := by
  intro count
  have pattern := length_pos_iff.mpr cfg.terminator_ne
  by_cases continues : cfg.terminator[(host.data c).quitStrMatch.toNat]? = some byte
  · have counts : count = (host.data c).quitStrMatch + 1 := by
      simp [count, nextCount, continues]
    rw [rawRxHandler_of_continues unlimited continues] at ran
    rw [counts]
    exact (advanceQuitStr_counted session unlimited ran).imp_right
      fun later => ⟨later.1, .inr later.2⟩
  · have counts : count = UInt8.ofNat (restartFallback cfg.terminator byte) := by
      simp [count, nextCount, continues]
    rw [counts]
    by_cases pending : 0 < (host.data c).quitStrMatch
    · rw [rawRxHandler_of_refused unlimited continues pending] at ran
      obtain ⟨written, write, restart⟩ := bind_eq_some_iff.mp ran
      obtain ⟨result, returned, confined⟩ := writeDataBuf_spec cfg env
        session.getCurrent (partialMatch_nonempty host pending)
        session.partialMatch_fits
      rw [write] at returned
      cases returned
      have restartedCount : ((setQuitStrMatch c 0 written).data c).quitStrMatch = 0 := by
        simp [setQuitStrMatch]
      rcases confined.outcome with kept | moved
      · obtain ⟨ring, _, equality⟩ := kept.data
        have restarted : InSession cfg c (setQuitStrMatch c 0 written) :=
          (session.of_kept confined kept).setQuitStrMatch pattern
        refine rawRxUnmatched_counted restarted ?_ restartedCount restart
        simpa [setQuitStrMatch, equality] using unlimited
      · have long : 1 < cfg.terminator.length := by
          have positive : 0 < (host.data c).quitStrMatch.toNat := pending
          have matched := session.matched
          omega
        have small := restartFallback_le_one cfg.terminator byte
        refine .inr ⟨by rw [UInt8.toNat_ofNat']; omega, Or.inl ?_⟩
        refine rawRxUnmatched_nullMode ?_ restartedCount long restart
        rw [setQuitStrMatch_atMode]
        exact moved.nullMode
    · have unmatched := count_eq_zero pending
      rw [rawRxHandler_of_unmatched unlimited unmatched] at ran
      exact rawRxUnmatched_counted session unlimited unmatched ran

/-- The view of `c` has become `state`; everything else that matters for data
mode is as before. -/
structure Becomes (c : CtxId) (state : DataState × Session)
    (before after : Host) : Prop where
  frame : Frame before after
  internal : Appends Internal before after
  current : after.currentCtx = before.currentCtx
  own : view c after = state
  others : ∀ d, d ≠ c → view d after = view d before

namespace Becomes

theorem trans {first second third : Host} {middle last : DataState × Session}
    (left : Becomes c middle first second)
    (right : Becomes c last second third) : Becomes c last first third where
  frame := left.frame.trans right.frame
  internal := left.internal.trans right.internal
  current := right.current.trans left.current
  own := right.own
  others d different :=
    (right.others d different).trans (left.others d different)

theorem setData (host : Host) (data : DataState) :
    Becomes c (data, session c host.history) host (host.setData c data) where
  frame := Frame.setData host c data
  internal := Appends.of_eq rfl
  current := rfl
  own := by rw [view, Host.data_setData_self, Host.history_setData]
  others := (ActsOn.setData host c data).others

theorem of_kept {host after : Host} (confined : Confined cfg c host after)
    (kept : Kept c host after) :
    Becomes c ({ host.data c with dataRb := (after.data c).dataRb },
        { session c host.history with consumed := consumedBytes c after })
      host after where
  frame := confined.frame
  internal := confined.internal
  current := kept.current
  own := by
    obtain ⟨ring, _, equality⟩ := kept.data
    obtain ⟨requested, received⟩ :=
      session_of_appends_internal (c := c) confined.internal
    have dropped := kept.dropped
    unfold droppedBytes at dropped
    rw [view, equality]
    cases later : session c after.history
    simp_all [consumedBytes]
  others d different := by
    rw [view, (confined.others d different).1, (confined.others d different).2, view]

theorem of_settled {host after : Host} {data : DataState}
    (settled : Settled cfg c data host after) :
    Becomes c (data, session c host.history) host after where
  frame := settled.frame
  internal := settled.internal
  current := settled.current
  own := by rw [view, settled.data, settled.sessions c]
  others d different := by
    rw [view, settled.others d different, settled.sessions d, view]

end Becomes

def Progress (cfg : Config) (c : CtxId) (count : UInt8) (dataLen : UInt32)
    (accepted : List Byte) (before after : Host) : Prop :=
  ∃ (ring : RingBuffer Byte) (consumed : List Byte),
    ring.size = cfg.datamodeBufSize ∧
    consumed ++ ring.content = accepted ∧
    Becomes c
      ({ before.data c with
          dataRb := ring
          quitStrMatch := count
          dataLen := dataLen },
        { session c before.history with consumed := consumed })
      before after

def Finished (cfg : Config) (c : CtxId) (consumed : List Byte) (before after : Host) : Prop :=
  (∃ ring : RingBuffer Byte,
    ring.size = cfg.datamodeBufSize ∧ ring.content = [] ∧
    Becomes c ({ (before.data c).cleared with dataRb := ring },
        { session c before.history with consumed := consumed })
      before after) ∧
  ∃ events later, after.history = before.history ++ events ++ [.rspSend c (.xdatamode
      (if (before.data c).handlerResult = 0 then 0 else -1))] ++ later

section Consumption

variable {count : UInt8} {dataLen : UInt32} {accepted : List Byte}

variable {host after : Host}

theorem Progress.attended (session : Attended cfg c host)
    (progress : Progress cfg c count dataLen accepted host after) :
    Attended cfg c after := by
  obtain ⟨ring, consumed, size, _, becomes⟩ := progress
  have data : after.data c = _ := congrArg Prod.fst becomes.own
  refine ⟨becomes.frame.instanceList ▸ session.live,
    becomes.current.trans session.current, ?_, ?_, ?_⟩
  · rw [data]
    exact session.mode
  · rw [data]
    exact session.handler
  · rw [data]
    exact size

theorem Progress.acceptedBytes_eq (progress : Progress cfg c count dataLen accepted host after) :
    acceptedBytes c after = accepted := by
  obtain ⟨ring, consumed, _, total, becomes⟩ := progress
  have data : after.data c = _ := congrArg Prod.fst becomes.own
  have record : session c after.history = _ := congrArg Prod.snd becomes.own
  rw [acceptedBytes, consumedBytes, data, record]
  exact total

theorem Progress.counters (progress : Progress cfg c count dataLen accepted host after) :
    (after.data c).quitStrMatch = count ∧ (after.data c).dataLen = dataLen ∧
      (after.data c).handlerResult = (host.data c).handlerResult := by
  obtain ⟨ring, consumed, _, _, becomes⟩ := progress
  have data : after.data c = _ := congrArg Prod.fst becomes.own
  rw [data]
  exact ⟨rfl, rfl, rfl⟩

variable {first second third : Host}

theorem Progress.trans {laterCount : UInt8} {laterLen : UInt32} {laterAccepted : List Byte}
    (left : Progress cfg c count dataLen accepted first second)
    (right : Progress cfg c laterCount laterLen laterAccepted second third) :
    Progress cfg c laterCount laterLen laterAccepted first third := by
  obtain ⟨_, _, _, _, leftBecomes⟩ := left
  obtain ⟨ring, consumed, size, total, rightBecomes⟩ := right
  refine ⟨ring, consumed, size, total, ?_⟩
  have data : second.data c = _ := congrArg Prod.fst leftBecomes.own
  have record : session c second.history = _ :=
    congrArg Prod.snd leftBecomes.own
  have whole := leftBecomes.trans rightBecomes
  rw [data, record] at whole
  exact whole

theorem Progress.setCounters (session : Attended cfg c host) (count : UInt8) (dataLen : UInt32) :
    Progress cfg c count dataLen (acceptedBytes c host) host (host.setData c
        { host.data c with quitStrMatch := count, dataLen := dataLen }) :=
  ⟨(host.data c).dataRb, consumedBytes c host, session.sized, rfl, Becomes.setData host _⟩

theorem Progress.setQuitStrMatch (session : Attended cfg c host) (count : UInt8) :
    Progress cfg c count (host.data c).dataLen (acceptedBytes c host) host
      (setQuitStrMatch c count host) :=
  Progress.setCounters session count (host.data c).dataLen

theorem writeDataBuf_progress (consuming : Consuming env c)
    {content : List Byte} (session : Attended cfg c host)
    (nonempty : content ≠ [])
    (short : content.length ≤ (host.data c).dataRb.size) :
    ∃ after, writeDataBuf cfg env content host = some after ∧
      Progress cfg c (host.data c).quitStrMatch (host.data c).dataLen
        (acceptedBytes c host ++ content) host after := by
  obtain ⟨after, ran, confined, kept, total⟩ :=
    writeDataBuf_consuming cfg consuming session.getCurrent session.handler nonempty short
  refine ⟨after, ran, (after.data c).dataRb, consumedBytes c after, ?_,
    total, Becomes.of_kept confined kept⟩
  rw [confined.size]
  exact session.sized

theorem rawSend_progress (consuming : Consuming env c) (flags : Flags)
    (session : Attended cfg c host) :
    ∃ after, rawSend cfg env flags host = some after ∧
      Progress cfg c (host.data c).quitStrMatch (host.data c).dataLen
        (acceptedBytes c host) host after ∧
      (after.data c).dataRb.content = [] := by
  obtain ⟨after, ran, confined, kept, empty, consumed⟩ :=
    rawSend_consuming cfg consuming flags session.getCurrent session.handler
  refine ⟨after, ran, ⟨(after.data c).dataRb, consumedBytes c after, ?_,
    ?_, Becomes.of_kept confined kept⟩, empty⟩
  · rw [confined.size]
    exact session.sized
  · rw [empty, append_nil, consumed]

/-- The flush after inactivity turns the partial match into data and leaves
the ring empty. -/
theorem rawSendScheduled_progress (consuming : Consuming env c)
    (session : Attended cfg c (host.setCurrentCtx (some c))) :
    ∃ inner, rawSendScheduled cfg env c host = some (inner.setCurrentCtx none) ∧
      Progress cfg c 0 (host.data c).dataLen (acceptedBytes c host ++
          cfg.terminator.take (host.data c).quitStrMatch.toNat)
        (host.setCurrentCtx (some c)) inner ∧
      (inner.data c).dataRb.content = [] := by
  change ∃ inner, _ ∧ Progress cfg c 0 ((host.setCurrentCtx (some c)).data c).dataLen
    (acceptedBytes c (host.setCurrentCtx (some c)) ++ cfg.terminator.take
        ((host.setCurrentCtx (some c)).data c).quitStrMatch.toNat) _ inner ∧ _
  unfold rawSendScheduled
  dsimp only
  generalize host.setCurrentCtx (some c) = served at session ⊢
  by_cases pending : 0 < (served.data c).quitStrMatch
  · rw [if_pos pending]
    obtain ⟨written, write, progress⟩ := writeDataBuf_progress consuming
      session (partialMatch_nonempty served pending) session.partialMatch_fits
    have restarts := progress.trans (Progress.setQuitStrMatch (progress.attended session) 0)
    rw [progress.counters.2.1, progress.acceptedBytes_eq] at restarts
    obtain ⟨inner, flushed, sent, empty⟩ := rawSend_progress consuming
      Flags.none (restarts.attended session)
    have whole := restarts.trans sent
    rw [restarts.counters.1, restarts.counters.2.1, restarts.acceptedBytes_eq] at whole
    refine ⟨inner, ?_, whole, empty⟩
    rw [write, map_some]
    simp only [flushed, map_some]
  · rw [if_neg pending]
    have unmatched := count_eq_zero pending
    obtain ⟨inner, flushed, sent, empty⟩ :=
      rawSend_progress consuming Flags.none session
    rw [unmatched] at sent ⊢
    refine ⟨inner, by simp only [flushed, map_some], ?_, empty⟩
    rw [UInt8.toNat_zero, take_zero, append_nil]
    exact sent

theorem rawSend_finished (consuming : Consuming env c) (session : Attended cfg c host) :
    ∃ after, (rawSend cfg env Flags.none host).map (exitDatamode cfg env c) = some after ∧
      Finished cfg c (acceptedBytes c host) host after := by
  obtain ⟨sent, ran, confined, kept, _, consumed⟩ :=
    rawSend_consuming cfg consuming Flags.none session.getCurrent session.handler
  have sentSession := session.of_kept confined kept
  obtain ⟨settled, answer⟩ :=
    exitDatamode_spec cfg env sentSession.live sentSession.left
  have sentBecomes := Becomes.of_kept confined kept
  have data : sent.data c = _ := congrArg Prod.fst sentBecomes.own
  have record : AtHost.session c sent.history = _ :=
    congrArg Prod.snd sentBecomes.own
  refine ⟨exitDatamode cfg env c sent, by rw [ran]; rfl, ?_, ?_⟩
  · refine ⟨(sent.data c).dataRb.reset, ?_, rfl, ?_⟩
    · rw [RingBuffer.reset_size, confined.size]
      exact session.sized
    · have whole := sentBecomes.trans (Becomes.of_settled settled)
      rw [record, consumed, data] at whole
      exact whole
  · obtain ⟨early, history, _⟩ := confined.internal
    obtain ⟨events, later, total⟩ := answer (.inl sentSession.current)
    have sameResult : (sent.data c).handlerResult = (host.data c).handlerResult := by rw [data]
    refine ⟨early ++ events, later, ?_⟩
    rw [total, history, sameResult]
    simp

theorem Progress.finished {consumed : List Byte}
    (progress : Progress cfg c count dataLen accepted first second)
    (finished : Finished cfg c consumed second third) :
    Finished cfg c consumed first third := by
  obtain ⟨_, _, _, _, left⟩ := progress
  obtain ⟨⟨ring, size, empty, right⟩, events, later, answer⟩ := finished
  obtain ⟨early, history, _⟩ := left.internal
  have data : second.data c = _ := congrArg Prod.fst left.own
  have record : session c second.history = _ := congrArg Prod.snd left.own
  refine ⟨⟨ring, size, empty, ?_⟩, early ++ events, later, ?_⟩
  · have whole := left.trans right
    rw [data, record] at whole
    exact whole
  · rw [answer, history, data]
    simp

theorem Finished.setQuitStrMatch {consumed : List Byte}
    (finished : Finished cfg c consumed host after) :
    Finished cfg c consumed host (setQuitStrMatch c 0 after) := by
  obtain ⟨⟨ring, size, empty, becomes⟩, events, later, answer⟩ := finished
  have data : after.data c = _ := congrArg Prod.fst becomes.own
  have unchanged : AtHost.setQuitStrMatch c 0 after = after := by
    have same : { after.data c with quitStrMatch := 0 } = after.data c := by
      rw [data]
      rfl
    rw [AtHost.setQuitStrMatch, same, Host.setData_data]
  rw [unchanged]
  exact ⟨⟨ring, size, empty, becomes⟩, events, later, answer⟩

def Continued (cfg : Config) (c : CtxId) (count : UInt8)
    (before spilled : List Byte) (host after : Host) : Prop :=
  (count.toNat = cfg.terminator.length ∧ spilled = [] ∧ Finished cfg c before host after) ∨
    (count.toNat < cfg.terminator.length ∧ Progress cfg c count 0 (before ++ spilled) host after)

theorem Progress.continued {before spilled : List Byte}
    (progress : Progress cfg c count dataLen accepted first second)
    {laterCount : UInt8}
    (continued : Continued cfg c laterCount before spilled second third) :
    Continued cfg c laterCount before spilled first third := by
  rcases continued with ⟨complete, nothing, finished⟩ | ⟨below, later⟩
  · exact .inl ⟨complete, nothing, progress.finished finished⟩
  · exact .inr ⟨below, progress.trans later⟩

theorem advanceQuitStr_continued (consuming : Consuming env c)
    (session : InSession cfg c host) (unlimited : (host.data c).dataLen = 0) :
    ∃ after, advanceQuitStr cfg env c host = some after ∧
      Continued cfg c ((host.data c).quitStrMatch + 1) (acceptedBytes c host) [] host after := by
  let count := (host.data c).quitStrMatch + 1
  have counting : Progress cfg c count 0 (acceptedBytes c host) host
      (setQuitStrMatch c count host) :=
    unlimited ▸ Progress.setQuitStrMatch session.toAttended count
  by_cases complete : count.toNat = cfg.terminator.length
  · obtain ⟨exited, ran, finished⟩ := rawSend_finished consuming
      (session.toAttended.setQuitStrMatch count)
    obtain ⟨sent, flushed, rfl⟩ := map_eq_some_iff.mp ran
    refine ⟨setQuitStrMatch c 0 (exitDatamode cfg env c sent), ?_, .inl ⟨complete, rfl, ?_⟩⟩
    · unfold advanceQuitStr
      dsimp only
      rw [if_pos complete, flushed]
      rfl
    · rw [counting.acceptedBytes_eq] at finished
      exact (counting.finished finished).setQuitStrMatch
  · have below : count.toNat < cfg.terminator.length := by
      have matched := session.matched
      have next : count.toNat = ((host.data c).quitStrMatch.toNat + 1) % 256 :=
        UInt8.toNat_add _ _
      omega
    refine ⟨_, advanceQuitStr_of_incomplete complete, .inr ⟨below, ?_⟩⟩
    rw [append_nil]
    exact counting

theorem rawRxUnmatched_continued (consuming : Consuming env c)
    (session : InSession cfg c host) (unlimited : (host.data c).dataLen = 0)
    (unmatched : (host.data c).quitStrMatch = 0) (byte : Byte) :
    ∃ after, rawRxUnmatched cfg env c byte host = some after ∧
      Continued cfg c (UInt8.ofNat (restartFallback cfg.terminator byte)) (acceptedBytes c host)
        (if cfg.terminator[0]? = some byte then [] else [byte])
        host after := by
  unfold rawRxUnmatched restartFallback
  by_cases starts : cfg.terminator[0]? = some byte
  · simp only [if_pos starts]
    obtain ⟨after, ran, continued⟩ :=
      advanceQuitStr_continued consuming session unlimited
    rw [unmatched] at continued
    exact ⟨after, ran, continued⟩
  · simp only [if_neg starts]
    obtain ⟨after, ran, progress⟩ := writeDataBuf_progress consuming
      session.toAttended (by simp) (session.byte_fits byte)
    rw [unmatched, unlimited] at progress
    exact ⟨after, ran, .inr ⟨length_pos_iff.mpr cfg.terminator_ne, progress⟩⟩

def spilled (cfg : Config) (count : UInt8) (byte : Byte) : List Byte :=
  if cfg.terminator[count.toNat]? = some byte then
    []
  else
    cfg.terminator.take count.toNat ++
      if cfg.terminator[0]? = some byte then [] else [byte]

theorem spilled_append (short : cfg.terminator.length ≤ 255) {count : UInt8}
    (matched : count.toNat < cfg.terminator.length) (byte : Byte) :
    spilled cfg count byte ++ cfg.terminator.take
        (nextCount cfg (restartFallback cfg.terminator) count byte).toNat =
      cfg.terminator.take count.toNat ++ [byte] := by
  rw [nextCount_toNat (restartFallback_le_one cfg.terminator) short matched]
  unfold spilled
  by_cases continues : cfg.terminator[count.toNat]? = some byte
  · rw [if_pos continues, advance_of_match continues, nil_append, take_add_one, continues]
    rfl
  · rw [if_neg continues, advance_of_mismatch continues, restartFallback, append_assoc]
    by_cases starts : cfg.terminator[0]? = some byte
    · rw [if_pos starts, if_pos starts, nil_append, take_add_one, take_zero, starts]
      rfl
    · rw [if_neg starts, if_neg starts, take_zero, append_nil]

theorem rawRxHandler_unlimited (consuming : Consuming env c)
    (session : InSession cfg c host) (unlimited : (host.data c).dataLen = 0)
    (byte : Byte) :
    ∃ after, rawRxHandler cfg env c byte host = some after ∧ Continued cfg c
        (nextCount cfg (restartFallback cfg.terminator) (host.data c).quitStrMatch byte)
        (acceptedBytes c host) (spilled cfg (host.data c).quitStrMatch byte)
        host after := by
  unfold spilled nextCount
  by_cases continues : cfg.terminator[(host.data c).quitStrMatch.toNat]? = some byte
  · rw [rawRxHandler_of_continues unlimited continues]
    simp only [if_pos continues]
    exact advanceQuitStr_continued consuming session unlimited
  · simp only [if_neg continues]
    by_cases pending : 0 < (host.data c).quitStrMatch
    · rw [rawRxHandler_of_refused unlimited continues pending]
      obtain ⟨written, write, progress⟩ := writeDataBuf_progress consuming
        session.toAttended (partialMatch_nonempty host pending)
        session.partialMatch_fits
      have attended := progress.attended session.toAttended
      have restarts := progress.trans (Progress.setQuitStrMatch attended 0)
      rw [progress.counters.2.1, unlimited, progress.acceptedBytes_eq] at restarts
      have restarted : InSession cfg c (setQuitStrMatch c 0 written) := by
        refine ⟨restarts.attended session.toAttended, ?_⟩
        rw [restarts.counters.1]
        exact length_pos_iff.mpr cfg.terminator_ne
      obtain ⟨after, ran, continued⟩ := rawRxUnmatched_continued consuming
        restarted restarts.counters.2.1 restarts.counters.1 byte
      refine ⟨after, by rw [write]; exact ran, ?_⟩
      rcases restarts.continued continued with
        ⟨complete, _, _⟩ | ⟨below, whole⟩
      · -- A partial match means that one byte does not complete it.
        have positive : 0 < (host.data c).quitStrMatch.toNat := pending
        have matched := session.matched
        have small := restartFallback_le_one cfg.terminator byte
        rw [UInt8.toNat_ofNat'] at complete
        omega
      · rw [restarts.acceptedBytes_eq, append_assoc] at whole
        exact .inr ⟨below, whole⟩
    · have unmatched := count_eq_zero pending
      rw [rawRxHandler_of_unmatched unlimited unmatched, unmatched]
      exact rawRxUnmatched_continued consuming session unlimited unmatched byte

theorem rawRxHandler_limited (consuming : Consuming env c)
    (session : Attended cfg c host) (limited : 0 < (host.data c).dataLen)
    (byte : Byte) :
    ∃ after, rawRxHandler cfg env c byte host = some after ∧
      if (host.data c).dataLen - 1 = 0 then
        Finished cfg c (acceptedBytes c host ++ [byte]) host after
      else
        Progress cfg c (host.data c).quitStrMatch
          ((host.data c).dataLen - 1) (acceptedBytes c host ++ [byte])
          host after := by
  obtain ⟨written, write, progress⟩ := writeDataBuf_progress consuming
    session (by simp) (session.byte_fits byte)
  let counted := written.setData c { written.data c with dataLen := (written.data c).dataLen - 1 }
  have counting := progress.trans (Progress.setCounters (progress.attended session)
      (written.data c).quitStrMatch ((written.data c).dataLen - 1))
  change Progress cfg c _ _ _ host counted at counting
  have unfolded : rawRxHandler cfg env c byte host =
      if (written.data c).dataLen - 1 = 0 then
        (rawSend cfg env Flags.none counted).map (exitDatamode cfg env c)
      else
        some counted := by
    unfold rawRxHandler
    rw [if_pos limited, write]
  rw [unfolded]
  obtain ⟨sameCount, sameLen, _⟩ := progress.counters
  rw [sameLen, sameCount, progress.acceptedBytes_eq] at counting
  rw [sameLen]
  by_cases last : (host.data c).dataLen - 1 = 0
  · simp only [if_pos last]
    obtain ⟨after, ran, finished⟩ :=
      rawSend_finished consuming (counting.attended session)
    rw [counting.acceptedBytes_eq] at finished
    exact ⟨after, ran, counting.finished finished⟩
  · simp only [if_neg last]
    exact ⟨counted, rfl, counting⟩

end Consumption

end SerialModem.AtHost
