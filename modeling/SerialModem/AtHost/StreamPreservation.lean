import SerialModem.AtHost.OpenSession
import SerialModem.AtHost.RawSession

/-!
# Preservation of the data stream

Between two bytes, the bytes of a session are in three places: consumed by the
handler, in the data ring, or in a partial match that is stored nowhere.  With
handlers that consume what they are given, no order of bytes, flushes and work
items loses, doubles or reorders one of them.  A session with a requested
length ends with the byte that completes it.
-/

namespace SerialModem.AtHost

open Library Library.PatternMatching List

variable {cfg : Config} {env : Environment}

/-! ## The invariant of a context -/

structure Streaming (cfg : Config) (state : DataState × Session) : Prop where
  handler : state.1.handler.isSome
  result : state.1.handlerResult = 0
  undropped : state.2.dropped = none
  matched : state.1.quitStrMatch.toNat < cfg.terminator.length
  accounts : (state.2.requestedLen = 0 ∧ state.1.dataLen = 0 ∧
      (cfg.terminator.length ≤ 255 → state.2.received =
          state.2.consumed ++ state.1.dataRb.content ++
            cfg.terminator.take state.1.quitStrMatch.toNat)) ∨
    (state.1.quitStrMatch = 0 ∧ 0 < state.1.dataLen ∧
      state.2.received = state.2.consumed ++ state.1.dataRb.content ∧
      state.2.received.length + state.1.dataLen.toNat = state.2.requestedLen.toNat)

def Delivered (record : Session) : Prop :=
  record.dropped = none → 0 < record.requestedLen →
    record.requestedLen.toNat ≤ record.received.length ∧
      record.consumed = record.received.take record.requestedLen.toNat

structure Preserved (cfg : Config) (state : DataState × Session) : Prop where
  dataMode : state.1.atMode = .dataMode → Streaming cfg state
  atMode : state.1.atMode = .atCommandMode → state.1.quitStrMatch = 0 ∧ state.1.handlerResult = 0 ∧
      state.1.dataRb.content = [] ∧ Delivered state.2
  nullMode : state.1.atMode = .nullMode → state.2.dropped ≠ none

variable {state : DataState × Session}

theorem Preserved.of_nullMode (mode : state.1.atMode = .nullMode)
    (dropped : state.2.dropped ≠ none) : Preserved cfg state where
  dataMode isData := by simp [mode] at isData
  atMode isAt := by simp [mode] at isAt
  nullMode _ := dropped

theorem Preserved.of_dataMode (mode : state.1.atMode = .dataMode)
    (streaming : Streaming cfg state) : Preserved cfg state where
  dataMode _ := streaming
  atMode isAt := by simp [mode] at isAt
  nullMode isNull := by simp [mode] at isNull

theorem Preserved.of_atMode (mode : state.1.atMode = .atCommandMode)
    (clean : state.1.quitStrMatch = 0 ∧ state.1.handlerResult = 0 ∧
      state.1.dataRb.content = [] ∧ Delivered state.2) :
    Preserved cfg state where
  dataMode isData := by simp [mode] at isData
  atMode _ := clean
  nullMode isNull := by simp [mode] at isNull

theorem Delivered.receive {record : Session} (delivered : Delivered record)
    (byte : Byte) : Delivered (record.receive byte) := by
  intro undropped limited
  obtain ⟨enough, taken⟩ := delivered (by simpa [Session.receive] using undropped) limited
  refine ⟨?_, ?_⟩
  · simp only [Session.receive, length_append]
    omega
  · simpa [Session.receive, take_append_of_le_length enough] using taken

theorem Preserved.entry {live : Prop} {before after : DataState × Session}
    (preserved : Preserved cfg before) (entry : Entry cfg live before after) :
    Preserved cfg after := by
  cases entry with
  | timeLimit data record limit =>
    refine ⟨fun mode => ?_, preserved.atMode, preserved.nullMode⟩
    have streaming := preserved.dataMode mode
    exact ⟨streaming.handler, streaming.result, streaming.undropped,
      streaming.matched, streaming.accounts⟩
  | enter data record ring handler dataLen limit _ mode _ empty _ =>
    obtain ⟨unmatched, result, _, _⟩ := preserved.atMode mode
    change data.quitStrMatch = 0 at unmatched
    refine Preserved.of_dataMode rfl ⟨rfl, result, rfl, ?_, ?_⟩
    · simpa [unmatched] using length_pos_iff.mpr cfg.terminator_ne
    · by_cases zero : dataLen = 0
      · exact .inl ⟨zero, zero, fun _ => by simp [empty, unmatched]⟩
      · refine .inr ⟨unmatched, UInt32.pos_iff_ne_zero.mpr zero, ?_, ?_⟩
        · simp [empty]
        · simp

theorem Preserved.entries {live : Prop} {before after : DataState × Session}
    (preserved : Preserved cfg before)
    (entries : Relation.ReflTransGen (Entry cfg live) before after) :
    Preserved cfg after := by
  induction entries with
  | refl => exact preserved
  | tail _ entry ih => exact ih.entry entry

/-! ## One byte of data mode -/

section Byte

variable {c : CtxId}

variable {host after : Host}

theorem Finished.becomes {consumed : List Byte} (finished : Finished cfg c consumed host after) :
    Becomes c (view c after) host after := by
  obtain ⟨⟨_, _, _, becomes⟩, _⟩ := finished
  exact becomes.own ▸ becomes

theorem Progress.becomes {count : UInt8} {dataLen : UInt32} {accepted : List Byte}
    (progress : Progress cfg c count dataLen accepted host after) :
    Becomes c (view c after) host after := by
  obtain ⟨_, _, _, _, becomes⟩ := progress
  exact becomes.own ▸ becomes

theorem Finished.preserved {consumed : List Byte} (finished : Finished cfg c consumed host after)
    (delivered : Delivered { session c host.history with consumed := consumed }) :
    Preserved cfg (view c after) := by
  obtain ⟨⟨ring, _, empty, becomes⟩, _⟩ := finished
  rw [becomes.own]
  exact Preserved.of_atMode rfl ⟨rfl, rfl, empty, delivered⟩

theorem Progress.preserved {count : UInt8} {dataLen : UInt32}
    {accepted : List Byte} (attended : Attended cfg c host)
    (progress : Progress cfg c count dataLen accepted host after)
    (result : (host.data c).handlerResult = 0)
    (undropped : (session c host.history).dropped = none)
    (matched : count.toNat < cfg.terminator.length)
    (accounts : ((session c host.history).requestedLen = 0 ∧ dataLen = 0 ∧
        (cfg.terminator.length ≤ 255 → (session c host.history).received =
            accepted ++ cfg.terminator.take count.toNat)) ∨
      (count = 0 ∧ 0 < dataLen ∧ (session c host.history).received = accepted ∧
        (session c host.history).received.length + dataLen.toNat =
          (session c host.history).requestedLen.toNat)) :
    Preserved cfg (view c after) := by
  obtain ⟨ring, consumed, _, total, becomes⟩ := progress
  rw [becomes.own]
  subst total
  exact Preserved.of_dataMode attended.mode ⟨attended.handler, result, undropped, matched, accounts⟩

variable {record : Session} {byte : Byte}

theorem rawRxHandler_preserves_unlimited (consuming : Consuming env c)
    (attended : Attended cfg c host)
    (received : session c host.history = record.receive byte)
    (streaming : Streaming cfg (host.data c, record))
    (unlimited : record.requestedLen = 0 ∧ (host.data c).dataLen = 0 ∧
      (cfg.terminator.length ≤ 255 →
        record.received = record.consumed ++ (host.data c).dataRb.content ++
          cfg.terminator.take (host.data c).quitStrMatch.toNat)) :
    ∃ after, rawRxHandler cfg env c byte host = some after ∧
      Becomes c (view c after) host after ∧ Preserved cfg (view c after) ∧
      ((after.data c).atMode = .atCommandMode → cfg.terminator.length ≤ 255 →
        (session c after.history).received =
          (session c after.history).consumed ++ cfg.terminator) := by
  obtain ⟨notRequested, noLen, accounts⟩ := unlimited
  obtain ⟨after, handled, continued⟩ := rawRxHandler_unlimited consuming
    ⟨attended, streaming.matched⟩ noLen byte
  have accepted : acceptedBytes c host = record.consumed ++ (host.data c).dataRb.content := by
    rw [acceptedBytes, consumedBytes, received]
    rfl
  have undropped : (session c host.history).dropped = none := by
    have before : record.dropped = none := streaming.undropped
    rw [received, Session.receive, before]
    rfl
  have total : cfg.terminator.length ≤ 255 →
      (session c host.history).received = acceptedBytes c host ++
        (spilled cfg (host.data c).quitStrMatch byte ++
          cfg.terminator.take (nextCount cfg (restartFallback cfg.terminator)
            (host.data c).quitStrMatch byte).toNat) := by
    intro short
    rw [spilled_append short streaming.matched, accepted, received]
    simp [Session.receive, accounts short]
  refine ⟨after, handled, ?_⟩
  rcases continued with ⟨complete, nothing, finished⟩ | ⟨below, progress⟩
  · refine ⟨finished.becomes, finished.preserved ?_, fun _ short => ?_⟩
    · intro _ limited
      rw [received] at limited
      exact absurd notRequested (UInt32.pos_iff_ne_zero.mp limited)
    · have whole := total short
      rw [nothing, complete, nil_append, take_length] at whole
      obtain ⟨⟨ring, _, _, becomes⟩, _⟩ := finished
      have own : session c after.history = _ :=
        congrArg Prod.snd becomes.own
      rw [own]
      exact whole
  · refine ⟨progress.becomes, progress.preserved attended streaming.result
      undropped below (.inl ⟨?_, rfl, fun short => ?_⟩), fun left => ?_⟩
    · rw [received]
      exact notRequested
    · rw [total short, append_assoc]
    · exact absurd left (progress.attended attended).left

theorem rawRxHandler_preserves_limited (consuming : Consuming env c)
    (attended : Attended cfg c host)
    (received : session c host.history = record.receive byte)
    (streaming : Streaming cfg (host.data c, record))
    (limited : (host.data c).quitStrMatch = 0 ∧ 0 < (host.data c).dataLen ∧
      record.received = record.consumed ++ (host.data c).dataRb.content ∧
      record.received.length + (host.data c).dataLen.toNat = record.requestedLen.toNat) :
    ∃ after, rawRxHandler cfg env c byte host = some after ∧
      Becomes c (view c after) host after ∧ Preserved cfg (view c after) ∧
      (session c after.history).dropped = none ∧
      (record.received.length + 1 = record.requestedLen.toNat →
        ∃ events later, after.history = host.history ++ events ++
          [.rspSend c (.xdatamode 0)] ++ later) := by
  obtain ⟨unmatched, positive, accounts, remaining⟩ := limited
  obtain ⟨after, handled, outcome⟩ :=
    rawRxHandler_limited consuming attended positive byte
  have whole : (session c host.history).received = acceptedBytes c host ++ [byte] := by
    rw [acceptedBytes, consumedBytes, received]
    simp [Session.receive, accounts]
  have undropped : (session c host.history).dropped = none := by
    have before : record.dropped = none := streaming.undropped
    rw [received, Session.receive, before]
    rfl
  have longer : (session c host.history).received.length = record.received.length + 1 := by
    rw [received]
    simp [Session.receive]
  have sameLen : (session c host.history).requestedLen =
      record.requestedLen := by rw [received]; rfl
  have next := dataLen_sub_one positive
  have counted : 0 < (host.data c).dataLen.toNat := positive
  have result : (host.data c).handlerResult = 0 := streaming.result
  refine ⟨after, handled, ?_⟩
  by_cases last : (host.data c).dataLen - 1 = 0
  · rw [if_pos last] at outcome
    rw [last, UInt32.toNat_zero] at next
    refine ⟨outcome.becomes, outcome.preserved fun _ _ => ?_, ?_, fun _ => ?_⟩
    · change (session c host.history).requestedLen.toNat ≤
          (session c host.history).received.length ∧
        acceptedBytes c host ++ [byte] = (session c host.history).received.take
            (session c host.history).requestedLen.toNat
      rw [← whole, sameLen]
      refine ⟨by omega, (take_of_length_le ?_).symm⟩
      omega
    · obtain ⟨⟨ring, _, _, becomes⟩, _⟩ := outcome
      have own : session c after.history = _ := congrArg Prod.snd becomes.own
      rw [own]
      exact undropped
    · obtain ⟨_, events, later, answer⟩ := outcome
      rw [result, if_pos rfl] at answer
      exact ⟨events, later, answer⟩
  · rw [if_neg last] at outcome
    have more : 0 < (host.data c).dataLen - 1 :=
      UInt32.pos_iff_ne_zero.mpr last
    have moreCounted : 0 < ((host.data c).dataLen - 1).toNat := more
    refine ⟨outcome.becomes, outcome.preserved attended result undropped
      streaming.matched (.inr ⟨unmatched, more, whole, ?_⟩), ?_, ?_⟩
    · rw [longer, sameLen, next]
      omega
    · obtain ⟨ring, consumed, _, _, becomes⟩ := outcome
      have own : session c after.history = _ := congrArg Prod.snd becomes.own
      rw [own]
      exact undropped
    · intro impossible
      omega

theorem rawRxHandler_preserves (consuming : Consuming env c) (attended : Attended cfg c host)
    (received : session c host.history = record.receive byte)
    (streaming : Streaming cfg (host.data c, record)) :
    ∃ after, rawRxHandler cfg env c byte host = some after ∧ Becomes c (view c after) host after ∧
      Preserved cfg (view c after) := by
  rcases streaming.accounts with unlimited | limited
  · obtain ⟨after, handled, becomes, preserved, _⟩ :=
      rawRxHandler_preserves_unlimited consuming attended received streaming unlimited
    exact ⟨after, handled, becomes, preserved⟩
  · obtain ⟨after, handled, becomes, preserved, _⟩ :=
      rawRxHandler_preserves_limited consuming attended received streaming limited
    exact ⟨after, handled, becomes, preserved⟩

end Byte

/-! ## Steps -/

section Steps

variable {c : CtxId}

variable {host : Host}

theorem attended_of_streaming (wellFormed : AllWellFormed cfg host)
    (current : host.currentCtx = some c)
    (mode : (host.data c).atMode = .dataMode)
    (handler : (host.data c).handler.isSome) : Attended cfg c host := by
  obtain ⟨live, sized⟩ := (wellFormed c).left (by simp [view, mode])
  exact ⟨live, current, mode, handler, sized⟩

variable {record : Session} {byte : Byte}

theorem Preserved.receive {data : DataState} (outside : data.atMode ≠ .dataMode)
    (preserved : Preserved cfg (data, record)) :
    Preserved cfg (data, record.receive byte) where
  dataMode isData := absurd isData outside
  atMode isAt := by
    obtain ⟨unmatched, result, empty, delivered⟩ := preserved.atMode isAt
    exact ⟨unmatched, result, empty, delivered.receive byte⟩
  nullMode isNull := by
    have dropped : record.dropped ≠ none := preserved.nullMode isNull
    simpa [Session.receive] using dropped

theorem Preserved.discard {data : DataState} (mode : data.atMode = .nullMode)
    (preserved : Preserved cfg (data, record)) :
    Preserved cfg (data.discard cfg byte, record.receive byte) := by
  have dropped : (record.receive byte).dropped ≠ none := by
    simpa [Session.receive] using preserved.nullMode mode
  unfold DataState.discard
  split
  · split
    · exact Preserved.of_atMode rfl ⟨rfl, rfl, rfl, fun undropped => absurd undropped dropped⟩
    · exact Preserved.of_nullMode mode dropped
  · exact Preserved.of_nullMode mode dropped

variable {after : Host}

theorem handleByte_preserves (consuming : Consuming env c)
    (wellFormed : AllWellFormed cfg host) (current : host.currentCtx = some c)
    (received : session c host.history = record.receive byte)
    (own : Preserved cfg (host.data c, record))
    (others : ∀ d, d ≠ c → Preserved cfg (view d host))
    (ran : handleByte cfg env c byte host = some after) :
    (∀ d, Preserved cfg (view d after)) ∧ after.currentCtx = host.currentCtx := by
  have all : (host.data c).atMode ≠ .dataMode → ∀ d, Preserved cfg (view d host) := by
    intro outside d
    by_cases same : d = c
    · subst same
      rw [view, received]
      exact own.receive outside
    · exact others d same
  rcases handleByte_cases False wellFormed (fun impossible =>
      impossible.elim) ran with
    ⟨mode, commanded⟩ | ⟨mode, raw, _⟩ | ⟨_, mode, settled⟩ | ⟨unknown, rfl⟩
  · refine ⟨fun d => ?_, commanded.current⟩
    exact (all (by simp [mode]) d).entries (commanded.entries d)
  · have streaming := own.dataMode mode
    have attended := attended_of_streaming wellFormed current mode streaming.handler
    obtain ⟨result, handled, becomes, preserved⟩ :=
      rawRxHandler_preserves consuming attended received streaming
    rw [raw] at handled
    cases handled
    refine ⟨fun d => ?_, becomes.current⟩
    by_cases same : d = c
    · subst same
      exact preserved
    · rw [becomes.others d same]
      exact others d same
  · refine ⟨fun d => ?_, settled.current⟩
    by_cases same : d = c
    · subst same
      rw [view, settled.data, settled.sessions d, received]
      exact own.discard mode
    · rw [view, settled.others d same, settled.sessions d]
      exact others d same
  · refine ⟨all fun mode => unknown ?_, rfl⟩
    exact ((wellFormed c).left (by simp [view, mode])).1

theorem rawSendScheduled_nullMode (consuming : Consuming env c)
    (wellFormed : AllWellFormed cfg host)
    (mode : (host.data c).atMode = .nullMode)
    (ran : rawSendScheduled cfg env c host = some after) :
    (after.data c).atMode = .nullMode ∧
      (session c after.history).dropped = (session c host.history).dropped ∧
      ∀ d, d ≠ c → view d after = view d host := by
  have sized : (host.data c).dataRb.size = cfg.datamodeBufSize :=
    ((wellFormed c).left (by simp [view, mode])).2
  unfold rawSendScheduled at ran
  dsimp only at ran
  have served : smAtHostGetCurrent cfg (host.setCurrentCtx (some c)) =
      some c := smAtHostGetCurrent_of_current rfl
  change ((host.setCurrentCtx (some c)).data c).atMode = _ at mode
  change ((host.setCurrentCtx (some c)).data c).dataRb.size = _ at sized
  change _ ∧ (session c after.history).dropped =
    (session c (host.setCurrentCtx (some c)).history).dropped ∧
      ∀ d, d ≠ c → view d after = view d (host.setCurrentCtx (some c))
  generalize host.setCurrentCtx (some c) = start at ran served mode sized ⊢
  -- The part before the flush keeps mode, session and other contexts.
  have prepared : ∀ ready, (if 0 < (start.data c).quitStrMatch then
        (writeDataBuf cfg env (cfg.terminator.take
          (start.data c).quitStrMatch.toNat) start).map (setQuitStrMatch c 0)
        else some start) = some ready →
      smAtHostGetCurrent cfg ready = some c ∧ (ready.data c).atMode = .nullMode ∧
        (session c ready.history).dropped = (session c start.history).dropped ∧
        ∀ d, d ≠ c → view d ready = view d start := by
    intro ready prepare
    split at prepare
    · rename_i pending
      have fits : (cfg.terminator.take (start.data c).quitStrMatch.toNat).length ≤
            (start.data c).dataRb.size := by
        have range := cfg.datamodeBufSize_range
        have short : (cfg.terminator.take (start.data c).quitStrMatch.toNat).length ≤ 255 :=
          partialMatch_short start
        omega
      obtain ⟨written, write, confined, kept⟩ := writeDataBuf_kept cfg
        consuming served (partialMatch_nonempty start pending) fits
      rw [write, Option.map_some] at prepare
      cases prepare
      refine ⟨?_, ?_, kept.dropped, fun d different => ?_⟩
      · rw [setQuitStrMatch_getCurrent, confined.getCurrent_of_kept kept]
        exact served
      · rw [setQuitStrMatch_atMode, kept.atMode]
        exact mode
      · rw [setQuitStrMatch, (ActsOn.setData written c _).others d different]
        exact (Becomes.of_kept confined kept).others d different
    · cases prepare
      exact ⟨served, mode, rfl, fun _ _ => rfl⟩
  split at ran
  · cases ran
  · rename_i ready prepare
    obtain ⟨readyServed, readyMode, readyDropped, readyOthers⟩ :=
      prepared ready prepare
    obtain ⟨inner, flushed, rfl⟩ := Option.map_eq_some_iff.mp ran
    obtain ⟨result, returned, confined, _⟩ :=
      rawSend_spec cfg env Flags.none readyServed
    rw [flushed] at returned
    cases returned
    have kept := rawSend_kept cfg consuming readyServed flushed
    refine ⟨?_, ?_, fun d different => ?_⟩
    · rw [Host.data_setCurrentCtx, kept.atMode]
      exact readyMode
    · exact kept.dropped.trans readyDropped
    · exact ((Becomes.of_kept confined kept).others d different).trans (readyOthers d different)

theorem rawSendScheduled_preserves (consuming : Consuming env c)
    (wellFormed : AllWellFormed cfg host)
    (preserved : ∀ d, Preserved cfg (view d host))
    (ran : rawSendScheduled cfg env c host = some after) :
    ∀ d, Preserved cfg (view d after) := by
  have ofOwn : Preserved cfg (view c after) → (∀ d, d ≠ c → view d after = view d host) →
      ∀ d, Preserved cfg (view d after) := by
    intro own others d
    by_cases same : d = c
    · subst same
      exact own
    · rw [others d same]
      exact preserved d
  cases mode : (host.data c).atMode with
  | atCommandMode =>
    obtain ⟨unmatched, _, empty, _⟩ := (preserved c).atMode mode
    change (host.data c).quitStrMatch = 0 at unmatched
    change (host.data c).dataRb.content = [] at empty
    have flushed : rawSendScheduled cfg env c host = some (((host.setCurrentCtx (some c)).record
          (.rawSend c Flags.none)).setCurrentCtx none) := by
      have sent : rawSend cfg env Flags.none (host.setCurrentCtx (some c)) =
          some ((host.setCurrentCtx (some c)).record (.rawSend c Flags.none)) :=
        rawSend_of_empty cfg env Flags.none (smAtHostGetCurrent_of_current rfl) empty
      simp [rawSendScheduled, unmatched, sent]
    rw [ran] at flushed
    cases flushed
    refine ofOwn ?_ fun d _ => ?_
    · have same : view c (((host.setCurrentCtx (some c)).record
          (.rawSend c Flags.none)).setCurrentCtx none) = view c host := by
        simp [view, Session.next]
      rw [same]
      exact preserved c
    · simp [view, Session.next]
  | dataMode =>
    have streaming := (preserved c).dataMode mode
    have attended : Attended cfg c (host.setCurrentCtx (some c)) :=
      attended_of_streaming (wellFormed : AllWellFormed cfg (host.setCurrentCtx (some c))) rfl mode
        streaming.handler
    obtain ⟨inner, flushed, progress, _⟩ :=
      rawSendScheduled_progress consuming attended
    rw [ran] at flushed
    cases flushed
    refine ofOwn ?_ progress.becomes.others
    have pattern : (0 : UInt8).toNat < cfg.terminator.length :=
      length_pos_iff.mpr cfg.terminator_ne
    change Preserved cfg (view c inner)
    refine progress.preserved attended streaming.result streaming.undropped pattern ?_
    rcases streaming.accounts with ⟨notRequested, noLen, accounts⟩ |
      ⟨unmatched, positive, accounts, remaining⟩
    · refine .inl ⟨notRequested, noLen, fun short => ?_⟩
      simpa [acceptedBytes, consumedBytes, view] using accounts short
    · refine .inr ⟨rfl, positive, ?_, remaining⟩
      change (host.data c).quitStrMatch = 0 at unmatched
      simpa [acceptedBytes, consumedBytes, view, unmatched] using accounts
  | nullMode =>
    obtain ⟨stays, dropped, others⟩ :=
      rawSendScheduled_nullMode consuming wellFormed mode ran
    refine ofOwn (Preserved.of_nullMode stays ?_) others
    change (session c after.history).dropped ≠ none
    rw [dropped]
    exact (preserved c).nullMode mode

structure Healthy (cfg : Config) (host : Host) : Prop where
  preserved : ∀ c, Preserved cfg (view c host)
  current : ∀ c pipe, host.running = .rx c pipe → host.currentCtx = some c

theorem receiveByte_healthy (consuming : ∀ d, Consuming env d)
    (wellFormed : AllWellFormed cfg host) (healthy : Healthy cfg host)
    (taken : step cfg env .receiveByte host = some after) :
    Healthy cfg after := by
  cases step_cases taken with
  | receiveByte c pipe byte rest received running waiting ran =>
    obtain ⟨handled, handling, rfl⟩ := Option.map_eq_some_iff.mp ran
    have offered : AllWellFormed cfg (setPipeRx pipe rest host) := wellFormed
    have current := healthy.current c pipe running
    have record : session c (takeByte c byte (setPipeRx pipe rest host)).history =
          (session c host.history).receive byte :=
      congrArg Prod.snd (takeByte_view_self byte (setPipeRx pipe rest host))
    have own : Preserved cfg ((takeByte c byte (setPipeRx pipe rest host)).data c,
          session c host.history) := by
      rw [takeByte_data]
      exact healthy.preserved c
    have others : ∀ d, d ≠ c → Preserved cfg
        (view d (takeByte c byte (setPipeRx pipe rest host))) := by
      intro d different
      rw [takeByte_view_of_ne byte _ different]
      exact healthy.preserved d
    obtain ⟨preserved, sameCurrent⟩ := handleByte_preserves (consuming c)
      (takeByte_wellFormed offered) current record own others handling
    have started : Undisturbed cfg handled (startInactivityTimer c handled) :=
      startInactivityTimer_undisturbed c handled
    refine ⟨fun d => ?_, fun d p stillRunning => ?_⟩
    · rw [continueRxWork_view, started.view_eq d]
      exact preserved d
    · have sameRunning := (smAtReceive_frame offered ran).running
      unfold continueRxWork at stillRunning ⊢
      split at stillRunning
      · rename_i stays
        rw [if_pos stays, started.current, sameCurrent]
        have same : Running.rx c pipe = .rx d p :=
          (running.symm.trans sameRunning.symm).trans stillRunning
        cases same
        exact current
      · cases stillRunning

theorem step_healthy (consuming : ∀ d, Consuming env d) {action : Action}
    (wellFormed : AllWellFormed cfg host) (healthy : Healthy cfg host)
    (taken : step cfg env action host = some after) : Healthy cfg after := by
  by_cases byte : action = .receiveByte
  · subst byte
    exact receiveByte_healthy consuming wellFormed healthy taken
  · refine ⟨?_, fun c pipe running => ?_⟩
    · rcases step_views taken with ⟨_, same⟩ | rfl | rfl | ⟨c, result, rfl⟩
      · intro d
        rw [same d]
        exact healthy.preserved d
      · exact absurd rfl byte
      · cases step_cases taken with
        | flush c mark flushed _ ran =>
          have preserved := rawSendScheduled_preserves (consuming c)
            wellFormed healthy.preserved ran
          exact preserved
      · cases step_cases taken with
        | exitDatamodeHandler c result _ =>
          rcases exitDatamodeHandler_spec cfg env c result host with
            unchanged | ⟨confined, moved, _⟩
          · rw [unchanged]
            exact healthy.preserved
          · intro d
            by_cases same : d = c
            · subst same
              refine Preserved.of_nullMode moved.nullMode ?_
              have dropped := moved.dropped
              unfold droppedBytes at dropped
              simp [view, dropped]
            · rw [view, (confined.others d same).1, (confined.others d same).2]
              exact healthy.preserved d
    · rcases step_rx wellFormed taken running with
        already | ⟨_, _, _, _, rest, rfl⟩
      · rw [step_current already byte taken running]
        exact healthy.current c pipe already
      · rfl

/-- With handlers that consume all, the stream is preserved in every run. -/
theorem reachable_healthy (consuming : ∀ d, Consuming env d)
    (reachable : ReachableState cfg env host) : Healthy cfg host := by
  induction reachable with
  | start initial =>
    refine ⟨fun c => ?_, fun c pipe running => ?_⟩
    · rw [Initial.view_eq initial c]
      refine Preserved.of_atMode rfl ⟨rfl, rfl, rfl, ?_⟩
      intro _ limited
      exact absurd limited (by decide)
    · rw [initial.running] at running
      cases running
  | next action before _ taken ih =>
    exact step_healthy consuming (reachable_wellFormed before) ih taken

end Steps

/-! ## Sessions that end with the terminator -/

/-- In every execution with consuming handlers, what was received in a session
without a requested length is what the handler has consumed, then the content
of the ring, then the partial match; every byte is handled, and when it ends
the session, the handler has consumed all but the terminator. -/
def StreamPreserved (cfg : Config) : Prop :=
  ∀ (env : Environment) (host : Host) (c : CtxId),
    (∀ d, Consuming env d) → ReachableState cfg env host →
    (host.data c).atMode = .dataMode →
    (session c host.history).requestedLen = 0 →
    (session c host.history).received =
        (session c host.history).consumed ++ (host.data c).dataRb.content ++
          cfg.terminator.take (host.data c).quitStrMatch.toNat ∧
      ∀ pipe byte rest, host.running = .rx c pipe → host.pipeRx pipe = byte :: rest →
        ∃ after, step cfg env .receiveByte host = some after ∧
          (session c after.history).received = (session c host.history).received ++ [byte] ∧
          ((after.data c).atMode = .atCommandMode → (session c after.history).received =
              (session c after.history).consumed ++ cfg.terminator)

/-- The state in which `sm_at_receive` handles a byte of a served session. -/
theorem Healthy.attended {host : Host} {c : CtxId} {pipe : PipeId} (byte : Byte) (rest : List Byte)
    (wellFormed : AllWellFormed cfg host) (healthy : Healthy cfg host)
    (running : host.running = .rx c pipe)
    (mode : (host.data c).atMode = .dataMode) :
    let arrived := takeByte c byte (setPipeRx pipe rest host)
    Attended cfg c arrived ∧ session c arrived.history = (session c host.history).receive byte ∧
      Streaming cfg (arrived.data c, session c host.history) := by
  intro arrived
  have streaming := (healthy.preserved c).dataMode mode
  have data : arrived.data c = host.data c := takeByte_data byte _ c
  have offered : AllWellFormed cfg (setPipeRx pipe rest host) := wellFormed
  refine ⟨?_, congrArg Prod.snd (takeByte_view_self byte _), ?_⟩
  · refine attended_of_streaming (takeByte_wellFormed offered)
      (healthy.current c pipe running) ?_ ?_
    · rw [data]
      exact mode
    · rw [data]
      exact streaming.handler
  · rw [data]
    exact streaming

theorem streamPreserved_of_short (short : cfg.terminator.length ≤ 255) : StreamPreserved cfg := by
  intro env host c consuming reachable mode notRequested
  have wellFormed := reachable_wellFormed reachable
  have healthy := reachable_healthy consuming reachable
  have unlimited : (host.data c).dataLen = 0 ∧ (cfg.terminator.length ≤ 255 →
        (session c host.history).received =
          (session c host.history).consumed ++ (host.data c).dataRb.content ++
            cfg.terminator.take (host.data c).quitStrMatch.toNat) := by
    rcases ((healthy.preserved c).dataMode mode).accounts with
      ⟨_, noLen, accounts⟩ | ⟨_, positive, _, remaining⟩
    · exact ⟨noLen, accounts⟩
    · have counted : 0 < (host.data c).dataLen.toNat := positive
      change (session c host.history).received.length + (host.data c).dataLen.toNat =
          (session c host.history).requestedLen.toNat at remaining
      rw [notRequested, UInt32.toNat_zero] at remaining
      omega
  refine ⟨unlimited.2 short, fun pipe byte rest running waiting => ?_⟩
  obtain ⟨attended, received, streaming⟩ :=
    healthy.attended byte rest wellFormed running mode
  have data : (takeByte c byte (setPipeRx pipe rest host)).data c =
      host.data c := takeByte_data byte _ c
  obtain ⟨handled, ran, becomes, _, finished⟩ :=
    rawRxHandler_preserves_unlimited (consuming c) attended received streaming
      ⟨notRequested, by rw [data]; exact unlimited.1, by rw [data]; exact unlimited.2⟩
  obtain ⟨_, isPipe⟩ := reachable_rx reachable _ _ running
  obtain ⟨after, taken, _, _, _, history, sameData⟩ :=
    step_receiveByte_dataMode wellFormed isPipe running waiting mode ran
  refine ⟨after, taken, ?_, ?_⟩
  · rw [history, (session_of_appends_internal becomes.internal).2, received]
    rfl
  · rw [history, sameData c]
    exact fun left => finished left short

theorem exists_long_match (long : 256 ≤ cfg.terminator.length) : ∀ count, count ≤ 256 →
      ∃ host, ReachableState cfg (sessionEnv 0 consumeAll) host ∧
        host.running = .rx 0 0 ∧ host.pipeRx 0 = [] ∧
        host.data 0 = { openedData cfg 0 with
          quitStrMatch := UInt8.ofNat count } ∧
        session 0 host.history = ⟨0, cfg.terminator.take count, [], none⟩ ∧
        (0 < count → (host.ctx 0).dataInactivityTimer = true) ∧
        ∀ work, work ∈ host.workQueue → NotFlush work := by
  intro count
  induction count with
  | zero =>
    intro _
    obtain ⟨host, reachable, running, drained, _, data, record, unflushed⟩ :=
      open_session cfg 0 consumeAll (fun _ _ => True) (fun _ _ _ => trivial)
    exact ⟨host, reachable, running, drained, data, record,
      fun nothing => absurd nothing (Nat.lt_irrefl 0), unflushed⟩
  | succ count ih =>
    intro within
    obtain ⟨host, reachable, running, drained, data, record, _, unflushed⟩ :=
      ih (by omega)
    have inside : count < cfg.terminator.length := by omega
    obtain ⟨offered, offeredReachable, offeredRunning, waiting, _, history,
      sameData, offeredQueue⟩ := offer_byte reachable running drained cfg.terminator[count]
    have offeredData := (sameData 0).trans data
    have wellFormed := reachable_wellFormed offeredReachable
    obtain ⟨live, isPipe⟩ := reachable_rx offeredReachable _ _ offeredRunning
    let arrived := takeByte 0 cfg.terminator[count] (setPipeRx 0 [] offered)
    have arrivedData : arrived.data 0 = offered.data 0 :=
      takeByte_data _ _ 0
    have counted : (UInt8.ofNat count).toNat = count := by
      rw [UInt8.toNat_ofNat']
      omega
    have ran : rawRxHandler cfg (sessionEnv 0 consumeAll) 0 cfg.terminator[count] arrived =
          some (setQuitStrMatch 0 (UInt8.ofNat count + 1) arrived) := by
      rw [rawRxHandler_of_continues, advanceQuitStr_of_incomplete]
      · rw [arrivedData, offeredData]
      · have bound := UInt8.toNat_lt ((arrived.data 0).quitStrMatch + 1)
        omega
      · rw [arrivedData, offeredData]
        rfl
      · rw [arrivedData, offeredData, counted]
        exact getElem?_eq_getElem inside
    obtain ⟨after, taken, afterRunning, afterDrained, _, afterHistory,
      afterData⟩ := step_receiveByte_dataMode wellFormed isPipe
        offeredRunning waiting (by rw [offeredData]; rfl) ran
    have data : after.data 0 = { openedData cfg 0 with
        quitStrMatch := UInt8.ofNat (count + 1) } := by
      rw [afterData 0, setQuitStrMatch, Host.data_setData_self, arrivedData, offeredData]
      simp [UInt8.ofNat_add]
    refine ⟨after, offeredReachable.next _ trivial taken, afterRunning,
      afterDrained, data, ?_, fun _ => ?_, ?_⟩
    · have own : session 0 arrived.history =
          (session 0 offered.history).receive cfg.terminator[count] :=
        congrArg Prod.snd (takeByte_view_self _ _)
      rw [afterHistory, setQuitStrMatch, Host.history_setData, own, history, record]
      simp [Session.receive]
    · exact step_receiveByte_timer wellFormed live offeredRunning taken (by rw [data]; rfl)
    · obtain ⟨added, queue, addedAll⟩ :=
        step_receiveByte_workQueue wellFormed taken
      intro work member
      rw [queue] at member
      exact (mem_append.mp member).elim (offeredQueue unflushed work) (addedAll work)

theorem not_streamPreserved_of_long
    (long : 256 ≤ cfg.terminator.length) : ¬ StreamPreserved cfg := by
  intro preserved
  obtain ⟨host, reachable, _, _, data, record, _⟩ :=
    exists_long_match long 256 (Nat.le_refl _)
  have accounts := (preserved _ host 0 (consumeAll_consuming 0) reachable
    (by rw [data]; rfl) (by rw [record])).1
  have wrapped : (UInt8.ofNat 256).toNat = 0 := by decide
  rw [data, record] at accounts
  simp only [openedData, RingBuffer.init_content, wrapped, take_zero, append_nil] at accounts
  have lengths := congrArg List.length accounts
  rw [length_take, length_nil] at lengths
  omega

/-- The stream is preserved exactly when the counter can hold the
terminator. -/
theorem streamPreserved_iff (cfg : Config) : StreamPreserved cfg ↔ cfg.terminator.length ≤ 255 := by
  constructor
  · intro preserved
    by_contra long
    exact not_streamPreserved_of_long (by omega) preserved
  · exact streamPreserved_of_short

/-- Of a terminator of 256 equal characters the first 256 bytes are lost. -/
theorem long_terminator_loses_bytes : ¬ StreamPreserved (defaultConfig (replicate 256 97)
      (ne_nil_of_length_pos (by rw [length_replicate]; decide))) := by
  apply not_streamPreserved_of_long
  change 256 ≤ (replicate 256 (97 : Byte)).length
  rw [length_replicate]

/-! ## Sessions with a requested length -/

/-- What the accounts say about a session with a requested length. -/
theorem Preserved.limited (preserved : Preserved cfg state)
    (limited : 0 < state.2.requestedLen) (undropped : state.2.dropped = none) :
    (state.2.received.length < state.2.requestedLen.toNat ∧ state.1.atMode = .dataMode ∧
        state.2.received = state.2.consumed ++ state.1.dataRb.content) ∨
      (state.2.requestedLen.toNat ≤ state.2.received.length ∧ state.1.atMode = .atCommandMode ∧
        state.2.consumed = state.2.received.take state.2.requestedLen.toNat) := by
  cases mode : state.1.atMode with
  | atCommandMode =>
    obtain ⟨_, _, _, delivered⟩ := preserved.atMode mode
    obtain ⟨enough, consumed⟩ := delivered undropped limited
    exact .inr ⟨enough, rfl, consumed⟩
  | dataMode =>
    rcases (preserved.dataMode mode).accounts with
      ⟨notRequested, _⟩ | ⟨_, positive, accounts, remaining⟩
    · exact absurd notRequested (UInt32.pos_iff_ne_zero.mp limited)
    · have counted : 0 < state.1.dataLen.toNat := positive
      exact .inl ⟨by omega, rfl, accounts⟩
  | nullMode => exact absurd undropped (preserved.nullMode mode)

/-- The context stays in data mode until the requested number of bytes has been
received, and is answered and back in AT-command mode with the last of them,
all of them consumed in order.  The next byte is a character of a command. -/
def LengthExact (cfg : Config) (env : Environment) (c : CtxId) (host : Host) : Prop :=
  let record := session c host.history
  let length := record.requestedLen.toNat
  if record.received.length < length then
    (host.data c).atMode = .dataMode ∧
      record.received = record.consumed ++ (host.data c).dataRb.content ∧
      ∀ pipe byte rest, host.running = .rx c pipe → host.pipeRx pipe = byte :: rest →
        ∃ after, step cfg env .receiveByte host = some after ∧
          (session c after.history).received = record.received ++ [byte] ∧
          if record.received.length + 1 < length then
            (after.data c).atMode = .dataMode
          else
            (after.data c).atMode = .atCommandMode ∧
              (session c after.history).consumed = record.received ++ [byte] ∧
              .rspSend c (.xdatamode 0) ∈ after.history.drop host.history.length
  else
    (host.data c).atMode = .atCommandMode ∧ record.consumed = record.received.take length ∧
      ∀ pipe byte rest, host.running = .rx c pipe → host.pipeRx pipe = byte :: rest →
        step cfg env .receiveByte host = (cmdRxHandler cfg env c byte
            (takeByte c byte (setPipeRx pipe rest host))).map
            (finishByte c pipe)

/-- With consuming handlers every session with a requested length that keeps
its handler is exact. -/
theorem lengthExact_of_consuming (consuming : ∀ d, Consuming env d) {host : Host} {c : CtxId}
    (reachable : ReachableState cfg env host)
    (limited : 0 < (session c host.history).requestedLen)
    (undropped : (session c host.history).dropped = none) :
    LengthExact cfg env c host := by
  have wellFormed := reachable_wellFormed reachable
  have healthy := reachable_healthy consuming reachable
  have split := (healthy.preserved c).limited limited undropped
  simp only [view] at split
  unfold LengthExact
  dsimp only
  rcases split with
    ⟨unfinished, mode, accounts⟩ | ⟨finished, mode, consumed⟩
  · rw [if_pos unfinished]
    refine ⟨mode, accounts, fun pipe byte rest running waiting => ?_⟩
    obtain ⟨attended, received, streaming⟩ :=
      healthy.attended byte rest wellFormed running mode
    have counting := streaming.accounts.resolve_left fun unlimited =>
      absurd unlimited.1 (UInt32.pos_iff_ne_zero.mp limited)
    obtain ⟨handled, ran, becomes, preserved, stillUndropped, answer⟩ :=
      rawRxHandler_preserves_limited (consuming c) attended received streaming counting
    obtain ⟨_, isPipe⟩ := reachable_rx reachable _ _ running
    obtain ⟨after, taken, _, _, _, history, sameData⟩ :=
      step_receiveByte_dataMode wellFormed isPipe running waiting mode ran
    obtain ⟨sameLen, sameReceived⟩ :=
      session_of_appends_internal (c := c) becomes.internal
    rw [received] at sameLen sameReceived
    have later := preserved.limited (sameLen ▸ limited) stillUndropped
    simp only [view, sameReceived, sameLen, Session.receive,
      length_append, length_singleton] at later
    refine ⟨after, taken, by rw [history, sameReceived]; rfl, ?_⟩
    rw [sameData c, history]
    rcases later with ⟨more, stays, _⟩ | ⟨last, left, consumed⟩
    · rw [if_pos more]
      exact stays
    · rw [if_neg (Nat.not_lt.mpr last)]
      refine ⟨left, ?_, ?_⟩
      · rw [consumed, take_of_length_le]
        rw [length_append, length_singleton]
        omega
      · obtain ⟨events, more, total⟩ := answer (by omega)
        have arrived : (takeByte c byte (setPipeRx pipe rest host)).history =
            host.history ++ [.received c byte] := rfl
        rw [total, arrived, append_assoc, append_assoc, append_assoc, drop_left]
        simp
  · rw [if_neg (Nat.not_lt.mpr finished)]
    refine ⟨mode, consumed, fun pipe byte rest running waiting => ?_⟩
    obtain ⟨live, _⟩ := reachable_rx reachable _ _ running
    rw [step_receiveByte live running waiting, mode]

/-- A session of five bytes. -/
theorem lengthExact_of_five : ∃ host, ReachableState plusConfig (sessionEnv 5 consumeAll) host ∧
      (session 0 host.history).requestedLen = 5 ∧
      LengthExact plusConfig (sessionEnv 5 consumeAll) 0 host := by
  obtain ⟨host, reachable, _, _, _, _, record, _⟩ :=
    open_session plusConfig 5 consumeAll (fun _ _ => True) (fun _ _ _ => trivial)
  refine ⟨host, reachable, by rw [record], ?_⟩
  refine lengthExact_of_consuming (consumeAll_consuming 5) reachable ?_ ?_
  · rw [record]
    decide
  · rw [record]

end SerialModem.AtHost
