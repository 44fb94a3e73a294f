import SerialModem.AtHost.Isolation

/-!
# One call for one datagram

What a context receives from an empty ring on is handed to its handler in one
call by the next flush: when the inactivity work runs, when the requested
length is reached, or when the terminator is complete.  The terminator is
recognised at its first occurrence, so a payload that ends with a part of it
loses that part to the terminator.

Only the flush itself has to be taken by a handler that consumes everything.
Before that, any other handler may have left the ring where it is, as long as
the batch that is being received still serves its own context.
-/

namespace SerialModem.AtHost

open Library Library.PatternMatching List

variable {cfg : Config} {env : Environment}

/-- What a context has received behind `base` is in its ring and in its partial
match, and the ring is not wrapped. -/
structure Gathered (cfg : Config) (base : List Byte)
    (state : DataState × Session) : Prop where
  handler : state.1.handler.isSome
  rewound : state.1.dataRb.Rewound
  matched : state.1.quitStrMatch.toNat < cfg.terminator.length
  accounts : (state.1.dataLen = 0 ∧ cfg.terminator.length ≤ 255 ∧
      state.2.received = base ++ state.1.dataRb.content ++
        cfg.terminator.take state.1.quitStrMatch.toNat) ∨
    (0 < state.1.dataLen ∧ state.1.quitStrMatch = 0 ∧
      state.2.received = base ++ state.1.dataRb.content)

section Gathering

variable {c : CtxId} {base : List Byte}

structure ByteGathered (cfg : Config) (c : CtxId) (base : List Byte)
    (host after : Host) : Prop where
  mode : (after.data c).atMode = .dataMode
  unsent : (session c host.history).received.length ≤ base.length + cfg.datamodeBufSize →
    handlerCalls c after.history = handlerCalls c host.history
  gathered : handlerCalls c after.history = handlerCalls c host.history →
    Gathered cfg base (view c after)

/-- A byte that ends the session with what precedes `ending`. -/
structure ByteFlushed (cfg : Config) (c : CtxId) (base ending : List Byte)
    (host after : Host) : Prop where
  mode : (after.data c).atMode = .atCommandMode
  sent : ∀ payload, payload.length ≤ cfg.datamodeBufSize →
    (session c host.history).received = base ++ payload ++ ending →
    handlerCalls c after.history = handlerCalls c host.history ++ sending payload Flags.none

variable {host : Host}

theorem Progress.byteGathered {count : UInt8} {dataLen : UInt32}
    {accepted added : List Byte} {after : Host} (attended : Attended cfg c host)
    (progress : Progress cfg c count dataLen accepted host after)
    (filled : Filled c added host after)
    (matched : count.toNat < cfg.terminator.length)
    (accounts : (dataLen = 0 ∧ cfg.terminator.length ≤ 255 ∧ (session c host.history).received =
          base ++ ((host.data c).dataRb.content ++ added) ++ cfg.terminator.take count.toNat) ∨
      (0 < dataLen ∧ count = 0 ∧ (session c host.history).received =
          base ++ ((host.data c).dataRb.content ++ added))) :
    ByteGathered cfg c base host after := by
  have later := progress.attended attended
  refine ⟨later.mode, fun room => ?_, fun same => ?_⟩
  · apply filled.calls_of_fits
    rw [attended.sized]
    rcases accounts with ⟨_, _, total⟩ | ⟨_, _, total⟩
    · rw [total] at room
      simp only [length_append] at room
      omega
    · rw [total] at room
      simp only [length_append] at room
      omega
  · have content := filled.content_of_calls same
    obtain ⟨sameCount, sameLen, _⟩ := progress.counters
    obtain ⟨_, _, _, _, becomes⟩ := progress
    have record : (session c after.history).received = (session c host.history).received :=
      congrArg (fun state => state.2.received) becomes.own
    refine ⟨later.handler, filled.rewound, ?_, ?_⟩
    · change (after.data c).quitStrMatch.toNat < _
      rw [sameCount]
      exact matched
    · simp only [view, sameCount, sameLen, record, content]
      exact accounts

theorem rawRxHandler_gathers_unlimited (consumesAll : ConsumesAll env c)
    {record : Session} {byte : Byte} (attended : Attended cfg c host)
    (received : session c host.history = record.receive byte)
    (gathered : Gathered cfg base (host.data c, record))
    (unlimited : (host.data c).dataLen = 0 ∧ cfg.terminator.length ≤ 255 ∧
      record.received = base ++ (host.data c).dataRb.content ++
        cfg.terminator.take (host.data c).quitStrMatch.toNat) :
    ∃ after, rawRxHandler cfg env c byte host = some after ∧ (ByteGathered cfg c base host after ∨
        ByteFlushed cfg c base cfg.terminator host after) := by
  obtain ⟨noLen, short, accounts⟩ := unlimited
  have matched : (host.data c).quitStrMatch.toNat < cfg.terminator.length :=
    gathered.matched
  obtain ⟨after, handled, continued⟩ := rawRxHandler_unlimited
    consumesAll.consuming ⟨attended, matched⟩ noLen byte
  have collected := rawRxHandler_collected consumesAll ⟨attended, matched⟩
    gathered.rewound noLen handled
  have total : (session c host.history).received = base ++ ((host.data c).dataRb.content ++
        spilled cfg (host.data c).quitStrMatch byte) ++
        cfg.terminator.take (nextCount cfg (restartFallback cfg.terminator)
          (host.data c).quitStrMatch byte).toNat := by
    have split := spilled_append short matched byte
    rw [received, ← append_assoc base, append_assoc _ (spilled ..),
      split]
    simp [Session.receive, accounts]
  refine ⟨after, handled, ?_⟩
  rcases continued with ⟨complete, nothing, finished⟩ | ⟨below, progress⟩
  · right
    rw [Collected, if_pos complete] at collected
    refine ⟨?_, fun payload _ whole => ?_⟩
    · obtain ⟨⟨ring, _, _, becomes⟩, _⟩ := finished
      have data : after.data c = _ := congrArg Prod.fst becomes.own
      rw [data]
      rfl
    · rw [whole, nothing, complete, append_nil, take_length] at total
      have same : payload = (host.data c).dataRb.content :=
        append_cancel_left (append_cancel_right total)
      rw [same]
      exact collected
  · left
    rw [Collected, if_neg (Nat.ne_of_lt below)] at collected
    exact progress.byteGathered attended collected below (.inl ⟨rfl, short, total⟩)

theorem rawRxHandler_gathers_limited (consumesAll : ConsumesAll env c)
    {record : Session} {byte : Byte} (attended : Attended cfg c host)
    (received : session c host.history = record.receive byte)
    (gathered : Gathered cfg base (host.data c, record))
    (limited : 0 < (host.data c).dataLen ∧ (host.data c).quitStrMatch = 0 ∧
      record.received = base ++ (host.data c).dataRb.content) :
    ∃ after, rawRxHandler cfg env c byte host = some after ∧
      (ByteGathered cfg c base host after ∨ ByteFlushed cfg c base [] host after) := by
  obtain ⟨positive, unmatched, accounts⟩ := limited
  obtain ⟨after, handled, outcome⟩ := rawRxHandler_limited
    consumesAll.consuming attended positive byte
  have collected := rawRxHandler_limited_collected consumesAll attended
    gathered.rewound positive handled
  have total : (session c host.history).received =
      base ++ ((host.data c).dataRb.content ++ [byte]) := by
    rw [received]
    simp [Session.receive, accounts]
  refine ⟨after, handled, ?_⟩
  by_cases last : (host.data c).dataLen - 1 = 0
  · right
    rw [if_pos last] at outcome collected
    refine ⟨?_, fun payload within whole => ?_⟩
    · obtain ⟨⟨ring, _, _, becomes⟩, _⟩ := outcome
      have data : after.data c = _ := congrArg Prod.fst becomes.own
      rw [data]
      rfl
    · rw [whole, append_nil] at total
      have same := append_cancel_left total
      rw [same] at within ⊢
      apply collected
      rw [attended.sized]
      simpa using within
  · left
    rw [if_neg last] at outcome collected
    refine outcome.byteGathered attended collected gathered.matched
      (.inr ⟨UInt32.pos_iff_ne_zero.mpr last, unmatched, total⟩)

/-- The flush hands over the ring together with the partial match. -/
theorem rawSendScheduled_gathered (consumesAll : ConsumesAll env c)
    (attended : Attended cfg c (host.setCurrentCtx (some c)))
    (gathered : Gathered cfg base (view c host)) :
    ∃ after, rawSendScheduled cfg env c host = some after ∧
      (∀ payload, payload.length ≤ cfg.datamodeBufSize →
        (session c host.history).received = base ++ payload →
        handlerCalls c after.history = handlerCalls c host.history ++ sending payload Flags.none) ∧
      (handlerCalls c after.history = handlerCalls c host.history →
        Gathered cfg base (view c after)) := by
  obtain ⟨inner, flushed, progress, _⟩ :=
    rawSendScheduled_progress consumesAll.consuming attended
  obtain ⟨ready, filled, empty, calls⟩ := rawSendScheduled_calls consumesAll
    attended gathered.rewound flushed
  have sized : (host.data c).dataRb.size = cfg.datamodeBufSize :=
    attended.sized
  have total : (session c host.history).received = base ++ ((host.data c).dataRb.content ++
        cfg.terminator.take (host.data c).quitStrMatch.toNat) := by
    rcases gathered.accounts with ⟨_, _, accounts⟩ | ⟨_, unmatched, accounts⟩
    · rw [← append_assoc]
      exact accounts
    · change (host.data c).quitStrMatch = 0 at unmatched
      rw [unmatched, UInt8.toNat_zero, take_zero, append_nil]
      exact accounts
  refine ⟨_, flushed, fun payload within whole => ?_, fun same => ?_⟩
  · have payload_eq : payload = (host.data c).dataRb.content ++
        cfg.terminator.take (host.data c).quitStrMatch.toNat :=
      append_cancel_left (whole.symm.trans total)
    rw [payload_eq, length_append] at within
    have unsent := filled.calls_of_fits (by
      change (host.data c).dataRb.content.length + _ ≤ (host.data c).dataRb.size
      rw [sized]
      exact within)
    rw [calls, unsent, filled.content_of_calls unsent, payload_eq]
    rfl
  · -- Nothing was sent, so there was nothing to send.
    obtain ⟨early, history, _, stored⟩ := filled.calls
    rw [calls, history, append_assoc] at same
    obtain ⟨noEarly, noLast⟩ :=
      append_eq_nil_iff.mp (append_right_eq_self.mp same)
    have nothing := stored noEarly
    rw [(sending_eq_nil_iff _ _).mp noLast] at nothing
    obtain ⟨noContent, noMatch⟩ := append_eq_nil_iff.mp nothing.symm
    change (host.data c).dataRb.content = [] at noContent
    obtain ⟨sameCount, sameLen, _⟩ := progress.counters
    have later := progress.attended attended
    obtain ⟨_, _, _, _, becomes⟩ := progress
    have record : (session c inner.history).received = (session c host.history).received :=
      congrArg (fun state => state.2.received) becomes.own
    have pattern := length_pos_iff.mpr cfg.terminator_ne
    change Gathered cfg base (view c inner)
    refine ⟨later.handler, .inl empty, ?_, ?_⟩
    · change (inner.data c).quitStrMatch.toNat < _
      rw [sameCount]
      exact pattern
    · rw [noContent, noMatch] at total
      change (inner.data c).dataRb.content = [] at empty
      simp only [view, sameCount, sameLen, record, empty, total,
        UInt8.toNat_zero, take_zero, append_nil]
      rcases gathered.accounts with ⟨noLen, short, _⟩ | ⟨positive, _, _⟩
      · exact .inl ⟨noLen, short, trivial⟩
      · exact .inr ⟨positive, trivial, trivial⟩

end Gathering

/-- A context in data mode with nothing collected, in a state that any handlers
may have led to. -/
structure Ready (cfg : Config) (c : CtxId) (start : Host) : Prop where
  reached : ∃ past : Environment, ReachableState cfg past start
  batch : BatchCurrent start
  mode : (start.data c).atMode = .dataMode
  handler : (start.data c).handler.isSome
  empty : (start.data c).dataRb.content = []
  unmatched : (start.data c).quitStrMatch = 0

structure Unsent (c : CtxId) (start host : Host) : Prop where
  mode : (host.data c).atMode = .dataMode
  calls : handlerCalls c host.history = handlerCalls c start.history

/-- From `start` on, `c` has received `payload` in data mode, and its handler
has not been called. -/
structure Collects (cfg : Config) (env : Environment) (c : CtxId)
    (start : Host) (payload : List Byte) (host : Host) : Prop where
  run : Reachable (step cfg env) (fun state _ => Unsent c start state)
    (fun state => state = start) host
  unsent : Unsent c start host
  received : (session c host.history).received = (session c start.history).received ++ payload

theorem Collects.start {cfg : Config} {env : Environment} {c : CtxId} {start : Host}
    (mode : (start.data c).atMode = .dataMode) :
    Collects cfg env c start [] start :=
  ⟨Reachable.start rfl, ⟨mode, rfl⟩, (append_nil _).symm⟩

structure Collecting (cfg : Config) (c : CtxId) (base : List Byte)
    (host : Host) : Prop where
  wellFormed : AllWellFormed cfg host
  wired : RxWired host
  batch : BatchCurrent host
  gathered : Gathered cfg base (view c host)

section Collecting

variable {c : CtxId} {base : List Byte}

theorem Ready.collecting {start : Host} (ready : Ready cfg c start)
    (countable : cfg.terminator.length ≤ 255 ∨ 0 < (start.data c).dataLen) :
    Collecting cfg c (session c start.history).received start := by
  obtain ⟨past, reachable⟩ := ready.reached
  have pattern := length_pos_iff.mpr cfg.terminator_ne
  refine ⟨reachable_wellFormed reachable, reachable_rx reachable, ready.batch,
    ready.handler, .inl ready.empty, ?_, ?_⟩
  · simpa [view, ready.unmatched] using pattern
  · simp only [view, ready.unmatched, ready.empty, UInt8.toNat_zero,
      take_zero, append_nil, and_true]
    by_cases limited : 0 < (start.data c).dataLen
    · exact .inr limited
    · refine .inl ⟨?_, countable.resolve_right limited⟩
      rwa [UInt32.pos_iff_ne_zero, not_not] at limited

variable {host : Host}

theorem receiveByte_gathers (consumesAll : ConsumesAll env c) {pipe : PipeId}
    {byte : Byte} {rest : List Byte} (collecting : Collecting cfg c base host)
    (mode : (host.data c).atMode = .dataMode)
    (running : host.running = .rx c pipe)
    (waiting : host.pipeRx pipe = byte :: rest) :
    ∃ arrived after, step cfg env .receiveByte host = some after ∧
      handlerCalls c arrived.history = handlerCalls c host.history ∧
      (session c arrived.history).received = (session c host.history).received ++ [byte] ∧
      (session c after.history).received = (session c host.history).received ++ [byte] ∧
      (ByteGathered cfg c base arrived after ∨ ByteFlushed cfg c base
          (if 0 < (host.data c).dataLen then [] else cfg.terminator)
          arrived after) := by
  let arrived := takeByte c byte (setPipeRx pipe rest host)
  have offered : AllWellFormed cfg (setPipeRx pipe rest host) :=
    collecting.wellFormed
  have wellFormed : AllWellFormed cfg arrived := takeByte_wellFormed offered
  have data : arrived.data c = host.data c := takeByte_data byte _ c
  have record : session c arrived.history = (session c host.history).receive byte :=
    congrArg Prod.snd (takeByte_view_self byte _)
  have gathered : Gathered cfg base (arrived.data c, session c host.history) := by
    rw [data]
    exact collecting.gathered
  have arrivedMode : (arrived.data c).atMode = .dataMode := by rw [data, mode]
  obtain ⟨live, sized⟩ :=
    (wellFormed c).left (by simp [view, arrivedMode])
  have attended : Attended cfg c arrived :=
    ⟨live, collecting.batch c pipe running, arrivedMode, gathered.handler, sized⟩
  have outcome : ∃ handled, rawRxHandler cfg env c byte arrived = some handled ∧
        (ByteGathered cfg c base arrived handled ∨ ByteFlushed cfg c base
            (if 0 < (host.data c).dataLen then [] else cfg.terminator)
            arrived handled) := by
    rcases gathered.accounts with unlimited | limited
    · have notLimited : ¬ 0 < (host.data c).dataLen := by
        rw [← data]
        exact UInt32.not_lt.mpr (UInt32.le_of_eq unlimited.1)
      rw [if_neg notLimited]
      exact rawRxHandler_gathers_unlimited consumesAll attended record gathered unlimited
    · have isLimited : 0 < (host.data c).dataLen := by
        rw [← data]
        exact limited.1
      rw [if_pos isLimited]
      exact rawRxHandler_gathers_limited consumesAll attended record gathered limited
  obtain ⟨handled, ran, outcome⟩ := outcome
  have processed : Processed cfg False c arrived handled :=
    rawRxHandler_processed wellFormed arrivedMode (fun impossible => impossible.elim) ran
  obtain ⟨_, isPipe⟩ := collecting.wired c pipe running
  obtain ⟨after, taken, _, _, _, history, sameData⟩ :=
    step_receiveByte_dataMode collecting.wellFormed isPipe running waiting mode ran
  have sameView : view c after = view c handled := by
    rw [view, history, sameData c, view]
  refine ⟨arrived, after, taken, ?_, ?_, ?_, ?_⟩
  · change handlerCalls c (host.history ++ [.received c byte]) = _
    rw [handlerCalls_append]
    exact append_nil _
  · rw [record]
    rfl
  · rw [history, (session_of_appends_internal processed.internal).2, record]
    rfl
  · refine outcome.imp (fun stays => ?_) (fun leaves => ?_)
    · refine ⟨?_, ?_, ?_⟩
      · rw [sameData c]
        exact stays.mode
      · rw [history]
        exact stays.unsent
      · rw [history, sameView]
        exact stays.gathered
    · refine ⟨?_, ?_⟩
      · rw [sameData c]
        exact leaves.mode
      · rw [history]
        exact leaves.sent

theorem flush_gathers (consumesAll : ConsumesAll env c) {mark : Nat}
    (collecting : Collecting cfg c base host)
    (mode : (host.data c).atMode = .dataMode)
    (running : host.running = .rawSendScheduled c mark) :
    ∃ after, step cfg env .flush host = some after ∧
      (∀ payload, payload.length ≤ cfg.datamodeBufSize →
        (session c host.history).received = base ++ payload →
        handlerCalls c after.history = handlerCalls c host.history ++ sending payload Flags.none) ∧
      (handlerCalls c after.history = handlerCalls c host.history →
        Gathered cfg base (view c after)) := by
  obtain ⟨live, sized⟩ :=
    (collecting.wellFormed c).left (by simp [view, mode])
  have attended : Attended cfg c (host.setCurrentCtx (some c)) :=
    ⟨live, rfl, mode, collecting.gathered.handler, sized⟩
  obtain ⟨after, flushed, sent, gathered⟩ :=
    rawSendScheduled_gathered consumesAll attended collecting.gathered
  refine ⟨{ after with running := .idle }, ?_, sent, gathered⟩
  simp only [step, running, flushed, Option.map_some]

theorem step_collecting (consuming : ∀ d, Consuming env d)
    (consumesAll : ConsumesAll env c) {action : Action} {after : Host}
    (collecting : Collecting cfg c base host)
    (mode : (host.data c).atMode = .dataMode)
    (taken : step cfg env action host = some after)
    (stays : (after.data c).atMode = .dataMode)
    (unsent : handlerCalls c after.history = handlerCalls c host.history) :
    Collecting cfg c base after := by
  refine ⟨step_wellFormed collecting.wellFormed taken,
    step_rxWired collecting.wellFormed collecting.wired taken,
    step_batchCurrent consuming collecting.wellFormed collecting.batch taken,
    ?_⟩
  by_cases serving : Serving c host action
  · rcases serving with ⟨rfl, pipe, running⟩ | ⟨rfl, mark, running⟩
    · cases step_cases taken with
      | receiveByte d p byte rest received isRunning waiting ran =>
        rw [running] at isRunning
        cases isRunning
        obtain ⟨arrived, result, returned, calls, _, _, outcome⟩ :=
          receiveByte_gathers consumesAll collecting mode running waiting
        rw [taken] at returned
        cases returned
        rcases outcome with gathered | flushed
        · exact gathered.gathered (unsent.trans calls.symm)
        · have left := flushed.mode
          rw [stays] at left
          cases left
    · obtain ⟨result, returned, _, gathered⟩ :=
        flush_gathers consumesAll collecting mode running
      rw [taken] at returned
      cases returned
      exact gathered unsent
  · have other : ∀ result, action ≠ .exitDatamodeHandler c result := by
      rintro result rfl
      cases step_cases taken with
      | exitDatamodeHandler d value _ =>
        obtain ⟨live, _⟩ :=
          (collecting.wellFormed c).left (by simp [view, mode])
        have moved := (exitDatamodeHandler_effective cfg env result live
          (by simp [mode])).2.1.nullMode
        rw [stays] at moved
        cases moved
    rw [(step_elsewhere consuming collecting.wellFormed collecting.batch serving other taken).1]
    exact collecting.gathered

theorem Collects.collecting (consuming : ∀ d, Consuming env d)
    (consumesAll : ConsumesAll env c) {start : Host} {payload : List Byte}
    (ready : Ready cfg c start)
    (countable : cfg.terminator.length ≤ 255 ∨ 0 < (start.data c).dataLen)
    (collects : Collects cfg env c start payload host) :
    Collecting cfg c (session c start.history).received host := by
  obtain ⟨run, unsent, received⟩ := collects
  clear received
  induction run with
  | start isStart =>
    subst isStart
    exact ready.collecting countable
  | next action _ before taken ih =>
    exact step_collecting consuming consumesAll (ih before) before.mode taken unsent.mode
      (unsent.calls.trans before.calls.symm)

end Collecting

inductive FlushCause where
  | inactivity
  | dataLen
  | terminator
  deriving DecidableEq

/-- The next flush has led to `after`; the list is all that `c` has received
from `start` to there. -/
inductive NextFlush (cfg : Config) (env : Environment) (c : CtxId)
    (start : Host) : FlushCause → List Byte → Host → Prop
  | inactivity {payload : List Byte} {host after : Host} {mark : Nat} :
      Collects cfg env c start payload host →
      host.running = .rawSendScheduled c mark →
      step cfg env .flush host = some after →
      NextFlush cfg env c start .inactivity payload after
  | dataLen {payload rest : List Byte} {host after : Host} {pipe : PipeId} {byte : Byte} :
      Collects cfg env c start payload host →
      host.running = .rx c pipe →
      host.pipeRx pipe = byte :: rest →
      0 < (host.data c).dataLen →
      step cfg env .receiveByte host = some after →
      (after.data c).atMode = .atCommandMode →
      NextFlush cfg env c start .dataLen (payload ++ [byte]) after
  | terminator {payload rest : List Byte} {host after : Host} {pipe : PipeId} {byte : Byte} :
      Collects cfg env c start payload host →
      host.running = .rx c pipe →
      host.pipeRx pipe = byte :: rest →
      (host.data c).dataLen = 0 →
      step cfg env .receiveByte host = some after →
      (after.data c).atMode = .atCommandMode →
      NextFlush cfg env c start .terminator (payload ++ [byte]) after

def Carries (cfg : Config) (payload received : List Byte) : FlushCause → Prop
  | .terminator => received = payload ++ cfg.terminator
  | _ => received = payload

/-- What is collected from `start` on is sent by the next flush, in one call
and without `SM_DATAMODE_FLAGS_MORE_DATA`, and by nothing before it. -/
structure SingleDatagram (cfg : Config) (env : Environment) (c : CtxId)
    (start : Host) : Prop where
  unsent : ∀ (payload received : List Byte) (action : Action) (host after : Host),
    Collects cfg env c start payload host →
    step cfg env action host = some after →
    (action = .flush → ∀ mark, host.running ≠ .rawSendScheduled c mark) →
    (after.data c).atMode = .dataMode →
    (session c after.history).received = (session c start.history).received ++ received →
    received.length ≤ cfg.datamodeBufSize →
    handlerCalls c after.history = handlerCalls c start.history
  returns : ∀ (payload : List Byte) (host : Host), Collects cfg env c start payload host →
    (∀ mark, host.running = .rawSendScheduled c mark →
      ∃ after, step cfg env .flush host = some after) ∧
    (∀ pipe byte rest, host.running = .rx c pipe → host.pipeRx pipe = byte :: rest →
      ∃ after, step cfg env .receiveByte host = some after)
  sent : ∀ (cause : FlushCause) (payload received : List Byte) (after : Host),
    NextFlush cfg env c start cause received after →
    Carries cfg payload received cause →
    payload ≠ [] → payload.length ≤ cfg.datamodeBufSize →
    handlerCalls c after.history = handlerCalls c start.history ++ [(payload, Flags.none)]

section Law

variable {c : CtxId} {start : Host}

theorem sending_of_ne {content : List Byte} (nonempty : content ≠ [])
    (flags : Flags) : sending content flags = [(content, flags)] :=
  if_neg nonempty

variable {payload : List Byte} {after : Host}

/-- A byte that ends the session sends what precedes `ending`. -/
theorem lastByte_sent (consuming : ∀ d, Consuming env d)
    (consumesAll : ConsumesAll env c) (ready : Ready cfg c start)
    (countable : cfg.terminator.length ≤ 255 ∨ 0 < (start.data c).dataLen)
    {earlier rest : List Byte} {host : Host} {pipe : PipeId} {byte : Byte}
    (collects : Collects cfg env c start earlier host)
    (running : host.running = .rx c pipe)
    (waiting : host.pipeRx pipe = byte :: rest)
    (taken : step cfg env .receiveByte host = some after)
    (left : (after.data c).atMode = .atCommandMode)
    (carries : earlier ++ [byte] = payload ++
      if 0 < (host.data c).dataLen then [] else cfg.terminator)
    (within : payload.length ≤ cfg.datamodeBufSize) :
    handlerCalls c after.history = handlerCalls c start.history ++ sending payload Flags.none := by
  obtain ⟨arrived, result, returned, calls, total, _, outcome⟩ :=
    receiveByte_gathers consumesAll (collects.collecting consuming consumesAll ready countable)
      collects.unsent.mode running waiting
  rw [taken] at returned
  cases returned
  rcases outcome with gathered | ended
  · have stays := gathered.mode
    rw [left] at stays
    cases stays
  · rw [ended.sent payload within, calls, collects.unsent.calls]
    rw [total, collects.received, append_assoc, carries, append_assoc]

theorem nextFlush_sent (consuming : ∀ d, Consuming env d)
    (consumesAll : ConsumesAll env c) (ready : Ready cfg c start)
    (countable : cfg.terminator.length ≤ 255 ∨ 0 < (start.data c).dataLen)
    {cause : FlushCause} {received : List Byte}
    (flushed : NextFlush cfg env c start cause received after)
    (carries : Carries cfg payload received cause)
    (within : payload.length ≤ cfg.datamodeBufSize) :
    handlerCalls c after.history = handlerCalls c start.history ++ sending payload Flags.none := by
  cases flushed with
  | inactivity collects running taken =>
    obtain ⟨result, returned, sent, _⟩ := flush_gathers consumesAll
      (collects.collecting consuming consumesAll ready countable)
      collects.unsent.mode running
    rw [taken] at returned
    cases returned
    cases carries
    rw [sent _ within collects.received, collects.unsent.calls]
  | dataLen collects running waiting limited taken left =>
    refine lastByte_sent consuming consumesAll ready countable collects
      running waiting taken left ?_ within
    rw [if_pos limited, append_nil]
    exact carries
  | terminator collects running waiting unlimited taken left =>
    refine lastByte_sent consuming consumesAll ready countable collects
      running waiting taken left ?_ within
    rw [if_neg (by simp [unlimited])]
    exact carries

theorem collects_unsent (consuming : ∀ d, Consuming env d)
    (consumesAll : ConsumesAll env c) (ready : Ready cfg c start)
    (countable : cfg.terminator.length ≤ 255 ∨ 0 < (start.data c).dataLen)
    {received : List Byte} {action : Action} {host : Host}
    (collects : Collects cfg env c start payload host)
    (taken : step cfg env action host = some after)
    (notFlush : action = .flush → ∀ mark, host.running ≠ .rawSendScheduled c mark)
    (stays : (after.data c).atMode = .dataMode)
    (total : (session c after.history).received = (session c start.history).received ++ received)
    (within : received.length ≤ cfg.datamodeBufSize) :
    handlerCalls c after.history = handlerCalls c start.history := by
  have collecting := collects.collecting consuming consumesAll ready countable
  refine Eq.trans ?_ collects.unsent.calls
  by_cases serving : Serving c host action
  · rcases serving with ⟨rfl, pipe, running⟩ | ⟨rfl, mark, running⟩
    · cases step_cases taken with
      | receiveByte d p byte rest handled isRunning waiting ran =>
        rw [running] at isRunning
        cases isRunning
        obtain ⟨arrived, result, returned, calls, arrivedTotal, sameTotal,
          outcome⟩ := receiveByte_gathers consumesAll collecting
            collects.unsent.mode running waiting
        rw [taken] at returned
        cases returned
        rcases outcome with gathered | ended
        · rw [gathered.unsent, calls]
          rw [arrivedTotal, ← sameTotal, total, length_append]
          omega
        · have left := ended.mode
          rw [stays] at left
          cases left
    · exact absurd running (notFlush rfl mark)
  · by_cases exits : ∃ result, action = .exitDatamodeHandler c result
    · obtain ⟨result, rfl⟩ := exits
      cases step_cases taken with
      | exitDatamodeHandler d value _ =>
        exact exitDatamodeHandler_calls c c result host
    · exact (step_elsewhere consuming collecting.wellFormed collecting.batch
        serving (fun result same => exits ⟨result, same⟩) taken).2

/-- Whatever has been buffered and flushed before, a payload that fits into the
ring is sent in one call. -/
theorem singleDatagram_of_ready (consuming : ∀ d, Consuming env d) (consumesAll : ConsumesAll env c)
    (ready : Ready cfg c start)
    (countable : cfg.terminator.length ≤ 255 ∨ 0 < (start.data c).dataLen) :
    SingleDatagram cfg env c start where
  unsent _ _ _ _ _ collects taken notFlush stays total within :=
    collects_unsent consuming consumesAll ready countable collects taken notFlush stays total within
  returns payload host collects := by
    have collecting :=
      collects.collecting consuming consumesAll ready countable
    refine ⟨fun mark running => ?_, fun pipe byte rest running waiting => ?_⟩
    · obtain ⟨after, taken, _⟩ := flush_gathers consumesAll collecting collects.unsent.mode running
      exact ⟨after, taken⟩
    · obtain ⟨_, after, taken, _⟩ := receiveByte_gathers consumesAll
        collecting collects.unsent.mode running waiting
      exact ⟨after, taken⟩
  sent _ _ _ _ flushed carries nonempty within := by
    rw [nextFlush_sent consuming consumesAll ready countable flushed carries
      within, sending_of_ne nonempty]

end Law

/-- A session that has just been opened. -/
theorem singleDatagram_of_opened : ∃ start, Ready plusConfig 0 start ∧
      SingleDatagram plusConfig (sessionEnv 0 consumeAll) 0 start := by
  obtain ⟨start, reachable, running, _, current, data, _⟩ :=
    open_session plusConfig 0 consumeAll (fun _ _ => True) (fun _ _ _ => trivial)
  have ready : Ready plusConfig 0 start := by
    refine ⟨⟨_, reachable⟩, fun c pipe isRunning => ?_, ?_, ?_, ?_, ?_⟩
    · rw [running] at isRunning
      cases isRunning
      exact current
    · rw [data]
      rfl
    · rw [data]
      rfl
    · rw [data]
      rfl
    · rw [data]
      rfl
  exact ⟨start, ready, singleDatagram_of_ready (consumeAll_consuming 0)
    (consumeAll_consumesAll 0 0) ready (.inl (by decide))⟩

def Precedes (cfg : Config) (payload received : List Byte) : FlushCause → Prop
  | .terminator => ∃ rest, rest <+: cfg.terminator ∧ received = payload ++ rest
  | _ => received = payload

def PayloadSentWhole (cfg : Config) : Prop :=
  ∀ (env : Environment) (c : CtxId) (start : Host),
    (∀ d, Consuming env d) → ConsumesAll env c → Ready cfg c start →
    ∀ (cause : FlushCause) (payload received : List Byte) (after : Host),
      NextFlush cfg env c start cause received after →
      Precedes cfg payload received cause →
      ¬ cfg.terminator <:+: payload →
      payload ≠ [] → payload.length ≤ cfg.datamodeBufSize →
      handlerCalls c after.history = handlerCalls c start.history ++ [(payload, Flags.none)]

structure Observation where
  running : Running
  current : Option CtxId
  waiting : List Byte
  mode : OperationMode
  handler : Option HandlerId
  dataLen : UInt32
  content : List Byte
  quitStrMatch : UInt8
  calls : List (List Byte × Flags)
  received : List Byte
  deriving DecidableEq

def observe (host : Host) : Observation where
  running := host.running
  current := host.currentCtx
  waiting := host.pipeRx 0
  mode := (host.data 0).atMode
  handler := (host.data 0).handler
  dataLen := (host.data 0).dataLen
  content := (host.data 0).dataRb.content
  quitStrMatch := (host.data 0).quitStrMatch
  calls := handlerCalls 0 host.history
  received := (session 0 host.history).received

def midBatch (waiting content : List Byte) (quitStrMatch : UInt8)
    (received : List Byte) : Observation where
  running := .rx 0 0
  current := some 0
  waiting := waiting
  mode := .dataMode
  handler := some 0
  dataLen := 0
  content := content
  quitStrMatch := quitStrMatch
  calls := []
  received := received

theorem Collects.observed {env : Environment} {start host after : Host}
    {payload waiting content received : List Byte} {quitStrMatch : UInt8}
    {action : Action} (collects : Collects cfg env 0 start payload host)
    (noCalls : handlerCalls 0 start.history = [])
    (noBytes : (session 0 start.history).received = [])
    (taken : step cfg env action host = some after)
    (observed : observe after = midBatch waiting content quitStrMatch received) :
    Collects cfg env 0 start received after := by
  have mode : (after.data 0).atMode = .dataMode :=
    congrArg Observation.mode observed
  have calls : handlerCalls 0 after.history = [] :=
    congrArg Observation.calls observed
  have total : (session 0 after.history).received = received :=
    congrArg Observation.received observed
  refine ⟨collects.run.next action collects.unsent taken, ⟨mode, calls.trans noCalls.symm⟩, ?_⟩
  rw [noBytes, nil_append, total]

/-- The payload `a+`, followed by the terminator `+++`: with the second
character of the terminator there are three in a row, and `a` is sent. -/
theorem partial_terminator_not_sent : ¬ PayloadSentWhole plusConfig := by
  intro claimed
  let env := sessionEnv 0 consumeAll
  obtain ⟨start, reachable, seen⟩ := exists_run plusConfig env [0]
    (openingActions 0 ++ [.pipeReceive 0 [97, 43, 43, 43]])
    (fun state => [0, 1, 2, 3, 4].map fun count =>
      (runActions (step plusConfig env) (replicate count .receiveByte) state).map observe)
    [some (midBatch [97, 43, 43, 43] [] 0 []), some (midBatch [43, 43, 43] [97] 0 [97]),
      some (midBatch [43, 43] [97] 1 [97, 43]),
      some (midBatch [43] [97] 2 [97, 43, 43]),
      some ⟨.rx 0 0, some 0, [], .atCommandMode, none, 0, [], 0,
        [([97], Flags.none)], [97, 43, 43, 43]⟩]
    (by decide)
  simp only [map_cons, map_nil, List.cons.injEq, and_true] at seen
  obtain ⟨initially, first, second, third, last⟩ := seen
  have observed : observe start = midBatch [97, 43, 43, 43] [] 0 [] :=
    Option.some.inj initially
  have mode : (start.data 0).atMode = .dataMode :=
    congrArg Observation.mode observed
  have noCalls : handlerCalls 0 start.history = [] :=
    congrArg Observation.calls observed
  have noBytes : (session 0 start.history).received = [] :=
    congrArg Observation.received observed
  have ready : Ready plusConfig 0 start := by
    refine ⟨⟨env, reachable⟩, fun c pipe running => ?_, mode, ?_,
      congrArg Observation.content observed,
      congrArg Observation.quitStrMatch observed⟩
    · have isRunning : start.running = .rx 0 0 :=
        congrArg Observation.running observed
      rw [isRunning] at running
      cases running
      exact congrArg Observation.current observed
    · have handler : (start.data 0).handler = some 0 :=
        congrArg Observation.handler observed
      rw [handler]
      rfl
  -- Three bytes are collected, and the fourth one completes the terminator.
  obtain ⟨one, takenOne, reachedOne, seenOne⟩ := runActions_next rfl first
  obtain ⟨two, takenTwo, reachedTwo, seenTwo⟩ :=
    runActions_next reachedOne second
  obtain ⟨three, takenThree, reachedThree, seenThree⟩ :=
    runActions_next reachedTwo third
  obtain ⟨four, takenFour, _, seenFour⟩ := runActions_next reachedThree last
  have collects : Collects plusConfig env 0 start [97, 43, 43] three :=
    (((Collects.start mode).observed noCalls noBytes takenOne
      seenOne).observed noCalls noBytes takenTwo seenTwo).observed noCalls
      noBytes takenThree seenThree
  have flushed : NextFlush plusConfig env 0 start .terminator [97, 43, 43, 43] four :=
    NextFlush.terminator collects (congrArg Observation.running seenThree)
      (congrArg Observation.waiting seenThree)
      (congrArg Observation.dataLen seenThree) takenFour
      (congrArg Observation.mode seenFour)
  have sent := claimed env 0 start (consumeAll_consuming 0)
    (consumeAll_consumesAll 0 0) ready .terminator [97, 43] [97, 43, 43, 43]
    four flushed ⟨[43, 43], by decide, rfl⟩ (by decide) (by decide)
    (by decide)
  have calls : handlerCalls 0 four.history = [([97], Flags.none)] :=
    congrArg Observation.calls seenFour
  rw [calls, noCalls] at sent
  exact absurd sent (by decide)

end SerialModem.AtHost
