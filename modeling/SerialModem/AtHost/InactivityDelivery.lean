import SerialModem.AtHost.Isolation
import SerialModem.AtHost.StreamPreservation

/-!
# What the inactivity timeout delivers

The flush that an expiry queues delivers everything, a partial match included.
Whether a flush is queued depends on the data ring alone, so a partial match
behind an empty ring stays where it is.
-/

namespace SerialModem.AtHost

open Library List

variable {cfg : Config} {env : Environment}

def FlushPending (c : CtxId) (host : Host) : Prop :=
  rawSendQueued c host.workQueue = true ∨ ∃ mark, host.running = .rawSendScheduled c mark

theorem rawSendQueued_append (c : CtxId) (first second : List Work) :
    rawSendQueued c (first ++ second) = (rawSendQueued c first || rawSendQueued c second) := by
  simp only [rawSendQueued, any_append]

theorem rawSendQueued_flush (c : CtxId) (mark : Nat) :
    rawSendQueued c [.rawSendScheduled c mark] = true := by
  simp [rawSendQueued]

variable {c : CtxId} {before after : Host}

theorem FlushPending.of_grown (pending : FlushPending c before)
    (grown : ∃ added, after.workQueue = before.workQueue ++ added ∧
      ∀ work, work ∈ added → NotFlush work)
    (runs : after.running = before.running ∨ ∀ mark, before.running ≠ .rawSendScheduled c mark) :
    FlushPending c after := by
  obtain ⟨added, queue, _⟩ := grown
  rcases pending with queued | ⟨mark, running⟩
  · left
    rw [queue, rawSendQueued_append, queued, Bool.true_or]
  · rcases runs with same | other
    · exact .inr ⟨mark, same.trans running⟩
    · exact absurd running (other mark)

theorem FlushPending.of_frame (pending : FlushPending c before)
    (frame : Frame before after) : FlushPending c after :=
  pending.of_grown frame.workQueue (.inl frame.running)

variable {host : Host}

theorem FlushPending.dispatch {work : Work} {rest : List Work}
    (pending : FlushPending c host) (idle : host.running = .idle)
    (queue : host.workQueue = work :: rest) :
    FlushPending c (enterWork cfg work { host with workQueue := rest }) := by
  have notRunning : ¬ ∃ mark, host.running = .rawSendScheduled c mark := by
    rintro ⟨mark, running⟩
    rw [idle] at running
    cases running
  have queued : rawSendQueued c (work :: rest) = true := by
    rw [← queue]
    exact pending.resolve_right notRunning
  have kept : (∀ mark, work ≠ .rawSendScheduled c mark) →
      FlushPending c { host with workQueue := rest } := by
    intro other
    left
    rw [rawSendQueued, any_cons, Bool.or_eq_true] at queued
    rcases queued with first | later
    · split at first
      · rename_i d mark
        rw [beq_iff_eq] at first
        subst first
        exact absurd rfl (other mark)
      · cases first
    · exact later
  cases work with
  | rx d =>
    have waiting := kept (by simp)
    rcases enterRxWork_cases d { host with workQueue := rest } with
      same | ⟨pipe, _, _, _, entered⟩
    · rw [enterWork, same]
      exact waiting
    · rw [enterWork, entered]
      exact .inl (waiting.resolve_right notRunning)
  | rawSendScheduled d mark =>
    by_cases same : d = c
    · subst same
      exact .inr ⟨mark, rfl⟩
    · have waiting := kept (by simp [same])
      exact .inl (waiting.resolve_right notRunning)
  | atHost =>
    exact (kept (by simp)).of_frame (smAtHostWorkFn_quiet cfg { host with workQueue := rest }).1
  | poll d => exact kept (by simp)

/-- Only the flush itself ends the wait for it. -/
theorem FlushPending.step {action : Action}
    (wellFormed : AllWellFormed cfg host) (pending : FlushPending c host)
    (other : ¬(action = .flush ∧ ∃ mark, host.running = .rawSendScheduled c mark))
    (taken : step cfg env action host = some after) :
    FlushPending c after := by
  cases step_cases taken with
  | pipeReceive d content pipe _ _ =>
    have offered : FlushPending c (setPipeRx pipe (host.pipeRx pipe ++ content) host) := pending
    exact offered.of_frame (Frame.submitWork _ trivial)
  | inactivityExpiry d _ =>
    have stopped : FlushPending c (setInactivityTimer d false host) :=
      pending.of_frame (Frame.setCtx host rfl)
    unfold inactivityTimerHandler submitWork
    split
    · exact stopped
    · split
      · exact stopped
      · refine stopped.imp_left fun queued => ?_
        rw [rawSendQueued_append, queued, Bool.true_or]
  | idleExpiry d _ =>
    have expired : Undisturbed cfg host (host.setCtx d { host.ctx d with idleTimer := false }) :=
      Undisturbed.setCtx host rfl rfl
    exact pending.of_frame (expired.trans (sendMsg_undisturbed (Message.event d .urc) _)).frame
  | dispatch work rest idle queue => exact pending.dispatch idle queue
  | receiveByte d pipe byte rest handled running _ received =>
    exact pending.of_grown (step_receiveByte_workQueue wellFormed taken)
      (.inr fun mark => by simp [running])
  | receiveEnd d pipe running =>
    exact pending.of_grown ⟨[], by simp [leaveRxWork, Host.setCurrentCtx],
      by simp⟩ (.inr fun mark => by simp [running])
  | flush d mark flushed running ran =>
    have different : d ≠ c := by
      rintro rfl
      exact other ⟨rfl, mark, running⟩
    refine pending.of_grown (rawSendScheduled_frame wellFormed ran).workQueue (.inr fun m => ?_)
    simp [running, different]
  | exitDatamodeHandler d result _ =>
    exact pending.of_frame (exitDatamodeHandler_confined cfg env d result host).frame
  | call hostCall _ =>
    have called : Undisturbed cfg host (performCall cfg hostCall host) :=
      performCall_undisturbed hostCall host
    exact pending.of_frame called.frame

/-- The step hands no byte of `c` to the AT host and does not take the handler
away from `c`. -/
def Meanwhile (c : CtxId) (host : Host) (action : Action) : Prop :=
  ¬(action = .receiveByte ∧ ∃ pipe, host.running = .rx c pipe) ∧
    ∀ result, action ≠ .exitDatamodeHandler c result

structure AllDelivered (c : CtxId) (before after : Host) : Prop where
  empty : (after.data c).dataRb.isEmpty = true
  unmatched : (after.data c).quitStrMatch = 0
  consumed : (session c after.history).consumed = (session c before.history).received

/-- When the inactivity timer expires and the flush has run before another byte
of `c` is received, everything is delivered. -/
def TimeoutDelivers (cfg : Config) (env : Environment) (c : CtxId) (host : Host) : Prop :=
  ∀ expired taken after, step cfg env (.inactivityExpiry c) host = some expired →
    Execution (step cfg env) (Meanwhile c) expired taken after →
    ¬ FlushPending c after →
    AllDelivered c host after

/-- The session of `c` still has what it had, and its flush is still to come
or has been done. -/
structure Settling (c : CtxId) (before host : Host) : Prop where
  mode : (host.data c).atMode = .dataMode
  requested : (session c host.history).requestedLen = (session c before.history).requestedLen
  received : (session c host.history).received = (session c before.history).received
  progress : FlushPending c host ∨
    ((host.data c).dataRb.content = [] ∧ (host.data c).quitStrMatch = 0)

variable {start : Host}

theorem Settling.of_view (settling : Settling c start before) (same : view c after = view c before)
    (pending : FlushPending c before → FlushPending c after) :
    Settling c start after := by
  have data : after.data c = before.data c := congrArg Prod.fst same
  have record : session c after.history = session c before.history :=
    congrArg Prod.snd same
  refine ⟨?_, ?_, ?_, ?_⟩
  · rw [data]
    exact settling.mode
  · rw [record]
    exact settling.requested
  · rw [record]
    exact settling.received
  · rw [data]
    exact settling.progress.imp_left pending

theorem Settling.flush (consuming : Consuming env c)
    (wellFormed : AllWellFormed cfg host) (healthy : Healthy cfg host)
    (settling : Settling c start host)
    (ran : rawSendScheduled cfg env c host = some after) :
    Settling c start { after with running := .idle } := by
  have streaming := (healthy.preserved c).dataMode settling.mode
  have attended : Attended cfg c (host.setCurrentCtx (some c)) :=
    attended_of_streaming (wellFormed :
      AllWellFormed cfg (host.setCurrentCtx (some c))) rfl settling.mode
      streaming.handler
  obtain ⟨inner, flushed, progress, empty⟩ :=
    rawSendScheduled_progress consuming attended
  rw [ran] at flushed
  cases flushed
  have same := session_of_appends_internal (c := c) progress.becomes.internal
  refine ⟨(progress.attended attended).mode, ?_, ?_, .inr ⟨empty, progress.counters.1⟩⟩
  · exact same.1.trans settling.requested
  · exact same.2.trans settling.received

theorem Settling.step (consuming : ∀ d, Consuming env d) {action : Action}
    (wellFormed : AllWellFormed cfg host) (healthy : Healthy cfg host)
    (settling : Settling c start host) (permitted : Meanwhile c host action)
    (taken : step cfg env action host = some after) :
    Settling c start after := by
  by_cases flushes : action = .flush ∧ ∃ mark, host.running = .rawSendScheduled c mark
  · obtain ⟨rfl, mark, running⟩ := flushes
    cases step_cases taken with
    | flush d m flushed isRunning ran =>
      rw [running] at isRunning
      cases isRunning
      exact settling.flush (consuming c) wellFormed healthy ran
  · have elsewhere : ¬ Serving c host action := by
      rintro (byte | flush)
      · exact permitted.1 byte
      · exact flushes flush
    exact settling.of_view (step_elsewhere consuming wellFormed healthy.current elsewhere
        permitted.2 taken).1
      fun pending => pending.step wellFormed flushes taken

theorem Settling.execution (consuming : ∀ d, Consuming env d) {expired : Host}
    {taken : List (Host × Action × Host)}
    (reachable : ReachableState cfg env expired)
    (settling : Settling c start expired)
    (execution : Execution (AtHost.step cfg env) (Meanwhile c) expired taken host) :
    ReachableState cfg env host ∧ Settling c start host := by
  induction execution with
  | refl => exact ⟨reachable, settling⟩
  | next _ permitted isStep ih =>
    obtain ⟨before, settled⟩ := ih
    exact ⟨before.next _ trivial isStep, settled.step consuming (reachable_wellFormed before)
        (reachable_healthy consuming before) permitted isStep⟩

/-- The timer handler leaves the session alone and queues a flush exactly when
the ring holds something. -/
theorem inactivityExpiry_spec {expired : Host}
    (taken : step cfg env (.inactivityExpiry c) host = some expired) :
    view c expired = view c host ∧ (FlushPending c expired ↔
        (host.data c).dataRb.isEmpty = false ∨ FlushPending c host) := by
  cases step_cases taken with
  | inactivityExpiry c _ =>
    have stopped : Undisturbed cfg host (setInactivityTimer c false host) :=
      setInactivityTimer_undisturbed c false host
    have sameData : (setInactivityTimer c false host).data c = host.data c := by
      apply host.data_setCtx_of_eq
      rfl
    refine ⟨(inactivityTimerHandler_view c _ c).trans (stopped.view_eq c), ?_⟩
    have samePending : FlushPending c (setInactivityTimer c false host) ↔
        FlushPending c host := Iff.rfl
    unfold inactivityTimerHandler submitWork
    rw [sameData]
    split
    · rename_i refused
      rw [samePending]
      constructor
      · exact Or.inr
      · rintro (holds | pending)
        · rw [holds, Bool.false_or] at refused
          exact .inl refused
        · exact pending
    · rename_i accepted
      rw [Bool.or_eq_true, not_or, Bool.not_eq_true] at accepted
      refine iff_of_true ?_ (.inl accepted.1)
      split
      · rename_i member
        left
        exact List.any_eq_true.mpr ⟨_, member, by simp⟩
      · left
        rw [rawSendQueued_append, rawSendQueued_flush, Bool.or_true]

theorem step_inactivityExpiry (cfg : Config) (env : Environment)
    (timer : (host.ctx c).dataInactivityTimer = true) :
    step cfg env (.inactivityExpiry c) host =
      some (inactivityTimerHandler c (setInactivityTimer c false host)) := by
  simp only [step, timer, if_true]

theorem AllDelivered.of_settling (short : cfg.terminator.length ≤ 255)
    (consuming : ∀ d, Consuming env d)
    (requested : (session c before.history).requestedLen = 0)
    (reachable : ReachableState cfg env after)
    (settling : Settling c before after) (done : ¬ FlushPending c after) :
    AllDelivered c before after := by
  obtain ⟨empty, unmatched⟩ := settling.progress.resolve_left done
  obtain ⟨accounts, _⟩ := streamPreserved_of_short short env after c consuming
    reachable settling.mode (settling.requested.trans requested)
  refine ⟨?_, unmatched, ?_⟩
  · rw [RingBuffer.isEmpty, empty]
    rfl
  · rw [empty, unmatched, UInt8.toNat_zero, take_zero, append_nil,
      append_nil, settling.received] at accounts
    exact accounts.symm

/-- The timeout delivers everything if and only if the ring holds something,
nothing is matched or a flush is to come anyway. -/
theorem timeoutDelivers_of_short (short : cfg.terminator.length ≤ 255)
    (consuming : ∀ d, Consuming env d) (reachable : ReachableState cfg env host)
    (mode : (host.data c).atMode = .dataMode)
    (requested : (session c host.history).requestedLen = 0)
    (timer : (host.ctx c).dataInactivityTimer = true) :
    TimeoutDelivers cfg env c host ↔ (host.data c).dataRb.isEmpty = false ∨
        (host.data c).quitStrMatch = 0 ∨ FlushPending c host := by
  constructor
  · intro delivers
    by_contra fails
    rw [not_or, not_or] at fails
    obtain ⟨noData, matched, idle⟩ := fails
    have expiry := step_inactivityExpiry cfg env timer
    obtain ⟨same, pending⟩ := inactivityExpiry_spec expiry
    have delivered := delivers _ _ _ expiry Execution.refl
      fun waits => (pending.mp waits).elim noData idle
    have data := congrArg Prod.fst same
    have unmatched := delivered.unmatched
    rw [show Host.data _ c = host.data c from data] at unmatched
    exact matched unmatched
  · intro condition expired taken after expiry execution done
    obtain ⟨same, pending⟩ := inactivityExpiry_spec expiry
    have data : expired.data c = host.data c := congrArg Prod.fst same
    have record : session c expired.history = session c host.history :=
      congrArg Prod.snd same
    have start : Settling c host expired := by
      refine ⟨?_, ?_, ?_, ?_⟩
      · rw [data]
        exact mode
      · rw [record]
      · rw [record]
      · rw [data, pending]
        by_cases holds : (host.data c).dataRb.isEmpty = false
        · exact .inl (.inl holds)
        · rcases condition with nonempty | unmatched | waits
          · exact absurd nonempty holds
          · right
            refine ⟨?_, unmatched⟩
            simpa [RingBuffer.isEmpty] using holds
          · exact .inl (.inr waits)
    obtain ⟨reached, settling⟩ := start.execution consuming
      (reachable.next _ trivial expiry) execution
    exact AllDelivered.of_settling short consuming requested reached settling done

/-- The expiry of the inactivity timer delivers all that was received, unless the ring is empty,
a part of the terminator is matched and no flush is pending. -/
def TimeoutExact (cfg : Config) : Prop :=
  ∀ (env : Environment) (host : Host) (c : CtxId),
    (∀ d, Consuming env d) → ReachableState cfg env host →
    (host.data c).atMode = .dataMode →
    (session c host.history).requestedLen = 0 →
    (host.ctx c).dataInactivityTimer = true →
    (TimeoutDelivers cfg env c host ↔ (host.data c).dataRb.isEmpty = false ∨
        (host.data c).quitStrMatch = 0 ∨ FlushPending c host)

/-- With a terminator that the counter of eight bits cannot hold, a match that
has wrapped around is lost without being pending. -/
theorem not_timeoutExact_of_long (long : 256 ≤ cfg.terminator.length) : ¬ TimeoutExact cfg := by
  intro isExact
  obtain ⟨host, reachable, running, _, data, record, timer, unflushed⟩ :=
    exists_long_match long 256 (Nat.le_refl _)
  have wrapped : (host.data 0).quitStrMatch = 0 := by
    rw [data]
    rfl
  have noPending : ¬ FlushPending 0 host := by
    rintro (queued | ⟨mark, flushing⟩)
    · obtain ⟨work, member, isFlush⟩ := List.any_eq_true.mp queued
      have notFlush := unflushed work member
      cases work with
      | rawSendScheduled d mark => exact notFlush
      | _ => cases isFlush
    · rw [running] at flushing
      cases flushing
  have timed := timer (by decide)
  have expiry := step_inactivityExpiry cfg (sessionEnv 0 consumeAll) timed
  obtain ⟨same, pending⟩ := inactivityExpiry_spec expiry
  have delivered := (isExact _ host 0 (consumeAll_consuming 0) reachable
    (by rw [data]; rfl) (by rw [record]) timed).mpr (.inr (.inl wrapped))
    _ _ _ expiry Execution.refl fun waits => by
      rcases pending.mp waits with holds | waiting
      · rw [data] at holds
        cases holds
      · exact noPending waiting
  have consumed := delivered.consumed
  have sameRecord := congrArg Prod.snd same
  rw [show session 0 _ = session 0 host.history from sameRecord, record] at consumed
  have lengths := congrArg List.length consumed
  rw [length_take, length_nil] at lengths
  omega

/-- The timeout delivers everything under the condition alone exactly when the
counter can hold the terminator. -/
theorem timeoutExact_iff (cfg : Config) : TimeoutExact cfg ↔ cfg.terminator.length ≤ 255 := by
  constructor
  · intro exact
    by_contra long
    exact not_timeoutExact_of_long (by omega) exact
  · intro short env host c consuming reachable mode requested timer
    exact timeoutDelivers_of_short short consuming reachable mode requested timer

/-- One character of the terminator, followed by silence, is not delivered. -/
theorem partial_terminator_stranded :
    ¬ ∀ (cfg : Config) (env : Environment) (host : Host) (c : CtxId),
        (∀ d, Consuming env d) → ReachableState cfg env host →
        (host.data c).atMode = .dataMode →
        (session c host.history).requestedLen = 0 →
        (host.ctx c).dataInactivityTimer = true →
        TimeoutDelivers cfg env c host := by
  intro claimed
  let env := sessionEnv 0 consumeAll
  obtain ⟨host, reachable, seen⟩ := exists_run plusConfig env [0]
    (openingActions 0 ++ [.receiveEnd, .dispatch, .pipeReceive 0 [43],
      .dispatch, .receiveByte, .receiveEnd])
    (fun state => (((state.data 0).atMode, (state.data 0).quitStrMatch,
        (state.data 0).dataRb.isEmpty),
      session 0 state.history, (state.ctx 0).dataInactivityTimer,
      state.workQueue, state.running))
    ((.dataMode, 1, true), ⟨0, [43], [], none⟩, true, [], .idle)
    (by decide)
  obtain ⟨data, seen⟩ := Prod.mk.inj seen
  obtain ⟨mode, data⟩ := Prod.mk.inj data
  obtain ⟨matched, noData⟩ := Prod.mk.inj data
  obtain ⟨record, seen⟩ := Prod.mk.inj seen
  obtain ⟨timer, seen⟩ := Prod.mk.inj seen
  obtain ⟨queue, running⟩ := Prod.mk.inj seen
  have requested : (session 0 host.history).requestedLen = 0 := by rw [record]
  have delivers := claimed plusConfig env host 0 (consumeAll_consuming 0)
    reachable mode requested timer
  have expiry := step_inactivityExpiry plusConfig env timer
  obtain ⟨same, pending⟩ := inactivityExpiry_spec expiry
  have delivered := delivers _ _ _ expiry Execution.refl fun waits => by
    rcases pending.mp waits with holds | queued | ⟨mark, flushing⟩
    · rw [noData] at holds
      cases holds
    · rw [queue] at queued
      cases queued
    · rw [running] at flushing
      cases flushing
  have sameRecord := congrArg Prod.snd same
  have consumed := delivered.consumed
  rw [show session 0 _ = session 0 host.history from sameRecord, record] at consumed
  cases consumed

end SerialModem.AtHost
