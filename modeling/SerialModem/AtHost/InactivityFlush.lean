import SerialModem.AtHost.OpenSession

/-!
# Flushes after inactivity

Each received byte stops the inactivity timer, but it does not take back the
work item that an expiry has queued.  A flush is fresh when no byte has been
received since its expiry.  It is stale when the expiry found a receive item of
the context still to be executed.
-/

namespace SerialModem.AtHost

open Library List Option

variable {cfg : Config} {env : Environment}

def RxPending (c : CtxId) (host : Host) : Prop :=
  Work.rx c ∈ host.workQueue ∨ ∃ pipe, host.running = .rx c pipe

/-- An expiry that has something to flush finds no receive item of its context
ahead. -/
def ExpiresAfterRx (host : Host) (action : Action) : Prop :=
  ∀ c, action = .inactivityExpiry c → (host.data c).dataRb.isEmpty = false → ¬ RxPending c host

def FlushFirst (queue : List Work) : Prop :=
  queue.Pairwise fun first second =>
    ∀ c mark, second = .rawSendScheduled c mark → first ≠ .rx c

structure FlushFresh (host : Host) : Prop where
  queued : ∀ c mark, Work.rawSendScheduled c mark ∈ host.workQueue →
    mark = (receivedBytes c host.history).length ∧ ∀ pipe, host.running ≠ .rx c pipe
  ordered : FlushFirst host.workQueue
  running : ∀ c mark, host.running = .rawSendScheduled c mark →
    mark = (receivedBytes c host.history).length

theorem FlushFirst.append {queue added : List Work} (first : FlushFirst queue)
    (notFlush : ∀ work, work ∈ added → NotFlush work) :
    FlushFirst (queue ++ added) := by
  have never : ∀ work c mark, work ∈ added → work ≠ .rawSendScheduled c mark := by
    rintro work c mark member rfl
    exact notFlush _ member
  refine pairwise_append.mpr ⟨first, ?_, ?_⟩
  · refine pairwise_of_forall_mem_list ?_
    intro _ _ second member c mark equality
    exact absurd equality (never second c mark member)
  · intro _ _ second member c mark equality
    exact absurd equality (never second c mark member)

variable {after : Host}

theorem FlushFresh.of_grown {before : Host} (fresh : FlushFresh before)
    (grown : ∃ added, after.workQueue = before.workQueue ++ added ∧
      ∀ work, work ∈ added → NotFlush work)
    (received : ∀ c mark, Work.rawSendScheduled c mark ∈ before.workQueue ∨
        before.running = .rawSendScheduled c mark →
      receivedBytes c after.history = receivedBytes c before.history)
    (runs : after.running = before.running ∨ after.running = .idle) :
    FlushFresh after := by
  obtain ⟨added, queue, notFlush⟩ := grown
  refine ⟨?_, queue ▸ fresh.ordered.append notFlush, ?_⟩
  · intro c mark member
    rw [queue, mem_append] at member
    rcases member with old | new
    · obtain ⟨marked, notRunning⟩ := fresh.queued c mark old
      rw [received c mark (.inl old)]
      refine ⟨marked, fun pipe => ?_⟩
      rcases runs with same | ended
      · rw [same]
        exact notRunning pipe
      · simp [ended]
    · exact False.elim (notFlush _ new)
  · intro c mark isRunning
    rcases runs with same | ended
    · rw [same] at isRunning
      rw [received c mark (.inr isRunning)]
      exact fresh.running c mark isRunning
    · rw [ended] at isRunning
      cases isRunning

theorem FlushFresh.of_frame {before : Host} (fresh : FlushFresh before) (frame : Frame before after)
    (notReceived : Appends NotReceived before after) : FlushFresh after :=
  fresh.of_grown frame.workQueue (fun _ _ _ => receivedBytes_of_appends notReceived)
    (.inl frame.running)

variable {host : Host}

theorem smAtReceive_others {c d : CtxId} {byte : Byte} (wellFormed : AllWellFormed cfg host)
    (ran : smAtReceive cfg env c byte host = some after)
    (different : d ≠ c) :
    receivedBytes d after.history = receivedBytes d host.history := by
  obtain ⟨handled, handling, rfl⟩ := map_eq_some_iff.mp ran
  rw [startInactivityTimer_history, receivedBytes_of_appends
      (handleByte_frame (takeByte_wellFormed wellFormed) handling).2]
  simp [takeByte, receivedBytes, setInactivityTimer, Host.setCtx, Ne.symm different]

theorem dispatch_flushFresh {work : Work} {rest : List Work}
    (fresh : FlushFresh host) (queue : host.workQueue = work :: rest) :
    FlushFresh (enterWork cfg work { host with workQueue := rest }) := by
  have ordered := fresh.ordered
  rw [queue] at ordered
  obtain ⟨first, restOrdered⟩ := pairwise_cons.mp ordered
  have popped : FlushFresh { host with workQueue := rest } := by
    refine ⟨?_, restOrdered, fresh.running⟩
    intro c mark member
    exact fresh.queued c mark (queue ▸ mem_cons_of_mem _ member)
  cases work with
  | rx d =>
    rcases enterRxWork_cases d { host with workQueue := rest } with
      same | ⟨pipe, _, _, _, entered⟩
    · rw [enterWork, same]
      exact popped
    · rw [enterWork, entered]
      refine ⟨?_, restOrdered, ?_⟩
      · intro c mark member
        refine ⟨(popped.queued c mark member).1, ?_⟩
        rintro p ⟨rfl, rfl⟩
        exact first _ member d mark rfl rfl
      · intro c mark isRunning
        cases isRunning
  | rawSendScheduled d mark =>
    refine ⟨?_, restOrdered, ?_⟩
    · intro c m member
      exact ⟨(popped.queued c m member).1, by simp [enterWork]⟩
    · intro c m isRunning
      cases isRunning
      exact (fresh.queued d mark (queue ▸ mem_cons_self ..)).1
  | atHost =>
    obtain ⟨frame, quiet, _⟩ :=
      smAtHostWorkFn_quiet cfg { host with workQueue := rest }
    exact popped.of_frame frame (quiet.mono fun _ isQuiet => isQuiet.internal.notReceived)
  | poll d => exact popped

theorem inactivityExpiry_flushFresh {c : CtxId} (fresh : FlushFresh host)
    (permitted : ExpiresAfterRx host (.inactivityExpiry c)) :
    FlushFresh (inactivityTimerHandler c (setInactivityTimer c false host)) := by
  have stopped : FlushFresh (setInactivityTimer c false host) :=
    fresh.of_frame (Frame.setCtx host rfl) (Appends.of_eq rfl)
  have sameData : (setInactivityTimer c false host).data c = host.data c := by
    apply host.data_setCtx_of_eq
    rfl
  unfold inactivityTimerHandler submitWork
  split
  · exact stopped
  · rename_i queues
    split
    · exact stopped
    · have nonempty : (host.data c).dataRb.isEmpty = false := by
        rw [sameData] at queues
        simp only [Bool.or_eq_true, not_or, Bool.not_eq_true] at queues
        exact queues.1
      have clear := permitted c rfl nonempty
      refine ⟨?_, ?_, stopped.running⟩
      · intro d mark member
        rcases mem_append.mp member with old | new
        · exact stopped.queued d mark old
        · cases mem_singleton.mp new
          refine ⟨rfl, fun pipe isRunning => clear (.inr ⟨pipe, ?_⟩)⟩
          exact isRunning
      · refine pairwise_append.mpr ⟨stopped.ordered, pairwise_singleton .., ?_⟩
        rintro first member second isNew d mark isFlush rfl
        rw [mem_singleton.mp isNew] at isFlush
        cases isFlush
        exact clear (.inl member)

theorem step_flushFresh {action : Action} (wellFormed : AllWellFormed cfg host)
    (fresh : FlushFresh host) (permitted : ExpiresAfterRx host action)
    (taken : step cfg env action host = some after) : FlushFresh after := by
  cases step_cases taken with
  | pipeReceive c content pipe _ _ =>
    have offered : FlushFresh (setPipeRx pipe (host.pipeRx pipe ++ content) host) :=
      ⟨fresh.queued, fresh.ordered, fresh.running⟩
    refine offered.of_frame (Frame.submitWork _ trivial) (Appends.of_eq ?_)
    unfold submitWork
    split <;> rfl
  | inactivityExpiry c _ => exact inactivityExpiry_flushFresh fresh permitted
  | idleExpiry c _ =>
    have expired : Undisturbed cfg host (host.setCtx c { host.ctx c with idleTimer := false }) :=
      Undisturbed.setCtx host rfl rfl
    have notified := expired.trans (sendMsg_undisturbed (Message.event c .urc) _)
    exact fresh.of_frame notified.frame (notified.internal.mono fun _ => Internal.notReceived)
  | dispatch work rest _ queue => exact dispatch_flushFresh fresh queue
  | receiveByte c pipe byte rest handled isRunning waiting received =>
    have arrived : AllWellFormed cfg (setPipeRx pipe rest host) := wellFormed
    have frame := smAtReceive_frame arrived received
    have others : ∀ d mark, Work.rawSendScheduled d mark ∈ host.workQueue ∨
          host.running = .rawSendScheduled d mark →
        receivedBytes d (continueRxWork c pipe handled).history = receivedBytes d host.history := by
      intro d mark pending
      have different : d ≠ c := by
        rintro rfl
        rcases pending with queued | running
        · exact (fresh.queued d mark queued).2 pipe isRunning
        · rw [isRunning] at running
          cases running
      have same := smAtReceive_others arrived received different
      unfold continueRxWork
      split
      · exact same
      · exact same
    refine fresh.of_grown ?_ others ?_
    · unfold continueRxWork
      split
      · exact frame.workQueue
      · exact frame.workQueue
    · unfold continueRxWork
      split
      · exact .inl frame.running
      · exact .inr rfl
  | receiveEnd c pipe _ =>
    exact fresh.of_grown ⟨[], by simp [leaveRxWork, Host.setCurrentCtx],
      by simp⟩ (fun _ _ _ => rfl) (.inr rfl)
  | flush c mark flushed _ ran =>
    obtain ⟨inner, processed, rfl⟩ := rawSendScheduled_processed False
      wellFormed (fun impossible => impossible.elim) ran
    refine fresh.of_grown processed.frame.workQueue (fun d _ _ => ?_) (.inr rfl)
    exact receivedBytes_of_appends (c := d) (processed.internal.mono fun _ => Internal.notReceived)
  | exitDatamodeHandler c result _ =>
    have confined := exitDatamodeHandler_confined cfg env c result host
    exact fresh.of_frame confined.frame (confined.internal.mono fun _ => Internal.notReceived)
  | call hostCall _ =>
    have called : Undisturbed cfg host (performCall cfg hostCall host) :=
      performCall_undisturbed hostCall host
    exact fresh.of_frame called.frame (called.internal.mono fun _ => Internal.notReceived)

/-- No byte of a context is received while its flush waits. -/
theorem reachable_flushFresh (reachable : ReachableIf cfg env ExpiresAfterRx host) :
    FlushFresh host := by
  induction reachable with
  | start initial =>
    refine ⟨?_, ?_, ?_⟩
    · simp [initial.workQueue]
    · rw [initial.workQueue]
      exact List.Pairwise.nil
    · simp [initial.running]
  | next action before permitted taken ih =>
    exact step_flushFresh (reachable_wellFormed before) ih permitted taken

/-- When no expiry finds a receive item of its context ahead, the context has
received nothing between the expiry and the end of the flush. -/
theorem flush_not_stale {host after : Host} {c : CtxId} {mark : Nat}
    (reachable : ReachableIf cfg env ExpiresAfterRx host)
    (running : host.running = .rawSendScheduled c mark)
    (flushed : step cfg env .flush host = some after) :
    (receivedBytes c after.history).length = mark := by
  have marked := (reachable_flushFresh reachable).running c mark running
  cases step_cases flushed with
  | flush d m inner isRunning ran =>
    rw [running] at isRunning
    cases isRunning
    obtain ⟨sent, processed, rfl⟩ := rawSendScheduled_processed False
      (reachable_wellFormed reachable) (fun impossible => impossible.elim)
      ran
    have same : receivedBytes c sent.history = receivedBytes c host.history :=
      receivedBytes_of_appends (processed.internal.mono fun _ => Internal.notReceived)
    rw [marked, ← same]
    rfl

def quietActions : List Action :=
  openingActions 0 ++ [.receiveEnd, .dispatch, .pipeReceive 0 [97],
    .dispatch, .receiveByte, .receiveEnd]

/-- An expiry on an empty queue is flushed at once. -/
theorem flush_after_quiet : ∃ host after mark,
      ReachableIf plusConfig (sessionEnv 0 consumeAll) ExpiresAfterRx host ∧
      host.running = .rawSendScheduled 0 mark ∧
      step plusConfig (sessionEnv 0 consumeAll) .flush host = some after ∧
      (receivedBytes 0 after.history).length = mark := by
  let env := sessionEnv 0 consumeAll
  obtain ⟨quiet, quietReachable, seen⟩ := exists_run_if plusConfig env
    ExpiresAfterRx (fun _ _ => true) [0] quietActions
    (by
      intro host action member _ c equality
      subst equality
      simp [quietActions, openingActions] at member)
    (fun state => (state.workQueue, state.running,
      (step plusConfig env (.inactivityExpiry 0) state).bind fun expired =>
        (step plusConfig env .dispatch expired).bind fun host =>
          (step plusConfig env .flush host).map fun _ => host.running))
    ([], .idle, some (.rawSendScheduled 0 4)) (by decide)
  obtain ⟨queue, seen⟩ := Prod.mk.inj seen
  obtain ⟨idle, seen⟩ := Prod.mk.inj seen
  obtain ⟨expired, expiry, seen⟩ := bind_eq_some_iff.mp seen
  obtain ⟨host, dispatched, seen⟩ := bind_eq_some_iff.mp seen
  obtain ⟨after, flushed, running⟩ := map_eq_some_iff.mp seen
  have reachable : ReachableIf plusConfig env ExpiresAfterRx host := by
    refine (quietReachable.next _ ?_ expiry).next _ ?_ dispatched
    · rintro c _ _ (queued | ⟨pipe, running⟩)
      · simp [queue] at queued
      · simp [idle] at running
    · intro c impossible
      cases impossible
  exact ⟨host, after, 4, reachable, running, flushed, flush_not_stale reachable running flushed⟩

def newEvents (before after : Host) : List Event :=
  after.history.drop before.history.length

/-- A byte is already waiting when the timer of the byte before it expires, so
the flush runs behind the receive item and takes the new byte with it. -/
theorem flush_stale : ¬ ∀ (cfg : Config) (env : Environment) (host after : Host) (c : CtxId)
        (mark : Nat) (handler : HandlerId) (content : List Byte)
        (flags : Flags) (result : Int),
      ReachableState cfg env host →
      host.running = .rawSendScheduled c mark →
      step cfg env .flush host = some after →
      Event.handlerSend c handler content flags result ∈ newEvents host after →
      (receivedBytes c after.history).length = mark := by
  intro claimed
  let env := sessionEnv 0 consumeAll
  obtain ⟨host, reachable, seen⟩ := exists_run plusConfig env [0]
    (quietActions ++ [.pipeReceive 0 [98], .inactivityExpiry 0, .dispatch,
      .receiveByte, .receiveEnd, .dispatch])
    (fun state => (state.running, (step plusConfig env .flush state).map fun after =>
        (newEvents state after, (receivedBytes 0 after.history).length)))
    (.rawSendScheduled 0 4, some ([.rawSend 0 Flags.none,
        .handlerSend 0 0 [97, 98] Flags.none 2], 5))
    (by decide)
  obtain ⟨running, seen⟩ := Prod.mk.inj seen
  obtain ⟨after, flushed, seen⟩ := map_eq_some_iff.mp seen
  obtain ⟨events, counted⟩ := Prod.mk.inj seen
  have fresh := claimed plusConfig env host after 0 4 0 [97, 98] Flags.none 2
    reachable running flushed (by simp [events])
  omega

end SerialModem.AtHost
