import SerialModem.AtHost.MachineSteps

/-!
# What becomes of a posted message

Notifications and pipe events share `sm_at_host_msgq`.  The log of the queue
says what was posted, taken and purged, and the queue is what the log leaves.
From that every message is accounted for: it is taken in its turn, unless a
later `send_msg` finds the queue full and purges all that waits in it.
-/

namespace SerialModem.AtHost

open Library List

variable {cfg : Config} {env : Environment}

namespace MsgqEvent

def next (queue : List Message) : MsgqEvent → List Message
  | .posted message => queue ++ [message]
  | .purged => []
  | .taken _ => queue.tail

def Orderly (queue : List Message) : MsgqEvent → Prop
  | .posted _ => queue.length < msgqCapacity
  | .purged => msgqCapacity ≤ queue.length
  | .taken message => queue.head? = some message

end MsgqEvent

def waiting (log : List MsgqEvent) : List Message :=
  log.foldl MsgqEvent.next []

/-- The messages that were put into the queue. -/
def postedMessages (log : List MsgqEvent) : List Message :=
  log.filterMap fun event =>
    match event with
    | .posted message => some message
    | _ => none

/-- The messages that the loop has taken. -/
def takenMessages (log : List MsgqEvent) : List Message :=
  log.filterMap fun event =>
    match event with
    | .taken message => some message
    | _ => none

def OrderlyLog (log : List MsgqEvent) : Prop :=
  ∀ earlier event later, log = earlier ++ event :: later → event.Orderly (waiting earlier)

theorem waiting_append_singleton (log : List MsgqEvent) (event : MsgqEvent) :
    waiting (log ++ [event]) = event.next (waiting log) := by
  simp [waiting]

theorem OrderlyLog.append_singleton {log : List MsgqEvent}
    {event : MsgqEvent} (orderly : OrderlyLog log)
    (last : event.Orderly (waiting log)) : OrderlyLog (log ++ [event]) := by
  intro earlier member later split
  rcases eq_nil_or_concat later with rfl | ⟨front, final, rfl⟩
  · have same := append_inj' split rfl
    cases same.1
    cases same.2
    exact last
  · have shorter : log = earlier ++ member :: front := by
      have aligned : log ++ [event] = (earlier ++ member :: front) ++ [final] := by
        simpa using split
      exact (append_inj' aligned rfl).1
    exact orderly earlier member front shorter

theorem OrderlyLog.balance {earlier : List MsgqEvent} (later : List MsgqEvent)
    (orderly : OrderlyLog (earlier ++ later)) (kept : .purged ∉ later) :
    waiting earlier ++ postedMessages later =
      takenMessages later ++ waiting (earlier ++ later) := by
  induction later generalizing earlier with
  | nil => simp [postedMessages, takenMessages]
  | cons event rest ih =>
    have split : earlier ++ event :: rest = (earlier ++ [event]) ++ rest := by
      simp
    have isOrderly := orderly earlier event rest rfl
    have remaining := ih (split ▸ orderly) fun member => kept (mem_cons_of_mem _ member)
    rw [waiting_append_singleton, ← split] at remaining
    cases event with
    | posted message =>
      simpa [postedMessages, takenMessages, MsgqEvent.next] using remaining
    | purged => exact absurd (mem_cons_self ..) kept
    | taken message =>
      obtain ⟨others, front⟩ := List.head?_eq_some_iff.mp isOrderly
      rw [front] at remaining ⊢
      simpa [postedMessages, takenMessages, MsgqEvent.next] using remaining

/-- The queue is what its log leaves, and while something waits in it the work
item that takes it is queued, or running. -/
structure Accounted (busy : Prop) (host : Host) : Prop where
  queue : host.msgq = waiting host.msgqLog
  orderly : OrderlyLog host.msgqLog
  attended : host.msgq ≠ [] → busy ∨ .atHost ∈ host.workQueue

namespace Accounted

variable {busy : Prop}

theorem of_same {before after : Host} (accounted : Accounted busy before)
    (queue : after.msgq = before.msgq) (log : after.msgqLog = before.msgqLog)
    (work : .atHost ∈ before.workQueue → .atHost ∈ after.workQueue) :
    Accounted busy after where
  queue := by rw [queue, log, accounted.queue]
  orderly := by rw [log]; exact accounted.orderly
  attended := by
    rw [queue]
    intro nonempty
    exact (accounted.attended nonempty).imp id work

variable {host : Host}

theorem submitWork (accounted : Accounted busy host) (work : Work) :
    Accounted busy (submitWork work host) := by
  unfold AtHost.submitWork
  split
  · exact accounted
  · exact accounted.of_same rfl rfl fun member =>
      mem_append_left _ member

theorem mem_submitWork (work : Work) (host : Host) :
    work ∈ (AtHost.submitWork work host).workQueue := by
  unfold AtHost.submitWork
  split
  · assumption
  · simp

theorem sendMsg (accounted : Accounted busy host) (message : Message) :
    Accounted busy (sendMsg message host) := by
  obtain ⟨queue, orderly, _⟩ := accounted
  have posted : ∀ {kept : List Message} {log : List MsgqEvent},
      kept = waiting log → OrderlyLog log → kept.length < msgqCapacity →
      kept ++ [message] = waiting (log ++ [.posted message]) ∧
        OrderlyLog (log ++ [.posted message]) := by
    intro kept log isWaiting isOrderly room
    refine ⟨?_, isOrderly.append_singleton ?_⟩
    · rw [waiting_append_singleton, isWaiting]
      rfl
    · rw [← isWaiting]
      exact room
  have result : (AtHost.sendMsg message host).msgq = waiting (AtHost.sendMsg message host).msgqLog ∧
      OrderlyLog (AtHost.sendMsg message host).msgqLog := by
    have submitted : ∀ (work : Work) (state : Host),
        (AtHost.submitWork work state).msgq = state.msgq ∧
          (AtHost.submitWork work state).msgqLog = state.msgqLog := by
      intro work state
      unfold AtHost.submitWork
      split
      · exact ⟨rfl, rfl⟩
      · exact ⟨rfl, rfl⟩
    unfold AtHost.sendMsg
    dsimp only
    rw [(submitted _ _).1, (submitted _ _).2]
    by_cases full : msgqCapacity ≤ host.msgq.length
    · rw [if_pos full, if_pos full]
      refine posted ?_ (orderly.append_singleton ?_) (by decide)
      · rw [waiting_append_singleton]
        rfl
      · rw [← queue]
        exact full
    · rw [if_neg full, if_neg full, append_nil]
      exact posted queue orderly (by omega)
  refine ⟨result.1, result.2, fun _ => Or.inr ?_⟩
  exact mem_submitWork .atHost _

theorem stepInvariant : StepInvariant (Accounted busy) where
  update update accounted := by
    cases update with
    | post own => exact accounted.sendMsg _
    | submit notFlush => exact accounted.submitWork _
    | ctx | urcBuf | record | lock | current => exact accounted.of_same rfl rfl id
  submit work _ accounted := accounted.submitWork work
  pop other queue accounted := by
    refine accounted.of_same rfl rfl fun member => ?_
    rw [queue] at member
    exact (mem_cons.mp member).resolve_left (Ne.symm other)
  relabel running pipeRx _ accounted := accounted.of_same rfl rfl id

theorem rewires {creating freeing : Prop} {before after : Host} (accounted : Accounted busy before)
    (rewires : Rewires creating freeing before after) :
    Accounted busy after := by
  refine rewires.preserves ?_ accounted
  intro first second rewire holds
  cases rewire with
  | post _ => exact holds.sendMsg _
  | submit work => exact holds.submitWork work
  | free =>
    refine holds.of_same rfl rfl fun member => ?_
    exact mem_filter.mpr ⟨member, rfl⟩
  | _ => exact holds.of_same rfl rfl id

theorem popMessage {message : Message} {rest : List Message}
    (accounted : Accounted busy host) (isBusy : busy)
    (queue : host.msgq = message :: rest) :
    Accounted busy (popMessage message rest host) := by
  have isWaiting := accounted.queue
  rw [queue] at isWaiting
  refine ⟨?_, accounted.orderly.append_singleton ?_, fun _ => .inl isBusy⟩
  · change rest = waiting (host.msgqLog ++ [.taken message])
    rw [waiting_append_singleton, ← isWaiting]
    rfl
  · rw [← isWaiting]
    rfl

/-- Nobody waits for the running item any more. -/
theorem idle (accounted : Accounted busy host) (empty : host.msgq = [])
    (busy' : Prop) : Accounted busy' host :=
  ⟨accounted.queue, accounted.orderly, fun nonempty => absurd empty nonempty⟩

theorem enter (accounted : Accounted busy host) {busy' : Prop} (isBusy : busy')
    {queue : List Work} :
    Accounted busy' { host with workQueue := queue } :=
  ⟨accounted.queue, accounted.orderly, fun _ => .inl isBusy⟩

theorem hostChange {action : MachineAction} {before after : Machine}
    (accounted : Accounted (before.loop ≠ .none) before.host)
    (change : HostChange cfg env action before after) :
    Accounted (after.loop ≠ .none) after.host := by
  cases change with
  | step action _ notWorkFn ran loop =>
    rw [loop]
    exact stepInvariant.step notWorkFn ran accounted
  | rewires rewired loop =>
    rw [loop]
    exact accounted.rewires rewired
  | leaveRx host rewired left loop =>
    rw [loop, left]
    exact stepInvariant.leaveRxWork (accounted.rewires rewired)
  | enterLoop rest _ _ _ same loop =>
    rw [same, loop]
    exact accounted.enter (by simp)
  | endLoop _ empty same loop =>
    rw [same]
    exact accounted.idle empty _
  | message _ message rest handled _ inLoop queue rewired result =>
    have popped := (accounted.popMessage (by rw [inLoop]; simp) queue).rewires rewired
    rcases result with ⟨rfl, loop⟩ | ⟨c, flushed, loop⟩
    · rw [loop]
      exact popped.enter (by simp)
    · rw [flushed, loop]
      have inside : Accounted (WorkLoop.idleWork c ≠ .none) handled :=
        popped.enter (by simp)
      exact stepInvariant.updates (Updates.flushPipeUrcs c _)
        (stepInvariant.update (Update.current handled (some c)) inside)
  | endIdleWork c inLoop left loop =>
    rw [left, loop]
    have inside : Accounted (WorkLoop.messages ≠ .none) before.host :=
      accounted.enter (by simp)
    exact inside.of_same rfl rfl id

end Accounted

variable {allowed : Machine → MachineAction → Prop}

/-- Every message that was posted waits, was taken or was purged. -/
theorem reachable_accounted {machine : Machine}
    (reachable : MachineReachableIf cfg env allowed machine) :
    Accounted (machine.loop ≠ .none) machine.host := by
  induction reachable with
  | start booted =>
    refine ⟨?_, ?_, fun nonempty => absurd booted.msgq nonempty⟩
    · rw [booted.msgq, booted.msgqLog]
      rfl
    · intro earlier event later split
      rw [booted.msgqLog] at split
      exact absurd split (by simp)
  | next action _ _ taken ih =>
    exact ih.hostChange (machineStep_hostChange taken)

/-- Nothing runs, and nothing waits to run. -/
structure Quiescent (machine : Machine) : Prop where
  workQueue : machine.host.workQueue = []
  running : machine.host.running = .idle
  loop : machine.loop = .none

theorem quiescent_msgq {machine : Machine} (reachable : MachineReachableIf cfg env allowed machine)
    (quiescent : Quiescent machine) : machine.host.msgq = [] := by
  by_contra nonempty
  rcases (reachable_accounted reachable).attended nonempty with
    inside | queued
  · exact inside quiescent.loop
  · rw [quiescent.workQueue] at queued
    cases queued

/-- Whatever pipes, timers and callers do, messages are taken in the order in
which they were posted, each at most once.  Only a full queue is purged.  As
long as none is purged, what waited and what was posted is what was taken and
what still waits, and nothing waits once all submitted work has run. -/
theorem messages_taken_unless_purged {machine : Machine}
    (reachable : MachineReachableIf cfg env (fun _ _ => True) machine) :
    (∀ earlier later, machine.host.msgqLog = earlier ++ later → .purged ∉ later →
      waiting earlier ++ postedMessages later = takenMessages later ++ machine.host.msgq) ∧
    (∀ earlier later, machine.host.msgqLog = earlier ++ .purged :: later →
      msgqCapacity ≤ (waiting earlier).length) ∧
    (machine.host.msgq ≠ [] → machine.loop ≠ .none ∨ .atHost ∈ machine.host.workQueue) ∧
    (Quiescent machine → machine.host.msgq = []) := by
  have accounted := reachable_accounted reachable
  refine ⟨?_, ?_, accounted.attended, quiescent_msgq reachable⟩
  · intro earlier later split kept
    have orderly := accounted.orderly
    rw [split] at orderly
    rw [orderly.balance later kept, accounted.queue, split]
  · intro earlier later split
    exact accounted.orderly earlier .purged later split

/-- A CMUX channel opens and gets a context. -/
theorem opened_channel_taken : ∃ machine, MachineReachableIf plusConfig (sessionEnv 0 consumeAll)
        (fun _ _ => True) machine ∧
      Quiescent machine ∧ machine.host.instanceList = [0, 1] ∧
      .ofPipe none 1 .opened ∈ takenMessages machine.host.msgqLog := by
  obtain ⟨machine, reachable, seen⟩ := exists_machine_run plusConfig (sessionEnv 0 consumeAll)
    [.pipeOpened 1, .host .dispatch, .takeMessage (some 1), .endMessages]
    (fun machine => (machine.host.msgqLog, machine.host.instanceList,
      machine.host.workQueue, machine.host.running, machine.loop))
    ([.posted (.ofPipe none 1 .opened), .taken (.ofPipe none 1 .opened)],
      [0, 1], [], .idle, .none) (by decide)
  obtain ⟨log, contexts, queue, running, loop⟩ := by
    simpa only [Prod.mk.injEq] using seen
  have quiescent : Quiescent machine := ⟨queue, running, loop⟩
  obtain ⟨balance, _, _, drained⟩ := messages_taken_unless_purged reachable
  have taken := balance [] _ (by rw [nil_append]) (by rw [log]; decide)
  rw [drained quiescent, append_nil] at taken
  refine ⟨machine, reachable, quiescent, contexts, ?_⟩
  rw [← taken, log]
  decide

/-- The UART pipe closes, and ten URCs are produced before the work queue gets
to the message. -/
def purgedCloseActions : List MachineAction :=
  .pipeClosed 0 :: replicate 10 (.host (.call (.urcSend [85]))) ++
    [.host .dispatch, .takeMessage none, .idleItem, .endMessages]

/-- The message of the closed pipe is never taken. -/
theorem closed_event_purged : ∃ machine, MachineReachableIf plusConfig (sessionEnv 0 consumeAll)
        (fun _ _ => True) machine ∧
      Quiescent machine ∧
      .ofPipe (some 0) 0 .closed ∈ postedMessages machine.host.msgqLog ∧
      .ofPipe (some 0) 0 .closed ∉ takenMessages machine.host.msgqLog := by
  obtain ⟨machine, reachable, seen⟩ := exists_machine_run plusConfig
    (sessionEnv 0 consumeAll) purgedCloseActions
    (fun machine => (postedMessages machine.host.msgqLog,
      takenMessages machine.host.msgqLog, machine.host.workQueue,
      machine.host.running, machine.loop))
    (.ofPipe (some 0) 0 .closed :: replicate 10 (.event 0 .urc),
      [.event 0 .urc], [], .idle, .none) (by decide)
  obtain ⟨posted, taken, queue, running, loop⟩ := by
    simpa only [Prod.mk.injEq] using seen
  refine ⟨machine, reachable, ⟨queue, running, loop⟩, ?_, ?_⟩
  · rw [posted]
    decide
  · rw [taken]
    decide

end SerialModem.AtHost
