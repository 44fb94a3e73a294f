import SerialModem.AtHost.MachineSteps
import SerialModem.AtHost.ExecutionLock
import Mathlib.Data.List.Induction

/-!
# What the executing lock counts

Each command and each caller of `sm_at_host_lock_ctx` takes `executing_lock`
once and releases it once, possibly much later.  The lock of a context is the
number of acquisitions since the context was allocated, minus the releases.

One store breaks the count: `sm_at_host_create` clears the lock of a context
that it takes over, although a command of its former pipe may still hold it.
-/

namespace SerialModem.AtHost

open Library List

variable {cfg : Config} {env : Environment}

def lockMove (c : CtxId) : Event → Int
  | .locked d => if d = c then 1 else 0
  | .unlocked d => if d = c then -1 else 0
  | _ => 0

/-- The acquisitions of `c` minus its releases. -/
def lockBalance (c : CtxId) : History → Int
  | [] => 0
  | event :: rest => lockMove c event + lockBalance c rest

def matchLock (c : CtxId) (unmatched : Nat) : Event → Nat
  | .locked d => if d = c then unmatched + 1 else unmatched
  | .unlocked d => if d = c then unmatched - 1 else unmatched
  | _ => unmatched

/-- How often the lock of `c` was taken and not given back. -/
def unmatchedLocks (c : CtxId) (history : History) : Nat :=
  history.foldl (matchLock c) 0

/-- Every release of `c` finds an acquisition that it matches. -/
def ReleasesMatched (c : CtxId) (history : History) : Prop :=
  ∀ earlier later, history = earlier ++ .unlocked c :: later → 0 < unmatchedLocks c earlier

/-- `ReleasesMatched` as a function, for a history that begins with some
acquisitions not yet matched. -/
def releasesMatched (c : CtxId) : Nat → History → Bool
  | _, [] => true
  | unmatched, event :: rest =>
    (event != .unlocked c || decide (0 < unmatched)) &&
      releasesMatched c (matchLock c unmatched event) rest

variable {c : CtxId}

theorem matched_of_releasesMatched (history : History) :
    ∀ {unmatched : Nat}, releasesMatched c unmatched history = true →
      ∀ earlier later, history = earlier ++ .unlocked c :: later →
        0 < earlier.foldl (matchLock c) unmatched := by
  induction history with
  | nil =>
    intro unmatched _ earlier later split
    exact absurd split (by simp)
  | cons event rest ih =>
    intro unmatched checked earlier later split
    obtain ⟨first, others⟩ := Bool.and_eq_true_iff.mp checked
    cases earlier with
    | nil =>
      obtain ⟨rfl, _⟩ := List.cons.inj split
      simpa using first
    | cons head tail =>
      obtain ⟨rfl, isRest⟩ := List.cons.inj split
      exact ih others tail later isRest

theorem ReleasesMatched.of_checked {history : History}
    (checked : releasesMatched c 0 history = true) :
    ReleasesMatched c history :=
  matched_of_releasesMatched history checked

theorem lockBalance_append (c : CtxId) (first second : History) :
    lockBalance c (first ++ second) = lockBalance c first + lockBalance c second := by
  induction first with
  | nil => simp [lockBalance]
  | cons event rest ih =>
    simp only [cons_append, lockBalance, ih]
    omega

theorem unmatchedLocks_append_singleton (c : CtxId) (history : History) (event : Event) :
    unmatchedLocks c (history ++ [event]) = matchLock c (unmatchedLocks c history) event := by
  simp [unmatchedLocks]

theorem ReleasesMatched.of_append {first second : History}
    (matched : ReleasesMatched c (first ++ second)) :
    ReleasesMatched c first := by
  intro earlier later split
  apply matched earlier (later ++ second)
  rw [split, append_assoc, cons_append]

theorem lockBalance_eq_unmatched (history : History) (matched : ReleasesMatched c history) :
    lockBalance c history = unmatchedLocks c history := by
  induction history using reverseRecOn with
  | nil => rfl
  | append_singleton earlier event ih =>
    have balance := ih matched.of_append
    rw [lockBalance_append, balance, unmatchedLocks_append_singleton]
    cases event with
    | locked d =>
      by_cases same : d = c
      · simp [lockBalance, lockMove, matchLock, same]
      · simp [lockBalance, lockMove, matchLock, same]
    | unlocked d =>
      by_cases same : d = c
      · subst same
        have positive : 0 < unmatchedLocks d earlier :=
          matched earlier [] rfl
        simp only [lockBalance, lockMove, matchLock, if_true]
        omega
      · simp [lockBalance, lockMove, matchLock, same]
    | _ => simp [lockBalance, lockMove, matchLock]

structure LocksCounted (createdAt : CtxId → Nat) (host : Host) : Prop where
  created : ∀ c, createdAt c ≤ host.history.length
  counted : ∀ c, (host.ctx c).executingLock = lockBalance c (host.history.drop (createdAt c))

namespace LocksCounted

variable {createdAt : CtxId → Nat} {host after : Host}

theorem append (counted : LocksCounted createdAt host) {events : History}
    (appended : after.history = host.history ++ events)
    (moved : ∀ c, (after.ctx c).executingLock = (host.ctx c).executingLock + lockBalance c events) :
    LocksCounted createdAt after where
  created c := by
    have bound := counted.created c
    rw [appended, length_append]
    omega
  counted c := by
    rw [appended, drop_append_of_le_length (counted.created c),
      lockBalance_append, ← counted.counted c, moved c]

theorem of_same (counted : LocksCounted createdAt host) (history : after.history = host.history)
    (locks : ∀ c, (after.ctx c).executingLock =
      (host.ctx c).executingLock) : LocksCounted createdAt after := by
  have appended : after.history = host.history ++ [] := by
    rw [history, append_nil]
  refine counted.append appended (fun c => ?_)
  simpa [lockBalance] using locks c

theorem stepInvariant : StepInvariant (LocksCounted createdAt) where
  update update counted := by
    cases update with
    | ctx c _ sameLock =>
      exact counted.of_same rfl (setCtx_executingLock _ sameLock)
    | urcBuf => exact counted.of_same rfl fun _ => rfl
    | record notLock =>
      rename_i host event
      refine counted.append (rfl : (host.record event).history =
        host.history ++ [event]) (fun c => ?_)
      cases event with
      | locked | unlocked => cases notLock
      | _ => simp [Host.record, lockBalance, lockMove]
    | lock c unit =>
      rename_i host amount
      refine counted.append (rfl : (addExecutingLock c amount host).history =
        host.history ++ _) (fun d => ?_)
      by_cases same : d = c
      · subst same
        rcases unit with rfl | rfl
        · simp [addExecutingLock, Host.record, Host.setCtx, lockBalance, lockMove]
        · simp [addExecutingLock, Host.record, Host.setCtx, lockBalance, lockMove]
      · rcases unit with rfl | rfl
        · simp [addExecutingLock, Host.record, Host.setCtx, lockBalance,
            lockMove, same, Ne.symm same]
        · simp [addExecutingLock, Host.record, Host.setCtx, lockBalance,
            lockMove, same, Ne.symm same]
    | post =>
      exact counted.of_same (SameServing.sendMsg _ _).history (sendMsg_executingLock _ _)
    | submit =>
      exact counted.of_same (SameServing.submitWork _ _).history (submitWork_executingLock _ _)
    | current => exact counted.of_same rfl fun _ => rfl
  submit work _ counted :=
    counted.of_same (SameServing.submitWork work _).history (submitWork_executingLock work _)
  pop _ _ counted := counted.of_same rfl fun _ => rfl
  relabel _ _ _ counted := counted.of_same rfl fun _ => rfl

/-- Nothing but `sm_at_host_create` stores to a lock. -/
theorem rewires {freeing : Prop} (counted : LocksCounted createdAt host)
    (rewires : Rewires False freeing host after) :
    LocksCounted createdAt after := by
  refine rewires.preserves ?_ counted
  intro first second rewire holds
  refine holds.of_same rewire.sameServing.history (fun c => ?_)
  cases rewire with
  | post _ => exact sendMsg_executingLock _ first c
  | submit work => exact submitWork_executingLock work first c
  | storePipe d pipe | free | idleTimer d =>
    apply setCtx_executingLock
    rfl
  | settings => rfl
  | reset d creates | allocate pipe fresh creates => exact creates.elim

theorem reuseCtx (counted : LocksCounted createdAt host)
    {c : CtxId} (unlocked : (host.ctx c).executingLock = 0) (pipe : PipeId) :
    LocksCounted createdAt (reuseCtx c pipe host) := by
  have reused : LocksCounted createdAt (host.setCtx c
      { host.ctx c with pipe := some pipe, executingLock := 0 }) :=
    counted.of_same rfl (setCtx_executingLock host unlocked.symm)
  unfold AtHost.reuseCtx
  dsimp only
  split
  · exact reused.of_same (SameServing.sendMsg _ _).history (sendMsg_executingLock _ _)
  · exact reused

theorem allocate (counted : LocksCounted createdAt host) (c : CtxId) (pipe : PipeId)
    (contexts : List CtxId) :
    LocksCounted (Function.update createdAt c host.history.length)
      { host.setCtx c (Ctx.init (some pipe)) with
        instanceList := contexts } where
  created d := by
    by_cases same : d = c
    · simp [Host.setCtx, same]
    · simpa [Host.setCtx, same] using counted.created d
  counted d := by
    by_cases same : d = c
    · simp [Host.setCtx, Ctx.init, lockBalance, same]
    · simpa [Host.setCtx, same] using counted.counted d

end LocksCounted

/-- `sm_at_host_create` only takes over a context that is not locked. -/
def ReusedUnlocked (cfg : Config) (machine : Machine) : MachineAction → Prop
  | .takeMessage _ => ∀ message, machine.host.msgq.head? = some message →
      message.pipeEvent = some .opened →
      liveCtx message machine.host = none →
      ∀ c, reusableCtx cfg machine.host = some c → (machine.host.ctx c).executingLock = 0
  | _ => True

abbrev Machine.LocksCounted (machine : Machine) : Prop :=
  AtHost.LocksCounted machine.createdAt machine.host

namespace LocksCounted

variable {machine after : Machine}

theorem handlePipeEvent (counted : machine.LocksCounted)
    {allocated : Option CtxId} {message : Message}
    (unlocked : message.pipeEvent = some .opened → liveCtx message machine.host = none →
      ∀ c, reusableCtx cfg machine.host = some c → (machine.host.ctx c).executingLock = 0) :
    (handlePipeEvent cfg allocated message machine).LocksCounted := by
  unfold Machine.LocksCounted at counted ⊢
  cases handlePipeEvent_creates cfg allocated message machine with
  | nothing rewired same =>
    rw [same.createdAt]
    exact counted.rewires rewired
  | reused c pipe opened _ dead reusable isReused same =>
    rw [same.createdAt, isReused]
    exact counted.reuseCtx (unlocked opened dead c reusable) pipe
  | allocated c pipe _ _ isNew _ _ createdAt =>
    rw [createdAt, isNew]
    exact counted.allocate c pipe _

theorem handleSmEvent (counted : machine.LocksCounted) (ctx : Option CtxId) (message : Message) :
    (handleSmEvent cfg ctx message machine).LocksCounted := by
  unfold Machine.LocksCounted at counted ⊢
  rw [(handleSmEvent_sameItems cfg ctx message machine).createdAt]
  rcases handleSmEvent_cases cfg ctx message machine with
    ⟨_, same⟩ | ⟨c, _, _, ⟨_, entered⟩ | ⟨_, delayed⟩⟩
  · rw [same]
    exact counted
  · rw [entered]
    exact stepInvariant.updates (Updates.flushPipeUrcs c _)
      (stepInvariant.update (Update.current machine.host (some c)) counted)
  · rw [delayed]
    exact stepInvariant.updates (Updates.checkIdleTimer c false machine.host) counted

theorem hostChange {action : MachineAction} (counted : machine.LocksCounted)
    (notTaken : ∀ allocated, action ≠ .takeMessage allocated)
    (change : HostChange cfg env action machine after) :
    LocksCounted machine.createdAt after.host := by
  cases change with
  | step hostAction _ notWorkFn ran _ =>
    exact stepInvariant.step notWorkFn ran counted
  | rewires rewired _ => exact counted.rewires rewired
  | leaveRx host rewired left _ =>
    rw [left]
    exact stepInvariant.leaveRxWork (counted.rewires rewired)
  | enterLoop rest _ _ _ same _ =>
    rw [same]
    exact counted.of_same rfl fun _ => rfl
  | endLoop _ _ same _ =>
    rw [same]
    exact counted
  | message allocated _ _ _ isTaken _ _ _ _ =>
    exact absurd isTaken (notTaken allocated)
  | endIdleWork c _ left _ =>
    rw [left]
    exact counted.of_same rfl fun _ => rfl

theorem machineStep {action : MachineAction} (counted : machine.LocksCounted)
    (unlocked : ReusedUnlocked cfg machine action)
    (taken : machineStep cfg env action machine = some after) :
    after.LocksCounted := by
  by_cases isTaken : ∃ allocated, action = .takeMessage allocated
  · obtain ⟨allocated, rfl⟩ := isTaken
    cases machineStep_cases taken with
    | takeMessage _ message rest _ queue _ =>
      have popped : (machine.setHost (popMessage message rest machine.host)).LocksCounted :=
        counted.of_same rfl fun _ => rfl
      have handled : (AtHost.handlePipeEvent cfg allocated message (machine.setHost
            (popMessage message rest machine.host))).LocksCounted := by
        apply popped.handlePipeEvent
        intro opened dead c
        change reusableCtx cfg (popMessage message rest machine.host) = some c → _
        rw [reusableCtx_popMessage]
        exact unlocked message (by rw [queue]; rfl) opened dead c
      exact handled.handleSmEvent _ _
    | nothing => exact counted
  · have notTaken : ∀ allocated, action ≠ .takeMessage allocated :=
      fun allocated same => isTaken ⟨allocated, same⟩
    unfold Machine.LocksCounted
    rw [machineStep_createdAt taken notTaken]
    exact counted.hostChange notTaken (machineStep_hostChange taken)

theorem booted (booted : Booted machine) : machine.LocksCounted where
  created c := by
    rw [booted.createdAt]
    exact Nat.zero_le _
  counted c := by
    obtain ⟨pipe, isInitial⟩ := booted.host.ctx c
    rw [isInitial, booted.host.history]
    simp [lockBalance, Ctx.init]

end LocksCounted

/-- The lock of each context is what was taken and given back since it was allocated. -/
theorem reachable_locksCounted {machine : Machine}
    (reachable : MachineReachableIf cfg env (ReusedUnlocked cfg) machine) :
    machine.LocksCounted := by
  refine reachable.invariant (fun _ => LocksCounted.booted) ?_
  intro before action after counted unlocked taken
  exact counted.machineStep unlocked taken

/-- What has happened since the context was allocated. -/
def sinceAllocated (c : CtxId) (machine : Machine) : History :=
  machine.host.history.drop (machine.createdAt c)

/-- As long as no locked context is taken over, `executing_lock` is the number
of acquisitions that are not yet released.  When there are none left, nothing
but the mode and the idle timer keeps the context from being idle. -/
theorem lock_counts_unmatched {machine : Machine}
    (reachable : MachineReachableIf cfg env (ReusedUnlocked cfg) machine)
    (c : CtxId) (matched : ReleasesMatched c (sinceAllocated c machine)) :
    (machine.host.ctx c).executingLock = unmatchedLocks c (sinceAllocated c machine) ∧
      0 ≤ (machine.host.ctx c).executingLock ∧
      (unmatchedLocks c (sinceAllocated c machine) = 0 →
        isIdleCtx c machine.host = (inAtModeCtx c machine.host &&
            !(machine.host.ctx c).idleTimer)) := by
  have counted : (machine.host.ctx c).executingLock = unmatchedLocks c (sinceAllocated c machine) :=
    ((reachable_locksCounted reachable).counted c).trans (lockBalance_eq_unmatched _ matched)
  refine ⟨counted, ?_, fun released => ?_⟩
  · rw [counted]
    exact Int.natCast_nonneg _
  · have unlocked : (machine.host.ctx c).executingLock = 0 := by
      rw [counted, released]
      rfl
    simp [isIdleCtx, inAtModeCtx, unlocked]

/-- A check that implies `ReusedUnlocked`. -/
def reusesUnlocked (cfg : Config) (machine : Machine) (action : MachineAction) : Bool :=
  match action with
  | .takeMessage _ => (reusableCtx cfg machine.host).all fun c =>
    (machine.host.ctx c).executingLock == 0
  | _ => true

theorem ReusedUnlocked.of_reusesUnlocked {machine : Machine} {action : MachineAction}
    (checked : reusesUnlocked cfg machine action = true) :
    ReusedUnlocked cfg machine action := by
  cases action with
  | takeMessage allocated =>
    intro message _ _ _ c reusable
    simpa [reusesUnlocked, reusable] using checked
  | _ => trivial

def typeCommand : List MachineAction :=
  [.pipeReceive 0 [65, 84, 13], .host .dispatch, .host .receiveByte,
    .host .receiveByte, .host .receiveByte, .host .receiveEnd,
    .host .dispatch, .takeMessage none, .endMessages]

def reopenPipe : List MachineAction :=
  [.pipeClosed 0, .host .dispatch, .takeMessage none, .endMessages,
    .pipeOpened 0, .host .dispatch, .takeMessage none, .endMessages]

def finishCommand : List MachineAction :=
  [.host (.call (.cmdDone 0)), .host .dispatch, .takeMessage none,
    .endMessages, .host .dispatch, .host .receiveEnd]

/-- A command that ended before its pipe was closed is counted. -/
theorem lock_released_before_reopening : ∃ machine, MachineReachableIf plusConfig continuingEnv
        (ReusedUnlocked plusConfig) machine ∧
      machine.host.history.contains (.locked 0) = true ∧
      machine.host.history.contains (.unlocked 0) = true ∧
      (machine.host.ctx 0).pipe = some 0 ∧
      (machine.host.ctx 0).executingLock = 0 := by
  obtain ⟨machine, reachable, seen⟩ := exists_machine_run_if plusConfig
    continuingEnv (ReusedUnlocked plusConfig) (reusesUnlocked plusConfig)
    (typeCommand ++ finishCommand ++ reopenPipe)
    (fun _ _ _ => ReusedUnlocked.of_reusesUnlocked)
    (fun machine => (machine.host.history.contains (.locked 0),
      machine.host.history.contains (.unlocked 0),
      (machine.host.ctx 0).pipe,
      releasesMatched 0 0 (sinceAllocated 0 machine),
      unmatchedLocks 0 (sinceAllocated 0 machine)))
    (true, true, some 0, true, 0) (by decide)
  obtain ⟨locked, released, pipe, matched, unmatched⟩ := by
    simpa only [Prod.mk.injEq] using seen
  refine ⟨machine, reachable, locked, released, pipe, ?_⟩
  rw [(lock_counts_unmatched reachable 0 (ReleasesMatched.of_checked matched)).1, unmatched]
  rfl

/-- A command that ends after its pipe was reopened takes the lock below
zero, although its release matches its acquisition. -/
theorem lock_underflows_after_reopening :
    ∃ machine, MachineReachableIf plusConfig continuingEnv (fun _ _ => True) machine ∧
      ReleasesMatched 0 (sinceAllocated 0 machine) ∧
      unmatchedLocks 0 (sinceAllocated 0 machine) = 0 ∧
      (machine.host.ctx 0).executingLock = -1 ∧
      isIdleCtx 0 machine.host = false := by
  obtain ⟨machine, reachable, seen⟩ := exists_machine_run plusConfig continuingEnv
    (typeCommand ++ reopenPipe ++ [.host (.call (.cmdDone 0))])
    (fun machine => (releasesMatched 0 0 (sinceAllocated 0 machine),
      unmatchedLocks 0 (sinceAllocated 0 machine),
      (machine.host.ctx 0).executingLock, isIdleCtx 0 machine.host))
    (true, 0, -1, false) (by decide)
  obtain ⟨matched, unmatched, lock, busy⟩ := by
    simpa only [Prod.mk.injEq] using seen
  exact ⟨machine, reachable, ReleasesMatched.of_checked matched, unmatched, lock, busy⟩

end SerialModem.AtHost
