import SerialModem.AtHost.MachineSteps
import SerialModem.Library.Ownership

/-!
# Which context owns a pipe

A pipe belongs to a context twice: the context stores it, and events of the
pipe go to the context.  Both records are kept as an `Ownership`, and a pipe
that was closed since its callback was attached is stale there: its context has
already let it go and the callback is only detached when the message is taken.

Two steps do not look whether a pipe is taken.  `sm_at_host_set_pipe` finds the
old owner only when it stands before the new one in `instance_list`, and an
`OPENED` message gives the pipe to a context although another one may have got
it since the message was posted.
-/

namespace SerialModem.AtHost

open Library List

variable {cfg : Config} {env : Environment}

def PipeCallback.watcher : PipeCallback → Option CtxId
  | .atPipeEventHandler c => some c
  | _ => Option.none

def ownership (machine : Machine) : Ownership CtxId PipeId where
  live := machine.host.instanceList
  holds c := (machine.host.ctx c).pipe
  watcher pipe := (machine.callback pipe).watcher
  stale := machine.closedSince

theorem ownership_modemPipeAttach (pipe : PipeId) (callback : PipeCallback) (machine : Machine) :
    ownership (machine.modemPipeAttach pipe callback) =
      { ownership machine with
        watcher := Function.update (ownership machine).watcher pipe callback.watcher
        stale := Function.update machine.closedSince pipe false } := by
  have watcher : (ownership (machine.modemPipeAttach pipe callback)).watcher =
      Function.update (ownership machine).watcher pipe callback.watcher := by
    funext other
    by_cases equal : other = pipe
    · subst equal
      simp [ownership, Machine.modemPipeAttach]
    · simp [ownership, Machine.modemPipeAttach, equal]
  rw [← watcher]
  rfl

theorem ownership_storePipe (c : CtxId) (pipe : Option PipeId) (machine : Machine) :
    ownership (machine.setHost (machine.host.storePipe c pipe)) =
      { ownership machine with
        holds := Function.update (ownership machine).holds c pipe } := by
  have holds : (ownership (machine.setHost (machine.host.storePipe c pipe))).holds =
        Function.update (ownership machine).holds c pipe := by
    funext d
    by_cases equal : d = c
    · subst equal
      simp [ownership, Machine.setHost, Host.storePipe, Host.setCtx]
    · simp [ownership, Machine.setHost, Host.storePipe, Host.setCtx, equal]
  rw [← holds]
  rfl

/-! ## The invariant -/

/-- Every pipe has one owner, no live context holds the marker, and no message
names it. -/
structure PipesOwned (machine : Machine) : Prop where
  sound : (ownership machine).Sound
  unmarked : ∀ c, c ∈ machine.host.instanceList → (machine.host.ctx c).pipe ≠ some deadbeef
  real : ∀ message, message ∈ machine.host.msgq →
    message.pipeEvent ≠ none → message.pipe ≠ some deadbeef

def RealPipes (host : Host) : Prop :=
  ∀ message, message ∈ host.msgq → message.pipeEvent ≠ none → message.pipe ≠ some deadbeef

variable {host : Host}

theorem RealPipes.sendMsg (real : RealPipes host) {message : Message}
    (isReal : message.pipeEvent ≠ none → message.pipe ≠ some deadbeef) :
    RealPipes (sendMsg message host) := by
  intro other member
  rcases mem_sendMsg member with old | rfl
  · exact real other old
  · exact isReal

theorem RealPipes.submitWork (real : RealPipes host) (work : Work) :
    RealPipes (submitWork work host) := by
  unfold AtHost.submitWork
  split
  · exact real
  · exact real

theorem RealPipes.stepInvariant : StepInvariant RealPipes where
  update update real := by
    cases update with
    | post own => exact real.sendMsg fun event => absurd own event
    | submit notFlush => exact real.submitWork _
    | ctx | urcBuf | record | lock | current => exact real
  submit work _ real := real.submitWork work
  pop _ _ real := real
  relabel _ _ _ real := real

structure SamePipes (before after : Host) : Prop where
  instanceList : after.instanceList = before.instanceList
  pipe : ∀ c, (after.ctx c).pipe = (before.ctx c).pipe

theorem Frame.samePipes {before after : Host} (frame : Frame before after) :
    SamePipes before after :=
  ⟨frame.instanceList, frame.pipe⟩

theorem SamePipes.trans {first second third : Host}
    (left : SamePipes first second) (right : SamePipes second third) :
    SamePipes first third :=
  ⟨right.instanceList.trans left.instanceList, fun c => (right.pipe c).trans (left.pipe c)⟩

theorem SamePipes.refl (host : Host) : SamePipes host host :=
  ⟨rfl, fun _ => rfl⟩

theorem SamePipes.getCtxFrom {before after : Host}
    (same : SamePipes before after) (pipe : Option PipeId) :
    smAtHostGetCtxFrom pipe after = smAtHostGetCtxFrom pipe before := by
  cases pipe with
  | none => rfl
  | some pipe =>
    have holders : (fun c => (after.ctx c).pipe == some pipe) =
        fun c => (before.ctx c).pipe == some pipe := by
      funext c
      rw [same.pipe c]
    simp only [smAtHostGetCtxFrom, same.instanceList, holders]

theorem SamePipes.submitWork (work : Work) (host : Host) :
    SamePipes host (submitWork work host) := by
  unfold AtHost.submitWork
  split
  · exact ⟨rfl, fun _ => rfl⟩
  · exact ⟨rfl, fun _ => rfl⟩

theorem SamePipes.stepInvariant (origin : Host) : StepInvariant (SamePipes origin) where
  update update same := same.trans update.frame.samePipes
  submit work _ same := same.trans (SamePipes.submitWork work _)
  pop _ _ same := ⟨same.instanceList, same.pipe⟩
  relabel _ _ _ same := ⟨same.instanceList, same.pipe⟩

theorem smAtHostDestroy_of_others {d c : CtxId} (live : d ∈ host.instanceList)
    (other : c ∈ host.instanceList) (different : d ≠ c)
    (unserved : host.currentCtx ≠ some d) :
    smAtHostDestroy d host = freeCtx d host := by
  have isLive : ¬smAtCtxCheck d host = false := by
    simpa [smAtCtxCheck] using live
  have notLast : host.instanceList.length ≠ 1 := by
    intro single
    obtain ⟨only, isOnly⟩ := length_eq_one_iff.mp single
    rw [isOnly, mem_singleton] at live other
    exact different (live.trans other.symm)
  rw [smAtHostDestroy, if_neg isLive, if_neg unserved, if_neg notLast]

theorem takeOverPipe_cases {c : CtxId} (pipe : PipeId) (live : c ∈ host.instanceList) :
    (takeOverPipe c pipe host = host.storePipe c (some pipe) ∧
      ∀ d, host.instanceList.idxOf d < host.instanceList.idxOf c → (host.ctx d).pipe ≠ some pipe) ∨
    ∃ d, d ≠ c ∧ d ∈ host.instanceList ∧ (host.ctx d).pipe = some pipe ∧
      takeOverPipe c pipe host = smAtHostDestroy d
        ((host.storePipe c (some pipe)).storePipe d (some deadbeef)) := by
  have others : ∀ d, d ≠ c → ((host.storePipe c (some pipe)).ctx d).pipe = (host.ctx d).pipe := by
    intro d different
    simp [Host.storePipe, Host.setCtx, different]
  have own : ((host.storePipe c (some pipe)).ctx c).pipe = some pipe := by
    simp [Host.storePipe, Host.setCtx]
  unfold takeOverPipe
  dsimp only
  split
  · rename_i d found
    split
    · rename_i isNew
      subst isNew
      refine .inl ⟨rfl, fun other earlier holds => ?_⟩
      obtain ⟨_, first, last, split, notHolding⟩ :=
        List.find?_eq_some_iff_append.mp found
      have list : host.instanceList = first ++ d :: last := split
      have absent : ∀ owner, ((host.storePipe d (some pipe)).ctx owner).pipe =
          some pipe → owner ∉ first := by
        intro owner isOwner member
        simpa [isOwner] using notHolding owner member
      have notNew : other ≠ d := by
        rintro rfl
        exact absurd earlier (Nat.lt_irrefl _)
      rw [list, idxOf_append_of_notMem (absent d own), idxOf_append_of_notMem
          (absent other ((others other notNew).trans holds)),
        idxOf_cons_self] at earlier
      omega
    · rename_i different
      refine .inr ⟨d, different, (smAtHostGetCtxFrom_some found).1, ?_, rfl⟩
      exact (others d different).symm.trans (smAtHostGetCtxFrom_some found).2.2
  · rename_i missing
    have notFound := List.find?_eq_none.mp missing c live
    simp [own] at notFound

def evicted (d : CtxId) (pipe : PipeId) (machine : Machine) : Machine :=
  { machine with
    host := freeCtx d ((machine.host.storePipe d none).storePipe d (some deadbeef))
    closedSince := Function.update machine.closedSince pipe true }

def AgreeExcept (pipe : PipeId) (first second : Machine) : Prop :=
  ∀ other, other ≠ pipe →
    first.callback other = second.callback other ∧
      first.closedSince other = second.closedSince other

theorem AgreeExcept.releaseOldPipe {pipe : PipeId} {first second : Machine}
    (agree : AgreeExcept pipe first second) (oldPipe : Option PipeId) :
    AgreeExcept pipe (releaseOldPipe oldPipe first) (releaseOldPipe oldPipe second) := by
  cases oldPipe with
  | none => exact agree
  | some old =>
    intro other notPipe
    by_cases isOld : other = old
    · simp [AtHost.releaseOldPipe, Machine.modemPipeAttach, isOld]
    · simpa [AtHost.releaseOldPipe, Machine.modemPipeAttach, isOld] using agree other notPipe

theorem AgreeExcept.attach {pipe : PipeId} {first second : Machine}
    (agree : AgreeExcept pipe first second) (callback : PipeCallback) :
    (second.modemPipeAttach pipe callback).callback =
        (first.modemPipeAttach pipe callback).callback ∧
      (second.modemPipeAttach pipe callback).closedSince =
        (first.modemPipeAttach pipe callback).closedSince := by
  constructor
  · funext other
    by_cases equal : other = pipe
    · simp [Machine.modemPipeAttach, equal]
    · simpa [Machine.modemPipeAttach, equal] using (agree other equal).1.symm
  · funext other
    by_cases equal : other = pipe
    · simp [Machine.modemPipeAttach, equal]
    · simpa [Machine.modemPipeAttach, equal] using (agree other equal).2.symm

namespace PipesOwned

variable {machine after : Machine}

theorem of_same (owned : PipesOwned machine) (same : SamePipes machine.host after.host)
    (callback : after.callback = machine.callback)
    (closedSince : ∀ pipe, machine.closedSince pipe = true → after.closedSince pipe = true)
    (real : RealPipes after.host) : PipesOwned after where
  sound := owned.sound.of_same same.instanceList (fun c _ => same.pipe c)
    (by simp only [ownership, callback]) closedSince
  unmarked c live := by
    rw [same.pipe]
    rw [same.instanceList] at live
    exact owned.unmarked c live
  real := real

/-- A callback that is not `at_pipe_event_handler` is attached. -/
theorem detach (owned : PipesOwned machine) (pipe : PipeId)
    {callback : PipeCallback} (noWatcher : callback.watcher = none) :
    PipesOwned (machine.modemPipeAttach pipe callback) where
  sound := by
    rw [ownership_modemPipeAttach, noWatcher]
    apply owned.sound.detach
    intro other different
    exact Function.update_of_ne different ..
  unmarked := owned.unmarked
  real := owned.real

variable {c : CtxId} {pipe : PipeId}

theorem give (owned : PipesOwned machine) (live : c ∈ machine.host.instanceList)
    (holdsNone : (machine.host.ctx c).pipe = none)
    (unheld : ∀ d, d ∈ machine.host.instanceList →
      (machine.host.ctx d).pipe ≠ some pipe) (isReal : pipe ≠ deadbeef) :
    PipesOwned ((machine.setHost (machine.host.storePipe c (some pipe))).modemPipeAttach pipe
        (.atPipeEventHandler c)) where
  sound := by
    have detached := owned.sound.detach pipe (Function.update machine.closedSince pipe false)
      (fun _ different => Function.update_of_ne different ..)
    have taken := detached.take holdsNone unheld (by simp)
    have watched := taken.watch live (Function.update_self ..)
      (Function.update machine.closedSince pipe false) (fun _ _ => rfl)
    rw [ownership_modemPipeAttach, ownership_storePipe]
    simpa [PipeCallback.watcher, Machine.setHost] using watched
  unmarked d isLive := by
    by_cases equal : d = c
    · subst equal
      simpa [Machine.modemPipeAttach, Machine.setHost, Host.storePipe, Host.setCtx] using isReal
    · simpa [Machine.modemPipeAttach, Machine.setHost, Host.storePipe,
        Host.setCtx, equal] using owned.unmarked d isLive
  real := owned.real

theorem reopen (owned : PipesOwned machine)
    (attached : machine.callback pipe = .atPipeEventHandler c)
    (holdsNone : (machine.host.ctx c).pipe = none) (isReal : pipe ≠ deadbeef) :
    PipesOwned (machine.setHost (machine.host.storePipe c (some pipe))) where
  sound := by
    have watched : (ownership machine).watcher pipe = some c := by
      simp [ownership, attached, PipeCallback.watcher]
    have unheld : ∀ d, d ∈ machine.host.instanceList → (machine.host.ctx d).pipe ≠ some pipe := by
      intro d isLive holds
      have same := owned.sound.watches isLive holds watched
      rw [← same, holdsNone] at holds
      cases holds
    rw [ownership_storePipe]
    apply owned.sound.take holdsNone unheld
    intro other isWatcher
    rw [watched] at isWatcher
    exact (Option.some.inj isWatcher).symm
  unmarked d isLive := by
    by_cases equal : d = c
    · subst equal
      simpa [Machine.setHost, Host.storePipe, Host.setCtx] using isReal
    · simpa [Machine.setHost, Host.storePipe, Host.setCtx, equal] using owned.unmarked d isLive
  real := owned.real

/-- A context lets go of a pipe that is closed or no longer notifies it. -/
theorem drop (owned : PipesOwned machine) (holds : (machine.host.ctx c).pipe = some pipe)
    (left : machine.closedSince pipe = true ∨ machine.callback pipe ≠ .atPipeEventHandler c) :
    PipesOwned (machine.setHost (machine.host.storePipe c none)) where
  sound := by
    rw [ownership_storePipe]
    refine owned.sound.drop holds (left.imp id ?_)
    intro other isWatcher
    apply other
    cases attached : machine.callback pipe with
    | atPipeEventHandler d =>
      have same : some d = some c := by
        simpa [ownership, attached, PipeCallback.watcher] using isWatcher
      rw [Option.some.inj same]
    | none => simp [ownership, attached, PipeCallback.watcher] at isWatcher
    | nullPipeHandler =>
      simp [ownership, attached, PipeCallback.watcher] at isWatcher
    | other => simp [ownership, attached, PipeCallback.watcher] at isWatcher
  unmarked d isLive := by
    by_cases equal : d = c
    · subst equal
      simp [Machine.setHost, Host.storePipe, Host.setCtx]
    · simpa [Machine.setHost, Host.storePipe, Host.setCtx, equal] using owned.unmarked d isLive
  real := owned.real

theorem destroy (owned : PipesOwned machine) (live : c ∈ machine.host.instanceList)
    (holdsNone : (machine.host.ctx c).pipe = none)
    (unserved : machine.host.currentCtx ≠ some c) :
    PipesOwned (machine.setHost (smAtHostDestroy c
      (machine.host.storePipe c (some deadbeef)))) := by
  have isLive : ¬smAtCtxCheck c (machine.host.storePipe c (some deadbeef)) =
      false := by
    simpa [smAtCtxCheck, Host.storePipe, Host.setCtx] using live
  have notServed : ¬(machine.host.storePipe c (some deadbeef)).currentCtx = some c := unserved
  unfold smAtHostDestroy
  rw [if_neg isLive, if_neg notServed]
  split
  · -- The last context only loses the marker again.
    have same : SamePipes machine.host
        ((machine.host.storePipe c (some deadbeef)).storePipe c none) := by
      refine ⟨rfl, fun d => ?_⟩
      by_cases equal : d = c
      · subst equal
        simp [Host.storePipe, Host.setCtx, holdsNone]
      · simp [Host.storePipe, Host.setCtx, equal]
    exact owned.of_same same rfl (fun _ => id) owned.real
  · rename_i others
    have kept : ∀ d, d ≠ c → ((freeCtx c (machine.host.storePipe c (some deadbeef))).ctx d).pipe =
          (machine.host.ctx d).pipe := by
      intro d different
      simp [freeCtx, Host.storePipe, Host.setCtx, different]
    have distinct : ∀ d, d ∈ machine.host.instanceList.erase c → d ≠ c :=
      fun d isLeft equal =>
        (List.Nodup.mem_erase_iff owned.sound.nodup).mp isLeft |>.1 equal
    refine ⟨?_, ?_, owned.real⟩
    · have left := owned.sound.leave live others holdsNone
      refine left.of_same rfl (fun d isLeft => ?_) rfl (fun _ => id)
      exact kept d (distinct d isLeft)
    · intro d isLeft
      change ((freeCtx c (machine.host.storePipe c (some deadbeef))).ctx d).pipe ≠ _
      rw [kept d (distinct d isLeft)]
      exact owned.unmarked d (mem_of_mem_erase isLeft)

theorem join (owned : PipesOwned machine) (fresh : c ∉ machine.host.instanceList) {ctx : Ctx}
    (holdsNone : ctx.pipe = none) :
    PipesOwned (machine.setHost { machine.host.setCtx c ctx with
      instanceList := machine.host.instanceList ++ [c] }) where
  sound := by
    refine (owned.sound.join fresh).of_same rfl (fun d _ => ?_) rfl (fun _ => id)
    by_cases equal : d = c
    · subst equal
      simpa [ownership, Machine.setHost, Host.setCtx] using holdsNone
    · simp [ownership, Machine.setHost, Host.setCtx, equal]
  unmarked d isLive := by
    by_cases equal : d = c
    · subst equal
      simp [Machine.setHost, Host.setCtx, holdsNone]
    · have old : d ∈ machine.host.instanceList := by
        simpa [Machine.setHost, equal] using isLive
      simpa [Machine.setHost, Host.setCtx, equal] using owned.unmarked d old
  real := owned.real

theorem post (owned : PipesOwned machine) {message : Message}
    (isReal : message.pipeEvent ≠ none → message.pipe ≠ some deadbeef) :
    PipesOwned (machine.setHost (sendMsg message machine.host)) :=
  owned.of_same (Frame.sendMsg message machine.host).samePipes rfl
    (fun _ => id) (RealPipes.sendMsg owned.real isReal)

theorem postPipe (owned : PipesOwned machine) (ctx : Option CtxId)
    (event : PipeEvent) (isReal : pipe ≠ deadbeef) :
    PipesOwned (machine.setHost (sendMsg (.ofPipe ctx pipe event) machine.host)) :=
  owned.post fun _ same => isReal (Option.some.inj same)

/-! ## Pipe events -/

theorem smAtPipeOpened (owned : PipesOwned machine) {ctx : Option CtxId} (isReal : pipe ≠ deadbeef)
    (attached : ∀ c, ctx = some c → machine.callback pipe = .atPipeEventHandler c) :
    PipesOwned (machine.setHost (smAtPipeOpened ctx pipe machine.host)) := by
  unfold AtHost.smAtPipeOpened
  split
  · exact owned.postPipe none .opened isReal
  · rename_i c
    split
    · rename_i holdsNone
      exact owned.reopen (attached c rfl) holdsNone isReal
    · split
      · exact owned
      · exact owned.postPipe (some c) .opened isReal

theorem pipeOpenedEvent (owned : PipesOwned machine) (isReal : pipe ≠ deadbeef) :
    PipesOwned (machine.setHost (pipeOpenedEvent (machine.callback pipe) pipe machine.host)) := by
  unfold AtHost.pipeOpenedEvent
  split
  · rename_i c attached
    split
    · apply owned.smAtPipeOpened isReal
      intro d same
      rw [attached, Option.some.inj same]
    · exact owned
  · apply owned.smAtPipeOpened isReal
    intro d same
    cases same
  · exact owned

theorem smAtPipeClosed (owned : PipesOwned machine) (isReal : pipe ≠ deadbeef)
    (left : machine.closedSince pipe = true ∨ machine.callback pipe ≠ .atPipeEventHandler c) :
    PipesOwned (machine.setHost (smAtPipeClosed c pipe machine.host)) := by
  unfold AtHost.smAtPipeClosed
  split
  · rename_i holds
    exact (owned.drop holds left).postPipe (some c) .closed isReal
  · exact owned

theorem pipeClosedEvent (owned : PipesOwned machine) (isReal : pipe ≠ deadbeef)
    (closed : machine.closedSince pipe = true) :
    PipesOwned (machine.setHost (pipeClosedEvent (machine.callback pipe) pipe machine.host)) := by
  unfold AtHost.pipeClosedEvent
  split
  · split
    · exact owned.smAtPipeClosed isReal (.inl closed)
    · exact owned
  · exact owned

/-! ## `sm_at_host_set_pipe` -/

theorem moveTo (owned : PipesOwned machine) (live : c ∈ machine.host.instanceList)
    (unheld : ∀ d, d ∈ machine.host.instanceList → d ≠ c →
      (machine.host.ctx d).pipe ≠ some pipe) (isReal : pipe ≠ deadbeef) :
    PipesOwned (((releaseOldPipe (machine.host.ctx c).pipe machine).setHost
      (machine.host.storePipe c (some pipe))).modemPipeAttach pipe (.atPipeEventHandler c)) := by
  unfold releaseOldPipe
  split
  · rename_i oldPipe holds
    let released := machine.modemPipeAttach oldPipe .nullPipeHandler
    let dropped := released.setHost (released.host.storePipe c none)
    have isDropped : PipesOwned dropped :=
      (owned.detach oldPipe rfl).drop holds (.inr (by simp [Machine.modemPipeAttach]))
    have holdsNone : (dropped.host.ctx c).pipe = none := by
      simp [dropped, Machine.setHost, Host.storePipe, Host.setCtx]
    have stillUnheld : ∀ d, d ∈ dropped.host.instanceList →
        (dropped.host.ctx d).pipe ≠ some pipe := by
      intro d isLive
      by_cases equal : d = c
      · rw [equal, holdsNone]
        simp
      · simpa [dropped, released, Machine.setHost, Machine.modemPipeAttach,
          Host.storePipe, Host.setCtx, equal] using unheld d isLive equal
    simpa [dropped, released, Machine.setHost, Machine.modemPipeAttach,
      Host.storePipe, Host.setCtx] using isDropped.give live holdsNone stillUnheld isReal
  · rename_i holdsNone
    refine owned.give live holdsNone (fun d isLive held => ?_) isReal
    by_cases equal : d = c
    · rw [equal, holdsNone] at held
      cases held
    · exact unheld d isLive equal held

theorem evict (owned : PipesOwned machine) {d : CtxId} (live : d ∈ machine.host.instanceList)
    (newOwner : c ∈ machine.host.instanceList) (different : d ≠ c)
    (holds : (machine.host.ctx d).pipe = some pipe)
    (unserved : machine.host.currentCtx ≠ some d) :
    PipesOwned (evicted d pipe machine) := by
  let stale : Machine := { machine with
    closedSince := Function.update machine.closedSince pipe true }
  have isStale : PipesOwned stale := by
    refine owned.of_same ⟨rfl, fun _ => rfl⟩ rfl (fun other closed => ?_) owned.real
    by_cases equal : other = pipe
    · simp [stale, equal]
    · simpa [stale, equal] using closed
  have dropped : PipesOwned (stale.setHost (stale.host.storePipe d none)) :=
    isStale.drop holds (.inl (by simp [stale]))
  have holdsNone : ((stale.setHost (stale.host.storePipe d none)).host.ctx d).pipe =
        none := by
    simp [Machine.setHost, Host.storePipe, Host.setCtx]
  have destroyed := dropped.destroy live holdsNone unserved
  have frees : smAtHostDestroy d ((machine.host.storePipe d none).storePipe d (some deadbeef)) =
        freeCtx d ((machine.host.storePipe d none).storePipe d (some deadbeef)) :=
    smAtHostDestroy_of_others live newOwner different unserved
  change PipesOwned (stale.setHost (smAtHostDestroy d
    ((machine.host.storePipe d none).storePipe d (some deadbeef))))
    at destroyed
  rw [frees] at destroyed
  exact destroyed

theorem handOver (owned : PipesOwned machine) {d : CtxId} (live : d ∈ machine.host.instanceList)
    (newOwner : c ∈ machine.host.instanceList) (different : d ≠ c)
    (holds : (machine.host.ctx d).pipe = some pipe)
    (unserved : machine.host.currentCtx ≠ some d) (isReal : pipe ≠ deadbeef) :
    PipesOwned (((releaseOldPipe (machine.host.ctx c).pipe machine).setHost
      (freeCtx d ((machine.host.storePipe c (some pipe)).storePipe d
        (some deadbeef)))).modemPipeAttach pipe (.atPipeEventHandler c)) := by
  have isEvicted : PipesOwned (evicted d pipe machine) :=
    owned.evict live newOwner different holds unserved
  have kept : ∀ e, e ≠ d → ((evicted d pipe machine).host.ctx e).pipe =
      (machine.host.ctx e).pipe := by
    intro e other
    simp [evicted, freeCtx, Host.storePipe, Host.setCtx, other]
  have stays : c ∈ (evicted d pipe machine).host.instanceList :=
    (mem_erase_of_ne different.symm).mpr newOwner
  have unheld : ∀ e, e ∈ (evicted d pipe machine).host.instanceList → e ≠ c →
      ((evicted d pipe machine).host.ctx e).pipe ≠ some pipe := by
    intro e isLeft _
    obtain ⟨other, isLive⟩ :=
      (List.Nodup.mem_erase_iff owned.sound.nodup).mp isLeft
    rw [kept e other]
    exact fun held => other (owned.sound.exclusive isLive live held holds)
  have moved := isEvicted.moveTo stays unheld isReal
  rw [kept c different.symm] at moved
  have sameOthers : AgreeExcept pipe (evicted d pipe machine) machine := by
    intro other notPipe
    simp [evicted, notPipe]
  have sameWiring := (sameOthers.releaseOldPipe
    (machine.host.ctx c).pipe).attach (.atPipeEventHandler c)
  refine moved.of_same ⟨rfl, fun e => ?_⟩ sameWiring.1 (fun other => ?_) owned.real
  · by_cases isNew : e = c
    · subst isNew
      simp [Machine.modemPipeAttach, Machine.setHost, freeCtx,
        Host.storePipe, Host.setCtx, different.symm]
    · by_cases isOld : e = d
      · subst isOld
        simp [Machine.modemPipeAttach, Machine.setHost, evicted, freeCtx,
          Host.storePipe, Host.setCtx, isNew]
      · simp [Machine.modemPipeAttach, Machine.setHost, evicted, freeCtx,
          Host.storePipe, Host.setCtx, isNew, isOld]
  · intro closed
    exact (congrFun sameWiring.2 other).trans closed

theorem smAtHostSetPipe (owned : PipesOwned machine) (isReal : pipe ≠ deadbeef)
    (current : ∀ d, machine.host.currentCtx = some d → d = c)
    (before : ∀ d, d ∈ machine.host.instanceList → (machine.host.ctx d).pipe = some pipe → d ≠ c →
      machine.host.instanceList.idxOf d < machine.host.instanceList.idxOf c) :
    PipesOwned (smAtHostSetPipe c pipe machine) := by
  unfold AtHost.smAtHostSetPipe
  split
  · rename_i isLive
    have live : c ∈ machine.host.instanceList := by
      simpa [smAtCtxCheck] using isLive
    rcases takeOverPipe_cases pipe live with
      ⟨stored, unheld⟩ | ⟨d, different, oldLive, holds, destroyed⟩
    · rw [stored]
      refine owned.moveTo live (fun d isLive different holds => ?_) isReal
      exact unheld d (before d isLive holds different) holds
    · have unserved : machine.host.currentCtx ≠ some d :=
        fun served => different (current d served)
      have frees : smAtHostDestroy d
          ((machine.host.storePipe c (some pipe)).storePipe d (some deadbeef)) =
          freeCtx d ((machine.host.storePipe c (some pipe)).storePipe d (some deadbeef)) :=
        smAtHostDestroy_of_others oldLive live different unserved
      rw [destroyed, frees]
      exact owned.handOver oldLive live different holds unserved isReal
  · exact owned

/-! ## Messages -/

theorem reuseCtx (owned : PipesOwned machine) (live : c ∈ machine.host.instanceList)
    (holdsNone : (machine.host.ctx c).pipe = none)
    (unheld : ∀ d, d ∈ machine.host.instanceList →
      (machine.host.ctx d).pipe ≠ some pipe) (isReal : pipe ≠ deadbeef) :
    PipesOwned ((machine.setHost (reuseCtx c pipe machine.host)).modemPipeAttach pipe
        (.atPipeEventHandler c)) := by
  have given := owned.give live holdsNone unheld isReal
  let reused := machine.host.setCtx c { machine.host.ctx c with
    pipe := some pipe, executingLock := 0 }
  have same : SamePipes (machine.host.storePipe c (some pipe)) reused := by
    refine ⟨rfl, fun d => ?_⟩
    by_cases equal : d = c
    · subst equal
      simp [reused, Host.storePipe, Host.setCtx]
    · simp [reused, Host.storePipe, Host.setCtx, equal]
  have real : RealPipes reused := owned.real
  unfold AtHost.reuseCtx
  dsimp only
  split
  · refine given.of_same (same.trans (Frame.sendMsg _ _).samePipes) rfl
      (fun _ => id) (real.sendMsg fun event => ?_)
    exact absurd rfl event
  · exact given.of_same same rfl (fun _ => id) real

theorem allocateCtx (owned : PipesOwned machine) (fresh : c ∉ machine.host.instanceList)
    (unheld : ∀ d, d ∈ machine.host.instanceList →
      (machine.host.ctx d).pipe ≠ some pipe) (isReal : pipe ≠ deadbeef) :
    PipesOwned ((allocateCtx c pipe machine).modemPipeAttach pipe (.atPipeEventHandler c)) := by
  let joined := machine.setHost { machine.host.setCtx c (Ctx.init none) with
    instanceList := machine.host.instanceList ++ [c] }
  have isJoined : PipesOwned joined := owned.join fresh rfl
  have holdsNone : (joined.host.ctx c).pipe = none := by
    simp [joined, Machine.setHost, Host.setCtx, Ctx.init]
  have stillUnheld : ∀ d, d ∈ joined.host.instanceList → (joined.host.ctx d).pipe ≠ some pipe := by
    intro d isLive
    by_cases equal : d = c
    · rw [equal, holdsNone]
      simp
    · have old : d ∈ machine.host.instanceList := by
        simpa [joined, Machine.setHost, equal] using isLive
      simpa [joined, Machine.setHost, Host.setCtx, equal] using unheld d old
  have live : c ∈ joined.host.instanceList := by
    simp [joined, Machine.setHost]
  have given := isJoined.give live holdsNone stillUnheld isReal
  refine given.of_same ⟨rfl, fun d => ?_⟩ rfl (fun _ => id) owned.real
  by_cases equal : d = c
  · subst equal
    simp [AtHost.allocateCtx, joined, Machine.modemPipeAttach,
      Machine.setHost, Host.storePipe, Host.setCtx, Ctx.init]
  · simp [AtHost.allocateCtx, joined, Machine.modemPipeAttach,
      Machine.setHost, Host.storePipe, Host.setCtx, equal]

theorem smAtHostCreate (owned : PipesOwned machine) {allocated : Option CtxId}
    (fresh : ∀ c, allocated = some c → c ∉ machine.host.instanceList)
    (unheld : ∀ d, d ∈ machine.host.instanceList →
      (machine.host.ctx d).pipe ≠ some pipe) (isReal : pipe ≠ deadbeef) :
    PipesOwned (smAtHostCreate cfg allocated pipe machine) := by
  unfold AtHost.smAtHostCreate
  split
  · rename_i c reusable
    obtain ⟨isUrc, noPipe⟩ := Option.filter_eq_some_iff.mp reusable
    exact owned.reuseCtx (smAtHostGetUrcCtx_live isUrc) (by simpa using noPipe) unheld isReal
  · exact owned.allocateCtx (fresh _ rfl) unheld isReal
  · exact owned

end PipesOwned

/-- Nobody holds the pipe of an `OPENED` message that is acted on. -/
def FreeToOpen (message : Message) (host : Host) : Prop :=
  message.pipeEvent = some .opened →
  (∀ c, liveCtx message host = some c → (host.ctx c).pipe = none) →
  ∀ d, d ∈ host.instanceList → (host.ctx d).pipe ≠ none → (host.ctx d).pipe ≠ message.pipe

namespace PipesOwned

variable {machine after : Machine}

variable {allocated : Option CtxId}

theorem handlePipeEvent (owned : PipesOwned machine) {message : Message}
    (fresh : ∀ c, allocated = some c → c ∉ machine.host.instanceList)
    (free : FreeToOpen message machine.host)
    (isReal : message.pipeEvent ≠ none → message.pipe ≠ some deadbeef)
    (unserved : machine.host.currentCtx = none) :
    PipesOwned (handlePipeEvent cfg allocated message machine) := by
  have unheld : message.pipeEvent = some .opened →
      (∀ c, liveCtx message machine.host = some c → (machine.host.ctx c).pipe = none) →
      ∀ pipe, message.pipe = some pipe →
      ∀ d, d ∈ machine.host.instanceList → (machine.host.ctx d).pipe ≠ some pipe := by
    intro opened acted pipe isPipe d live holds
    apply free opened acted d live
    · rw [holds]
      simp
    · rw [holds, isPipe]
  unfold AtHost.handlePipeEvent
  split
  · rename_i pipe c opened isPipe live
    split
    · rename_i holdsNone
      obtain ⟨_, isLive⟩ := Option.filter_eq_some_iff.mp live
      refine owned.give (by simpa [smAtCtxCheck] using isLive) holdsNone
        (unheld opened ?_ pipe isPipe) ?_
      · intro d same
        rw [live] at same
        cases same
        exact holdsNone
      · rintro rfl
        exact isReal (by rw [opened]; simp) isPipe
    · exact owned
  · rename_i pipe opened isPipe dead
    refine owned.smAtHostCreate fresh (unheld opened ?_ pipe isPipe) ?_
    · intro d same
      rw [dead] at same
      cases same
    · rintro rfl
      exact isReal (by rw [opened]; simp) isPipe
  · rename_i pipe c closed isPipe live
    split
    · rename_i holdsNone
      obtain ⟨_, isLive⟩ := Option.filter_eq_some_iff.mp live
      have member : c ∈ machine.host.instanceList := by
        simpa [smAtCtxCheck] using isLive
      have notServed : machine.host.currentCtx ≠ some c := by
        rw [unserved]
        simp
      dsimp only
      split
      · exact (owned.detach pipe rfl).destroy member holdsNone notServed
      · exact owned.destroy member holdsNone notServed
    · exact owned
  · split
    · exact owned.detach _ rfl
    · exact owned
  · exact owned

theorem updates (owned : PipesOwned machine) {host : Host} (updates : Updates machine.host host) :
    PipesOwned (machine.setHost host) :=
  owned.of_same (Updates.frame updates).samePipes rfl (fun _ => id)
    (RealPipes.stepInvariant.updates updates owned.real)

theorem handleSmEvent (owned : PipesOwned machine) (ctx : Option CtxId) (message : Message) :
    PipesOwned (handleSmEvent cfg ctx message machine) := by
  rcases handleSmEvent_cases cfg ctx message machine with
    ⟨_, same⟩ | ⟨c, _, _, ⟨_, entered⟩ | ⟨_, delayed⟩⟩
  · rw [same]
    exact owned
  · rw [entered]
    have serving : Updates machine.host (machine.host.setCurrentCtx (some c)) :=
      Updates.of_update (Update.current machine.host (some c))
    have flushing : Updates (machine.host.setCurrentCtx (some c))
        (flushPipeUrcs cfg c (machine.host.setCurrentCtx (some c))) :=
      Updates.flushPipeUrcs c _
    have flushed := owned.updates (serving.trans flushing)
    exact flushed.of_same ⟨rfl, fun _ => rfl⟩ rfl (fun _ => id) flushed.real
  · rw [delayed]
    exact owned.updates (Updates.checkIdleTimer c false machine.host)

theorem takeMessage (owned : PipesOwned machine) {message : Message} {rest : List Message}
    (queue : machine.host.msgq = message :: rest)
    (fresh : ∀ c, allocated = some c → c ∉ machine.host.instanceList)
    (free : FreeToOpen message machine.host)
    (unserved : machine.host.currentCtx = none) :
    PipesOwned (takeMessage cfg allocated message rest machine) := by
  have popped : PipesOwned (machine.setHost (popMessage message rest machine.host)) := by
    refine owned.of_same ⟨rfl, fun _ => rfl⟩ rfl (fun _ => id) ?_
    intro other member
    refine owned.real other ?_
    rw [queue]
    exact mem_cons_of_mem _ member
  have isReal : message.pipeEvent ≠ none → message.pipe ≠ some deadbeef := by
    apply owned.real
    rw [queue]
    exact mem_cons_self ..
  exact (popped.handlePipeEvent fresh free isReal unserved).handleSmEvent _ _

theorem smAtHostRelease (owned : PipesOwned machine) {c : CtxId}
    (live : c ∈ machine.host.instanceList) :
    PipesOwned (smAtHostRelease c machine) := by
  unfold AtHost.smAtHostRelease
  split
  · exact owned
  · rename_i pipe holds
    refine (owned.detach pipe rfl).smAtPipeClosed ?_ (.inr ?_)
    · rintro rfl
      exact owned.unmarked c live holds
    · simp [Machine.modemPipeAttach]

theorem smAtHostAttach (owned : PipesOwned machine) {pipe : PipeId}
    (isReal : pipe ≠ deadbeef) : PipesOwned (smAtHostAttach pipe machine) := by
  have attached := owned.detach pipe (rfl : PipeCallback.nullPipeHandler.watcher = none)
  unfold AtHost.smAtHostAttach
  dsimp only
  split
  · apply attached.smAtPipeOpened isReal
    intro c same
    cases same
  · exact attached

theorem smAtHostQueueIdleWork (owned : PipesOwned machine) {pipe : Option PipeId} {item : IdleItem}
    (ran : smAtHostQueueIdleWork pipe item machine = some after) :
    PipesOwned after := by
  rcases smAtHostQueueIdleWork_cases ran with
    rfl | ⟨c, found, _, _, rfl⟩
  · exact owned
  · have notified : PipesOwned (machine.setHost (notifyIfIdle c machine.host)) := by
      unfold notifyIfIdle
      split
      · exact owned.post fun event => absurd rfl event
      · exact owned
    split
    · exact notified
    · exact notified.of_same ⟨rfl, fun _ => rfl⟩ rfl (fun _ => id) notified.real

end PipesOwned

/-! ## Runs -/

/-- Neither step that takes a pipe without looking for its owner meets one. -/
def OrderlyWiring (cfg : Config) (machine : Machine) : MachineAction → Prop
  | .setPipe pipe => ∀ c, smAtHostGetCurrent cfg machine.host = some c →
      ∀ d, d ∈ machine.host.instanceList → (machine.host.ctx d).pipe = some pipe → d ≠ c →
        machine.host.instanceList.idxOf d < machine.host.instanceList.idxOf c
  | .takeMessage _ => ∀ message, machine.host.msgq.head? = some message →
      FreeToOpen message machine.host
  | _ => True

variable {machine : Machine}

theorem PipesOwned.machineStep {action : MachineAction} {after : Machine}
    (owned : PipesOwned machine) (exclusive : Exclusive machine)
    (orderly : OrderlyWiring cfg machine action)
    (taken : machineStep cfg env action machine = some after) :
    PipesOwned after := by
  -- An interrupt changes a setting of its pipe before it calls the handler.
  have settled : ∀ (pipeRx : PipeId → List Byte) (pipeOpen : PipeId → Bool),
      PipesOwned (machine.setHost { machine.host with
        pipeRx := pipeRx, pipeOpen := pipeOpen }) :=
    fun _ _ => owned.of_same ⟨rfl, fun _ => rfl⟩ rfl (fun _ => id) owned.real
  cases machineStep_cases taken with
  | host action host _ notWorkFn ran =>
    exact owned.of_same ((SamePipes.stepInvariant machine.host).step notWorkFn ran
        ⟨rfl, fun _ => rfl⟩) rfl (fun _ => id)
      (RealPipes.stepInvariant.step notWorkFn ran owned.real)
  | enterLoop rest _ _ _ =>
    exact owned.of_same ⟨rfl, fun _ => rfl⟩ rfl (fun _ => id) owned.real
  | pipeReceive pipe content =>
    have received := settled (Function.update machine.host.pipeRx pipe
      (machine.host.pipeRx pipe ++ content)) machine.host.pipeOpen
    unfold pipeReceiveEvent
    split
    · split
      · exact received.of_same (SamePipes.submitWork _ _) rfl (fun _ => id)
          (RealPipes.submitWork received.real _)
      · exact received
    · exact received
  | pipeOpened pipe isReal =>
    exact (settled machine.host.pipeRx
      (Function.update machine.host.pipeOpen pipe true)).pipeOpenedEvent isReal
  | pipeClosed pipe isReal =>
    let closed : Machine := { machine with
      host := { machine.host with
        pipeOpen := Function.update machine.host.pipeOpen pipe false }
      closedSince := Function.update machine.closedSince pipe true }
    have isClosed : PipesOwned closed := by
      refine owned.of_same ⟨rfl, fun _ => rfl⟩ rfl (fun other stale => ?_) owned.real
      by_cases equal : other = pipe
      · simp [closed, equal]
      · simpa [closed, equal] using stale
    exact isClosed.pipeClosedEvent isReal (by simp [closed])
  | setPipe pipe c host _ isCurrent isReal result =>
    have current : ∀ d, machine.host.currentCtx = some d → d = c := by
      intro d served
      rw [smAtHostGetCurrent, served] at isCurrent
      exact Option.some.inj isCurrent
    have switched := owned.smAtHostSetPipe isReal current (orderly c isCurrent)
    rcases result with rfl | ⟨_, rfl⟩
    · exact switched
    · exact switched.of_same ⟨rfl, fun _ => rfl⟩ rfl (fun _ => id) switched.real
  | release pipe c found =>
    exact owned.smAtHostRelease (smAtHostGetCtxFrom_some found).1
  | attach pipe isReal => exact owned.smAtHostAttach isReal
  | attachOther pipe => exact owned.detach pipe rfl
  | setCmux started =>
    exact owned.of_same ⟨rfl, fun _ => rfl⟩ rfl (fun _ => id) owned.real
  | xcmuxurc channel host result =>
    have set : PipesOwned (machine.setHost { machine.host with urcChannel := channel }) :=
      owned.of_same ⟨rfl, fun _ => rfl⟩ rfl (fun _ => id) owned.real
    rcases result with ⟨rfl, _⟩ | ⟨c, _, rfl⟩
    · exact set
    · exact set.updates (Updates.checkIdleTimer c false _)
  | takeMessage allocated message rest inLoop queue fresh =>
    have unserved : machine.host.currentCtx = none :=
      exclusive.unserved (by rw [inLoop]; simp)
        (by rw [exclusive.alone (by rw [inLoop]; simp)]; simp)
    exact owned.takeMessage queue fresh (orderly message (by rw [queue]; rfl)) unserved
  | endMessages _ _ =>
    exact owned.of_same ⟨rfl, fun _ => rfl⟩ rfl (fun _ => id) owned.real
  | idleItem c _ =>
    unfold idleWorkStep
    split
    · exact owned.of_same ⟨rfl, fun _ => rfl⟩ rfl (fun _ => id) owned.real
    · exact owned.of_same ⟨rfl, fun _ => rfl⟩ rfl (fun _ => id) owned.real
  | queueIdleWork pipe item _ _ ran =>
    exact owned.smAtHostQueueIdleWork ran
  | pollCb pipe c _ =>
    exact owned.of_same (SamePipes.submitWork _ _) rfl (fun _ => id)
      (RealPipes.submitWork owned.real _)
  | nothing action => exact owned

theorem PipesOwned.booted (booted : Booted machine) : PipesOwned machine := by
  obtain ⟨c, pipe, list, holds, isReal, attached, only⟩ := booted.first
  have live : ∀ d, d ∈ machine.host.instanceList → d = c := by
    intro d
    rw [list]
    exact mem_singleton.mp
  have watcher : ∀ {other d},
      (ownership machine).watcher other = some d → other = pipe ∧ d = c := by
    intro other d isWatcher
    cases handler : machine.callback other with
    | atPipeEventHandler e =>
      obtain rfl := only other e handler
      have same : some e = some d := by
        simpa [ownership, handler, PipeCallback.watcher] using isWatcher
      rw [attached] at handler
      cases handler
      exact ⟨rfl, (Option.some.inj same).symm⟩
    | none => simp [ownership, handler, PipeCallback.watcher] at isWatcher
    | nullPipeHandler =>
      simp [ownership, handler, PipeCallback.watcher] at isWatcher
    | other => simp [ownership, handler, PipeCallback.watcher] at isWatcher
  refine ⟨⟨?_, ?_, ?_, ?_, ?_⟩, ?_, ?_⟩
  · change machine.host.instanceList.Nodup
    rw [list]
    exact nodup_singleton c
  · change machine.host.instanceList ≠ []
    rw [list]
    simp
  · intro first second _ firstLive secondLive _ _
    exact (live first firstLive).trans (live second secondLive).symm
  · intro other d isWatcher
    obtain ⟨rfl, rfl⟩ := watcher isWatcher
    refine .inl ⟨?_, holds⟩
    change d ∈ machine.host.instanceList
    rw [list]
    exact mem_singleton_self d
  · intro d other e isLive _ isWatcher
    exact (watcher isWatcher).2.trans (live d isLive).symm
  · intro d isLive
    rw [live d isLive, holds]
    exact fun same => isReal (Option.some.inj same)
  · intro message member
    rw [booted.msgq] at member
    cases member

/-- Every pipe keeps its one owner. -/
theorem reachable_pipesOwned (reachable : MachineReachableIf cfg env (OrderlyWiring cfg) machine) :
    PipesOwned machine := by
  induction reachable with
  | start booted => exact PipesOwned.booted booted
  | next action earlier orderly taken ih =>
    exact ih.machineStep (reachable_exclusive earlier) orderly taken

/-- No two live contexts hold the same pipe, none holds the marker, and there
is always a context.  The events of a pipe go to the context that holds it,
until the pipe is closed; they never go to another context than the holder. -/
theorem pipes_held_once {machine : Machine}
    (reachable : MachineReachableIf cfg env (OrderlyWiring cfg) machine) :
    (∀ c d pipe, c ∈ machine.host.instanceList → d ∈ machine.host.instanceList →
      (machine.host.ctx c).pipe = some pipe →
      (machine.host.ctx d).pipe = some pipe → c = d) ∧
    (∀ c, c ∈ machine.host.instanceList → (machine.host.ctx c).pipe ≠ some deadbeef) ∧
    (∀ pipe c, machine.callback pipe = .atPipeEventHandler c →
      (c ∈ machine.host.instanceList ∧ (machine.host.ctx c).pipe = some pipe ∨
        machine.closedSince pipe = true) ∧
      ∀ d, d ∈ machine.host.instanceList → (machine.host.ctx d).pipe = some pipe → c = d) ∧
    machine.host.instanceList ≠ [] := by
  have owned := reachable_pipesOwned reachable
  refine ⟨?_, owned.unmarked, ?_, owned.sound.nonempty⟩
  · intro c d pipe firstLive secondLive firstHolds secondHolds
    exact owned.sound.exclusive firstLive secondLive firstHolds secondHolds
  · intro pipe c attached
    have watched : (ownership machine).watcher pipe = some c := by
      simp [ownership, attached, PipeCallback.watcher]
    exact ⟨owned.sound.watched watched, fun d live holds => owned.sound.watches live holds watched⟩

/-- A check that implies `OrderlyWiring`: the pipe that is taken is free. -/
def takesFreePipe (machine : Machine) (action : MachineAction) : Bool :=
  match action with
  | .setPipe pipe => machine.host.instanceList.all fun d =>
    (machine.host.ctx d).pipe ≠ some pipe
  | .takeMessage _ => machine.host.msgq.head?.all fun message =>
    machine.host.instanceList.all fun d =>
      (machine.host.ctx d).pipe ≠ message.pipe
  | _ => true

theorem OrderlyWiring.of_takesFreePipe {action : MachineAction}
    (checked : takesFreePipe machine action = true) :
    OrderlyWiring cfg machine action := by
  cases action with
  | setPipe pipe =>
    intro c _ d live holds
    have free : ∀ e, e ∈ machine.host.instanceList → ¬(machine.host.ctx e).pipe = some pipe := by
      simpa [takesFreePipe] using checked
    exact absurd holds (free d live)
  | takeMessage allocated =>
    intro message isHead _ _ d live _ holds
    have free : ∀ e, e ∈ machine.host.instanceList → ¬(machine.host.ctx e).pipe = message.pipe := by
      simpa [takesFreePipe, isHead] using checked
    exact absurd holds (free d live)
  | _ => trivial

/-- A CMUX channel gets a context and the first context moves to another
pipe. -/
theorem moved_contexts_hold_apart :
    ∃ machine, MachineReachableIf plusConfig (sessionEnv 0 consumeAll)
        (OrderlyWiring plusConfig) machine ∧
      machine.host.instanceList = [0, 1] ∧
      (machine.host.ctx 0).pipe = some 2 ∧
      (machine.host.ctx 1).pipe = some 1 ∧
      ∀ d, d ∈ machine.host.instanceList → (machine.host.ctx d).pipe = some 2 → 0 = d := by
  obtain ⟨machine, reachable, seen⟩ := exists_machine_run_if plusConfig
    (sessionEnv 0 consumeAll) (OrderlyWiring plusConfig) takesFreePipe
    [.pipeOpened 1, .host .dispatch, .takeMessage (some 1), .endMessages,
      .setPipe 2] (fun _ _ _ => OrderlyWiring.of_takesFreePipe)
    (fun machine => (machine.host.instanceList, (machine.host.ctx 0).pipe,
      (machine.host.ctx 1).pipe, machine.callback 2))
    ([0, 1], some 2, some 1, .atPipeEventHandler 0) (by decide)
  obtain ⟨contexts, first, second, attached⟩ := by
    simpa only [Prod.mk.injEq] using seen
  exact ⟨machine, reachable, contexts, first, second,
    ((pipes_held_once reachable).2.2.1 2 0 attached).2⟩

/-- Between the event and its message, a closed pipe still notifies the context
that has let it go. -/
theorem closed_pipe_still_notifies :
    ∃ machine, MachineReachableIf plusConfig (sessionEnv 0 consumeAll) (fun _ _ => True) machine ∧
      machine.host.running = .idle ∧ machine.loop = .none ∧
      machine.callback 0 = .atPipeEventHandler 0 ∧
      (machine.host.ctx 0).pipe = none := by
  obtain ⟨machine, reachable, seen⟩ := exists_machine_run plusConfig
    (sessionEnv 0 consumeAll) [.pipeClosed 0]
    (fun machine => (machine.host.running, machine.loop, machine.callback 0,
      (machine.host.ctx 0).pipe))
    (.idle, .none, .atPipeEventHandler 0, none) (by decide)
  obtain ⟨running, loop, attached, holds⟩ := by
    simpa only [Prod.mk.injEq] using seen
  exact ⟨machine, reachable, running, loop, attached, holds⟩

end SerialModem.AtHost
