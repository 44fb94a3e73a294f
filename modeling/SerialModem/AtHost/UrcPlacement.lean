import SerialModem.AtHost.Effects
import SerialModem.AtHost.ExecutionLock
import Mathlib.Data.List.Induction

/-!
# Where URCs are placed

URCs are flushed from five places, each behind a test that the context is idle.
The test looks at the mode, at the executing lock and at the idle timer.
`exit_datamode` changes the mode first and reports the end of data mode last, so
in between only the lock and the timer stand before a URC.
-/

namespace SerialModem.AtHost

open Library List Option Function

/-! ## Reading the placement off the history -/

structure Placement where
  lock : Int
  /-- Data mode was entered and its end has not been reported. -/
  inSession : Bool
  deriving DecidableEq

namespace Placement

def next (c : CtxId) (placement : Placement) : Event → Placement
  | .locked d =>
    if d = c then { placement with lock := placement.lock + 1 }
    else placement
  | .unlocked d =>
    if d = c then { placement with lock := placement.lock - 1 }
    else placement
  | .enterDatamode d _ _ =>
    if d = c then { placement with inSession := true } else placement
  | .exitDatamode d =>
    if d = c then { placement with inSession := false } else placement
  | _ => placement

end Placement

def placement (c : CtxId) (history : History) : Placement :=
  history.foldl (Placement.next c) ⟨0, false⟩

/-- Every URC of the context stands outside commands and outside data mode. -/
def Placed (c : CtxId) (history : History) : Prop :=
  ∀ before content after, history = before ++ .urcSent c content :: after →
    placement c before = ⟨0, false⟩

@[simp]
theorem placement_append_singleton (c : CtxId) (history : History) (event : Event) :
    placement c (history ++ [event]) = Placement.next c (placement c history) event := by
  simp [placement]

/-- The event neither opens nor closes anything on the context and is none of
its URCs. -/
structure Unplaced (c : CtxId) (event : Event) : Prop where
  same : ∀ current, Placement.next c current event = current
  noUrc : ∀ content, event ≠ .urcSent c content

variable {event : Event}

theorem Plain.unplaced (plain : Plain event) (c : CtxId) : Unplaced c event := by
  cases event with
  | urcSent | locked | unlocked | enterDatamode | exitDatamode => exact False.elim plain
  | _ => exact ⟨fun _ => rfl, fun _ => Event.noConfusion⟩

variable {d : CtxId}

theorem unplaced_exitDatamode {c : CtxId} (different : d ≠ c) : Unplaced c (.exitDatamode d) :=
  ⟨fun _ => if_neg different, fun _ => Event.noConfusion⟩

theorem Placed.append_singleton {c : CtxId} {history : History} (placed : Placed c history)
    (atUrc : ∀ content, event = .urcSent c content → placement c history = ⟨0, false⟩) :
    Placed c (history ++ [event]) := by
  intro before content after split
  rcases eq_nil_or_concat after with rfl | ⟨front, last, rfl⟩
  · obtain ⟨sameHistory, sameEvent⟩ := append_inj' split rfl
    rw [← sameHistory]
    exact atUrc content (List.cons.inj sameEvent).1
  · rw [concat_eq_append, ← cons_append, ← append_assoc] at split
    exact placed before content front (append_inj' split rfl).1

/-! ## States whose history agrees with them -/

structure Balanced (c : CtxId) (host : Host) : Prop where
  lock : (host.ctx c).executingLock = (placement c host.history).lock
  placed : Placed c host.history

structure Aligned (c : CtxId) (host : Host) : Prop
    extends Balanced c host where
  mode : (host.data c).atMode = .atCommandMode → (placement c host.history).inSession = false

def NothingPending (c : CtxId) (host : Host) : Prop :=
  (host.ctx c).bufferedUrcs = [] ∧ host.urcBuf = []

def FlushSafe (c : CtxId) (host : Host) : Prop :=
  isIdleCtx c host = true → (placement c host.history).inSession = false ∨ NothingPending c host

variable {cfg : Config} {env : Environment} {c : CtxId}

theorem isIdleCtx_iff (d : CtxId) (host : Host) : isIdleCtx d host = true ↔
      d ∈ host.instanceList ∧ (host.data d).atMode = .atCommandMode ∧
        (host.ctx d).executingLock = 0 ∧ (host.ctx d).idleTimer = false := by
  simp [isIdleCtx, inAtModeCtx, smAtCtxCheck]
  tauto

variable {host : Host}

theorem Aligned.flushSafe (aligned : Aligned c host) : FlushSafe c host :=
  fun idle => .inl (aligned.mode ((isIdleCtx_iff c host).mp idle).2.1)

variable {before after : Host}

theorem Balanced.of_same (balanced : Balanced c before)
    (lock : (after.ctx c).executingLock = (before.ctx c).executingLock)
    (history : after.history = before.history) : Balanced c after where
  lock := by
    rw [lock, history]
    exact balanced.lock
  placed := by
    rw [history]
    exact balanced.placed

theorem Balanced.record {host : Host} (balanced : Balanced c host)
    {event : Event} (unplaced : Unplaced c event) :
    Balanced c (host.record event) where
  lock := by
    rw [Host.history_record, placement_append_singleton, unplaced.same]
    exact balanced.lock
  placed := by
    apply balanced.placed.append_singleton
    intro content isUrc
    exact absurd isUrc (unplaced.noUrc content)

/-! ## Flushing -/

theorem placement_append_urcs (d : CtxId) (contents : List (List Byte)) (history : History) :
    placement c (history ++ contents.map (.urcSent d)) = placement c history := by
  induction contents using reverseRecOn with
  | nil => rw [map_nil, append_nil]
  | append_singleton contents content ih =>
    rw [map_append, ← append_assoc, map_singleton, placement_append_singleton, ih]
    rfl

theorem Placed.append_urcs {contents : List (List Byte)} {history : History}
    (placed : Placed c history)
    (free : d = c → contents ≠ [] → placement c history = ⟨0, false⟩) :
    Placed c (history ++ contents.map (.urcSent d)) := by
  induction contents using reverseRecOn with
  | nil => rwa [map_nil, append_nil]
  | append_singleton contents content ih =>
    have clear : d = c → placement c history = ⟨0, false⟩ :=
      fun same => free same (by simp)
    rw [map_append, ← append_assoc, map_singleton]
    apply Placed.append_singleton
    · exact ih fun same _ => clear same
    · intro other isUrc
      cases isUrc
      rw [placement_append_urcs]
      exact clear rfl

theorem NothingPending.pendingUrcs_eq (nothing : NothingPending c host) :
    pendingUrcs cfg c host = [] := by
  rw [pendingUrcs, nothing.1, if_neg (fun sends => sends.2 nothing.2)]
  rfl

theorem Balanced.flushPipeUrcs (balanced : Balanced c host) (d : CtxId)
    (free : d = c → pendingUrcs cfg c host ≠ [] → placement c host.history = ⟨0, false⟩) :
    Balanced c (flushPipeUrcs cfg d host) := by
  rw [flushPipeUrcs_eq]
  refine ⟨?_, ?_⟩
  · have sameLock : ((host.setCtx d { host.ctx d with bufferedUrcs := [] }).ctx c).executingLock =
          (host.ctx c).executingLock := by
      apply setCtx_executingLock
      rfl
    rw [placement_append_urcs]
    exact sameLock.trans balanced.lock
  · apply balanced.placed.append_urcs
    rintro rfl nonempty
    exact free rfl nonempty

theorem Balanced.free_of_idle (balanced : Balanced c host)
    (safe : FlushSafe c host) (idle : isIdleCtx c host = true)
    (pending : pendingUrcs cfg c host ≠ []) :
    placement c host.history = ⟨0, false⟩ := by
  have unlocked := ((isIdleCtx_iff c host).mp idle).2.2.1
  have lock : (placement c host.history).lock = 0 :=
    balanced.lock.symm.trans unlocked
  rcases safe idle with outside | nothing
  · rw [← lock, ← outside]
  · exact absurd nothing.pendingUrcs_eq pending

theorem Balanced.flushIfIdle (balanced : Balanced c host) (safe : FlushSafe c host) (d : CtxId) :
    Balanced c (flushIfIdle cfg d host) := by
  unfold AtHost.flushIfIdle
  split
  · rename_i idle
    apply balanced.flushPipeUrcs d
    rintro rfl
    exact balanced.free_of_idle safe idle
  · exact balanced

/-! ## Calls of the environment -/

theorem addExecutingLock_executingLock (d : CtxId) (amount : Int) (host : Host) :
    ((addExecutingLock d amount host).ctx c).executingLock =
      (host.ctx c).executingLock + if d = c then amount else 0 := by
  rw [addExecutingLock]
  by_cases same : d = c
  · subst same
    simp [Host.setCtx, Host.record]
  · have other : c ≠ d := fun equal => same equal.symm
    simp [Host.setCtx, Host.record, same, update_of_ne other]

variable {amount : Int}

theorem Placement.next_lock (d : CtxId) (unit : amount = 1 ∨ amount = -1) (current : Placement) :
    Placement.next c current (if 0 < amount then .locked d else .unlocked d) =
      { current with
        lock := current.lock + if d = c then amount else 0 } := by
  rcases unit with rfl | rfl
  · by_cases same : d = c <;> simp [Placement.next, same]
  · by_cases same : d = c <;> simp [Placement.next, same, Int.sub_eq_add_neg]

theorem Balanced.addExecutingLock (balanced : Balanced c host) (d : CtxId)
    (unit : amount = 1 ∨ amount = -1) :
    Balanced c (addExecutingLock d amount host) := by
  refine ⟨?_, ?_⟩
  · rw [addExecutingLock_executingLock, balanced.lock, AtHost.addExecutingLock,
      Host.history_record, placement_append_singleton,
      Placement.next_lock d unit]
    rfl
  · apply balanced.placed.append_singleton
    intro content isUrc
    split at isUrc <;> cases isUrc

theorem sendMsg_history (message : Message) (host : Host) :
    (sendMsg message host).history = host.history :=
  submitWork_history _ _

theorem notifyUrc_history (d : CtxId) (host : Host) :
    (notifyUrc d host).history = host.history := by
  unfold notifyUrc
  split
  · exact sendMsg_history _ host
  · unfold checkIdleTimer
    split <;> rfl

theorem urcSend_history (content : List Byte) (host : Host) :
    (urcSend cfg content host).history = host.history := by
  unfold urcSend
  split
  · rfl
  · split
    · exact notifyUrc_history _ _
    · rfl

theorem Balanced.performCall (balanced : Balanced c host)
    (safe : FlushSafe c host) (call : HostCall) :
    Balanced c (performCall cfg call host) := by
  have sent : ∀ pipe event, (∀ d, Plain (event d)) → Balanced c (sendTo cfg pipe event host) := by
    intro pipe event plain
    unfold sendTo
    split
    · exact balanced
    · exact (balanced.flushIfIdle safe _).record ((plain _).unplaced c)
  cases call with
  | rspSend response =>
    simp only [AtHost.performCall]
    unfold AtHost.rspSend
    split
    · split
      · refine (balanced.flushIfIdle safe _).record (Plain.unplaced ?_ c)
        trivial
      · exact balanced
    · exact balanced
  | urcSend content =>
    exact balanced.of_same (urcSend_executingLock content host c) (urcSend_history content host)
  | urcSendTo pipe content =>
    simp only [AtHost.performCall]
    unfold urcSendTo
    split
    · exact balanced.of_same (urcSend_executingLock content host c) (urcSend_history content host)
    · refine balanced.of_same ?_ (notifyUrc_history _ _)
      rw [notifyUrc_executingLock]
      apply setCtx_executingLock
      rfl
  | rspSendTo pipe response | dataSend pipe content => exact sent pipe _ fun _ => trivial
  | lockCtx d =>
    simp only [AtHost.performCall]
    unfold smAtHostLockCtx
    split
    · exact (balanced.flushIfIdle safe d).addExecutingLock d (.inl rfl)
    · exact balanced
  | cmdDone d =>
    simp only [AtHost.performCall]
    unfold smAtHostCmdDone
    split
    · dsimp only
      have released := balanced.addExecutingLock d (.inr rfl)
      split
      · refine released.of_same ?_ ?_
        · rw [submitWork_executingLock, smAtHostEventNotify, sendMsg_executingLock]
        · rw [submitWork_history, smAtHostEventNotify, sendMsg_history]
      · exact released
    · exact balanced

/-! ## Contexts that no URC can reach -/

def HostCall.replies : HostCall → Bool
  | .rspSend _ => true
  | .rspSendTo _ _ => true
  | .dataSend _ _ => true
  | _ => false

/-- The data-mode handlers neither produce URCs nor move locks. -/
def RepliesOnly (env : Environment) : Prop :=
  ∀ calls, Issued env calls → ∀ call, call ∈ calls → call.replies = true

def Sheltered (env : Environment) (c : CtxId) (host : Host) : Prop :=
  (host.ctx c).idleTimer = true ∨ RepliesOnly env ∧
      ((host.ctx c).executingLock ≠ 0 ∨ NothingPending c host)

/-- What `Sheltered` looks at does not change. -/
structure SameShelter (c : CtxId) (before after : Host) : Prop where
  idleTimer : (after.ctx c).idleTimer = (before.ctx c).idleTimer
  lock : (after.ctx c).executingLock = (before.ctx c).executingLock
  bufferedUrcs : (after.ctx c).bufferedUrcs = (before.ctx c).bufferedUrcs
  urcBuf : after.urcBuf = before.urcBuf

theorem Sheltered.of_same (sheltered : Sheltered env c before) (same : SameShelter c before after) :
    Sheltered env c after := by
  unfold Sheltered NothingPending at *
  rwa [same.idleTimer, same.lock, same.bufferedUrcs, same.urcBuf]

theorem Sheltered.flushSafe (sheltered : Sheltered env c host) : FlushSafe c host := by
  intro idle
  obtain ⟨_, _, unlocked, stopped⟩ := (isIdleCtx_iff c host).mp idle
  rcases sheltered with timed | ⟨_, locked | nothing⟩
  · rw [timed] at stopped
    cases stopped
  · exact absurd unlocked locked
  · exact .inr nothing

namespace SameShelter

theorem refl (host : Host) : SameShelter c host host :=
  ⟨rfl, rfl, rfl, rfl⟩

theorem trans {first second third : Host}
    (left : SameShelter c first second) (right : SameShelter c second third) :
    SameShelter c first third where
  idleTimer := right.idleTimer.trans left.idleTimer
  lock := right.lock.trans left.lock
  bufferedUrcs := right.bufferedUrcs.trans left.bufferedUrcs
  urcBuf := right.urcBuf.trans left.urcBuf

theorem setCtx {d : CtxId} {ctx : Ctx} (host : Host)
    (idleTimer : ctx.idleTimer = (host.ctx d).idleTimer)
    (lock : ctx.executingLock = (host.ctx d).executingLock)
    (bufferedUrcs : ctx.bufferedUrcs = (host.ctx d).bufferedUrcs) :
    SameShelter c host (host.setCtx d ctx) := by
  by_cases same : c = d
  · subst same
    exact ⟨by simpa [Host.setCtx], by simpa [Host.setCtx], by simpa [Host.setCtx], rfl⟩
  · constructor <;> simp [Host.setCtx, update_of_ne same]

theorem setData (d : CtxId) (data : DataState) (host : Host) :
    SameShelter c host (host.setData d data) :=
  setCtx host rfl rfl rfl

theorem submitWork (work : Work) (host : Host) : SameShelter c host (submitWork work host) := by
  unfold AtHost.submitWork
  split
  · exact refl host
  · exact ⟨rfl, rfl, rfl, rfl⟩

theorem sendMsg (message : Message) (host : Host) : SameShelter c host (sendMsg message host) := by
  refine SameShelter.trans ?_ (submitWork _ _)
  exact ⟨rfl, rfl, rfl, rfl⟩

theorem setSmMode {d : CtxId} {mode : OperationMode} {host after : Host}
    (switched : setSmMode cfg env d mode host = some after) :
    SameShelter c host after := by
  obtain ⟨data, rfl, _⟩ := setSmMode_cases switched
  exact setData d data host

end SameShelter

/-! ## A running timer keeps running -/

theorem setCtx_idleTimer {ctx : Ctx} (running : (host.ctx c).idleTimer = true)
    (kept : d = c → (host.ctx d).idleTimer = true → ctx.idleTimer = true) :
    ((host.setCtx d ctx).ctx c).idleTimer = true := by
  by_cases same : d = c
  · subst same
    simpa [Host.setCtx] using kept rfl running
  · have other : c ≠ d := fun equal => same equal.symm
    simpa [Host.setCtx, update_of_ne other] using running

theorem flushIfIdle_idleTimer (d : CtxId) (running : (host.ctx c).idleTimer = true) :
    ((flushIfIdle cfg d host).ctx c).idleTimer = true := by
  unfold flushIfIdle
  split
  · rw [flushPipeUrcs_eq]
    exact setCtx_idleTimer running fun _ kept => kept
  · exact running

theorem notifyUrc_idleTimer (d : CtxId) (running : (host.ctx c).idleTimer = true) :
    ((notifyUrc d host).ctx c).idleTimer = true := by
  unfold notifyUrc
  split
  · exact (SameShelter.sendMsg _ host).idleTimer.trans running
  · unfold checkIdleTimer
    split
    · exact setCtx_idleTimer running fun _ _ => rfl
    · exact running

theorem urcSend_idleTimer (content : List Byte) (running : (host.ctx c).idleTimer = true) :
    ((urcSend cfg content host).ctx c).idleTimer = true := by
  unfold urcSend
  split
  · exact running
  · split
    · exact notifyUrc_idleTimer _ running
    · exact running

theorem performCall_idleTimer (call : HostCall) (running : (host.ctx c).idleTimer = true) :
    ((performCall cfg call host).ctx c).idleTimer = true := by
  have sent : ∀ pipe event, ((sendTo cfg pipe event host).ctx c).idleTimer = true := by
    intro pipe event
    unfold sendTo
    split
    · exact running
    · exact flushIfIdle_idleTimer _ running
  have moved : ∀ (d : CtxId) (amount : Int) (state : Host), (state.ctx c).idleTimer = true →
      ((addExecutingLock d amount state).ctx c).idleTimer = true :=
    fun d amount state before => setCtx_idleTimer before fun _ kept => kept
  cases call with
  | rspSend response =>
    simp only [performCall]
    unfold rspSend
    split
    · split
      · exact flushIfIdle_idleTimer _ running
      · exact running
    · exact running
  | urcSend content => exact urcSend_idleTimer content running
  | urcSendTo pipe content =>
    simp only [performCall]
    unfold urcSendTo
    split
    · exact urcSend_idleTimer content running
    · apply notifyUrc_idleTimer
      exact setCtx_idleTimer running fun _ kept => kept
  | rspSendTo pipe response | dataSend pipe content => exact sent pipe _
  | lockCtx d =>
    simp only [performCall]
    unfold smAtHostLockCtx
    split
    · exact moved d 1 _ (flushIfIdle_idleTimer d running)
    · exact running
  | cmdDone d =>
    simp only [performCall]
    unfold smAtHostCmdDone
    split
    · dsimp only
      have released := moved d (-1) host running
      split
      · exact (SameShelter.submitWork _ _).idleTimer.trans
          ((SameShelter.sendMsg _ _).idleTimer.trans released)
      · exact released
    · exact running

/-! ## Keeping a context sheltered -/

theorem NothingPending.flushIfIdle (nothing : NothingPending c host) (d : CtxId) :
    NothingPending c (flushIfIdle cfg d host) := by
  unfold AtHost.flushIfIdle
  split
  · rw [flushPipeUrcs_eq]
    refine ⟨?_, ?_⟩
    · by_cases same : c = d
      · subst same
        simp [Host.setCtx]
      · simpa [Host.setCtx, update_of_ne same] using nothing.1
    · dsimp only
      rw [nothing.2, ite_self]
  · exact nothing

theorem Sheltered.flushIfIdle (sheltered : Sheltered env c host) (d : CtxId) :
    Sheltered env c (flushIfIdle cfg d host) := by
  rcases sheltered with timed | ⟨replies, locked | nothing⟩
  · exact .inl (flushIfIdle_idleTimer d timed)
  · refine .inr ⟨replies, Or.inl ?_⟩
    rwa [flushIfIdle_executingLock]
  · exact .inr ⟨replies, .inr (nothing.flushIfIdle d)⟩

theorem Sheltered.performCall (sheltered : Sheltered env c host) {call : HostCall}
    (permitted : (host.ctx c).idleTimer = true ∨ call.replies = true) :
    Sheltered env c (performCall cfg call host) := by
  have sent : ∀ pipe event, Sheltered env c (sendTo cfg pipe event host) := by
    intro pipe event
    unfold sendTo
    split
    · exact sheltered
    · exact sheltered.flushIfIdle _
  rcases permitted with timed | replies
  · exact .inl (performCall_idleTimer call timed)
  · cases call with
    | rspSend response =>
      simp only [AtHost.performCall]
      unfold AtHost.rspSend
      split
      · split
        · exact sheltered.flushIfIdle _
        · exact sheltered
      · exact sheltered
    | rspSendTo pipe response | dataSend pipe content => exact sent pipe _
    | urcSend | urcSendTo | lockCtx | cmdDone => cases replies

/-- The history agrees with the lock, and no URC can reach the context. -/
structure Guarded (env : Environment) (c : CtxId) (host : Host) : Prop where
  balanced : Balanced c host
  sheltered : Sheltered env c host

theorem Guarded.of_same (guarded : Guarded env c before) (same : SameShelter c before after)
    (history : after.history = before.history) : Guarded env c after :=
  ⟨guarded.balanced.of_same same.lock history, guarded.sheltered.of_same same⟩

theorem Guarded.performCalls {calls : List HostCall} :
    (∀ call, call ∈ calls → RepliesOnly env → call.replies = true) →
    ∀ {host : Host}, Guarded env c host → Guarded env c (performCalls cfg calls host) := by
  induction calls with
  | nil =>
    intro _ host guarded
    exact guarded
  | cons call rest ih =>
    intro quiet host guarded
    have permitted : (host.ctx c).idleTimer = true ∨ call.replies = true :=
      guarded.sheltered.imp id fun still =>
        quiet call (mem_cons_self ..) still.1
    exact ih (fun later member => quiet later (mem_cons_of_mem _ member))
      ⟨guarded.balanced.performCall guarded.sheltered.flushSafe call,
        guarded.sheltered.performCall permitted⟩

theorem Guarded.issued (guarded : Guarded env c host) {calls : List HostCall}
    (issued : Issued env calls) :
    Guarded env c (AtHost.performCalls cfg calls host) :=
  Guarded.performCalls (fun call member replies =>
    replies calls issued call member) guarded

/-! ## Calls in agreement -/

theorem IsReply.inSession_eq {current : Option CtxId}
    (reply : IsReply current event) (before : Placement) :
    (Placement.next c before event).inSession = before.inSession := by
  cases event with
  | rspSend | urcSent | rspSendTo | dataSend => rfl
  | locked d | unlocked d =>
    simp only [Placement.next]
    split <;> rfl
  | _ => exact False.elim reply

theorem inSession_of_replies {current : Option CtxId}
    (replies : Appends (IsReply current) before after) :
    (placement c after.history).inSession = (placement c before.history).inSession := by
  obtain ⟨events, history, all⟩ := replies
  rw [history]
  clear history
  induction events using reverseRecOn with
  | nil => rw [append_nil]
  | append_singleton events event ih =>
    rw [← append_assoc, placement_append_singleton, (all event (by simp)).inSession_eq]
    exact ih fun earlier member =>
      all earlier (mem_append_left _ member)

theorem Aligned.of_undisturbed (aligned : Aligned c before)
    (balanced : Balanced c after) (undisturbed : Undisturbed cfg before after) :
    Aligned c after where
  toBalanced := balanced
  mode := by
    rw [undisturbed.data, inSession_of_replies undisturbed.replies]
    exact aligned.mode

theorem Aligned.performCall (aligned : Aligned c host) (call : HostCall) :
    Aligned c (performCall cfg call host) :=
  aligned.of_undisturbed (aligned.toBalanced.performCall aligned.flushSafe call)
    (performCall_undisturbed call host)

theorem Aligned.performCalls (aligned : Aligned c host) (calls : List HostCall) :
    Aligned c (performCalls cfg calls host) := by
  induction calls generalizing host with
  | nil => exact aligned
  | cons call rest ih =>
    exact ih (aligned.performCall call)

/-! ## Effects in agreement -/

theorem Aligned.of_same (aligned : Aligned c before)
    (lock : (after.ctx c).executingLock = (before.ctx c).executingLock)
    (history : after.history = before.history)
    (mode : (after.data c).atMode = .atCommandMode →
      (before.data c).atMode = .atCommandMode) : Aligned c after where
  toBalanced := aligned.toBalanced.of_same lock history
  mode isAt := by
    rw [history]
    exact aligned.mode (mode isAt)

theorem setData_lock (d : CtxId) (data : DataState) (host : Host) :
    ((host.setData d data).ctx c).executingLock = (host.ctx c).executingLock := by
  apply setCtx_executingLock
  rfl

theorem Balanced.setData (balanced : Balanced c host) (d : CtxId)
    (data : DataState) : Balanced c (host.setData d data) :=
  balanced.of_same (setData_lock d data host) rfl

theorem Aligned.setData (aligned : Aligned c host) {data : DataState}
    (mode : d = c → data.atMode = .atCommandMode → (host.data c).atMode = .atCommandMode) :
    Aligned c (host.setData d data) := by
  refine aligned.of_same (setData_lock d data host) rfl ?_
  by_cases same : d = c
  · subst same
    rw [Host.data_setData_self]
    exact mode rfl
  · have other : c ≠ d := fun equal => same equal.symm
    rw [Host.data_setData_of_ne _ _ other]
    exact id

theorem Aligned.record {host : Host} (aligned : Aligned c host)
    {event : Event} (unplaced : Unplaced c event) :
    Aligned c (host.record event) where
  toBalanced := aligned.toBalanced.record unplaced
  mode isAt := by
    rw [Host.history_record, placement_append_singleton, unplaced.same]
    exact aligned.mode isAt

theorem Aligned.setCtx (aligned : Aligned c host) {ctx : Ctx}
    (lock : ctx.executingLock = (host.ctx d).executingLock)
    (data : ctx.data = host.data d) : Aligned c (host.setCtx d ctx) := by
  refine aligned.of_same (setCtx_executingLock host lock c) rfl ?_
  rw [Host.data_setCtx_of_eq host data]
  exact id

theorem callHandlerExit_cases (d : CtxId) (flags : Flags) (host : Host) :
    callHandlerExit cfg env d flags host = host ∨
      ∃ calls event, Issued env calls ∧ Plain event ∧ callHandlerExit cfg env d flags host =
          performCalls cfg calls (host.record event) := by
  unfold callHandlerExit
  split
  · exact .inl rfl
  · refine .inr ⟨_, _, Issued.exit _ _ _ _, ?_, rfl⟩
    trivial

theorem Aligned.callHandlerExit (aligned : Aligned c host) (d : CtxId) (flags : Flags) :
    Aligned c (callHandlerExit cfg env d flags host) := by
  rcases callHandlerExit_cases d flags host with
    same | ⟨calls, event, _, plain, called⟩
  · rwa [same]
  · rw [called]
    exact (aligned.record (plain.unplaced c)).performCalls calls

theorem Guarded.callHandlerExit (guarded : Guarded env c host) (d : CtxId) (flags : Flags) :
    Guarded env c (callHandlerExit cfg env d flags host) := by
  rcases callHandlerExit_cases d flags host with
    same | ⟨calls, event, issued, plain, called⟩
  · rwa [same]
  · rw [called]
    refine Guarded.issued ⟨?_, ?_⟩ issued
    · exact guarded.balanced.record (plain.unplaced c)
    · exact guarded.sheltered.of_same ⟨rfl, rfl, rfl, rfl⟩

theorem Aligned.sendMsg (aligned : Aligned c host) (message : Message) :
    Aligned c (sendMsg message host) := by
  refine aligned.of_same (sendMsg_executingLock message host c) (sendMsg_history message host) ?_
  have same : (AtHost.sendMsg message host).data c = host.data c := by
    unfold AtHost.sendMsg submitWork
    dsimp only
    split <;> rfl
  rw [same]
  exact id

theorem Aligned.exitDatamode_of_ne (aligned : Aligned c host) (different : d ≠ c) :
    Aligned c (exitDatamode cfg env d host) := by
  rcases exitDatamode_cases d host with
    same | ⟨switched, cleared, finished, response, isSwitched, _, _, parts⟩
  · rwa [same]
  · obtain ⟨data, rfl, _⟩ := setSmMode_cases isSwitched
    have other : ∀ {state : Host} (changed : DataState), Aligned c state →
        Aligned c (state.setData d changed) :=
      fun _ before => before.setData fun same => absurd same different
    rw [parts]
    refine Aligned.record (Aligned.sendMsg (other finished ?_) _) (unplaced_exitDatamode different)
    refine Aligned.performCall (other cleared ?_) (.rspSend response)
    exact (other data aligned).callHandlerExit d Flags.none

theorem exitDatamode_sheltered (aligned : Aligned c host) (sheltered : Sheltered env c host) :
    Aligned c (exitDatamode cfg env c host) ∧ Sheltered env c (exitDatamode cfg env c host) := by
  rcases exitDatamode_cases c host with
    same | ⟨switched, cleared, finished, response, isSwitched, _, _, parts⟩
  · rw [same]
    exact ⟨aligned, sheltered⟩
  · rw [parts]
    obtain ⟨data, rfl, _⟩ := setSmMode_cases isSwitched
    have changed : ∀ {state : Host} (new : DataState), Guarded env c state →
        Guarded env c (state.setData c new) :=
      fun new before => before.of_same (SameShelter.setData c new _) rfl
    have settled : Guarded env c (smAtHostEventNotify c .atMode
        ((rspSend cfg response ((callHandlerExit cfg env c Flags.none
          (host.setData c data)).setData c cleared)).setData c finished)) := by
      refine Guarded.of_same (changed finished ?_) (SameShelter.sendMsg _ _) (sendMsg_history _ _)
      refine Guarded.issued (changed cleared ?_) (Issued.response response)
      exact (changed data ⟨aligned.toBalanced, sheltered⟩).callHandlerExit c Flags.none
    refine ⟨⟨⟨?_, ?_⟩, ?_⟩, settled.sheltered.of_same ⟨rfl, rfl, rfl, rfl⟩⟩
    · rw [Host.history_record, placement_append_singleton]
      simpa [Placement.next, Host.record] using settled.balanced.lock
    · apply settled.balanced.placed.append_singleton
      intro content isUrc
      cases isUrc
    · intro _
      rw [Host.history_record, placement_append_singleton]
      simp [Placement.next]

theorem Aligned.addExecutingLock (aligned : Aligned c host) (d : CtxId)
    (unit : amount = 1 ∨ amount = -1) :
    Aligned c (addExecutingLock d amount host) where
  toBalanced := aligned.toBalanced.addExecutingLock d unit
  mode isAt := by
    have sameMode : (AtHost.addExecutingLock d amount host).data c = host.data c := by
      apply Host.data_setCtx_of_eq host
      rfl
    rw [sameMode] at isAt
    rw [AtHost.addExecutingLock, Host.history_record,
      placement_append_singleton, Placement.next_lock d unit]
    exact aligned.mode isAt

theorem Aligned.enterDatamode {handler : HandlerId} {dataLen : UInt32}
    {entered : Bool} (aligned : Aligned c host)
    (ran : enterDatamode cfg env handler dataLen host =
      some (entered, after)) : Aligned c after := by
  rcases enterDatamode_cases ran with rfl | ⟨d, data, _, _, mode, rfl⟩
  · exact aligned
  · by_cases same : d = c
    · subst same
      have stored := aligned.toBalanced.setData d data
      refine ⟨⟨?_, ?_⟩, ?_⟩
      · rw [Host.history_record, placement_append_singleton]
        simpa [Placement.next, Host.record] using stored.lock
      · apply stored.placed.append_singleton
        intro content isUrc
        cases isUrc
      · rw [Host.data_record, Host.data_setData_self, mode]
        intro impossible
        cases impossible
    · refine Aligned.record (aligned.setData fun equal => absurd equal same)
        ⟨fun _ => if_neg same, fun _ => Event.noConfusion⟩

theorem Aligned.performActions (actions : List CommandAction) :
    ∀ {host after : Host}, performActions cfg env actions host = some after →
      Aligned c host → Aligned c after := by
  induction actions with
  | nil =>
    intro host after performed aligned
    cases performed
    exact aligned
  | cons action rest ih =>
    intro host after performed aligned
    obtain ⟨middle, first, remaining⟩ := bind_eq_some_iff.mp performed
    refine ih remaining ?_
    cases action with
    | call hostCall =>
      cases first
      exact aligned.performCall hostCall
    | enterDatamode handler dataLen =>
      obtain ⟨⟨entered, opened⟩, ran, rfl⟩ :=
        map_eq_some_iff.mp first
      exact aligned.enterDatamode ran
    | echo enable =>
      obtain ⟨d, _, rfl⟩ := map_eq_some_iff.mp first
      refine Aligned.setCtx (aligned.setCtx ?_ ?_) ?_ ?_ <;> rfl
    | datactrl timeLimit =>
      obtain ⟨d, _, rfl⟩ := map_eq_some_iff.mp first
      dsimp only
      split
      · exact aligned
      · apply aligned.setData
        rintro rfl isAt
        exact isAt

variable {effect : Effect}

theorem Performs.aligned (performed : Performs cfg env effect before after)
    (stays : effect ≠ .leave c)
    (plain : ∀ event, effect = .record event → Plain event)
    (aligned : Aligned c before) : Aligned c after := by
  cases performed with
  | data d sameMode =>
    apply aligned.setData
    rintro rfl isAt
    exact sameMode.symm.trans isAt
  | toNullMode d switched =>
    obtain ⟨data, rfl, mode, _⟩ := setSmMode_cases switched
    apply aligned.setData
    rw [mode]
    intro _ impossible
    cases impossible
  | leave =>
    apply aligned.exitDatamode_of_ne
    rintro rfl
    exact stays rfl
  | record => exact aligned.record ((plain _ rfl).unplaced c)
  | current current => exact aligned.of_same rfl rfl id
  | calls issued => exact aligned.performCalls _
  | actions issued performed => exact Aligned.performActions _ performed aligned
  | command d fits | idleTimer | inactivityTimer d active =>
    apply aligned.setCtx <;> rfl
  | lock _ unit => exact aligned.addExecutingLock _ unit

/-! ## Bytes -/

theorem Effects.aligned {allowed : Effect → Prop} (effects : Effects cfg env allowed before after)
    (stays : ¬allowed (.leave c))
    (plain : ∀ event, allowed (.record event) → Plain event)
    (aligned : Aligned c before) : Aligned c after := by
  refine effects.preserves (fun isAllowed performed => ?_) aligned
  apply performed.aligned
  · rintro rfl
    exact stays isAllowed
  · rintro event rfl
    exact plain event isAllowed

theorem Aligned.cmdFinnishOrFail (aligned : Aligned c host) (d : CtxId) :
    Aligned c (cmdFinnishOrFail env d host) := by
  unfold AtHost.cmdFinnishOrFail
  refine Aligned.sendMsg (Aligned.setCtx (aligned.setCtx ?_ ?_) ?_ ?_) _ <;> rfl

theorem Wakes.aligned {served : Option CtxId}
    (wakes : Wakes cfg env served d before after) (aligned : Aligned c before) :
    Aligned c after := by
  rcases wakes with typing | ⟨settled, executing, rest⟩
  · exact typing.aligned (fun leaves => leaves) (fun _ plain => plain) aligned
  · have ran := executing.aligned (fun leaves => leaves) (fun _ plain => plain) aligned
    exact rest.aligned (fun leaves => leaves) (fun _ plain => plain) (ran.cmdFinnishOrFail d)

/-- While no URC can reach the context, every effect of its session keeps the
agreement and the shelter. -/
theorem Performs.sheltered (performed : Performs cfg env effect before after)
    (isAllowed : effect.inSession c)
    (holds : Aligned c before ∧ Sheltered env c before) :
    Aligned c after ∧ Sheltered env c after := by
  obtain ⟨aligned, sheltered⟩ := holds
  have plain : ∀ event, effect = .record event → Plain event := by
    rintro event rfl
    exact isAllowed
  by_cases leaves : effect = .leave c
  · subst leaves
    cases performed
    exact exitDatamode_sheltered aligned sheltered
  · refine ⟨performed.aligned leaves plain aligned, ?_⟩
    cases performed with
    | leave =>
      cases isAllowed
      exact absurd rfl leaves
    | data d _ => exact sheltered.of_same (SameShelter.setData d _ before)
    | toNullMode d switched =>
      exact sheltered.of_same (SameShelter.setSmMode switched)
    | record | current => exact sheltered.of_same ⟨rfl, rfl, rfl, rfl⟩
    | calls _ issued =>
      exact (Guarded.issued ⟨aligned.toBalanced, sheltered⟩ issued).sheltered
    | inactivityTimer =>
      refine sheltered.of_same (SameShelter.setCtx _ ?_ ?_ ?_) <;> rfl
    | _ => exact False.elim isAllowed

theorem Effects.aligned_of_sheltered (effects : Effects cfg env (Effect.inSession c) before after)
    (aligned : Aligned c before) (sheltered : Sheltered env c before) :
    Aligned c after := by
  have both : Aligned c after ∧ Sheltered env c after :=
    effects.preserves (fun isAllowed performed =>
      performed.sheltered isAllowed) ⟨aligned, sheltered⟩
  exact both.1

theorem exitDatamode_atMode (host : Host) : exitDatamode cfg env c host = host ∨
      ((exitDatamode cfg env c host).data c).atMode = .atCommandMode := by
  by_cases leaves : c ∈ host.instanceList ∧ (host.data c).atMode ≠ .atCommandMode
  · right
    rw [(exitDatamode_spec cfg env leaves.1 leaves.2).1.data]
    rfl
  · exact .inl (exitDatamode_refused cfg env leaves)

theorem Performs.stays_at (performed : Performs cfg env effect before after)
    (isAllowed : effect.inSession c)
    (ended : (before.data c).atMode = .atCommandMode) :
    (after.data c).atMode = .atCommandMode := by
  cases performed with
  | leave =>
    cases isAllowed
    rcases exitDatamode_atMode before with same | mode
    · rwa [same]
    · exact mode
  | data d sameMode =>
    by_cases same : d = c
    · subst same
      rw [Host.data_setData_self, sameMode]
      exact ended
    · have other : c ≠ d := fun equal => same equal.symm
      rwa [Host.data_setData_of_ne _ _ other]
  | toNullMode d switched =>
    obtain ⟨data, rfl, _, fromAt⟩ := setSmMode_cases switched
    by_cases same : d = c
    · subst same
      exact absurd (fromAt.mp ended) (by simp)
    · have other : c ≠ d := fun equal => same equal.symm
      rwa [Host.data_setData_of_ne _ _ other]
  | record | current => exact ended
  | calls =>
    rename_i calls _
    have undisturbed : Undisturbed cfg before (performCalls cfg calls before) :=
      performCalls_undisturbed calls before
    rwa [undisturbed.data]
  | inactivityTimer _ d active =>
    have undisturbed : Undisturbed cfg before (setInactivityTimer d active before) :=
      setInactivityTimer_undisturbed d active before
    rwa [undisturbed.data]
  | _ => exact False.elim isAllowed

def EndedOrAligned (c : CtxId) (host : Host) : Prop :=
  (host.data c).atMode = .atCommandMode ∨ Aligned c host

theorem Performs.endedOrAligned (performed : Performs cfg env effect before after)
    (isAllowed : effect.inSession c) (holds : EndedOrAligned c before) :
    EndedOrAligned c after := by
  rcases holds with isAt | aligned
  · exact .inl (performed.stays_at isAllowed isAt)
  · by_cases leaves : effect = .leave c
    · subst leaves
      cases performed
      rcases exitDatamode_atMode before with same | mode
      · rw [same]
        exact .inr aligned
      · exact .inl mode
    · refine .inr (performed.aligned leaves ?_ aligned)
      rintro event rfl
      exact isAllowed

theorem Effects.aligned_of_session (effects : Effects cfg env (Effect.inSession c) before after)
    (aligned : Aligned c before)
    (continues : (after.data c).atMode ≠ .atCommandMode) :
    Aligned c after := by
  have ended : EndedOrAligned c after :=
    effects.preserves (fun isAllowed performed =>
      performed.endedOrAligned isAllowed) (.inr aligned)
  exact ended.resolve_left continues

/-! ## Executions -/

theorem Aligned.handleMessage (aligned : Aligned c host) (message : Message) :
    Aligned c (handleMessage cfg message host) := by
  unfold AtHost.handleMessage
  split
  · rename_i d _ _ _
    split
    · split
      · rename_i idle
        have served : Aligned c (host.setCurrentCtx (some d)) :=
          aligned.of_same rfl rfl id
        have flushed : Aligned c (AtHost.flushPipeUrcs cfg d (host.setCurrentCtx (some d))) := by
          refine served.of_undisturbed (served.toBalanced.flushPipeUrcs d ?_)
            (flushPipeUrcs_undisturbed d _)
          rintro rfl
          exact served.toBalanced.free_of_idle served.flushSafe idle
        exact flushed.of_same rfl rfl id
      · unfold checkIdleTimer
        split
        · apply aligned.setCtx <;> rfl
        · exact aligned
    · exact aligned
  · exact aligned

theorem Aligned.smAtHostWorkFn (aligned : Aligned c host) :
    Aligned c (smAtHostWorkFn cfg host) := by
  have handled : ∀ (messages : List Message) {state : Host}, Aligned c state →
      Aligned c (messages.foldl (fun current message => AtHost.handleMessage cfg message current)
        state) := by
    intro messages
    induction messages with
    | nil =>
      intro state before
      exact before
    | cons message rest ih =>
      intro state before
      exact ih (before.handleMessage message)
  unfold AtHost.smAtHostWorkFn
  apply handled
  exact aligned.of_same rfl rfl id

theorem Aligned.submitWork (aligned : Aligned c host) (work : Work) :
    Aligned c (submitWork work host) := by
  unfold AtHost.submitWork
  split
  · exact aligned
  · exact aligned.of_same rfl rfl id

theorem Aligned.enterWork (aligned : Aligned c host) (work : Work) :
    Aligned c (enterWork cfg work host) := by
  cases work with
  | rx d =>
    simp only [AtHost.enterWork]
    rcases enterRxWork_cases d host with same | ⟨pipe, _, _, _, entered⟩
    · rwa [same]
    · rw [entered]
      exact aligned.of_same rfl rfl id
  | rawSendScheduled d mark => exact aligned.of_same rfl rfl id
  | atHost => exact aligned.smAtHostWorkFn
  | poll d => exact aligned

/-- A byte that ends data mode finds its context out of reach for URCs: its
idle timer runs, or its lock is held or nothing waits for it while the handlers
only send. -/
def ExitsSheltered (cfg : Config) (env : Environment) (host : Host) (action : Action) :
    Prop :=
  action = .receiveByte → ∀ c pipe after, host.running = .rx c pipe →
      (host.data c).atMode ≠ .atCommandMode →
      step cfg env action host = some after →
      (after.data c).atMode = .atCommandMode →
      Sheltered env c host

theorem receiveByte_aligned {pipe : PipeId} {byte : Byte} {rest : List Byte} {handled : Host}
    (received : smAtReceive cfg env d byte (setPipeRx pipe rest host) = some handled)
    (sheltered : d = c → (host.data c).atMode ≠ .atCommandMode →
      (handled.data c).atMode = .atCommandMode → Sheltered env c host)
    (aligned : Aligned c host) : Aligned c handled := by
  have arrived : Aligned c (setPipeRx pipe rest host) :=
    aligned.of_same rfl rfl id
  rcases smAtReceive_effects received with
    ⟨mode, effects⟩ | ⟨_, wakes⟩ | ⟨_, effects⟩
  · by_cases same : d = c
    · subst same
      by_cases ends : (handled.data d).atMode = .atCommandMode
      · exact effects.aligned_of_sheltered arrived
          ((sheltered rfl mode ends).of_same ⟨rfl, rfl, rfl, rfl⟩)
      · exact effects.aligned_of_session arrived ends
    · exact effects.aligned (fun leaves => same leaves.symm) (fun _ plain => plain) arrived
  · exact wakes.aligned arrived
  · exact effects.aligned (fun leaves => leaves) (fun _ plain => plain) arrived

theorem continueRxWork_atMode (d : CtxId) (pipe : PipeId) (handled : Host) :
    (continueRxWork d pipe handled).data c = handled.data c := by
  unfold continueRxWork
  split <;> rfl

theorem step_aligned {action : Action} (taken : step cfg env action host = some after)
    (sheltered : ExitsSheltered cfg env host action) (aligned : Aligned c host) :
    Aligned c after := by
  cases step_cases taken with
  | pipeReceive d content pipe _ _ =>
    refine Aligned.submitWork ?_ _
    exact aligned.of_same rfl rfl id
  | inactivityExpiry d _ =>
    have stopped : Aligned c (setInactivityTimer d false host) := by
      apply aligned.setCtx <;> rfl
    unfold inactivityTimerHandler
    split
    · exact stopped
    · exact stopped.submitWork _
  | idleExpiry d _ =>
    refine Aligned.sendMsg (aligned.setCtx ?_ ?_) _ <;> rfl
  | dispatch work rest _ _ =>
    refine Aligned.enterWork ?_ work
    exact aligned.of_same rfl rfl id
  | receiveByte d pipe byte rest handled running waiting received =>
    have ends : Aligned c handled := by
      refine receiveByte_aligned received ?_ aligned
      rintro rfl outside isAt
      refine sheltered rfl d pipe _ running outside taken ?_
      rwa [continueRxWork_atMode]
    unfold continueRxWork
    split
    · exact ends
    · exact ends.of_same rfl rfl id
  | receiveEnd d pipe _ => exact aligned.of_same rfl rfl id
  | flush d mark flushed _ ran =>
    have sent : Aligned c flushed :=
      (rawSendScheduled_effects ran).aligned (fun leaves => leaves) (fun _ plain => plain) aligned
    exact sent.of_same rfl rfl id
  | exitDatamodeHandler d result _ =>
    have effects : Effects cfg env Effect.inDataMode host
        (exitDatamodeHandler cfg env d result host) :=
      exitDatamodeHandler_effects d result host
    exact effects.aligned (fun leaves => leaves) (fun _ plain => plain) aligned
  | call hostCall _ => exact aligned.performCall hostCall

theorem Initial.aligned (initial : Initial host) (c : CtxId) : Aligned c host := by
  obtain ⟨pipe, isInit⟩ := initial.ctx c
  refine ⟨⟨?_, ?_⟩, ?_⟩
  · rw [isInit, initial.history]
    rfl
  · rw [initial.history]
    intro before content after split
    exact absurd split (by simp)
  · intro _
    rw [initial.history]
    rfl

/-- URCs stand outside commands and outside data mode in every execution in
which data mode is left only while no URC can reach the context. -/
theorem urcs_placed {host : Host} (reachable : ReachableIf cfg env (ExitsSheltered cfg env) host)
    (c : CtxId) : Placed c host.history := by
  have aligned : Aligned c host := by
    refine Reachable.invariant ?_ ?_ reachable
    · intro start initial
      exact initial.aligned c
    · intro state action next before isAllowed taken
      exact step_aligned taken isAllowed before
  exact aligned.placed

/-- Whether the idle timer runs when a byte ends data mode. -/
def timerShelters (cfg : Config) (env : Environment) (host : Host) (action : Action) : Bool :=
  match action, host.running with
  | .receiveByte, .rx c _ =>
    (host.ctx c).idleTimer || (host.data c).atMode = .atCommandMode ||
      (step cfg env .receiveByte host).all fun after => (after.data c).atMode ≠ .atCommandMode
  | _, _ => true

theorem timerShelters_sound {action : Action} (checked : timerShelters cfg env host action = true) :
    ExitsSheltered cfg env host action := by
  rintro rfl c pipe after running inSession taken leaves
  simp only [timerShelters, running, taken, inSession, leaves, all_some, ne_eq,
    not_true_eq_false, decide_false, Bool.or_false] at checked
  exact .inl checked

/-- The first command enters data mode, and the next one goes on in the background. -/
def sessionThenCommand : Environment :=
  { sessionEnv 0 consumeAll with
    atCommand := fun history _ _ =>
      if .exitDatamode 0 ∈ history then ⟨[], .continueRet⟩ else ⟨[.enterDatamode 0 0], .silentRet⟩ }

/-- A URC is produced in data mode, and another one while the context is locked;
the idle timer expires at once each time. -/
def twoUrcActions : List Action :=
  openingActions 0 ++ [.call (.urcSend [86]), .pipeReceive 0 [43, 43, 43], .receiveByte,
    .receiveByte, .receiveByte, .receiveEnd, .idleExpiry 0, .dispatch, .dispatch,
    .pipeReceive 0 [65, 84, 13], .receiveByte, .receiveByte, .receiveByte, .receiveEnd,
    .call (.urcSend [87]), .idleExpiry 0, .dispatch, .dispatch,
    .call (.rspSendTo (some 0) .ok), .call (.cmdDone 0), .idleExpiry 0, .dispatch]

def lockEvents (history : History) : List Event :=
  history.filter fun event => event matches .locked _ | .unlocked _ | .urcSent _ _ |
    .enterDatamode _ _ _ | .rspSend _ _ | .rspSendTo _ _

/-- They go out behind the report that ends data mode and behind the answer of the
command. -/
theorem urcs_placed_twoUrcs : ∃ host,
      ReachableIf plusConfig sessionThenCommand (ExitsSheltered plusConfig sessionThenCommand)
        host ∧
      lockEvents host.history =
        [.locked 0, .enterDatamode 0 0 0, .unlocked 0, .rspSend 0 (.xdatamode 0),
          .urcSent 0 [86], .locked 0, .rspSendTo 0 .ok, .unlocked 0, .urcSent 0 [87]] ∧
      Placed 0 host.history := by
  obtain ⟨host, reachable, history⟩ := exists_run_if plusConfig sessionThenCommand
    (ExitsSheltered plusConfig sessionThenCommand) (timerShelters plusConfig sessionThenCommand)
    [0] twoUrcActions (fun _ _ _ checked => timerShelters_sound checked)
    (fun host => lockEvents host.history)
    [.locked 0, .enterDatamode 0 0 0, .unlocked 0, .rspSend 0 (.xdatamode 0),
      .urcSent 0 [86], .locked 0, .rspSendTo 0 .ok, .unlocked 0, .urcSent 0 [87]] (by decide)
  exact ⟨host, reachable, history, urcs_placed reachable 0⟩

/-- A URC is produced in data mode, the idle timer expires and the terminator
arrives before the message of the timer is handled. -/
def earlyUrcActions : List Action :=
  openingActions 0 ++ [.pipeReceive 0 [43, 43, 43], .call (.urcSend [85]), .idleExpiry 0,
      .receiveByte, .receiveByte, .receiveByte]

/-- The URC goes out before the report that ends data mode. -/
theorem urc_sent_before_xdatamode :
    ∃ host, ReachableState plusConfig (sessionEnv 0 consumeAll) host ∧ ¬Placed 0 host.history := by
  obtain ⟨host, reachable, history⟩ :=
    exists_run plusConfig (sessionEnv 0 consumeAll) [0] earlyUrcActions
      (fun host => (placement 0 (host.history.take 12), host.history.drop 12))
      (⟨0, true⟩, [.urcSent 0 [85], .rspSend 0 (.xdatamode 0), .exitDatamode 0]) (by decide)
  refine ⟨host, reachable, fun placed => ?_⟩
  obtain ⟨inSession, sent⟩ := Prod.mk.inj history
  have split := (take_append_drop 12 host.history).symm
  rw [sent] at split
  have outside := placed _ _ _ split
  rw [inSession] at outside
  cases outside

end SerialModem.AtHost
