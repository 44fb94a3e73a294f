import SerialModem.AtHost.Frame

/-!
# The effects that a received byte is made of

Handling one byte runs through most of the AT host and calls the environment
many times.  Here it is cut into effects: each function is shown once to be a
sequence of them, and what the later modules need to know about locks, wake-ups
and URCs is proved for one effect at a time.

A command can leave its context in a state that only a message brings forward:
its timer is stopped and its lock released.  These effects are allowed only on
the context of the command, and `cmd_finnish_or_fail` posts a message for that
context after them.
-/

namespace SerialModem.AtHost

open Library Option

/-- The buffer has one of the sizes that doubling reaches, the line leaves room
in it for one more character and the closing NUL, and quotes are only open in
a line that has begun. -/
structure CommandState.Fits (command : CommandState) : Prop where
  size : ∃ doublings, doublings ≤ 6 ∧ command.atBufSize = atBufMinSize * Nat.pow 2 doublings
  room : command.atCmdLen + 2 ≤ command.atBufSize
  unquoted : command.atCmdLen = 0 → command.insideQuotes = false

/-- Neither a URC nor a move of a lock, nor the start or end of data mode. -/
def Plain : Event → Prop
  | .urcSent _ _ => False
  | .locked _ => False
  | .unlocked _ => False
  | .enterDatamode _ _ _ => False
  | .exitDatamode _ => False
  | _ => True

/-- The lists of calls that the data-mode handlers make, and the answers of the
AT host itself. -/
inductive Issued (env : Environment) : List HostCall → Prop
  | send (history : History) (c : CtxId) (handler : HandlerId)
      (content : List Byte) (flags : Flags) :
      Issued env (env.handlerSend history c handler content flags).calls
  | sendAfterExit (history : History) (c : CtxId) (handler : HandlerId)
      (content : List Byte) (flags : Flags) :
      Issued env (env.handlerSend history c handler content flags).callsAfterExit
  | exit (history : History) (c : CtxId) (handler : HandlerId) (flags : Flags) :
      Issued env (env.handlerExit history c handler flags)
  | response (response : Response) : Issued env [.rspSend response]

inductive IssuedActions (env : Environment) : List CommandAction → Prop
  | atCommand (history : History) (c : CtxId) (command : List Byte) :
      IssuedActions env (env.atCommand history c command).actions
  | bootloader (history : History) (c : CtxId) (command : List Byte) :
      IssuedActions env (env.bootloaderCommand history c command).1

inductive Effect where
  | data
  | toNullMode
  /-- `exit_datamode`. -/
  | leave (ctx : CtxId)
  | record (event : Event)
  | current
  | calls (calls : List HostCall)
  | actions (served : Option CtxId) (actions : List CommandAction)
  | command
  | idleTimer (ctx : CtxId) (active : Bool)
  | inactivityTimer
  | lock (ctx : CtxId) (amount : Int)

inductive Performs (cfg : Config) (env : Environment) :
    Effect → Host → Host → Prop
  | data {host : Host} (c : CtxId) {data : DataState}
      (sameMode : data.atMode = (host.data c).atMode) :
      Performs cfg env .data host (host.setData c data)
  | toNullMode {host after : Host} (c : CtxId)
      (switched : setSmMode cfg env c .nullMode host = some after) :
      Performs cfg env .toNullMode host after
  | leave (host : Host) (c : CtxId) : Performs cfg env (.leave c) host (exitDatamode cfg env c host)
  | record (host : Host) (event : Event) : Performs cfg env (.record event) host (host.record event)
  | current (host : Host) (current : Option CtxId) :
      Performs cfg env .current host (host.setCurrentCtx current)
  | calls (host : Host) {calls : List HostCall} (issued : Issued env calls) :
      Performs cfg env (.calls calls) host (performCalls cfg calls host)
  | actions {host after : Host} {actions : List CommandAction} (issued : IssuedActions env actions)
      (performed : performActions cfg env actions host = some after) :
      Performs cfg env (.actions host.currentCtx actions) host after
  | command {host : Host} (c : CtxId) {command : CommandState}
      (fits : (host.command c).Fits → command.Fits) :
      Performs cfg env .command host (host.setCommand c command)
  | idleTimer (host : Host) (c : CtxId) (active : Bool) :
      Performs cfg env (.idleTimer c active) host
        (host.setCtx c { host.ctx c with idleTimer := active })
  | inactivityTimer (host : Host) (c : CtxId) (active : Bool) :
      Performs cfg env .inactivityTimer host (setInactivityTimer c active host)
  | lock (host : Host) {c : CtxId} {amount : Int} (unit : amount = 1 ∨ amount = -1) :
      Performs cfg env (.lock c amount) host (addExecutingLock c amount host)

namespace Effect

def inDataMode : Effect → Prop
  | .data => True
  | .toNullMode => True
  | .record event => Plain event
  | .current => True
  | .calls _ => True
  | _ => False

def inSession (c : CtxId) : Effect → Prop
  | .leave d => d = c
  | .inactivityTimer => True
  | effect => effect.inDataMode

def typing : Effect → Prop
  | .command => True
  | .idleTimer _ active => active = true
  | .inactivityTimer => True
  | effect => effect.inDataMode

def executing (served : Option CtxId) (c : CtxId) : Effect → Prop
  | .lock d _ => d = c
  | .idleTimer d active => active = true ∨ d = c
  | .actions acting _ => acting = served
  | effect => effect.typing

variable {effect : Effect}

theorem inDataMode.inSession (allowed : effect.inDataMode) (c : CtxId) : effect.inSession c := by
  cases effect with
  | leave => exact False.elim allowed
  | inactivityTimer => trivial
  | _ => exact allowed

theorem inDataMode.typing (allowed : effect.inDataMode) : effect.typing := by
  cases effect with
  | command => trivial
  | idleTimer => exact False.elim allowed
  | inactivityTimer => trivial
  | _ => exact allowed

theorem typing.executing (allowed : effect.typing) (served : Option CtxId)
    (c : CtxId) : effect.executing served c := by
  cases effect with
  | lock => exact False.elim allowed
  | idleTimer => exact .inl allowed
  | actions => exact False.elim allowed
  | _ => exact allowed

end Effect

abbrev Effects (cfg : Config) (env : Environment) (allowed : Effect → Prop) : Host → Host → Prop :=
  Composed (Performs cfg env) allowed

variable {cfg : Config} {env : Environment}

variable {before after : Host}

theorem Effects.inSession (effects : Effects cfg env Effect.inDataMode before after) (c : CtxId) :
    Effects cfg env (Effect.inSession c) before after :=
  effects.mono fun _ allowed => allowed.inSession c

theorem Effects.typing (effects : Effects cfg env Effect.inDataMode before after) :
    Effects cfg env Effect.typing before after :=
  effects.mono fun _ allowed => allowed.typing

variable {c : CtxId}

theorem Effects.executing {served : Option CtxId}
    (effects : Effects cfg env Effect.typing before after) :
    Effects cfg env (Effect.executing served c) before after :=
  effects.mono fun _ allowed => allowed.executing served c

/-! ## Sending in data mode -/

variable {allowed : Effect → Prop}

theorem recorded {event : Event} (isAllowed : allowed (.record event)) (host : Host) :
    Effects cfg env allowed host (host.record event) :=
  Composed.single (Performs.record host event) isAllowed

theorem issued_effects {calls : List HostCall} (issued : Issued env calls) (host : Host) :
    Effects cfg env Effect.inDataMode host (performCalls cfg calls host) :=
  Composed.single (Performs.calls host issued) trivial

theorem rspSend_effects (response : Response) (host : Host) :
    Effects cfg env Effect.inDataMode host (rspSend cfg response host) :=
  issued_effects (Issued.response response) host

variable {host : Host}

theorem setData_effects (c : CtxId) {data : DataState}
    (sameMode : data.atMode = (host.data c).atMode) :
    Effects cfg env Effect.inDataMode host (host.setData c data) :=
  Composed.single (Performs.data c sameMode) trivial

theorem setCurrentCtx_effects (current : Option CtxId) (host : Host) :
    Effects cfg env Effect.inDataMode host (host.setCurrentCtx current) :=
  Composed.single (Performs.current host current) trivial

theorem callHandlerExit_effects (c : CtxId) (flags : Flags) (host : Host) :
    Effects cfg env Effect.inDataMode host (callHandlerExit cfg env c flags host) := by
  unfold callHandlerExit
  split
  · exact Composed.refl host
  · refine Composed.trans (recorded ?_ host) (issued_effects (Issued.exit _ _ _ _) _)
    trivial

theorem exitDatamodeHandler_effects (c : CtxId) (result : Int) (host : Host) :
    Effects cfg env Effect.inDataMode host (exitDatamodeHandler cfg env c result host) := by
  unfold exitDatamodeHandler
  split
  · exact Composed.refl host
  · rename_i switched isSwitched
    have dropped : Effects cfg env Effect.inDataMode host switched :=
      Composed.single (Performs.toNullMode c isSwitched) trivial
    have noted : Effects cfg env Effect.inDataMode switched
        (switched.record (.exitDatamodeHandler c result)) := by
      apply recorded
      trivial
    refine dropped.trans (noted.trans ((setCurrentCtx_effects (some c) _).trans
        ((callHandlerExit_effects c ⟨false, true⟩ _).trans ?_)))
    exact Composed.trans (setData_effects c (by rfl)) (setCurrentCtx_effects none _)

theorem callHandlerSend_effects
    (c : CtxId) (handler : HandlerId) (content : List Byte) (flags : Flags)
    (host : Host) :
    Effects cfg env Effect.inDataMode host
      (callHandlerSend cfg env c handler content flags host).2 := by
  unfold callHandlerSend
  dsimp only
  refine (issued_effects (Issued.send host.history c handler content flags) host).trans ?_
  refine Composed.trans ?_ ((issued_effects
    (Issued.sendAfterExit host.history c handler content flags) _).trans (recorded ?_ _))
  · split
    · exact exitDatamodeHandler_effects _ _ _
    · exact Composed.refl _
  · trivial

theorem finishClaim_effects (c : CtxId) (count : Nat) (host : Host) :
    Effects cfg env Effect.inDataMode host (finishClaim c count host) :=
  setData_effects c rfl

theorem rawSendLoop_effects (c : CtxId) (flags : Flags) (fuel : Nat) :
    ∀ {retry : Bool} {host after : Host}, rawSendLoop cfg env c flags fuel retry host = some after →
      Effects cfg env Effect.inDataMode host after := by
  induction fuel with
  | zero =>
    intro retry host after executed
    cases executed
  | succ fuel ih =>
    intro retry host after executed
    simp only [rawSendLoop] at executed
    generalize (host.data c).dataRb.getClaim cfg.datamodeBufSize = claim at executed
    by_cases claimed : claim = []
    · rw [if_pos claimed] at executed
      cases executed
      exact Composed.refl host
    · rw [if_neg claimed] at executed
      cases hasHandler : (host.data c).handler with
      | none =>
        rw [hasHandler] at executed
        exact (finishClaim_effects c _ host).trans (ih executed)
      | some handler =>
        rw [hasHandler] at executed
        dsimp only at executed
        generalize (if claim.length ≠ (host.data c).dataRb.sizeGet then
          { flags with moreData := true } else flags) = sendFlags
          at executed
        refine (callHandlerSend_effects c handler claim sendFlags host).trans ?_
        split at executed
        · exact (exitDatamodeHandler_effects c _ _).trans
            ((finishClaim_effects c _ _).trans (ih executed))
        · split at executed
          · exact (finishClaim_effects c _ _).trans (ih executed)
          · exact (finishClaim_effects c _ _).trans (ih executed)

theorem rawSend_effects {flags : Flags} (executed : rawSend cfg env flags host = some after) :
    Effects cfg env Effect.inDataMode host after := by
  unfold rawSend at executed
  split at executed
  · cases executed
  · refine Composed.trans (recorded ?_ host) (rawSendLoop_effects _ flags _ executed)
    trivial

theorem writeDataBufLoop_effects (c : CtxId) (fuel : Nat) :
    ∀ {content : List Byte} {host after : Host},
      writeDataBufLoop cfg env c fuel content host = some after →
      Effects cfg env Effect.inDataMode host after := by
  induction fuel with
  | zero =>
    intro content host after executed
    cases content with
    | nil =>
      cases executed
      exact Composed.refl host
    | cons byte rest => cases executed
  | succ fuel ih =>
    intro content host after executed
    cases content with
    | nil =>
      cases executed
      exact Composed.refl host
    | cons byte rest =>
      unfold writeDataBufLoop at executed
      dsimp only at executed
      split at executed
      · split at executed
        · cases executed
        · rename_i flushed sent
          exact (rawSend_effects sent).trans (ih executed)
      · have stored : Effects cfg env Effect.inDataMode host
            (storeBytes c (byte :: rest) host) := setData_effects c rfl
        exact stored.trans (ih executed)

theorem startWrite_effects (c : CtxId) (content : List Byte) (host : Host) :
    Effects cfg env Effect.inDataMode host (startWrite c content host) := by
  have started : Effects cfg env Effect.inDataMode host
      (host.record (.writeDataBuf c content)) := by
    apply recorded
    trivial
  unfold startWrite
  dsimp only
  split
  · exact started.trans (setData_effects c rfl)
  · exact started

theorem writeDataBuf_effects {content : List Byte}
    (executed : writeDataBuf cfg env content host = some after) :
    Effects cfg env Effect.inDataMode host after := by
  unfold writeDataBuf at executed
  split at executed
  · cases executed
  · exact (startWrite_effects _ content host).trans (writeDataBufLoop_effects _ _ executed)

theorem setQuitStrMatch_effects (c : CtxId) (count : UInt8) (host : Host) :
    Effects cfg env Effect.inDataMode host (setQuitStrMatch c count host) :=
  setData_effects c rfl

theorem rawSendScheduled_effects (executed : rawSendScheduled cfg env c host = some after) :
    Effects cfg env Effect.inDataMode host after := by
  unfold rawSendScheduled at executed
  dsimp only at executed
  refine (setCurrentCtx_effects (some c) host).trans ?_
  split at executed
  · cases executed
  · rename_i ready written
    obtain ⟨sent, isSent, rfl⟩ := map_eq_some_iff.mp executed
    refine Composed.trans ?_ ((rawSend_effects isSent).trans (setCurrentCtx_effects none _))
    split at written
    · obtain ⟨stored, isStored, rfl⟩ := map_eq_some_iff.mp written
      exact (writeDataBuf_effects isStored).trans (setQuitStrMatch_effects c 0 _)
    · cases written
      exact Composed.refl _

/-! ## Bytes of a session -/

theorem setSmMode_cases {mode : OperationMode}
    (switched : setSmMode cfg env c mode host = some after) :
    ∃ data, after = host.setData c data ∧ data.atMode = mode ∧
      ((host.data c).atMode = .atCommandMode ↔ mode = .dataMode) := by
  unfold setSmMode at switched
  split at switched
  · cases switched
  · dsimp only at switched
    split at switched
    · rename_i before
      split at switched
      · split at switched
        · cases switched
          exact ⟨_, rfl, rfl, by simp [before]⟩
        · cases switched
      · cases switched
        exact ⟨_, rfl, rfl, by simp [before]⟩
    all_goals cases switched
    all_goals rename_i before
    all_goals exact ⟨_, rfl, rfl, by simp [before]⟩

theorem enterDatamode_cases {handler : HandlerId} {dataLen : UInt32} {entered : Bool}
    (executed : enterDatamode cfg env handler dataLen host = some (entered, after)) :
    after = host ∨ ∃ c data, smAtHostGetCurrent cfg host = some c ∧
        (host.data c).atMode = .atCommandMode ∧ data.atMode = .dataMode ∧
        after = (host.setData c data).record (.enterDatamode c handler dataLen) := by
  unfold enterDatamode at executed
  split at executed
  · cases executed
  · rename_i c current
    split at executed
    · cases executed
      exact .inl rfl
    · split at executed
      · cases executed
        exact .inl rfl
      · rename_i switched isSwitched
        cases executed
        obtain ⟨data, rfl, mode, fromAt⟩ := setSmMode_cases isSwitched
        rw [Host.setData_setData]
        refine .inr ⟨c, _, current, fromAt.mpr rfl, ?_, rfl⟩
        rw [Host.data_setData_self]
        exact mode

theorem exitDatamode_cases (c : CtxId) (host : Host) :
    exitDatamode cfg env c host = host ∨ ∃ switched cleared finished response,
        setSmMode cfg env c .atCommandMode host = some switched ∧
        cleared.atMode = ((callHandlerExit cfg env c Flags.none switched).data c).atMode ∧
        finished.atMode = ((rspSend cfg response
          ((callHandlerExit cfg env c Flags.none switched).setData c
            cleared)).data c).atMode ∧
        exitDatamode cfg env c host = (smAtHostEventNotify c .atMode ((rspSend cfg response
            ((callHandlerExit cfg env c Flags.none switched).setData c
              cleared)).setData c finished)).record (.exitDatamode c) := by
  unfold exitDatamode
  split
  · exact .inl rfl
  · rename_i switched isSwitched
    refine .inr ⟨switched, _, _, _, isSwitched, ?_, ?_, rfl⟩
    · rfl
    · rfl

theorem exitDatamode_effects (c : CtxId) (host : Host) :
    Effects cfg env (Effect.inSession c) host (exitDatamode cfg env c host) :=
  Composed.single (Performs.leave host c) rfl

theorem advanceQuitStr_effects (executed : advanceQuitStr cfg env c host = some after) :
    Effects cfg env (Effect.inSession c) host after := by
  have counted : Effects cfg env Effect.inDataMode host
      (setQuitStrMatch c ((host.data c).quitStrMatch + 1) host) :=
    setQuitStrMatch_effects c _ host
  unfold advanceQuitStr at executed
  dsimp only at executed
  split at executed
  · obtain ⟨sent, isSent, rfl⟩ := map_eq_some_iff.mp executed
    have flushed : Effects cfg env Effect.inDataMode host sent :=
      counted.trans (rawSend_effects isSent)
    exact (flushed.inSession c).trans ((exitDatamode_effects c sent).trans
      ((setQuitStrMatch_effects c 0 _).inSession c))
  · cases executed
    exact counted.inSession c

variable {byte : Byte}

theorem rawRxHandler_effects (executed : rawRxHandler cfg env c byte host = some after) :
    Effects cfg env (Effect.inSession c) host after := by
  unfold rawRxHandler at executed
  dsimp only at executed
  split at executed
  · split at executed
    · cases executed
    · rename_i written isWritten
      have counted : Effects cfg env Effect.inDataMode host (written.setData c
            { written.data c with dataLen := (written.data c).dataLen - 1 }) :=
        (writeDataBuf_effects isWritten).trans (setData_effects c (by rfl))
      split at executed
      · obtain ⟨sent, isSent, rfl⟩ := map_eq_some_iff.mp executed
        have flushed : Effects cfg env Effect.inDataMode host sent :=
          counted.trans (rawSend_effects isSent)
        exact (flushed.inSession c).trans (exitDatamode_effects c sent)
      · cases executed
        exact counted.inSession c
  · split at executed
    · exact advanceQuitStr_effects executed
    · split at executed
      · split at executed
        · cases executed
        · rename_i written isWritten
          have restarted : Effects cfg env Effect.inDataMode host (setQuitStrMatch c 0 written) :=
            (writeDataBuf_effects isWritten).trans (setQuitStrMatch_effects c 0 written)
          refine (restarted.inSession c).trans ?_
          split at executed
          · exact advanceQuitStr_effects executed
          · exact (writeDataBuf_effects executed).inSession c
      · exact (writeDataBuf_effects executed).inSession c

theorem nullHandler_effects (c : CtxId) (byte : Byte) (host : Host) :
    Effects cfg env (Effect.inSession c) host (nullHandler cfg env c byte host) := by
  unfold nullHandler
  dsimp only
  generalize (if cfg.terminator[(host.data c).nullMatchCount.toNat]? =
    some byte then (host.data c).nullMatchCount + 1 else 0) = matched
  have counted : ∀ {state : Host} {data : DataState}, data.atMode = (state.data c).atMode →
      Effects cfg env (Effect.inSession c) state (state.setData c data) :=
    fun sameMode => (setData_effects c sameMode).inSession c
  split
  · refine Composed.trans (counted ?_) ((exitDatamode_effects c _).trans (counted ?_))
    · rfl
    · rfl
  · apply counted
    rfl

/-! ## Commands -/

/-- What a character of a line does.  A line that ends is followed by a message
for its context. -/
def Wakes (cfg : Config) (env : Environment) (served : Option CtxId)
    (c : CtxId) (before after : Host) : Prop :=
  Effects cfg env Effect.typing before after ∨
    ∃ settled, Effects cfg env (Effect.executing served c) before settled ∧
      Effects cfg env Effect.typing (cmdFinnishOrFail env c settled) after

variable {served : Option CtxId}

namespace Wakes

variable {c : CtxId}

variable {first second third : Host}

theorem typing_left (left : Effects cfg env Effect.typing first second)
    (right : Wakes cfg env served c second third) :
    Wakes cfg env served c first third := by
  rcases right with typing | ⟨settled, executing, rest⟩
  · exact .inl (left.trans typing)
  · exact .inr ⟨settled, left.executing.trans executing, rest⟩

theorem typing_right (left : Wakes cfg env served c first second)
    (right : Effects cfg env Effect.typing second third) :
    Wakes cfg env served c first third := by
  rcases left with typing | ⟨settled, executing, rest⟩
  · exact .inl (typing.trans right)
  · exact .inr ⟨settled, executing, rest.trans right⟩

end Wakes

theorem setCommand_effects (c : CtxId) {command : CommandState}
    (fits : (host.command c).Fits → command.Fits) :
    Effects cfg env Effect.typing host (host.setCommand c command) :=
  Composed.single (Performs.command c fits) trivial

theorem handleEcho_effects (c : CtxId) (byte : Byte) (send : Bool) (host : Host) :
    Effects cfg env Effect.typing host (handleEcho cfg c byte send host) := by
  have counted : Effects cfg env Effect.typing host (host.setCommand c
        { host.command c with echoLen := (host.command c).echoLen + 1 }) :=
    setCommand_effects c fun fits => ⟨fits.size, fits.room, fits.unquoted⟩
  have echoed : ∀ (state : Host) (content : List Byte), Effects cfg env Effect.typing state
        (state.record (.echoed c content)) := by
    intro state content
    apply recorded
    trivial
  unfold handleEcho
  dsimp only
  split
  · split
    · exact counted.trans (echoed _ _)
    · split
      · exact counted.trans (echoed _ _)
      · exact counted
  · exact Composed.refl host

theorem performActions_effects {actions : List CommandAction}
    (issued : IssuedActions env actions) (current : host.currentCtx = served)
    (performed : performActions cfg env actions host = some after) :
    Effects cfg env (Effect.executing served c) host after :=
  Composed.single (Performs.actions issued performed) current

theorem handleBootloaderAtCmd_effects {atCmd : List Byte} (current : host.currentCtx = served)
    (executed : handleBootloaderAtCmd cfg env c atCmd host = some after) :
    Effects cfg env (Effect.executing served c) host after := by
  unfold handleBootloaderAtCmd at executed
  split at executed
  · obtain ⟨performed, actions, rfl⟩ := map_eq_some_iff.mp executed
    refine (performActions_effects (IssuedActions.bootloader _ _ _) current actions).trans ?_
    split
    · exact (rspSend_effects _ performed).typing.executing
    · exact (rspSend_effects _ performed).typing.executing
  · split at executed
    · cases executed
      exact Composed.refl _
    · cases executed
      exact (rspSend_effects _ host).typing.executing

theorem addExecutingLock_effects (c : CtxId) {amount : Int} (unit : amount = 1 ∨ amount = -1)
    (host : Host) :
    Effects cfg env (Effect.executing served c) host (addExecutingLock c amount host) :=
  Composed.single (Performs.lock host unit) rfl

theorem cmdSend_effects {line : List Byte} (current : host.currentCtx = served)
    (executed : cmdSend cfg env c line host = some after) :
    Effects cfg env (Effect.executing served c) host after := by
  have answered : ∀ state : Host,
      Effects cfg env (Effect.executing served c) state (rspSendError cfg state) :=
    fun state => (rspSend_effects .error state).typing.executing
  have released : ∀ state : Host, Effects cfg env (Effect.executing served c) state
      (addExecutingLock c (-1) state) :=
    addExecutingLock_effects c (.inr rfl)
  have called : Effects cfg env (Effect.executing served c) host
      (host.record (.cmdSend c line)) := by
    apply recorded
    trivial
  unfold cmdSend at executed
  dsimp only at executed
  refine called.trans ?_
  split at executed
  · cases executed
    exact answered _
  · split at executed
    · exact handleBootloaderAtCmd_effects current executed
    · obtain ⟨performed, actions, rfl⟩ := map_eq_some_iff.mp executed
      refine (addExecutingLock_effects c (.inl rfl) _).trans
        ((performActions_effects (IssuedActions.atCommand _ _ _) ?_ actions).trans ?_)
      · exact current
      · split
        · exact Composed.refl performed
        · exact released performed
        · exact (answered performed).trans (released _)
        · refine Composed.trans ?_ (released _)
          split
          · apply recorded
            trivial
          · exact Composed.refl performed

/-! ## Receiving a command -/

namespace CommandState.Fits

theorem le_size {command : CommandState} (fits : command.Fits) :
    atBufMinSize ≤ command.atBufSize := by
  obtain ⟨doublings, _, size⟩ := fits.size
  rw [size]
  exact Nat.le_mul_of_pos_right _ (Nat.two_pow_pos doublings)

theorem grown {command : CommandState} (fits : command.Fits)
    (within : command.atBufSize * 2 ≤ atBufMaxSize) :
    Fits { command with atBufSize := command.atBufSize * 2 } := by
  obtain ⟨doublings, bound, size⟩ := fits.size
  refine ⟨⟨doublings + 1, ?_, ?_⟩, ?_, fits.unquoted⟩
  · by_contra large
    have most : doublings = 6 := by omega
    rw [size, most] at within
    exact absurd within (by decide)
  · change command.atBufSize * 2 = atBufMinSize * (Nat.pow 2 doublings * 2)
    rw [← Nat.mul_assoc, ← size]
  · have room := fits.room
    dsimp only
    omega

end CommandState.Fits

theorem finished_wakes {executed : Host}
    (effects : Effects cfg env (Effect.executing served c) host executed) :
    Wakes cfg env served c host (cmdFinnishOrFail env c executed) :=
  .inr ⟨executed, effects, Composed.refl _⟩

theorem cmdRxEnd_wakes {send : Bool} (current : host.currentCtx = served)
    (executed : cmdRxEnd cfg env c byte send host = some after) :
    Wakes cfg env served c host after := by
  have echoed : Effects cfg env Effect.typing host (handleEcho cfg c byte send host) :=
    handleEcho_effects c byte send host
  have stillCurrent : (handleEcho cfg c byte send host).currentCtx =
      served := by
    unfold handleEcho
    dsimp only
    split
    · split
      · exact current
      · split <;> exact current
    · exact current
  unfold cmdRxEnd at executed
  dsimp only at executed
  generalize handleEcho cfg c byte send host = state at echoed stillCurrent executed
  split at executed
  · obtain ⟨finished, ran, rfl⟩ := map_eq_some_iff.mp executed
    apply finished_wakes
    refine echoed.executing.trans ?_
    split at ran
    · cases ran
      exact (rspSend_effects .error state).typing.executing
    · split at ran
      · exact cmdSend_effects stillCurrent ran
      · cases ran
        exact Composed.refl state
  · cases executed
    exact .inl echoed

namespace Host

@[simp]
theorem command_setCommand_self (host : Host) (c : CtxId) (command : CommandState) :
    (host.setCommand c command).command c = command := by
  simp [Host.command, setCommand, setCtx]

theorem setCommand_setCommand (host : Host) (c : CtxId) (first second : CommandState) :
    (host.setCommand c first).setCommand c second = host.setCommand c second := by
  simp [setCommand, setCtx]

theorem setCommand_command (host : Host) (c : CtxId) :
    host.setCommand c (host.command c) = host := by
  simp [setCommand, setCtx, Host.command]

end Host

theorem cmdRxStore_wakes {grown : CommandState} (current : host.currentCtx = served)
    (fits : (host.command c).Fits → grown.Fits ∧ grown.atCmdLen + 3 ≤ grown.atBufSize)
    (passes : grown.atCmdLen = 1 → toupper byte = 84)
    (executed : cmdRxStore cfg env c byte (host.setCommand c grown) = some after) :
    Wakes cfg env served c host after := by
  have ends : ∀ {command : CommandState} {send : Bool}, cmdRxEnd cfg env c byte send
        ((host.setCommand c grown).setCommand c command) = some after →
      (grown.Fits → grown.atCmdLen + 3 ≤ grown.atBufSize → command.Fits) →
      Wakes cfg env served c host after := by
    intro command send ended kept
    rw [Host.setCommand_setCommand] at ended
    exact Wakes.typing_left
      (setCommand_effects c fun before => kept (fits before).1 (fits before).2)
      (cmdRxEnd_wakes current ended)
  unfold cmdRxStore at executed
  rw [Host.command_setCommand_self] at executed
  dsimp only at executed
  split at executed
  · rename_i erases
    refine ends executed fun before room => ⟨before.size, ?_, ?_⟩
    · dsimp only
      omega
    · -- The first character cannot be erased, because it is filtered out.
      intro nothing
      have single : grown.atCmdLen = 1 := by
        have some := erases.2
        dsimp only at nothing
        omega
      have isT := passes single
      rcases erases.1 with rfl | rfl <;> exact absurd isT (by decide)
  · split at executed
    · rename_i ended
      refine ends executed fun before room => ⟨before.size, ?_, fun _ => ?_⟩
      · dsimp only
        split <;> omega
      · have outside := (Bool.and_eq_true_iff.mp ended).1
        simpa using outside
    · refine ends executed fun before room => ⟨before.size, ?_, ?_⟩
      · dsimp only
        omega
      · intro nothing
        exact absurd nothing (Nat.succ_ne_zero _)

theorem cmdRxHandler_wakes (current : host.currentCtx = served)
    (executed : cmdRxHandler cfg env c byte host = some after) :
    Wakes cfg env served c host after := by
  have timed : Effects cfg env Effect.typing host (checkIdleTimer c true host) := by
    rw [checkIdleTimer, if_pos (by simp)]
    exact Composed.single (Performs.idleTimer host c true) rfl
  have stillCurrent : (checkIdleTimer c true host).currentCtx = served := by
    rw [checkIdleTimer, if_pos (by simp)]
    exact current
  refine Wakes.typing_left timed ?_
  unfold cmdRxHandler at executed
  dsimp only at executed
  generalize checkIdleTimer c true host = state at stillCurrent executed
  split at executed
  · refine Wakes.typing_left (setCommand_effects c ?_) (cmdRxEnd_wakes stillCurrent executed)
    intro fits
    have large := fits.le_size
    have small : 2 ≤ atBufMinSize := by decide
    exact ⟨fits.size, by dsimp only; omega, fun _ => rfl⟩
  · rename_i passed
    have passes : (state.command c).atCmdLen = 1 → toupper byte = 84 := by
      intro single
      by_contra other
      exact passed (.inr ⟨single, other⟩)
    split at executed
    · split at executed
      · cases executed
        exact finished_wakes (rspSend_effects .error state).typing.executing
      · rename_i grows
        refine cmdRxStore_wakes stillCurrent (fun fits => ?_) (by exact passes) executed
        have within : (state.command c).atBufSize * 2 ≤ atBufMaxSize :=
          Nat.le_of_not_gt fun large => grows (.inl large)
        refine ⟨fits.grown within, ?_⟩
        have large := fits.le_size
        have enough := fits.room
        have small : 2 ≤ atBufMinSize := by decide
        dsimp only
        omega
    · rename_i free
      rw [← Host.setCommand_command state c] at executed
      exact cmdRxStore_wakes stillCurrent (fun fits => ⟨fits, by omega⟩) passes executed

/-- What a received byte does, by the mode in which it finds its context; a
byte without a live context is dropped. -/
theorem smAtReceive_effects (executed : smAtReceive cfg env c byte host = some after) :
    ((host.data c).atMode ≠ .atCommandMode ∧ Effects cfg env (Effect.inSession c) host after) ∨
    ((host.data c).atMode = .atCommandMode ∧ Wakes cfg env host.currentCtx c host after) ∨
    (c ∉ host.instanceList ∧ Effects cfg env Effect.typing host after) := by
  obtain ⟨handled, handling, rfl⟩ := map_eq_some_iff.mp executed
  have stopped : ∀ {allowed : Effect → Prop},
      allowed .inactivityTimer → (∀ event, Plain event → allowed (.record event)) →
      Effects cfg env allowed host (takeByte c byte host) := by
    intro allowed timer plain
    refine Composed.trans (Composed.single (Performs.inactivityTimer host c false) timer)
      (recorded (plain _ ?_) _)
    trivial
  have started : ∀ {allowed : Effect → Prop}, allowed .inactivityTimer →
      Effects cfg env allowed handled (startInactivityTimer c handled) := by
    intro allowed timer
    unfold startInactivityTimer
    split
    · exact Composed.single (Performs.inactivityTimer handled c true) timer
    · exact Composed.refl handled
  have sameData : (takeByte c byte host).data c = host.data c := by
    apply Host.data_setCtx_of_eq host
    rfl
  have sameCheck : smAtCtxCheck c (takeByte c byte host) = smAtCtxCheck c host := rfl
  unfold handleByte getSmMode at handling
  rw [sameData, sameCheck] at handling
  by_cases live : smAtCtxCheck c host = true
  · rw [if_pos live] at handling
    cases mode : (host.data c).atMode with
    | atCommandMode =>
      rw [mode] at handling
      refine .inr (.inl ⟨rfl, Wakes.typing_left (stopped trivial fun _ plain => plain)
        (Wakes.typing_right ?_ (started trivial))⟩)
      exact cmdRxHandler_wakes rfl handling
    | dataMode =>
      rw [mode] at handling
      refine .inl ⟨by simp, (stopped trivial fun _ plain => plain).trans
        (Composed.trans ?_ (started trivial))⟩
      exact rawRxHandler_effects handling
    | nullMode =>
      rw [mode] at handling
      cases handling
      refine .inl ⟨by simp, (stopped trivial fun _ plain => plain).trans
        (Composed.trans ?_ (started trivial))⟩
      exact nullHandler_effects c byte _
  · rw [if_neg live] at handling
    cases handling
    refine .inr (.inr ⟨?_, (stopped trivial fun _ plain => plain).trans (started trivial)⟩)
    simpa [smAtCtxCheck] using live

/-! ## Command buffers -/

def SameCommands (before after : Host) : Prop :=
  ∀ d, after.command d = before.command d

namespace SameCommands

theorem refl (host : Host) : SameCommands host host :=
  fun _ => rfl

theorem trans {first second third : Host}
    (left : SameCommands first second) (right : SameCommands second third) :
    SameCommands first third :=
  fun d => (right d).trans (left d)

theorem of_ctx {before after : Host} (same : after.ctx = before.ctx) : SameCommands before after :=
  fun d => by rw [Host.command, Host.command, same]

theorem setCtx (host : Host) {c : CtxId} {ctx : Ctx} (same : ctx.command = host.command c) :
    SameCommands host (host.setCtx c ctx) := by
  intro d
  by_cases equal : d = c
  · subst equal
    simpa [Host.command, Host.setCtx] using same
  · simp [Host.command, Host.setCtx, Function.update_of_ne equal]

theorem submitWork (work : Work) (host : Host) : SameCommands host (submitWork work host) := by
  unfold AtHost.submitWork
  split
  · exact refl host
  · exact of_ctx rfl

theorem sendMsg (message : Message) (host : Host) : SameCommands host (sendMsg message host) :=
  submitWork .atHost _

theorem checkIdleTimer (c : CtxId) (reschedule : Bool) (host : Host) :
    SameCommands host (checkIdleTimer c reschedule host) := by
  unfold AtHost.checkIdleTimer
  split
  · exact setCtx host rfl
  · exact refl host

theorem flushPipeUrcs (c : CtxId) (host : Host) : SameCommands host (flushPipeUrcs cfg c host) := by
  rw [flushPipeUrcs_eq]
  exact setCtx host rfl

theorem flushIfIdle (c : CtxId) (host : Host) : SameCommands host (flushIfIdle cfg c host) := by
  unfold AtHost.flushIfIdle
  split
  · exact flushPipeUrcs c host
  · exact refl host

theorem rspSend (response : Response) (host : Host) :
    SameCommands host (rspSend cfg response host) := by
  unfold AtHost.rspSend
  split
  · split
    · exact flushIfIdle _ host
    · exact refl host
  · exact refl host

theorem notifyUrc (c : CtxId) (host : Host) : SameCommands host (notifyUrc c host) := by
  unfold AtHost.notifyUrc
  split
  · exact sendMsg _ host
  · exact checkIdleTimer c false host

theorem urcSend (content : List Byte) (host : Host) :
    SameCommands host (urcSend cfg content host) := by
  unfold AtHost.urcSend
  split
  · exact of_ctx rfl
  · split
    · exact notifyUrc _ { host with urcBuf := host.urcBuf ++ rspBuf content }
    · exact of_ctx rfl

theorem addExecutingLock (c : CtxId) (amount : Int) (host : Host) :
    SameCommands host (addExecutingLock c amount host) :=
  setCtx host rfl

theorem sendTo (pipe : Option PipeId) (event : CtxId → Event) (host : Host) :
    SameCommands host (sendTo cfg pipe event host) := by
  unfold AtHost.sendTo
  split
  · exact refl host
  · exact flushIfIdle _ host

theorem performCall (call : HostCall) (host : Host) :
    SameCommands host (performCall cfg call host) := by
  cases call with
  | rspSend response => exact rspSend response host
  | urcSend content => exact urcSend content host
  | urcSendTo pipe content =>
    simp only [AtHost.performCall]
    unfold urcSendTo
    split
    · exact urcSend content host
    · refine SameCommands.trans ?_ (notifyUrc _ _)
      exact setCtx host rfl
  | rspSendTo pipe response =>
    exact sendTo pipe (fun c => .rspSendTo c response.truncated) host
  | dataSend pipe content =>
    exact sendTo pipe (fun c => .dataSend c content) host
  | lockCtx c =>
    simp only [AtHost.performCall]
    unfold smAtHostLockCtx
    split
    · exact (flushIfIdle c host).trans (addExecutingLock c 1 _)
    · exact refl host
  | cmdDone c =>
    simp only [AtHost.performCall]
    unfold smAtHostCmdDone
    split
    · dsimp only
      split
      · exact (addExecutingLock c (-1) host).trans ((sendMsg _ _).trans (submitWork _ _))
      · exact addExecutingLock c (-1) host
    · exact refl host

theorem performCalls (calls : List HostCall) (host : Host) :
    SameCommands host (performCalls cfg calls host) := by
  induction calls generalizing host with
  | nil => exact refl host
  | cons call rest ih =>
    exact (performCall call host).trans (ih (AtHost.performCall cfg call host))

theorem setData (c : CtxId) (data : DataState) (host : Host) :
    SameCommands host (host.setData c data) :=
  setCtx host rfl

theorem setSmMode {c : CtxId} {mode : OperationMode} {host after : Host}
    (switched : setSmMode cfg env c mode host = some after) :
    SameCommands host after := by
  obtain ⟨data, rfl, _⟩ := setSmMode_cases switched
  exact setData c data host

end SameCommands

def AllFit (host : Host) : Prop :=
  ∀ c, (host.command c).Fits

theorem AllFit.of_same (fit : AllFit before) (same : SameCommands before after) : AllFit after :=
  fun c => by rw [same c]; exact fit c

theorem AllFit.setCommand (fit : AllFit host) {command : CommandState}
    (fits : command.Fits) : AllFit (host.setCommand c command) := by
  intro d
  by_cases equal : d = c
  · subst equal
    rwa [Host.command_setCommand_self]
  · simpa [Host.command, Host.setCommand, Host.setCtx, Function.update_of_ne equal] using fit d

theorem performActions_allFit (actions : List CommandAction) :
    ∀ {host after : Host}, performActions cfg env actions host = some after →
      AllFit host → AllFit after := by
  induction actions with
  | nil =>
    intro host after performed fit
    cases performed
    exact fit
  | cons action rest ih =>
    intro host after performed fit
    obtain ⟨middle, first, remaining⟩ := bind_eq_some_iff.mp performed
    refine ih remaining ?_
    cases action with
    | call hostCall =>
      cases first
      exact fit.of_same (SameCommands.performCall hostCall host)
    | enterDatamode handler dataLen =>
      obtain ⟨⟨entered, opened⟩, executed, rfl⟩ :=
        map_eq_some_iff.mp first
      rcases enterDatamode_cases executed with rfl | ⟨c, data, _, _, _, rfl⟩
      · exact fit
      · exact fit.of_same (SameCommands.setData c data host)
    | echo enable =>
      obtain ⟨c, _, rfl⟩ := map_eq_some_iff.mp first
      refine AllFit.of_same ?_ (SameCommands.setCtx _ rfl)
      exact fit.setCommand ⟨(fit c).size, (fit c).room, (fit c).unquoted⟩
    | datactrl timeLimit =>
      obtain ⟨c, _, rfl⟩ := map_eq_some_iff.mp first
      dsimp only
      split
      · exact fit
      · exact fit.of_same (SameCommands.setData _ _ _)

theorem SameCommands.callHandlerExit (c : CtxId) (flags : Flags) (host : Host) :
    SameCommands host (callHandlerExit cfg env c flags host) := by
  unfold AtHost.callHandlerExit
  split
  · exact SameCommands.refl host
  · exact SameCommands.performCalls _ _

theorem SameCommands.exitDatamode (c : CtxId) (host : Host) :
    SameCommands host (exitDatamode cfg env c host) := by
  rcases exitDatamode_cases c host with
    same | ⟨switched, cleared, finished, response, isSwitched, _, _, parts⟩
  · rw [same]
    exact SameCommands.refl host
  · rw [parts]
    have exited : SameCommands switched (AtHost.callHandlerExit cfg env c Flags.none switched) :=
      SameCommands.callHandlerExit c Flags.none switched
    refine (SameCommands.setSmMode isSwitched).trans (exited.trans ?_)
    generalize AtHost.callHandlerExit cfg env c Flags.none switched = state
    have answered : SameCommands (state.setData c cleared)
        (AtHost.rspSend cfg response (state.setData c cleared)) :=
      SameCommands.rspSend response _
    refine (SameCommands.setData c cleared state).trans (answered.trans
      ((SameCommands.setData c finished _).trans ?_))
    exact SameCommands.sendMsg _ _

theorem Performs.allFit {effect : Effect}
    (performed : Performs cfg env effect before after) (fit : AllFit before) : AllFit after := by
  cases performed with
  | data c _ => exact fit.of_same (SameCommands.setData c _ before)
  | toNullMode c switched =>
    exact fit.of_same (SameCommands.setSmMode switched)
  | leave => exact fit.of_same (SameCommands.exitDatamode _ before)
  | record event | current current => exact fit
  | calls issued => exact fit.of_same (SameCommands.performCalls _ before)
  | actions issued performed => exact performActions_allFit _ performed fit
  | command c fits => exact fit.setCommand (fits (fit c))
  | idleTimer c active => exact fit.of_same (SameCommands.setCtx before rfl)
  | inactivityTimer c active =>
    exact fit.of_same (SameCommands.setCtx before rfl)
  | lock unit =>
    exact fit.of_same (SameCommands.addExecutingLock _ _ before)

theorem Effects.allFit (effects : Effects cfg env allowed before after) (fit : AllFit before) :
    AllFit after :=
  effects.preserves (fun _ performed => performed.allFit) fit

theorem AllFit.cmdFinnishOrFail (fit : AllFit host) (c : CtxId) :
    AllFit (cmdFinnishOrFail env c host) := by
  have large := (fit c).le_size
  have small : 2 ≤ atBufMinSize := by decide
  unfold AtHost.cmdFinnishOrFail
  dsimp only
  refine AllFit.of_same ?_ (SameCommands.sendMsg _ _)
  refine AllFit.of_same (fit.setCommand ?_) (SameCommands.setCtx _ (by rfl))
  refine ⟨?_, ?_, fun _ => rfl⟩
  · dsimp only
    split
    · exact ⟨0, by omega, by simp⟩
    · exact (fit c).size
  · dsimp only
    split
    · omega
    · omega

theorem Wakes.allFit (wakes : Wakes cfg env served c before after) (fit : AllFit before) :
    AllFit after := by
  rcases wakes with typing | ⟨settled, executing, rest⟩
  · exact typing.allFit fit
  · exact rest.allFit ((executing.allFit fit).cmdFinnishOrFail c)

theorem smAtReceive_allFit (executed : smAtReceive cfg env c byte host = some after)
    (fit : AllFit host) : AllFit after := by
  rcases smAtReceive_effects executed with
    ⟨_, effects⟩ | ⟨_, wakes⟩ | ⟨_, effects⟩
  · exact effects.allFit fit
  · exact wakes.allFit fit
  · exact effects.allFit fit

end SerialModem.AtHost
