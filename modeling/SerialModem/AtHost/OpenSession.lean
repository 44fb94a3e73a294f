import SerialModem.AtHost.Steps

/-!
# Opening a session

Under every build configuration an AT command can bring a context into data
mode.  The environments here differ in what the data-mode handler answers; they
are the ones in which the limits of the AT host show.
-/

namespace SerialModem.AtHost

open Library Function

def defaultConfig (terminator : List Byte) (nonempty : terminator ≠ []) : Config where
  terminator := terminator
  terminator_ne := nonempty
  datamodeBufSize := 4096
  datamodeBufSize_range := by decide
  cmuxChannelCount := 4
  urcBufferSize := 4096
  uartRxBufSize := 256
  termination := .cr
  atEchoMaxLen := 4096
  responseBufSize := 4097

def plusConfig : Config := defaultConfig [43, 43, 43] (by decide)

abbrev SendBehaviour := (history : History) → (content : List Byte) → SendReply content.length

/-- Every command enters data mode with the given length. -/
def sessionEnv (dataLen : UInt32) (send : SendBehaviour) : Environment where
  handlerSend history _ _ content _ := send history content
  handlerExit _ _ _ _ := []
  atCommand _ _ _ := ⟨[.enterDatamode 0 dataLen], .silentRet⟩
  bootloaderCommand _ _ _ := ([], true)
  alloc _ _ _ := true

def consumeAll : SendBehaviour := fun _ content =>
  { result := content.length, result_le := Int.le_refl _ }

theorem consumeAll_consuming (dataLen : UInt32) (c : CtxId) :
    Consuming (sessionEnv dataLen consumeAll) c where
  stays _ _ _ _ := rfl
  consumes _ _ content _ nonempty := by
    left
    have positive := List.length_pos_iff.mpr nonempty
    simp only [sessionEnv, consumeAll]
    omega

def refuseAll : SendBehaviour := fun _ content =>
  { result := -1, result_le := by omega }

def freshHost (contexts : List CtxId) : Host where
  ctx c := Ctx.init (some c)
  instanceList := contexts
  currentCtx := none
  cmuxStarted := false
  cmuxDlci _ := none
  urcChannel := 0
  urcBuf := []
  msgq := []
  msgqLog := []
  uartBaudrate := 0
  bootloaderMode := false
  pipeRx _ := []
  pipeOpen _ := true
  workQueue := []
  running := .idle
  history := []

theorem freshHost_initial (contexts : List CtxId) : Initial (freshHost contexts) where
  ctx c := ⟨some c, rfl⟩
  current := rfl
  workQueue := rfl
  running := rfl
  history := rfl

/-- The actions that receive the command line `AT`, ended by CR, on a context
that waits for it. -/
def openingActions (c : CtxId) : List Action :=
  [.pipeReceive c [65, 84, 13], .dispatch, .receiveByte, .receiveByte, .receiveByte]

theorem exists_run_if {result : Type} (cfg : Config) (env : Environment)
    (allowed : Host → Action → Prop) (check : Host → Action → Bool)
    (contexts : List CtxId) (actions : List Action)
    (permitted : ∀ host action, action ∈ actions → check host action = true → allowed host action)
    (look : Host → result) (value : result)
    (evaluated : (runChecked (step cfg env) check actions (freshHost contexts)).map look =
      some value) :
    ∃ host, ReachableIf cfg env allowed host ∧ look host = value :=
  exists_reachable (freshHost_initial contexts) permitted evaluated

theorem exists_run {result : Type} (cfg : Config) (env : Environment) (contexts : List CtxId)
    (actions : List Action) (look : Host → result) (value : result)
    (evaluated : (runActions (step cfg env) actions (freshHost contexts)).map look = some value) :
    ∃ host, ReachableState cfg env host ∧ look host = value := by
  obtain ⟨host, ran, same⟩ := Option.map_eq_some_iff.mp evaluated
  exact ⟨host, reachable_of_run actions (freshHost_initial contexts) ran, same⟩

/-- A receive item in the middle of the command line `AT`. -/
def typingHost (typed waiting : List Byte) (history : History) : Host :=
  { freshHost [0] with
    ctx := update (freshHost [0]).ctx 0
      { Ctx.init (some 0) with
        idleTimer := typed ≠ []
        command :=
          { (Ctx.init (some 0)).command with
            atBuf := typed
            atCmdLen := typed.length
            prevCharacter := typed.getLastD 0 } }
    pipeRx := update (freshHost [0]).pipeRx 0 waiting
    currentCtx := some 0
    running := .rx 0 0
    history := history }

def openedData (cfg : Config) (dataLen : UInt32) : DataState where
  atMode := .dataMode
  handler := some 0
  handlerResult := 0
  timeLimit := 1000
  dataLen := dataLen
  dataRb := RingBuffer.init cfg.datamodeBufSize
  quitStrMatch := 0
  nullDroppedCount := 0
  nullMatchCount := 0

/-- The characters that end a line, the last one apart. -/
def lineEnd : Termination → List Byte × Byte
  | .cr => ([], 13)
  | .lf => ([], 10)
  | .crLf => ([13], 10)

section Opening

variable (cfg : Config) (dataLen : UInt32) (send : SendBehaviour)

theorem start_typing (content : List Byte) : ∃ offered,
      step cfg (sessionEnv dataLen send) (.pipeReceive 0 content) (freshHost [0]) = some offered ∧
      (∀ c, offered.data c = (freshHost [0]).data c) ∧
      step cfg (sessionEnv dataLen send) .dispatch offered = some (typingHost [] content []) := by
  refine ⟨submitWork (.rx 0) (setPipeRx 0 content (freshHost [0])), ?_, ?_, ?_⟩
  · simp [step, freshHost, smAtCtxCheck, Ctx.init]
  · intro c
    rfl
  · simp [step, typingHost, freshHost, setPipeRx, smAtCtxCheck, Ctx.init,
      submitWork, enterWork, enterRxWork, Host.setCurrentCtx]

theorem typingHost_atMode (typed waiting : List Byte) (history : History) (c : CtxId) :
    ((typingHost typed waiting history).data c).atMode = .atCommandMode := by
  by_cases zero : c = 0
  · subst zero
    rfl
  · simp [typingHost, freshHost, Host.data, update_of_ne zero, Ctx.init]

theorem receive_typing (env : Environment) (typed waiting : List Byte) (byte : Byte)
    (history : History) :
    step cfg env .receiveByte (typingHost typed (byte :: waiting) history) =
      (cmdRxHandler cfg env 0 byte (typingHost typed waiting (history ++ [.received 0 byte]))).map
        fun handled =>
          continueRxWork 0 0 (startInactivityTimer 0 handled) := by
  simp [step, typingHost, smAtReceive, handleByte, takeByte, setPipeRx,
    setInactivityTimer, freshHost, Host.setCtx, Host.record, getSmMode,
    smAtCtxCheck, Host.data, Ctx.init]
  rfl

theorem type_character {typed waiting : List Byte} {byte : Byte} {history : History}
    (next : (typed = [] ∧ byte = 65) ∨ (typed = [65] ∧ byte = 84) ∨
      (typed = [65, 84] ∧ byte = 13 ∧ cfg.termination = .crLf)) :
    step cfg (sessionEnv dataLen send) .receiveByte (typingHost typed (byte :: waiting) history) =
      some (typingHost (typed ++ [byte]) waiting (history ++ [.received 0 byte])) := by
  rw [receive_typing]
  generalize termination : cfg.termination = kind at next
  -- The third case has its termination already.
  rcases next with ⟨rfl, rfl⟩ | ⟨rfl, rfl⟩ | ⟨rfl, rfl, rfl⟩ <;> try cases kind
  all_goals
    simp [typingHost, freshHost, cmdRxHandler, checkIdleTimer, cmdRxStore,
      isTermination, termination, cmdRxEnd, handleEcho, Host.command,
      Host.setCommand, Host.setCtx, startInactivityTimer, getSmMode,
      smAtCtxCheck, Host.data, continueRxWork, Ctx.init, toupper,
      atBufMinSize]

theorem end_line (history : History) : ∃ host, step cfg (sessionEnv dataLen send) .receiveByte
        (typingHost ([65, 84] ++ (lineEnd cfg.termination).1)
          [(lineEnd cfg.termination).2] history) = some host ∧
      host.running = .rx 0 0 ∧ host.pipeRx 0 = [] ∧
      host.currentCtx = some 0 ∧
      host.data 0 = openedData cfg dataLen ∧
      session 0 host.history = ⟨dataLen, [], [], none⟩ ∧
      ∀ work, work ∈ host.workQueue → NotFlush work := by
  rw [receive_typing]
  cases termination : cfg.termination <;>
    simp [typingHost, freshHost, cmdRxHandler, checkIdleTimer, cmdRxStore,
      isTermination, termination, lineEnd, cmdRxEnd, handleEcho, Host.command,
      Host.setCommand, Host.setCtx, startInactivityTimer, getSmMode,
      smAtCtxCheck, Host.data, continueRxWork, Ctx.init, toupper,
      atBufMinSize, cmdSend, skipToAt, cmdGrammarCheck, charAt,
      addExecutingLock, sessionEnv, performActions, performAction,
      enterDatamode, smAtHostGetCurrent, setSmMode, Host.setData,
      getMinDataModeIdleTimeoutMs, cmdFinnishOrFail, smAtHostEventNotify,
      sendMsg, msgqCapacity, submitWork, openedData, Host.record, session,
      Session.next, RingBuffer.reset, setInactivityTimer, NotFlush]

/-- Under every configuration a session can be opened, with any length and any
handler, by steps that are all taken in AT-command mode. -/
theorem open_session (allowed : Host → Action → Prop) (permitted : ∀ state action,
      (∀ c, (state.data c).atMode = .atCommandMode) → allowed state action) :
    ∃ host, ReachableIf cfg (sessionEnv dataLen send) allowed host ∧
      host.running = .rx 0 0 ∧ host.pipeRx 0 = [] ∧
      host.currentCtx = some 0 ∧
      host.data 0 = openedData cfg dataLen ∧
      session 0 host.history = ⟨dataLen, [], [], none⟩ ∧
      ∀ work, work ∈ host.workQueue → NotFlush work := by
  have typing : ∀ {typed waiting : List Byte} {byte : Byte} {history : History},
      (typed = [] ∧ byte = 65) ∨ (typed = [65] ∧ byte = 84) ∨
        (typed = [65, 84] ∧ byte = 13 ∧ cfg.termination = .crLf) →
      ReachableIf cfg (sessionEnv dataLen send) allowed
        (typingHost typed (byte :: waiting) history) →
      ReachableIf cfg (sessionEnv dataLen send) allowed
        (typingHost (typed ++ [byte]) waiting (history ++ [.received 0 byte])) :=
    fun next reachable => reachable.next .receiveByte (permitted _ _ (typingHost_atMode _ _ _))
      (type_character cfg dataLen send next)
  have started : ∀ content : List Byte, ReachableIf cfg (sessionEnv dataLen send) allowed
        (typingHost [] content []) := by
    intro content
    obtain ⟨offered, arrived, data, dispatched⟩ :=
      start_typing cfg dataLen send content
    have first := (Reachable.start (freshHost_initial [0])).next _
      (permitted _ _ fun _ => rfl) arrived
    exact first.next _ (permitted _ _ fun c => by rw [data c]; rfl) dispatched
  have prompted : ∀ waiting : List Byte, ReachableIf cfg (sessionEnv dataLen send) allowed
        (typingHost [65, 84] waiting [.received 0 65, .received 0 84]) :=
    fun waiting => typing (.inr (.inl ⟨rfl, rfl⟩))
      (typing (.inl ⟨rfl, rfl⟩) (started (65 :: 84 :: waiting)))
  have typed : ∃ history, ReachableIf cfg (sessionEnv dataLen send) allowed
      (typingHost ([65, 84] ++ (lineEnd cfg.termination).1)
        [(lineEnd cfg.termination).2] history) := by
    cases termination : cfg.termination with
    | crLf => exact ⟨_, typing (.inr (.inr ⟨rfl, rfl, termination⟩)) (prompted [13, 10])⟩
    | _ => exact ⟨_, prompted _⟩
  obtain ⟨history, reachable⟩ := typed
  obtain ⟨host, ran, opened⟩ := end_line cfg dataLen send history
  exact ⟨host, reachable.next _ (permitted _ _ (typingHost_atMode _ _ _)) ran, opened⟩

end Opening

theorem offer_byte {cfg : Config} {env : Environment} {host : Host} {c : CtxId}
    {pipe : PipeId} (reachable : ReachableState cfg env host)
    (running : host.running = .rx c pipe) (drained : host.pipeRx pipe = [])
    (byte : Byte) :
    ∃ offered, ReachableState cfg env offered ∧
      offered.running = .rx c pipe ∧ offered.pipeRx pipe = [byte] ∧
      offered.currentCtx = host.currentCtx ∧
      offered.history = host.history ∧
      (∀ d, offered.data d = host.data d) ∧
      ((∀ work, work ∈ host.workQueue → NotFlush work) →
        ∀ work, work ∈ offered.workQueue → NotFlush work) := by
  obtain ⟨live, isPipe⟩ := reachable_rx reachable _ _ running
  have found : smAtCtxCheck c host = true := by
    simpa [smAtCtxCheck] using live
  let offered := submitWork (.rx c) (setPipeRx pipe (host.pipeRx pipe ++ [byte]) host)
  have taken : step cfg env (.pipeReceive c [byte]) host = some offered := by
    simp [step, found, isPipe, offered]
  have submitted : Frame (setPipeRx pipe (host.pipeRx pipe ++ [byte]) host)
      offered := Frame.submitWork _ trivial
  refine ⟨offered, reachable.next _ trivial taken, ?_, ?_, ?_, ?_, ?_, ?_⟩
  · rw [submitted.running]
    exact running
  · rw [submitted.pipeRx]
    simp [setPipeRx, drained]
  · simp only [offered, submitWork]
    split <;> rfl
  · simp only [offered, submitWork]
    split <;> rfl
  · intro d
    simp only [offered, submitWork]
    split <;> rfl
  · intro unflushed
    exact submitted.notFlush unflushed

end SerialModem.AtHost
