import SerialModem.AtHost.MachineSteps

/-!
# The time limit of data mode

The time limit of a context is meant to cover the reception of one buffer of the
UART.  It is computed from `sm_uart_baudrate`, which `sm_uart_handler_enable` stores
once, while `AT+IPR` reconfigures the UART itself.  What reconfigures the UART, sets
a limit, enters or leaves data mode or makes a context new is a step here.
-/

namespace SerialModem.AtHost

open Library Option

structure RateSystem where
  machine : Machine
  baudrate : UInt32

/-- The steps of `handle_at_ipr` that can fail. -/
inductive IprFailure where
  | uartConfigGet
  | modemPipeClose
  | uartConfigure
  | modemPipeOpen
  deriving DecidableEq

/-- What the set command of `handle_at_ipr` returns. -/
inductive IprResult where
  /-- `-SILENT_AT_COMMAND_RET`. -/
  | silent
  /-- `-EBUSY`. -/
  | busy
  /-- `-EINVAL`. -/
  | invalid
  | failed (failure : IprFailure)
  deriving DecidableEq

/-- The baud rates that `handle_at_ipr` supports. -/
def supportedBaudrates : List UInt32 :=
  [115200, 230400, 460800, 921600, 1000000]

namespace RateSystem

def host (system : RateSystem) : Host :=
  system.machine.host

def setHost (system : RateSystem) (host : Host) : RateSystem :=
  { system with machine := system.machine.setHost host }

end RateSystem

variable (cfg : Config) (env : Environment)

def handleAtIpr (baudrate : UInt32) (failure : Option IprFailure)
    (system : RateSystem) : IprResult × RateSystem :=
  if failure = some .uartConfigGet then
    (.failed .uartConfigGet, system)
  else if system.host.cmuxStarted then
    (.busy, system)
  else if baudrate ∉ supportedBaudrates then
    (.invalid, system)
  else
    let answered := system.setHost (rspSend cfg .ok system.host)
    if failure = some .modemPipeClose then
      (.failed .modemPipeClose, answered)
    else if failure = some .uartConfigure then
      (.failed .uartConfigure, answered)
    else
      let configured := { answered with baudrate := baudrate }
      if failure = some .modemPipeOpen then
        (.failed .modemPipeOpen, configured)
      else
        (.silent, configured)

inductive RateAction where
  /-- `sm_at_host_set_current_ctx`. -/
  | serve (ctx : Option CtxId)
  | ipr (baudrate : UInt32) (failure : Option IprFailure)
  /-- What another command does, `AT#XDATACTRL` and `enter_datamode` among it. -/
  | command (action : CommandAction)
  | exitDatamode (ctx : CtxId)
  | exitDatamodeHandler (ctx : CtxId) (result : Int)
  | create (allocated : Option CtxId) (pipe : PipeId)
  | destroy (ctx : CtxId)
  deriving DecidableEq

def rateStep (action : RateAction) (system : RateSystem) : Option RateSystem :=
  match action with
  | .serve ctx => some (system.setHost (system.host.setCurrentCtx ctx))
  | .ipr baudrate failure => some (handleAtIpr cfg baudrate failure system).2
  | .command action => (performAction cfg env action system.host).map system.setHost
  | .exitDatamode c =>
    some (system.setHost (exitDatamode cfg env c system.host))
  | .exitDatamodeHandler c result =>
    some (system.setHost (exitDatamodeHandler cfg env c result system.host))
  | .create allocated pipe =>
    if allocated.all fun c => !smAtCtxCheck c system.host then
      some { system with
        machine := smAtHostCreate cfg allocated pipe system.machine }
    else
      none
  | .destroy c => some (system.setHost (smAtHostDestroy c system.host))

/-- The state after start, with the UART at a baud rate that
`sm_uart_handler_enable` has stored. -/
structure StartedAt (baudrate : UInt32) (system : RateSystem) : Prop where
  fresh : ∀ c, ∃ pipe, system.host.ctx c = Ctx.init pipe
  stored : system.host.uartBaudrate = baudrate
  configured : system.baudrate = baudrate

def IprWithin (allowed : UInt32 → Prop) (_ : RateSystem) (action : RateAction) :
    Prop :=
  ∀ baudrate failure, action = .ipr baudrate failure → allowed baudrate

abbrev RateReachable (initial : UInt32) (allowed : UInt32 → Prop) : RateSystem → Prop :=
  Reachable (rateStep cfg env) (IprWithin allowed) (StartedAt initial)

/-- The time that a full buffer takes at the rate, and the margin. -/
def minTimeLimit (baudrate : UInt32) : Nat :=
  cfg.uartRxBufSize.toNat * 10 * 1000 / baudrate.toNat + uartRxMarginMs.toNat

/-- A context in data mode waits long enough for one buffer at the rate of the UART. -/
def RateSystem.Covers (system : RateSystem) : Prop :=
  ∀ c, c ∈ system.host.instanceList → (system.host.data c).atMode = .dataMode →
      minTimeLimit cfg system.baudrate ≤ (system.host.data c).timeLimit.toNat

variable {cfg env} {initial : UInt32} {allowed : UInt32 → Prop}
  {host : Host} {system after : RateSystem}

theorem pos_of_supported {baudrate : UInt32}
    (supported : baudrate ∈ supportedBaudrates) : 0 < baudrate.toNat := by
  have all : supportedBaudrates.all (fun rate => decide (0 < rate.toNat)) := by decide
  exact of_decide_eq_true (List.all_eq_true.mp all baudrate supported)

theorem getMinDataModeIdleTimeoutMs_toNat (stored : host.uartBaudrate = initial)
    (positive : 0 < initial.toNat) :
    (getMinDataModeIdleTimeoutMs cfg host).toNat =
      (cfg.uartRxBufSize.toNat * 10 * 1000 % 0x100000000 / initial.toNat %
        0x10000 + 10) % 0x10000 := by
  have notZero : initial ≠ 0 := by
    rintro rfl
    cases positive
  rw [getMinDataModeIdleTimeoutMs, stored, if_neg notZero, uartRxMarginMs]
  simp only [UInt16.toNat_add, UInt32.toNat_toUInt16, UInt32.toNat_div,
    UInt32.toNat_mul, UInt32.toNat_add, UInt32.toNat_ofNat, UInt16.toNat_ofNat,
    Nat.reducePow, Nat.reduceMod, Nat.reduceAdd, Nat.mod_mul_mod]

theorem getMinDataModeIdleTimeoutMs_congr {other : Host}
    (same : host.uartBaudrate = other.uartBaudrate) :
    getMinDataModeIdleTimeoutMs cfg host = getMinDataModeIdleTimeoutMs cfg other := by
  rw [getMinDataModeIdleTimeoutMs, getMinDataModeIdleTimeoutMs, same]

theorem getMinDataModeIdleTimeoutMs_eq (stored : host.uartBaudrate = initial)
    (positive : 0 < initial.toNat)
    (fits : minTimeLimit cfg initial < 0x10000)
    (noWrap : cfg.uartRxBufSize.toNat * 10 * 1000 < 0x100000000) :
    (getMinDataModeIdleTimeoutMs cfg host).toNat = minTimeLimit cfg initial := by
  have isMargin : uartRxMarginMs.toNat = 10 := rfl
  rw [minTimeLimit, isMargin] at fits ⊢
  have small := Nat.lt_of_le_of_lt (Nat.le_add_right _ 10) fits
  rw [getMinDataModeIdleTimeoutMs_toNat stored positive,
    Nat.mod_eq_of_lt noWrap, Nat.mod_eq_of_lt small, Nat.mod_eq_of_lt fits]

theorem getMinDataModeIdleTimeoutMs_lt (stored : host.uartBaudrate = initial)
    (positive : 0 < initial.toNat)
    (wraps : 0x100000000 ≤ cfg.uartRxBufSize.toNat * 10 * 1000) :
    (getMinDataModeIdleTimeoutMs cfg host).toNat < minTimeLimit cfg initial := by
  have isMargin : uartRxMarginMs.toNat = 10 := rfl
  have fewer : cfg.uartRxBufSize.toNat * 10 * 1000 % 0x100000000 /
      initial.toNat < cfg.uartRxBufSize.toNat * 10 * 1000 / initial.toNat := by
    have small := initial.toNat_lt
    have less : cfg.uartRxBufSize.toNat * 10 * 1000 % 0x100000000 +
        initial.toNat ≤ cfg.uartRxBufSize.toNat * 10 * 1000 := by
      omega
    have quotient := Nat.div_le_div_right (c := initial.toNat) less
    rw [Nat.add_div_right _ positive] at quotient
    exact quotient
  rw [getMinDataModeIdleTimeoutMs_toNat stored positive, minTimeLimit, isMargin]
  calc _ ≤ cfg.uartRxBufSize.toNat * 10 * 1000 % 0x100000000 / initial.toNat %
        0x10000 + 10 := Nat.mod_le _ _
    _ ≤ cfg.uartRxBufSize.toNat * 10 * 1000 % 0x100000000 / initial.toNat + 10 :=
        Nat.add_le_add_right (Nat.mod_le _ _) _
    _ < _ := Nat.add_lt_add_right fewer _

structure LimitKept (least : Nat) (data : DataState) : Prop where
  isSet : data.timeLimit ≠ 0 → least ≤ data.timeLimit.toNat
  inDataMode : data.atMode = .dataMode → data.timeLimit ≠ 0

theorem enterDatamode_limit {handler : HandlerId} {dataLen : UInt32} {opened : Bool} {next : Host}
    (ran : enterDatamode cfg env handler dataLen host = some (opened, next)) :
    next = host ∨ ∃ c data, smAtHostGetCurrent cfg host = some c ∧
      next = (host.setData c data).record (.enterDatamode c handler dataLen) ∧
      data.atMode = .dataMode ∧
      data.timeLimit = if (host.data c).timeLimit = 0 then
        getMinDataModeIdleTimeoutMs cfg host else (host.data c).timeLimit := by
  rw [enterDatamode] at ran
  cases served : smAtHostGetCurrent cfg host with
  | none =>
    rw [served] at ran
    cases ran
  | some c =>
    rw [served] at ran
    dsimp only at ran
    by_cases busy : (host.data c).handler.isSome = true
    · rw [if_pos busy] at ran
      cases ran
      exact .inl rfl
    · rw [if_neg busy] at ran
      cases switch : setSmMode cfg env c .dataMode host with
      | none =>
        rw [switch] at ran
        cases ran
        exact .inl rfl
      | some switched =>
        obtain ⟨_, _, ring, _, isSwitched⟩ := setSmMode_dataMode cfg env switch
        rw [switch, isSwitched] at ran
        dsimp only at ran
        rw [Host.data_setData_self, Host.setData_setData] at ran
        cases ran
        exact .inr ⟨c, _, rfl, rfl, rfl, rfl⟩

/-- The steps other than `AT+IPR` keep the stored baud rate and the limits. -/
structure HostKept (initial : UInt32) (least : Nat) (host : Host) : Prop where
  stored : host.uartBaudrate = initial
  limits : ∀ c, LimitKept least (host.data c)

namespace HostKept

variable {least : Nat} {next : Host}

theorem of_data (kept : HostKept initial least host)
    (sameRate : next.uartBaudrate = host.uartBaudrate)
    (sameData : ∀ c, next.data c = host.data c) :
    HostKept initial least next where
  stored := sameRate.trans kept.stored
  limits c := by
    rw [sameData]
    exact kept.limits c

theorem setCtx (kept : HostKept initial least host) {c : CtxId} {ctx : Ctx}
    (same : ctx.data = host.data c) :
    HostKept initial least (host.setCtx c ctx) :=
  kept.of_data rfl (Host.data_setCtx_of_eq host same)

theorem of_ctx (kept : HostKept initial least host) {c : CtxId}
    {data : DataState} (limitKept : LimitKept least data)
    (sameRate : next.uartBaudrate = host.uartBaudrate)
    (isData : next.data c = data)
    (others : ∀ d, d ≠ c → next.data d = host.data d) :
    HostKept initial least next where
  stored := sameRate.trans kept.stored
  limits d := by
    by_cases same : d = c
    · rw [same, isData]
      exact limitKept
    · rw [others d same]
      exact kept.limits d

end HostKept

theorem submitWork_uartBaudrate (work : Work) (host : Host) :
    (submitWork work host).uartBaudrate = host.uartBaudrate := by
  rw [submitWork]
  split
  · rfl
  · rfl

theorem submitWork_ctx (work : Work) (host : Host) : (submitWork work host).ctx = host.ctx := by
  rw [submitWork]
  split
  · rfl
  · rfl

theorem uartBaudrate_of_updates {next : Host} (updates : Updates host next) :
    next.uartBaudrate = host.uartBaudrate := by
  apply @Updates.preserves (fun state => state.uartBaudrate = host.uartBaudrate)
    _ _ _ updates rfl
  intro before middle update same
  rw [← same]
  cases update with
  | ctx | urcBuf | record | lock | current => rfl
  | post own | submit notFlush => exact submitWork_uartBaudrate _ _

namespace HostKept

variable {least : Nat} {next : Host}

theorem command {action : CommandAction} (kept : HostKept initial least host) (positive : 0 < least)
    (computed : least ≤ (getMinDataModeIdleTimeoutMs cfg host).toNat)
    (performed : performAction cfg env action host = some next) :
    HostKept initial least next := by
  have updates : Updates host next := by
    apply @Updates.performActions cfg env [action]
    rw [performActions, performed]
    rfl
  have sameRate := uartBaudrate_of_updates updates
  have nonzero : ∀ {limit : UInt16}, least ≤ limit.toNat → limit ≠ 0 := by
    rintro limit enough rfl
    exact absurd enough (Nat.not_le.mpr positive)
  cases action with
  | call hostCall =>
    cases performed
    exact kept.of_data sameRate (@performCall_undisturbed cfg hostCall host).data
  | enterDatamode handler dataLen =>
    obtain ⟨⟨opened, entered⟩, ran, rfl⟩ :=
      map_eq_some_iff.mp performed
    rcases enterDatamode_limit ran with
      same | ⟨c, data, _, rfl, isMode, isLimit⟩
    · cases same
      exact kept
    · have enough : least ≤ data.timeLimit.toNat := by
        rw [isLimit]
        split
        · exact computed
        · rename_i isSet
          exact (kept.limits c).isSet isSet
      refine kept.of_ctx ⟨fun _ => enough, fun _ => nonzero enough⟩ rfl
        (Host.data_setData_self host c data) ?_
      exact fun d different => Host.data_setData_of_ne host data different
  | echo enable =>
    obtain ⟨c, _, rfl⟩ := map_eq_some_iff.mp performed
    have switched : HostKept initial least (host.setCommand c
        { host.command c with echoEnabled := enable }) := kept.setCtx rfl
    exact switched.setCtx rfl
  | datactrl limit =>
    obtain ⟨c, _, isSet⟩ := map_eq_some_iff.mp performed
    by_cases tooSmall : limit < getMinDataModeIdleTimeoutMs cfg host
    · rw [if_pos tooSmall] at isSet
      cases isSet
      exact kept
    · rw [if_neg tooSmall] at isSet
      cases isSet
      have enough : least ≤ limit.toNat :=
        Nat.le_trans computed (UInt16.not_lt.mp tooSmall)
      exact kept.of_ctx ⟨fun _ => enough, fun _ => nonzero enough⟩ rfl
        (Host.data_setData_self host c _)
        fun d different => Host.data_setData_of_ne host _ different

theorem exitDatamode (kept : HostKept initial least host) (c : CtxId) :
    HostKept initial least (exitDatamode cfg env c host) := by
  have sameRate := uartBaudrate_of_updates (@Updates.exitDatamode cfg env c host)
  by_cases leaves : c ∈ host.instanceList ∧ (host.data c).atMode ≠ .atCommandMode
  · have settled := (exitDatamode_spec cfg env leaves.1 leaves.2).1
    have cleared : LimitKept least (host.data c).cleared :=
      ⟨(kept.limits c).isSet, nofun⟩
    exact kept.of_ctx cleared sameRate settled.data settled.others
  · rw [exitDatamode_refused cfg env leaves]
    exact kept

theorem exitDatamodeHandler (kept : HostKept initial least host) (c : CtxId) (result : Int) :
    HostKept initial least (exitDatamodeHandler cfg env c result host) := by
  have sameRate := uartBaudrate_of_updates
    ((@exitDatamodeHandler_effects cfg env c result host).updates fun _ plain => plain)
  rcases exitDatamodeHandler_spec cfg env c result host with
    same | ⟨confined, _, isData⟩
  · rw [same]
    exact kept
  · have exited : LimitKept least ((host.data c).exited result) :=
      ⟨(kept.limits c).isSet, nofun⟩
    exact kept.of_ctx exited sameRate isData fun d different => (confined.others d different).1

theorem destroy (kept : HostKept initial least host) (c : CtxId) :
    HostKept initial least (smAtHostDestroy c host) := by
  rw [smAtHostDestroy]
  split
  · exact kept
  · split
    · exact kept
    · split
      · exact kept.setCtx rfl
      · exact kept.of_data rfl (Host.data_setCtx_of_eq host rfl)

theorem reuse (kept : HostKept initial least host) (c : CtxId) (pipe : PipeId) :
    HostKept initial least (reuseCtx c pipe host) := by
  have reused : HostKept initial least (host.setCtx c
      { host.ctx c with pipe := some pipe, executingLock := 0 }) :=
    kept.setCtx rfl
  rw [reuseCtx]
  dsimp only
  split
  · exact reused.of_data (submitWork_uartBaudrate _ _)
      fun d => congrArg (fun ctx => (ctx d).data) (submitWork_ctx _ _)
  · exact reused

theorem allocate {machine : Machine} (kept : HostKept initial least machine.host)
    (c : CtxId) (pipe : PipeId) :
    HostKept initial least (allocateCtx c pipe machine).host := by
  have isNew : LimitKept least (Ctx.init (some pipe)).data :=
    ⟨fun isSet => absurd rfl isSet, nofun⟩
  refine @of_ctx _ _ _ _ kept c _ isNew rfl ?_ ?_
  · exact congrArg Ctx.data (Function.update_self _ _ _)
  · exact fun d different =>
      congrArg Ctx.data (Function.update_of_ne different _ _)

theorem create {machine : Machine} (kept : HostKept initial least machine.host)
    (allocated : Option CtxId) (pipe : PipeId) :
    HostKept initial least (smAtHostCreate cfg allocated pipe machine).host := by
  rw [smAtHostCreate.eq_def]
  split
  · exact kept.reuse _ pipe
  · exact kept.allocate _ pipe
  · exact kept

theorem rspSend (kept : HostKept initial least host) (response : Response) :
    HostKept initial least (rspSend cfg response host) :=
  kept.of_data (uartBaudrate_of_updates (Updates.rspSend response host))
    (rspSend_undisturbed response host).data

end HostKept

theorem handleAtIpr_cases (baudrate : UInt32) (failure : Option IprFailure) (system : RateSystem) :
    ((handleAtIpr cfg baudrate failure system).2.host = system.host ∨
        (handleAtIpr cfg baudrate failure system).2.host = rspSend cfg .ok system.host) ∧
      ((handleAtIpr cfg baudrate failure system).2.baudrate = system.baudrate ∨
        baudrate ∈ supportedBaudrates ∧
          (handleAtIpr cfg baudrate failure system).2.baudrate = baudrate) := by
  rw [handleAtIpr]
  by_cases notRead : failure = some .uartConfigGet
  · rw [if_pos notRead]
    exact ⟨.inl rfl, .inl rfl⟩
  · rw [if_neg notRead]
    by_cases isStarted : system.host.cmuxStarted = true
    · rw [if_pos isStarted]
      exact ⟨.inl rfl, .inl rfl⟩
    · rw [if_neg isStarted]
      by_cases supported : baudrate ∈ supportedBaudrates
      · rw [if_neg (not_not.mpr supported)]
        dsimp only
        split
        · exact ⟨.inr rfl, .inl rfl⟩
        · split
          · exact ⟨.inr rfl, .inl rfl⟩
          · split
            · exact ⟨.inr rfl, .inr ⟨supported, rfl⟩⟩
            · exact ⟨.inr rfl, .inr ⟨supported, rfl⟩⟩
      · rw [if_pos supported]
        exact ⟨.inl rfl, .inl rfl⟩

/-- The baud rate of the UART is the first one or one that `AT+IPR` got. -/
structure RateKept (cfg : Config) (initial : UInt32) (allowed : UInt32 → Prop)
    (system : RateSystem) : Prop where
  host : HostKept initial (minTimeLimit cfg initial) system.host
  baudrate : system.baudrate = initial ∨
    system.baudrate ∈ supportedBaudrates ∧ allowed system.baudrate

theorem rateKept_step {action : RateAction} (supported : initial ∈ supportedBaudrates)
    (fits : minTimeLimit cfg initial < 0x10000)
    (noWrap : cfg.uartRxBufSize.toNat * 10 * 1000 < 0x100000000)
    (kept : RateKept cfg initial allowed system)
    (within : IprWithin allowed system action)
    (taken : rateStep cfg env action system = some after) :
    RateKept cfg initial allowed after := by
  have positive : 0 < minTimeLimit cfg initial := by
    rw [minTimeLimit]
    exact Nat.add_pos_right _ (by decide)
  cases action with
  | serve ctx =>
    cases taken
    exact ⟨kept.host.of_data rfl fun _ => rfl, kept.baudrate⟩
  | ipr baudrate failure =>
    cases taken
    obtain ⟨isHost, isRate⟩ := @handleAtIpr_cases cfg baudrate failure system
    constructor
    · rcases isHost with same | answered
      · rw [same]
        exact kept.host
      · rw [answered]
        exact kept.host.rspSend .ok
    · rcases isRate with same | ⟨isSupported, isNew⟩
      · rw [same]
        exact kept.baudrate
      · rw [isNew]
        exact .inr ⟨isSupported, within baudrate failure rfl⟩
  | command action =>
    obtain ⟨next, performed, rfl⟩ := map_eq_some_iff.mp taken
    have computed := getMinDataModeIdleTimeoutMs_eq kept.host.stored
      (pos_of_supported supported) fits noWrap
    exact ⟨kept.host.command positive (Nat.le_of_eq computed.symm) performed, kept.baudrate⟩
  | exitDatamode c =>
    cases taken
    exact ⟨kept.host.exitDatamode c, kept.baudrate⟩
  | exitDatamodeHandler c result =>
    cases taken
    exact ⟨kept.host.exitDatamodeHandler c result, kept.baudrate⟩
  | create allocated pipe =>
    rw [rateStep] at taken
    split at taken
    · cases taken
      exact ⟨kept.host.create allocated pipe, kept.baudrate⟩
    · cases taken
  | destroy c =>
    cases taken
    exact ⟨kept.host.destroy c, kept.baudrate⟩

theorem rateKept_of_reachable (supported : initial ∈ supportedBaudrates)
    (fits : minTimeLimit cfg initial < 0x10000)
    (noWrap : cfg.uartRxBufSize.toNat * 10 * 1000 < 0x100000000)
    (reachable : RateReachable cfg env initial allowed system) :
    RateKept cfg initial allowed system := by
  apply reachable.invariant
  · intro state started
    refine ⟨⟨started.stored, fun c => ?_⟩, .inl started.configured⟩
    obtain ⟨pipe, isNew⟩ := started.fresh c
    rw [Host.data, isNew]
    refine ⟨fun isSet => absurd rfl isSet, fun isDataMode => ?_⟩
    cases isDataMode
  · exact fun _ _ _ kept within taken =>
      rateKept_step supported fits noWrap kept within taken

/-- The contexts cover one buffer as long as no baud rate with a larger minimum is
configured. -/
theorem RateKept.covers (kept : RateKept cfg initial allowed system)
    (smaller : ∀ baudrate ∈ supportedBaudrates, allowed baudrate →
      minTimeLimit cfg baudrate ≤ minTimeLimit cfg initial) :
    system.Covers cfg := by
  intro c _ isDataMode
  have least : minTimeLimit cfg system.baudrate ≤ minTimeLimit cfg initial := by
    rcases kept.baudrate with same | ⟨isSupported, isAllowed⟩
    · exact Nat.le_of_eq (by rw [same])
    · exact smaller _ isSupported isAllowed
  have limits := kept.host.limits c
  exact Nat.le_trans least (limits.isSet (limits.inDataMode isDataMode))

structure FreshServed (initial : UInt32) (system : RateSystem) : Prop where
  stored : system.host.uartBaudrate = initial
  current : system.host.currentCtx = some 0
  live : 0 ∈ system.host.instanceList
  data : system.host.data 0 = (Ctx.init none).data

def enteredData (cfg : Config) (limit : UInt16) : DataState :=
  { (Ctx.init none).data with
    atMode := .dataMode
    dataRb := (RingBuffer.init cfg.datamodeBufSize).reset
    handler := some 0
    timeLimit := limit }

theorem FreshServed.enterDatamode (fresh : FreshServed initial system)
    (allocates : ∀ history c size, env.alloc history c size = true) :
    ∃ after, rateStep cfg env (.command (.enterDatamode 0 0)) system = some after ∧
      after.baudrate = system.baudrate ∧
      0 ∈ after.host.instanceList ∧
      (after.host.data 0).atMode = .dataMode ∧
      (after.host.data 0).timeLimit = getMinDataModeIdleTimeoutMs cfg system.host := by
  have served : smAtHostGetCurrent cfg system.host = some 0 := by
    rw [smAtHostGetCurrent, fresh.current]
    rfl
  have isLive : smAtCtxCheck 0 system.host = true := by
    simpa [smAtCtxCheck] using fresh.live
  have switched : setSmMode cfg env 0 .dataMode system.host =
      some (system.host.setData 0 { (Ctx.init none).data with
        atMode := .dataMode
        dataRb := RingBuffer.init cfg.datamodeBufSize }) := by
    rw [setSmMode, isLive, if_neg (by decide), fresh.data]
    simp [Ctx.init, RingBuffer.init, allocates]
  have entered : AtHost.enterDatamode cfg env 0 0 system.host =
      some (true, (system.host.setData 0 (enteredData cfg
        (getMinDataModeIdleTimeoutMs cfg system.host))).record (.enterDatamode 0 0 0)) := by
    rw [AtHost.enterDatamode, served]
    dsimp only
    rw [fresh.data, if_neg (by decide), switched]
    dsimp only
    rw [Host.data_setData_self, Host.setData_setData]
    rfl
  refine ⟨system.setHost ((system.host.setData 0 (enteredData cfg
    (getMinDataModeIdleTimeoutMs cfg system.host))).record (.enterDatamode 0 0 0)),
    ?_, rfl, fresh.live, ?_, ?_⟩
  · rw [rateStep, performAction, entered]
    rfl
  · exact congrArg DataState.atMode (Host.data_setData_self _ 0 _)
  · exact congrArg DataState.timeLimit (Host.data_setData_self _ 0 _)

theorem FreshServed.ipr (fresh : FreshServed initial system)
    (stopped : system.host.cmuxStarted = false) {baudrate : UInt32}
    (supported : baudrate ∈ supportedBaudrates) :
    FreshServed initial (handleAtIpr cfg baudrate none system).2 ∧
      (handleAtIpr cfg baudrate none system).2.baudrate = baudrate := by
  have configured : (handleAtIpr cfg baudrate none system).2 =
      { system.setHost (rspSend cfg .ok system.host) with
        baudrate := baudrate } := by
    rw [handleAtIpr, if_neg nofun, if_neg (by simp [stopped]), if_neg (not_not.mpr supported)]
    rfl
  have undisturbed := @rspSend_undisturbed cfg .ok system.host
  rw [configured]
  refine ⟨⟨?_, ?_, ?_, ?_⟩, rfl⟩
  · exact (uartBaudrate_of_updates (Updates.rspSend .ok system.host)).trans fresh.stored
  · exact undisturbed.current.trans fresh.current
  · exact undisturbed.frame.instanceList ▸ fresh.live
  · exact (undisturbed.data 0).trans fresh.data

def bootedAt (initial : UInt32) : RateSystem where
  machine := bootedMachine.setHost { bootedMachine.host with uartBaudrate := initial }
  baudrate := initial

theorem bootedAt_started (initial : UInt32) : StartedAt initial (bootedAt initial) :=
  ⟨fun c => ⟨some c, rfl⟩, rfl, rfl⟩

def servedAt (initial : UInt32) : RateSystem :=
  (bootedAt initial).setHost ((bootedAt initial).host.setCurrentCtx (some 0))

theorem servedAt_reachable (initial : UInt32) :
    RateReachable cfg env initial allowed (servedAt initial) :=
  (Reachable.start (bootedAt_started initial)).next (.serve (some 0))
    (fun _ _ isIpr => nomatch isIpr) rfl

theorem servedAt_fresh (initial : UInt32) : FreshServed initial (servedAt initial) :=
  ⟨rfl, rfl, List.mem_singleton.mpr rfl, rfl⟩

/-- When every state covers one buffer, the computed limit is large enough, at
first and for each baud rate that `AT+IPR` gets. -/
theorem computed_of_covers (allocates : ∀ history c size, env.alloc history c size = true)
    (covers : ∀ system, RateReachable cfg env initial allowed system →
      system.Covers cfg) {baudrate : UInt32}
    (isConfigured : baudrate = initial ∨ baudrate ∈ supportedBaudrates ∧ allowed baudrate) :
    minTimeLimit cfg baudrate ≤
      (getMinDataModeIdleTimeoutMs cfg (bootedAt initial).host).toNat := by
  have fromFresh : ∀ system, RateReachable cfg env initial allowed system →
      FreshServed initial system → system.baudrate = baudrate →
      minTimeLimit cfg baudrate ≤
        (getMinDataModeIdleTimeoutMs cfg (bootedAt initial).host).toNat := by
    intro system reachable fresh isRate
    obtain ⟨after, entered, sameRate, live, isDataMode, isLimit⟩ :=
      fresh.enterDatamode allocates
    have reached : RateReachable cfg env initial allowed after :=
      reachable.next (.command (.enterDatamode 0 0)) (fun _ _ isIpr => nomatch isIpr) entered
    have covered := covers after reached 0 live isDataMode
    have sameLimit : getMinDataModeIdleTimeoutMs cfg system.host =
        getMinDataModeIdleTimeoutMs cfg (bootedAt initial).host :=
      getMinDataModeIdleTimeoutMs_congr fresh.stored
    rw [isLimit, sameRate, isRate, sameLimit] at covered
    exact covered
  rcases isConfigured with same | ⟨supported, isAllowed⟩
  · exact fromFresh _ (servedAt_reachable initial) (servedAt_fresh initial) same.symm
  · have within : IprWithin allowed (servedAt initial) (.ipr baudrate none) := by
      intro rate failure isIpr
      cases isIpr
      exact isAllowed
    obtain ⟨fresh, isRate⟩ :=
      @FreshServed.ipr cfg _ _ (servedAt_fresh initial) rfl baudrate supported
    exact fromFresh _ ((servedAt_reachable initial).next _ within rfl) fresh isRate

/-- Every context in data mode has a time limit that covers one buffer of the
UART, in every run in which `AT+IPR` only gets allowed baud rates, exactly if the
product in the computation does not wrap, and no supported baud rate among the
allowed ones has a larger minimum than the one that was stored. -/
theorem time_limit_covers_iff (supported : initial ∈ supportedBaudrates)
    (fits : minTimeLimit cfg initial < 0x10000) :
    (∀ env system, RateReachable cfg env initial allowed system → system.Covers cfg) ↔
      cfg.uartRxBufSize.toNat * 10 * 1000 < 0x100000000 ∧
        ∀ baudrate ∈ supportedBaudrates, allowed baudrate →
          minTimeLimit cfg baudrate ≤ minTimeLimit cfg initial := by
  have positive := pos_of_supported supported
  have stored : (bootedAt initial).host.uartBaudrate = initial := rfl
  constructor
  · intro covers
    have computed : ∀ {baudrate : UInt32}, (baudrate = initial ∨
        baudrate ∈ supportedBaudrates ∧ allowed baudrate) →
        minTimeLimit cfg baudrate ≤
          (getMinDataModeIdleTimeoutMs cfg (bootedAt initial).host).toNat :=
      computed_of_covers (fun _ _ _ => rfl) (covers (sessionEnv 0 consumeAll))
    have noWrap : cfg.uartRxBufSize.toNat * 10 * 1000 < 0x100000000 := by
      by_contra wraps
      have tooSmall := getMinDataModeIdleTimeoutMs_lt stored positive (Nat.not_lt.mp wraps)
      exact absurd (computed (.inl rfl)) (Nat.not_le.mpr tooSmall)
    refine ⟨noWrap, fun baudrate isSupported isAllowed => ?_⟩
    rw [← getMinDataModeIdleTimeoutMs_eq stored positive fits noWrap]
    exact computed (.inr ⟨isSupported, isAllowed⟩)
  · rintro ⟨noWrap, smaller⟩ env system reachable
    exact (rateKept_of_reachable supported fits noWrap reachable).covers smaller

/-- `AT+IPR` on a UART that starts at some baud rate, and data mode after it. -/
def iprRun (baudrate : UInt32) : List RateAction :=
  [.serve (some 0), .ipr baudrate none, .command (.enterDatamode 0 0)]

/-- No baud rate has a larger minimum than 115200. -/
theorem time_limit_covers_faster :
    ∃ system, runActions (rateStep plusConfig (sessionEnv 0 consumeAll))
        (iprRun 1000000) (bootedAt 115200) = some system ∧
      (system.host.data 0).atMode = .dataMode ∧ system.Covers plusConfig := by
  have ran : (runActions (rateStep plusConfig (sessionEnv 0 consumeAll))
      (iprRun 1000000) (bootedAt 115200)).map (fun system =>
        (system.host.data 0).atMode) = some .dataMode := by
    decide
  obtain ⟨system, isRun, isDataMode⟩ := map_eq_some_iff.mp ran
  have smaller : supportedBaudrates.all (fun baudrate =>
      decide (minTimeLimit plusConfig baudrate ≤ minTimeLimit plusConfig 115200)) := by
    decide
  exact ⟨system, isRun, isDataMode,
    (@time_limit_covers_iff plusConfig 115200 (fun _ => True) (by decide)
      (by decide)).mpr ⟨by decide, fun baudrate isSupported _ =>
        of_decide_eq_true (List.all_eq_true.mp smaller baudrate isSupported)⟩ _ system
      (reachable_of_runActions _ (fun _ _ _ _ _ _ => trivial)
        (.start (bootedAt_started 115200)) isRun)⟩

/-- The limit is computed for 1000000 and is 12 ms.  One buffer takes 22 ms at
115200. -/
theorem slower_uart_not_covered :
    ∃ system, RateReachable plusConfig (sessionEnv 0 consumeAll) 1000000 (fun _ => True) system ∧
      system.baudrate = 115200 ∧
      (system.host.data 0).atMode = .dataMode ∧
      (system.host.data 0).timeLimit = 12 ∧
      minTimeLimit plusConfig 115200 = 32 ∧ ¬system.Covers plusConfig := by
  have ran : (runActions (rateStep plusConfig (sessionEnv 0 consumeAll))
      (iprRun 115200) (bootedAt 1000000)).map (fun system =>
        (system.baudrate, (system.host.data 0).atMode,
          (system.host.data 0).timeLimit, system.host.instanceList)) =
      some (115200, .dataMode, 12, [0]) := by
    decide
  obtain ⟨system, isRun, seen⟩ := map_eq_some_iff.mp ran
  simp only [Prod.mk.injEq] at seen
  obtain ⟨isRate, isDataMode, isLimit, isList⟩ := seen
  have least : minTimeLimit plusConfig 115200 = 32 := by decide
  refine ⟨system, reachable_of_runActions _ (fun _ _ _ _ _ _ => trivial)
    (.start (bootedAt_started 1000000)) isRun, isRate, isDataMode, isLimit,
    least, fun covers => ?_⟩
  have covered := covers 0 (by simp [isList]) isDataMode
  rw [isRate, isLimit, least] at covered
  exact absurd covered (by decide)

end SerialModem.AtHost
