import SerialModem.Socket.HttpBody
import SerialModem.Socket.PullRouting

/-!
# All requests are accounted for

Whatever the AT host, the modem and the commands do, one step after the other,
the counters of every request agree with what was noted of it.
-/

namespace SerialModem.Socket

open Library Library.Program List
open AtHost

variable {cfg : Config} {env : Environment} {modem : Modem}

/-! ## All requests -/

/-- Every request is accounted for, and one whose own body is being sent has
received nothing. -/
structure Bodies.Accounted (bodies : Bodies) : Prop where
  views : ∀ r, AccountedView (bodies.requests r) (bodies.account r)
  streaming : ∀ r, bodies.datamodeReq = some r → ∃ req,
    bodies.requests r = some req ∧ req.state = .sendingBody

variable {r : Slot}

theorem Bodies.Accounted.put {bodies : Bodies} {request : Option HttpRequest}
    {account : BodyAccount} (accounted : bodies.Accounted)
    (view : AccountedView request account)
    (streams : bodies.datamodeReq = some r → ∀ req, request = some req → req.state = .sendingBody) :
    (bodies.put r request account).Accounted where
  views other := by
    by_cases equal : other = r
    · subst equal
      rw [requests_put_self, account_put_self]
      exact view
    · rw [requests_put_of_ne _ _ _ _ equal, account_put_of_ne _ _ _ _ equal]
      exact accounted.views other
  streaming other isDatamodeReq := by
    rw [Bodies.put] at isDatamodeReq
    dsimp only at isDatamodeReq
    split at isDatamodeReq
    · cases isDatamodeReq
    · rename_i notFreed
      by_cases equal : other = r
      · subst equal
        cases request with
        | none => exact absurd ⟨rfl, isDatamodeReq⟩ notFreed
        | some req =>
          exact ⟨req, requests_put_self _ _ _ _, streams isDatamodeReq req rfl⟩
      · rw [requests_put_of_ne _ _ _ _ equal]
        exact accounted.streaming other isDatamodeReq

theorem Bodies.Accounted.state {bodies : Bodies} {req : HttpRequest}
    (accounted : bodies.Accounted) (isDatamodeReq : bodies.datamodeReq = some r)
    (isRequest : bodies.requests r = some req) : req.state = .sendingBody := by
  obtain ⟨other, isOther, sending⟩ := accounted.streaming r isDatamodeReq
  rw [isRequest] at isOther
  cases isOther
  exact sending

def KeepsAccounts {Value : Type} (program : SocketM Value) : Prop :=
  ∀ world, world.bodies.Accounted → Ends world program fun _ after => after.bodies.Accounted

namespace KeepsAccounts

variable {Value Result : Type} {program : SocketM Value}

theorem of_spares (spares : SparesRequests program) : KeepsAccounts program := by
  intro world accounted
  refine (spares world).mono ?_
  intro _ after same
  rw [same]
  exact accounted

theorem silent (performs : ∀ base, Performs cfg (besideRequests False) base program) :
    KeepsAccounts program :=
  of_spares (SparesRequests.of_silent performs)

theorem pure (value : Value) : KeepsAccounts (Pure.pure value : SocketM Value) := by
  intro world accounted
  exact (ends_pure _ _).mpr accounted

theorem get : KeepsAccounts (MonadState.get : SocketM World) := by
  intro world accounted
  exact (ends_get _).mpr accounted

theorem bind {next : Value → SocketM Result} (keeps : KeepsAccounts program)
    (continues : ∀ value, KeepsAccounts (next value)) :
    KeepsAccounts (program >>= next) := by
  intro world accounted
  refine (keeps world accounted).call ?_
  intro value middle accountedMiddle
  exact continues value middle accountedMiddle

theorem forM {Element : Type} {body : Element → SocketM PUnit} (elements : List Element)
    (keeps : ∀ element, KeepsAccounts (body element)) :
    KeepsAccounts (elements.forM body) := by
  intro world accounted
  refine ends_forM elements ?_ accounted
  exact fun element _ => keeps element

variable {r : Slot} {world : World}

theorem getRequest_none {next : HttpRequest → SocketM Result}
    {required : Result → World → Prop} (absent : world.httpRequests r = none) :
    Ends world (getRequest r >>= next) required := by
  unfold getRequest
  rw [ends_bind, ends_bind, ends_get, absent]
  exact ends_failure _

theorem of_ended {after : World} {status bytes : Int} (accounted : world.bodies.Accounted)
    (shows : Shows world.bodies r none ((bodyAccount r world.log).finish status bytes) after) :
    after.bodies.Accounted := by
  rw [show after.bodies = _ from shows]
  refine accounted.put (.of_ended (accounted.views r).sound _ _) ?_
  intro _ req isRequest
  cases isRequest

theorem httpFailRequest (r : Slot) : KeepsAccounts (httpFailRequest cfg r) := by
  intro world accounted
  cases isRequest : world.httpRequests r with
  | none => exact getRequest_none isRequest
  | some req =>
    exact (shows_of_request isRequest).httpFailRequest.mono fun _ _ => of_ended accounted

theorem httpCancelRequest (r : Slot) : KeepsAccounts (httpCancelRequest cfg r) := by
  intro world accounted
  cases isRequest : world.httpRequests r with
  | none => exact getRequest_none isRequest
  | some req =>
    exact (shows_of_request isRequest).httpCancelRequest.mono fun _ _ => of_ended accounted

theorem httpCloseRequest (r : Slot) : KeepsAccounts (httpCloseRequest r) := by
  intro world accounted
  cases isRequest : world.httpRequests r with
  | none => exact getRequest_none isRequest
  | some req =>
    refine (shows_of_request isRequest).httpCloseRequest.mono ?_
    intro _ after shows
    rw [show after.bodies = _ from shows]
    refine accounted.put ⟨?_, (accounted.views r).sound⟩ ?_
    · intro _ absent
      cases absent
    · intro _ _ absent
      cases absent

theorem findRequest_some {fd : Int} (found : findRequest fd world = some r) :
    ∃ req, world.httpRequests r = some req ∧ req.fd = fd := by
  have runs := find?_some found
  cases isRequest : world.httpRequests r with
  | none => simp [isRequest] at runs
  | some req => exact ⟨req, rfl, by simpa [isRequest] using runs⟩

theorem smAtHttpcPollEvent (fd : Int) (events : PollEvents) :
    KeepsAccounts (smAtHttpcPollEvent cfg modem fd events) := by
  intro world accounted
  cases found : findRequest fd world with
  | none =>
    unfold Socket.smAtHttpcPollEvent
    rw [ends_bind, ends_get, found]
    exact (ends_pure _ _).mpr accounted
  | some r =>
    obtain ⟨req, isRequest, _⟩ := findRequest_some found
    have view := accounted.views r
    have before : HttpRequest.Accounted
        { req with needRearmPollin := false } (bodyAccount r world.log) :=
      (view.live req isRequest).same rfl rfl
    refine ((shows_of_request isRequest).smAtHttpcPollEvent found (by rfl)).mono ?_
    rintro _ after ⟨request, noted, outcome, shows⟩
    rw [show after.bodies = _ from shows]
    apply accounted.put (outcome.accounted before view.sound)
    intro isDatamodeReq next isNext
    have sending := accounted.state isDatamodeReq isRequest
    subst isNext
    cases outcome with
    | rests => exact sending
    | sends sends => rw [sending] at sends; cases sends
    | headers receiving | body receiving => rw [sending] at receiving; cases receiving

theorem pullData (fd : Int) (pullLen : Nat) : KeepsAccounts (pullData cfg modem fd pullLen) := by
  intro world accounted
  cases found : findRequest fd world with
  | none =>
    unfold Socket.pullData
    rw [ends_bind, ends_get, found]
    exact (ends_pure _ _).mpr accounted
  | some r =>
    obtain ⟨req, isRequest, _⟩ := findRequest_some found
    have view := accounted.views r
    refine ((shows_of_request isRequest).pullData found (by rfl)).mono ?_
    rintro _ after ⟨request, noted, outcome, shows⟩
    rw [show after.bodies = _ from shows]
    apply accounted.put (outcome.accounted (view.live req isRequest) view.sound)
    intro isDatamodeReq next isNext
    have sending := accounted.state isDatamodeReq isRequest
    subst isNext
    cases outcome with
    | refused | waits => exact sending
    | goesOn complete =>
      have receiving := ((view.live req isRequest).complete complete).1
      rw [sending] at receiving
      cases receiving

theorem smAtHttpcSocketClosed (fd : Int) : KeepsAccounts (smAtHttpcSocketClosed cfg fd) := by
  apply bind get
  intro world
  split
  · exact pure ()
  · exact httpCancelRequest _

theorem httpTimeoutWorkFn (expired : Slot → Bool) :
    KeepsAccounts (httpTimeoutWorkFn cfg expired) := by
  apply forM slots
  intro r
  apply bind get
  intro world
  split
  · exact pure ()
  · split
    · exact pure ()
    · split
      · exact httpFailRequest r
      · exact pure ()

/-! ### The data-mode callbacks -/

theorem clearDatamodeReq : KeepsAccounts (modify fun world : World =>
      { world with datamodeReq := none }) := by
  intro world accounted
  rw [ends_modify]
  exact ⟨accounted.views, fun _ isDatamodeReq => by cases isDatamodeReq⟩

theorem httpDatamodeSend (content : List Byte) :
    KeepsAccounts (httpDatamodeSend cfg modem content) := by
  apply bind get
  intro world
  split
  · exact pure ()
  · rename_i r _
    have reads : ∀ base, Performs cfg (besideRequests False) base (getRequest r) :=
      fun _ => Performs.getRequest r
    apply bind (silent reads)
    intro req
    have sends : ∀ base, Performs cfg (besideRequests False) base
        (httpSendAll modem req.fd content.length content) :=
      fun _ => Performs.httpSendAll _ _ content
    apply bind (silent sends)
    intro result
    split
    · exact pure ()
    · exact bind clearDatamodeReq fun _ => httpFailRequest _

theorem httpBodySent (accounted : world.bodies.Accounted)
    (isDatamodeReq : world.datamodeReq = some r) :
    Ends world (httpBodySent cfg modem r) fun _ after =>
      ∃ request noted, AccountedView request noted ∧ Shows world.bodies r request noted after := by
  obtain ⟨req, isRequest, sending⟩ := accounted.streaming r isDatamodeReq
  have view := accounted.views r
  have failed : ∀ {noted : BodyAccount} {waiting : HttpRequest} {middle : World}, noted.Sound →
      Shows world.bodies r (some waiting) noted middle →
      Ends middle (Socket.httpFailRequest cfg r) fun _ after =>
        ∃ request noted, AccountedView request noted ∧
          Shows world.bodies r request noted after := by
    intro noted waiting middle sound shows
    refine shows.httpFailRequest.mono ?_
    intro _ after showsAfter
    exact ⟨_, _, .of_ended sound _ _, showsAfter⟩
  refine (shows_of_request isRequest).getRequest.call ?_
  rintro _ middle ⟨rfl, showsMiddle⟩
  rw [ends_bind, ends_get]
  split
  · exact failed view.sound showsMiddle
  · refine (showsMiddle.modifyRequest _).call ?_
    intro _ waiting showsWaiting
    refine (showsWaiting.spared (SparesRequests.selectForClient (by decide))).call ?_
    intro err selected showsSelected
    split
    · exact failed view.sound showsSelected
    · refine (ends_pure _ _).mpr ⟨_, _, .of_live ?_ view.sound, showsSelected⟩
      cases view.live _ isRequest with
      | headers receiving | body receiving => rw [sending] at receiving; cases receiving
      | asking _ unparsed empty =>
        refine .headers rfl (unparsed.same ?_) (Nat.zero_le _)
        rw [HttpRequest.counters, HttpRequest.counters, empty]

theorem cleared {middle : World} {request : Option HttpRequest}
    {noted : BodyAccount} (accounted : world.bodies.Accounted)
    (view : AccountedView request noted)
    (shows : Shows world.bodies r request noted middle) :
    Bodies.Accounted { middle.bodies with datamodeReq := none } := by
  refine ⟨fun other => ?_, fun _ isSome => by cases isSome⟩
  rw [show middle.bodies = _ from shows]
  by_cases equal : other = r
  · subst equal
    rw [Bodies.requests_put_self, Bodies.account_put_self]
    exact view
  · rw [Bodies.requests_put_of_ne _ _ _ _ equal, Bodies.account_put_of_ne _ _ _ _ equal]
    exact accounted.views other

theorem httpDatamodeExit (flags : Flags) : KeepsAccounts (httpDatamodeExit cfg modem flags) := by
  have tells : KeepsAccounts (hostCall cfg (.rspSend .terminator)) :=
    of_spares (SparesRequests.hostCall _)
  intro world accounted
  unfold Socket.httpDatamodeExit
  rw [ends_bind, ends_get]
  split
  · split
    · exact tells world accounted
    · exact bind tells (fun _ => bind (httpFailRequest _) fun _ =>
        bind clearDatamodeReq fun _ => tells) world accounted
  · split
    · exact (ends_pure _ _).mpr accounted
    · rename_i r isDatamodeReq
      refine (httpBodySent accounted isDatamodeReq).call ?_
      rintro _ sent ⟨request, noted, view, shows⟩
      rw [ends_bind, ends_modify, ends_pure]
      exact cleared accounted view shows

/-! ### Calls of the AT host -/

variable (c : CtxId)

theorem onCtx {callback : SocketM Unit}
    (keeps : KeepsAccounts callback) : KeepsAccounts (onCtx c callback) := by
  intro world accounted
  unfold Socket.onCtx
  rw [ends_bind, ends_get, ends_bind, ends_set]
  refine (keeps _ (by exact accounted)).call ?_
  intro _ after accountedAfter
  rw [ends_modify]
  exact accountedAfter

theorem replaySend (event : Event) : KeepsAccounts (replaySend cfg modem event) := by
  cases event with
  | handlerSend c handler content flags =>
    rw [Socket.replaySend]
    split
    · have sends : ∀ base, Performs cfg (besideRequests False) base
          (socketDatamodeSend cfg modem c content flags) :=
        fun _ => Performs.socketDatamodeSend trivial c content flags
      exact onCtx c (silent sends)
    · split
      · exact onCtx c (httpDatamodeSend content)
      · exact pure ()
  | _ => exact pure ()

theorem replayExit (event : Event) : KeepsAccounts (replayExit cfg modem event) := by
  cases event with
  | handlerExit c handler flags =>
    rw [Socket.replayExit]
    split
    · have exits : ∀ base, Performs cfg (besideRequests False) base
          (socketDatamodeExit cfg flags) :=
        fun _ => Performs.socketDatamodeExit trivial flags
      exact onCtx c (silent exits)
    · split
      · exact onCtx c (httpDatamodeExit flags)
      · exact pure ()
  | _ => exact pure ()

theorem replayCallbacks (since : Nat) : KeepsAccounts (replayCallbacks cfg modem since) :=
  bind get fun _ => bind (forM _ replaySend) fun _ => forM _ replayExit

theorem leaveDatamode (result : Int) : KeepsAccounts (leaveDatamode cfg env modem c result) := by
  intro world accounted
  unfold Socket.leaveDatamode
  rw [ends_bind, ends_get, ends_bind, ends_set]
  exact replayCallbacks _ _ accounted

/-! ### Poll work -/

theorem reportXapoll (pipe : PipeId) (slot : Slot) (events : PollEvents) :
    KeepsAccounts (reportXapoll cfg modem pipe slot events) := by
  have takes : KeepsAccounts (takeXapoll slot events) := by
    intro world accounted
    rw [takeXapoll, ends_modify, World.bodies_record]
    exact accounted
  unfold Socket.reportXapoll
  split
  · exact pure false
  · exact bind get fun _ => bind takes fun _ =>
      bind (of_spares (SparesRequests.hostCall _)) fun _ =>
        smAtHttpcPollEvent _ _

theorem notifyXapoll (pipe : PipeId) (slot : Slot) (revents : PollEvents) :
    KeepsAccounts (notifyXapoll cfg modem pipe slot revents) := by
  apply bind get
  intro world
  apply bind (reportXapoll pipe slot _)
  intro needsRearm
  split
  · have rearms : ∀ base, Performs cfg (besideRequests False) base (rearmPollin slot) :=
      fun _ => Performs.rearmPollin slot
    exact bind (silent rearms) fun _ => pure _
  · exact pure _

theorem receiveAndPoll (pipe : PipeId) (atAndIdle dataMode : Bool)
    (slot : Slot) (revents : PollEvents) :
    KeepsAccounts (receiveAndPoll cfg env modem pipe atAndIdle dataMode slot revents) := by
  have registered : KeepsAccounts (do
      let _ ← updatePollEvents cfg modem .remaining slot 0 false
      if dataMode then
        leaveOnError cfg env modem pipe revents
      else
        Pure.pure ()) := by
    apply bind (silent fun _ =>
      Performs.updatePollEvents (by decide) (.inr rfl) slot)
    intro _
    split
    · apply bind get
      intro world
      split
      · exact leaveDatamode _ _
      · exact pure ()
    · exact pure ()
  apply bind get
  intro world
  dsimp only
  split
  · exact bind (silent fun _ => Performs.autoReception slot) fun _ => registered
  · exact registered

theorem modifyPoll (slot : Slot) (change : AsyncPoll → AsyncPoll) :
    KeepsAccounts (modifyPoll slot change) := by
  intro world accounted
  rw [Socket.modifyPoll, ends_modify]
  exact accounted

theorem processEvents (pipe : PipeId) (atAndIdle dataMode : Bool)
    (slot : Slot) (revents : PollEvents) :
    KeepsAccounts (processEvents cfg env modem c pipe atAndIdle dataMode slot revents) := by
  have handles : ∀ handled, KeepsAccounts
      (handleRevents cfg env modem pipe atAndIdle dataMode slot handled) :=
    fun handled => bind (modifyPoll slot _) fun _ =>
      receiveAndPoll pipe atAndIdle dataMode slot handled
  apply bind get
  intro world
  split
  · exact pure ()
  · split
    · exact pure ()
    · split
      · exact silent fun _ => Performs.reenableEvents trivial slot revents
      · split
        · exact handles revents
        · exact bind (notifyXapoll pipe slot revents) handles

theorem pollWorkStep (pipe : PipeId) (atAndIdle dataMode : Bool) (slot : Slot) :
    KeepsAccounts (pollWorkStep cfg env modem c pipe atAndIdle dataMode slot) := by
  have keepsEvents : ∀ revents, KeepsAccounts (keepEvents c pipe atAndIdle slot revents) := by
    intro revents
    unfold keepEvents
    split
    · exact pure ()
    · have delays : ∀ base, Performs cfg (besideRequests False) base
          (delayEvents c pipe slot revents) :=
        fun _ => Performs.delayEvents trivial slot revents
      exact silent delays
  apply bind get
  intro world
  split
  · exact bind (modifyPoll slot _) fun _ => bind (keepsEvents _) fun _ =>
      processEvents c pipe atAndIdle dataMode slot _
  · exact pure ()

theorem smAtSocketPollWorkHandler : KeepsAccounts (smAtSocketPollWorkHandler cfg env modem c) := by
  apply bind get
  intro world
  split
  · split
    · exact pure ()
    · exact forM slots fun slot => pollWorkStep c _ _ _ slot
  · exact pure ()

theorem runWork (work : Option SocketWork) : KeepsAccounts (runWork cfg env modem work) := by
  unfold Socket.runWork
  split
  · exact pure ()
  · exact smAtSocketPollWorkHandler _
  · apply bind get
    intro world
    dsimp only
    split
    · exact smAtSocketPollWorkHandler _
    · rename_i c _
      have queues : ∀ base, Performs cfg (besideRequests False) base
          (queueIdleWork (smAtHostGetCurrentPipe cfg world.host) (.pollIdle c)) :=
        fun _ => Performs.queueIdleWork trivial
      exact silent queues
  · exact silent fun _ => Performs.sendCbFn

theorem machineAction (action : MachineAction) :
    KeepsAccounts (machineAction cfg env modem action) := by
  intro world accounted
  apply machineAction_ends
  · intro machine _
    exact replayCallbacks _ _ accounted
  · intro machine work _ _
    exact runWork _ _ accounted

end KeepsAccounts

/-! ## Starting a request -/

def BeingSetUp (r : Slot) (world : World) : Prop :=
  world.bodies.Accounted ∧ ∃ req, world.httpRequests r = some req ∧ req.state = .idle

variable {world : World}

theorem Bodies.Accounted.asks {after : World} {req changed : HttpRequest}
    (accounted : world.bodies.Accounted)
    (isRequest : world.httpRequests r = some req) (idle : req.state = .idle)
    (same : changed.counters = req.counters)
    (asks : changed.state = .idle ∨ changed.state = .sendingRequest ∨
      changed.state = .sendingBody)
    (shows : Shows world.bodies r (some changed)
      (bodyAccount r world.log) after) : after.bodies.Accounted := by
  have view := accounted.views r
  rw [show after.bodies = _ from shows]
  apply accounted.put
  · cases view.live req isRequest with
    | headers receiving | body receiving => rw [idle] at receiving; cases receiving
    | asking _ unparsed empty =>
      have buffer : changed.recvBuf = req.recvBuf :=
        congrArg (fun counters => counters.2.1) same
      exact .of_live (.asking asks (unparsed.same same) (buffer.trans empty)) view.sound
  · intro isDatamodeReq
    have sending := accounted.state isDatamodeReq isRequest
    rw [idle] at sending
    cases sending

def Prepares {Value : Type} (r : Slot) (program : SocketM Value) : Prop :=
  ∀ world, BeingSetUp r world → Ends world program fun _ after => BeingSetUp r after

def Launches {Value : Type} (r : Slot) (program : SocketM Value) : Prop :=
  ∀ world, BeingSetUp r world → Ends world program fun _ after => after.bodies.Accounted

theorem BeingSetUp.spared {after : World} (setUp : BeingSetUp r world)
    (same : after.bodies = world.bodies) :
    BeingSetUp r after := by
  obtain ⟨accounted, req, isRequest, idle⟩ := setUp
  have requests : after.httpRequests = world.httpRequests :=
    congrArg Bodies.requests same
  refine ⟨?_, req, ?_, idle⟩
  · rw [same]
    exact accounted
  · rw [requests]
    exact isRequest

theorem Prepares.launches {Value : Type} {program : SocketM Value}
    (prepares : Prepares r program) : Launches r program :=
  fun world setUp => (prepares world setUp).mono fun _ _ after => after.1

theorem Prepares.of_spares {Value : Type} {program : SocketM Value}
    (spares : SparesRequests program) :
    Prepares r program :=
  fun world setUp => (spares world).mono fun _ _ => setUp.spared

theorem Prepares.pure {Value : Type} (value : Value) :
    Prepares r (Pure.pure value : SocketM Value) :=
  fun _ setUp => (ends_pure _ _).mpr setUp

theorem Prepares.bind {Value Result : Type} {program : SocketM Value}
    {next : Value → SocketM Result} (prepares : Prepares r program)
    (continues : ∀ value, Prepares r (next value)) :
    Prepares r (program >>= next) :=
  fun world setUp => (prepares world setUp).call continues

theorem Prepares.then {Value Result : Type} {program : SocketM Value}
    {next : Value → SocketM Result} (prepares : Prepares r program)
    (continues : ∀ value, Launches r (next value)) :
    Launches r (program >>= next) :=
  fun world setUp => (prepares world setUp).call continues

variable {change : HttpRequest → HttpRequest}

theorem Prepares.modifyRequest (state : ∀ req, (change req).state = req.state)
    (counters : ∀ req, (change req).counters = req.counters) :
    Prepares r (modifyRequest r change) := by
  rintro world ⟨accounted, req, isRequest, idle⟩
  refine ((shows_of_request isRequest).modifyRequest change).mono ?_
  intro _ after shows
  have stays := (state req).trans idle
  exact ⟨accounted.asks isRequest idle (counters req) (.inl stays) shows,
    _, shows.httpRequests, stays⟩

variable {next : SocketM Int}

theorem Launches.fill (launches : Launches r next) (state : ∀ req, (change req).state = req.state)
    (counters : ∀ req, (change req).counters = req.counters) :
    Launches r (do
      modifyRequest r change
      next) :=
  Prepares.then (.modifyRequest state counters) fun _ => launches

theorem Prepares.fill (prepares : Prepares r next) (state : ∀ req, (change req).state = req.state)
    (counters : ∀ req, (change req).counters = req.counters) :
    Prepares r (do
      Socket.modifyRequest r change
      next) :=
  .bind (.modifyRequest state counters) fun _ => prepares

theorem Prepares.withCopy (content : List Byte) (prepares : Prepares r next) :
    Prepares r (withCopy modem content next) := by
  apply Prepares.bind (.of_spares (SparesRequests.malloc _))
  intro granted
  split
  · exact prepares
  · exact .pure _

theorem Launches.withCopy (content : List Byte) (launches : Launches r next) :
    Launches r (withCopy modem content next) := by
  apply Prepares.then (.of_spares (SparesRequests.malloc _))
  intro granted
  split
  · exact launches
  · exact (Prepares.pure _).launches

theorem Prepares.httpParseUrlComponents (r : Slot) (url : List Byte) :
    Prepares r (httpParseUrlComponents modem r url) := by
  unfold Socket.httpParseUrlComponents
  split
  · exact .pure _
  · split
    · exact .pure _
    · split
      · exact .pure _
      · apply Prepares.withCopy
        refine .fill ?_ (fun _ => rfl) fun _ => rfl
        split
        · apply Prepares.withCopy
          exact .fill (.pure 0) (fun _ => rfl) fun _ => rfl
        · dsimp only
          split
          · exact .pure _
          · apply Prepares.withCopy
            exact .fill (.pure 0) (fun _ => rfl) fun _ => rfl

theorem Launches.httpStartRequest (r : Slot) : Launches r (httpStartRequest cfg modem r) := by
  unfold Socket.httpStartRequest
  rintro world ⟨accounted, req, isRequest, idle⟩
  have shows := shows_of_request isRequest
  refine shows.getRequest.call ?_
  rintro _ read ⟨rfl, showsRead⟩
  unfold Socket.withCopy
  refine (showsRead.spared (SparesRequests.malloc _)).call ?_
  intro granted copied showsCopied
  split
  · refine (showsCopied.modifyRequest _).call ?_
    intro _ sending showsSending
    have accountedSending : sending.bodies.Accounted :=
      accounted.asks isRequest idle (by rfl) (.inr (.inl rfl)) showsSending
    rw [ends_bind, ends_get]
    split
    · exact (ends_pure _ _).mpr accountedSending
    · exact KeepsAccounts.of_spares (SparesRequests.selectForClient (by decide)) _ accountedSending
  · exact (ends_pure _ _).mpr (accounted.asks isRequest idle rfl (.inl idle) showsCopied)

theorem httpSendRequestHeaders_sends (setUp : BeingSetUp r world) :
    Ends world (httpSendRequestHeaders modem r) fun err after =>
      after.bodies.Accounted ∧ (err = 0 → ∃ req,
        after.httpRequests r = some req ∧ req.state = .sendingBody) := by
  obtain ⟨accounted, req, isRequest, idle⟩ := setUp
  have stays : ∀ {after : World}, Shows world.bodies r (some req) (bodyAccount r world.log) after →
      after.bodies.Accounted :=
    accounted.asks isRequest idle rfl (.inl idle)
  have shows := shows_of_request isRequest
  unfold httpSendRequestHeaders
  refine shows.getRequest.call ?_
  rintro _ read ⟨rfl, showsRead⟩
  unfold withCopy
  refine (showsRead.spared (SparesRequests.malloc _)).call ?_
  intro granted copied showsCopied
  split
  · refine (showsCopied.spared (SparesRequests.httpSendAll _ _ _)).call ?_
    intro result sent showsSent
    split
    · rename_i errno
      refine (ends_pure _ _).mpr ⟨stays showsSent, ?_⟩
      intro noError
      have positive := errno.positive
      simp only [Errno.code] at noError
      omega
    · refine (showsSent.modifyRequest _).call ?_
      intro _ after showsAfter
      refine (ends_pure _ _).mpr ⟨?_, fun _ =>
        ⟨_, showsAfter.httpRequests, rfl⟩⟩
      exact accounted.asks isRequest idle (by rfl) (.inr (.inr rfl)) showsAfter
  · refine (ends_pure _ _).mpr ⟨stays showsCopied, ?_⟩
    intro noError
    exact absurd noError (by decide)

theorem Launches.httpStreamBody (r : Slot) (bodyLen : Int) :
    Launches r (httpStreamBody cfg env modem r bodyLen) := by
  unfold Socket.httpStreamBody
  refine .fill ?_ (fun _ => rfl) fun _ => rfl
  intro world setUp
  unfold unlessError
  refine (httpSendRequestHeaders_sends setUp).call ?_
  rintro err sent ⟨accounted, sends⟩
  split
  · exact (ends_pure _ _).mpr accounted
  · rename_i noError
    obtain ⟨req, isRequest, sending⟩ := sends (not_not.mp noError)
    refine (shows_of_request isRequest).getRequest.call ?_
    rintro _ read ⟨rfl, showsRead⟩
    rw [ends_bind, ends_modify]
    have same : read.bodies = sent.bodies :=
      showsRead.trans (sent.bodies.put_self r isRequest)
    have views : ∀ other, AccountedView (read.bodies.requests other)
        (read.bodies.account other) := by
      rw [same]
      exact accounted.views
    have streams : Bodies.Accounted { read.bodies with datamodeReq := some r } := by
      refine ⟨views, fun other isSome => ?_⟩
      cases isSome
      exact ⟨_, showsRead.httpRequests, sending⟩
    refine (KeepsAccounts.of_spares (SparesRequests.rspSendText _) _ (by exact streams)).call ?_
    intro _ told accountedTold
    have enters : ∀ base, Performs cfg (besideRequests False) base
        (enterDatamodeWith cfg env httpDatamodeCallback bodyLen) :=
      fun _ => Performs.enterDatamodeWith trivial _ bodyLen
    exact KeepsAccounts.silent enters _ accountedTold

theorem Launches.httpLaunch (r : Slot) (method : HttpMethod) (bodyLen : Int) :
    Launches r (httpLaunch cfg env modem r method bodyLen) := by
  unfold Socket.httpLaunch
  split
  · exact .httpStreamBody r bodyLen
  · intro world setUp
    unfold unlessError
    refine (Launches.httpStartRequest r world setUp).call ?_
    intro err started accounted
    split
    · exact (ends_pure _ _).mpr accounted
    · exact KeepsAccounts.bind (.of_spares (SparesRequests.getRequest r))
        (fun _ => .bind (.of_spares (SparesRequests.rspSendText _)) fun _ => .pure 0) _ accounted

theorem Launches.storeExtraHeaders (r : Slot) (headers : List Byte) (launches : Launches r next) :
    Launches r (storeExtraHeaders modem r headers next) := by
  unfold Socket.storeExtraHeaders
  split
  · exact launches
  · split
    · exact (Prepares.pure _).launches
    · apply Launches.withCopy
      exact .fill launches (fun _ => rfl) fun _ => rfl

theorem Launches.withParam {Value : Type} {param : Outcome Value}
    {next : Value → SocketM Int} (launches : ∀ value, Launches r (next value)) :
    Launches r (withParam param next) := by
  unfold Socket.withParam
  split
  · exact (Prepares.pure _).launches
  · exact launches _

theorem Launches.httpSetupRequest (parser : AtParser) (r : Slot) (fd : Int) :
    Launches r (httpSetupRequest cfg env modem parser r fd) := by
  have refused : ∀ err : Int, Launches r (pure err) :=
    fun err => (Prepares.pure err).launches
  apply Launches.withParam
  intro url
  split
  · exact refused _
  · apply Launches.withParam
    intro number
    split
    · exact refused _
    · split
      · exact refused _
      · split
        · exact refused _
        · split
          · exact refused _
          · refine .fill ?_ (fun _ => rfl) fun _ => rfl
            apply Launches.storeExtraHeaders
            refine .fill ?_ (fun _ => rfl) fun _ => rfl
            apply Prepares.then (.httpParseUrlComponents r url)
            intro err
            split
            · exact refused _
            · exact .httpLaunch r _ _

theorem bodies_started (world : World) (r : Slot) (req : HttpRequest) :
    ((world.setRequest r (some req)).record (.httpStarted r)).bodies =
      world.bodies.put r (some req) {} := by
  rw [World.bodies_record, Bodies.put]
  simp only [World.bodies, World.setRequest, Bodies.mk.injEq, true_and,
    reduceCtorEq, false_and, if_false]
  funext other
  by_cases equal : other = r
  · subst equal
    rw [Function.update_self]
    exact if_pos rfl
  · rw [Function.update_of_ne equal]
    exact if_neg (Ne.symm equal)

theorem allocRequest_setUp (accounted : world.bodies.Accounted) :
    Ends world (allocRequest cfg modem) fun allocated after =>
      after.bodies.Accounted ∧ ∀ r, allocated = some r → BeingSetUp r after := by
  have nothing : ∀ middle : World, middle.bodies = world.bodies →
      Ends middle (pure none : SocketM (Option Slot))
        fun allocated after => after.bodies.Accounted ∧
          ∀ r, allocated = some r → BeingSetUp r after := by
    intro middle same
    refine (ends_pure _ _).mpr ⟨?_, fun r absent => by cases absent⟩
    rw [same]
    exact accounted
  unfold allocRequest
  rw [ends_bind, ends_get]
  split
  · exact nothing world rfl
  · rename_i r found
    have free : world.httpRequests r = none := by
      simpa using find?_some found
    refine (SparesRequests.malloc _ world).call ?_
    intro granted first sameFirst
    split
    · refine (SparesRequests.malloc _ first).call ?_
      intro grantedBuffer second sameSecond
      split
      · rw [ends_bind, ends_modify, emit, ends_bind, ends_modify, ends_pure]
        have started := bodies_started second r { pipe := smAtHostGetCurrentPipe cfg second.host }
        have same := sameSecond.trans sameFirst
        have accountedAfter : Bodies.Accounted (second.bodies.put r
            (some { pipe := smAtHostGetCurrentPipe cfg second.host }) {}) := by
          rw [same]
          apply accounted.put
          · exact .of_live (.asking (.inl rfl)
              ⟨rfl, rfl, rfl, rfl, int32_zero.symm, rfl, rfl⟩ rfl) .nothing
          · intro isDatamodeReq
            obtain ⟨req, isRequest, _⟩ := accounted.streaming r isDatamodeReq
            rw [show world.bodies.requests r = none from free] at isRequest
            cases isRequest
        rw [← started] at accountedAfter
        refine ⟨accountedAfter, ?_⟩
        intro other isOther
        cases isOther
        exact ⟨accountedAfter, _, World.httpRequests_setRequest_self _ _ _, rfl⟩
      · exact nothing second (sameSecond.trans sameFirst)
    · exact nothing first sameFirst

namespace KeepsAccounts

theorem orCloseRequest {r : Slot} {starting : SocketM Int} {world : World}
    (starts : Ends world starting fun _ after => after.bodies.Accounted) :
    Ends world (orCloseRequest r starting) fun _ after => after.bodies.Accounted := by
  refine starts.call ?_
  intro err started accounted
  split
  · exact bind (httpCloseRequest r) (fun _ => pure err) started accounted
  · exact pure 0 started accounted

variable {parser : AtParser}

theorem withParam {Value : Type} {param : Outcome Value} {next : Value → SocketM Int}
    (keeps : ∀ value, KeepsAccounts (next value)) :
    KeepsAccounts (withParam param next) := by
  unfold Socket.withParam
  split
  · exact pure _
  · exact keeps _

theorem withSocket {fd : Int} {next : Slot → SocketM Int}
    (keeps : ∀ slot, KeepsAccounts (next slot)) :
    KeepsAccounts (withSocket fd next) := by
  apply bind get
  intro world
  split
  · exact pure _
  · exact keeps _

theorem handleAtHttpcreq : KeepsAccounts (handleAtHttpcreq cfg env modem parser) := by
  unfold Socket.handleAtHttpcreq
  split
  · exact pure _
  · apply withParam
    intro fd
    apply withSocket
    intro _
    apply bind get
    intro world
    split
    · exact pure _
    · intro before accounted
      refine (allocRequest_setUp accounted).call ?_
      rintro allocated started ⟨accountedStarted, setUp⟩
      split
      · exact pure _ started accountedStarted
      · rename_i r
        exact orCloseRequest (Launches.httpSetupRequest parser r fd started (setUp r rfl))

theorem handleAtHttpcdata : KeepsAccounts (handleAtHttpcdata cfg modem parser) := by
  unfold Socket.handleAtHttpcdata
  split
  · exact pure _
  · exact withParam fun fd => pullData fd _

theorem handleAtHttpccancel : KeepsAccounts (handleAtHttpccancel cfg parser) := by
  apply withParam
  intro fd
  apply bind get
  intro world
  split
  · exact pure _
  · exact bind (httpCancelRequest _) fun _ => pure 0

theorem doSocketClose (slot : Slot) : KeepsAccounts (doSocketClose cfg modem slot) := by
  have answered : ∀ fd ret, KeepsAccounts (do
      rspSendText cfg (report "#XCLOSE" [decimal fd, decimal ret])
      Socket.smAtHttpcSocketClosed cfg fd
      initSocket cfg slot
      Pure.pure ret) := by
    intro fd ret
    exact bind (of_spares (SparesRequests.rspSendText _)) fun _ =>
      bind (smAtHttpcSocketClosed fd) fun _ =>
        bind (silent fun _ => Performs.initSocket trivial slot) fun _ =>
          pure ret
  apply bind get
  intro world
  dsimp only
  split
  · exact pure 0
  · have closes : SparesRequests (zsockClose modem (world.socks slot).fd) := by
      intro before
      unfold zsockClose
      rw [ends_bind, ends_get]
      refine (SparesRequests.emit (by rfl) before).call ?_
      intro _ after same
      exact (ends_pure _ _).mpr same
    apply bind (of_spares closes)
    intro result
    split
    · exact bind (pure _) (answered _)
    · exact bind (pure _) (answered _)

theorem closeAll (remaining : List Slot) :
    ∀ err, KeepsAccounts (closeAll cfg modem remaining err) := by
  induction remaining with
  | nil => exact fun err => pure err
  | cons slot rest ih =>
    exact fun _ => bind (doSocketClose slot) fun _ => ih _

theorem handleAtClose : KeepsAccounts (handleAtClose cfg modem parser) := by
  unfold Socket.handleAtClose
  split
  · exact withParam fun fd => withSocket doSocketClose
  · exact closeAll slots 0

/-- Only four commands touch a request. -/
theorem handler (command : SocketCommand) :
    KeepsAccounts (command.handler cfg env modem parser) := by
  by_cases changes : command.changesBodies = true
  · cases command with
    | xclose => exact handleAtClose
    | xhttpcreq => exact handleAtHttpcreq
    | xhttpcdata => exact handleAtHttpcdata
    | xhttpccancel => exact handleAtHttpccancel
    | _ => cases changes
  · have other : command ≠ .xhttpcreq := by
      rintro rfl
      exact changes rfl
    apply of_spares
    intro world
    have performs : Ends world (command.handler cfg env modem parser) fun _ after =>
          Effects cfg (command.permissions anywhere) world after :=
      handler_performs fun _ _ _ _ => trivial
    exact performs.mono fun _ _ effects => effects.bodies changes other other

theorem runCommand (command : SocketCommand) :
    KeepsAccounts (runCommand cfg env modem command parser) := by
  have modifies : ∀ change : Host → Host, KeepsAccounts (modifyHost change) := by
    intro change world accounted
    rw [modifyHost, ends_modify]
    exact accounted
  apply bind get
  intro world
  split
  · intro before _
    exact ends_failure _
  · refine bind (modifies _) fun _ => bind (handler command) fun err => ?_
    split
    · exact bind (modifies _) fun _ => modifies _
    · exact bind (modifies _) fun _ => modifies _

theorem perform (action : WorldAction) : KeepsAccounts (action.perform cfg env modem) := by
  cases action with
  | machine hostAction => exact machineAction hostAction
  | pollCallback fd revents =>
    have left : ∀ base, Performs cfg (besideRequests False) base (pollCb fd revents) :=
      fun _ => Performs.pollCb fd revents
    exact silent left
  | sendCallback fd status bytesSent =>
    have acknowledged : ∀ base, Performs cfg (besideRequests True) base
        (sendCb fd status bytesSent) :=
      fun _ _ reached => Performs.sendCb trivial reached (fun _ _ => trivial) status bytesSent
    exact of_spares (.of_performs acknowledged)
  | command name parser => exact runCommand name
  | httpTimeout expired =>
    apply bind get
    intro world
    split
    · exact httpTimeoutWorkFn expired
    · intro before _
      exact ends_failure _

end KeepsAccounts

/-! ## Every run -/

def receiveCalls (log : SocketLog) : Nat :=
  log.countP fun event =>
    match event with
    | .zsockRecv _ _ => true
    | _ => false

theorem eagain_pos : 0 < 11 := by
  decide

theorem enodata_pos : 0 < 61 := by
  decide

def responseModem (pieces : List (List Byte)) : Modem :=
  { calmModem with
    httpParserParseUrl := fun _ => some ⟨none, some (7, 1), none, none, none⟩
    zsockRecv := fun log _ length _ =>
      match pieces[receiveCalls log]? with
      | some piece => .done ⟨piece.take length, length_take_le _ _⟩
      | none => .failed ⟨11, eagain_pos⟩ }

def httpcreqParser (values : List Int) : AtParser :=
  { numbers values [] with
    string := fun index =>
      if index = 2 then
        .done (ascii "http://a/")
      else
        .failed ⟨61, enodata_pos⟩ }

def eventActions (fd : Int) (events : PollEvents) (messages : Nat) : List WorldAction :=
  [.pollCallback fd events, .machine (.host .dispatch), .machine (.host .dispatch)] ++
    (replicate messages [.machine (.takeMessage none), .machine .idleItem]).flatten ++
    [.machine .endMessages]

end SerialModem.Socket
