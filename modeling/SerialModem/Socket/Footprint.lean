import SerialModem.AtHost.ModeChange
import SerialModem.Socket.Effects

/-!
# The effects of each function

One lemma for each function, in the order of the source: which effects it has,
and what has to be permitted for it.
-/

namespace SerialModem.Socket

open Library Library.Program
open AtHost

variable {cfg : Config} {env : Environment} {modem : Modem}
variable {permits : Permits} {base : World} {Value : Type}

def EndsEarly (event : Event) : Prop :=
  ∀ c handler flags, event = .handlerExit c handler flags → flags.exitHandler = true

theorem exitDatamodeHandler_exits {c : CtxId} {result : Int} {host : Host} {event : Event}
    (member : event ∈ (exitDatamodeHandler cfg env c result host).history.drop
      host.history.length) :
    EndsEarly event := by
  have exited : ∀ state : Host, Appends EndsEarly state
      (callHandlerExit cfg env c ⟨false, true⟩ state) := by
    intro state
    unfold callHandlerExit
    split
    · exact Appends.refl state
    · rename_i handler _
      have calls : Undisturbed cfg (state.record (.handlerExit c handler ⟨false, true⟩))
          (performCalls cfg (env.handlerExit state.history c handler ⟨false, true⟩)
            (state.record (.handlerExit c handler ⟨false, true⟩))) :=
        performCalls_undisturbed _ _
      have recorded : Appends EndsEarly state
          (state.record (.handlerExit c handler ⟨false, true⟩)) := by
        apply Appends.record
        intro d other flags isExit
        cases isExit
        rfl
      refine recorded.trans (calls.replies.mono ?_)
      intro event reply d other flags isExit
      subst isExit
      exact False.elim reply
  have appended : Appends EndsEarly host (exitDatamodeHandler cfg env c result host) := by
    unfold exitDatamodeHandler
    by_cases effective : c ∈ host.instanceList ∧ (host.data c).atMode ≠ .atCommandMode
    · rw [setSmMode_nullMode cfg env effective.1 effective.2]
      have noted : Appends EndsEarly host
          ((host.setData c { host.data c with atMode := .nullMode }).record
            (.exitDatamodeHandler c result)) := by
        apply Appends.record
        intro d other flags isExit
        cases isExit
      exact noted.trans (exited _)
    · rw [setSmMode_nullMode_refused cfg env effective]
      exact Appends.refl host
  obtain ⟨added, history, all⟩ := appended
  rw [history, List.drop_left] at member
  exact all event member

theorem findSocket_congr {before after : World} (fd : Int)
    (same : ∀ slot, (after.socks slot).fd = (before.socks slot).fd) :
    findSocket fd after = findSocket fd before := by
  simp only [findSocket, same]

theorem fd_setPoll (world : World) (slot : Slot) (poll : AsyncPoll) (other : Slot) :
    ((world.setPoll slot poll).socks other).fd = (world.socks other).fd := by
  by_cases equal : other = slot
  · subst equal
    simp [World.setPoll]
  · simp [World.setPoll, World.socks_setSock_of_ne _ _ equal]

namespace Performs

/-! ## Calls of the AT host and of the modem -/

theorem hostCall (call : HostCall) : Performs cfg permits base (hostCall cfg call) :=
  assigns fun world =>
    .host (Steady.of_undisturbed (performCall_undisturbed call world.host))

theorem emit {event : SocketEvent} (isCall : event.isCall) :
    Performs cfg permits base (emit event) :=
  assigns fun _ => .call isCall

theorem smAtHostLockPipe (pipe : Option PipeId) :
    Performs cfg permits base (smAtHostLockPipe cfg pipe) := by
  apply bind get
  intro world
  split
  · exact hostCall _
  · exact pure ()

theorem smAtHostUnlockPipe (pipe : Option PipeId) :
    Performs cfg permits base (smAtHostUnlockPipe cfg pipe) := by
  apply bind get
  intro world
  split
  · exact hostCall _
  · exact pure ()

theorem zsockSetsockopt (fd : Int) (option : SockOption) :
    Performs cfg permits base (zsockSetsockopt modem fd option) :=
  bind get fun _ => bind (emit trivial) fun _ => pure _

theorem zsockRecv (fd : Int) (length : Nat) (flags : BitVec 32) :
    Performs cfg permits base (zsockRecv modem fd length flags) :=
  bind get fun _ => bind (emit trivial) fun _ => pure _

theorem zsockRecvfrom (fd : Int) (length : Nat) (flags : BitVec 32) :
    Performs cfg permits base (zsockRecvfrom modem fd length flags) :=
  bind get fun _ => bind (emit trivial) fun _ => pure _

/-! ## Polling -/

theorem modifySock (slot : Slot) {change : SmSocket → SmSocket}
    (same : ∀ sock, SmSocket.SameLinks sock (change sock)) :
    Performs cfg permits base (modifySock slot change) :=
  assigns fun world => .member (same (world.socks slot))

theorem modifyPoll (slot : Slot) {change : AsyncPoll → AsyncPoll}
    (xapoll : ∀ poll, (change poll).xapollEvents = poll.xapollEvents)
    (requested : ∀ poll, (change poll).xapollEventsRequested = poll.xapollEventsRequested)
    (disable : ∀ poll, (change poll).disable = false → poll.disable = false) :
    Performs cfg permits base (modifyPoll slot change) :=
  assigns fun world =>
    .settings (xapoll (world.poll slot)) (requested (world.poll slot)) (disable (world.poll slot))

theorem setSoPollCb (slot : Slot) (events : PollEvents) :
    Performs cfg permits base (setSoPollCb modem slot events) := by
  apply bind get
  intro world
  apply bind (zsockSetsockopt _ _)
  intro result
  split <;> exact pure _

theorem reassignLost (slot : Slot) : Performs cfg permits base (reassignLost cfg slot) := by
  apply read
  intro world reached
  split
  · rename_i lost
    rw [ends_set]
    exact reached.tail (.reassign (Option.isNone_iff_eq_none.mp lost))
  · exact pure () world reached

variable {slot : Slot} {world : World}

theorem poll_of_reassignLost : Ends world (Socket.reassignLost cfg slot) fun _ after =>
      after.poll slot = world.poll slot := by
  rw [Socket.reassignLost, ends_bind, ends_get]
  split
  · rw [ends_set, World.poll, World.record, World.socks_setSock_self]
    rfl
  · exact (ends_pure _ _).mpr rfl

/-- `update_poll_events` adds to the events to be notified only what the host
has requested. -/
theorem notified_within (poll : AsyncPoll) (events : PollEvents) (updateXapoll : Bool) :
    BitMask.Within (poll.notified events updateXapoll) poll.xapollEventsRequested ∧
      BitMask.Within (poll.notified events updateXapoll) events := by
  unfold AsyncPoll.notified
  cases updateXapoll with
  | false => exact ⟨BitMask.Within.zero _, BitMask.Within.zero _⟩
  | true => exact ⟨BitMask.Within.and_left _ _, BitMask.Within.and_right _ _⟩

theorem updatePollEvents {cause : PollCause} {events : PollEvents} {updateXapoll : Bool}
    (caused : updateXapoll = true → BitMask.Within events cause.mayNotify)
    (renewed : permits.renews ∨ cause.renews = false) (slot : Slot) :
    Performs cfg permits base (updatePollEvents cfg modem cause slot events updateXapoll) := by
  apply read
  intro world reached
  split
  · exact pure 0 world reached
  · rename_i enabled
    have stillEnabled : Ends world (Socket.reassignLost cfg slot)
        fun _ after => Effects cfg permits base after ∧ (after.poll slot).disable = false := by
      refine fun value after ran =>
        ⟨reassignLost slot world reached value after ran, ?_⟩
      rw [poll_of_reassignLost value after ran]
      exact Bool.eq_false_of_not_eq_true enabled
    refine stillEnabled.call ?_
    rintro _ assigned ⟨reachedAssigned, isEnabled⟩
    rw [armPoll, ends_bind, ends_modify]
    have within :=
      notified_within (assigned.poll slot) events updateXapoll
    have armed := reachedAssigned.tail (.arm within.1 within.2 ?_ isEnabled renewed)
    · exact (bind get fun armed => setSoPollCb slot _) _ armed
    · cases updateXapoll with
      | false => exact BitMask.Within.zero _
      | true => exact within.2.trans (caused rfl)

theorem selectEvents (cause : PollCause) (slot : Slot) (requested : PollEvents) :
    Performs cfg permits base (selectEvents cause slot requested) :=
  assigns fun _ => .select

theorem setXapollEventsLoop (renews : permits.renews) (pipe : Option PipeId) (events : PollEvents) :
    ∀ remaining : List Slot, Performs cfg permits base
      (setXapollEventsLoop cfg modem pipe events remaining)
  | [] => pure 0
  | slot :: rest => by
    apply bind get
    intro world
    split
    · apply bind (selectEvents .started slot events)
      intro _
      apply bind (updatePollEvents (fun _ => BitMask.Within.allOnes _) (.inl renews) slot)
      intro ret
      split
      · exact pure ret
      · exact setXapollEventsLoop renews pipe events rest
    · exact setXapollEventsLoop renews pipe events rest

theorem attachSock (mayAttach : MayAttach cfg permits base slot)
    {next : SocketM Value} (performs : Performs cfg permits base next)
    (reached : Effects cfg permits base world) :
    Ends world (do
      Socket.attachSock slot (smAtHostGetCurrentPipe cfg world.host)
      next) fun _ after => Effects cfg permits base after := by
  unfold Socket.attachSock
  rw [ends_bind, ends_modify]
  exact performs _ (reached.tail (.attach (mayAttach world reached)))

theorem setXapollEvents (mayAttach : MayAttach cfg permits base slot)
    {cause : PollCause} {events : PollEvents}
    (caused : BitMask.Within events cause.mayNotify)
    (renewed : permits.renews ∨ cause.renews = false) :
    Performs cfg permits base (setXapollEvents cfg modem cause slot events) := by
  apply read
  intro world reached
  refine attachSock mayAttach ?_ reached
  apply bind (selectEvents cause slot events)
  intro _
  exact updatePollEvents (fun _ => caused) renewed slot

theorem setXapollEventsAll (renews : permits.renews) (events : PollEvents) :
    Performs cfg permits base (setXapollEventsAll cfg modem events) := by
  apply read
  intro world reached
  dsimp only
  split
  · exact failure world reached
  · refine assign reached (.context rfl) ?_
    exact setXapollEventsLoop renews _ events slots

theorem xapollStop (cause : PollCause) (slot : Slot) :
    Performs cfg permits base (xapollStop cause slot) :=
  selectEvents cause slot 0

theorem xapollStopAll : Performs cfg permits base (xapollStopAll cfg) := by
  apply read
  intro world reached
  dsimp only
  split
  · exact failure world reached
  · refine assign reached (.context rfl) ?_
    apply forM slots
    intro slot _
    apply bind get
    intro world
    split
    · exact selectEvents .stopped slot 0
    · exact pure ()

/-! ## Receiving -/

theorem dataSendHexLoop (pipe : Option PipeId) : ∀ (fuel : Nat) (content : List Byte),
      Performs cfg permits base (dataSendHexLoop cfg pipe fuel content)
  | 0, _ => pure ()
  | _ + 1, [] => pure ()
  | fuel + 1, byte :: rest =>
    bind (hostCall _) fun _ =>
      dataSendHexLoop pipe fuel ((byte :: rest).drop hexChunk)

theorem sendHeader (pipe : Option PipeId) (header : List Byte) :
    Performs cfg permits base (sendHeader cfg pipe header) := by
  apply bind get
  intro world
  split
  · exact pure ()
  · exact hostCall _

theorem forwardData (slot : Slot) (mode : UInt16) (header content : List Byte) :
    Performs cfg permits base (forwardData cfg slot mode header content) := by
  apply bind get
  intro world
  apply bind (smAtHostLockPipe _)
  intro _
  apply bind (sendHeader _ header)
  intro _
  split
  · exact bind (dataSendHexLoop _ _ content) fun _ => smAtHostUnlockPipe _
  · exact bind (hostCall _) fun _ => smAtHostUnlockPipe _

theorem doRecv (slot : Slot) (timeout : Int) (flags : BitVec 32) (mode : UInt16) (dataLen : Nat) :
    Performs cfg permits base (doRecv cfg modem slot timeout flags mode dataLen) := by
  apply bind get
  intro world
  apply bind (zsockSetsockopt _ _)
  intro configured
  split
  · exact pure _
  · apply bind (zsockRecv _ _ _)
    intro received
    split
    · exact pure _
    · split
      · exact pure 0
      · apply bind (forwardData slot mode _ _)
        intro _
        exact bind (updatePollEvents (by decide) (.inr rfl) slot) fun _ => pure 0

theorem doRecvfrom (slot : Slot) (timeout : Int) (flags : BitVec 32)
    (mode : UInt16) (dataLen : Nat) :
    Performs cfg permits base (doRecvfrom cfg modem slot timeout flags mode dataLen) := by
  apply bind get
  intro world
  apply bind (zsockSetsockopt _ _)
  intro configured
  split
  · exact pure _
  · apply bind (zsockRecvfrom _ _ _)
    intro received
    split
    · exact pure _
    · split
      · exact pure 0
      · apply bind (forwardData slot mode _ _)
        intro _
        exact bind (updatePollEvents (by decide) (.inr rfl) slot) fun _ => pure 0

theorem asReception (slot : Slot) (automatic : Bool) {receive : SocketM Int}
    (performs : Performs cfg permits base receive) :
    Performs cfg permits base (asReception slot automatic receive) := by
  apply bind get
  intro before
  apply bind performs
  intro ret
  apply bind get
  intro after
  exact bind (emit trivial) fun _ => pure ret

theorem autoReception (slot : Slot) : Performs cfg permits base (autoReception cfg modem slot) := by
  have receive : Performs cfg permits base (autoReceive cfg modem slot) := by
    apply bind get
    intro world
    dsimp only
    split
    · exact doRecv slot 0 _ _ _
    · exact doRecvfrom slot 0 _ _ _
  have locked : Performs cfg permits base (autoReceptionLocked cfg modem slot) := by
    apply bind get
    intro world
    apply bind (smAtHostLockPipe _)
    intro _
    apply bind receive
    intro err
    apply bind get
    intro received
    dsimp only
    split
    · exact bind (smAtHostUnlockPipe _) fun _ => pure err
    · apply bind (sendHeader _ crlfStr)
      intro _
      exact bind (smAtHostUnlockPipe _) fun _ => pure err
  apply bind get
  intro world
  split
  · exact pure ()
  · exact bind (asReception slot true locked) fun _ => pure ()

/-! ## Sending -/

theorem zsockSend (fd : Int) (content : List Byte) (flags : BitVec 32) :
    Performs cfg permits base (zsockSend modem fd content flags) :=
  bind get fun _ => bind (emit trivial) fun _ => pure _

theorem zsockSendto (fd : Int) (content : List Byte) (flags : BitVec 32) (peer : Peer) :
    Performs cfg permits base (zsockSendto modem fd content flags peer) :=
  bind get fun _ => bind (emit trivial) fun _ => pure _

theorem utilResolveHost (cid : UInt16) (url : List Byte) (port : UInt16) (family : Int) :
    Performs cfg permits base (utilResolveHost modem cid url port family) :=
  bind get fun _ => bind (emit trivial) fun _ => pure _

theorem setSoSendCb (slot : Slot) : Performs cfg permits base (setSoSendCb modem slot) := by
  apply bind get
  intro world
  dsimp only
  split
  · exact pure 0
  · apply bind (zsockSetsockopt _ _)
    intro result
    split
    · exact pure _
    · apply bind
      · exact modifySock slot fun _ => ⟨rfl, rfl, rfl, rfl, rfl⟩
      · intro _
        exact pure 0

theorem clearSoSendCb (slot : Slot) : Performs cfg permits base (clearSoSendCb modem slot) := by
  apply bind get
  intro world
  dsimp only
  split
  · apply bind (zsockSetsockopt _ _)
    intro result
    apply bind
    · exact modifySock slot fun _ => ⟨rfl, rfl, rfl, rfl, rfl⟩
    · intro _
      split <;> exact pure _
  · exact pure 0

theorem prepareSendCb (slot : Slot) (flags : BitVec 32) :
    Performs cfg permits base (prepareSendCb modem slot flags) := by
  unfold Socket.prepareSendCb
  split
  · exact setSoSendCb slot
  · exact clearSoSendCb slot

theorem sendLoop (fd : Int) (flags : BitVec 32) :
    ∀ (fuel : Nat) (content : List Byte) (ret : Int) (sent : Nat),
      Performs cfg permits base (sendLoop modem fd flags fuel content ret sent)
  | 0, _, _, _ => pure _
  | _ + 1, [], _, _ => pure _
  | fuel + 1, byte :: rest, ret, sent => by
    apply bind (zsockSend _ _ _)
    intro result
    split
    · exact pure _
    · exact sendLoop fd flags fuel _ _ _

theorem pollAfterSend (slot : Slot) (flags : BitVec 32) :
    Performs cfg permits base (pollAfterSend cfg modem slot flags) := by
  unfold Socket.pollAfterSend
  split
  · exact pure ()
  · exact bind (updatePollEvents (by decide) (.inr rfl) slot) fun _ => pure ()

theorem rspSendText (content : List Byte) : Performs cfg permits base (rspSendText cfg content) :=
  hostCall _

theorem doSend (slot : Slot) (content : List Byte) (flags : BitVec 32) :
    Performs cfg permits base (doSend cfg modem slot content flags) := by
  apply bind get
  intro world
  apply bind (prepareSendCb slot flags)
  intro ret
  split
  · exact pure ret
  · apply bind (sendLoop _ _ _ _ _ _)
    rintro ⟨ret, sent⟩
    apply bind get
    intro world
    dsimp only
    split
    · exact bind (pollAfterSend slot flags) fun _ => pure _
    · exact bind (rspSendText _) fun _ =>
        bind (pollAfterSend slot flags) fun _ => pure _

theorem sendtoLoop (fd : Int) (datagram : Bool) (flags : BitVec 32) (peer : Peer) :
    ∀ (fuel : Nat) (content : List Byte) (sent : Nat), Performs cfg permits base
        (sendtoLoop modem fd datagram flags peer fuel content sent)
  | 0, _, _ => pure _
  | fuel + 1, content, sent => by
    apply bind (zsockSendto _ _ _ _)
    intro result
    split
    · exact pure _
    · split
      · exact pure _
      · exact sendtoLoop fd datagram flags peer fuel _ _

theorem doSendto (slot : Slot) (url : List Byte) (port : UInt16)
    (content : List Byte) (flags : BitVec 32) :
    Performs cfg permits base (doSendto cfg modem slot url port content flags) := by
  apply bind get
  intro world
  dsimp only
  apply bind (utilResolveHost _ _ _ _)
  intro resolved
  split
  · exact pure _
  · apply bind (prepareSendCb slot flags)
    intro ret
    split
    · exact pure ret
    · apply bind (sendtoLoop _ _ _ _ _ _ _)
      rintro ⟨ret, sent⟩
      apply bind get
      intro world
      dsimp only
      split
      · exact bind (pollAfterSend slot flags) fun _ => pure _
      · exact bind (rspSendText _) fun _ =>
          bind (pollAfterSend slot flags) fun _ => pure _

/-! ## Acknowledgements -/

theorem queueIdleWork {pipe : Option PipeId} {item : IdleItem}
    (permitted : permits.queues pipe item) :
    Performs cfg permits base (queueIdleWork pipe item) := by
  apply read
  intro world reached
  split
  · exact failure world reached
  · rename_i queued
    rw [ends_set]
    exact reached.tail (.queue permitted queued)

theorem sendCb (permitted : permits.acknowledges) {fd : Int}
    (reached : Effects cfg permits base world)
    (queues : ∀ slot, findSocket fd world = some slot →
      permits.queues (world.socks slot).pipe .sendCb) (status : Int)
    (bytesSent : Nat) :
    Ends world (sendCb fd status bytesSent) fun _ after =>
      Effects cfg permits base after := by
  unfold Socket.sendCb
  rw [ends_bind, ends_get]
  split
  · exact pure () world reached
  · rename_i slot found
    split
    · rename_i ready
      unfold Socket.emit
      rw [ends_modify]
      exact reached.tail (.rejected permitted ready)
    · rename_i notReady
      rw [storeSendNtf, ends_bind, ends_modify]
      apply queueIdleWork (queues slot found)
      exact reached.tail (.sendCallback permitted (Bool.eq_false_of_not_eq_true notReady))

theorem sendCbFnStep (slot : Slot) : Performs cfg permits base (sendCbFnStep cfg modem slot) := by
  have notified : ∀ pipe content, Performs cfg permits base (do
      Socket.urcSendToPipe cfg pipe content
      let _ ← Socket.updatePollEvents cfg modem .acknowledged slot zsockPollout true
      Pure.pure ()) := by
    intro pipe content
    apply bind (hostCall _)
    intro _
    exact bind (updatePollEvents (by decide) (.inr rfl) slot) fun _ => pure ()
  apply read
  intro world reached
  dsimp only
  split
  · rename_i taken
    unfold takeSendNtf
    rw [ends_bind, ends_modify]
    exact notified _ _ _ (reached.tail (.xsendntf taken.2))
  · exact pure () world reached

theorem sendCbFn : Performs cfg permits base (sendCbFn cfg modem) :=
  forM slots fun slot _ => sendCbFnStep slot

/-! ## The HTTP client -/

section

variable [Fact permits.bodies]

variable {change : HttpRequest → HttpRequest}

theorem modifyRequest_effect (r : Slot) (sameFd : ∀ req, (change req).fd = req.fd) (world : World) :
    Effect cfg permits world (world.setRequest r ((world.httpRequests r).map change)) := by
  refine Effect.requests Fact.out ?_ (.inl rfl)
  intro other req found
  by_cases equal : other = r
  · subst equal
    rw [Function.update_self, Option.map_eq_some_iff] at found
    obtain ⟨old, isOld, rfl⟩ := found
    exact ⟨old, isOld, sameFd old⟩
  · rw [Function.update_of_ne equal] at found
    exact ⟨req, found, rfl⟩

theorem modifyRequest (r : Slot) (sameFd : ∀ req, (change req).fd = req.fd) :
    Performs cfg permits base (modifyRequest r change) :=
  assigns (modifyRequest_effect r sameFd)

theorem note {event : SocketEvent} (ofBody : event.ofBody) :
    Performs cfg permits base (Socket.emit event) :=
  assigns fun _ => .body Fact.out ofBody

theorem changeRequest {r : Slot} {next : SocketM Value} (performs : Performs cfg permits base next)
    (sameFd : ∀ req, (change req).fd = req.fd) :
    Performs cfg permits base (do
      Socket.modifyRequest r change
      next) :=
  bind (modifyRequest r sameFd) fun _ => performs

theorem clearDatamodeReq : Performs cfg permits base (modify fun world : World =>
      { world with datamodeReq := none }) :=
  assigns fun _ =>
    .requests Fact.out (fun _ req found => ⟨req, found, rfl⟩) (.inr rfl)

theorem freeRequest (r : Slot) : Performs cfg permits base (modify fun world : World =>
      { world.setRequest r none with
        datamodeReq :=
          if world.datamodeReq = some r then none else world.datamodeReq
      }) := by
  apply assigns
  intro world
  refine Effect.requests Fact.out ?_ ?_
  · intro other req found
    by_cases equal : other = r
    · subst equal
      rw [World.httpRequests_setRequest_self] at found
      cases found
    · rw [World.httpRequests_setRequest_of_ne _ _ equal] at found
      exact ⟨req, found, rfl⟩
  · split
    · exact .inr rfl
    · exact .inl rfl

omit [Fact permits.bodies] in
theorem getRequest (r : Slot) : Performs cfg permits base (getRequest r) := by
  apply bind get
  intro world
  split
  · exact failure
  · exact pure _

omit [Fact permits.bodies] in
theorem malloc (size : Nat) : Performs cfg permits base (malloc modem size) :=
  bind get fun _ => bind (emit trivial) fun _ => pure _

theorem allocRequest (requests : permits.requests) :
    Performs cfg permits base (allocRequest cfg modem) := by
  apply bind get
  intro world
  split
  · exact pure none
  · apply bind (malloc _)
    intro granted
    split
    · apply bind (malloc _)
      intro granted
      split
      · apply bind
        · exact assigns fun _ => .request requests
        · intro _
          exact bind (note trivial) fun _ => pure _
      · exact pure none
    · exact pure none

theorem httpCloseRequest (r : Slot) : Performs cfg permits base (httpCloseRequest r) := by
  apply bind (getRequest r)
  intro req
  apply bind get
  intro world
  dsimp only
  split
  · split
    · exact bind (xapollStop .httpClient _) fun _ => freeRequest r
    · exact freeRequest r
  · exact freeRequest r

theorem httpSendStat (r : Slot) (req : HttpRequest) (status bytes : Int) :
    Performs cfg permits base (httpSendStat cfg r req status bytes) :=
  bind (hostCall _) fun _ => note trivial

theorem httpFailRequest (r : Slot) : Performs cfg permits base (httpFailRequest cfg r) :=
  bind (getRequest r) fun _ =>
    bind (httpSendStat _ _ _ _) fun _ => httpCloseRequest r

theorem httpFinishRequest (r : Slot) : Performs cfg permits base (httpFinishRequest cfg r) :=
  bind (getRequest r) fun _ =>
    bind (httpSendStat _ _ _ _) fun _ => httpCloseRequest r

theorem httpCancelRequest (r : Slot) : Performs cfg permits base (httpCancelRequest cfg r) :=
  bind (getRequest r) fun _ =>
    bind (httpSendStat _ _ _ _) fun _ => httpCloseRequest r

omit [Fact permits.bodies] in
theorem httpSendPayload (req : HttpRequest) (content : List Byte) :
    Performs cfg permits base (httpSendPayload cfg req content) := by
  unfold Socket.httpSendPayload
  split
  · exact dataSendHexLoop _ _ content
  · exact hostCall _

theorem httpSendData (r : Slot) (content : List Byte) :
    Performs cfg permits base (httpSendData cfg r content) := by
  apply bind (getRequest r)
  intro req
  split
  · exact pure ()
  · apply bind (smAtHostLockPipe _)
    intro _
    apply bind (hostCall _)
    intro _
    refine changeRequest ?_ fun _ => rfl
    refine bind (note trivial) fun _ => ?_
    exact bind (httpSendPayload req content) fun _ =>
      bind (hostCall _) fun _ => smAtHostUnlockPipe _

theorem needRearm (r : Slot) : Performs cfg permits base (needRearm r) :=
  modifyRequest r fun _ => rfl

theorem httpHeadersComplete (r : Slot) (headerEnd : Nat) (slot : Slot) (hup : Bool) :
    Performs cfg permits base (httpHeadersComplete cfg r headerEnd slot hup) := by
  apply bind (getRequest r)
  intro received
  dsimp only
  refine changeRequest ?_ fun _ => rfl
  refine bind (note trivial) fun _ => ?_
  apply bind (getRequest r)
  intro req
  apply bind (hostCall _)
  intro _
  split
  · exact bind (httpFinishRequest r) fun _ => pure true
  · split
    · refine changeRequest ?_ fun _ => rfl
      exact bind (xapollStop .httpClient slot) fun _ => pure true
    · apply bind (httpSendData r _)
      intro _
      refine changeRequest ?_ fun _ => rfl
      apply bind (getRequest r)
      intro req
      split
      · exact bind (httpFinishRequest r) fun _ => pure true
      · split
        · exact bind (httpFinishRequest r) fun _ => pure true
        · exact pure false

theorem httpProcessRecvHeaders (r slot : Slot) (events : PollEvents) :
    Performs cfg permits base (httpProcessRecvHeaders cfg r slot events) := by
  apply bind (getRequest r)
  intro req
  split
  · apply bind (httpHeadersComplete r _ slot _)
    intro finished
    split
    · exact pure ()
    · exact needRearm r
  · split
    · exact httpFailRequest r
    · exact needRearm r

theorem httpProcessRecvBody (r slot : Slot) (events : PollEvents) :
    Performs cfg permits base (httpProcessRecvBody cfg r slot events) := by
  apply bind (getRequest r)
  intro received
  split
  · exact xapollStop .httpClient slot
  · apply bind (httpSendData r _)
    intro _
    refine changeRequest ?_ fun _ => rfl
    apply bind (getRequest r)
    intro req
    split
    · exact httpFinishRequest r
    · exact needRearm r

variable {slot : Slot}

theorem httpRecvRead (r : Slot) (mayAttach : MayAttach cfg permits base slot) :
    Performs cfg permits base (httpRecvRead cfg modem r slot) := by
  apply bind (getRequest r)
  intro req
  apply bind (zsockRecv _ _ _)
  intro result
  split
  · split
    · exact bind (setXapollEvents mayAttach (by decide) (.inr rfl)) fun _ => pure _
    · exact pure _
  · split
    · exact pure 0
    · refine changeRequest ?_ fun _ => rfl
      exact bind (note trivial) fun _ => pure _

theorem httpSendPart (r : Slot) (mayAttach : MayAttach cfg permits base slot) :
    Performs cfg permits base (httpSendPart cfg modem r slot) := by
  have selected : ∀ events, BitMask.Within events PollCause.httpClient.mayNotify →
      Performs cfg permits base (do
        let _ ← Socket.setXapollEvents cfg modem .httpClient slot events
        Pure.pure ()) :=
    fun events caused =>
      bind (setXapollEvents mayAttach caused (.inr rfl)) fun _ => pure ()
  apply bind (getRequest r)
  intro req
  apply bind (zsockSend _ _ _)
  intro result
  split
  · split
    · exact selected _ (by decide)
    · exact httpFailRequest r
  · refine changeRequest ?_ fun _ => rfl
    split
    · refine changeRequest ?_ fun _ => rfl
      exact selected _ (by decide)
    · exact selected _ (by decide)

theorem httpReceivePart (r : Slot) (mayAttach : MayAttach cfg permits base slot)
    (events : PollEvents) {closed process : SocketM Unit}
    (closes : Performs cfg permits base closed)
    (processes : Performs cfg permits base process) :
    Performs cfg permits base (httpReceivePart cfg modem r slot events closed process) := by
  unfold Socket.httpReceivePart
  split
  · exact closes
  · split
    · apply bind (httpRecvRead r mayAttach)
      intro ret
      split
      · split
        · exact httpFailRequest r
        · exact pure ()
      · split
        · exact closes
        · exact processes
    · exact pure ()

theorem httpProcessState (r : Slot)
    (mayAttach : MayAttach cfg permits base slot) (events : PollEvents)
    (state : HttpState) :
    Performs cfg permits base (httpProcessState cfg modem r slot events state) := by
  cases state with
  | idle | sendingBody => exact pure ()
  | sendingRequest =>
    rw [Socket.httpProcessState]
    split
    · exact httpFailRequest r
    · split
      · exact httpSendPart r mayAttach
      · exact pure ()
  | receivingHeaders =>
    exact httpReceivePart r mayAttach events (httpFailRequest r)
      (httpProcessRecvHeaders r slot events)
  | receivingBody =>
    exact httpReceivePart r mayAttach events (httpFinishRequest r)
      (httpProcessRecvBody r slot events)

theorem httpProcessRequest (r : Slot) (events : PollEvents)
    {world : World} (reached : Effects cfg permits base world)
    (mayAttach : ∀ req slot, world.httpRequests r = some req → findSocket req.fd world = some slot →
      MayAttach cfg permits base slot) :
    Ends world (httpProcessRequest cfg modem r events) fun _ after =>
      Effects cfg permits base after := by
  unfold Socket.httpProcessRequest Socket.getRequest
  rw [ends_bind, ends_bind, ends_get]
  split
  · exact ends_failure _
  · rename_i req isRequest
    rw [ends_pure, ends_bind, ends_get]
    split
    · exact httpFailRequest r world reached
    · rename_i slot found
      have may : MayAttach cfg permits base slot :=
        mayAttach req slot isRequest found
      split
      · exact httpFailRequest r world reached
      · exact httpProcessState r may events req.state world reached

theorem smAtHttpcPollEvent (fd : Int) (events : PollEvents)
    {world : World} (reached : Effects cfg permits base world)
    (mayAttach : ∀ slot, (findRequest fd world).isSome = true →
      findSocket fd world = some slot → MayAttach cfg permits base slot) :
    Ends world (smAtHttpcPollEvent cfg modem fd events)
      fun _ after => Effects cfg permits base after := by
  unfold Socket.smAtHttpcPollEvent
  rw [ends_bind, ends_get]
  split
  · exact pure false world reached
  · rename_i r isRequest
    have answered : Performs cfg permits base (do
        let world ← MonadState.get
        Pure.pure ((findRequest fd world).any fun r =>
          (world.httpRequests r).any HttpRequest.needRearmPollin)) :=
      bind get fun _ => pure _
    unfold Socket.modifyRequest
    rw [ends_bind, ends_modify, ends_bind]
    refine Ends.mono ?_ fun _ after => answered after
    apply httpProcessRequest
    · refine reached.tail (modifyRequest_effect r ?_ world)
      exact fun _ => rfl
    · intro req slot changed found
      rw [World.httpRequests_setRequest_self, Option.map_eq_some_iff] at changed
      obtain ⟨old, isOld, rfl⟩ := changed
      have onFd : old.fd = fd := by
        have runs := List.find?_some isRequest
        simpa [isOld] using runs
      apply mayAttach slot (by rw [isRequest]; rfl)
      rw [← onFd]
      exact found

theorem smAtHttpcSocketClosed (fd : Int) :
    Performs cfg permits base (smAtHttpcSocketClosed cfg fd) := by
  apply bind get
  intro world
  split
  · exact pure ()
  · exact httpCancelRequest _

theorem httpTimeoutWorkFn (expired : Slot → Bool) :
    Performs cfg permits base (httpTimeoutWorkFn cfg expired) := by
  apply forM slots
  intro r _
  apply bind get
  intro world
  split
  · exact pure ()
  · split
    · exact pure ()
    · split
      · exact httpFailRequest r
      · exact pure ()

/-! ## The data-mode callbacks -/

omit [Fact permits.bodies] in
theorem httpSendAll (fd : Int) : ∀ (fuel : Nat) (content : List Byte),
      Performs cfg permits base (httpSendAll modem fd fuel content)
  | 0, _ => pure _
  | _ + 1, [] => pure _
  | fuel + 1, byte :: rest => by
    apply bind (zsockSend _ _ _)
    intro result
    split
    · exact pure _
    · exact httpSendAll fd fuel _

theorem httpDatamodeSend (content : List Byte) :
    Performs cfg permits base (httpDatamodeSend cfg modem content) := by
  apply bind get
  intro world
  split
  · exact pure ()
  · apply bind (getRequest _)
    intro req
    apply bind (httpSendAll _ _ content)
    intro result
    split
    · exact pure ()
    · exact bind clearDatamodeReq fun _ =>
        httpFailRequest _

theorem httpBodySent {middle : World} {r : Slot} (isDatamodeReq : middle.datamodeReq = some r)
    (mayAttach : BodyMayAttach cfg permits middle) :
    Ends middle (httpBodySent cfg modem r) fun _ after =>
      Effects cfg permits middle after := by
  unfold Socket.httpBodySent Socket.getRequest
  rw [ends_bind, ends_bind, ends_get]
  split
  · exact ends_failure _
  · rename_i req isRequest
    rw [ends_pure, ends_bind, ends_get]
    split
    · exact httpFailRequest r middle (Effects.refl middle)
    · rename_i slot found
      have waits : Performs cfg permits middle (do
          Socket.modifyRequest r fun req =>
            { req with state := .receivingHeaders, recvBuf := [] }
          let err ← Socket.setXapollEvents cfg modem .httpClient slot zsockPollin
          if err ≠ 0 then Socket.httpFailRequest cfg r else Pure.pure ()) := by
        refine changeRequest ?_ fun _ => rfl
        apply bind (setXapollEvents (mayAttach r req slot isDatamodeReq isRequest found) (by decide)
          (.inr rfl))
        intro err
        split
        · exact httpFailRequest r
        · exact pure ()
      exact waits middle (Effects.refl middle)

theorem httpDatamodeExit (flags : Flags) {middle : World}
    (mayAttach : flags.exitHandler = false → BodyMayAttach cfg permits middle) :
    Ends middle (httpDatamodeExit cfg modem flags) fun _ after =>
      Effects cfg permits middle after := by
  unfold Socket.httpDatamodeExit
  rw [ends_bind, ends_get]
  split
  · split
    · exact hostCall _ middle (Effects.refl middle)
    · rename_i r _
      have failed : Performs cfg permits middle (do
          Socket.hostCall cfg (.rspSend .terminator)
          Socket.httpFailRequest cfg r
          modify fun world => { world with datamodeReq := none }
          Socket.hostCall cfg (.rspSend .terminator)) :=
        bind (hostCall _) fun _ => bind (httpFailRequest r) fun _ =>
          bind clearDatamodeReq fun _ => hostCall _
      exact failed middle (Effects.refl middle)
  · rename_i notHandler
    split
    · exact pure () middle (Effects.refl middle)
    · rename_i r isDatamodeReq
      refine (httpBodySent isDatamodeReq (mayAttach (by simpa using notHandler))).call ?_
      intro _ after effects
      exact bind clearDatamodeReq (fun _ => pure ()) after effects

end

section

variable (inSession : permits.sessions)
include inSession

theorem socketDatamodeSend (c : CtxId) (content : List Byte) (flags : Flags) :
    Performs cfg permits base (socketDatamodeSend cfg modem c content flags) := by
  apply bind get
  intro world
  split
  · exact failure
  · dsimp only
    split
    · exact pure ()
    · apply bind
      · exact assigns fun _ => .observed inSession trivial
      · intro _
        split
        · exact bind (doSendto _ _ _ content _) fun _ => pure ()
        · exact bind (doSend _ content _) fun _ => pure ()

theorem socketDatamodeExit (flags : Flags) :
    Performs cfg permits base (socketDatamodeExit cfg flags) := by
  apply read
  intro world reached
  split
  · exact failure world reached
  · rename_i p _
    have forgets : Performs cfg permits base (modify fun world : World =>
        world.setPollCtx p { world.pollCtx p with datamodeSock := none }) :=
      assigns fun _ => .datamodeSock inSession
    refine assign reached (.udp inSession) ?_
    split
    · exact bind (hostCall _) fun _ => forgets
    · exact forgets

end

section

variable (inSession : permits.sessions) (serves : permits.serves)
include serves

theorem onCtx (c : CtxId) {callback : SocketM Unit}
    (performs : ∀ middle, Effects cfg permits base middle → middle.host.currentCtx = some c →
      Ends middle callback fun _ after =>
        Effects cfg permits.whileServing middle after) :
    Performs cfg permits base (onCtx c callback) := by
  apply read
  intro before reached
  have entered : Effects cfg permits base (before.setHost (before.host.setCurrentCtx (some c))) :=
    reached.tail (.serve serves (Frame.setCurrentCtx _ _))
  rw [ends_bind, ends_set]
  refine (performs _ entered rfl).call ?_
  intro _ after effects
  rw [ends_modify]
  exact (entered.trans (effects.widen permits.whileServing_narrows)).tail
    (.serve serves (Frame.setCurrentCtx after.host _))

include inSession

variable [Fact permits.bodies]

theorem replaySend (event : Event) : Performs cfg permits base (replaySend cfg modem event) := by
  have within : ∀ (c : CtxId) {callback : SocketM Unit},
      (∀ middle, Performs cfg permits.whileServing middle callback) →
      Performs cfg permits base (Socket.onCtx c callback) :=
    fun c callback performs => onCtx serves c fun middle _ _ =>
      performs middle middle (Effects.refl middle)
  have serving : permits.whileServing.sessions := inSession
  unfold Socket.replaySend
  split
  · split
    · exact within _ fun _ => socketDatamodeSend serving _ _ _
    · split
      · exact within _ fun _ => httpDatamodeSend _
      · exact pure ()
  · exact pure ()

theorem replayExit {event : Event} (mayAttach : ExitMayAttach cfg permits base event) :
    Performs cfg permits base (replayExit cfg modem event) := by
  have serving : permits.whileServing.sessions := inSession
  unfold Socket.replayExit
  split
  · rename_i c handler flags
    split
    · exact onCtx serves c fun middle _ _ =>
        socketDatamodeExit serving flags middle (Effects.refl middle)
    · split
      · rename_i isHttp
        subst isHttp
        exact onCtx serves c fun middle reached current =>
          httpDatamodeExit flags fun normally =>
            mayAttach c flags rfl normally middle reached current
      · exact pure ()
  · exact pure ()

theorem replayCallbacks (since : Nat) {world : World} (reached : Effects cfg permits base world)
    (mayAttach : ∀ event, event ∈ world.host.history.drop since →
      ExitMayAttach cfg permits base event) :
    Ends world (replayCallbacks cfg modem since) fun _ after =>
      Effects cfg permits base after := by
  have replayed : Performs cfg permits base (do
      (world.host.history.drop since).forM (Socket.replaySend cfg modem)
      (world.host.history.drop since).forM (Socket.replayExit cfg modem)) :=
    bind (forM _ fun event _ => replaySend inSession serves event) fun _ =>
      forM _ fun event member =>
        replayExit inSession serves (mayAttach event member)
  unfold Socket.replayCallbacks
  rw [ends_bind, ends_get]
  exact replayed world reached

theorem leaveDatamode (c : CtxId) (result : Int) :
    Performs cfg permits base (leaveDatamode cfg env modem c result) := by
  apply read
  intro world reached
  rw [ends_bind, ends_set]
  apply replayCallbacks inSession serves
  · exact reached.tail (.serve serves (exitDatamodeHandler_confined cfg
      (outside env) c result world.host).frame)
  · intro event member d flags isExit normally
    have early : flags.exitHandler = true :=
      exitDatamodeHandler_exits member d httpDatamodeCallback flags isExit
    rw [normally] at early
    cases early

end

/-! ## Poll work -/

theorem submitPollWork (c : CtxId) : Performs cfg permits base (submitPollWork c) := by
  apply assigns
  intro world
  have submitted : Undisturbed cfg world.host (submitWork (.poll c) world.host) :=
    Undisturbed.submitWork world.host trivial
  exact .host (Steady.of_undisturbed submitted)

theorem pollCb (fd : Int) (revents : PollEvents) :
    Performs cfg permits base (pollCb fd revents) := by
  apply bind get
  intro world
  split
  · exact pure ()
  · rename_i slot _
    split
    · exact emit trivial
    · rename_i c _
      apply bind
      · exact emit trivial
      · intro _
        apply bind
        · exact modifyPoll slot (fun _ => rfl) (fun _ => rfl) fun _ => id
        · intro _
          exact submitPollWork c

theorem delayEvents {c : CtxId} {pipe : PipeId}
    (queues : permits.queues (some pipe) (.pollIdle c)) (slot : Slot)
    (revents : PollEvents) :
    Performs cfg permits base (delayEvents c pipe slot revents) := by
  apply bind
  · exact modifyPoll slot (fun _ => rfl) (fun _ => rfl) fun _ => id
  · intro _
    exact queueIdleWork queues

theorem reenableEvents (renews : permits.renews) (slot : Slot) (revents : PollEvents) :
    Performs cfg permits base (reenableEvents cfg modem slot revents) := by
  apply bind
  · exact assigns fun _ => .reenable
  · intro _
    apply bind get
    intro world
    apply bind (updatePollEvents (fun _ => BitMask.Within.allOnes _) (.inl renews) slot)
    intro _
    exact modifyPoll slot (fun _ => rfl) (fun _ => rfl) fun _ => id

theorem rearmPollin (slot : Slot) : Performs cfg permits base (rearmPollin slot) :=
  assigns fun _ => .rearm

section

variable [Fact permits.bodies]

section

variable (pipe : PipeId) (atAndIdle : Bool) {dataMode : Bool} (slot : Slot)
variable (revents : PollEvents)
variable (leaves : dataMode = true → permits.sessions ∧ permits.serves)
include leaves

theorem receiveAndPoll : Performs cfg permits base
      (receiveAndPoll cfg env modem pipe atAndIdle dataMode slot revents) := by
  have registered : Performs cfg permits base (do
      let _ ← Socket.updatePollEvents cfg modem .remaining slot 0 false
      if dataMode then
        Socket.leaveOnError cfg env modem pipe revents
      else
        Pure.pure ()) := by
    apply bind (updatePollEvents (by decide) (.inr rfl) slot)
    intro _
    split
    · rename_i inDataMode
      have permitted := leaves inDataMode
      apply bind get
      intro world
      split
      · exact leaveDatamode permitted.1 permitted.2 _ _
      · exact pure ()
    · exact pure ()
  apply bind get
  intro world
  dsimp only
  split
  · exact bind (autoReception slot) fun _ => registered
  · exact registered

theorem handleRevents : Performs cfg permits base
      (handleRevents cfg env modem pipe atAndIdle dataMode slot revents) := by
  apply bind
  · refine modifyPoll slot (fun _ => rfl) (fun _ => rfl) fun poll => ?_
    simp only [AsyncPoll.settle, Bool.or_eq_false_iff]
    exact And.left
  · intro _
    exact receiveAndPoll pipe atAndIdle slot revents leaves

end

theorem notifyXapoll (notifies : permits.notifies) (pipe : PipeId)
    (slot : Slot) (revents : PollEvents)
    {world : World} (reached : Effects cfg permits base world)
    (isOfPipe : ofPipe (some pipe) slot world = true)
    (mayAttach : PollMayAttach cfg permits base pipe) :
    Ends world (notifyXapoll cfg modem pipe slot revents)
      fun _ after => Effects cfg permits base after := by
  have rest : ∀ needsRearm : Bool, Performs cfg permits base (do
      if needsRearm && hasEvent revents zsockPollin then
        Socket.rearmPollin slot
        Pure.pure (revents &&& ~~~zsockPollin)
      else
        Pure.pure revents) := by
    intro needsRearm
    split
    · exact bind (rearmPollin slot) fun _ => pure _
    · exact pure _
  unfold Socket.notifyXapoll
  rw [ends_bind, ends_get, ends_bind]
  refine Ends.mono ?_ fun value after => rest value after
  unfold Socket.reportXapoll
  split
  · exact pure false world reached
  · unfold Socket.takeXapoll Socket.urcSendToPipe Socket.hostCall
    rw [ends_bind, ends_get, ends_bind, ends_modify, ends_bind, ends_modify]
    apply smAtHttpcPollEvent
    · exact (reached.tail (.xapoll notifies (BitMask.Within.and_right _ _))).tail
        (.host (Steady.of_undisturbed (performCall_undisturbed _ _)))
    · intro target hasRequest found
      apply mayAttach world slot target reached isOfPipe hasRequest
      rw [← findSocket_congr _ (fd_setPoll world slot _)]
      exact found

section

variable {pipe : PipeId} {atAndIdle dataMode : Bool}
variable (notifies : permits.notifies) (renews : permits.renews)
variable (leaves : dataMode = true → permits.sessions ∧ permits.serves)
variable (mayAttach : atAndIdle = true → dataMode = false → PollMayAttach cfg permits base pipe)
include notifies renews leaves mayAttach

theorem processEvents (c : CtxId) (slot : Slot) (revents : PollEvents)
    {world : World} (reached : Effects cfg permits base world)
    (isOfPipe : atAndIdle = true → ofPipe (some pipe) slot world = true) :
    Ends world (processEvents cfg env modem c pipe atAndIdle dataMode slot revents)
      fun _ after => Effects cfg permits base after := by
  have settled : ∀ revents, Performs cfg permits base
      (Socket.handleRevents cfg env modem pipe atAndIdle dataMode slot revents) :=
    fun revents => handleRevents pipe atAndIdle slot revents leaves
  unfold Socket.processEvents
  rw [ends_bind, ends_get]
  split
  · exact pure () world reached
  · rename_i runs
    split
    · exact pure () world reached
    · split
      · exact reenableEvents renews slot revents world reached
      · split
        · exact settled revents world reached
        · rename_i notDataMode
          have inAtMode : dataMode = false := by simpa using notDataMode
          have idle : atAndIdle = true := by
            rw [inAtMode] at runs
            simpa using runs
          refine (notifyXapoll notifies pipe slot revents reached
            (isOfPipe idle) (mayAttach idle inAtMode)).call ?_
          exact fun remaining => settled remaining

theorem pollWorkStep {c : CtxId} (queues : permits.queues (some pipe) (.pollIdle c)) (slot : Slot) :
    Performs cfg permits base (pollWorkStep cfg env modem c pipe atAndIdle dataMode slot) := by
  apply read
  intro world reached
  split
  · rename_i isOfPipe
    have cleared : Effects cfg permits base (world.setPoll slot
        { world.poll slot with revents := 0 }) := by
      apply reached.tail
      exact .settings rfl rfl id
    unfold Socket.modifyPoll keepEvents
    rw [ends_bind, ends_modify, ends_bind]
    split
    · rw [ends_pure]
      apply processEvents notifies renews leaves mayAttach c slot _ cleared
      intro _
      simpa [ofPipe, World.occupied, World.setPoll] using isOfPipe
    · rename_i busy
      refine (delayEvents queues slot _ _ cleared).mono ?_
      intro _ delayed reachedDelayed
      exact processEvents notifies renews leaves mayAttach c slot _ reachedDelayed
        fun idle => absurd idle busy
  · exact pure () world reached

end

theorem smAtSocketPollWorkHandler {c : CtxId} (permitted : PollPermitted cfg permits base c) :
    Ends base (smAtSocketPollWorkHandler cfg env modem c)
      fun _ after => Effects cfg permits base after := by
  unfold Socket.smAtSocketPollWorkHandler
  rw [ends_bind, ends_get]
  split
  · split
    · exact pure () base (Effects.refl base)
    · rename_i pipe isPipe
      dsimp only
      apply forM slots
      · intro slot _
        apply pollWorkStep permitted.notifies permitted.renews
        · exact permitted.leaves pipe isPipe
        · exact fun idle _ => permitted.mayAttach pipe isPipe idle
        · exact permitted.queues pipe isPipe
      · exact Effects.refl base
  · exact pure () base (Effects.refl base)

theorem smAtSocketPollIdleHandler {c : CtxId} (permitted : IdlePermitted cfg permits base c) :
    Ends base (smAtSocketPollIdleHandler cfg env modem c)
      fun _ after => Effects cfg permits base after := by
  unfold Socket.smAtSocketPollIdleHandler
  rw [ends_bind, ends_get]
  dsimp only
  split
  · rename_i idle
    exact smAtSocketPollWorkHandler (permitted.polls idle)
  · rename_i busy
    exact queueIdleWork (permitted.defers (Bool.eq_false_of_not_eq_true busy))
      base (Effects.refl base)

theorem runWork {work : Option SocketWork} (permitted : ∀ started, work = some started →
      WorkPermitted cfg permits base started) :
    Ends base (runWork cfg env modem work) fun _ after =>
      Effects cfg permits base after := by
  unfold Socket.runWork
  split
  · exact pure () base (Effects.refl base)
  · exact smAtSocketPollWorkHandler (permitted _ rfl)
  · exact smAtSocketPollIdleHandler (permitted _ rfl)
  · exact sendCbFn base (Effects.refl base)

end

end Performs

end SerialModem.Socket
