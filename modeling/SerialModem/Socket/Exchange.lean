import SerialModem.Socket.Steps

/-!
# What happens to a request

The HTTP client is looked at through its requests and through what was noted of
each since it started: the pieces in which the response arrived, the size of its
header block, what was passed on, and how it ended.  Every function of the
client acts on the view of one request; everything else in the socket module
leaves all views alone.
-/

namespace SerialModem.Socket

open Library Library.Program Function
open AtHost

variable {cfg : Config} {env : Environment} {modem : Modem}

/-! ## Accounts -/

structure BodyAccount where
  received : List (List Byte) := []
  headers : Option Nat := none
  /-- What was passed on, with the offsets in `#XHTTPCDATA`. -/
  delivered : List (Int × List Byte) := []
  /-- The status and the count in `#XHTTPCSTAT`. -/
  stat : Option (Int × Int) := none
  deriving DecidableEq

namespace BodyAccount

def receive (account : BodyAccount) (content : List Byte) : BodyAccount :=
  { account with received := account.received ++ [content] }

def complete (account : BodyAccount) (size : Nat) : BodyAccount :=
  { account with headers := some size }

def deliver (account : BodyAccount) (offset : Int) (content : List Byte) :
    BodyAccount :=
  if content = [] then
    account
  else
    { account with delivered := account.delivered ++ [(offset, content)] }

def finish (account : BodyAccount) (status bytes : Int) : BodyAccount :=
  { account with stat := some (status, bytes) }

end BodyAccount

def SocketEvent.account (r : Slot) (account : BodyAccount) : SocketEvent → BodyAccount
  | .httpStarted other => if other = r then {} else account
  | .httpReceived other content =>
    if other = r then account.receive content else account
  | .httpHeaders other size =>
    if other = r then account.complete size else account
  | .httpDelivered other offset content =>
    if other = r then account.deliver offset content else account
  | .httpStat other status bytes =>
    if other = r then account.finish status bytes else account
  | _ => account

def SocketEvent.httpSlot : SocketEvent → Option Slot
  | .httpStarted r => some r
  | .httpReceived r _ => some r
  | .httpHeaders r _ => some r
  | .httpDelivered r _ _ => some r
  | .httpStat r _ _ => some r
  | _ => none

theorem SocketEvent.account_of_ne {event : SocketEvent} {r : Slot}
    (different : event.httpSlot ≠ some r) (account : BodyAccount) :
    event.account r account = account := by
  have differs : ∀ other : Slot, some other ≠ some r → other ≠ r :=
    fun _ unequal same => unequal (congrArg some same)
  cases event with
  | httpStarted other | httpReceived other | httpHeaders other | httpDelivered other
  | httpStat other => exact if_neg (differs other different)
  | _ => rfl

/-- What the log says of the body of a request. -/
def bodyAccount (r : Slot) (log : SocketLog) : BodyAccount :=
  log.foldl (SocketEvent.account r) {}

/-! ## Views -/

structure Bodies where
  requests : Slot → Option HttpRequest
  datamodeReq : Option Slot
  account : Slot → BodyAccount

def World.bodies (world : World) : Bodies where
  requests := world.httpRequests
  datamodeReq := world.datamodeReq
  account r := bodyAccount r world.log

theorem World.bodies_record (world : World) (event : SocketEvent) : (world.record event).bodies =
      { world.bodies with
        account := fun r => event.account r (world.bodies.account r) } := by
  simp [World.bodies, World.record, bodyAccount]

namespace Bodies

def put (bodies : Bodies) (r : Slot) (request : Option HttpRequest)
    (account : BodyAccount) : Bodies where
  requests := update bodies.requests r request
  datamodeReq :=
    if request = none ∧ bodies.datamodeReq = some r then
      none
    else
      bodies.datamodeReq
  account := update bodies.account r account

variable (bodies : Bodies) (r : Slot) (request : Option HttpRequest) (account : BodyAccount)

@[simp] theorem requests_put_self : (bodies.put r request account).requests r = request := by
  simp [put]

theorem requests_put_of_ne {other : Slot} (different : other ≠ r) :
    (bodies.put r request account).requests other = bodies.requests other := by
  simp [put, different]

@[simp] theorem account_put_self : (bodies.put r request account).account r = account := by
  simp [put]

theorem account_put_of_ne {other : Slot} (different : other ≠ r) :
    (bodies.put r request account).account other = bodies.account other := by
  simp [put, different]

theorem put_put (req : HttpRequest) (earlier : BodyAccount) :
    (bodies.put r (some req) earlier).put r request account = bodies.put r request account := by
  simp [put]

theorem put_self {req : HttpRequest} (isRequest : bodies.requests r = some req) :
    bodies.put r (some req) (bodies.account r) = bodies := by
  have same : update bodies.requests r (some req) = bodies.requests := by
    rw [← isRequest]
    exact update_eq_self r bodies.requests
  rw [put, same, update_eq_self]
  simp

end Bodies

/-! ## What leaves the requests alone -/

section

variable {permits : Permits} {before after : World}
  (noBody : ¬permits.bodies) (noRequest : ¬permits.requests)
  (noStream : ¬permits.streams)

include noBody noRequest noStream

theorem Effect.bodies (effect : Effect cfg permits before after) :
    after.bodies = before.bodies := by
  cases effect with
  | request permitted => exact absurd permitted noRequest
  | stream permitted => exact absurd permitted noStream
  | requests permitted | body permitted => exact absurd permitted noBody
  | @call event isCall | @descriptor event _ isCall =>
    rw [World.bodies_record]
    cases event <;> first | rfl | cases isCall
  | @observed event _ ofSession =>
    rw [World.bodies_record]
    cases event <;> first | rfl | cases ofSession
  | init | store | drop | attach | reassign | select | arm | reenable | xapoll | rearm
  | sendCallback | rejected | xsendntf => exact World.bodies_record _ _
  | _ => rfl

theorem Effects.bodies (effects : Effects cfg permits before after) :
    after.bodies = before.bodies :=
  effects.relates (fun first last => last.bodies = first.bodies)
    (fun _ => rfl) (fun left right => right.trans left)
    (Effect.bodies noBody noRequest noStream)

end

def besideRequests (acknowledges : Prop) : Permits where
  opens := True
  attaches _ _ := True
  sessions := True
  serves := True
  requests := False
  streams := False
  bodies := False
  acknowledges := acknowledges
  notifies := True
  renews := True
  queues _ _ := True

def SparesRequests {Value : Type} (program : SocketM Value) : Prop :=
  ∀ world, Ends world program fun _ after => after.bodies = world.bodies

namespace SparesRequests

theorem of_performs {Value : Type} {program : SocketM Value} {acknowledges : Prop}
    (performs : ∀ base, Performs cfg (besideRequests acknowledges) base program) :
    SparesRequests program :=
  fun world => (performs world world (Effects.refl world)).mono
    fun _ _ effects => effects.bodies id id id

theorem of_silent {Value : Type} {program : SocketM Value} (performs : ∀ base,
      Performs cfg (besideRequests False) base program) :
    SparesRequests program :=
  of_performs performs

theorem hostCall (call : HostCall) : SparesRequests (hostCall cfg call) :=
  of_silent fun _ => Performs.hostCall call

theorem smAtHostLockPipe (pipe : Option PipeId) : SparesRequests (smAtHostLockPipe cfg pipe) :=
  of_silent fun _ => Performs.smAtHostLockPipe pipe

theorem smAtHostUnlockPipe (pipe : Option PipeId) : SparesRequests (smAtHostUnlockPipe cfg pipe) :=
  of_silent fun _ => Performs.smAtHostUnlockPipe pipe

theorem httpSendPayload (req : HttpRequest) (content : List Byte) :
    SparesRequests (httpSendPayload cfg req content) :=
  of_silent fun _ => Performs.httpSendPayload req content

theorem rspSendText (text : List Byte) : SparesRequests (rspSendText cfg text) :=
  of_silent fun _ => Performs.rspSendText text

theorem selectForClient {slot : Slot} {events : PollEvents}
    (caused : BitMask.Within events PollCause.httpClient.mayNotify) :
    SparesRequests (setXapollEvents cfg modem .httpClient slot events) :=
  of_silent fun _ =>
    Performs.setXapollEvents (fun _ _ => trivial) caused (.inr rfl)

theorem emit {event : SocketEvent} (ofNone : event.httpSlot = none) :
    SparesRequests (emit event) := by
  intro world
  have unchanged : ∀ r account, event.account r account = account := by
    intro r
    apply SocketEvent.account_of_ne
    rw [ofNone]
    exact nofun
  rw [Socket.emit, ends_modify, World.bodies_record]
  simp only [unchanged]

theorem getRequest (r : Slot) : SparesRequests (getRequest r) := by
  intro world
  unfold Socket.getRequest
  rw [ends_bind, ends_get]
  split
  · exact ends_failure _
  · exact (ends_pure _ _).mpr rfl

theorem malloc (size : Nat) : SparesRequests (malloc modem size) := by
  intro world
  unfold Socket.malloc
  rw [ends_bind, ends_get]
  refine (emit (by rfl) world).call ?_
  intro _ after same
  exact (ends_pure _ _).mpr same

theorem zsockSend (fd : Int) (content : List Byte) (flags : BitVec 32) :
    SparesRequests (zsockSend modem fd content flags) := by
  intro world
  unfold Socket.zsockSend
  rw [ends_bind, ends_get]
  refine (emit (by rfl) world).call ?_
  intro _ after same
  exact (ends_pure _ _).mpr same

theorem httpSendAll (fd : Int) (fuel : Nat) (content : List Byte) :
    SparesRequests (httpSendAll modem fd fuel content) := by
  fun_induction Socket.httpSendAll modem fd fuel content with
  | case1 => exact fun _ => (ends_pure _ _).mpr rfl
  | case2 => exact fun _ => (ends_pure _ _).mpr rfl
  | case3 fuel byte rest ih =>
    intro world
    refine (zsockSend fd (byte :: rest) 0 world).call ?_
    intro result sent same
    split
    · exact (ends_pure _ _).mpr same
    · exact (ih _ sent).mono fun _ _ later =>
        later.trans same

theorem xapollStop (cause : PollCause) (slot : Slot) : SparesRequests (xapollStop cause slot) := by
  intro world
  rw [Socket.xapollStop, selectEvents, ends_modify]
  exact World.bodies_record _ _

end SparesRequests

def Shows (base : Bodies) (r : Slot) (request : Option HttpRequest)
    (account : BodyAccount) (world : World) : Prop :=
  world.bodies = base.put r request account

theorem shows_of_request {r : Slot} {req : HttpRequest} {world : World}
    (isRequest : world.httpRequests r = some req) :
    Shows world.bodies r (some req) (bodyAccount r world.log) world :=
  (world.bodies.put_self r isRequest).symm

/-! ## Functions on the view of a request -/

/-- `bytes_sent` after `count` bytes were passed on. -/
def HttpRequest.sentAfter (req : HttpRequest) (count : Nat) : Int :=
  if count = 0 then req.bytesSent else int32 (req.bytesSent + count)

namespace Shows

variable {base : Bodies} {r : Slot} {request : Option HttpRequest}
  {req : HttpRequest} {account : BodyAccount} {world : World}

theorem httpRequests (shows : Shows base r request account world) :
    world.httpRequests r = request := by
  have same : world.httpRequests = (base.put r request account).requests :=
    congrArg Bodies.requests shows
  rw [same, Bodies.requests_put_self]

theorem bodyAccount (shows : Shows base r request account world) :
    Socket.bodyAccount r world.log = account := by
  have same : world.bodies.account r = account := by
    rw [shows, Bodies.account_put_self]
  exact same

theorem spared {Value : Type} {program : SocketM Value} (spares : SparesRequests program)
    (shows : Shows base r request account world) :
    Ends world program fun _ after => Shows base r request account after :=
  (spares world).mono fun _ _ same => same.trans shows

theorem getRequest (shows : Shows base r (some req) account world) :
    Ends world (getRequest r) fun found after =>
      found = req ∧ Shows base r (some req) account after := by
  unfold Socket.getRequest
  rw [ends_bind, ends_get, shows.httpRequests]
  exact (ends_pure _ _).mpr ⟨rfl, shows⟩

theorem modifyRequest (change : HttpRequest → HttpRequest)
    (shows : Shows base r (some req) account world) :
    Ends world (modifyRequest r change) fun _ after =>
      Shows base r (some (change req)) account after := by
  unfold Socket.modifyRequest
  rw [ends_modify, shows.httpRequests]
  have changed : (world.setRequest r (some (change req))).bodies =
      world.bodies.put r (some (change req)) account := by
    rw [← shows.bodyAccount]
    simp [World.bodies, World.setRequest, Bodies.put]
  exact changed.trans ((congrArg (Bodies.put · r (some (change req)) account) shows).trans
      (base.put_put r _ account req account))

theorem note {event : SocketEvent} {noted : BodyAccount}
    (shows : Shows base r request account world)
    (ofRequest : event.httpSlot = some r)
    (isNoted : event.account r account = noted) :
    Ends world (emit event) fun _ after =>
      Shows base r request noted after := by
  unfold Socket.emit
  rw [ends_modify, Shows, World.bodies_record, shows, ← isNoted]
  simp only [Bodies.put, Bodies.mk.injEq, true_and]
  funext other
  by_cases equal : other = r
  · subst equal
    rw [update_self, update_self]
  · have different : event.httpSlot ≠ some other := by
      rw [ofRequest]
      exact fun same => equal (Option.some.inj same).symm
    rw [update_of_ne equal, update_of_ne equal, SocketEvent.account_of_ne different]

theorem httpCloseRequest (shows : Shows base r (some req) account world) :
    Ends world (httpCloseRequest r) fun _ after =>
      Shows base r none account after := by
  have frees : ∀ middle, Shows base r (some req) account middle →
      Ends middle (modify fun world : World =>
        { world.setRequest r none with
          datamodeReq :=
            if world.datamodeReq = some r then none else world.datamodeReq
        }) fun _ after => Shows base r none account after := by
    intro middle showsMiddle
    rw [ends_modify]
    have freed : ({ middle.setRequest r none with
        datamodeReq :=
          if middle.datamodeReq = some r then none else middle.datamodeReq
        } : World).bodies = middle.bodies.put r none account := by
      rw [← showsMiddle.bodyAccount]
      simp [World.bodies, World.setRequest, Bodies.put]
    exact freed.trans ((congrArg (Bodies.put · r none account) showsMiddle).trans
        (base.put_put r none account req account))
  unfold Socket.httpCloseRequest
  refine shows.getRequest.call ?_
  rintro _ middle ⟨rfl, showsMiddle⟩
  rw [ends_bind, ends_get]
  split
  · split
    · exact (showsMiddle.spared (SparesRequests.xapollStop _ _)).call fun _ after => frees after
    · exact frees middle showsMiddle
  · exact frees middle showsMiddle

/-! ### Ending a request -/

theorem httpSendStat (status bytes : Int) (shows : Shows base r request account world) :
    Ends world (httpSendStat cfg r req status bytes) fun _ after =>
      Shows base r request (account.finish status bytes) after := by
  refine (shows.spared (SparesRequests.hostCall _)).call ?_
  intro _ middle showsMiddle
  exact showsMiddle.note rfl (if_pos rfl)

theorem ended (status bytes : Int) (shows : Shows base r (some req) account world) : Ends world (do
      Socket.httpSendStat cfg r req status bytes
      Socket.httpCloseRequest r) fun _ after =>
      Shows base r none (account.finish status bytes) after :=
  (shows.httpSendStat status bytes).call fun _ _ sent =>
    sent.httpCloseRequest

theorem httpFailRequest (shows : Shows base r (some req) account world) :
    Ends world (httpFailRequest cfg r) fun _ after =>
      Shows base r none (account.finish (-1) req.totalReceived) after := by
  refine shows.getRequest.call ?_
  rintro _ middle ⟨rfl, showsMiddle⟩
  exact showsMiddle.ended (-1) _

theorem httpFinishRequest (shows : Shows base r (some req) account world) :
    Ends world (httpFinishRequest cfg r) fun _ after =>
      Shows base r none (account.finish req.statusCode req.totalReceived)
        after := by
  refine shows.getRequest.call ?_
  rintro _ middle ⟨rfl, showsMiddle⟩
  exact showsMiddle.ended _ _

theorem httpCancelRequest (shows : Shows base r (some req) account world) :
    Ends world (httpCancelRequest cfg r) fun _ after =>
      Shows base r none (account.finish (-1) req.bytesSent) after := by
  refine shows.getRequest.call ?_
  rintro _ middle ⟨rfl, showsMiddle⟩
  exact showsMiddle.ended (-1) _

/-! ### Passing a piece on -/

theorem httpSendData (content : List Byte) (shows : Shows base r (some req) account world) :
    Ends world (httpSendData cfg r content) fun _ after =>
      Shows base r (some { req with bytesSent := req.sentAfter content.length })
        (account.deliver req.bytesSent content) after := by
  refine shows.getRequest.call ?_
  rintro _ middle ⟨rfl, showsMiddle⟩
  rcases content with _ | ⟨byte, rest⟩
  · simpa [BodyAccount.deliver, HttpRequest.sentAfter] using showsMiddle
  · rw [if_neg (List.cons_ne_nil byte rest)]
    refine (showsMiddle.spared (SparesRequests.smAtHostLockPipe _)).call ?_
    intro _ locked showsLocked
    refine (showsLocked.spared (SparesRequests.hostCall _)).call ?_
    intro _ announced showsAnnounced
    refine (showsAnnounced.modifyRequest _).call ?_
    intro _ counted showsCounted
    refine (showsCounted.note (by rfl) (by exact if_pos rfl)).call ?_
    intro _ noted showsNoted
    refine (showsNoted.spared (SparesRequests.httpSendPayload _ _)).call ?_
    intro _ sent showsSent
    refine (showsSent.spared (SparesRequests.hostCall _)).call ?_
    intro _ closed showsClosed
    exact showsClosed.spared (SparesRequests.smAtHostUnlockPipe _)

end Shows

/-! ## Reading a piece -/

def Modem.answer (modem : Modem) (log : SocketLog) (fd : Int)
    (length : Nat) : Outcome (List Byte) :=
  match modem.zsockRecv log fd length msgDontwait with
  | .failed errno => .failed errno
  | .done chunk => .done chunk.content

theorem Modem.answer_length {log : SocketLog} {fd : Int} {length : Nat} {content : List Byte}
    (answered : modem.answer log fd length = .done content) :
    content.length ≤ length := by
  rw [Modem.answer] at answered
  split at answered
  · cases answered
  · rename_i chunk _
    cases answered
    exact chunk.bounded

def HttpRequest.room (req : HttpRequest) : Nat :=
  httpRecvBufSize - req.recvBuf.length - 1

def HttpRequest.store (req : HttpRequest) (content : List Byte) :
    HttpRequest :=
  { req with
    recvBuf := req.recvBuf ++ content
    totalReceived := int32 (req.totalReceived + content.length) }

def HttpRequest.passOn (req : HttpRequest) (count : Nat) : HttpRequest :=
  { req with bytesSent := req.sentAfter count, recvBuf := [] }

def HttpRequest.rearm (req : HttpRequest) : HttpRequest :=
  { req with needRearmPollin := true }

/-- What `http_recv_read` makes of an answer: its result, the request and the
account. -/
inductive ReadOutcome (req : HttpRequest) (account : BodyAccount) :
    Outcome (List Byte) → Int → HttpRequest → BodyAccount → Prop
  | nothing {errno : Errno} (again : (errno.value : Int) = eagain) :
      ReadOutcome req account (.failed errno) (-1) req account
  | failed {errno : Errno} (other : (errno.value : Int) ≠ eagain) :
      ReadOutcome req account (.failed errno) errno.code req account
  | ended : ReadOutcome req account (.done []) 0 req account
  | piece {content : List Byte} (nonempty : content ≠ []) :
      ReadOutcome req account (.done content) content.length
        (req.store content) (account.receive content)

namespace Shows

variable {base : Bodies} {r : Slot} {req : HttpRequest} {account : BodyAccount} {world : World}

theorem zsockRecv {fd : Int} {length : Nat} {request : Option HttpRequest}
    (shows : Shows base r request account world) :
    Ends world (zsockRecv modem fd length msgDontwait) fun result after =>
        result = modem.answer world.log fd length ∧ Shows base r request account after := by
  unfold Socket.zsockRecv
  rw [ends_bind, ends_get]
  dsimp only
  rw [Socket.emit, ends_bind, ends_modify, ends_pure]
  exact ⟨rfl, (World.bodies_record _ _).trans shows⟩

theorem httpRecvRead {slot : Slot} (shows : Shows base r (some req) account world) :
    Ends world (httpRecvRead cfg modem r slot) fun ret after =>
      ∃ read noted, ReadOutcome req account (modem.answer world.log req.fd req.room) ret
          read noted ∧
        Shows base r (some read) noted after := by
  unfold Socket.httpRecvRead Socket.getRequest
  rw [ends_bind, ends_bind, ends_get, shows.httpRequests]
  rw [ends_pure]
  refine shows.zsockRecv.call ?_
  rintro result middle ⟨answered, showsMiddle⟩
  rw [HttpRequest.room, ← answered]
  cases result with
  | failed errno =>
    dsimp only
    split
    · rename_i again
      refine (showsMiddle.spared (SparesRequests.selectForClient (by decide))).call ?_
      intro _ after showsAfter
      exact (ends_pure _ _).mpr ⟨req, account, .nothing again, showsAfter⟩
    · rename_i other
      exact (ends_pure _ _).mpr ⟨req, account, .failed other, showsMiddle⟩
  | done content =>
    dsimp only
    split
    · rename_i empty
      subst empty
      exact (ends_pure _ _).mpr ⟨req, account, .ended, showsMiddle⟩
    · rename_i nonempty
      refine (showsMiddle.modifyRequest _).call ?_
      intro _ stored showsStored
      refine (showsStored.note (by rfl) (by exact if_pos rfl)).call ?_
      intro _ after showsAfter
      exact (ends_pure _ _).mpr ⟨_, _, .piece nonempty, showsAfter⟩

end Shows

/-! ## The end of a body -/

namespace HttpRequest

def EndsAtHeaders (req : HttpRequest) (body : List Byte) : Prop :=
  (0 ≤ req.contentLength ∧ req.contentLength ≤ req.bytesSent) ∨
    (req.contentLength < 0 ∧ chunkedEof body = true)

instance (req : HttpRequest) (body : List Byte) : Decidable (req.EndsAtHeaders body) :=
  inferInstanceAs (Decidable (_ ∨ _))

def EndsAtPiece (req : HttpRequest) (piece : List Byte) : Prop :=
  chunkedEof piece = true ∨ (0 < req.contentLength ∧ req.contentLength ≤ req.bytesSent)

instance (req : HttpRequest) (piece : List Byte) : Decidable (req.EndsAtPiece piece) :=
  inferInstanceAs (Decidable (_ ∨ _))

def EndsAtPull (req : HttpRequest) (last : List Byte) : Prop :=
  (0 < req.contentLength ∧ req.contentLength ≤ req.bytesSent) ∨
    (req.contentLength < 0 ∧ req.recvBuf = [] ∧ chunkedEof last = true)

instance (req : HttpRequest) (last : List Byte) : Decidable (req.EndsAtPull last) :=
  inferInstanceAs (Decidable (_ ∨ _))

end HttpRequest

/-! ## Poll events -/

/-- What becomes of a request that has read its headers, with the bytes that
came after them; whether nothing more is to be done for it. -/
inductive HeadersOutcome (read : HttpRequest) (account : BodyAccount)
    (body : List Byte) (hup : Bool) :
    Option HttpRequest → BodyAccount → Bool → Prop
  | bodyless (noBody : read.bodyless = true) : HeadersOutcome read account body hup none
        (account.finish read.statusCode read.totalReceived) true
  | manual (hasBody : read.bodyless = false) (manually : read.manualMode = true) :
      HeadersOutcome read account body hup (some { read with recvBuf := body }) account true
  | ends (hasBody : read.bodyless = false) (automatic : read.manualMode = false)
      (ended : hup = true ∨ (read.passOn body.length).EndsAtHeaders body) :
      HeadersOutcome read account body hup none
        ((account.deliver read.bytesSent body).finish read.statusCode read.totalReceived) true
  | goesOn (hasBody : read.bodyless = false)
      (automatic : read.manualMode = false) (isOpen : hup = false)
      (more : ¬(read.passOn body.length).EndsAtHeaders body) :
      HeadersOutcome read account body hup (some (read.passOn body.length))
        (account.deliver read.bytesSent body) false

inductive RecvHeadersOutcome (stored : HttpRequest) (account : BodyAccount)
    (hup : Bool) : Option HttpRequest → BodyAccount → Prop
  | complete {headerEnd : Nat} {request : Option HttpRequest} {noted : BodyAccount}
      (found : strstr (cString stored.recvBuf) headerTerminator = some headerEnd)
      (outcome : HeadersOutcome (stored.readHeaders headerEnd)
        (account.complete (headerEnd + headerTerminator.length))
        (stored.recvBuf.drop (headerEnd + headerTerminator.length)) hup
        request noted true) :
      RecvHeadersOutcome stored account hup request noted
  | goesOn {headerEnd : Nat} {req : HttpRequest} {noted : BodyAccount}
      (found : strstr (cString stored.recvBuf) headerTerminator = some headerEnd)
      (outcome : HeadersOutcome (stored.readHeaders headerEnd)
        (account.complete (headerEnd + headerTerminator.length))
        (stored.recvBuf.drop (headerEnd + headerTerminator.length)) hup
        (some req) noted false) :
      RecvHeadersOutcome stored account hup (some req.rearm) noted
  | full (missing : strstr (cString stored.recvBuf) headerTerminator = none)
      (noRoom : httpRecvBufSize - 1 ≤ stored.recvBuf.length) :
      RecvHeadersOutcome stored account hup none (account.finish (-1) stored.totalReceived)
  | waits (missing : strstr (cString stored.recvBuf) headerTerminator = none)
      (hasRoom : stored.recvBuf.length < httpRecvBufSize - 1) :
      RecvHeadersOutcome stored account hup (some stored.rearm) account

inductive RecvBodyOutcome (stored : HttpRequest) (account : BodyAccount)
    (hup : Bool) : Option HttpRequest → BodyAccount → Prop
  | manual (manually : stored.manualMode = true) :
      RecvBodyOutcome stored account hup (some stored) account
  | ends (automatic : stored.manualMode = false) (ended : hup = true ∨
        (stored.passOn stored.recvBuf.length).EndsAtPiece stored.recvBuf) :
      RecvBodyOutcome stored account hup none
        ((account.deliver stored.bytesSent stored.recvBuf).finish
          stored.statusCode stored.totalReceived)
  | goesOn (automatic : stored.manualMode = false) (isOpen : hup = false) (more :
        ¬(stored.passOn stored.recvBuf.length).EndsAtPiece stored.recvBuf) :
      RecvBodyOutcome stored account hup (some (stored.passOn stored.recvBuf.length).rearm)
        (account.deliver stored.bytesSent stored.recvBuf)

namespace Shows

variable {base : Bodies} {r slot : Slot} {req : HttpRequest}
  {account : BodyAccount} {world : World} {events : PollEvents}

theorem httpHeadersComplete {headerEnd : Nat} {hup : Bool}
    (shows : Shows base r (some req) account world) :
    Ends world (httpHeadersComplete cfg r headerEnd slot hup)
      fun finished after => ∃ request noted, HeadersOutcome (req.readHeaders headerEnd)
          (account.complete (headerEnd + headerTerminator.length))
          (req.recvBuf.drop (headerEnd + headerTerminator.length)) hup
          request noted finished ∧
        Shows base r request noted after := by
  refine shows.getRequest.call ?_
  rintro _ middle ⟨rfl, showsMiddle⟩
  dsimp only
  refine (showsMiddle.modifyRequest _).call ?_
  intro _ parsed showsParsed
  refine (showsParsed.note (by rfl) (by exact if_pos rfl)).call ?_
  intro _ noted showsNoted
  refine showsNoted.getRequest.call ?_
  rintro _ reread ⟨rfl, showsReread⟩
  refine (showsReread.spared (SparesRequests.hostCall _)).call ?_
  intro _ told showsTold
  split
  · rename_i noBody
    refine showsTold.httpFinishRequest.call ?_
    intro _ after showsAfter
    exact (ends_pure _ _).mpr ⟨_, _, .bodyless noBody, showsAfter⟩
  · rename_i hasBody
    rw [Bool.not_eq_true] at hasBody
    split
    · rename_i manually
      refine (showsTold.modifyRequest _).call ?_
      intro _ kept showsKept
      refine (showsKept.spared (SparesRequests.xapollStop _ _)).call ?_
      intro _ after showsAfter
      exact (ends_pure _ _).mpr ⟨_, _, .manual hasBody manually, showsAfter⟩
    · rename_i automatic
      rw [Bool.not_eq_true] at automatic
      refine (showsTold.httpSendData _).call ?_
      intro _ sent showsSent
      refine (showsSent.modifyRequest _).call ?_
      intro _ drained showsDrained
      refine showsDrained.getRequest.call ?_
      rintro _ last ⟨rfl, showsLast⟩
      split
      · rename_i isHup
        refine showsLast.httpFinishRequest.call ?_
        intro _ after showsAfter
        exact (ends_pure _ _).mpr ⟨_, _, .ends hasBody automatic (.inl isHup), showsAfter⟩
      · rename_i isOpen
        rw [Bool.not_eq_true] at isOpen
        split
        · rename_i ended
          refine showsLast.httpFinishRequest.call ?_
          intro _ after showsAfter
          exact (ends_pure _ _).mpr ⟨_, _, .ends hasBody automatic (.inr ended), showsAfter⟩
        · rename_i more
          exact (ends_pure _ _).mpr ⟨_, _, .goesOn hasBody automatic isOpen more, showsLast⟩

theorem needRearm (shows : Shows base r (some req) account world) :
    Ends world (needRearm r) fun _ after =>
      Shows base r (some req.rearm) account after :=
  shows.modifyRequest _

theorem httpProcessRecvHeaders (shows : Shows base r (some req) account world) :
    Ends world (httpProcessRecvHeaders cfg r slot events) fun _ after => ∃ request noted,
        RecvHeadersOutcome req account (hasEvent events zsockPollhup) request noted ∧
        Shows base r request noted after := by
  refine shows.getRequest.call ?_
  rintro _ middle ⟨rfl, showsMiddle⟩
  split
  · rename_i headerEnd found
    refine showsMiddle.httpHeadersComplete.call ?_
    rintro finished complete ⟨request, noted, outcome, showsComplete⟩
    split
    · rename_i isFinished
      subst isFinished
      exact (ends_pure _ _).mpr ⟨request, noted, .complete found outcome, showsComplete⟩
    · rename_i unfinished
      rw [Bool.not_eq_true] at unfinished
      subst unfinished
      cases outcome with
      | goesOn hasBody automatic isOpen more =>
        refine showsComplete.needRearm.mono ?_
        intro _ after showsAfter
        exact ⟨_, _, .goesOn found (.goesOn hasBody automatic isOpen more), showsAfter⟩
  · rename_i missing
    split
    · rename_i noRoom
      refine showsMiddle.httpFailRequest.mono ?_
      intro _ after showsAfter
      exact ⟨_, _, .full missing noRoom, showsAfter⟩
    · rename_i hasRoom
      refine showsMiddle.needRearm.mono ?_
      intro _ after showsAfter
      exact ⟨_, _, .waits missing (Nat.lt_of_not_le hasRoom), showsAfter⟩

theorem httpProcessRecvBody (shows : Shows base r (some req) account world) :
    Ends world (httpProcessRecvBody cfg r slot events) fun _ after => ∃ request noted,
        RecvBodyOutcome req account (hasEvent events zsockPollhup) request noted ∧
        Shows base r request noted after := by
  refine shows.getRequest.call ?_
  rintro _ middle ⟨rfl, showsMiddle⟩
  split
  · rename_i manually
    refine (showsMiddle.spared (SparesRequests.xapollStop _ _)).mono ?_
    intro _ after showsAfter
    exact ⟨_, _, .manual manually, showsAfter⟩
  · rename_i automatic
    rw [Bool.not_eq_true] at automatic
    refine (showsMiddle.httpSendData _).call ?_
    intro _ sent showsSent
    refine (showsSent.modifyRequest _).call ?_
    intro _ drained showsDrained
    refine showsDrained.getRequest.call ?_
    rintro _ last ⟨rfl, showsLast⟩
    split
    · rename_i ended
      refine showsLast.httpFinishRequest.mono ?_
      intro _ after showsAfter
      refine ⟨_, _, .ends automatic ?_, showsAfter⟩
      rcases ended with chunked | counted | isHup
      · exact .inr (.inl chunked)
      · exact .inr (.inr counted)
      · exact .inl isHup
    · rename_i unended
      refine showsLast.needRearm.mono ?_
      intro _ after showsAfter
      refine ⟨_, _, .goesOn automatic ?_ ?_, showsAfter⟩
      · rw [← Bool.not_eq_true]
        exact fun isHup => unended (.inr (.inr isHup))
      · rintro (chunked | counted)
        · exact unended (.inl chunked)
        · exact unended (.inr (.inl counted))

end Shows

inductive SendOutcome (req : HttpRequest) (account : BodyAccount) :
    Option HttpRequest → BodyAccount → Prop
  | failed : SendOutcome req account none (account.finish (-1) req.totalReceived)
  | waits (remaining : List Byte) : SendOutcome req account
      (some { req with sendPtr := remaining }) account
  | sent : SendOutcome req account (some
        { req with
          sendPtr := []
          state := .receivingHeaders
          recvBuf := [] }) account

def Closes (events : PollEvents) (answer : Outcome (List Byte)) : Prop :=
  (hasEvent events zsockPollhup = true ∧ hasEvent events zsockPollin = false) ∨
    (hasEvent events zsockPollin = true ∧ answer = .done [])

/-- What becomes of a request whose socket has events, where a receive call
would answer `answer`. -/
inductive PollOutcome (found : Bool) (events : PollEvents)
    (answer : Outcome (List Byte)) (req : HttpRequest)
    (account : BodyAccount) : Option HttpRequest → BodyAccount → Prop
  | lost (broken : found = false ∨ hasEvent events (zsockPollerr ||| zsockPollnval) = true) :
      PollOutcome found events answer req account none (account.finish (-1) req.totalReceived)
  | rests (quiet : req.state = .receivingHeaders ∨ req.state = .receivingBody →
        ¬Closes events answer ∧ (hasEvent events zsockPollin = true → ∃ errno,
            answer = .failed errno)) :
      PollOutcome found events answer req account (some req) account
  | sends {request : Option HttpRequest} {noted : BodyAccount}
      (sending : req.state = .sendingRequest)
      (outcome : SendOutcome req account request noted) :
      PollOutcome found events answer req account request noted
  | failed {errno : Errno} (readable : hasEvent events zsockPollin = true)
      (answered : answer = .failed errno) :
      PollOutcome found events answer req account none (account.finish (-1) req.totalReceived)
  | closedEarly (receiving : req.state = .receivingHeaders) (closes : Closes events answer) :
      PollOutcome found events answer req account none (account.finish (-1) req.totalReceived)
  | closed (receiving : req.state = .receivingBody) (closes : Closes events answer) :
      PollOutcome found events answer req account none
        (account.finish req.statusCode req.totalReceived)
  | headers {content : List Byte} {request : Option HttpRequest}
      {noted : BodyAccount} (receiving : req.state = .receivingHeaders)
      (readable : hasEvent events zsockPollin = true)
      (answered : answer = .done content) (nonempty : content ≠ [])
      (outcome : RecvHeadersOutcome (req.store content)
        (account.receive content) (hasEvent events zsockPollhup) request
        noted) :
      PollOutcome found events answer req account request noted
  | body {content : List Byte} {request : Option HttpRequest}
      {noted : BodyAccount} (receiving : req.state = .receivingBody)
      (readable : hasEvent events zsockPollin = true)
      (answered : answer = .done content) (nonempty : content ≠ [])
      (outcome : RecvBodyOutcome (req.store content)
        (account.receive content) (hasEvent events zsockPollhup) request
        noted) :
      PollOutcome found events answer req account request noted

namespace Shows

variable {base : Bodies} {r slot : Slot} {req : HttpRequest}
  {account : BodyAccount} {world : World} {events : PollEvents}

theorem httpSendPart (shows : Shows base r (some req) account world) :
    Ends world (httpSendPart cfg modem r slot) fun _ after =>
      ∃ request noted, SendOutcome req account request noted ∧
        Shows base r request noted after := by
  have selects : ∀ {sending : HttpRequest} {middle : World} {selected : PollEvents},
      BitMask.Within selected PollCause.httpClient.mayNotify →
      SendOutcome req account (some sending) account →
      Shows base r (some sending) account middle →
      Ends middle (do
        let _ ← setXapollEvents cfg modem .httpClient slot selected
        pure ()) fun _ after =>
        ∃ request noted, SendOutcome req account request noted ∧
          Shows base r request noted after := by
    intro sending middle selected caused outcome showsMiddle
    refine (showsMiddle.spared (SparesRequests.selectForClient caused)).call ?_
    intro _ after showsAfter
    exact (ends_pure _ _).mpr ⟨_, _, outcome, showsAfter⟩
  refine shows.getRequest.call ?_
  rintro _ middle ⟨rfl, showsMiddle⟩
  refine (showsMiddle.spared (SparesRequests.zsockSend _ _ _)).call ?_
  intro result sent showsSent
  split
  · split
    · exact selects (by decide) (.waits _) showsSent
    · refine showsSent.httpFailRequest.mono ?_
      intro _ after showsAfter
      exact ⟨_, _, .failed, showsAfter⟩
  · refine (showsSent.modifyRequest _).call ?_
    intro _ advanced showsAdvanced
    split
    · rename_i complete
      refine (showsAdvanced.modifyRequest _).call ?_
      intro _ waiting showsWaiting
      rw [complete] at showsWaiting
      exact selects (by decide) .sent showsWaiting
    · exact selects (by decide) (.waits _) showsAdvanced

theorem httpReceivePart {closed process : SocketM Unit}
    {outcome : Option HttpRequest → BodyAccount → Prop}
    {answer : Outcome (List Byte)}
    (shows : Shows base r (some req) account world)
    (isAnswer : answer = modem.answer world.log req.fd req.room)
    (rests : ¬Closes events answer →
      (hasEvent events zsockPollin = true → ∃ errno, answer = .failed errno) →
      outcome (some req) account)
    (fails : ∀ errno, hasEvent events zsockPollin = true → answer = .failed errno →
      outcome none (account.finish (-1) req.totalReceived))
    (closes : Closes events answer → ∀ middle, Shows base r (some req) account middle →
      Ends middle closed fun _ after =>
        ∃ request noted, outcome request noted ∧ Shows base r request noted after)
    (processes : ∀ content, hasEvent events zsockPollin = true →
      answer = .done content → content ≠ [] → ∀ middle,
      Shows base r (some (req.store content)) (account.receive content) middle →
      Ends middle process fun _ after =>
        ∃ request noted, outcome request noted ∧ Shows base r request noted after) :
    Ends world (httpReceivePart cfg modem r slot events closed process)
      fun _ after => ∃ request noted, outcome request noted ∧ Shows base r request noted after := by
  unfold Socket.httpReceivePart
  split
  · rename_i hungUp
    exact closes (.inl ⟨hungUp.1, Bool.eq_false_iff.mpr hungUp.2⟩) world shows
  · rename_i notHungUp
    split
    · rename_i readable
      refine shows.httpRecvRead.call ?_
      rintro ret middle ⟨read, noted, outcomeOfRead, showsMiddle⟩
      rw [← isAnswer] at outcomeOfRead
      clear isAnswer
      have stays : ∀ errno, answer = .failed errno → outcome (some req) account := by
        intro errno answered
        apply rests
        · rintro (⟨_, unreadable⟩ | ⟨_, ended⟩)
          · exact absurd readable (Bool.eq_false_iff.mp unreadable)
          · rw [answered] at ended
            cases ended
        · exact fun _ => ⟨errno, answered⟩
      cases outcomeOfRead with
      | @nothing errno again =>
        rw [if_pos (by decide), if_neg (by decide)]
        exact (ends_pure _ _).mpr ⟨_, _, stays errno rfl, showsMiddle⟩
      | @failed errno other =>
        have negative : errno.code < 0 := by
          have positive := errno.positive
          simp only [Errno.code]
          omega
        rw [if_pos negative]
        split
        · refine showsMiddle.httpFailRequest.mono ?_
          intro _ after showsAfter
          exact ⟨_, _, fails errno readable rfl, showsAfter⟩
        · exact (ends_pure _ _).mpr ⟨_, _, stays errno rfl, showsMiddle⟩
      | ended =>
        rw [if_neg (by decide), if_pos rfl]
        exact closes (.inr ⟨readable, rfl⟩) middle showsMiddle
      | @piece content nonempty =>
        have positive := List.length_pos_iff.mpr nonempty
        rw [if_neg (by omega), if_neg (by omega)]
        exact processes content readable rfl nonempty middle showsMiddle
    · rename_i unreadable
      have stays : outcome (some req) account := by
        apply rests
        · rintro (⟨hangsUp, _⟩ | ⟨readable, _⟩)
          · exact notHungUp ⟨hangsUp, unreadable⟩
          · exact unreadable readable
        · exact fun readable => absurd readable unreadable
      exact (ends_pure _ _).mpr ⟨_, _, stays, shows⟩

theorem httpProcessState {answer : Outcome (List Byte)}
    (shows : Shows base r (some req) account world)
    (isAnswer : answer = modem.answer world.log req.fd req.room) :
    Ends world (httpProcessState cfg modem r slot events req.state)
      fun _ after => ∃ request noted, PollOutcome true events answer req account request noted ∧
        Shows base r request noted after := by
  cases state : req.state with
  | idle | sendingBody =>
    have quiet : PollOutcome true events answer req account (some req)
        account := by
      apply PollOutcome.rests
      simp [state]
    exact (ends_pure _ _).mpr ⟨_, _, quiet, shows⟩
  | sendingRequest =>
    rw [Socket.httpProcessState]
    split
    · refine shows.httpFailRequest.mono ?_
      intro _ after showsAfter
      exact ⟨_, _, .sends state .failed, showsAfter⟩
    · split
      · refine shows.httpSendPart.mono ?_
        rintro _ after ⟨request, noted, outcome, showsAfter⟩
        exact ⟨request, noted, .sends state outcome, showsAfter⟩
      · exact (ends_pure _ _).mpr ⟨_, _, .sends state (.waits req.sendPtr), shows⟩
  | receivingHeaders =>
    rw [Socket.httpProcessState]
    apply shows.httpReceivePart isAnswer
    · exact fun opens answered => .rests fun _ => ⟨opens, answered⟩
    · exact fun errno readable answered => .failed readable answered
    · intro closes middle showsMiddle
      refine showsMiddle.httpFailRequest.mono ?_
      intro _ after showsAfter
      exact ⟨_, _, .closedEarly state closes, showsAfter⟩
    · intro content readable answered nonempty middle showsMiddle
      refine showsMiddle.httpProcessRecvHeaders.mono ?_
      rintro _ after ⟨request, noted, outcome, showsAfter⟩
      exact ⟨request, noted, .headers state readable answered nonempty outcome, showsAfter⟩
  | receivingBody =>
    rw [Socket.httpProcessState]
    apply shows.httpReceivePart isAnswer
    · exact fun opens answered => .rests fun _ => ⟨opens, answered⟩
    · exact fun errno readable answered => .failed readable answered
    · intro closes middle showsMiddle
      refine showsMiddle.httpFinishRequest.mono ?_
      intro _ after showsAfter
      exact ⟨_, _, .closed state closes, showsAfter⟩
    · intro content readable answered nonempty middle showsMiddle
      refine showsMiddle.httpProcessRecvBody.mono ?_
      rintro _ after ⟨request, noted, outcome, showsAfter⟩
      exact ⟨request, noted, .body state readable answered nonempty outcome, showsAfter⟩

theorem httpProcessRequest {answer : Outcome (List Byte)}
    (shows : Shows base r (some req) account world)
    (isAnswer : answer = modem.answer world.log req.fd req.room) :
    Ends world (httpProcessRequest cfg modem r events) fun _ after => ∃ request noted,
        PollOutcome (findSocket req.fd world).isSome events answer req account request noted ∧
        Shows base r request noted after := by
  have fails : (findSocket req.fd world).isSome = false ∨
        hasEvent events (zsockPollerr ||| zsockPollnval) = true →
      Ends world (Socket.httpFailRequest cfg r) fun _ after =>
        ∃ request noted, PollOutcome (findSocket req.fd world).isSome events answer req
            account request noted ∧
          Shows base r request noted after := by
    intro broken
    refine shows.httpFailRequest.mono ?_
    intro _ after showsAfter
    exact ⟨_, _, .lost broken, showsAfter⟩
  unfold Socket.httpProcessRequest Socket.getRequest
  rw [ends_bind, ends_bind, ends_get, shows.httpRequests]
  rw [ends_pure, ends_bind, ends_get]
  cases found : findSocket req.fd world with
  | none =>
    rw [found] at fails
    exact fails (.inl rfl)
  | some slot =>
    rw [found] at fails
    dsimp only
    split
    · rename_i broken
      exact fails (.inr broken)
    · exact shows.httpProcessState isAnswer

theorem smAtHttpcPollEvent {answer : Outcome (List Byte)} {fd : Int}
    (shows : Shows base r (some req) account world)
    (isRequest : findRequest fd world = some r)
    (isAnswer : answer = modem.answer world.log req.fd req.room) :
    Ends world (smAtHttpcPollEvent cfg modem fd events) fun _ after => ∃ request noted,
        PollOutcome (findSocket req.fd world).isSome events answer
          { req with needRearmPollin := false } account request noted ∧
        Shows base r request noted after := by
  unfold Socket.smAtHttpcPollEvent
  rw [ends_bind, ends_get, isRequest]
  unfold Socket.modifyRequest
  rw [ends_bind, ends_modify]
  have showsTold := shows.modifyRequest fun req => { req with needRearmPollin := false }
  unfold Socket.modifyRequest at showsTold
  rw [ends_modify] at showsTold
  refine (showsTold.httpProcessRequest isAnswer).call ?_
  rintro _ after ⟨request, noted, outcome, showsAfter⟩
  rw [ends_bind, ends_get, ends_pure]
  exact ⟨request, noted, outcome, showsAfter⟩

end Shows

/-! ## Pulls -/

inductive Pulls (answer : Outcome (List Byte)) (pullLen : Nat)
    (req : HttpRequest) (account : BodyAccount) :
    List Byte → HttpRequest → BodyAccount → Prop
  | buffered (filled : req.recvBuf ≠ []) :
      Pulls answer pullLen req account (req.recvBuf.take pullLen)
        { req with
          bytesSent := int32 (req.bytesSent + (req.recvBuf.take pullLen).length)
          recvBuf := req.recvBuf.drop pullLen }
        (account.deliver req.bytesSent (req.recvBuf.take pullLen))
  | direct {content : List Byte} (empty : req.recvBuf = [])
      (answered : answer = .done content) (nonempty : content ≠ []) :
      Pulls answer pullLen req account content
        { req with
          totalReceived := int32 (req.totalReceived + content.length)
          bytesSent := int32 (req.bytesSent + content.length) }
        ((account.receive content).deliver req.bytesSent content)

inductive PullOutcome (answer : Outcome (List Byte)) (pullLen : Nat)
    (req : HttpRequest) (account : BodyAccount) :
    Option HttpRequest → BodyAccount → Prop
  | refused (unready : req.manualMode = false ∨ req.headersComplete = false) :
      PullOutcome answer pullLen req account (some req) account
  | waits {errno : Errno} (empty : req.recvBuf = []) (answered : answer = .failed errno) :
      PullOutcome answer pullLen req account (some req) account
  | failed {errno : Errno} (empty : req.recvBuf = []) (complete : req.headersComplete = true)
      (answered : answer = .failed errno) :
      PullOutcome answer pullLen req account none (account.finish (-1) req.totalReceived)
  | closed (complete : req.headersComplete = true) (empty : req.recvBuf = [])
      (answered : answer = .done []) :
      PullOutcome answer pullLen req account none (account.finish req.statusCode req.totalReceived)
  | ends {content : List Byte} {passed : HttpRequest} {noted : BodyAccount}
      (complete : req.headersComplete = true)
      (pulls : Pulls answer pullLen req account content passed noted)
      (ended : passed.EndsAtPull content) :
      PullOutcome answer pullLen req account none
        (noted.finish passed.statusCode passed.totalReceived)
  | goesOn {content : List Byte} {passed : HttpRequest}
      {noted : BodyAccount} (complete : req.headersComplete = true)
      (pulls : Pulls answer pullLen req account content passed noted)
      (more : ¬passed.EndsAtPull content) :
      PullOutcome answer pullLen req account (some passed) noted

namespace Shows

variable {base : Bodies} {r : Slot} {req : HttpRequest} {account : BodyAccount} {world : World}

theorem pullCheckComplete {answer : Outcome (List Byte)} {pullLen : Nat}
    {content : List Byte} {passed : HttpRequest} {noted : BodyAccount}
    (complete : req.headersComplete = true)
    (pulls : Pulls answer pullLen req account content passed noted)
    (shows : Shows base r (some passed) noted world) :
    Ends world (pullCheckComplete cfg r content) fun _ after =>
      ∃ request final, PullOutcome answer pullLen req account request final ∧
        Shows base r request final after := by
  refine shows.getRequest.call ?_
  rintro _ middle ⟨rfl, showsMiddle⟩
  split
  · rename_i ended
    refine showsMiddle.httpFinishRequest.call ?_
    intro _ after showsAfter
    exact (ends_pure _ _).mpr ⟨_, _, .ends complete pulls ended, showsAfter⟩
  · rename_i more
    exact (ends_pure _ _).mpr ⟨_, _, .goesOn complete pulls more, showsMiddle⟩

theorem pullForward (content : List Byte) (shows : Shows base r (some req) account world) :
    Ends world (pullForward cfg r content) fun _ after =>
      Shows base r (some { req with bytesSent := int32 (req.bytesSent + content.length) })
        (account.deliver req.bytesSent content) after := by
  refine shows.getRequest.call ?_
  rintro _ middle ⟨rfl, showsMiddle⟩
  refine (showsMiddle.spared (SparesRequests.rspSendText _)).call ?_
  intro _ announced showsAnnounced
  refine (showsAnnounced.modifyRequest _).call ?_
  intro _ counted showsCounted
  refine (showsCounted.note (by rfl) (by exact if_pos rfl)).call ?_
  intro _ noted showsNoted
  exact showsNoted.spared (SparesRequests.httpSendPayload _ _)

theorem pullData {answer : Outcome (List Byte)} {fd : Int} {pullLen : Nat}
    (shows : Shows base r (some req) account world)
    (isRequest : findRequest fd world = some r)
    (isAnswer : answer = modem.answer world.log req.fd pullLen) :
    Ends world (pullData cfg modem fd pullLen) fun _ after =>
      ∃ request noted, PullOutcome answer pullLen req account request noted ∧
        Shows base r request noted after := by
  unfold Socket.pullData Socket.getRequest
  rw [ends_bind, ends_get, isRequest]
  dsimp only
  rw [ends_bind, ends_bind, ends_get, shows.httpRequests]
  rw [ends_pure]
  split
  · rename_i automatic
    exact (ends_pure _ _).mpr ⟨_, _, .refused (.inl automatic), shows⟩
  · split
    · rename_i incomplete
      exact (ends_pure _ _).mpr ⟨_, _, .refused (.inr incomplete), shows⟩
    · rename_i isComplete
      have complete : req.headersComplete = true :=
        Bool.not_eq_false _ ▸ isComplete
      split
      · rename_i filled
        refine (shows.pullForward _).call ?_
        intro _ forwarded showsForwarded
        refine (showsForwarded.modifyRequest _).call ?_
        intro _ drained showsDrained
        exact showsDrained.pullCheckComplete complete (.buffered filled)
      · rename_i isEmpty
        have empty : req.recvBuf = [] := not_not.mp isEmpty
        refine shows.zsockRecv.call ?_
        rintro result middle ⟨answered, showsMiddle⟩
        rw [← isAnswer] at answered
        subst answered
        cases result with
        | failed errno =>
          dsimp only
          split
          · refine (showsMiddle.spared (SparesRequests.rspSendText _)).call ?_
            intro _ after showsAfter
            exact (ends_pure _ _).mpr ⟨_, _, .waits empty rfl, showsAfter⟩
          · refine showsMiddle.httpFailRequest.call ?_
            intro _ after showsAfter
            exact (ends_pure _ _).mpr ⟨_, _, .failed empty complete rfl, showsAfter⟩
        | done content =>
          dsimp only
          split
          · rename_i ended
            subst ended
            refine showsMiddle.httpFinishRequest.call ?_
            intro _ after showsAfter
            exact (ends_pure _ _).mpr ⟨_, _, .closed complete empty rfl, showsAfter⟩
          · rename_i nonempty
            refine (showsMiddle.modifyRequest _).call ?_
            intro _ counted showsCounted
            refine (showsCounted.note (by rfl) (by exact if_pos rfl)).call ?_
            intro _ noted showsNoted
            refine (showsNoted.pullForward content).call ?_
            intro _ forwarded showsForwarded
            exact showsForwarded.pullCheckComplete complete (.direct empty rfl nonempty)

end Shows

end SerialModem.Socket
