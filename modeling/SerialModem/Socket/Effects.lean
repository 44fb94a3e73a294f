import SerialModem.Socket.System
import SerialModem.AtHost.Frame

/-!
# What a step of the socket module is made of

Every function is cut down to effects: a call of the AT host, an answer of the
modem, or one assignment to one socket.  What depends on the functions is said
here once; an invariant is then shown for each effect.

A few effects only occur in a few places.  `Permits` names them, and each
function is shown to stay within what its caller permits.
-/

namespace SerialModem.Socket

open Library Library.Program
open AtHost

variable {cfg : Config} {env : Environment} {modem : Modem}

structure Permits where
  opens : Prop
  attaches : Slot → Option PipeId → Prop
  sessions : Prop
  serves : Prop
  requests : Prop
  /-- The body of an HTTP request is taken in data mode. -/
  streams : Prop
  bodies : Prop
  acknowledges : Prop
  notifies : Prop
  renews : Prop
  queues : Option PipeId → IdleItem → Prop

/-- Calls of the modem that neither open nor close a descriptor, and logged
observations that no invariant is about. -/
def SocketEvent.isCall : SocketEvent → Prop
  | .zsockSetsockopt _ _ _ => True
  | .zsockFcntl _ _ => True
  | .zsockListen _ _ => True
  | .zsockBind _ _ _ => True
  | .zsockConnect _ _ _ => True
  | .resolveHost _ _ _ => True
  | .zsockSend _ _ _ => True
  | .zsockSendto _ _ _ _ => True
  | .zsockRecv _ _ => True
  | .zsockRecvfrom _ _ => True
  | .malloc _ _ => True
  | .pollCallback _ _ => True
  | .reception _ _ _ => True
  | _ => False

def SocketEvent.isDescriptorCall : SocketEvent → Prop
  | .zsockSocket _ => True
  | .zsockAccept _ _ => True
  | .zsockClose _ _ => True
  | _ => False

def PollCause.mayNotify : PollCause → PollEvents
  | .opened => BitVec.allOnes 8
  | .started => BitVec.allOnes 8
  | .stopped => 0
  | .httpClient => zsockPollin ||| zsockPollout
  | .received => zsockPollin
  | .sent => zsockPollout
  | .acknowledged => zsockPollout
  | .accepted => zsockPollin
  | .reenabled => BitVec.allOnes 8
  | .reception => 0
  | .remaining => 0

def PollCause.renews : PollCause → Bool
  | .opened => true
  | .started => true
  | .reenabled => true
  | _ => false

def SocketEvent.ofSession : SocketEvent → Prop
  | .sessionEntered _ _ _ _ => True
  | .sessionSend _ _ _ _ => True
  | _ => False

def SocketEvent.ofBody : SocketEvent → Prop
  | .httpStarted _ => True
  | .httpReceived _ _ => True
  | .httpHeaders _ _ => True
  | .httpDelivered _ _ _ => True
  | .httpStat _ _ _ => True
  | _ => False

/-- Two sockets that differ in members which no table, no poll and no
notification depends on. -/
structure SmSocket.SameLinks (before after : SmSocket) : Prop where
  fd : after.fd = before.fd
  generation : after.generation = before.generation
  pipe : after.pipe = before.pipe
  asyncPoll : after.asyncPoll = before.asyncPoll
  sendNtf : after.sendNtf = before.sendNtf

/-- The AT host keeps its contexts with their modes, its wiring and the served
context. -/
structure Steady (before after : Host) : Prop where
  frame : Frame before after
  data : ∀ c, after.data c = before.data c
  current : after.currentCtx = before.currentCtx

namespace Steady

theorem refl (host : Host) : Steady host host :=
  ⟨Frame.refl host, fun _ => rfl, rfl⟩

theorem trans {first second third : Host}
    (left : Steady first second) (right : Steady second third) :
    Steady first third :=
  ⟨left.frame.trans right.frame, fun c => (right.data c).trans (left.data c),
    right.current.trans left.current⟩

theorem of_undisturbed {before after : Host}
    (undisturbed : Undisturbed cfg before after) : Steady before after :=
  ⟨undisturbed.frame, undisturbed.data, undisturbed.current⟩

theorem record (host : Host) (event : Event) : Steady host (host.record event) :=
  ⟨Frame.record host event, fun _ => rfl, rfl⟩

theorem getCurrent {before after : Host} (steady : Steady before after) :
    smAtHostGetCurrent cfg after = smAtHostGetCurrent cfg before :=
  smAtHostGetCurrent_congr steady.frame (fun c => by rw [steady.data c]) steady.current

end Steady

inductive Effect (cfg : Config) (permits : Permits) : World → World → Prop
  | host {world : World} {host : Host} (steady : Steady world.host host) :
      Effect cfg permits world (world.setHost host)
  | session {world : World} {host : Host}
      (permitted : permits.sessions) (frame : Frame world.host host)
      (current : host.currentCtx = world.host.currentCtx) :
      Effect cfg permits world (world.setHost host)
  /-- The AT host leaves data mode, or serves another context. -/
  | serve {world : World} {host : Host}
      (permitted : permits.serves) (frame : Frame world.host host) :
      Effect cfg permits world (world.setHost host)
  | queue {world : World} {pipe : Option PipeId} {item : IdleItem}
      {machine : Machine} (permitted : permits.queues pipe item)
      (queued : smAtHostQueueIdleWork pipe item world.machine = some machine) :
      Effect cfg permits world { world with machine := machine }
  | call {world : World} {event : SocketEvent} (isCall : event.isCall) :
      Effect cfg permits world (world.record event)
  | descriptor {world : World} {event : SocketEvent}
      (permitted : permits.opens) (isCall : event.isDescriptorCall) :
      Effect cfg permits world (world.record event)
  | member {world : World} {slot : Slot} {sock : SmSocket}
      (same : SmSocket.SameLinks (world.socks slot) sock) :
      Effect cfg permits world (world.setSock slot sock)
  | init {world : World} {slot : Slot} (permitted : permits.opens) :
      Effect cfg permits world ((world.setSock slot (SmSocket.cleared
          (smAtHostGetCurrentPipe cfg world.host)
          (world.socks slot).generation)).record (.initSocket slot))
  | store {world : World} {slot : Slot} {fd : Int} (permitted : permits.opens)
      (unready : (world.socks slot).sendNtf.ready = false) :
      Effect cfg permits world ((world.setSock slot
          { world.socks slot with
            fd := fd
            generation := (world.socks slot).generation + 1 }).record
          (.stored slot fd))
  | drop {world : World} {slot : Slot} (permitted : permits.opens)
      (unready : (world.socks slot).sendNtf.ready = false) :
      Effect cfg permits world ((world.setSock slot
          { world.socks slot with fd := invalidSocket }).record
          (.stored slot invalidSocket))
  | attach {world : World} {slot : Slot} {pipe : Option PipeId}
      (permitted : permits.attaches slot pipe) :
      Effect cfg permits world ((world.setSock slot { world.socks slot with pipe := pipe }).record
          (.attached slot pipe))
  | reassign {world : World} {slot : Slot} (lost : pollCtxFromSock slot world = none) :
      Effect cfg permits world ((world.setSock slot
          { world.socks slot with
            pipe := smAtHostGetCurrentPipe cfg world.host }).record
          (.reassigned slot (smAtHostGetCurrentPipe cfg world.host)))
  | select {world : World} {slot : Slot} {cause : PollCause} {requested : PollEvents} :
      Effect cfg permits world ((world.setPoll slot
          { world.poll slot with xapollEventsRequested := requested }).record
          (.selected slot cause (world.poll slot).xapollEvents requested))
  | arm {world : World} {slot : Slot} {cause : PollCause} {events notified : PollEvents}
      (requested : BitMask.Within notified (world.poll slot).xapollEventsRequested)
      (among : BitMask.Within notified events)
      (caused : BitMask.Within notified cause.mayNotify)
      (enabled : (world.poll slot).disable = false)
      (renewed : permits.renews ∨ cause.renews = false) :
      Effect cfg permits world ((world.setPoll slot ((world.poll slot).arm events notified)).record
          (.armed slot cause events notified))
  | settings {world : World} {slot : Slot} {poll : AsyncPoll}
      (xapoll : poll.xapollEvents = (world.poll slot).xapollEvents)
      (requested : poll.xapollEventsRequested = (world.poll slot).xapollEventsRequested)
      (disable : poll.disable = false → (world.poll slot).disable = false) :
      Effect cfg permits world (world.setPoll slot poll)
  | reenable {world : World} {slot : Slot} : Effect cfg permits world ((world.setPoll slot
          { world.poll slot with disable := false }).record (.reenabled slot))
  | xapoll {world : World} {slot : Slot} {events : PollEvents} (permitted : permits.notifies)
      (pending : BitMask.Within events (world.poll slot).xapollEvents) :
      Effect cfg permits world ((world.setPoll slot
          { world.poll slot with
            xapollEvents := (world.poll slot).xapollEvents &&& ~~~events
          }).record
          (.xapoll slot (world.socks slot).fd events))
  | rearm {world : World} {slot : Slot} : Effect cfg permits world ((world.setPoll slot
          { world.poll slot with
            xapollEvents := (world.poll slot).xapollEvents ||| zsockPollin
            events := (world.poll slot).events ||| zsockPollin }).record
          (.rearmed slot (world.poll slot).xapollEventsRequested))
  | sendCallback {world : World} {slot : Slot} {status : Int}
      {bytesSent : Nat} (permitted : permits.acknowledges)
      (unready : (world.socks slot).sendNtf.ready = false) :
      Effect cfg permits world ((world.setSock slot
          { world.socks slot with
            sendNtf :=
              { ready := true, status := status, bytesSent := bytesSent }
          }).record
          (.sendCallback slot status bytesSent true))
  | rejected {world : World} {slot : Slot} {status : Int} {bytesSent : Nat}
      (permitted : permits.acknowledges)
      (ready : (world.socks slot).sendNtf.ready = true) :
      Effect cfg permits world (world.record (.sendCallback slot status bytesSent false))
  | xsendntf {world : World} {slot : Slot} (ready : (world.socks slot).sendNtf.ready = true) :
      Effect cfg permits world ((world.setSock slot
          { world.socks slot with
            sendNtf := { (world.socks slot).sendNtf with ready := false }
          }).record
          (.xsendntf slot (world.socks slot).fd (shownStatus (world.socks slot).sendNtf.status)
            (world.socks slot).sendNtf.bytesSent))
  | request {world : World} {requests : Slot → Option HttpRequest}
      {datamodeReq : Option Slot} (permitted : permits.requests) :
      Effect cfg permits world { world with httpRequests := requests, datamodeReq := datamodeReq }
  | stream {world : World} {r : Slot} (permitted : permits.streams) :
      Effect cfg permits world { world with datamodeReq := some r }
  | requests {world : World} {requests : Slot → Option HttpRequest}
      {datamodeReq : Option Slot} (permitted : permits.bodies)
      (handles : ∀ r req, requests r = some req →
        ∃ old, world.httpRequests r = some old ∧ req.fd = old.fd)
      (datamode : datamodeReq = world.datamodeReq ∨ datamodeReq = none) :
      Effect cfg permits world { world with httpRequests := requests, datamodeReq := datamodeReq }
  | body {world : World} {event : SocketEvent} (permitted : permits.bodies)
      (ofBody : event.ofBody) : Effect cfg permits world (world.record event)
  | context {world : World} {c : CtxId} {pollCtx : AsyncPollCtx}
      (same : pollCtx.datamodeSock = (world.pollCtx c).datamodeSock) :
      Effect cfg permits world (world.setPollCtx c pollCtx)
  | datamodeSock {world : World} {c : CtxId} {slot : Option Slot} (permitted : permits.sessions) :
      Effect cfg permits world (world.setPollCtx c { world.pollCtx c with datamodeSock := slot })
  | udp {world : World} {url : List Byte} {port : UInt16} (permitted : permits.sessions) :
      Effect cfg permits world { world with udpUrl := url, udpPort := port }
  | observed {world : World} {event : SocketEvent}
      (permitted : permits.sessions) (ofSession : event.ofSession) :
      Effect cfg permits world (world.record event)

abbrev Effects (cfg : Config) (permits : Permits) : World → World → Prop :=
  Relation.ReflTransGen (Effect cfg permits)

namespace Effects

variable {permits : Permits}

theorem refl (world : World) : Effects cfg permits world world :=
  Relation.ReflTransGen.refl

theorem of_effect {before after : World} (effect : Effect cfg permits before after) :
    Effects cfg permits before after :=
  Relation.ReflTransGen.single effect

theorem preserves {property : World → Prop}
    (kept : ∀ {before after}, Effect cfg permits before after → property before → property after)
    {before after : World} (effects : Effects cfg permits before after)
    (holds : property before) : property after := by
  induction effects with
  | refl => exact holds
  | tail _ last ih => exact kept last ih

theorem relates (relation : World → World → Prop) (reflexive : ∀ world, relation world world)
    (transitive : ∀ {first second third}, relation first second →
      relation second third → relation first third)
    (single : ∀ {before after}, Effect cfg permits before after → relation before after)
    {before after : World} (effects : Effects cfg permits before after) :
    relation before after := by
  induction effects with
  | refl => exact reflexive before
  | tail _ last ih =>
    exact transitive ih (single last)

end Effects

variable {permits : Permits} {before after : World}

theorem Effect.unready (silent : ¬permits.acknowledges)
    (effect : Effect cfg permits before after) (slot : Slot)
    (unready : (before.socks slot).sendNtf.ready = false) :
    (after.socks slot).sendNtf.ready = false := by
  have assigned : ∀ {target : Slot} {sock : SmSocket},
      ((before.socks target).sendNtf.ready = false → sock.sendNtf.ready = false) →
      ((before.setSock target sock).socks slot).sendNtf.ready = false :=
    @fun target sock kept => by
      by_cases equal : slot = target
      · subst equal
        rw [World.socks_setSock_self]
        exact kept unready
      · rw [World.socks_setSock_of_ne _ _ equal]
        exact unready
  cases effect with
  | member same =>
    apply assigned
    rw [same.sendNtf]
    exact id
  | init => exact assigned fun _ => rfl
  | store | drop | attach | reassign | select | arm | settings | reenable | xapoll | rearm =>
    exact assigned id
  | sendCallback permitted => exact absurd permitted silent
  | xsendntf => exact assigned fun _ => rfl
  | _ => exact unready

theorem Effects.unready (silent : ¬permits.acknowledges)
    (effects : Effects cfg permits before after) (slot : Slot)
    (unready : (before.socks slot).sendNtf.ready = false) :
    (after.socks slot).sendNtf.ready = false :=
  effects.preserves (fun effect => effect.unready silent slot) unready

def Performs (cfg : Config) (permits : Permits) (base : World)
    {Value : Type} (program : SocketM Value) : Prop :=
  ∀ world, Effects cfg permits base world →
    Ends world program fun _ after => Effects cfg permits base after

namespace Performs

variable {permits : Permits} {base : World} {Value Result : Type}

theorem pure (value : Value) : Performs cfg permits base (Pure.pure value : SocketM Value) := by
  intro world reached
  rw [ends_pure]
  exact reached

theorem get : Performs cfg permits base (MonadState.get : SocketM World) := by
  intro world reached
  rw [ends_get]
  exact reached

theorem failure : Performs cfg permits base (Alternative.failure : SocketM Value) :=
  fun _ _ => ends_failure _

theorem bind {program : SocketM Value} {next : Value → SocketM Result}
    (performs : Performs cfg permits base program)
    (continues : ∀ value, Performs cfg permits base (next value)) :
    Performs cfg permits base (program >>= next) := by
  intro world reached
  refine (performs world reached).call ?_
  intro value middle reachedMiddle
  exact continues value middle reachedMiddle

theorem forM {Element : Type} {body : Element → SocketM PUnit} :
    ∀ elements : List Element, (∀ element, element ∈ elements →
        Performs cfg permits base (body element)) →
      Performs cfg permits base (elements.forM body)
  | [], _ => pure PUnit.unit
  | element :: rest, performs =>
    bind (performs element (List.mem_cons_self ..)) fun _ =>
      forM rest fun later member =>
        performs later (List.mem_cons_of_mem _ member)

theorem assigns {change : World → World}
    (effect : ∀ world, Effect cfg permits world (change world)) :
    Performs cfg permits base (modify change : SocketM PUnit) := by
  intro world reached
  rw [ends_modify]
  exact reached.tail (effect world)

theorem read {next : World → SocketM Result} (performs : ∀ world, Effects cfg permits base world →
      Ends world (next world) fun _ after =>
        Effects cfg permits base after) :
    Performs cfg permits base (MonadState.get >>= next) := by
  intro world reached
  rw [ends_bind, ends_get]
  exact performs world reached

theorem assign {next : SocketM Result} {world after : World}
    (reached : Effects cfg permits base world)
    (effect : Effect cfg permits world after)
    (performs : Performs cfg permits base next) :
    Ends world (set after >>= fun _ => next) fun _ final =>
      Effects cfg permits base final := by
  rw [ends_bind, ends_set]
  exact performs after (reached.tail effect)

end Performs

structure Permits.Narrows (narrow wide : Permits) : Prop where
  opens : narrow.opens → wide.opens
  attaches : ∀ slot pipe, narrow.attaches slot pipe → wide.attaches slot pipe
  sessions : narrow.sessions → wide.sessions
  serves : narrow.serves → wide.serves
  requests : narrow.requests → wide.requests
  streams : narrow.streams → wide.streams
  bodies : narrow.bodies → wide.bodies
  acknowledges : narrow.acknowledges → wide.acknowledges
  notifies : narrow.notifies → wide.notifies
  renews : narrow.renews → wide.renews
  queues : ∀ pipe item, narrow.queues pipe item → wide.queues pipe item

def Permits.whileServing (permits : Permits) : Permits :=
  { permits with serves := False }

theorem Permits.whileServing_narrows (permits : Permits) :
    permits.whileServing.Narrows permits where
  opens := id
  attaches _ _ := id
  sessions := id
  serves := False.elim
  requests := id
  streams := id
  bodies := id
  acknowledges := id
  notifies := id
  renews := id
  queues _ _ := id

instance {permits : Permits} [kept : Fact permits.bodies] : Fact permits.whileServing.bodies :=
  kept

def Permits.whileStarting (permits : Permits) : Permits :=
  { permits with requests := False }

theorem Permits.whileStarting_narrows (permits : Permits) :
    permits.whileStarting.Narrows permits where
  opens := id
  attaches _ _ := id
  sessions := id
  serves := id
  requests := False.elim
  streams := id
  bodies := id
  acknowledges := id
  notifies := id
  renews := id
  queues _ _ := id

instance {permits : Permits} [kept : Fact permits.bodies] : Fact permits.whileStarting.bodies :=
  kept

theorem Permits.Narrows.refl (permits : Permits) : permits.Narrows permits :=
  ⟨id, fun _ _ => id, id, id, id, id, id, id, id, id, fun _ _ => id⟩

variable {narrow wide : Permits}

theorem Effect.widen (narrows : narrow.Narrows wide) (effect : Effect cfg narrow before after) :
    Effect cfg wide before after := by
  cases effect with
  | host steady => exact .host steady
  | session permitted frame current =>
    exact .session (narrows.sessions permitted) frame current
  | serve permitted frame => exact .serve (narrows.serves permitted) frame
  | queue permitted queued =>
    exact .queue (narrows.queues _ _ permitted) queued
  | call isCall => exact .call isCall
  | descriptor permitted isCall =>
    exact .descriptor (narrows.opens permitted) isCall
  | member same => exact .member same
  | init permitted => exact .init (narrows.opens permitted)
  | store permitted unready =>
    exact .store (narrows.opens permitted) unready
  | drop permitted unready =>
    exact .drop (narrows.opens permitted) unready
  | attach permitted => exact .attach (narrows.attaches _ _ permitted)
  | reassign lost => exact .reassign lost
  | select => exact .select
  | arm requested among caused enabled renewed =>
    exact .arm requested among caused enabled (renewed.imp_left narrows.renews)
  | settings xapoll requested disable =>
    exact .settings xapoll requested disable
  | reenable => exact .reenable
  | xapoll permitted pending =>
    exact .xapoll (narrows.notifies permitted) pending
  | rearm => exact .rearm
  | sendCallback permitted unready =>
    exact .sendCallback (narrows.acknowledges permitted) unready
  | rejected permitted ready =>
    exact .rejected (narrows.acknowledges permitted) ready
  | xsendntf ready => exact .xsendntf ready
  | request permitted => exact .request (narrows.requests permitted)
  | stream permitted => exact .stream (narrows.streams permitted)
  | requests permitted handles datamode =>
    exact .requests (narrows.bodies permitted) handles datamode
  | body permitted ofBody => exact .body (narrows.bodies permitted) ofBody
  | context same => exact .context same
  | datamodeSock permitted =>
    exact .datamodeSock (narrows.sessions permitted)
  | udp permitted => exact .udp (narrows.sessions permitted)
  | observed permitted ofSession =>
    exact .observed (narrows.sessions permitted) ofSession

theorem Effects.widen (narrows : narrow.Narrows wide) (effects : Effects cfg narrow before after) :
    Effects cfg wide before after :=
  Relation.ReflTransGen.mono (fun _ _ effect => effect.widen narrows) _ _ effects

/-- A part of a program with fewer effects, seen from where it starts. -/
theorem Performs.within {base middle : World} {Value : Type}
    {program : SocketM Value} (narrows : narrow.Narrows wide)
    (performs : Performs cfg narrow middle program)
    (reached : Effects cfg wide base middle) :
    Ends middle program fun _ after =>
      Effects cfg wide base after :=
  (performs middle (Effects.refl middle)).mono fun _ _ effects =>
    reached.trans (effects.widen narrows)

def MayAttach (cfg : Config) (permits : Permits) (base : World) (slot : Slot) : Prop :=
  ∀ world, Effects cfg permits base world →
    permits.attaches slot (smAtHostGetCurrentPipe cfg world.host)

def BodyMayAttach (cfg : Config) (permits : Permits) (middle : World) :
    Prop :=
  ∀ r req slot, middle.datamodeReq = some r → middle.httpRequests r = some req →
    findSocket req.fd middle = some slot →
    MayAttach cfg permits middle slot

/-- Where a context leaves data mode in the normal way, the socket of the HTTP
request may be moved. -/
def ExitMayAttach (cfg : Config) (permits : Permits) (base : World) (event : Event) : Prop :=
  ∀ c flags, event = .handlerExit c httpDatamodeCallback flags → flags.exitHandler = false →
    ∀ middle, Effects cfg permits base middle → middle.host.currentCtx = some c →
      BodyMayAttach cfg permits.whileServing middle

def PollMayAttach (cfg : Config) (permits : Permits) (base : World) (pipe : PipeId) : Prop :=
  ∀ world slot target, Effects cfg permits base world → ofPipe (some pipe) slot world = true →
    (findRequest (world.socks slot).fd world).isSome = true →
    findSocket (world.socks slot).fd world = some target →
    MayAttach cfg permits base target

structure PollPermitted (cfg : Config) (permits : Permits) (base : World)
    (c : CtxId) : Prop where
  notifies : permits.notifies
  renews : permits.renews
  queues : ∀ pipe, (base.host.ctx c).pipe = some pipe → permits.queues (some pipe) (.pollIdle c)
  leaves : ∀ pipe, (base.host.ctx c).pipe = some pipe →
    inDatamodePipe (some pipe) base.host = true →
    permits.sessions ∧ permits.serves
  mayAttach : ∀ pipe, (base.host.ctx c).pipe = some pipe → isIdlePipe (some pipe) base.host = true →
    PollMayAttach cfg permits base pipe

structure IdlePermitted (cfg : Config) (permits : Permits) (base : World)
    (c : CtxId) : Prop where
  polls : isIdlePipe (smAtHostGetCurrentPipe cfg base.host) base.host = true →
    PollPermitted cfg permits base c
  defers : isIdlePipe (smAtHostGetCurrentPipe cfg base.host) base.host = false →
    permits.queues (smAtHostGetCurrentPipe cfg base.host) (.pollIdle c)

def WorkPermitted (cfg : Config) (permits : Permits) (base : World) : SocketWork → Prop
  | .poll c => PollPermitted cfg permits base c
  | .idle (.pollIdle c) => IdlePermitted cfg permits base c
  | .idle .sendCb => True

theorem WorkPermitted.of_polls {base : World} {work : SocketWork}
    (queues : ∀ pipe item, permits.queues pipe item)
    (polls : ∀ c, work.polls = some c → PollPermitted cfg permits base c) :
    WorkPermitted cfg permits base work := by
  cases work with
  | poll c => exact polls c rfl
  | idle item =>
    cases item with
    | pollIdle c => exact ⟨fun _ => polls c rfl, fun _ => queues _ _⟩
    | sendCb => trivial

def RequestMayAttach (cfg : Config) (permits : Permits) (base : World) (r : Slot) : Prop :=
  ∀ world req, Effects cfg permits base world → world.httpRequests r = some req →
    ∀ later slot, Effects cfg permits base later → findSocket req.fd later = some slot →
      MayAttach cfg permits base slot

end SerialModem.Socket
