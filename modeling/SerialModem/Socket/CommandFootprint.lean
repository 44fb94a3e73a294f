import SerialModem.Socket.Footprint

/-!
# The effects of each command

A command moves no other socket to its channel than the one that its handle
names; the commands on all sockets of a channel move none.  Slots are filled
and emptied by four commands, and data mode is entered by three.
-/

namespace SerialModem.Socket

open Library Library.Program
open AtHost

variable {cfg : Config} {env : Environment} {modem : Modem}
variable {permits : Permits} {base : World} {parser : AtParser}

def AtParser.Names (parser : AtParser) (world : World) (slot : Slot) : Prop :=
  ∃ fd, parser.num 1 = .done fd ∧ findSocket fd world = some slot

namespace Performs

/-! ## Parameters -/

theorem withParam {Value : Type} {param : Outcome Value} {next : Value → SocketM Int}
    (performs : ∀ value, param = .done value → Performs cfg permits base (next value)) :
    Performs cfg permits base (withParam param next) := by
  unfold Socket.withParam
  split
  · exact pure _
  · exact performs _ rfl

theorem withSocket {fd : Int} {next : Slot → SocketM Int}
    (performs : ∀ slot, findSocket fd base = some slot → Performs cfg permits base (next slot)) :
    Ends base (withSocket fd next) fun _ after =>
      Effects cfg permits base after := by
  rw [Socket.withSocket, ends_bind, ends_get]
  split
  · exact pure _ base (Effects.refl base)
  · rename_i slot found
    exact performs slot found base (Effects.refl base)

theorem withHandle {next : Slot → SocketM Int} (performs : ∀ slot, parser.Names base slot →
      Performs cfg permits base (next slot)) :
    Ends base (Socket.withParam (parser.num 1) fun fd => Socket.withSocket fd next)
      fun _ after => Effects cfg permits base after := by
  unfold Socket.withParam
  split
  · exact pure _ base (Effects.refl base)
  · rename_i fd handle
    exact withSocket fun slot found => performs slot ⟨fd, handle, found⟩

variable {next : SocketM Int}

theorem unlessError {first : SocketM Int} (performs : Performs cfg permits base first)
    (continues : Performs cfg permits base next) :
    Performs cfg permits base (unlessError first next) := by
  apply bind performs
  intro err
  split
  · exact pure err
  · exact continues

/-! ## Opening and closing -/

theorem setOption (slot : Slot) (option : SockOption) :
    Performs cfg permits base (setOption modem slot option) := by
  apply bind get
  intro world
  apply bind (zsockSetsockopt _ _)
  intro result
  split <;> exact pure _

theorem bindToPdn (slot : Slot) : Performs cfg permits base (bindToPdn modem slot) := by
  apply bind get
  intro world
  dsimp only
  split
  · split
    · exact pure _
    · exact setOption slot _
  · exact pure 0

theorem adoptPollCtx (renews : permits.renews) (pollCtx : AsyncPollCtx) (slot : Slot) :
    Performs cfg permits base (adoptPollCtx cfg modem pollCtx slot) := by
  apply bind
  · exact modifyPoll slot (fun _ => rfl) (fun _ => rfl) fun _ => id
  · intro _
    apply bind (selectEvents .opened slot _)
    intro _
    exact bind (updatePollEvents (by decide) (.inl renews) slot) fun _ =>
      pure ()

theorem announceSocket (renews : permits.renews) (slot : Slot) (name : String) (proto : Int) :
    Performs cfg permits base (announceSocket cfg modem slot name proto) := by
  apply bind get
  intro world
  apply bind (rspSendText _)
  intro _
  apply bind get
  intro world
  split
  · exact pure _
  · exact bind (adoptPollCtx renews _ slot) fun _ => pure 0

section

variable (opens : permits.opens)
include opens

theorem initSocket (slot : Slot) : Performs cfg permits base (initSocket cfg slot) :=
  assigns fun _ => .init opens

variable {slot : Slot}

theorem storeFd (silent : ¬permits.acknowledges)
    (unready : (base.socks slot).sendNtf.ready = false) (fd : Int) :
    Performs cfg permits base (storeFd slot fd) := by
  intro world reached
  rw [Socket.storeFd, ends_modify]
  exact reached.tail (.store opens (reached.unready silent slot unready))

theorem zsockSocket (family type proto : Int) :
    Performs cfg permits base (zsockSocket modem family type proto) := by
  apply bind get
  intro world
  apply bind
  · exact assigns fun _ => .descriptor opens trivial
  · intro _
    exact pure _

theorem zsockClose (fd : Int) : Performs cfg permits base (zsockClose modem fd) := by
  apply bind get
  intro world
  apply bind
  · exact assigns fun _ => .descriptor opens trivial
  · intro _
    exact pure _

theorem abandonSocket (silent : ¬permits.acknowledges)
    (unready : (base.socks slot).sendNtf.ready = false) :
    Performs cfg permits base (abandonSocket modem slot) := by
  apply bind get
  intro world
  apply bind (zsockClose opens _)
  intro _ closed reached
  rw [Socket.dropFd, ends_modify]
  exact reached.tail (.drop opens (reached.unready silent slot unready))

theorem openDescriptor (renews : permits.renews) (silent : ¬permits.acknowledges)
    (unready : (base.socks slot).sendNtf.ready = false) (name : String)
    (modemProto proto : Int) {setup : SocketM Int}
    (setsUp : Performs cfg permits base setup) :
    Performs cfg permits base (openDescriptor cfg modem slot name modemProto proto setup) := by
  apply bind get
  intro world
  apply bind (zsockSocket opens _ _ _)
  intro result
  split
  · exact pure _
  · apply bind (storeFd opens silent unready _)
    intro _
    apply bind (unlessError (setOption slot _) (unlessError (bindToPdn slot) setsUp))
    intro ret
    split
    · exact bind (abandonSocket opens silent unready) fun _ => pure ret
    · exact announceSocket renews slot name proto

theorem doSocketOpen (renews : permits.renews) (silent : ¬permits.acknowledges)
    (unready : (base.socks slot).sendNtf.ready = false) :
    Performs cfg permits base (doSocketOpen cfg modem slot) := by
  apply bind get
  intro world
  dsimp only
  split
  · exact pure _
  · split
    · exact pure _
    · split
      · exact openDescriptor opens renews silent unready _ _ _ (pure 0)
      · split
        · exact openDescriptor opens renews silent unready _ _ _ (pure 0)
        · split
          · exact openDescriptor opens renews silent unready _ _ _ (pure 0)
          · exact pure _

theorem doSecureSocketOpen (renews : permits.renews) (silent : ¬permits.acknowledges)
    (unready : (base.socks slot).sendNtf.ready = false) (peerVerify : UInt16) :
    Performs cfg permits base (doSecureSocketOpen cfg modem slot peerVerify) := by
  apply bind get
  intro world
  dsimp only
  split
  · exact pure _
  · split
    · exact pure _
    · exact openDescriptor opens renews silent unready _ _ _
        (unlessError (setOption slot _) (setOption slot _))

theorem orInit (slot : Slot) {opening : SocketM Int}
    (performs : Performs cfg permits base opening) :
    Performs cfg permits base (orInit cfg slot opening) := by
  apply bind performs
  intro err
  split
  · exact bind (initSocket opens slot) fun _ => pure err
  · exact pure 0

theorem withFreeSlot {opening : Slot → SocketM Int} (performs : ∀ (middle : World) slot,
      (middle.socks slot).sendNtf.ready = false →
      Performs cfg permits middle (opening slot)) :
    Performs cfg permits base (withFreeSlot cfg opening) := by
  apply read
  intro world reached
  split
  · exact pure _ world reached
  · rename_i slot _
    rw [Socket.initSocket, ends_bind, ends_modify]
    apply Performs.within (Permits.Narrows.refl permits)
    · apply orInit opens slot
      apply performs
      rw [World.record, World.socks_setSock_self]
      rfl
    · exact reached.tail (.init opens)

end

variable {slot : Slot}

theorem storeParam {Value : Type} {param : Outcome Value}
    {change : Value → SmSocket → SmSocket} {next : Value → SocketM Int}
    (performs : ∀ value, Performs cfg permits base (next value))
    (same : ∀ value sock, SmSocket.SameLinks sock (change value sock)) :
    Performs cfg permits base (Socket.withParam param fun value => do
      Socket.modifySock slot (change value)
      next value) :=
  withParam fun value _ =>
    bind (modifySock slot (same value)) fun _ => performs value

theorem openParams (slot : Slot) (performs : Performs cfg permits base next) :
    Performs cfg permits base (openParams parser slot next) := by
  refine storeParam ?_ fun _ _ => ⟨rfl, rfl, rfl, rfl, rfl⟩
  intro family
  refine storeParam ?_ fun _ _ => ⟨rfl, rfl, rfl, rfl, rfl⟩
  intro type
  refine storeParam ?_ fun _ _ => ⟨rfl, rfl, rfl, rfl, rfl⟩
  intro role
  exact performs

theorem cidParam (slot : Slot) (index : Nat) (performs : Performs cfg permits base next) :
    Performs cfg permits base (cidParam parser slot index next) := by
  unfold Socket.cidParam
  split
  · refine storeParam ?_ fun _ _ => ⟨rfl, rfl, rfl, rfl, rfl⟩
    intro cid
    split
    · exact pure _
    · exact performs
  · exact performs

section

variable (opens : permits.opens)
include opens

theorem handleAtSocket (renews : permits.renews) (silent : ¬permits.acknowledges) :
    Performs cfg permits base (handleAtSocket cfg modem parser) :=
  withFreeSlot opens fun _ slot unready =>
    openParams slot (cidParam slot 4 (doSocketOpen opens renews silent unready))

theorem handleAtSecureSocket (renews : permits.renews) (silent : ¬permits.acknowledges) :
    Performs cfg permits base (handleAtSecureSocket cfg modem parser) := by
  apply withFreeSlot opens
  intro _ slot unready
  apply openParams slot
  refine storeParam ?_ fun _ _ => ⟨rfl, rfl, rfl, rfl, rfl⟩
  intro secTag
  unfold peerVerifyParam
  split
  · exact withParam fun peerVerify _ =>
      cidParam slot 6 (doSecureSocketOpen opens renews silent unready peerVerify)
  · exact cidParam slot 6 (doSecureSocketOpen opens renews silent unready _)

variable [Fact permits.bodies]

theorem doSocketClose (slot : Slot) : Performs cfg permits base (doSocketClose cfg modem slot) := by
  have answered : ∀ fd ret, Performs cfg permits base (do
      Socket.rspSendText cfg (report "#XCLOSE" [decimal fd, decimal ret])
      Socket.smAtHttpcSocketClosed cfg fd
      Socket.initSocket cfg slot
      Pure.pure ret) := by
    intro fd ret
    exact bind (rspSendText _) fun _ => bind (smAtHttpcSocketClosed fd)
      fun _ => bind (initSocket opens slot) fun _ => pure ret
  apply bind get
  intro world
  dsimp only
  split
  · exact pure 0
  · apply bind (zsockClose opens _)
    intro result
    split
    · exact bind (pure _) (answered _)
    · exact bind (pure _) (answered _)

theorem closeAll : ∀ (remaining : List Slot) (err : Int),
      Performs cfg permits base (closeAll cfg modem remaining err)
  | [], _ => pure _
  | slot :: rest, _ =>
    bind (doSocketClose opens slot) fun _ => closeAll rest _

theorem handleAtClose : Performs cfg permits base (handleAtClose cfg modem parser) := by
  unfold Socket.handleAtClose
  split
  · apply withParam
    intro fd _
    apply bind get
    intro world
    split
    · exact pure _
    · exact doSocketClose opens _
  · exact closeAll opens slots 0

end

/-! ## Binding, connecting and listening -/

theorem bindToLocalAddr (slot : Slot) (port : UInt16) :
    Performs cfg permits base (bindToLocalAddr modem slot port) := by
  apply bind get
  intro world
  dsimp only
  split
  · split
    · apply bind
      · exact emit trivial
      · intro _
        split
        · exact pure _
        · apply bind
          · exact modifySock slot fun _ => ⟨rfl, rfl, rfl, rfl, rfl⟩
          · intro _
            exact pure 0
    · exact pure _
  · exact pure _

theorem handleAtBind : Performs cfg permits base (handleAtBind modem parser) := by
  apply withParam
  intro fd _
  apply bind get
  intro world
  split
  · exact pure _
  · exact withParam fun port _ => bindToLocalAddr _ port

theorem doConnect (slot : Slot) (url : List Byte) (port : UInt16) :
    Performs cfg permits base (doConnect cfg modem slot url port) := by
  apply bind get
  intro world
  dsimp only
  apply bind (utilResolveHost _ _ _ _)
  intro resolved
  split
  · exact pure _
  · apply bind get
    intro world
    apply bind
    · exact emit trivial
    · intro _
      split
      · exact pure _
      · apply bind
        · exact modifySock slot fun _ => ⟨rfl, rfl, rfl, rfl, rfl⟩
        · intro _
          exact bind (rspSendText _) fun _ => pure 0

theorem withUrl {param : Outcome (List Byte)} {next : List Byte → SocketM Int}
    (performs : ∀ url, Performs cfg permits base (next url)) :
    Performs cfg permits base (withUrl param next) := by
  apply withParam
  intro url _
  split
  · exact performs url
  · exact pure _

theorem attachCurrent (mayAttach : MayAttach cfg permits base slot) :
    Performs cfg permits base (attachCurrent cfg slot) := by
  apply read
  intro world reached
  unfold Socket.attachSock
  rw [ends_modify]
  exact reached.tail (.attach (mayAttach world reached))

theorem handleAtConnect (named : ∀ slot, parser.Names base slot → MayAttach cfg permits base slot) :
    Ends base (handleAtConnect cfg modem parser) fun _ after =>
      Effects cfg permits base after := by
  apply withHandle
  intro slot isNamed
  apply withUrl
  intro url
  apply withParam
  intro port _
  exact bind (attachCurrent (named slot isNamed)) fun _ =>
    doConnect slot url port

theorem doListen (slot : Slot) : Performs cfg permits base (doListen modem slot) := by
  apply bind get
  intro world
  dsimp only
  split
  · exact pure _
  · apply bind
    · exact emit trivial
    · intro _
      split
      · exact pure _
      · apply bind get
        intro world
        apply bind
        · exact emit trivial
        · intro _
          split
          · exact pure _
          · apply bind
            · exact modifySock slot fun _ => ⟨rfl, rfl, rfl, rfl, rfl⟩
            · intro _
              exact pure 0

theorem handleAtListen : Performs cfg permits base (handleAtListen modem parser) := by
  apply withParam
  intro fd _
  apply bind get
  intro world
  split
  · exact pure _
  · exact doListen _

section

variable (opens : permits.opens)
include opens

theorem fillAccepted (silent : ¬permits.acknowledges)
    (slot accepting : Slot) (fd : Nat) (remote : Peer) :
    Performs cfg permits base (fillAccepted cfg slot accepting fd remote) := by
  intro world reached
  rw [Socket.fillAccepted, Socket.initSocket, ends_bind, ends_modify]
  refine Performs.within (Permits.Narrows.refl permits) ?_ (reached.tail (.init opens))
  apply bind
  · apply storeFd opens silent
    rw [World.record, World.socks_setSock_self]
    rfl
  · intro _
    apply bind get
    intro stored
    exact modifySock slot fun _ => ⟨rfl, rfl, rfl, rfl, rfl⟩

theorem doAccept (renews : permits.renews) (silent : ¬permits.acknowledges) (slot : Slot) :
    Performs cfg permits base (doAccept cfg modem slot) := by
  apply bind get
  intro world
  dsimp only
  split
  · exact pure _
  · apply bind
    · exact assigns fun _ => .descriptor opens trivial
    · intro _
      split
      · exact pure _
      · split
        · exact bind (zsockClose opens _) fun _ => pure _
        · rename_i newSlot _
          apply bind (fillAccepted opens silent newSlot slot _ _)
          intro _
          apply bind (rspSendText _)
          intro _
          split
          · exact failure
          · apply bind get
            intro world
            apply bind (adoptPollCtx renews _ newSlot)
            intro _
            exact bind (updatePollEvents (by decide) (.inr rfl) slot) fun _ => pure 0

theorem handleAtAccept (renews : permits.renews) (silent : ¬permits.acknowledges) :
    Performs cfg permits base (handleAtAccept cfg modem parser) := by
  apply withParam
  intro fd _
  apply bind get
  intro world
  split
  · exact pure _
  · exact doAccept opens renews silent _

end

/-! ## Sending and receiving -/

theorem withSendData {mode : UInt16} {index : Nat} {next : List Byte → SocketM Int}
    (performs : ∀ content, Performs cfg permits base (next content)) :
    Performs cfg permits base (withSendData parser mode index next) := by
  unfold Socket.withSendData
  split
  · apply withParam
    intro text _
    split
    · split
      · exact pure _
      · exact pure _
      · exact performs _
    · exact performs text
  · exact pure _

theorem dataLenParam {index : Nat} {next : Int → SocketM Int}
    (performs : ∀ dataLen, Performs cfg permits base (next dataLen)) :
    Performs cfg permits base (dataLenParam parser index next) := by
  unfold Socket.dataLenParam
  split
  · exact withParam fun dataLen _ => performs dataLen
  · exact performs 0

section

variable (inSession : permits.sessions)
include inSession

theorem enterDatamodeWith (handler : HandlerId) (dataLen : Int) :
    Performs cfg permits base (enterDatamodeWith cfg env handler dataLen) := by
  apply read
  intro world reached
  split
  · exact failure world reached
  · rename_i entered host ran
    have commanded : Commanded cfg world.host host :=
      enterDatamode_commanded cfg (outside env) ran
    exact assign reached (.session inSession commanded.frame commanded.current) (pure _)

theorem recordSession (slot : Slot) (destination : Destination) :
    Performs cfg permits base (recordSession cfg slot destination) := by
  apply bind get
  intro world
  split
  · exact pure ()
  · exact assigns fun _ => .observed inSession trivial

omit inSession in
theorem pollInDatamode (slot : Slot) :
    Performs cfg permits base (pollInDatamode cfg modem slot) := by
  apply bind get
  intro world
  split
  · exact bind (updatePollEvents (by decide) (.inr rfl) slot) fun _ =>
      pure ()
  · exact pure ()

theorem enterSocketSession (slot : Slot) (dataLen : Int) (destination : Destination) :
    Performs cfg permits base (enterSocketSession cfg env modem slot dataLen destination) := by
  apply read
  intro world reached
  split
  · exact failure world reached
  · refine assign reached (.datamodeSock inSession) ?_
    apply unlessError (enterDatamodeWith inSession _ dataLen)
    exact bind (recordSession inSession slot destination) fun _ =>
      bind (pollInDatamode slot) fun _ => pure 0

end

theorem setSendFlags (slot : Slot) (flags : Int) :
    Performs cfg permits base (setSendFlags slot flags) :=
  modifySock slot fun _ => ⟨rfl, rfl, rfl, rfl, rfl⟩

theorem handleAtSend (inSession : permits.sessions)
    (named : ∀ slot, parser.Names base slot → MayAttach cfg permits base slot) :
    Ends base (handleAtSend cfg env modem parser) fun _ after =>
      Effects cfg permits base after := by
  apply withHandle
  intro slot isNamed
  apply withParam
  intro mode _
  apply withParam
  intro flags _
  apply bind (setSendFlags slot flags)
  intro _
  apply bind (attachCurrent (named slot isNamed))
  intro _
  split
  · apply withSendData
    intro content
    exact bind (doSend slot content _) fun _ => pure _
  · split
    · exact dataLenParam fun dataLen =>
        enterSocketSession inSession slot dataLen .peer
    · exact pure _

theorem withUdpUrl (inSession : permits.sessions) {next : List Byte → SocketM Int}
    (performs : ∀ url, Performs cfg permits base (next url)) :
    Performs cfg permits base (withUdpUrl parser next) := by
  apply withParam
  intro url _
  split
  · apply bind
    · exact assigns fun _ => .udp inSession
    · intro _
      split
      · exact performs url
      · exact pure _
  · exact pure _

theorem handleAtSendto (inSession : permits.sessions)
    (named : ∀ slot, parser.Names base slot → MayAttach cfg permits base slot) :
    Ends base (handleAtSendto cfg env modem parser) fun _ after =>
      Effects cfg permits base after := by
  apply withHandle
  intro slot isNamed
  apply withParam
  intro mode _
  apply withParam
  intro flags _
  apply bind (setSendFlags slot flags)
  intro _
  apply withUdpUrl inSession
  intro url
  apply withParam
  intro port _
  apply bind
  · exact assigns fun _ => .udp inSession
  · intro _
    apply bind (attachCurrent (named slot isNamed))
    intro _
    split
    · apply withSendData
      intro content
      apply bind (doSendto slot _ _ content _)
      intro err
      apply bind
      · exact assigns fun _ => .udp inSession
      · intro _
        exact pure _
    · split
      · exact dataLenParam fun dataLen =>
          enterSocketSession inSession slot dataLen _
      · exact pure _

theorem receiveLenParam {next : Nat → SocketM Int}
    (performs : ∀ dataLen, Performs cfg permits base (next dataLen)) :
    Performs cfg permits base (receiveLenParam parser next) := by
  unfold Socket.receiveLenParam
  split
  · apply withParam
    intro dataLen _
    split
    · exact performs _
    · exact pure _
  · exact performs _

theorem handleReceive  (named : ∀ slot, parser.Names base slot → MayAttach cfg permits base slot)
    {receive : Slot → Int → BitVec 32 → UInt16 → Nat → SocketM Int}
    (receives : ∀ slot timeout flags mode dataLen,
      Performs cfg permits base (receive slot timeout flags mode dataLen)) :
    Ends base (handleReceive cfg parser receive) fun _ after =>
      Effects cfg permits base after := by
  apply withHandle
  intro slot isNamed
  apply withParam
  intro mode _
  split
  · exact pure _
  · apply withParam
    intro flags _
    apply withParam
    intro timeout _
    apply receiveLenParam
    intro dataLen
    apply bind (attachCurrent (named slot isNamed))
    intro _
    exact asReception slot false (receives slot timeout _ mode dataLen)

/-! ## Polling -/

theorem withOptionalSocket {next : Option Slot → SocketM Int}
    (one : ∀ slot, parser.Names base slot → Performs cfg permits base (next (some slot)))
    (all : Performs cfg permits base (next none)) :
    Ends base (withOptionalSocket parser next) fun _ after =>
      Effects cfg permits base after := by
  unfold Socket.withOptionalSocket
  dsimp only
  split
  · rename_i fd handle
    split
    · exact withSocket fun slot found => one slot ⟨fd, handle, found⟩
    · exact all base (Effects.refl base)
  · split
    · exact all base (Effects.refl base)
    · exact pure _ base (Effects.refl base)

theorem handleAtXapoll (renews : permits.renews)
    (named : ∀ slot, parser.Names base slot → MayAttach cfg permits base slot) :
    Ends base (handleAtXapoll cfg modem parser) fun _ after =>
      Effects cfg permits base after := by
  apply withOptionalSocket
  · intro slot isNamed
    split
    · exact pure _
    · split
      · exact bind (xapollStop .stopped slot) fun _ => pure 0
      · split
        · apply withParam
          intro events _
          dsimp only
          split
          · exact pure _
          · exact setXapollEvents (named slot isNamed) (BitMask.Within.allOnes _) (.inl renews)
        · exact pure _
  · split
    · exact pure _
    · split
      · exact bind xapollStopAll fun _ => pure 0
      · split
        · apply withParam
          intro events _
          dsimp only
          split
          · exact pure _
          · exact setXapollEventsAll renews _
        · exact pure _

theorem configureReception (slot : Slot) (flags : BitVec 8) (hex : Bool) :
    Performs cfg permits base (configureReception cfg modem slot flags hex) := by
  apply bind
  · exact modifyPoll slot (fun _ => rfl) (fun _ => rfl) fun _ => id
  · intro _
    exact updatePollEvents (by decide) (.inr rfl) slot

theorem configureReceptionLoop (pipe : Option PipeId) (flags : BitVec 8) (hex : Bool) :
    ∀ (remaining : List Slot) (err : Int), Performs cfg permits base
      (configureReceptionLoop cfg modem pipe flags hex remaining err)
  | [], _ => pure _
  | slot :: rest, _ => by
    apply bind get
    intro world
    split
    · apply bind (configureReception slot flags hex)
      intro ret
      split
      · exact pure ret
      · exact configureReceptionLoop pipe flags hex rest ret
    · exact configureReceptionLoop pipe flags hex rest _

theorem hexModeParam {next : Bool → SocketM Int}
    (performs : ∀ hex, Performs cfg permits base (next hex)) :
    Performs cfg permits base (hexModeParam parser next) := by
  unfold Socket.hexModeParam
  split
  · split
    · exact pure _
    · split
      · exact performs false
      · split
        · exact performs true
        · exact pure _
  · exact performs false

theorem applyReception_one {pipe : Option PipeId}
    (permitted : permits.attaches slot pipe) (flags : BitVec 8) (hex : Bool) :
    Performs cfg permits base (applyReception cfg modem pipe (some slot) flags hex) := by
  apply bind
  · exact assigns fun _ => .attach permitted
  · intro _
    exact configureReception slot flags hex

theorem applyReception_all (pipe : Option PipeId) (flags : BitVec 8) (hex : Bool) :
    Performs cfg permits base (applyReception cfg modem pipe none flags hex) := by
  apply read
  intro world reached
  split
  · exact failure world reached
  · refine assign reached (.context rfl) ?_
    exact configureReceptionLoop pipe flags hex slots 0

theorem handleAtRecvcfg (named : ∀ slot, parser.Names base slot → MayAttach cfg permits base slot) :
    Ends base (handleAtRecvcfg cfg modem parser) fun _ after =>
      Effects cfg permits base after := by
  unfold Socket.handleAtRecvcfg
  rw [ends_bind, ends_get]
  dsimp only
  apply withOptionalSocket
  · intro slot isNamed
    have permitted := named slot isNamed base (Effects.refl base)
    split
    · exact pure _
    · split
      · apply hexModeParam
        intro hex
        split
        · exact pure _
        · exact applyReception_one permitted _ hex
      · exact pure _
  · split
    · exact pure _
    · split
      · apply hexModeParam
        intro hex
        split
        · exact pure _
        · exact applyReception_all _ _ hex
      · exact pure _

/-! ## The HTTP client -/

theorem withCopy (content : List Byte) (performs : Performs cfg permits base next) :
    Performs cfg permits base (withCopy modem content next) := by
  apply bind (malloc _)
  intro granted
  split
  · exact performs
  · exact pure _

section

variable [Fact permits.bodies]

theorem pullCheckComplete (r : Slot) (last : List Byte) :
    Performs cfg permits base (pullCheckComplete cfg r last) := by
  apply bind (getRequest r)
  intro req
  split
  · exact bind (httpFinishRequest r) fun _ => pure 0
  · exact pure 0

theorem pullForward (r : Slot) (content : List Byte) :
    Performs cfg permits base (pullForward cfg r content) :=
  bind (getRequest r) fun req => bind (rspSendText _) fun _ =>
    changeRequest (bind (note trivial) fun _ => httpSendPayload req content) fun _ => rfl

theorem pullData (fd : Int) (pullLen : Nat) :
    Performs cfg permits base (pullData cfg modem fd pullLen) := by
  apply bind get
  intro world
  split
  · exact pure _
  · rename_i r _
    apply bind (getRequest r)
    intro req
    split
    · exact pure _
    · split
      · exact pure _
      · split
        · apply bind (pullForward r _)
          intro _
          exact changeRequest (pullCheckComplete r _) fun _ => rfl
        · apply bind (zsockRecv _ _ _)
          intro result
          split
          · split
            · exact bind (rspSendText _) fun _ => pure 0
            · exact bind (httpFailRequest r) fun _ => pure _
          · split
            · exact bind (httpFinishRequest r) fun _ => pure 0
            · refine changeRequest ?_ fun _ => rfl
              exact bind (note trivial) fun _ =>
                bind (pullForward r _) fun _ => pullCheckComplete r _

theorem handleAtHttpcdata : Performs cfg permits base (handleAtHttpcdata cfg modem parser) := by
  unfold Socket.handleAtHttpcdata
  split
  · exact pure _
  · exact withParam fun fd _ => pullData fd _

theorem handleAtHttpccancel : Performs cfg permits base (handleAtHttpccancel cfg parser) := by
  apply withParam
  intro fd _
  apply bind get
  intro world
  split
  · exact pure _
  · exact bind (httpCancelRequest _) fun _ => pure 0

theorem httpSendRequestHeaders (r : Slot) :
    Performs cfg permits base (httpSendRequestHeaders modem r) := by
  apply bind (getRequest r)
  intro req
  apply withCopy
  apply bind (httpSendAll _ _ _)
  intro result
  split
  · exact pure _
  · exact changeRequest (pure 0) fun _ => rfl

theorem httpStreamBody (inSession : permits.sessions)
    (streams : permits.streams) (r : Slot) (bodyLen : Int) :
    Performs cfg permits base (httpStreamBody cfg env modem r bodyLen) := by
  refine changeRequest ?_ fun _ => rfl
  apply unlessError (httpSendRequestHeaders r)
  apply bind (getRequest r)
  intro req
  apply bind
  · exact assigns fun _ => .stream streams
  · intro _
    exact bind (rspSendText _) fun _ => enterDatamodeWith inSession _ bodyLen

theorem httpParseUrlComponents (r : Slot) (url : List Byte) :
    Performs cfg permits base (httpParseUrlComponents modem r url) := by
  unfold Socket.httpParseUrlComponents
  split
  · exact pure _
  · split
    · exact pure _
    · split
      · exact pure _
      · apply withCopy
        refine changeRequest ?_ fun _ => rfl
        split
        · apply withCopy
          exact changeRequest (pure 0) fun _ => rfl
        · dsimp only
          split
          · exact pure _
          · apply withCopy
            exact changeRequest (pure 0) fun _ => rfl

variable {r : Slot}

theorem httpStartRequest (mayAttach : RequestMayAttach cfg permits base r) :
    Performs cfg permits base (httpStartRequest cfg modem r) := by
  intro world reached
  unfold Socket.httpStartRequest Socket.getRequest
  rw [ends_bind, ends_bind, ends_get]
  split
  · exact ends_failure _
  · rename_i req isRequest
    rw [ends_pure]
    refine withCopy _ ?_ world reached
    refine changeRequest ?_ fun _ => rfl
    apply read
    intro later reachedLater
    split
    · exact pure _ later reachedLater
    · rename_i slot found
      exact setXapollEvents (mayAttach world req reached isRequest later slot reachedLater found)
        (by decide) (.inr rfl) later reachedLater

theorem httpLaunch (inSession : permits.sessions) (streams : permits.streams)
    (mayAttach : RequestMayAttach cfg permits base r) (method : HttpMethod)
    (bodyLen : Int) :
    Performs cfg permits base (httpLaunch cfg env modem r method bodyLen) := by
  unfold Socket.httpLaunch
  split
  · exact httpStreamBody inSession streams r bodyLen
  · apply unlessError (httpStartRequest mayAttach)
    exact bind (getRequest r) fun _ => bind (rspSendText _) fun _ => pure 0

theorem storeExtraHeaders (r : Slot) (headers : List Byte)
    {next : SocketM Int} (performs : Performs cfg permits base next) :
    Performs cfg permits base (storeExtraHeaders modem r headers next) := by
  unfold Socket.storeExtraHeaders
  split
  · exact performs
  · split
    · exact pure _
    · apply withCopy
      exact changeRequest performs fun _ => rfl

omit [Fact permits.bodies] in
theorem assignFd {wide : Permits} {fd : Int}
    {change : HttpRequest → HttpRequest} {next : SocketM Int}
    (starts : wide.requests)
    (performs : ∀ middle, Effects cfg wide base middle →
      (∀ req, middle.httpRequests r = some req → req.fd = fd) →
      Performs cfg wide.whileStarting middle next)
    (newFd : ∀ req, (change req).fd = fd) :
    Performs cfg wide base (do
      Socket.modifyRequest r change
      next) := by
  intro world reached
  have told : Effects cfg wide base (world.setRequest r ((world.httpRequests r).map change)) :=
    reached.tail (.request starts)
  unfold Socket.modifyRequest
  rw [ends_bind, ends_modify]
  refine within wide.whileStarting_narrows (performs _ told ?_) told
  intro req found
  rw [World.httpRequests_setRequest_self, Option.map_eq_some_iff] at found
  obtain ⟨old, _, rfl⟩ := found
  exact newFd old

omit [Fact permits.bodies] in
theorem httpSetupRequest {wide : Permits} [Fact wide.bodies] (r : Slot) (fd : Int)
    (starts : wide.requests) (inSession : wide.sessions)
    (streams : wide.streams)
    (mayAttach : ∀ middle, Effects cfg wide base middle →
      (∀ req, middle.httpRequests r = some req → req.fd = fd) →
      RequestMayAttach cfg wide.whileStarting middle r) :
    Performs cfg wide base (httpSetupRequest cfg env modem parser r fd) := by
  apply withParam
  intro url _
  split
  · exact pure _
  · apply withParam
    intro number _
    split
    · exact pure _
    · split
      · exact pure _
      · split
        · exact pure _
        · split
          · exact pure _
          · refine assignFd starts ?_ fun _ => rfl
            intro middle reached runs
            have may : RequestMayAttach cfg wide.whileStarting middle r :=
              mayAttach middle reached runs
            apply storeExtraHeaders
            refine changeRequest ?_ fun _ => rfl
            apply unlessError (httpParseUrlComponents r _)
            have inStart : wide.whileStarting.sessions := inSession
            exact httpLaunch inStart streams may _ _

theorem orCloseRequest (r : Slot) {starting : SocketM Int}
    (performs : Performs cfg permits base starting) :
    Performs cfg permits base (orCloseRequest r starting) := by
  apply bind performs
  intro err
  split
  · exact bind (httpCloseRequest r) fun _ => pure err
  · exact pure 0

theorem handleAtHttpcreq (starts : permits.requests)
    (inSession : permits.sessions) (streams : permits.streams)
    (mayAttach : ∀ slot, parser.Names base slot → ∀ r fd middle,
      parser.num 1 = .done fd → Effects cfg permits base middle →
      (∀ req, middle.httpRequests r = some req → req.fd = fd) →
      RequestMayAttach cfg permits.whileStarting middle r) :
    Ends base (handleAtHttpcreq cfg env modem parser)
      fun _ after => Effects cfg permits base after := by
  unfold Socket.handleAtHttpcreq
  split
  · exact pure _ base (Effects.refl base)
  · unfold Socket.withParam
    split
    · exact pure _ base (Effects.refl base)
    · rename_i fd handle
      apply withSocket
      intro slot found
      have isNamed : parser.Names base slot := ⟨fd, handle, found⟩
      apply bind get
      intro world
      split
      · exact pure _
      · apply bind (allocRequest starts)
        intro allocated
        split
        · exact pure _
        · rename_i r
          apply orCloseRequest
          apply httpSetupRequest r fd starts inSession streams
          exact fun middle reached runs =>
            mayAttach slot isNamed r fd middle handle reached runs

end

end Performs

end SerialModem.Socket
