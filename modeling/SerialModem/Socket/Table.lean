import SerialModem.Library.ResourceTable
import SerialModem.Socket.Handles

/-!
# The socket table

The table accounts for the descriptors that were obtained from the modem and
not closed.  Opening a socket has several steps that may fail once there is a
descriptor; each has to undo what was done.
-/

namespace SerialModem.Socket

open Library Library.Program Option
open AtHost

variable {cfg : Config} {env : Environment} {modem : Modem}

def SmSocket.descriptor (sock : SmSocket) : Option Int :=
  if sock.fd = invalidSocket then none else some sock.fd

def World.descriptor (world : World) (slot : Slot) : Option Int :=
  (world.socks slot).descriptor

/-- The table has just the descriptors that are open. -/
def World.TableSound (world : World) : Prop :=
  Accounted world.descriptor (openDescriptors world.log)

/-- The modem library does not give out a descriptor that is open. -/
structure Modem.Fresh (modem : Modem) : Prop where
  zsockSocket : ∀ {log family type proto fd}, modem.zsockSocket log family type proto = .done fd →
    (fd : Int) ∉ openDescriptors log
  zsockAccept : ∀ {log listening fd remote}, modem.zsockAccept log listening = .done (fd, remote) →
    (fd : Int) ∉ openDescriptors log

/-- The modem library closes what it is asked to. -/
def Modem.ClosesSucceed (modem : Modem) : Prop :=
  ∀ log fd, modem.zsockClose log fd = .done ()

/-! ## The log -/

theorem openDescriptors_concat (log : SocketLog) (event : SocketEvent) :
    openDescriptors (log ++ [event]) = event.updateOpen (openDescriptors log) := by
  simp [openDescriptors]

theorem openDescriptors_record (world : World) (event : SocketEvent) :
    openDescriptors (world.record event).log = event.updateOpen (openDescriptors world.log) :=
  openDescriptors_concat world.log event

/-! ## What leaves the table alone -/

structure SameTable (before after : World) : Prop where
  fd : ∀ slot, (after.socks slot).fd = (before.socks slot).fd
  opened : openDescriptors after.log = openDescriptors before.log

namespace SameTable

theorem descriptor {before after : World} (same : SameTable before after) :
    after.descriptor = before.descriptor := by
  funext slot
  rw [World.descriptor, World.descriptor, SmSocket.descriptor, same.fd slot]
  rfl

theorem tableSound {before after : World} (same : SameTable before after)
    (sound : before.TableSound) : after.TableSound := by
  rw [World.TableSound, same.descriptor, same.opened]
  exact sound

end SameTable

/-- Without permission nothing is opened or closed. -/
theorem Effect.opened {permits : Permits} {before after : World}
    (closed : ¬permits.opens) (effect : Effect cfg permits before after) :
    openDescriptors after.log = openDescriptors before.log := by
  cases effect with
  | @call event isCall =>
    rw [openDescriptors_record]
    cases event <;> first | rfl | cases isCall
  | @observed event _ ofSession =>
    rw [openDescriptors_record]
    cases event <;> first | rfl | cases ofSession
  | @body event _ ofBody =>
    rw [openDescriptors_record]
    cases event <;> first | rfl | cases ofBody
  | descriptor permitted | init permitted | store permitted | drop permitted =>
    exact absurd permitted closed
  | attach | reassign | select | arm | reenable | xapoll | rearm | sendCallback | rejected
  | xsendntf => exact openDescriptors_concat _ _
  | _ => rfl

theorem Effects.sameTable {permits : Permits} {before after : World}
    (closed : ¬permits.opens) (effects : Effects cfg permits before after) :
    SameTable before after where
  fd slot := (effects.sameFd closed slot).1
  opened := by
    refine effects.relates (fun first last =>
      openDescriptors last.log = openDescriptors first.log)
      (fun _ => rfl) ?_ (Effect.opened closed)
    exact fun left right => right.trans left

/-! ## Setting up one socket -/

/-- Work on one socket that neither opens nor closes anything; the socket keeps
its descriptor and its channel. -/
structure Tends (slot : Slot) (before after : World) : Prop where
  others : ∀ other, other ≠ slot → after.socks other = before.socks other
  fd : (after.socks slot).fd = (before.socks slot).fd
  opened : openDescriptors after.log = openDescriptors before.log
  frame : Frame before.host after.host
  channel : ∀ c, pollCtxFromSock slot before = some c → pollCtxFromSock slot after = some c

namespace Tends

variable {slot : Slot}

theorem refl (world : World) : Tends slot world world where
  others _ _ := rfl
  fd := rfl
  opened := rfl
  frame := Frame.refl world.host
  channel _ := id

theorem trans {first second third : World}
    (left : Tends slot first second) (right : Tends slot second third) :
    Tends slot first third where
  others other different :=
    (right.others other different).trans (left.others other different)
  fd := right.fd.trans left.fd
  opened := right.opened.trans left.opened
  frame := left.frame.trans right.frame
  channel c isChannel := right.channel c (left.channel c isChannel)

theorem record {event : SocketEvent}
    (silent : ∀ opened, event.updateOpen opened = opened) (world : World) :
    Tends slot world (world.record event) where
  others _ _ := rfl
  fd := rfl
  opened := (openDescriptors_record world event).trans (silent _)
  frame := Frame.refl world.host
  channel _ := id

theorem setSock {world : World} {sock : SmSocket} (fd : sock.fd = (world.socks slot).fd)
    (pipe : pollCtxFromSock slot world ≠ none → sock.pipe = (world.socks slot).pipe) :
    Tends slot world (world.setSock slot sock) where
  others _ different := World.socks_setSock_of_ne world sock different
  fd := by
    rw [World.socks_setSock_self]
    exact fd
  opened := rfl
  frame := Frame.refl world.host
  channel := by
    intro c isChannel
    rw [pollCtxFromSock, World.socks_setSock_self, pipe (by rw [isChannel]; exact some_ne_none c)]
    exact isChannel

theorem assign {world : World} {sock : SmSocket} {event : SocketEvent}
    (fd : sock.fd = (world.socks slot).fd)
    (pipe : pollCtxFromSock slot world ≠ none → sock.pipe = (world.socks slot).pipe)
    (silent : ∀ opened, event.updateOpen opened = opened) :
    Tends slot world ((world.setSock slot sock).record event) :=
  (setSock fd pipe).trans (record silent _)

end Tends

abbrev OnlyTends {Value : Type} (slot : Slot) (program : SocketM Value) :
    Prop :=
  Achieves (Tends slot) program

namespace OnlyTends

variable {slot : Slot} {Value Result : Type}

theorem pure (value : Value) : OnlyTends slot (Pure.pure value) :=
  achieves_pure Tends.refl value

theorem bind {program : SocketM Value} {next : Value → SocketM Result}
    (tends : OnlyTends slot program)
    (continues : ∀ value, OnlyTends slot (next value)) :
    OnlyTends slot (program >>= next) := by
  apply Achieves.bind _ tends continues
  exact Tends.trans

theorem read {next : World → SocketM Result} (tends : ∀ world, OnlyTends slot (next world)) :
    OnlyTends slot (get >>= next) :=
  achieves_read fun world => tends world world

theorem emit {event : SocketEvent} (silent : ∀ opened, event.updateOpen opened = opened) :
    OnlyTends slot (emit event) :=
  achieves_modify (Tends.record silent)

theorem hostCall (call : HostCall) : OnlyTends slot (hostCall cfg call) := by
  apply achieves_modify
  intro world
  have frame : Frame world.host (performCall cfg call world.host) :=
    (performCall_undisturbed call world.host).frame
  refine ⟨fun _ _ => rfl, rfl, rfl, frame, ?_⟩
  intro c isChannel
  cases pipe : (world.socks slot).pipe with
  | none =>
    rw [pollCtxFromSock, pipe] at isChannel
    cases isChannel
  | some p =>
    rw [pollCtxFromSock, pipe] at isChannel
    change smAtHostGetAsyncPollCtx (world.socks slot).pipe
      (performCall cfg call world.host) = some c
    rw [pipe, ← isChannel]
    simp only [smAtHostGetAsyncPollCtx, smAtHostGetCtxFrom, smAtCtxCheck,
      frame.instanceList, frame.pipe]

theorem modifySock {change : SmSocket → SmSocket} (fd : ∀ sock, (change sock).fd = sock.fd)
    (pipe : ∀ sock, (change sock).pipe = sock.pipe) :
    OnlyTends slot (modifySock slot change) :=
  achieves_modify fun world =>
    Tends.setSock (fd (world.socks slot)) fun _ => pipe (world.socks slot)

theorem zsockSetsockopt (fd : Int) (option : SockOption) :
    OnlyTends slot (zsockSetsockopt modem fd option) :=
  read fun _ => bind (emit fun _ => rfl) fun _ => pure _

theorem setOption (option : SockOption) : OnlyTends slot (setOption modem slot option) := by
  apply read
  intro world
  apply bind (zsockSetsockopt _ _)
  intro result
  split <;> exact pure _

theorem bindToPdn : OnlyTends slot (bindToPdn modem slot) := by
  apply read
  intro world
  dsimp only
  split
  · split
    · exact pure _
    · exact setOption _
  · exact pure 0

theorem unlessError {first next : SocketM Int}
    (tends : OnlyTends slot first) (continues : OnlyTends slot next) :
    OnlyTends slot (unlessError first next) := by
  apply bind tends
  intro err
  split
  · exact pure err
  · exact continues

theorem reassignLost : OnlyTends slot (reassignLost cfg slot) := by
  apply achieves_read
  intro world
  split
  · rename_i lost
    rw [returns_set]
    apply Tends.assign
    · rfl
    · intro hasChannel
      exact absurd (isNone_iff_eq_none.mp lost) hasChannel
    · intro _
      rfl
  · exact pure () world

theorem updatePollEvents (cause : PollCause) (events : PollEvents) (updateXapoll : Bool) :
    OnlyTends slot (updatePollEvents cfg modem cause slot events updateXapoll) := by
  apply read
  intro world
  split
  · exact pure 0
  · apply bind reassignLost
    intro _
    apply bind
    · apply achieves_modify
      intro state
      exact Tends.assign rfl (fun _ => rfl) fun _ => rfl
    · intro _
      apply read
      intro armed
      apply read
      intro state
      apply bind (zsockSetsockopt _ _)
      intro result
      split <;> exact pure _

theorem adoptPollCtx (pollCtx : AsyncPollCtx) :
    OnlyTends slot (adoptPollCtx cfg modem pollCtx slot) := by
  apply bind
  · exact achieves_modify fun world =>
      Tends.setSock rfl fun _ => rfl
  · intro _
    apply bind
    · exact achieves_modify fun world =>
        Tends.assign rfl (fun _ => rfl) fun _ => rfl
    · intro _
      exact bind (updatePollEvents _ _ _) fun _ => pure ()

end OnlyTends

/-! ## Opening one socket -/

structure Opening (slot : Slot) (world : World) (err : Int) (after : World) :
    Prop where
  others : ∀ other, other ≠ slot → after.socks other = world.socks other
  succeeds : err = 0 → ∃ fd : Nat, (fd : Int) ∉ openDescriptors world.log ∧
    openDescriptors after.log = (fd : Int) :: openDescriptors world.log ∧
    (after.socks slot).fd = fd
  fails : err ≠ 0 → openDescriptors after.log = openDescriptors world.log ∧
    (after.socks slot).fd = invalidSocket

def Opens (slot : Slot) (program : SocketM Int) : Prop :=
  ∀ world, (world.socks slot).fd = invalidSocket → pollCtxFromSock slot world ≠ none →
    Returns world program fun err after =>
      Opening slot world err after

theorem Errno.code_ne_zero (errno : Errno) : errno.code ≠ 0 := by
  have positive := errno.positive
  rw [Errno.code]
  omega

variable {slot : Slot} {err : Int}

theorem Opening.after {first second last : World}
    (tends : Tends slot first second) (opening : Opening slot second err last) :
    Opening slot first err last where
  others other different :=
    (opening.others other different).trans (tends.others other different)
  succeeds := by
    rw [← tends.opened]
    exact opening.succeeds
  fails := by
    rw [← tends.opened]
    exact opening.fails

/-- A slot holds a descriptor that was obtained since `world`. -/
structure Obtained (slot : Slot) (fd : Nat) (world after : World) : Prop where
  others : ∀ other, other ≠ slot → after.socks other = world.socks other
  opened : openDescriptors after.log = (fd : Int) :: openDescriptors world.log
  fd : (after.socks slot).fd = fd
  channel : pollCtxFromSock slot world ≠ none → pollCtxFromSock slot after ≠ none

/-- The slot is free again, and nothing else has changed since `world`. -/
structure Undone (slot : Slot) (world after : World) : Prop where
  others : ∀ other, other ≠ slot → after.socks other = world.socks other
  opened : openDescriptors after.log = openDescriptors world.log
  fd : (after.socks slot).fd = invalidSocket

variable {fd : Nat} {world : World}

theorem Obtained.tend {stored after : World}
    (obtained : Obtained slot fd world stored) (tends : Tends slot stored after) :
    Obtained slot fd world after where
  others other different :=
    (tends.others other different).trans (obtained.others other different)
  opened := tends.opened.trans obtained.opened
  fd := tends.fd.trans obtained.fd
  channel := by
    intro hadChannel
    obtain ⟨c, isChannel⟩ :=
      ne_none_iff_exists'.mp (obtained.channel hadChannel)
    rw [tends.channel c isChannel]
    exact some_ne_none c

theorem storeFd_obtains (world : World) (slot : Slot) {event : SocketEvent}
    (obtains : ∀ opened, event.updateOpen opened = (fd : Int) :: opened) :
    Returns (world.record event) (storeFd slot fd) fun _ stored =>
      Obtained slot fd world stored := by
  rw [storeFd, returns_modify]
  constructor
  · intro other different
    exact World.socks_setSock_of_ne _ _ different
  · rw [openDescriptors_record]
    change openDescriptors (world.record event).log = _
    rw [openDescriptors_record, obtains]
  · exact congrArg SmSocket.fd (World.socks_setSock_self _ _ _)
  · have samePipe : pollCtxFromSock slot ((world.record event).setSock slot
        { (world.record event).socks slot with
          fd := fd
          generation := ((world.record event).socks slot).generation + 1 }) =
        pollCtxFromSock slot world := by
      rw [pollCtxFromSock, World.socks_setSock_self]
      rfl
    intro hadChannel
    exact samePipe ▸ hadChannel

theorem abandonSocket_undoes (closes : modem.ClosesSucceed) {ready : World}
    (obtained : Obtained slot fd world ready) :
    Returns ready (abandonSocket modem slot) fun _ after =>
      Undone slot world after := by
  unfold abandonSocket zsockClose emit dropFd
  simp only [returns_bind, returns_get, returns_modify, returns_pure]
  constructor
  · intro other different
    exact (World.socks_setSock_of_ne _ _ different).trans (obtained.others other different)
  · rw [openDescriptors_record]
    change openDescriptors (ready.record _).log = _
    rw [openDescriptors_record, closes, obtained.opened, obtained.fd]
    exact List.erase_cons_head ..
  · exact congrArg SmSocket.fd (World.socks_setSock_self _ _ _)

namespace Opens

variable {slot : Slot} {Value : Type}

theorem fails {err : Int} (isError : err ≠ 0) : Opens slot (pure err) := by
  intro world free hasChannel
  rw [returns_pure]
  exact ⟨fun _ _ => rfl, fun success => absurd success isError, fun _ => ⟨rfl, free⟩⟩

variable {next : Value → SocketM Int}

theorem after {program : SocketM Value} (tends : OnlyTends slot program)
    (opens : ∀ value, Opens slot (next value)) :
    Opens slot (program >>= next) := by
  intro world free hasChannel
  refine (tends world).call ?_
  intro value middle tended
  have stillChannel : pollCtxFromSock slot middle ≠ none := by
    obtain ⟨c, isChannel⟩ := ne_none_iff_exists'.mp hasChannel
    rw [tended.channel c isChannel]
    exact some_ne_none c
  exact (opens value middle (tended.fd.trans free) stillChannel).mono
    fun _ _ opening => opening.after tended

theorem withParam {param : Outcome Value} (opens : ∀ value, Opens slot (next value)) :
    Opens slot (withParam param next) := by
  unfold Socket.withParam
  split
  · exact fails (Errno.code_ne_zero _)
  · exact opens _

theorem storeParam {param : Outcome Value} {change : Value → SmSocket → SmSocket}
    (opens : ∀ value, Opens slot (next value))
    (fd : ∀ value sock, (change value sock).fd = sock.fd)
    (pipe : ∀ value sock, (change value sock).pipe = sock.pipe) :
    Opens slot (Socket.withParam param fun value => do
      Socket.modifySock slot (change value)
      next value) :=
  withParam fun value =>
    after (OnlyTends.modifySock (fd value) (pipe value)) fun _ => opens value

theorem announceSocket (name : String) (proto : Int) {world : World}
    (hasChannel : pollCtxFromSock slot world ≠ none) :
    Returns world (announceSocket cfg modem slot name proto)
      fun err after => err = 0 ∧ Tends slot world after := by
  unfold Socket.announceSocket
  rw [returns_bind, returns_get]
  refine ((OnlyTends.hostCall _ : OnlyTends slot _) world).call ?_
  intro _ announced tended
  obtain ⟨c, isChannel⟩ := ne_none_iff_exists'.mp hasChannel
  rw [returns_bind, returns_get, tended.channel c isChannel]
  refine (OnlyTends.adoptPollCtx _ announced).call ?_
  intro _ adopted tendedLater
  rw [returns_pure]
  exact ⟨rfl, tended.trans tendedLater⟩

theorem openDescriptor (fresh : modem.Fresh) (closes : modem.ClosesSucceed)
    (name : String) (modemProto proto : Int) {setup : SocketM Int}
    (setsUp : OnlyTends slot setup) :
    Opens slot (openDescriptor cfg modem slot name modemProto proto setup) := by
  intro world free hasChannel
  unfold Socket.openDescriptor Socket.zsockSocket Socket.emit
  simp only [returns_bind, returns_get, returns_modify, returns_pure]
  split
  · rename_i errno isResult
    rw [returns_pure]
    refine ⟨fun _ _ => rfl, fun success => absurd success errno.code_ne_zero, fun _ => ⟨?_, free⟩⟩
    rw [openDescriptors_record, isResult]
    rfl
  · rename_i fd isResult
    refine (storeFd_obtains world slot ?_).call ?_
    · rw [isResult]
      exact fun _ => rfl
    intro _ stored obtained
    refine (OnlyTends.unlessError (OnlyTends.setOption _)
      (OnlyTends.unlessError OnlyTends.bindToPdn setsUp) stored).call ?_
    intro ret ready tended
    have readied := obtained.tend tended
    split
    · rename_i failed
      refine (abandonSocket_undoes closes readied).call ?_
      intro _ abandoned undone
      rw [returns_pure]
      exact ⟨undone.others, fun success => absurd success failed,
        fun _ => ⟨undone.opened, undone.fd⟩⟩
    · have readyChannel : pollCtxFromSock slot ready ≠ none :=
        readied.channel hasChannel
      refine (announceSocket name proto readyChannel).mono ?_
      rintro err final ⟨rfl, tendedLater⟩
      have finished := readied.tend tendedLater
      exact ⟨finished.others, fun _ => ⟨fd, fresh.zsockSocket isResult,
        finished.opened, finished.fd⟩, fun failed => absurd rfl failed⟩

section

variable (fresh : modem.Fresh) (closes : modem.ClosesSucceed)
include fresh closes

theorem doSocketOpen : Opens slot (doSocketOpen cfg modem slot) := by
  apply after (OnlyTends.read fun world => OnlyTends.pure world)
  intro world
  dsimp only
  split
  · exact fails (by decide)
  · split
    · exact fails (by decide)
    · split
      · exact openDescriptor fresh closes _ _ _ (OnlyTends.pure 0)
      · split
        · exact openDescriptor fresh closes _ _ _ (OnlyTends.pure 0)
        · split
          · exact openDescriptor fresh closes _ _ _ (OnlyTends.pure 0)
          · exact fails (by decide)

theorem doSecureSocketOpen (peerVerify : UInt16) :
    Opens slot (doSecureSocketOpen cfg modem slot peerVerify) := by
  apply after (OnlyTends.read fun world => OnlyTends.pure world)
  intro world
  dsimp only
  split
  · exact fails (by decide)
  · split
    · exact fails (by decide)
    · exact openDescriptor fresh closes _ _ _
        (OnlyTends.unlessError (OnlyTends.setOption _) (OnlyTends.setOption _))

end

variable {parser : AtParser}

theorem openParams {next : SocketM Int} (opens : Opens slot next) :
    Opens slot (openParams parser slot next) := by
  refine storeParam ?_ (fun _ _ => rfl) fun _ _ => rfl
  intro family
  refine storeParam ?_ (fun _ _ => rfl) fun _ _ => rfl
  intro type
  refine storeParam ?_ (fun _ _ => rfl) fun _ _ => rfl
  intro role
  exact opens

theorem cidParam {index : Nat} {next : SocketM Int} (opens : Opens slot next) :
    Opens slot (cidParam parser slot index next) := by
  unfold Socket.cidParam
  split
  · refine storeParam ?_ (fun _ _ => rfl) fun _ _ => rfl
    intro cid
    split
    · exact fails (by decide)
    · exact opens
  · exact opens

theorem peerVerifyParam {next : UInt16 → SocketM Int}
    (opens : ∀ peerVerify, Opens slot (next peerVerify)) :
    Opens slot (peerVerifyParam parser next) := by
  unfold Socket.peerVerifyParam
  split
  · exact withParam opens
  · exact opens _

theorem orInit {opening : SocketM Int} (opens : Opens slot opening) :
    Opens slot (orInit cfg slot opening) := by
  intro world free hasChannel
  refine (opens world free hasChannel).call ?_
  intro err opened result
  split
  · rename_i failed
    rw [returns_bind, initSocket, returns_modify, returns_pure]
    refine ⟨?_, fun success => absurd success failed, fun _ => ⟨?_, ?_⟩⟩
    · intro other different
      exact (World.socks_setSock_of_ne _ _ different).trans (result.others other different)
    · rw [openDescriptors_record]
      exact (result.fails failed).1
    · exact congrArg SmSocket.fd (World.socks_setSock_self _ _ _)
  · rename_i succeeded
    rw [returns_pure]
    have isZero : err = 0 := not_ne_iff.mp succeeded
    exact isZero ▸ result

end Opens

/-! ## The commands that open sockets -/

/-- What a command that opens a socket ends with: a new descriptor in a free
slot, or an error with everything as before. -/
inductive OpenResult (world : World) (err : Int) (after : World) : Prop
  | opened {slot : Slot} {fd : Nat}
      (succeeded : err = 0) (free : (world.socks slot).fd = invalidSocket)
      (fresh : (fd : Int) ∉ openDescriptors world.log)
      (log : openDescriptors after.log = (fd : Int) :: openDescriptors world.log)
      (stored : (after.socks slot).fd = fd)
      (others : ∀ other, other ≠ slot → (after.socks other).fd = (world.socks other).fd)
  | failed (isError : err ≠ 0) (log : openDescriptors after.log = openDescriptors world.log)
      (fds : ∀ slot, (after.socks slot).fd = (world.socks slot).fd)
      (others : ∀ slot, findAvailSocket world ≠ some slot → after.socks slot = world.socks slot)

theorem findAvailSocket_free (found : findAvailSocket world = some slot) :
    (world.socks slot).fd = invalidSocket := by
  have holds := List.find?_some found
  simpa using holds

theorem initSocket_channel (slot : Slot) (channel : smAtHostGetCurrentPipe cfg world.host ≠ none) :
    pollCtxFromSock slot ((world.setSock slot (SmSocket.cleared
      (smAtHostGetCurrentPipe cfg world.host)
      (world.socks slot).generation)).record (.initSocket slot)) ≠ none := by
  obtain ⟨pipe, isPipe⟩ := ne_none_iff_exists'.mp channel
  obtain ⟨c, _, ofCurrent⟩ := bind_eq_some_iff.mp isPipe
  split at ofCurrent
  · rename_i live
    have found : (smAtHostGetCtxFrom (some pipe) world.host).isSome = true := by
      rw [smAtHostGetCtxFrom, List.find?_isSome]
      exact ⟨c, by simpa [smAtCtxCheck] using live, by simp [ofCurrent]⟩
    obtain ⟨d, isFound⟩ := isSome_iff_exists.mp found
    have member : d ∈ world.host.instanceList := List.mem_of_find?_eq_some isFound
    have samePipe : (((world.setSock slot (SmSocket.cleared (smAtHostGetCurrentPipe cfg world.host)
        (world.socks slot).generation)).record (.initSocket slot)).socks
        slot).pipe = some pipe := by
      rw [World.record, World.socks_setSock_self]
      exact isPipe
    rw [pollCtxFromSock, samePipe]
    change (smAtHostGetCtxFrom (some pipe) world.host).filter
      (fun c => smAtCtxCheck c world.host) ≠ none
    rw [isFound]
    simp [smAtCtxCheck, member]
  · cases ofCurrent

theorem withFreeSlot_returns {opening : Slot → SocketM Int}
    (opens : ∀ slot, Opens slot (opening slot))
    (channel : smAtHostGetCurrentPipe cfg world.host ≠ none) :
    Returns world (withFreeSlot cfg opening) fun err after =>
      OpenResult world err after := by
  unfold withFreeSlot
  rw [returns_bind, returns_get]
  split
  · rw [returns_pure]
    exact .failed (by decide) rfl (fun _ => rfl) fun _ _ => rfl
  · rename_i slot found
    have free := findAvailSocket_free found
    rw [returns_bind, initSocket, returns_modify]
    have cleared : ∀ other, other ≠ slot → (World.record (world.setSock slot (SmSocket.cleared
          (smAtHostGetCurrentPipe cfg world.host)
          (world.socks slot).generation)) (.initSocket slot)).socks other =
          world.socks other :=
      fun other different => World.socks_setSock_of_ne _ _ different
    refine ((opens slot).orInit _ (congrArg SmSocket.fd (World.socks_setSock_self _ _ _))
      (initSocket_channel slot channel)).mono ?_
    intro err after result
    by_cases succeeded : err = 0
    · obtain ⟨fd, fresh, opened, stored⟩ := result.succeeds succeeded
      rw [openDescriptors_record] at fresh opened
      refine .opened succeeded free fresh opened stored ?_
      intro other different
      rw [result.others other different, cleared other different]
    · obtain ⟨opened, stored⟩ := result.fails succeeded
      rw [openDescriptors_record] at opened
      refine .failed succeeded opened ?_ ?_
      · intro other
        by_cases same : other = slot
        · rw [same, stored, free]
        · rw [result.others other same, cleared other same]
      · intro other notFound
        have different : other ≠ slot := by
          rintro rfl
          exact notFound found
        rw [result.others other different, cleared other different]

theorem OpenResult.unchanged (isError : err ≠ 0) : OpenResult world err world :=
  .failed isError rfl (fun _ => rfl) fun _ _ => rfl

theorem withParam_returns {Value : Type} {param : Outcome Value} {next : Value → SocketM Int}
    (returns : ∀ value, param = .done value → Returns world (next value) fun err after =>
        OpenResult world err after) :
    Returns world (withParam param next) fun err after =>
      OpenResult world err after := by
  unfold withParam
  split
  · rw [returns_pure]
    exact .unchanged (Errno.code_ne_zero _)
  · exact returns _ rfl

/-- A slot has been filled with a descriptor since `world`. -/
structure Filled (slot : Slot) (fd : Nat) (world after : World) : Prop where
  others : ∀ other, other ≠ slot → after.socks other = world.socks other
  opened : openDescriptors after.log = (fd : Int) :: openDescriptors world.log
  fd : (after.socks slot).fd = fd

theorem Filled.trans {filled after : World}
    (isFilled : Filled slot fd world filled) (tends : Tends slot filled after) :
    Filled slot fd world after where
  others other different :=
    (tends.others other different).trans (isFilled.others other different)
  opened := tends.opened.trans isFilled.opened
  fd := tends.fd.trans isFilled.fd

theorem fillAccepted_obtains (world : World) (newSlot slot : Slot)
    {remote : Peer} {event : SocketEvent}
    (obtains : ∀ opened, event.updateOpen opened = (fd : Int) :: opened) :
    Returns (world.record event) (fillAccepted cfg newSlot slot fd remote) fun _ after =>
      Filled newSlot fd world after := by
  unfold fillAccepted initSocket storeFd
  simp only [returns_bind, returns_get, returns_modify]
  refine Returns.mono (OnlyTends.modifySock ?_ ?_ _) ?_
  · exact fun _ => rfl
  · exact fun _ => rfl
  intro _ after tends
  refine Filled.trans ⟨?_, ?_, ?_⟩ tends
  · intro other different
    exact (World.socks_setSock_of_ne _ _ different).trans (World.socks_setSock_of_ne _ _ different)
  · rw [openDescriptors_record]
    change openDescriptors (World.record _ (.initSocket newSlot)).log = _
    rw [openDescriptors_record]
    change openDescriptors (world.record event).log = _
    rw [openDescriptors_record, obtains]
  · exact congrArg SmSocket.fd (World.socks_setSock_self _ _ _)

def AcceptsWithChannel (modem : Modem) (world : World) (slot : Slot) : Prop :=
  (world.socks slot).type = sockStream →
  (world.socks slot).listen = true →
  ∀ fd remote, modem.zsockAccept world.log (world.socks slot).fd = .done (fd, remote) →
    findAvailSocket world ≠ none → pollCtxFromSock slot world ≠ none

theorem doAccept_returns (fresh : modem.Fresh) (closes : modem.ClosesSucceed)
    (channel : AcceptsWithChannel modem world slot) :
    Returns world (doAccept cfg modem slot) fun err after =>
      OpenResult world err after := by
  unfold doAccept emit zsockClose
  simp only [returns_bind, returns_get]
  split
  · rw [returns_pure]
    exact .unchanged (by decide)
  · rename_i listens
    push Not at listens
    simp only [returns_bind, returns_modify]
    split
    · rename_i errno isResult
      rw [returns_pure]
      refine .failed errno.code_ne_zero ?_ (fun _ => rfl) fun _ _ => rfl
      rw [openDescriptors_record, isResult]
      rfl
    · rename_i fd remote isResult
      split
      · simp only [returns_bind, returns_get, emit, returns_modify, returns_pure]
        refine .failed (by decide) ?_ (fun _ => rfl) fun _ _ => rfl
        rw [openDescriptors_record, openDescriptors_record, isResult, closes]
        exact List.erase_cons_head ..
      · rename_i newSlot found
        have free := findAvailSocket_free found
        have hasChannel : pollCtxFromSock slot world ≠ none :=
          channel listens.1 (by simpa using listens.2) fd remote isResult
            (by rw [found]; exact some_ne_none _)
        obtain ⟨c, isChannel⟩ := ne_none_iff_exists'.mp hasChannel
        rw [isChannel]
        refine (fillAccepted_obtains world newSlot slot fun opened => ?_).call ?_
        · rw [isResult]
          rfl
        intro _ filled obtained
        refine ((OnlyTends.hostCall _ : OnlyTends newSlot _) filled).call ?_
        intro _ announced tended
        rw [returns_bind, returns_get]
        refine (OnlyTends.adoptPollCtx _ announced).call ?_
        intro _ adopted tendedLater
        have done := obtained.trans (tended.trans tendedLater)
        refine ((OnlyTends.updatePollEvents _ _ _ : OnlyTends slot _) adopted).call ?_
        intro _ restored tendedOther
        rw [returns_pure]
        have sameFd : ∀ other, (restored.socks other).fd = (adopted.socks other).fd := by
          intro other
          by_cases same : other = slot
          · rw [same, tendedOther.fd]
          · rw [tendedOther.others other same]
        refine .opened rfl free (fresh.zsockAccept isResult) ?_ ?_ ?_
        · rw [tendedOther.opened, done.opened]
        · rw [sameFd, done.fd]
        · intro other different
          rw [sameFd, done.others other different]

theorem withSocket_returns {fd : Int} {next : Slot → SocketM Int}
    (returns : ∀ slot, findSocket fd world = some slot → Returns world (next slot) fun err after =>
        OpenResult world err after) :
    Returns world (withSocket fd next) fun err after =>
      OpenResult world err after := by
  unfold withSocket
  rw [returns_bind, returns_get]
  split
  · rw [returns_pure]
    exact .unchanged (by decide)
  · rename_i slot found
    exact returns slot found

/-- A command that opens a socket has a channel to open it on. -/
def HasChannel (cfg : Config) (modem : Modem) (world : World)
    (parser : AtParser) : SocketCommand → Prop
  | .xsocket => smAtHostGetCurrentPipe cfg world.host ≠ none
  | .xssocket => smAtHostGetCurrentPipe cfg world.host ≠ none
  | .xaccept => ∀ slot, parser.Names world slot → AcceptsWithChannel modem world slot
  | _ => True

def SocketCommand.opensSocket : SocketCommand → Bool
  | .xsocket => true
  | .xssocket => true
  | .xaccept => true
  | _ => false

variable {command : SocketCommand} {parser : AtParser}

theorem handler_opens (fresh : modem.Fresh) (closes : modem.ClosesSucceed)
    (opens : command.opensSocket = true)
    (channel : HasChannel cfg modem world parser command) :
    Returns world (command.handler cfg env modem parser)
      fun err after => OpenResult world err after := by
  cases command with
  | xsocket =>
    apply withFreeSlot_returns _ channel
    intro slot
    exact Opens.openParams (Opens.cidParam (Opens.doSocketOpen fresh closes))
  | xssocket =>
    apply withFreeSlot_returns _ channel
    intro slot
    apply Opens.openParams
    refine Opens.storeParam ?_ (fun _ _ => rfl) fun _ _ => rfl
    intro secTag
    apply Opens.peerVerifyParam
    intro peerVerify
    exact Opens.cidParam (Opens.doSecureSocketOpen fresh closes peerVerify)
  | xaccept =>
    apply withParam_returns
    intro fd handle
    apply withSocket_returns
    intro slot found
    exact doAccept_returns fresh closes (channel slot ⟨fd, handle, found⟩)
  | _ => cases opens

/-! ## Soundness of the table -/

theorem descriptor_eq_none :
    world.descriptor slot = none ↔ (world.socks slot).fd = invalidSocket := by
  simp [World.descriptor, SmSocket.descriptor]

theorem descriptor_eq_some {fd : Int} (valid : fd ≠ invalidSocket)
    (holds : (world.socks slot).fd = fd) :
    world.descriptor slot = some fd := by
  simp [World.descriptor, SmSocket.descriptor, holds, valid]

theorem descriptor_congr {before after : World}
    (same : (after.socks slot).fd = (before.socks slot).fd) :
    after.descriptor slot = before.descriptor slot := by
  rw [World.descriptor, SmSocket.descriptor, same]
  rfl

theorem OpenResult.tableSound {after : World}
    (result : OpenResult world err after) (sound : world.TableSound) :
    after.TableSound := by
  cases result with
  | @opened slot fd succeeded free fresh log stored others =>
    have valid : (fd : Int) ≠ invalidSocket := by
      rw [invalidSocket]
      omega
    rw [World.TableSound, log]
    exact sound.take (descriptor_eq_none.mpr free) fresh (descriptor_eq_some valid stored)
      fun other different => descriptor_congr (others other different)
  | failed isError log fds =>
    exact SameTable.tableSound ⟨fds, log⟩ sound

abbrev quiet : Permits :=
  interruptPermissions False

theorem doSocketClose_tableSound (closes : modem.ClosesSucceed) (slot : Slot)
    (sound : world.TableSound) :
    Ends world (doSocketClose cfg modem slot) fun _ after =>
      after.TableSound := by
  unfold doSocketClose zsockClose emit
  simp only [ends_bind, ends_get]
  split
  · rw [ends_pure]
    exact sound
  · rename_i occupied
    simp only [ends_bind, ends_get, ends_modify, ends_pure, closes world.log]
    let closed := world.record (.zsockClose (world.socks slot).fd (.done ()))
    have answers : Performs cfg quiet closed (rspSendText cfg
        (report "#XCLOSE" [decimal (world.socks slot).fd, decimal 0])) :=
      Performs.rspSendText _
    refine (answers closed (Effects.refl closed)).mono ?_
    intro _ answered reached
    refine (Performs.smAtHttpcSocketClosed _ answered reached).mono ?_
    intro _ told effects
    have same : SameTable closed told := effects.sameTable id
    rw [initSocket, ends_modify, World.TableSound, openDescriptors_record]
    change Accounted _ (openDescriptors told.log)
    rw [same.opened, openDescriptors_record]
    apply sound.handBack
    · exact descriptor_eq_some occupied rfl
    · rw [descriptor_eq_none]
      exact congrArg SmSocket.fd (World.socks_setSock_self _ _ _)
    · intro other different
      apply descriptor_congr
      exact (congrArg SmSocket.fd (World.socks_setSock_of_ne _ _ different)).trans (same.fd other)

theorem closeAll_tableSound (closes : modem.ClosesSucceed) :
    ∀ (remaining : List Slot) (err : Int) {world : World}, world.TableSound →
      Ends world (closeAll cfg modem remaining err) fun _ after =>
        after.TableSound
  | [], err, world, sound => by
    rw [closeAll, ends_pure]
    exact sound
  | slot :: rest, err, world, sound => by
    refine (doSocketClose_tableSound closes slot sound).call ?_
    intro ret closed soundClosed
    exact closeAll_tableSound closes rest _ soundClosed

theorem handleAtClose_tableSound (closes : modem.ClosesSucceed) (sound : world.TableSound) :
    Ends world (handleAtClose cfg modem parser) fun _ after =>
      after.TableSound := by
  unfold handleAtClose withParam withSocket
  split
  · split
    · rw [ends_pure]
      exact sound
    · rw [ends_bind, ends_get]
      split
      · rw [ends_pure]
        exact sound
      · exact doSocketClose_tableSound closes _ sound
  · exact closeAll_tableSound closes slots 0 sound

theorem handler_tableSound (fresh : modem.Fresh) (closes : modem.ClosesSucceed)
    (channel : HasChannel cfg modem world parser command)
    (sound : world.TableSound) :
    Ends world (command.handler cfg env modem parser) fun _ after =>
      after.TableSound := by
  by_cases opens : command.opensSocket = true
  · exact (handler_opens fresh closes opens channel).ends.mono
      fun _ _ result => result.tableSound sound
  · by_cases close : command = .xclose
    · subst close
      exact handleAtClose_tableSound closes sound
    · have closed : command.opens ≠ true := by
        cases command <;> simp_all [SocketCommand.opens, SocketCommand.opensSocket]
      have unrestricted : ∀ slot, parser.Names world slot →
          MayAttach cfg (command.permissions anywhere) world slot :=
        fun _ _ _ _ => trivial
      refine (handler_performs unrestricted).mono ?_
      intro _ after effects
      exact (effects.sameTable closed).tableSound sound

def OpensWithChannel (cfg : Config) (modem : Modem) (world : World) : WorldAction → Prop
  | .command command parser => HasChannel cfg modem world parser command
  | _ => True

theorem HasChannel.of_steady {host : Host} (steady : Steady world.host host)
    (channel : HasChannel cfg modem world parser command) :
    HasChannel cfg modem (world.setHost host) parser command := by
  have effects : Effects cfg quiet world (world.setHost host) :=
    Effects.of_effect (.host steady)
  have samePipe := effects.currentPipe_of_steady id id
  cases command with
  | xsocket | xssocket =>
    rw [HasChannel, samePipe]
    exact channel
  | xaccept =>
    intro slot named isStream listens fd remote isResult found
    have sameCtx : pollCtxFromSock slot (world.setHost host) = pollCtxFromSock slot world := by
      have sameFrom := effects.getCtxFrom (world.socks slot).pipe
      have sameList : host.instanceList = world.host.instanceList :=
        steady.frame.instanceList
      change smAtHostGetAsyncPollCtx (world.socks slot).pipe (world.setHost host).host = _
      rw [pollCtxFromSock, smAtHostGetAsyncPollCtx, sameFrom]
      simp only [smAtHostGetAsyncPollCtx, smAtCtxCheck]
      change Option.filter (fun c => host.instanceList.contains c) _ = _
      rw [sameList]
    rw [sameCtx]
    exact channel slot named isStream listens fd remote isResult found
  | _ => trivial

theorem runCommand_tableSound (fresh : modem.Fresh) (closes : modem.ClosesSucceed)
    (channel : HasChannel cfg modem world parser command)
    (sound : world.TableSound) :
    Ends world (runCommand cfg env modem command parser) fun _ after => after.TableSound := by
  unfold runCommand modifyHost
  rw [ends_bind, ends_get]
  split
  · exact ends_failure _
  · rename_i c _
    rw [ends_bind, ends_modify]
    have locked := channel.of_steady (addExecutingLock_steady cfg c 1 world.host)
    refine (handler_tableSound fresh closes locked sound).call ?_
    intro err handled soundHandled
    split <;>
      · rw [ends_bind, ends_modify, ends_modify]
        exact soundHandled

theorem worldStep_tableSound (fresh : modem.Fresh)
    (closes : modem.ClosesSucceed) {after : World} {action : WorldAction}
    (channel : OpensWithChannel cfg modem world action)
    (taken : worldStep cfg env modem action world = some after)
    (sound : world.TableSound) : after.TableSound := by
  cases worldStep_effects taken with
  | machine stepped effects =>
    have same := effects.sameTable id
    exact same.tableSound sound
  | pollCallback effects | sendCallback effects | httpTimeout _ effects =>
    exact (effects.sameTable id).tableSound sound
  | @command command parser _ _ =>
    obtain ⟨⟨value, final⟩, performed, rfl⟩ :=
      map_eq_some_iff.mp taken
    exact runCommand_tableSound fresh closes channel sound value final performed

theorem World.Initial.tableSound (starts : world.Initial) : world.TableSound := by
  rw [World.TableSound, starts.log]
  apply Accounted.nothing
  intro slot
  obtain ⟨pipe, cleared⟩ := starts.socks slot
  rw [descriptor_eq_none, cleared]
  rfl

/-- When no close fails and every socket is opened on a channel, the table
holds the open descriptors, and a command that opens a socket returns: with a
new descriptor in a free slot, or with an error and nothing changed. -/
theorem socket_table_sound (fresh : modem.Fresh) (closes : modem.ClosesSucceed) {world : World}
    (reachable : WorldReachableIf cfg env modem (OpensWithChannel cfg modem) world) :
    world.TableSound ∧ ∀ command parser c, command.opensSocket = true →
        commandCtx world.machine = some c →
        HasChannel cfg modem world parser command →
        Returns (world.locked c) (command.handler cfg env modem parser) fun err after =>
            OpenResult world err after := by
  constructor
  · exact reachable.invariant (fun _ => World.Initial.tableSound) fun _ _ _ sound channel taken =>
        worldStep_tableSound fresh closes channel taken sound
  · intro command parser c opens receives channel
    have locked := channel.of_steady (addExecutingLock_steady cfg c 1 world.host)
    refine (handler_opens fresh closes opens locked).mono ?_
    intro err after result
    cases result with
    | opened succeeded free fresh log stored others =>
      exact .opened succeeded free fresh log stored others
    | failed isError log fds others =>
      exact .failed isError log fds others

/-! ## On a modem that counts up -/

theorem lt_nextDescriptor {opened : List Int} {fd : Int}
    (member : fd ∈ opened) : fd < nextDescriptor opened := by
  induction opened with
  | nil => cases member
  | cons first rest ih =>
    rw [nextDescriptor, List.foldr_cons]
    rcases List.mem_cons.mp member with rfl | later
    · omega
    · have below := ih later
      rw [nextDescriptor] at below
      omega

theorem nextDescriptor_fresh (opened : List Int) : (nextDescriptor opened : Int) ∉ opened :=
  fun member => lt_irrefl _ (lt_nextDescriptor member)

theorem calmModem_fresh : calmModem.Fresh where
  zsockSocket := by
    intro log family type proto fd isResult
    cases isResult
    exact nextDescriptor_fresh _
  zsockAccept := by
    intro log listening fd remote isResult
    cases isResult
    exact nextDescriptor_fresh _

theorem calmModem_closesSucceed : calmModem.ClosesSucceed :=
  fun _ _ => rfl

def opensOnChannel (cfg : Config) (world : World) : WorldAction → Bool
  | .command .xsocket _ => (smAtHostGetCurrentPipe cfg world.host).isSome
  | .command _ _ => false
  | _ => true

theorem opensOnChannel_sound {action : WorldAction}
    (checked : opensOnChannel cfg world action = true) :
    OpensWithChannel cfg modem world action := by
  cases action with
  | command command parser =>
    cases command with
    | xsocket => exact isSome_iff_ne_none.mp checked
    | _ => cases checked
  | _ => trivial

/-- AT#XSOCKET is received and executed. -/
theorem opened_socket_in_table :
    ∃ world : World, world.TableSound ∧ openDescriptors world.log = [0] ∧
      world.descriptor 0 = some 0 := by
  obtain ⟨world, reachable, seen⟩ := exists_world_run_if plusConfig
    (sessionEnv 0 consumeAll) calmModem
    (OpensWithChannel plusConfig calmModem) (opensOnChannel plusConfig)
    (lineActions 0 .xsocket (numbers [1, 1, 0] []))
    (fun _ _ _ checked => opensOnChannel_sound checked)
    (fun world => (openDescriptors world.log, world.descriptor 0))
    ([0], some 0) (by decide +kernel)
  rw [Prod.mk.injEq] at seen
  exact ⟨world, (socket_table_sound calmModem_fresh calmModem_closesSucceed
    reachable).1, seen.1, seen.2⟩

/-- The channel is closed while the line of AT#XSOCKET is received: the
descriptor stays open and is in no slot. -/
theorem descriptor_leaks_without_channel :
    ∃ world, WorldReachable plusConfig (sessionEnv 0 consumeAll) calmModem world ∧
      openDescriptors world.log = [0] ∧
      (∀ slot, world.descriptor slot = none) ∧ ¬world.TableSound := by
  obtain ⟨world, reachable, seen⟩ := exists_world_run plusConfig (sessionEnv 0 consumeAll) calmModem
    [.machine (.pipeReceive 0 []), .machine (.host .dispatch),
      .machine (.pipeClosed 0), .command .xsocket (numbers [1, 1, 0] [])]
    (fun world => (openDescriptors world.log,
      decide (∀ slot, world.descriptor slot = none)))
    ([0], true) (by decide +kernel)
  rw [Prod.mk.injEq, decide_eq_true_eq] at seen
  refine ⟨world, reachable, seen.1, seen.2, ?_⟩
  intro sound
  obtain ⟨slot, holds⟩ := (sound.exact 0).mp (by rw [seen.1]; simp)
  rw [seen.2 slot] at holds
  cases holds

end SerialModem.Socket
