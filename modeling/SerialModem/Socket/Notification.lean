import SerialModem.Socket.Steps

/-!
# Notifications of poll events

An event that the host was notified of leaves `xapoll_events` and is put back by
the operations that have it notified again.  Events that cannot go away disable
the polling of their socket as well, until the poll work enables it for events
that came while the channel was not idle.
-/

namespace SerialModem.Socket

open Library Library.Program List Function
open AtHost

variable {cfg : Config} {env : Environment} {modem : Modem}
variable {permits : Permits} {before after : World}

/-! ## The polling of one socket -/

def SocketEvent.polls (slot : Slot) : SocketEvent → Bool
  | .xapoll target _ _ => target == slot
  | .armed target _ _ _ => target == slot
  | .rearmed target _ => target == slot
  | .reenabled target => target == slot
  | .initSocket target => target == slot
  | _ => false

inductive PollChange (permits : Permits) (slot : Slot) (before after : World) :
    Prop
  | other {events : SocketLog} (appended : after.log = before.log ++ events)
      (silent : ∀ event, event ∈ events → event.polls slot = false)
      (xapoll : (after.poll slot).xapollEvents = (before.poll slot).xapollEvents)
      (disable : (before.poll slot).disable = true → (after.poll slot).disable = true)
  | init (appended : after.log = before.log ++ [.initSocket slot])
  | arm {cause : PollCause} {events notified : PollEvents}
      (appended : after.log = before.log ++ [.armed slot cause events notified])
      (armed : after.poll slot = (before.poll slot).arm events notified)
      (caused : BitMask.Within notified cause.mayNotify)
      (enabled : (before.poll slot).disable = false)
      (renewed : permits.renews ∨ cause.renews = false)
  | reenable (appended : after.log = before.log ++ [.reenabled slot])
      (xapoll : (after.poll slot).xapollEvents = (before.poll slot).xapollEvents)
  | xapoll {fd : Int} {events : PollEvents} (permitted : permits.notifies)
      (appended : after.log = before.log ++ [.xapoll slot fd events])
      (pending : BitMask.Within events (before.poll slot).xapollEvents)
      (taken : after.poll slot =
        { before.poll slot with
          xapollEvents := (before.poll slot).xapollEvents &&& ~~~events })
  | rearm {requested : PollEvents} (appended : after.log = before.log ++ [.rearmed slot requested])
      (rearmed : after.poll slot =
        { before.poll slot with
          xapollEvents := (before.poll slot).xapollEvents ||| zsockPollin
          events := (before.poll slot).events ||| zsockPollin })

theorem World.poll_setPoll_self (world : World) (slot : Slot)
    (poll : AsyncPoll) : (world.setPoll slot poll).poll slot = poll := by
  rw [World.poll, World.setPoll, World.socks_setSock_self]

namespace PollChange

variable {slot : Slot}

theorem unlogged (log : after.log = before.log) (poll : after.poll slot = before.poll slot) :
    PollChange permits slot before after := by
  have appended : after.log = before.log ++ [] := by
    rw [append_nil]
    exact log
  refine .other appended ?_ (by rw [poll]) (by rw [poll]; exact id)
  intro event member
  cases member

theorem logged {event : SocketEvent} (log : after.log = before.log ++ [event])
    (silent : event.polls slot = false)
    (poll : after.poll slot = before.poll slot) :
    PollChange permits slot before after := by
  refine .other log ?_ (by rw [poll]) (by rw [poll]; exact id)
  refine forall_mem_singleton.mpr ?_
  exact silent

end PollChange

theorem Effect.pollChange (slot : Slot) (effect : Effect cfg permits before after) :
    PollChange permits slot before after := by
  have elsewhere : ∀ {target : Slot} {sock : SmSocket} {event : SocketEvent},
      target ≠ slot → (target ≠ slot → event.polls slot = false) →
      PollChange permits slot before ((before.setSock target sock).record event) := by
    intro target sock event other silent
    apply PollChange.logged rfl (silent other)
    exact congrArg SmSocket.asyncPoll (before.socks_setSock_of_ne sock (Ne.symm other))
  have here : ∀ {target : Slot} {sock : SmSocket} {event : SocketEvent},
      (target ≠ slot → event.polls slot = false) →
      (target = slot → PollChange permits slot before ((before.setSock target sock).record event)) →
      PollChange permits slot before ((before.setSock target sock).record event) := by
    intro target sock event silent changed
    by_cases equal : target = slot
    · exact changed equal
    · exact elsewhere equal silent
  have differs : ∀ {target : Slot}, target ≠ slot → (target == slot) = false :=
    fun other => beq_false_of_ne other
  have kept : ∀ {target : Slot} {sock : SmSocket} {event : SocketEvent}, event.polls slot = false →
      sock.asyncPoll = (before.socks target).asyncPoll →
      PollChange permits slot before ((before.setSock target sock).record event) := by
    intro target sock event silent same
    apply here (fun _ => silent)
    rintro rfl
    apply PollChange.logged rfl silent
    rw [World.poll, World.record, World.socks_setSock_self]
    exact same
  cases effect with
  | host | session | serve | queue | request | stream | requests | context | datamodeSock
  | udp => exact PollChange.unlogged rfl rfl
  | @call event isCall | @descriptor event _ isCall =>
    refine PollChange.logged rfl ?_ rfl
    cases event <;> first | rfl | cases isCall
  | @observed event _ ofSession =>
    refine PollChange.logged rfl ?_ rfl
    cases event <;> first | rfl | cases ofSession
  | @body event _ ofBody =>
    refine PollChange.logged rfl ?_ rfl
    cases event <;> first | rfl | cases ofBody
  | rejected => exact PollChange.logged rfl rfl rfl
  | @member target sock same =>
    refine PollChange.unlogged rfl ?_
    by_cases equal : slot = target
    · subst equal
      rw [World.poll, World.socks_setSock_self]
      exact same.asyncPoll
    · exact congrArg SmSocket.asyncPoll (before.socks_setSock_of_ne sock equal)
  | @settings target poll xapoll _ disable =>
    by_cases equal : slot = target
    · subst equal
      have assigned := before.poll_setPoll_self slot poll
      have appended : (before.setPoll slot poll).log = before.log ++ [] :=
        (append_nil _).symm
      refine .other appended ?_ ?_ ?_
      · intro event member
        cases member
      · rw [assigned]
        exact xapoll
      · intro disabled
        rw [assigned]
        by_contra enabled
        rw [disable (Bool.eq_false_of_not_eq_true enabled)] at disabled
        cases disabled
    · refine PollChange.unlogged rfl ?_
      exact congrArg SmSocket.asyncPoll (before.socks_setSock_of_ne _ equal)
  | store | drop | attach | reassign | sendCallback | xsendntf => exact kept rfl rfl
  | init =>
    apply here differs
    rintro rfl
    exact .init rfl
  | @select target cause requested =>
    apply here fun _ => rfl
    rintro rfl
    have assigned := before.poll_setPoll_self target
      { before.poll target with xapollEventsRequested := requested }
    refine .other rfl ?_ ?_ ?_
    · exact forall_mem_singleton.mpr rfl
    · have same := congrArg AsyncPoll.xapollEvents assigned
      exact same
    · intro disabled
      have same := congrArg AsyncPoll.disable assigned
      exact same.trans disabled
  | arm _ _ caused enabled renewed =>
    apply here differs
    rintro rfl
    exact .arm rfl (before.poll_setPoll_self _ _) caused enabled renewed
  | @reenable target =>
    apply here differs
    rintro rfl
    have assigned := before.poll_setPoll_self target { before.poll target with disable := false }
    have same := congrArg AsyncPoll.xapollEvents assigned
    exact .reenable rfl same
  | xapoll permitted pending =>
    apply here differs
    rintro rfl
    exact .xapoll permitted rfl pending (before.poll_setPoll_self _ _)
  | rearm =>
    apply here differs
    rintro rfl
    exact .rearm rfl (before.poll_setPoll_self _ _)

/-! ## Events that are notified again -/

def notifyPhase (slot : Slot) (index : Nat) : SocketEvent → Option Bool
  | .xapoll target _ events =>
    if target = slot ∧ events.getLsbD index = true then some true else none
  | .armed target _ _ notified =>
    if target = slot ∧ notified.getLsbD index = true then some false
    else none
  | .rearmed target _ =>
    if target = slot ∧ zsockPollin.getLsbD index = true then some false
    else none
  | .initSocket target => if target = slot then some false else none
  | _ => none

def lifetimePhase (slot : Slot) (index : Nat) : SocketEvent → Option Bool
  | .xapoll target _ events =>
    if target = slot ∧ events.getLsbD index = true then some true else none
  | .reenabled target => if target = slot then some false else none
  | .initSocket target => if target = slot then some false else none
  | _ => none

variable {slot : Slot}

variable (index : Nat)

theorem notifyPhase_silent {event : SocketEvent} (silent : event.polls slot = false) :
    notifyPhase slot index event = none := by
  cases event <;> simp_all [SocketEvent.polls, notifyPhase]

theorem lifetimePhase_silent {event : SocketEvent} (silent : event.polls slot = false) :
    lifetimePhase slot index event = none := by
  cases event <;> simp_all [SocketEvent.polls, lifetimePhase]

def NotifiedOnce (slot : Slot) (index : Nat) (world : World) : Prop :=
  UsedOnce (notifyPhase slot index) world.log ((world.poll slot).xapollEvents.getLsbD index = false)

theorem PollChange.notifiedOnce (change : PollChange permits slot before after)
    (once : NotifiedOnce slot index before) :
    NotifiedOnce slot index after := by
  unfold NotifiedOnce at once ⊢
  cases change with
  | other appended silent xapoll =>
    rw [appended, xapoll]
    exact once.silent fun event member =>
      notifyPhase_silent index (silent event member)
  | init appended =>
    rw [appended]
    exact once.renew (if_pos rfl)
  | @arm cause events notified appended armed =>
    rw [appended, armed]
    by_cases renewed : notified.getLsbD index = true
    · exact once.renew (if_pos ⟨rfl, renewed⟩)
    · refine (once.silent ?_).keep ?_
      · refine forall_mem_singleton.mpr ?_
        exact if_neg fun both => renewed both.2
      · intro spent
        simp [AsyncPoll.arm, spent, renewed]
  | reenable appended xapoll =>
    rw [appended, xapoll]
    refine once.silent ?_
    exact forall_mem_singleton.mpr rfl
  | @xapoll fd events _ appended pending taken =>
    rw [appended, taken]
    by_cases notified : events.getLsbD index = true
    · apply once.use
      · rw [pending.bit notified]
        decide
      · simp [notified]
    · refine (once.silent ?_).keep ?_
      · refine forall_mem_singleton.mpr ?_
        exact if_neg fun both => notified both.2
      · intro spent
        simp [spent]
  | rearm appended rearmed =>
    rw [appended, rearmed]
    by_cases isPollin : zsockPollin.getLsbD index = true
    · exact once.renew (if_pos ⟨rfl, isPollin⟩)
    · refine (once.silent ?_).keep ?_
      · refine forall_mem_singleton.mpr ?_
        exact if_neg fun both => isPollin both.2
      · intro spent
        simp [spent, isPollin]

/-! ## Events that cannot go away -/

def AsyncPoll.Retired (poll : AsyncPoll) (unsettled : PollEvents) (index : Nat) : Prop :=
  poll.xapollEvents.getLsbD index = false ∧ (unsettled.getLsbD index = true ∨ poll.disable = true)

def RetiredOnce (unsettled : Slot → PollEvents) (world : World) : Prop :=
  ∀ slot index, permanentEvents.getLsbD index = true → UsedOnce (lifetimePhase slot index) world.log
      ((world.poll slot).Retired (unsettled slot) index)

def settledAll (_ : Slot) : PollEvents :=
  0

def unsettledAt (slot : Slot) (events : PollEvents) : Slot → PollEvents :=
  update settledAll slot events

theorem permanentEvents_iff : permanentEvents.getLsbD index = true ↔
      index = 3 ∨ index = 4 ∨ index = 5 := by
  constructor
  · intro set
    have below : index < 8 := BitVec.lt_of_getLsbD set
    have checked : ∀ bit : Fin 8, permanentEvents.getLsbD bit = true →
        bit.val = 3 ∨ bit.val = 4 ∨ bit.val = 5 := by decide
    exact checked ⟨index, below⟩ set
  · rintro (rfl | rfl | rfl) <;> decide

theorem not_mayNotify {cause : PollCause} {index : Nat}
    (permanent : permanentEvents.getLsbD index = true)
    (once : cause.renews = false) :
    cause.mayNotify.getLsbD index = false := by
  rcases (permanentEvents_iff index).mp permanent with rfl | rfl | rfl <;>
    cases cause <;> first | rfl | cases once

theorem PollChange.retired {index : Nat} {unsettled : PollEvents}
    (permanent : permanentEvents.getLsbD index = true)
    (quiet : ¬permits.notifies) (settled : permits.renews → unsettled = 0)
    (change : PollChange permits slot before after)
    (once : UsedOnce (lifetimePhase slot index) before.log
      ((before.poll slot).Retired unsettled index)) :
    UsedOnce (lifetimePhase slot index) after.log ((after.poll slot).Retired unsettled index) := by
  have silentOne : ∀ {event : SocketEvent}, lifetimePhase slot index event = none →
      ∀ other, other ∈ [event] → lifetimePhase slot index other = none := by
    intro event silent other member
    rw [mem_singleton.mp member]
    exact silent
  cases change with
  | other appended silent xapoll disable =>
    rw [appended]
    refine (once.silent fun event member =>
      lifetimePhase_silent index (silent event member)).keep ?_
    rintro ⟨notWaited, unsettledOrDisabled⟩
    exact ⟨by rw [xapoll]; exact notWaited, unsettledOrDisabled.imp_right disable⟩
  | init appended =>
    rw [appended]
    exact once.renew (if_pos rfl)
  | @arm cause events notified appended armed caused enabled renewed =>
    rw [appended, armed]
    refine (once.silent (silentOne rfl)).keep ?_
    rintro ⟨notWaited, unsettledOrDisabled⟩
    by_cases again : notified.getLsbD index = true
    · -- The socket was polled, and what was notified is settled.
      have renews : permits.renews := by
        rcases renewed with renews | once
        · exact renews
        · have not := not_mayNotify permanent once
          rw [caused.bit again] at not
          cases not
      rw [settled renews, enabled] at unsettledOrDisabled
      simp at unsettledOrDisabled
    · exact ⟨by simp [AsyncPoll.arm, notWaited, again], unsettledOrDisabled⟩
  | reenable appended =>
    rw [appended]
    exact once.renew (if_pos rfl)
  | xapoll permitted => exact absurd permitted quiet
  | rearm appended rearmed =>
    rw [appended, rearmed]
    refine (once.silent (silentOne rfl)).keep ?_
    rintro ⟨notWaited, unsettledOrDisabled⟩
    refine ⟨?_, unsettledOrDisabled⟩
    have notPollin : zsockPollin.getLsbD index = false := by
      rcases (permanentEvents_iff index).mp permanent with
        rfl | rfl | rfl <;> rfl
    simp [notWaited, notPollin]

variable {unsettled : Slot → PollEvents}

theorem Effects.retiredOnce (quiet : ¬permits.notifies)
    (settled : permits.renews → unsettled = settledAll)
    (effects : Effects cfg permits before after)
    (once : RetiredOnce unsettled before) : RetiredOnce unsettled after := by
  refine effects.preserves ?_ once
  intro first last effect retired slot index permanent
  refine (effect.pollChange slot).retired permanent quiet ?_ (retired slot index permanent)
  intro renews
  rw [settled renews]
  rfl

/-! ## The poll work -/

variable {world : World}

theorem RetiredOnce.initial (starts : World.Initial world) : RetiredOnce settledAll world := by
  intro slot index _
  rw [starts.log]
  exact UsedOnce.start

theorem RetiredOnce.take {events : PollEvents} (once : RetiredOnce settledAll world) (fd : Int)
    (pending : BitMask.Within events (world.poll slot).xapollEvents) :
    RetiredOnce (unsettledAt slot events) ((world.setPoll slot
        { world.poll slot with
          xapollEvents := (world.poll slot).xapollEvents &&& ~~~events
        }).record (.xapoll slot fd events)) := by
  intro other index permanent
  have before := once other index permanent
  by_cases equal : other = slot
  · subst equal
    have unsettled : unsettledAt other events other = events :=
      update_self ..
    rw [unsettled, World.record]
    change UsedOnce _ _ (AsyncPoll.Retired ((world.setPoll other _).poll other) events index)
    rw [world.poll_setPoll_self]
    by_cases notified : events.getLsbD index = true
    · apply before.use
      · rintro ⟨notWaited, _⟩
        rw [pending.bit notified] at notWaited
        cases notWaited
      · exact ⟨by simp [notified], .inl notified⟩
    · refine (before.silent ?_).keep ?_
      · refine forall_mem_singleton.mpr ?_
        exact if_neg fun both => notified both.2
      · rintro ⟨notWaited, unsettledOrDisabled⟩
        refine ⟨by simp [notWaited], Or.inr ?_⟩
        simpa [settledAll] using unsettledOrDisabled
  · have unsettled : unsettledAt slot events other = settledAll other :=
      update_of_ne equal ..
    have same := world.socks_setSock_of_ne
      { world.socks slot with
        asyncPoll :=
          { world.poll slot with
            xapollEvents := (world.poll slot).xapollEvents &&& ~~~events } }
      equal
    have samePoll := congrArg SmSocket.asyncPoll same
    rw [unsettled]
    refine (before.silent ?_).keep ?_
    · refine forall_mem_singleton.mpr ?_
      exact if_neg fun both => equal both.1.symm
    · intro retired
      rw [World.poll, World.record, World.setPoll, samePoll]
      exact retired

theorem RetiredOnce.settle {events revents : PollEvents}
    (once : RetiredOnce (unsettledAt slot events) world)
    (handled : BitMask.Within (events &&& permanentEvents) revents) :
    RetiredOnce settledAll (world.setPoll slot ((world.poll slot).settle revents)) := by
  intro other index permanent
  refine (once other index permanent).keep ?_
  rintro ⟨notWaited, unsettledOrDisabled⟩
  by_cases equal : other = slot
  · subst equal
    rw [world.poll_setPoll_self]
    refine ⟨notWaited, Or.inr ?_⟩
    rw [unsettledAt, update_self] at unsettledOrDisabled
    rw [AsyncPoll.settle, Bool.or_eq_true]
    refine unsettledOrDisabled.symm.imp_right ?_
    intro isEvent
    have isHandled : revents.getLsbD index = true :=
      handled.bit (by simp [isEvent, permanent])
    rw [hasEvent, bne_iff_ne]
    intro nothing
    have bit := congrArg (fun mask => mask.getLsbD index) nothing
    simp [isHandled, permanent] at bit
  · rw [unsettledAt, update_of_ne equal] at unsettledOrDisabled
    rw [World.poll, World.setPoll, world.socks_setSock_of_ne _ equal]
    exact ⟨notWaited, unsettledOrDisabled⟩

def quietWork : Permits :=
  { machinePermissions anywhere with notifies := False, renews := False }

instance : Fact quietWork.bodies :=
  ⟨trivial⟩

theorem RetiredOnce.keeps {permits : Permits}
    {Value : Type} {program : SocketM Value} (quiet : ¬permits.notifies)
    (settled : permits.renews → unsettled = settledAll)
    (once : RetiredOnce unsettled world)
    (performs : Performs cfg permits world program) :
    Ends world program fun _ after => RetiredOnce unsettled after :=
  (performs world (Effects.refl world)).mono fun _ _ effects =>
    effects.retiredOnce quiet settled once

section

variable {world : World}

variable {slot : Slot}

theorem RetiredOnce.reportXapoll {events : PollEvents}
    (once : RetiredOnce settledAll world) (pipe : PipeId)
    (pending : BitMask.Within events (world.poll slot).xapollEvents) :
    Ends world (reportXapoll cfg modem pipe slot events)
      fun _ after => RetiredOnce (unsettledAt slot events) after := by
  unfold Socket.reportXapoll
  split
  · rename_i nothing
    subst nothing
    rw [ends_pure, unsettledAt]
    have same : update settledAll slot 0 = settledAll :=
      update_eq_self slot settledAll
    rw [same]
    exact once
  · rw [ends_bind, ends_get, takeXapoll, ends_bind, ends_modify]
    have taken := once.take (world.socks slot).fd pending
    have reports : ∀ base text, Performs cfg quietWork base (urcSendToPipe cfg (some pipe) text) :=
      fun _ _ => Performs.hostCall _
    refine (taken.keeps id False.elim (reports _ _)).call ?_
    intro _ told reached
    have tells : Ends told (smAtHttpcPollEvent cfg modem (world.socks slot).fd events)
        fun _ after => Effects cfg quietWork told after := by
      apply Performs.smAtHttpcPollEvent _ _ (Effects.refl told)
      intro target hasRequest found final effects
      trivial
    exact tells.mono fun _ _ effects =>
      effects.retiredOnce id False.elim reached

theorem RetiredOnce.notifyXapoll (once : RetiredOnce settledAll world)
    (pipe : PipeId) (revents : PollEvents) :
    Ends world (notifyXapoll cfg modem pipe slot revents)
      fun handled after => ∃ events, BitMask.Within (events &&& permanentEvents) handled ∧
        RetiredOnce (unsettledAt slot events) after := by
  have notPollin : permanentEvents &&& ~~~zsockPollin = permanentEvents := by
    decide
  let events := revents &&& (world.poll slot).xapollEvents
  have among : BitMask.Within (events &&& permanentEvents) revents :=
    (BitMask.Within.and_left _ _).trans (BitMask.Within.and_left _ _)
  unfold Socket.notifyXapoll
  rw [ends_bind, ends_get]
  refine (once.reportXapoll pipe (BitMask.Within.and_right _ _)).call ?_
  intro needsRearm told reached
  split
  · have rearms : Performs cfg quietWork told (rearmPollin slot) :=
      Performs.rearmPollin slot
    refine (reached.keeps id False.elim rearms).call ?_
    intro _ rearmed reachedRearmed
    rw [ends_pure]
    refine ⟨events, ?_, reachedRearmed⟩
    apply BitMask.within_iff.mpr
    intro index set
    have isPermanent : permanentEvents.getLsbD index = true :=
      (BitMask.Within.and_right _ _).bit set
    rw [← notPollin] at isPermanent
    rw [BitVec.getLsbD_and, Bool.and_eq_true] at isPermanent ⊢
    exact ⟨among.bit set, isPermanent.2⟩
  · rw [ends_pure]
    exact ⟨events, among, reached⟩

theorem RetiredOnce.handleRevents {events revents : PollEvents}
    (once : RetiredOnce (unsettledAt slot events) world)
    (handled : BitMask.Within (events &&& permanentEvents) revents)
    (pipe : PipeId) (atAndIdle dataMode : Bool) :
    Ends world (handleRevents cfg env modem pipe atAndIdle dataMode slot revents)
      fun _ after => RetiredOnce settledAll after := by
  unfold Socket.handleRevents
  rw [modifyPoll, ends_bind, ends_modify]
  have goesOn : ∀ base, Performs cfg unnotified base
      (receiveAndPoll cfg env modem pipe atAndIdle dataMode slot revents) :=
    fun _ => Performs.receiveAndPoll pipe atAndIdle slot revents fun _ => ⟨trivial, trivial⟩
  exact (once.settle handled).keeps id (fun _ => rfl) (goesOn _)

theorem RetiredOnce.pollWorkStep (once : RetiredOnce settledAll world)
    (c : CtxId) (pipe : PipeId) (atAndIdle dataMode : Bool) (slot : Slot) :
    Ends world (pollWorkStep cfg env modem c pipe atAndIdle dataMode slot)
      fun _ after => RetiredOnce settledAll after := by
  have nothing : ∀ {state : World}, RetiredOnce settledAll state →
      RetiredOnce (unsettledAt slot 0) state := by
    intro state retired
    rw [unsettledAt, show update settledAll slot 0 = settledAll from
      update_eq_self slot settledAll]
    exact retired
  have quiet : ∀ {state : World} {Value : Type} {program : SocketM Value},
      RetiredOnce settledAll state →
      Performs cfg unnotified state program →
      Ends state program fun _ after => RetiredOnce settledAll after :=
    fun retired performs => retired.keeps id (fun _ => rfl) performs
  unfold Socket.pollWorkStep
  rw [ends_bind, ends_get]
  split
  · dsimp only
    have clears : Performs cfg unnotified world
        (modifyPoll slot fun poll => { poll with revents := 0 }) :=
      Performs.modifyPoll slot (fun _ => rfl) (fun _ => rfl) fun _ => id
    refine (quiet once clears).call ?_
    intro _ cleared retired
    have kept : Ends cleared (keepEvents c pipe atAndIdle slot (world.poll slot).revents)
        fun _ after => RetiredOnce settledAll after := by
      unfold keepEvents
      split
      · exact quiet retired (Performs.pure _)
      · exact quiet retired (Performs.delayEvents trivial _ _)
    refine kept.call ?_
    intro _ state reached
    unfold processEvents
    rw [ends_bind, ends_get]
    split
    · exact quiet reached (Performs.pure _)
    · split
      · exact quiet reached (Performs.pure _)
      · split
        · exact quiet reached (Performs.reenableEvents trivial _ _)
        · split
          · exact (nothing reached).handleRevents (by simpa using BitMask.Within.zero _) _ _ _
          · refine (reached.notifyXapoll pipe _).call ?_
            rintro handled told ⟨events, among, left⟩
            exact left.handleRevents among _ _ _
  · exact quiet once (Performs.pure _)

end

/-! ## At most one notification -/

/-- The operations after which an event of a socket is notified again: another
socket is opened in the slot, the event is armed by an operation that may have it
notified again, or the HTTP client has POLLIN polled on. -/
inductive Rearms (slot : Slot) (index : Nat) : SocketEvent → Prop
  | initSocket : Rearms slot index (.initSocket slot)
  | armed {cause : PollCause} {events notified : PollEvents} (among : notified.getLsbD index = true)
      (caused : cause.mayNotify.getLsbD index = true) :
      Rearms slot index (.armed slot cause events notified)
  | rearmed {requested : PollEvents} (isPollin : zsockPollin.getLsbD index = true) :
      Rearms slot index (.rearmed slot requested)

structure NotifiesOnce (world : World) : Prop where
  once : ∀ slot index, NotifiedOnce slot index world
  caused : ∀ slot cause events notified, .armed slot cause events notified ∈ world.log →
      BitMask.Within notified cause.mayNotify

theorem Effect.notifiesOnce (effect : Effect cfg permits before after)
    (notifies : NotifiesOnce before) : NotifiesOnce after where
  once slot index :=
    (effect.pollChange slot).notifiedOnce index (notifies.once slot index)
  caused slot cause events notified member := by
    have earlier := notifies.caused slot cause events notified
    have appendedOne : ∀ {event : SocketEvent}, after.log = before.log ++ [event] →
        (event = .armed slot cause events notified → BitMask.Within notified cause.mayNotify) →
        BitMask.Within notified cause.mayNotify := by
      intro event appended isArmed
      rw [appended, mem_append, mem_singleton] at member
      rcases member with before | same
      · exact earlier before
      · exact isArmed same.symm
    cases effect.pollChange slot with
    | other appended silent =>
      rw [appended, mem_append] at member
      rcases member with before | new
      · exact earlier before
      · have isAbout : SocketEvent.polls slot
            (.armed slot cause events notified) = true := beq_self_eq_true _
        rw [silent _ new] at isAbout
        cases isAbout
    | init appended =>
      apply appendedOne appended
      intro isArmed
      cases isArmed
    | arm appended _ caused =>
      apply appendedOne appended
      intro isArmed
      cases isArmed
      exact caused
    | reenable appended | xapoll _ appended | rearm appended =>
      apply appendedOne appended
      intro isArmed
      cases isArmed

theorem notifiesOnce (reachable : WorldReachable cfg env modem world) : NotifiesOnce world := by
  have always : Always (fun _ _ => True) world.log := fun _ _ _ _ => trivial
  have initially : ∀ first, World.Initial first → NotifiesOnce first := by
    intro first starts
    constructor
    · intro slot index
      rw [NotifiedOnce, starts.log]
      exact UsedOnce.start
    · intro slot cause events notified member
      rw [starts.log] at member
      cases member
  have machineKept : ∀ first machine, NotifiesOnce first →
      NotifiesOnce (first.afterMachine machine) :=
    fun _ _ notifies => ⟨notifies.once, notifies.caused⟩
  have kept : ∀ {permits : Permits} {first last},
      Effect cfg permits first last → Always (fun _ _ => True) last.log →
      NotifiesOnce first → NotifiesOnce last :=
    fun effect _ notifies => effect.notifiesOnce notifies
  exact invariant_logged initially machineKept kept reachable always

theorem retiredOnce (reachable : WorldReachable cfg env modem world) :
    RetiredOnce settledAll world := by
  have machineKept : ∀ first machine, RetiredOnce settledAll first →
      RetiredOnce settledAll (first.afterMachine machine) :=
    fun _ _ once => once
  have kept : ∀ {permits : Permits} {first last}, ¬permits.notifies →
      Effect cfg permits first last → RetiredOnce settledAll first →
      RetiredOnce settledAll last :=
    fun quiet effect once =>
      (Effects.of_effect effect).retiredOnce quiet (fun _ => rfl) once
  refine invariant_polled machineKept kept ?_ (fun _ => RetiredOnce.initial) reachable
  intro state c pipe atAndIdle dataMode slot _ once
  exact once.pollWorkStep c pipe atAndIdle dataMode slot

section

variable {world : World} {first middle last : SocketLog} {slot : Slot}
  {fd laterFd : Int} {events laterEvents : PollEvents}

/-- Between two notifications of an event of a socket there is an operation that
has it notified again.  Error and closure events are notified once, unless
another socket was opened or the polling was enabled again. -/
theorem xapoll_at_most_once (reachable : WorldReachable cfg env modem world)
    (split : world.log = first ++ .xapoll slot fd events :: middle ++
      .xapoll slot laterFd laterEvents :: last)
    {index : Nat} (notified : events.getLsbD index = true)
    (notifiedLater : laterEvents.getLsbD index = true) :
    (∃ event, event ∈ middle ∧ Rearms slot index event) ∧ (permanentEvents.getLsbD index = true →
        .initSocket slot ∈ middle ∨ .reenabled slot ∈ middle) := by
  have notifies := notifiesOnce reachable
  constructor
  · have once := (notifies.once slot index).once
    rw [split] at once
    obtain ⟨event, member, renews⟩ := renewed_between once
      (if_pos ⟨rfl, notified⟩) (if_pos ⟨rfl, notifiedLater⟩)
    refine ⟨event, member, ?_⟩
    cases event with
    | initSocket target =>
      have same : target = slot := by simpa [notifyPhase] using renews
      rw [same]
      exact .initSocket
    | armed target cause armed again =>
      have both : target = slot ∧ again.getLsbD index = true := by
        simpa [notifyPhase] using renews
      rw [both.1]
      refine .armed both.2 ?_
      have inLog : SocketEvent.armed target cause armed again ∈ world.log := by
        rw [split]
        simp [member]
      exact (notifies.caused target cause armed again inLog).bit both.2
    | rearmed target requested =>
      have both : target = slot ∧ zsockPollin.getLsbD index = true := by
        simpa [notifyPhase] using renews
      rw [both.1]
      exact .rearmed both.2
    | xapoll target => simp [notifyPhase] at renews
    | _ => simp [notifyPhase] at renews
  · intro permanent
    have once := (retiredOnce reachable slot index permanent).once
    rw [split] at once
    obtain ⟨event, member, renews⟩ := renewed_between once
      (if_pos ⟨rfl, notified⟩) (if_pos ⟨rfl, notifiedLater⟩)
    cases event with
    | initSocket target =>
      have same : target = slot := by simpa [lifetimePhase] using renews
      exact .inl (same ▸ member)
    | reenabled target =>
      have same : target = slot := by simpa [lifetimePhase] using renews
      exact .inr (same ▸ member)
    | _ => simp [lifetimePhase] at renews

end

/-! ## Automatic reception -/

def dataModem : Modem :=
  { calmModem with
    zsockRecvfrom := fun _ _ length _ =>
      .done (⟨[100].take length, by simp⟩, ⟨afInet, [], 0⟩) }

def receivingSocket : List WorldAction :=
  lineActions 0 .xapoll (numbers [-1, 1, 1] []) ++ lineActions 0 .xsocket (numbers [1, 2, 0] []) ++
    lineActions 0 .xrecvcfg (numbers [0, 1] [])

def dataTwice : List WorldAction :=
  [.pollCallback 0 zsockPollin, .machine (.host .dispatch),
    .machine (.host .dispatch), .machine (.takeMessage none),
    .machine .idleItem, .machine (.takeMessage none), .machine .idleItem,
    .machine .endMessages, .machine (.host .dispatch),
    .machine (.host .receiveEnd), .pollCallback 0 zsockPollin,
    .machine (.host .dispatch)]

/-- POLLIN is notified again because data was received in between. -/
theorem received_data_rearms : ∃ (world : World) (first middle last : SocketLog),
      world.log = first ++ .xapoll 0 0 zsockPollin :: middle ++ .xapoll 0 0 zsockPollin :: last ∧
      ∃ event, event ∈ middle ∧ Rearms 0 0 event := by
  obtain ⟨world, reachable, seen⟩ := exists_world_run plusConfig
    (sessionEnv 0 consumeAll) dataModem (receivingSocket ++ dataTwice)
    (fun world => (world.log[11]?, (world.log.drop 12)[8]?))
    (some (.xapoll 0 0 zsockPollin), some (.xapoll 0 0 zsockPollin))
    (by decide +kernel)
  rw [Prod.mk.injEq] at seen
  have split := split_of_two_getElem? seen.1 seen.2
  exact ⟨world, _, _, _, split, (xapoll_at_most_once reachable split rfl rfl).1⟩

def WorldAction.mayRearm : WorldAction → Bool
  | .command _ _ => true
  | .sendCallback _ _ _ => true
  | _ => false

/-- Data that is received automatically is notified twice, although the host
does nothing in between. -/
theorem automatic_reception_notified_again : ∃ (before after : World) (actions : List WorldAction),
      WorldReachable plusConfig (sessionEnv 0 consumeAll) dataModem before ∧
      runActions (worldStep plusConfig (sessionEnv 0 consumeAll) dataModem)
        actions before = some after ∧
      (∀ action, action ∈ actions → action.mayRearm = false) ∧
      ∃ first middle last, after.log.drop before.log.length =
        first ++ .xapoll 0 0 zsockPollin :: middle ++ .xapoll 0 0 zsockPollin :: last := by
  have evaluated : ((runActions (worldStep plusConfig (sessionEnv 0 consumeAll) dataModem)
      receivingSocket bootedWorld).bind fun before =>
        (runActions (worldStep plusConfig (sessionEnv 0 consumeAll) dataModem)
          dataTwice before).map fun after =>
            (before, after.log.drop before.log.length, after)).map
      (fun run => (run.2.1[1]?, (run.2.1.drop 2)[8]?)) =
      some (some (.xapoll 0 0 zsockPollin), some (.xapoll 0 0 zsockPollin)) := by
    decide +kernel
  obtain ⟨⟨before, new, after⟩, ran, seen⟩ :=
    Option.map_eq_some_iff.mp evaluated
  obtain ⟨_, opened, rest⟩ := Option.bind_eq_some_iff.mp ran
  obtain ⟨_, received, isRun⟩ := Option.map_eq_some_iff.mp rest
  cases isRun
  rw [Prod.mk.injEq] at seen
  have reachable := reachable_of_run receivingSocket bootedWorld_initial opened
  refine ⟨before, after, dataTwice, reachable, received, ?_, _, _, _,
    split_of_two_getElem? seen.1 seen.2⟩
  intro action member
  have quiet : dataTwice.all (fun action => !action.mayRearm) = true := rfl
  simpa using List.all_eq_true.mp quiet action member

end SerialModem.Socket
