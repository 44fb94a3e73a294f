import SerialModem.Socket.Steps

/-!
# The selection of poll events

AT#XAPOLL selects the events that the host is notified of, for one socket, for
the sockets of a channel and for those it opens later.  What is still to be
notified is a mask of its own, which a new selection does not cut down, and the
HTTP client selects through the same function.
-/

namespace SerialModem.Socket

open Library
open AtHost

variable {cfg : Config} {env : Environment} {modem : Modem}

def hostSelection (slot : Slot) : SocketEvent → Option PollEvents
  | .selected selected cause _ requested =>
    if selected = slot ∧ cause ≠ .httpClient then some requested else none
  | _ => none

def latestSelection (slot : Slot) (log : SocketLog) : Option PollEvents :=
  latest (hostSelection slot) log

/-- What is armed was selected. -/
def KeepsSelection (earlier : SocketLog) : SocketEvent → Prop
  | .selected slot cause pending requested =>
    BitMask.Within pending requested ∧
      (cause = .httpClient → ∀ selection ∈ latestSelection slot earlier,
        BitMask.Within requested selection)
  | .rearmed _ requested => BitMask.Within zsockPollin requested
  | _ => True

instance (earlier : SocketLog) :
    ∀ event, Decidable (KeepsSelection earlier event) := fun event => by
  unfold KeepsSelection
  split <;> infer_instance

/-- Only selected events are armed or notified. -/
structure HonoursSelection (world : World) : Prop where
  pending : ∀ slot, world.occupied slot = true →
    BitMask.Within (world.poll slot).xapollEvents (world.poll slot).xapollEventsRequested
  notified : ∀ earlier slot fd events later,
    world.log = earlier ++ .xapoll slot fd events :: later →
    ∀ selection, latestSelection slot earlier = some selection → BitMask.Within events selection

def SocketEvent.concernsSelection : SocketEvent → Bool
  | .selected _ _ _ _ => true
  | .xapoll _ _ _ => true
  | _ => false

structure AsyncPoll.Follows (poll : AsyncPoll) (selection : Option PollEvents) :
    Prop where
  pending : BitMask.Within poll.xapollEvents poll.xapollEventsRequested
  requested : ∀ selected, selection = some selected →
    BitMask.Within poll.xapollEventsRequested selected

/-- The invariant: a notification that is logged was selected when it was
made. -/
structure FollowsSelection (world : World) : Prop where
  follows : ∀ slot, (world.poll slot).Follows (latestSelection slot world.log)
  notified : Always (fun earlier event =>
    ∀ slot fd events, event = .xapoll slot fd events →
      ∀ selection, latestSelection slot earlier = some selection →
        BitMask.Within events selection) world.log

theorem AsyncPoll.Follows.cleared (selection : Option PollEvents) :
    AsyncPoll.Follows {} selection where
  pending := BitMask.Within.zero _
  requested _ _ := BitMask.Within.zero _

namespace FollowsSelection

theorem initial {world : World} (starts : World.Initial world) : FollowsSelection world where
  follows slot := by
    obtain ⟨pipe, cleared⟩ := starts.socks slot
    rw [World.poll, cleared]
    exact AsyncPoll.Follows.cleared _
  notified := by
    rw [starts.log]
    exact Always.nil

variable {world : World} {slot : Slot}

theorem setSock {sock : SmSocket} (follows : FollowsSelection world)
    (assigned : sock.asyncPoll.Follows (latestSelection slot world.log)) :
    FollowsSelection (world.setSock slot sock) where
  follows other := by
    by_cases equal : other = slot
    · subst equal
      rw [World.poll, World.socks_setSock_self]
      exact assigned
    · rw [World.poll, World.socks_setSock_of_ne _ _ equal]
      exact follows.follows other
  notified := follows.notified

theorem record {event : SocketEvent} (follows : FollowsSelection world)
    (silent : event.concernsSelection = false) :
    FollowsSelection (world.record event) where
  follows other := by
    have silentHere : hostSelection other event = none := by
      cases event <;> first | rfl | cases silent
    have unchanged : latestSelection other (world.log ++ [event]) =
        latestSelection other world.log := by
      rw [latestSelection, latest_concat, silentHere, Option.none_or]
      rfl
    rw [World.record, unchanged]
    exact follows.follows other
  notified := by
    rw [World.record, Always.concat_iff]
    refine ⟨follows.notified, ?_⟩
    intro other fd events isNotification
    rw [isNotification] at silent
    cases silent

theorem keep {sock : SmSocket} (follows : FollowsSelection world)
    (pending : sock.asyncPoll.xapollEvents = (world.poll slot).xapollEvents)
    (requested : sock.asyncPoll.xapollEventsRequested = (world.poll slot).xapollEventsRequested) :
    FollowsSelection (world.setSock slot sock) := by
  have old := follows.follows slot
  apply follows.setSock
  constructor
  · rw [pending, requested]
    exact old.pending
  · rw [requested]
    exact old.requested

theorem select {cause : PollCause} {requested : PollEvents} (follows : FollowsSelection world)
    (keeps : KeepsSelection world.log
      (.selected slot cause (world.poll slot).xapollEvents requested)) :
    FollowsSelection ((world.setPoll slot
      { world.poll slot with xapollEventsRequested := requested }).record
      (.selected slot cause (world.poll slot).xapollEvents requested)) where
  follows other := by
    rw [World.record, latestSelection, latest_concat]
    by_cases equal : other = slot
    · subst equal
      rw [World.poll, World.setPoll, World.socks_setSock_self]
      refine ⟨keeps.1, ?_⟩
      intro selected isSelected
      by_cases byClient : cause = .httpClient
      · apply keeps.2 byClient
        have silent : hostSelection other (.selected other cause
            (world.poll other).xapollEvents requested) = none := by
          simp [hostSelection, byClient]
        rw [silent, Option.none_or] at isSelected
        exact isSelected
      · have same : requested = selected := by
          simpa [hostSelection, byClient] using isSelected
        exact same ▸ BitMask.Within.refl requested
    · have elsewhere : hostSelection other (.selected slot cause
          (world.poll slot).xapollEvents requested) = none := by
        simp [hostSelection, Ne.symm equal]
      rw [elsewhere, Option.none_or, World.poll, World.setPoll, World.socks_setSock_of_ne _ _ equal]
      exact follows.follows other
  notified := by
    rw [World.record, Always.concat_iff]
    refine ⟨follows.notified, ?_⟩
    intro other fd events isNotification
    cases isNotification

theorem xapoll {events : PollEvents} (follows : FollowsSelection world)
    (pending : BitMask.Within events (world.poll slot).xapollEvents) :
    FollowsSelection ((world.setPoll slot
      { world.poll slot with
        xapollEvents := (world.poll slot).xapollEvents &&& ~~~events }).record
      (.xapoll slot (world.socks slot).fd events)) where
  follows other := by
    have unchanged : latestSelection other (world.log ++
        [.xapoll slot (world.socks slot).fd events]) =
        latestSelection other world.log := by
      rw [latestSelection, latest_concat]
      rfl
    have shrunk : FollowsSelection (world.setPoll slot
        { world.poll slot with
          xapollEvents := (world.poll slot).xapollEvents &&& ~~~events }) := by
      have old := follows.follows slot
      apply follows.setSock
      exact ⟨(BitMask.Within.and_left _ _).trans old.pending, old.requested⟩
    change AsyncPoll.Follows _ (latestSelection other (world.log ++ _))
    rw [unchanged]
    exact shrunk.follows other
  notified := by
    rw [World.record, Always.concat_iff]
    refine ⟨follows.notified, ?_⟩
    intro other fd notified isNotification selection isLatest
    cases isNotification
    have before := follows.follows slot
    exact (pending.trans before.pending).trans (before.requested selection isLatest)

end FollowsSelection

theorem Effect.followsSelection {permits : Permits} {before after : World}
    (effect : Effect cfg permits before after)
    (keeps : Always KeepsSelection after.log)
    (follows : FollowsSelection before) : FollowsSelection after := by
  cases effect with
  | host | session | serve | queue | request | stream | requests | context | datamodeSock
  | udp => exact ⟨follows.follows, follows.notified⟩
  | @call event isCall | @descriptor event _ isCall =>
    apply follows.record
    cases event <;> first | rfl | cases isCall
  | @observed event _ ofSession =>
    apply follows.record
    cases event <;> first | rfl | cases ofSession
  | @body event _ ofBody =>
    apply follows.record
    cases event <;> first | rfl | cases ofBody
  | rejected => exact follows.record rfl
  | member links =>
    apply follows.keep
    · rw [links.asyncPoll]
      rfl
    · rw [links.asyncPoll]
      rfl
  | init =>
    exact (follows.setSock (AsyncPoll.Follows.cleared _)).record rfl
  | store | drop | attach | reassign => exact FollowsSelection.record (follows.keep rfl rfl) rfl
  | select => exact follows.select ((Always.concat_iff _ _).mp keeps).2
  | @arm slot cause events notified requested =>
    have old := follows.follows slot
    exact FollowsSelection.record (follows.setSock ⟨old.pending.or requested, old.requested⟩) rfl
  | settings xapoll requested => exact follows.keep xapoll requested
  | reenable => exact FollowsSelection.record (follows.keep rfl rfl) rfl
  | xapoll _ pending => exact follows.xapoll pending
  | @rearm slot =>
    have old := follows.follows slot
    have selected := ((Always.concat_iff _ _).mp keeps).2
    exact FollowsSelection.record (follows.setSock ⟨old.pending.or selected, old.requested⟩) rfl
  | sendCallback | xsendntf => exact FollowsSelection.record (follows.keep rfl rfl) rfl

/-- A run whose selections keep the pending events, and in which the HTTP client
stays within the selection of the host, notifies what is selected. -/
theorem xapoll_honours_selection {world : World} (reachable : WorldReachable cfg env modem world)
    (keeps : Always KeepsSelection world.log) : HonoursSelection world := by
  have initially : ∀ first, World.Initial first → FollowsSelection first :=
    fun _ => FollowsSelection.initial
  have machineKept : ∀ first machine, FollowsSelection first →
      FollowsSelection (first.afterMachine machine) :=
    fun _ _ before => ⟨before.follows, before.notified⟩
  have kept : ∀ {permits : Permits} {first last},
      Effect cfg permits first last → Always KeepsSelection last.log →
      FollowsSelection first → FollowsSelection last :=
    fun effect => effect.followsSelection
  have follows :=
    invariant_logged initially machineKept kept reachable keeps
  constructor
  · exact fun slot _ => (follows.follows slot).pending
  · intro earlier slot fd events later split
    exact follows.notified earlier _ later split slot fd events rfl

/-- AT#XAPOLL selects POLLIN for every socket, a socket is opened, polled and
its data is notified. -/
theorem pollin_honours_selection : ∃ world, HonoursSelection world ∧
      .xapoll 0 0 zsockPollin ∈ world.log := by
  obtain ⟨world, reachable, seen⟩ := exists_world_run plusConfig (sessionEnv 0 consumeAll) calmModem
    (lineActions 0 .xapoll (numbers [-1, 1, 1] []) ++
      lineActions 0 .xsocket (numbers [1, 1, 0] []) ++
      [.pollCallback 0 zsockPollin, .machine (.host .dispatch)])
    (fun world => (decide (Always KeepsSelection world.log),
      decide (.xapoll 0 0 zsockPollin ∈ world.log)))
    (true, true) (by decide +kernel)
  rw [Prod.mk.injEq, decide_eq_true_eq, decide_eq_true_eq] at seen
  exact ⟨world, xapoll_honours_selection reachable seen.1, seen.2⟩

/-- AT#XAPOLL stops polling for a socket, and its data is notified after
that. -/
theorem stopped_event_notified :
    ∃ world, WorldReachable plusConfig (sessionEnv 0 consumeAll) calmModem world ∧
      (∃ earlier later, world.log = earlier ++ .xapoll 0 0 zsockPollin :: later ∧
        latestSelection 0 earlier = some 0) ∧
      ¬HonoursSelection world := by
  obtain ⟨world, reachable, seen⟩ := exists_world_run plusConfig (sessionEnv 0 consumeAll) calmModem
    (lineActions 0 .xapoll (numbers [-1, 1, 1] []) ++
      lineActions 0 .xsocket (numbers [1, 1, 0] []) ++
      lineActions 0 .xapoll (numbers [0, 0] []) ++
      [.pollCallback 0 zsockPollin, .machine (.host .dispatch)])
    (fun world => (world.log[9]?, latestSelection 0 (world.log.take 9)))
    (some (.xapoll 0 0 zsockPollin), some 0) (by decide +kernel)
  rw [Prod.mk.injEq] at seen
  have split := split_of_getElem? seen.1
  refine ⟨world, reachable, ⟨_, _, split, seen.2⟩, ?_⟩
  intro honours
  have selected := honours.notified _ _ _ _ _ split 0 seen.2
  exact absurd selected (by decide)

end SerialModem.Socket
