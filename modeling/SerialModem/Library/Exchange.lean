import Mathlib.Data.List.Induction
import Mathlib.Data.List.TakeWhile

/-!
# Requests and replies in a log

Events of a log are turns of an exchange: a request, its reply, and something
that closes it.  A log in which the turns follow each other in this order is
followed to a state, and from the state at its end it is known of every request
whether it has been replied to.
-/

namespace SerialModem.Library

open List

universe u

variable {Event : Type u}

inductive Turn where
  | request
  | reply
  | close
  deriving DecidableEq

inductive Exchange where
  | idle
  | waiting
  | replied
  deriving DecidableEq

def Exchange.next : Exchange → Option Turn → Option Exchange
  | state, none => some state
  | .idle, some .request => some .waiting
  | .idle, some .close => some .idle
  | .waiting, some .reply => some .replied
  | .replied, some .close => some .idle
  | _, _ => none

section

variable (turn : Event → Option Turn)

def exchange (log : List Event) : Option Exchange :=
  log.foldl (fun state event => state.bind fun exchange =>
    exchange.next (turn event)) (some .idle)

theorem exchange_concat (log : List Event) (event : Event) : exchange turn (log ++ [event]) =
      (exchange turn log).bind fun state => state.next (turn event) := by
  simp [exchange, foldl_append]

def untilRequest (later : List Event) : List Event :=
  later.takeWhile fun event => turn event ≠ some .request

def RepliedOnce (events after : List Event) : Prop :=
  ∃ before reply, events = before ++ reply :: after ∧ turn reply = some .reply ∧
    (∀ event, event ∈ before → turn event ≠ some .reply) ∧
    ∀ event, event ∈ after → turn event ≠ some .reply

end

variable {turn : Event → Option Turn}

variable {later : List Event}

theorem untilRequest_eq_self : untilRequest turn later = later ↔
      ∀ event, event ∈ later → turn event ≠ some .request := by
  simp [untilRequest, takeWhile_eq_self_iff]

variable {event : Event}

theorem untilRequest_concat_of_all (all : untilRequest turn later = later)
    (noRequest : turn event ≠ some .request) :
    untilRequest turn (later ++ [event]) = later ++ [event] := by
  rw [untilRequest_eq_self] at all ⊢
  intro other member
  rcases mem_append.mp member with earlier | isLast
  · exact all other earlier
  · cases mem_singleton.mp isLast
    exact noRequest

theorem untilRequest_concat_of_ne
    (ended : untilRequest turn later ≠ later ∨ turn event = some .request) :
    untilRequest turn (later ++ [event]) = untilRequest turn later ∧
      untilRequest turn (later ++ [event]) ≠ later ++ [event] := by
  have same : untilRequest turn (later ++ [event]) = untilRequest turn later := by
    rw [untilRequest, takeWhile_append]
    split
    · rename_i whole
      have all : untilRequest turn later = later :=
        (List.takeWhile_prefix _).eq_of_length whole
      rw [all]
      rcases ended with notAll | isRequest
      · exact absurd all notAll
      · rw [takeWhile_cons_of_neg (by simp [isRequest]), append_nil]
    · rfl
  refine ⟨same, ?_⟩
  intro whole
  have shorter : (untilRequest turn later).length ≤ later.length :=
    (List.takeWhile_prefix _).length_le
  rw [← same, whole, length_append, length_singleton] at shorter
  omega

theorem RepliedOnce.concat {events after : List Event} (once : RepliedOnce turn events after)
    (noReply : turn event ≠ some .reply) :
    RepliedOnce turn (events ++ [event]) (after ++ [event]) := by
  obtain ⟨before, reply, rfl, isReply, noneBefore, noneAfter⟩ := once
  refine ⟨before, reply, by simp, isReply, noneBefore, ?_⟩
  intro other member
  rcases mem_append.mp member with earlier | isLast
  · exact noneAfter other earlier
  · cases mem_singleton.mp isLast
    exact noReply

inductive RequestStatus (turn : Event → Option Turn) (later : List Event) :
    Exchange → Prop
  | waiting (last : untilRequest turn later = later)
      (noReply : ∀ event, event ∈ later → turn event ≠ some .reply) :
      RequestStatus turn later .waiting
  | replied {after : List Event} (last : untilRequest turn later = later)
      (once : RepliedOnce turn later after) :
      RequestStatus turn later .replied
  | closed {state : Exchange} {after : List Event} {close : Event}
      (ended : state = .idle ∨ untilRequest turn later ≠ later)
      (once : RepliedOnce turn (untilRequest turn later) after)
      (member : close ∈ after) (isClose : turn close = some .close) :
      RequestStatus turn later state

theorem RequestStatus.concat {before state : Exchange} (status : RequestStatus turn later before)
    (next : before.next (turn event) = some state) :
    RequestStatus turn (later ++ [event]) state := by
  cases status with
  | waiting last none =>
    cases turned : turn event with
    | none =>
      rw [turned] at next
      cases next
      refine .waiting (untilRequest_concat_of_all last (by simp [turned])) ?_
      intro other member
      rcases mem_append.mp member with earlier | isLast
      · exact none other earlier
      · cases mem_singleton.mp isLast
        simp [turned]
    | some kind =>
      rw [turned] at next
      cases kind with
      | reply =>
        cases next
        exact .replied (untilRequest_concat_of_all last (by simp [turned]))
          ⟨later, event, rfl, turned, none, by simp⟩
      | request | close => cases next
  | @replied after last once =>
    have more : turn event ≠ some .request →
        untilRequest turn (later ++ [event]) = later ++ [event] :=
      untilRequest_concat_of_all last
    cases turned : turn event with
    | none =>
      rw [turned] at next
      cases next
      exact .replied (more (by simp [turned])) (once.concat (by simp [turned]))
    | some kind =>
      rw [turned] at next
      cases kind with
      | close =>
        cases next
        refine @RequestStatus.closed _ _ _ _ (after ++ [event]) _ (.inl rfl) ?_ (by simp) turned
        rw [more (by simp [turned])]
        exact once.concat (by simp [turned])
      | request | reply => cases next
  | @closed _ after close ended once member isClose =>
    by_cases isOver : untilRequest turn later ≠ later ∨ turn event = some .request
    · obtain ⟨same, more⟩ := untilRequest_concat_of_ne isOver
      exact .closed (.inr more) (same.symm ▸ once) member isClose
    · obtain ⟨whole, noRequest⟩ := not_or.mp isOver
      have all := not_not.mp whole
      have isIdle : before = .idle := ended.resolve_right whole
      subst isIdle
      have noReply : turn event ≠ some .reply := by
        intro turned
        rw [turned] at next
        cases next
      have idle : state = .idle := by
        cases turned : turn event with
        | none =>
          rw [turned] at next
          exact (Option.some.inj next).symm
        | some kind =>
          rw [turned] at next
          cases kind with
          | close => exact (Option.some.inj next).symm
          | request => exact absurd turned noRequest
          | reply => cases next
      refine @RequestStatus.closed _ _ _ _ (after ++ [event]) _
        (.inl idle) ?_ (mem_append_left _ member) isClose
      rw [untilRequest_concat_of_all all noRequest]
      rw [all] at once
      exact once.concat noReply

/-- Every request of a log in order is the last one and waits, or has got its
one reply. -/
theorem exchange_request {earlier later : List Event} {request : Event}
    {state : Exchange} (isRequest : turn request = some .request)
    (inOrder : exchange turn (earlier ++ request :: later) = some state) :
    RequestStatus turn later state := by
  induction later using reverseRecOn generalizing state with
  | nil =>
    rw [exchange_concat, isRequest] at inOrder
    obtain ⟨before, _, next⟩ := Option.bind_eq_some_iff.mp inOrder
    cases before with
    | idle =>
      cases next
      exact .waiting rfl (by simp)
    | waiting | replied => cases next
  | append_singleton front last ih =>
    rw [← cons_append, ← append_assoc, exchange_concat] at inOrder
    obtain ⟨before, followed, next⟩ := Option.bind_eq_some_iff.mp inOrder
    exact (ih followed).concat next

end SerialModem.Library
