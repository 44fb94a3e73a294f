import SerialModem.AtHost.Frame

/-!
# Data-mode sessions in the history

A session of a context starts when the context enters data mode.  Its record
is read off the history: the length that was requested, the bytes received
since, the bytes that the handler has consumed, and, once the context has been
moved to null mode, the bytes received after that.
-/

namespace SerialModem.AtHost

open Library List

structure Session where
  requestedLen : UInt32
  received : List Byte
  consumed : List Byte
  dropped : Option (List Byte)
  deriving DecidableEq

namespace Session

def start : Session := ⟨0, [], [], none⟩

def next (c : CtxId) (session : Session) : Event → Session
  | .enterDatamode d _ dataLen =>
    if d = c then ⟨dataLen, [], [], none⟩ else session
  | .received d byte =>
    if d = c then
      { session with
        received := session.received ++ [byte]
        dropped := session.dropped.map (· ++ [byte]) }
    else
      session
  | .handlerSend d _ content _ result =>
    if d = c then
      { session with
        consumed := session.consumed ++ content.take result.toNat }
    else
      session
  | .exitDatamodeHandler d _ =>
    if d = c then
      { session with dropped := some (session.dropped.getD []) }
    else
      session
  | _ => session

end Session

/-- What has happened to `c` since it entered data mode. -/
def session (c : CtxId) (history : History) : Session :=
  history.foldl (Session.next c) Session.start

theorem session_append (c : CtxId) (history events : History) :
    session c (history ++ events) = events.foldl (Session.next c) (session c history) := by
  simp [session]

@[simp]
theorem session_append_singleton (c : CtxId) (history : History) (event : Event) :
    session c (history ++ [event]) = Session.next c (session c history) event := by
  simp [session]

def Neutral (c : CtxId) (event : Event) : Prop :=
  ∀ record : Session, Session.next c record event = record

variable {c : CtxId} {before after : Host}

theorem session_of_appends_neutral (appends : Appends (Neutral c) before after) :
    session c after.history = session c before.history := by
  obtain ⟨events, history, neutral⟩ := appends
  rw [history, session_append]
  clear history
  induction events generalizing before with
  | nil => rfl
  | cons event rest ih =>
    rw [foldl_cons, neutral event (mem_cons_self ..)]
    exact ih (fun later member => neutral later (mem_cons_of_mem _ member))

/-- Part of no session: nothing is received or sent and no mode is left. -/
def Quiet : Event → Prop
  | .received _ _ => False
  | .enterDatamode _ _ _ => False
  | .handlerSend _ _ _ _ _ => False
  | .exitDatamodeHandler _ _ => False
  | _ => True

variable {event : Event}

theorem Quiet.neutral (quiet : Quiet event) (c : CtxId) : Neutral c event := by
  intro record
  cases event with
  | received | enterDatamode | handlerSend | exitDatamodeHandler => exact False.elim quiet
  | _ => rfl

theorem Quiet.internal (quiet : Quiet event) : Internal event := by
  cases event with
  | received | enterDatamode => exact False.elim quiet
  | _ => trivial

theorem IsReply.quiet {current : Option CtxId} (reply : IsReply current event) : Quiet event := by
  cases event with
  | rspSend | urcSent | rspSendTo | dataSend | locked | unlocked => trivial
  | _ => exact False.elim reply

variable {cfg : Config}

theorem Undisturbed.quiet (undisturbed : Undisturbed cfg before after) :
    Appends Quiet before after :=
  undisturbed.replies.mono fun _ reply => reply.quiet

theorem Undisturbed.session (undisturbed : Undisturbed cfg before after) (c : CtxId) :
    session c after.history = session c before.history :=
  session_of_appends_neutral <| undisturbed.quiet.mono fun _ quiet => quiet.neutral c

theorem Undisturbed.internal (undisturbed : Undisturbed cfg before after) :
    Appends Internal before after :=
  undisturbed.quiet.mono fun _ quiet => quiet.internal

theorem session_of_appends_internal (appends : Appends Internal before after) :
    (session c after.history).requestedLen = (session c before.history).requestedLen ∧
      (session c after.history).received = (session c before.history).received := by
  obtain ⟨events, history, internal⟩ := appends
  rw [history, session_append]
  generalize session c before.history = record
  clear history
  induction events generalizing record with
  | nil => exact ⟨rfl, rfl⟩
  | cons event rest ih =>
    have tail := ih (fun later member => internal later (mem_cons_of_mem _ member))
      (Session.next c record event)
    have head : (Session.next c record event).requestedLen = record.requestedLen ∧
          (Session.next c record event).received = record.received := by
      have isInternal := internal event (mem_cons_self ..)
      cases event with
      | received | enterDatamode => exact False.elim isInternal
      | handlerSend | exitDatamodeHandler =>
        simp only [Session.next]
        split <;> exact ⟨rfl, rfl⟩
      | _ => exact ⟨rfl, rfl⟩
    exact ⟨tail.1.trans head.1, tail.2.trans head.2⟩

def NotReceived : Event → Prop
  | .received _ _ => False
  | _ => True

theorem Internal.notReceived (internal : Internal event) : NotReceived event := by
  cases event with
  | received => exact internal
  | _ => trivial

theorem receivedBytes_of_appends (appends : Appends NotReceived before after) :
    receivedBytes c after.history = receivedBytes c before.history := by
  obtain ⟨events, history, notReceived⟩ := appends
  have none : receivedBytes c events = [] := by
    apply filterMap_eq_nil_iff.mpr
    intro event member
    have isOther := notReceived event member
    cases event with
    | received => exact False.elim isOther
    | _ => rfl
  rw [history, receivedBytes, filterMap_append, ← receivedBytes, ← receivedBytes, none, append_nil]

end SerialModem.AtHost
