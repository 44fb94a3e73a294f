import SerialModem.Icmp.ReplySelection

/-!
# The time of a ping

`send_ping_wait_reply` measures with `k_uptime_delta`, which returns the time
since `start_t` and then moves `start_t` to the present.  The time that it
reports and the timeouts that it gives to `zsock_poll` are counted from the
previous reading of the clock, and not from the start of sending.
-/

namespace SerialModem.Icmp

open List

/-- The uptime does not go back. -/
def ClockOrdered : List Round → Int → Prop
  | [], _ => True
  | round :: rest, now => now ≤ round.now ∧ ClockOrdered rest round.now

/-- The readings of the clock from `zsock_send` on. -/
def readings (sent : Int) (rounds : List Round) : List Int :=
  sent :: rounds.map Round.now

def returnedTime (result : WaitResult) : Nat :=
  (result.deltaT % 0x100000000).toNat

def xpingSeconds (result : WaitResult) : Nat × Nat :=
  (returnedTime result / 1000, returnedTime result % 1000)

/-- No poll may take longer than what is left of the timeout when it starts, and
the time of a reply is counted from the start of sending. -/
structure AccountsTime (waitms began : Int) (clock : List Int)
    (result : WaitResult) : Prop where
  withinTimeout : ∀ poll ∈ result.polls.zip clock, poll.1 + (poll.2 - began) ≤ waitms
  roundTrip : result.answer = .reply → clock[result.polls.length]? = some (began + (1000 *
      (xpingSeconds result).1 + (xpingSeconds result).2 : Nat))

/-- Modulo 2^32, an `elapsed` time leaves a positive `int32_t` of the timeout. -/
def Remains (waitms elapsed : Int) : Prop :=
  0 < (waitms - elapsed) % 0x100000000 ∧ (waitms - elapsed) % 0x100000000 < 0x80000000

def verdict (ping : Ping) (buf : List Byte) (len : Int) : Verdict :=
  if protocolMatches ping.family buf = false then
    .next
  else
    parseReply ping buf len

/-- Up to the reading before the last one the clock has stayed where it was when
sending began, as long as the loop polls; when it accepts a reply, up to the last
one.  `now` is a reading of the clock and `before` the previous one. -/
def TimeKept (ping : Ping) (began : Int) : List Round → List Byte → (before now : Int) → Prop
  | [], _, before, now =>
    Remains ping.waitms (now - before) → before = began ∧ now - before ≤ ping.waitms
  | round :: rest, buf, before, now =>
    Remains ping.waitms (now - before) → (before = began ∧ now - before ≤ ping.waitms) ∧
        (0 < round.poll → ¬round.failed →
          match verdict ping (round.received buf) round.len with
          | .reply => now = began ∧ round.now - now < 0x100000000
          | .next =>
            TimeKept ping began rest (round.received buf) now round.now
          | .giveUp => True)

def timeoutAfter (ping : Ping) (elapsed : Int) : Int :=
  toInt32 (ping.waitms - toInt32 elapsed)

theorem timeoutAfter_eq (ping : Ping) (elapsed : Int) :
    timeoutAfter ping elapsed = toInt32 (ping.waitms - elapsed) := by
  rw [timeoutAfter, toInt32, toInt32, toInt32, Int.sub_bmod_bmod]

theorem timeoutAfter_pos_iff (ping : Ping) (elapsed : Int) :
    0 < timeoutAfter ping elapsed ↔ Remains ping.waitms elapsed := by
  rw [timeoutAfter_eq, toInt32, Int.bmod_def, Remains]
  omega

variable {ping : Ping} {began now : Int}

theorem poll_within_iff {before : Int} (waitms : ping.waitms < 0x100000000)
    (since : began ≤ before) (ordered : before ≤ now)
    (remains : Remains ping.waitms (now - before)) :
    timeoutAfter ping (now - before) + (now - began) ≤ ping.waitms ↔
      before = began ∧ now - before ≤ ping.waitms := by
  rw [timeoutAfter_eq, toInt32, Int.bmod_def]
  rw [Remains] at remains
  omega

theorem accountsTime_polled {waitms began now timeout : Int}
    {clock : List Int} {result : WaitResult} :
    AccountsTime waitms began (now :: clock) (result.polled timeout) ↔
      timeout + (now - began) ≤ waitms ∧ AccountsTime waitms began clock result := by
  constructor
  · intro accounts
    have all := accounts.withinTimeout
    rw [WaitResult.polled, zip_cons_cons, forall_mem_cons] at all
    exact ⟨all.1, all.2, accounts.roundTrip⟩
  · rintro ⟨isWithin, accounts⟩
    constructor
    · rw [WaitResult.polled, zip_cons_cons, forall_mem_cons]
      exact ⟨isWithin, accounts.withinTimeout⟩
    · exact accounts.roundTrip

theorem accountsTime_noReply (waitms began : Int) (clock : List Int) :
    AccountsTime waitms began clock .noReply where
  withinTimeout := nofun
  roundTrip := nofun

theorem accountsTime_waiting {waitms timeout : Int} {clock : List Int} :
    AccountsTime waitms began (now :: clock) ⟨[timeout], .waiting, 0⟩ ↔
      timeout + (now - began) ≤ waitms := by
  have noPoll : AccountsTime waitms began clock ⟨[], .waiting, 0⟩ :=
    ⟨nofun, nofun⟩
  have polled := @accountsTime_polled waitms began now timeout clock ⟨[], .waiting, 0⟩
  exact polled.trans (and_iff_left noPoll)

theorem accountsTime_reply {waitms accepted timeout deltaT : Int} {clock : List Int} :
    AccountsTime waitms began (now :: accepted :: clock) ⟨[timeout], .reply, deltaT⟩ ↔
      timeout + (now - began) ≤ waitms ∧ accepted = began + deltaT % 0x100000000 := by
  have replied : AccountsTime waitms began (accepted :: clock)
      ⟨[], .reply, deltaT⟩ ↔ accepted = began + deltaT % 0x100000000 := by
    have isTime : ((1000 * ((deltaT % 0x100000000).toNat / 1000) +
        (deltaT % 0x100000000).toNat % 1000 : Nat) : Int) =
          deltaT % 0x100000000 := by
      omega
    constructor
    · intro accounts
      have isReading := accounts.roundTrip rfl
      simp only [xpingSeconds, returnedTime, length_nil,
        getElem?_cons_zero, Option.some.injEq] at isReading
      omega
    · intro isReading
      refine ⟨nofun, fun _ => ?_⟩
      simp only [xpingSeconds, returnedTime, length_nil, getElem?_cons_zero, Option.some.injEq]
      omega
  have polled := @accountsTime_polled waitms began now timeout
    (accepted :: clock) ⟨[], .reply, deltaT⟩
  exact polled.trans (and_congr_right fun _ => replied)

theorem receiveLoop_of_over {rounds : List Round} {wait : Wait}
    (isOver : wait.timeout ≤ 0) : receiveLoop ping rounds wait = .noReply := by
  cases rounds with
  | nil | cons round rest => rw [receiveLoop, if_pos isOver]

theorem receiveLoop_cons {round : Round} {rest : List Round} {wait : Wait}
    (remains : 0 < wait.timeout) :
    receiveLoop ping (round :: rest) wait =
      if round.poll ≤ 0 ∨ round.failed then
        WaitResult.noReply.polled wait.timeout
      else
        match verdict ping (round.received wait.buf) round.len with
        | .reply => ⟨[wait.timeout], .reply, round.now - wait.startT⟩
        | .next =>
          (receiveLoop ping rest
            { buf := round.received wait.buf
              startT := round.now
              timeout := timeoutAfter ping (round.now - wait.startT) }).polled
            wait.timeout
        | .giveUp => WaitResult.noReply.polled wait.timeout := by
  rw [receiveLoop, if_neg (by omega)]
  dsimp only
  by_cases polled : round.poll ≤ 0
  · rw [if_pos polled, if_pos (.inl polled)]
  · rw [if_neg polled]
    by_cases failed : round.failed
    · rw [if_pos failed, if_pos (.inr failed)]
    · rw [if_neg failed, if_neg (not_or.mpr ⟨polled, failed⟩), verdict]
      by_cases other : protocolMatches ping.family (round.received wait.buf) = false
      · rw [if_pos other, if_pos other]
        rfl
      · rw [if_neg other, if_neg other]
        cases parseReply ping (round.received wait.buf) round.len with
        | reply | giveUp => rfl
        | next =>
          dsimp only
          by_cases left : 0 < timeoutAfter ping (round.now - wait.startT)
          · exact if_pos left
          · have isOver : receiveLoop ping rest
                { buf := round.received wait.buf
                  startT := round.now
                  timeout := timeoutAfter ping (round.now - wait.startT) } = .noReply :=
              receiveLoop_of_over (Int.not_lt.mp left)
            rw [isOver]
            exact if_neg left

/-- By induction on the results: each poll and the reply are counted from the
previous reading. -/
theorem receiveLoop_accounts (waitms : ping.waitms < 0x100000000) (rounds : List Round) :
    ∀ {buf : List Byte} {before now : Int}, began ≤ before → before ≤ now →
      ClockOrdered rounds now →
      (AccountsTime ping.waitms began (readings now rounds) (receiveLoop ping rounds
            ⟨buf, now, timeoutAfter ping (now - before)⟩) ↔
        TimeKept ping began rounds buf before now) := by
  induction rounds with
  | nil =>
    intro buf before now since ordered _
    rw [TimeKept, ← timeoutAfter_pos_iff]
    by_cases remains : 0 < timeoutAfter ping (now - before)
    · rw [receiveLoop, if_neg (by dsimp only; omega), readings, accountsTime_waiting]
      rw [poll_within_iff waitms since ordered ((timeoutAfter_pos_iff ping _).mp remains)]
      exact ⟨fun kept _ => kept, fun kept => kept remains⟩
    · rw [receiveLoop_of_over (Int.not_lt.mp remains)]
      exact iff_of_true (accountsTime_noReply _ _ _) fun remaining => absurd remaining remains
  | cons round rest ih =>
    intro buf before now since ordered clock
    rw [TimeKept, ← timeoutAfter_pos_iff]
    by_cases remains : 0 < timeoutAfter ping (now - before)
    · have isWithin := poll_within_iff waitms since ordered
        ((timeoutAfter_pos_iff ping _).mp remains)
      have sinceNow : began ≤ now := Int.le_trans since ordered
      rw [receiveLoop_cons remains, imp_iff_right remains, ← isWithin]
      by_cases ends : round.poll ≤ 0 ∨ round.failed
      · rw [if_pos ends, readings, accountsTime_polled]
        apply and_congr_right
        intro _
        refine iff_of_true (accountsTime_noReply _ _ _) ?_
        intro polled received
        exact absurd (ends.resolve_left (by omega)) received
      · obtain ⟨polled, received⟩ := not_or.mp ends
        rw [if_neg ends, imp_iff_right (by omega : 0 < round.poll), imp_iff_right received]
        dsimp only
        cases verdict ping (round.received buf) round.len with
        | reply =>
          dsimp only
          rw [readings, map_cons, accountsTime_reply]
          have later := clock.1
          apply and_congr_right
          intro _
          omega
        | giveUp =>
          dsimp only
          rw [readings, accountsTime_polled]
          exact and_congr_right fun _ =>
            iff_of_true (accountsTime_noReply _ _ _) trivial
        | next =>
          dsimp only
          rw [readings, accountsTime_polled]
          exact and_congr_right fun _ =>
            ih sinceNow clock.1 clock.2
    · rw [receiveLoop_of_over (Int.not_lt.mp remains)]
      exact iff_of_true (accountsTime_noReply _ _ _) fun remaining => absurd remaining remains

/-- The polls keep to the timeout and the time of the reply is right exactly if
the clock stands still between the start of sending and the reading before the
one that counts. -/
theorem pingTime_accounted_iff {ping : Ping} {request : List Byte}
    {began sent : Int} {rounds : List Round}
    (waitms : ping.waitms < 0x100000000) (sending : began ≤ sent)
    (ordered : ClockOrdered rounds sent) :
    AccountsTime ping.waitms began (readings sent rounds)
        (waitForReply ping request began sent rounds) ↔
      TimeKept ping began rounds request began sent :=
  receiveLoop_accounts waitms rounds (Int.le_refl began) sending ordered

def shortReplyRound (now : Int) : Round :=
  datagramRound shortReply (by decide) now

theorem shortReply_accepted (now : Int) (buf : List Byte) : ¬(shortReplyRound now).failed ∧
      verdict ⟨.inet, 1, 1000⟩ ((shortReplyRound now).received buf)
        (shortReplyRound now).len = .reply := by
  have isReply : isAwaited ⟨.inet, 1, 1000⟩ shortReply = true := by decide
  have length : (pllen .inet shortReply : Int) = shortReply.length := by decide
  have noOptions : ipv4HeaderLength shortReply = 20 := by decide
  have accepted : Accepted ⟨.inet, 1, 1000⟩ (shortReplyRound now) :=
    ⟨length, fun _ => noOptions, nofun⟩
  obtain ⟨positive, protocol, reports⟩ :=
    accepted_reports buf (by decide) isReply accepted
  refine ⟨fun failed => absurd failed.1 (Int.not_le.mpr positive), ?_⟩
  rw [verdict, if_neg (by rw [protocol]; decide), reports]

/-- The request is sent at once, a UDP datagram follows in the same millisecond,
and the reply after 130 ms. -/
theorem pingTime_accounted_at_once :
    let rounds := [datagramRound udpDatagram (by decide) 0, shortReplyRound 130]
    ∃ request, generateRequest ⟨.inet 0x0100000A 0x08080808, 32, by decide⟩ 1 = some request ∧
      AccountsTime (1000 : Nat) 0 (readings 0 rounds)
        (waitForReply ⟨.inet, 1, 1000⟩ request 0 0 rounds) := by
  intro rounds
  obtain ⟨request, generated⟩ := Option.isSome_iff_exists.mp
    ((ipv4_isSome_iff 0x0100000A 0x08080808 (by decide : 32 < 0x10000) 1).mpr (by decide))
  have ordered : ClockOrdered rounds 0 := ⟨by decide, by decide, trivial⟩
  refine ⟨request, generated, (@pingTime_accounted_iff ⟨.inet, 1, 1000⟩ request 0 0 rounds
    (by decide) (Int.le_refl 0) ordered).mpr ?_⟩
  rw [TimeKept]
  intro _
  refine ⟨by decide, fun _ _ => ?_⟩
  rw [verdict, if_pos (udpDatagram_ignored 0 request)]
  change TimeKept _ _ _ _ 0 0
  rw [TimeKept]
  intro _
  refine ⟨by decide, fun _ _ => ?_⟩
  rw [(shortReply_accepted 130 _).2]
  exact ⟨rfl, by decide⟩

/-- Sending takes 30 ms.  The reply comes 130 ms after the start of sending and
is reported with 100 ms. -/
theorem sending_time_not_reported : xpingSeconds (waitForReply ⟨.inet, 1, 1000⟩ [] 0 30
        [shortReplyRound 130]) = (0, 100) ∧
      ¬AccountsTime (1000 : Nat) 0 (readings 30 [shortReplyRound 130])
        (waitForReply ⟨.inet, 1, 1000⟩ [] 0 30 [shortReplyRound 130]) := by
  have reported : waitForReply ⟨.inet, 1, 1000⟩ [] 0 30
      [shortReplyRound 130] = ⟨[970], .reply, 100⟩ := by
    obtain ⟨received, replies⟩ := shortReply_accepted 130 []
    rw [waitForReply, receiveLoop_cons (by decide), if_neg
      (not_or.mpr ⟨by decide, received⟩), replies]
    rfl
  rw [reported]
  refine ⟨by decide, fun accounts => ?_⟩
  have isReading := accounts.roundTrip rfl
  revert isReading
  decide

end SerialModem.Icmp
