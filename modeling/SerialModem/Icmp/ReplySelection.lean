import SerialModem.Icmp.Icmpv6Checksum

/-!
# The selection of the reply

After the request `send_ping_wait_reply` polls and receives in a loop, into the
buffer of the request.  The model runs on any sequence of results of
`zsock_poll` and `zsock_recv`, with the uptime after each.  Beside it stands the
waiting that the loop is meant for.
-/

namespace SerialModem.Icmp

open Library List Option

inductive Family where
  | inet
  | inet6
  deriving DecidableEq

/-- `NET_IPV4H_LEN` and `NET_IPV6H_LEN`. -/
def Family.headerLen : Family → Nat
  | inet => 20
  | inet6 => 40

/-- What the loop reads of the request; `seqnr` is a `uint8_t` and `waitms` a
`uint32_t`. -/
structure Ping where
  family : Family
  seqnr : Nat
  waitms : Nat

def byteAt (buf : List Byte) (pos : Nat) : Nat :=
  (buf.getD pos 0).toNat

/-- One result of `zsock_poll` and, if it is positive, one of `zsock_recv`. -/
structure Round where
  poll : Int
  len : Int
  /-- Whether `errno` is `EAGAIN` or `EWOULDBLOCK` after `zsock_recv`. -/
  wouldBlock : Bool
  /-- What `zsock_recv` stores. -/
  content : List Byte
  /-- `k_uptime_get` after `zsock_recv`. -/
  now : Int
  content_length : content.length = len.toNat
  len_le : len ≤ icmpDefaultLinkMtu

/-- The buffer after `zsock_recv`; behind the datagram it is stale. -/
def Round.received (round : Round) (buf : List Byte) : List Byte :=
  round.content ++ buf.drop round.content.length

/-- `zsock_recv` failed for another reason than a missing datagram. -/
def Round.failed (round : Round) : Prop :=
  round.len ≤ 0 ∧ round.wouldBlock = false

instance (round : Round) : Decidable round.failed :=
  inferInstanceAs (Decidable (_ ∧ _))

inductive Answer where
  | reply
  | noReply
  | waiting
  deriving DecidableEq

/-- What a wait does: the timeouts given to `zsock_poll`, and its end. -/
structure WaitResult where
  polls : List Int
  answer : Answer
  /-- `delta_t`, for the `#XPING` notification. -/
  deltaT : Int
  deriving DecidableEq

namespace WaitResult

def noReply : WaitResult := ⟨[], .noReply, 0⟩

def polled (timeout : Int) (result : WaitResult) : WaitResult :=
  { result with polls := timeout :: result.polls }

def seen (result : WaitResult) : List Int × Answer :=
  (result.polls, result.answer)

end WaitResult

/-- The value of an `int32_t`. -/
def toInt32 (value : Int) : Int :=
  value.bmod 0x100000000

def protocolMatches (family : Family) (buf : List Byte) : Bool :=
  match family with
  | .inet => byteAt buf 9 == ipprotoIcmp
  | .inet6 => byteAt buf 6 == ipprotoIcmpv6

/-- The checksum test on `len` received bytes. -/
def passesCheck (family : Family) (buf : List Byte) (len : Int) : Option Bool :=
  match family with
  | .inet => (checkIcs buf 20 (intLength (len - 20))).map fun hcs => hcs == 0
  | .inet6 => passesIcmp6Check buf len

def plseqnr (family : Family) (buf : List Byte) : Nat :=
  byteAt buf (family.headerLen + 7)

def pllen (family : Family) (buf : List Byte) : Nat :=
  match family with
  | .inet => byteAt buf 2 * 0x100 + byteAt buf 3
  | .inet6 => byteAt buf 4 * 0x100 + byteAt buf 5 + 40

inductive Verdict where
  | reply
  /-- `goto wait_for_data`. -/
  | next
  | giveUp
  deriving DecidableEq

def parseReply (ping : Ping) (buf : List Byte) (len : Int) : Verdict :=
  if passesCheck ping.family buf len ≠ some true then
    .giveUp
  else if plseqnr ping.family buf ≠ ping.seqnr then
    .next
  else if (pllen ping.family buf : Int) ≠ len then
    .giveUp
  else
    .reply

structure Wait where
  buf : List Byte
  startT : Int
  timeout : Int

/-- From `wait_for_data` on. -/
def receiveLoop (ping : Ping) : List Round → Wait → WaitResult
  | [], wait =>
    if wait.timeout ≤ 0 then .noReply else ⟨[wait.timeout], .waiting, 0⟩
  | round :: rest, wait =>
    if wait.timeout ≤ 0 then
      .noReply
    else if round.poll ≤ 0 then
      WaitResult.noReply.polled wait.timeout
    else
      -- `k_uptime_delta` also sets `start_t` to the uptime.
      let deltaT := round.now - wait.startT
      let next : Wait :=
        { buf := round.received wait.buf
          startT := round.now
          timeout := toInt32 (ping.waitms - toInt32 deltaT) }
      if round.failed then
        WaitResult.noReply.polled wait.timeout
      else if protocolMatches ping.family next.buf = false then
        (receiveLoop ping rest next).polled wait.timeout
      else
        match parseReply ping next.buf round.len with
        | .reply => ⟨[wait.timeout], .reply, deltaT⟩
        | .giveUp => WaitResult.noReply.polled wait.timeout
        | .next =>
          if 0 < next.timeout then
            (receiveLoop ping rest next).polled wait.timeout
          else
            WaitResult.noReply.polled wait.timeout

/-- The wait after `zsock_send`, which began at `began` and ended at `sent`. -/
def waitForReply (ping : Ping) (request : List Byte) (began sent : Int)
    (rounds : List Round) : WaitResult :=
  receiveLoop ping rounds
    { buf := request
      startT := sent
      timeout := toInt32 (ping.waitms - toInt32 (sent - began)) }

def ipv4HeaderLength (datagram : List Byte) : Nat :=
  4 * (byteAt datagram 0 % 0x10)

def isIpv4Reply (seqnr : Nat) (datagram : List Byte) : Bool :=
  let header := ipv4HeaderLength datagram
  let total := pllen .inet datagram
  decide (byteAt datagram 0 / 0x10 = 4 ∧ 20 ≤ header ∧
    header + icmpHdrLen ≤ total ∧ total ≤ datagram.length ∧
    byteAt datagram 9 = ipprotoIcmp ∧ byteAt datagram header = 0 ∧
    internetChecksum (slice datagram header (total - header)) = 0 ∧
    byteAt datagram (header + 6) * 0x100 + byteAt datagram (header + 7) = seqnr)

def isIpv6Reply (seqnr : Nat) (datagram : List Byte) : Bool :=
  let total := pllen .inet6 datagram
  decide (byteAt datagram 0 / 0x10 = 6 ∧ 40 + icmpHdrLen ≤ total ∧
    total ≤ datagram.length ∧ byteAt datagram 6 = ipprotoIcmpv6 ∧
    byteAt datagram 40 = 129 ∧ VerifiesIcmp6 datagram ∧
    byteAt datagram 46 * 0x100 + byteAt datagram 47 = seqnr)

/-- The reply to the request that was sent. -/
def isAwaited (ping : Ping) (datagram : List Byte) : Bool :=
  match ping.family with
  | .inet => isIpv4Reply ping.seqnr datagram
  | .inet6 => isIpv6Reply ping.seqnr datagram

/-- The wait as it should be: it ends at the reply or at the time, whatever else comes. -/
def awaitReply (ping : Ping) (began : Int) : List Round → Int → List Int × Answer
  | [], now =>
    let remaining := ping.waitms - (now - began)
    if remaining ≤ 0 then ([], .noReply) else ([remaining], .waiting)
  | round :: rest, now =>
    let remaining := ping.waitms - (now - began)
    if remaining ≤ 0 then
      ([], .noReply)
    else if round.poll ≤ 0 then
      ([remaining], .noReply)
    else if round.len < 0 ∧ round.wouldBlock = false then
      ([remaining], .noReply)
    else if isAwaited ping round.content then
      ([remaining], .reply)
    else
      let later := awaitReply ping began rest round.now
      (remaining :: later.1, later.2)

structure Accepted (ping : Ping) (round : Round) : Prop where
  length : (pllen ping.family round.content : Int) = round.len
  noOptions : ping.family = .inet → ipv4HeaderLength round.content = 20
  checksum : ping.family = .inet6 → checksumField round.content ≠ 0

/-- Another result is one that the loop skips, at `now` after the previous
one. -/
structure Skipped (ping : Ping) (began now : Int) (buf : List Byte)
    (round : Round) : Prop where
  datagram : 0 < round.len ∨ round.wouldBlock = true
  /-- What is left in the buffer has another protocol, or it is a datagram with a
  valid checksum and another sequence number. -/
  other : protocolMatches ping.family (round.received buf) = false ∨
    (passesCheck ping.family (round.received buf) round.len = some true ∧
      plseqnr ping.family (round.received buf) ≠ ping.seqnr)
  onTime : now = began ∨ ping.waitms ≤ round.now - now
  ordered : now ≤ round.now
  bounded : round.now - began < 0x80000000

/-- Each result is the awaited reply, and accepted, or another one, and skipped. -/
def WaitsWell (ping : Ping) (began : Int) : List Round → List Byte → Int → Prop
  | [], _, _ => True
  | round :: rest, buf, now =>
    0 < round.poll → ¬(round.len < 0 ∧ round.wouldBlock = false) →
      if isAwaited ping round.content then
        Accepted ping round
      else
        Skipped ping began now buf round ∧ WaitsWell ping began rest (round.received buf) round.now

theorem toInt32_of_lt {value : Int} (least : -0x80000000 ≤ value)
    (most : value < 0x80000000) : toInt32 value = value := by
  rw [toInt32, Int.bmod_def]
  omega

variable {pos : Nat}

theorem byteAt_append_left {front : List Byte} (tail : List Byte)
    (within : pos < front.length) : byteAt (front ++ tail) pos = byteAt front pos := by
  rw [byteAt, getD_append_left tail within]
  rfl

theorem getD_of_byteAt {buf : List Byte} {byte : Byte}
    (same : byteAt buf pos = byte.toNat) : buf.getD pos 0 = byte :=
  UInt8.toNat_inj.mp same

theorem accepted_of_isIpv4Reply {seqnr : Nat} {datagram stale : List Byte}
    (awaited : isIpv4Reply seqnr datagram = true)
    (length : pllen .inet datagram = datagram.length)
    (noOptions : ipv4HeaderLength datagram = 20) :
    protocolMatches .inet (datagram ++ stale) = true ∧
      passesCheck .inet (datagram ++ stale) datagram.length = some true ∧
      plseqnr .inet (datagram ++ stale) = seqnr % 0x100 ∧
      pllen .inet (datagram ++ stale) = datagram.length ∧
      28 ≤ datagram.length := by
  obtain ⟨-, -, enough, -, protocol, -, checksum, sequence⟩ :=
    of_decide_eq_true awaited
  rw [noOptions, length] at enough checksum
  rw [noOptions] at sequence
  change 20 + 8 ≤ datagram.length at enough
  have low : byteAt datagram (20 + 7) < 0x100 :=
    (datagram.getD (20 + 7) 0).toNat_lt
  refine ⟨?_, ?_, ?_, ?_, enough⟩
  · rw [protocolMatches, byteAt_append_left stale (by omega), protocol]
    rfl
  · have isLength : intLength ((datagram.length : Int) - 20) = datagram.length - 20 := by
      rw [intLength, if_pos (by omega)]
      omega
    rw [passesCheck, isLength, checkIcs_eq (by rw [length_append]; omega),
      slice_append_left stale (by omega), checksum]
    rfl
  · rw [plseqnr, Family.headerLen, byteAt_append_left stale (by omega)]
    omega
  · rw [← length, pllen, pllen, byteAt_append_left stale (by omega),
      byteAt_append_left stale (by omega)]

theorem accepted_of_isIpv6Reply {seqnr : Nat} {datagram stale : List Byte}
    (awaited : isIpv6Reply seqnr datagram = true)
    (length : pllen .inet6 datagram = datagram.length)
    (checksum : checksumField datagram ≠ 0) :
    protocolMatches .inet6 (datagram ++ stale) = true ∧
      passesCheck .inet6 (datagram ++ stale) datagram.length = some true ∧
      plseqnr .inet6 (datagram ++ stale) = seqnr % 0x100 ∧
      pllen .inet6 (datagram ++ stale) = datagram.length ∧
      48 ≤ datagram.length := by
  obtain ⟨-, enough, -, protocol, -, verifies, sequence⟩ :=
    of_decide_eq_true awaited
  rw [length] at enough
  change 40 + 8 ≤ datagram.length at enough
  have low : byteAt datagram (40 + 7) < 0x100 :=
    (datagram.getD (40 + 7) 0).toNat_lt
  change byteAt datagram 46 * 0x100 + byteAt datagram (40 + 7) = seqnr at sequence
  have isLength : datagram.length = 40 + ipv6PayloadLength datagram := by
    rw [← length]
    exact Nat.add_comm _ _
  have isDatagram : IsIcmp6Datagram datagram :=
    ⟨getD_of_byteAt protocol, isLength, by omega⟩
  have isPassed := passesIcmp6Check_of_datagram isDatagram stale verifies checksum
  refine ⟨?_, isPassed, ?_, ?_, enough⟩
  · rw [protocolMatches, byteAt_append_left stale (by omega), protocol]
    rfl
  · rw [plseqnr, Family.headerLen, byteAt_append_left stale (by omega)]
    omega
  · rw [← length, pllen, pllen, byteAt_append_left stale (by omega),
      byteAt_append_left stale (by omega)]

variable {ping : Ping} {round : Round}

theorem accepted_reports (buf : List Byte) (small : ping.seqnr < 0x100)
    (awaited : isAwaited ping round.content = true)
    (accepted : Accepted ping round) :
    0 < round.len ∧ protocolMatches ping.family (round.received buf) = true ∧
      parseReply ping (round.received buf) round.len = .reply := by
  have contentLength := round.content_length
  have length := accepted.length
  have isLength : pllen ping.family round.content = round.content.length := by
    omega
  have isLen : round.len = round.content.length := by omega
  obtain ⟨family, seqnr, waitms⟩ := ping
  have accepts : protocolMatches family (round.received buf) = true ∧
      passesCheck family (round.received buf) round.content.length = some true ∧
      plseqnr family (round.received buf) = seqnr % 0x100 ∧
      pllen family (round.received buf) = round.content.length ∧
      0 < round.content.length := by
    cases family with
    | inet =>
      obtain ⟨protocol, checks, sequence, total, enough⟩ :=
        @accepted_of_isIpv4Reply seqnr round.content
          (buf.drop round.content.length) awaited isLength
          (accepted.noOptions rfl)
      exact ⟨protocol, checks, sequence, total, by omega⟩
    | inet6 =>
      obtain ⟨protocol, checks, sequence, total, enough⟩ :=
        @accepted_of_isIpv6Reply seqnr round.content
          (buf.drop round.content.length) awaited isLength
          (accepted.checksum rfl)
      exact ⟨protocol, checks, sequence, total, by omega⟩
  obtain ⟨protocol, checks, sequence, total, positive⟩ := accepts
  refine ⟨by omega, protocol, ?_⟩
  rw [Nat.mod_eq_of_lt small] at sequence
  rw [parseReply, isLen]
  dsimp only
  rw [if_neg (not_not_intro checks), if_neg (not_not_intro sequence),
    if_neg (not_not_intro (congrArg Nat.cast total))]

theorem seen_polled (timeout : Int) (result : WaitResult) :
    (result.polled timeout).seen = (timeout :: result.seen.1, result.seen.2) :=
  rfl

def Agrees (timeout remaining : Int) : Prop :=
  timeout = remaining ∨ (timeout ≤ 0 ∧ remaining ≤ 0)

theorem agrees_of_skipped {began now : Int} {buf : List Byte}
    (waitms : ping.waitms < 0x80000000) (since : began ≤ now)
    (skipped : Skipped ping began now buf round) :
    Agrees (toInt32 (ping.waitms - toInt32 (round.now - now)))
      (ping.waitms - (round.now - began)) := by
  have ordered := skipped.ordered
  have bounded := skipped.bounded
  have elapsed : toInt32 (round.now - now) = round.now - now :=
    toInt32_of_lt (by omega) (by omega)
  rw [elapsed, toInt32_of_lt (by omega) (by omega)]
  rcases skipped.onTime with rfl | isOver
  · exact .inl rfl
  · exact .inr ⟨by omega, by omega⟩

/-- By induction on the results: a result that is skipped is skipped by both, and
the time that remains stays the same. -/
theorem receiveLoop_seen {began : Int} (waitms : ping.waitms < 0x80000000)
    (small : ping.seqnr < 0x100) :
    ∀ {rounds : List Round} {wait : Wait}, began ≤ wait.startT →
      Agrees wait.timeout (ping.waitms - (wait.startT - began)) →
      WaitsWell ping began rounds wait.buf wait.startT →
      (receiveLoop ping rounds wait).seen = awaitReply ping began rounds wait.startT := by
  intro rounds
  induction rounds with
  | nil =>
    intro wait _ agrees _
    unfold Agrees at agrees
    rw [receiveLoop, awaitReply]
    by_cases isOver : (ping.waitms : Int) - (wait.startT - began) ≤ 0
    · rw [if_pos (by omega), if_pos isOver]
      rfl
    · rw [if_neg (by omega), if_neg isOver, ← agrees.resolve_right (by omega)]
      rfl
  | cons round rest ih =>
    intro wait since agrees well
    unfold Agrees at agrees
    rw [receiveLoop, awaitReply]
    dsimp only
    by_cases isOver : (ping.waitms : Int) - (wait.startT - began) ≤ 0
    · rw [if_pos (by omega), if_pos isOver]
      rfl
    rw [if_neg (by omega), if_neg isOver]
    have sameTimeout := agrees.resolve_right (by omega)
    rw [← sameTimeout]
    by_cases polled : round.poll ≤ 0
    · rw [if_pos polled, if_pos polled]
      rfl
    rw [if_neg polled, if_neg polled]
    by_cases failed : round.len < 0 ∧ round.wouldBlock = false
    · have isFailed : round.failed := ⟨by omega, failed.2⟩
      rw [if_pos isFailed, if_pos failed]
      rfl
    rw [if_neg failed]
    have condition := well (by omega) failed
    by_cases awaited : isAwaited ping round.content = true
    · rw [if_pos awaited] at condition ⊢
      obtain ⟨positive, protocol, reports⟩ :=
        accepted_reports wait.buf small awaited condition
      have notFailed : ¬round.failed := fun isFailed => by
        have least := isFailed.1
        omega
      rw [if_neg notFailed, if_neg (by rw [protocol]; decide), reports]
      rfl
    rw [if_neg awaited] at condition ⊢
    obtain ⟨skipped, remaining⟩ := condition
    have notFailed : ¬round.failed := by
      rintro ⟨least, notBlocked⟩
      rcases skipped.datagram with positive | blocked
      · omega
      · rw [blocked] at notBlocked
        cases notBlocked
    have later := agrees_of_skipped waitms since skipped
    have ordered := skipped.ordered
    have continues := @ih
      { buf := round.received wait.buf
        startT := round.now
        timeout := toInt32 (ping.waitms -
          toInt32 (round.now - wait.startT)) }
      (by dsimp only; omega) later remaining
    rw [if_neg notFailed]
    by_cases protocol : protocolMatches ping.family (round.received wait.buf) = false
    · rw [if_pos protocol, seen_polled, continues]
    · rw [if_neg protocol]
      obtain ⟨checks, sequence⟩ :=
        skipped.other.resolve_left protocol
      have verdict : parseReply ping (round.received wait.buf) round.len = .next := by
        rw [parseReply, if_neg (not_not_intro checks), if_pos sequence]
      rw [verdict]
      dsimp only
      by_cases remains : 0 < toInt32 (ping.waitms - toInt32 (round.now - wait.startT))
      · rw [if_pos remains, seen_polled, continues]
      · rw [if_neg remains, ← continues]
        have isLate : ∀ rounds : List Round, receiveLoop ping rounds
            { buf := round.received wait.buf
              startT := round.now
              timeout := toInt32 (ping.waitms -
                toInt32 (round.now - wait.startT)) } = .noReply := by
          intro rounds
          cases rounds with
          | nil | cons _ _ => rw [receiveLoop, if_pos (by dsimp only; omega)]
        rw [isLate]
        rfl

/-- The results of `zsock_recv` before the timeout. -/
def arrivals (ping : Ping) (began : Int) : List Round → Int → List Round
  | [], _ => []
  | round :: rest, now =>
    if ping.waitms - (now - began) ≤ 0 ∨ round.poll ≤ 0 ∨
        (round.len < 0 ∧ round.wouldBlock = false) then
      []
    else
      round :: arrivals ping began rest round.now

theorem awaitReply_eq_reply_iff (ping : Ping) (began : Int) (rounds : List Round) :
    ∀ now, (awaitReply ping began rounds now).2 = .reply ↔
      ∃ round ∈ arrivals ping began rounds now, isAwaited ping round.content = true := by
  induction rounds with
  | nil =>
    intro now
    rw [awaitReply, arrivals]
    constructor
    · intro answered
      split at answered <;> cases answered
    · rintro ⟨_, member, _⟩
      cases member
  | cons round rest ih =>
    intro now
    rw [awaitReply, arrivals]
    dsimp only
    by_cases ends : (ping.waitms : Int) - (now - began) ≤ 0 ∨
        round.poll ≤ 0 ∨ (round.len < 0 ∧ round.wouldBlock = false)
    · rw [if_pos ends]
      constructor
      · intro answered
        rcases ends with isOver | noPoll | failed
        · rw [if_pos isOver] at answered
          cases answered
        · rw [if_pos noPoll] at answered
          split at answered <;> cases answered
        · rw [if_pos failed] at answered
          split at answered
          · cases answered
          · split at answered <;> cases answered
      · rintro ⟨_, member, _⟩
        cases member
    · obtain ⟨remains, others⟩ := not_or.mp ends
      obtain ⟨polled, received⟩ := not_or.mp others
      rw [if_neg ends, if_neg remains, if_neg polled, if_neg received]
      by_cases awaited : isAwaited ping round.content = true
      · rw [if_pos awaited]
        exact ⟨fun _ => ⟨round, mem_cons_self .., awaited⟩, fun _ => rfl⟩
      · rw [if_neg awaited, ih round.now]
        constructor
        · rintro ⟨later, member, isLater⟩
          exact ⟨later, mem_cons_of_mem _ member, isLater⟩
        · rintro ⟨later, member, isLater⟩
          rcases mem_cons.mp member with rfl | inRest
          · exact absurd isLater awaited
          · exact ⟨later, inRest, isLater⟩

/-- If every result that is waited for is an accepted reply or is one that the
loop skips, the loop polls with the time that remains, and reports a reply exactly
if one arrives before the timeout. -/
theorem waitForReply_selects {ping : Ping} {began sent : Int}
    {request : List Byte} {rounds : List Round}
    (waitms : ping.waitms < 0x80000000) (small : ping.seqnr < 0x100)
    (ordered : began ≤ sent) (bounded : sent - began < 0x80000000)
    (well : WaitsWell ping began rounds request sent) :
    (waitForReply ping request began sent rounds).seen = awaitReply ping began rounds sent ∧
      ((waitForReply ping request began sent rounds).answer = .reply ↔
        ∃ round ∈ arrivals ping began rounds sent, isAwaited ping round.content = true) := by
  have elapsed : toInt32 (sent - began) = sent - began :=
    toInt32_of_lt (by omega) (by omega)
  have remaining : toInt32 (ping.waitms - toInt32 (sent - began)) =
      ping.waitms - (sent - began) := by
    rw [elapsed, toInt32_of_lt (by omega) (by omega)]
  have same : (waitForReply ping request began sent rounds).seen =
      awaitReply ping began rounds sent := by
    rw [waitForReply, remaining]
    exact receiveLoop_seen waitms small ordered (.inl rfl) well
  refine ⟨same, ?_⟩
  rw [← awaitReply_eq_reply_iff, ← same]
  exact Iff.rfl

theorem setip_untouched {other : Nat} (ipaddr : UInt32)
    (apart : pos < other ∨ other + 4 ≤ pos) : Untouched pos (setip other ipaddr) := by
  apply Untouched.run
  intro write member
  simp only [mem_cons, not_mem_nil, or_false] at member
  rcases member with rfl | rfl | rfl | rfl
  · exact store8_untouched _ (by omega)
  · exact store8_untouched _ (by omega)
  · exact store8_untouched _ (by omega)
  · exact store8_untouched _ (by omega)

theorem store16_untouched {other : Nat} (value : Nat) (apart : pos < other ∨ other + 2 ≤ pos) :
    Untouched pos (store16 other value) := by
  rw [store16_eq_runWrites]
  apply Untouched.run
  intro write member
  simp only [mem_cons, not_mem_nil, or_false] at member
  rcases member with rfl | rfl
  · exact store8_untouched _ (by omega)
  · exact store8_untouched _ (by omega)

variable {len : Nat}

theorem calcIcs_untouched {start hcsPos : Nat}
    (apart : pos < start + hcsPos ∨ start + hcsPos + 2 ≤ pos) :
    Untouched pos (calcIcs start len hcsPos) := by
  intro buf after ran
  obtain ⟨cleared, isCleared, rest⟩ := bind_eq_some_iff.mp ran
  obtain ⟨hcs, _, isStored⟩ := bind_eq_some_iff.mp rest
  rw [store16_untouched _ apart cleared after isStored,
    store16_untouched _ apart buf cleared isCleared]

theorem ipv4Request_bytes {src dest : UInt32} {len_lt : len < 0x10000}
    {seqnr : Nat} {request : List Byte}
    (generated : generateRequest ⟨.inet src dest, len, len_lt⟩ seqnr = some request) :
    request.length = icmpDefaultLinkMtu ∧ request.getD 9 0 = 1 ∧
      request.getD 20 0 = 8 ∧ request.getD 21 0 = 0 := by
  obtain ⟨total, isRun⟩ : ∃ total, runWrites (ipv4Writes src dest total seqnr)
      (replicate icmpDefaultLinkMtu 0) = some request := ⟨_, generated⟩
  have payload : ∀ pos, pos < 22 → ∀ write ∈ [store8 27 seqnr,
      fillPayload 20 seqnr (total - 20 - 8) 8,
      calcIcs 20 (intLength ((total : Int) - 20)) 2], Untouched pos write := by
    intro pos small write member
    simp only [mem_cons, not_mem_nil, or_false] at member
    rcases member with rfl | rfl | rfl
    · exact store8_untouched _ (by omega)
    · exact fillPayload_untouched _ _ (by omega)
    · exact calcIcs_untouched (.inl (by omega))
  have addresses : ∀ pos, pos ≠ 20 → 20 ≤ pos ∨ pos = 9 →
      ∀ write ∈ [setip 12 src, setip 16 dest, calcIcs 0 20 10,
        store8 20 icmpEchoReq], Untouched pos write := by
    intro pos notType outside write member
    simp only [mem_cons, not_mem_nil, or_false] at member
    rcases member with rfl | rfl | rfl | rfl
    · exact setip_untouched _ (by omega)
    · exact setip_untouched _ (by omega)
    · exact calcIcs_untouched (by omega)
    · exact store8_untouched _ (Ne.symm notType)
  refine ⟨?_, ?_, ?_, ?_⟩
  · refine (KeepsLength.run ?_ _ _ isRun).trans length_replicate
    intro write member
    rcases mem_append.mp member with inHeader | behind
    · exact (ipv4Header_inside src dest total seqnr write inHeader).keeps
    · simp only [mem_cons, not_mem_nil, or_false] at behind
      rcases behind with rfl | rfl
      · exact fillPayload_keepsLength _ _ _ _
      · exact calcIcs_keepsLength _ _ _
  · apply @runWrites_stored [store8 0 (4 * 0x10 + 20 / 4),
      store8 2 (total / 0x100), store8 3 total, store8 8 64] _ 9 ipprotoIcmp
      _ _ ?_ isRun
    intro write member
    rcases mem_append.mp (by exact member : write ∈ [setip 12 src,
      setip 16 dest, calcIcs 0 20 10, store8 20 icmpEchoReq] ++ _) with
      inHeader | behind
    · exact addresses 9 (by decide) (by decide) write inHeader
    · exact payload 9 (by decide) write behind
  · exact @runWrites_stored [store8 0 (4 * 0x10 + 20 / 4),
      store8 2 (total / 0x100), store8 3 total, store8 8 64,
      store8 9 ipprotoIcmp, setip 12 src, setip 16 dest, calcIcs 0 20 10]
      _ 20 icmpEchoReq _ _ (payload 20 (by decide)) isRun
  · have untouched : Untouched 21 (runWrites (ipv4Writes src dest total seqnr)) := by
      apply Untouched.run
      intro write member
      rcases mem_append.mp (by exact member : write ∈
        [store8 0 (4 * 0x10 + 20 / 4), store8 2 (total / 0x100),
          store8 3 total, store8 8 64, store8 9 ipprotoIcmp] ++
        ([setip 12 src, setip 16 dest, calcIcs 0 20 10,
          store8 20 icmpEchoReq] ++ _)) with start | later
      · simp only [mem_cons, not_mem_nil, or_false] at start
        rcases start with rfl | rfl | rfl | rfl | rfl
        · exact store8_untouched _ (by decide)
        · exact store8_untouched _ (by decide)
        · exact store8_untouched _ (by decide)
        · exact store8_untouched _ (by decide)
        · exact store8_untouched _ (by decide)
      · rcases mem_append.mp later with inHeader | behind
        · exact addresses 21 (by decide) (by decide) write inHeader
        · exact payload 21 (by decide) write behind
    rw [getD_eq_getElem?_getD, untouched _ _ isRun, icmpDefaultLinkMtu, getElem?_replicate]
    rfl

/-- Without a datagram the request in the buffer is taken for one, and three of
its bytes fail the checksum test. -/
theorem parseReply_request {src dest : UInt32} {len_lt : len < 0x10000}
    {seqnr : Nat} {request : List Byte}
    (generated : generateRequest ⟨.inet src dest, len, len_lt⟩ seqnr =
      some request) (waitms : Nat) :
    protocolMatches .inet request = true ∧
      parseReply ⟨.inet, seqnr, waitms⟩ request (-1) = .giveUp := by
  obtain ⟨length, protocol, type, code⟩ := ipv4Request_bytes generated
  change request.length = 1500 at length
  have isType : request[20] = 8 := by
    rw [getD_eq_getElem?_getD, getElem?_eq_getElem (by omega)] at type
    exact type
  have isCode : request[21] = 0 := by
    rw [getD_eq_getElem?_getD, getElem?_eq_getElem (by omega)] at code
    exact code
  have total : wordTotal (slice request 20 3) = 8 + request[22].toNat := by
    have even : (slice request 20 2).length % 2 = 0 := by
      rw [length_slice (by omega)]
    rw [slice_add request 20 2 1, wordTotal_append _ even,
      slice_two (by omega), slice_one (by omega)]
    have first : wordTotal [request[20], request[20 + 1]] = 8 := by
      rw [isType, isCode]
      rfl
    rw [first]
    rfl
  have small := request[22].toNat_lt
  have complement := internetChecksum_spec (slice request 20 3)
  refine ⟨?_, ?_⟩
  · rw [protocolMatches, byteAt, protocol]
    rfl
  · have isThree : intLength (-1 - 20) = 3 := by decide
    have checks : passesCheck .inet request (-1) =
        some (internetChecksum (slice request 20 3) == 0) := by
      rw [passesCheck, isThree, checkIcs_eq (by omega)]
      rfl
    have fails : (internetChecksum (slice request 20 3) == 0) = false := by
      rw [beq_eq_false_iff_ne]
      omega
    rw [parseReply, checks, fails]
    exact if_pos (by decide)

theorem receiveLoop_of_giveUp {rest : List Round} {wait : Wait}
    (remains : ¬wait.timeout ≤ 0) (polled : ¬round.poll ≤ 0)
    (received : ¬round.failed)
    (protocol : protocolMatches ping.family (round.received wait.buf) = true)
    (givesUp : parseReply ping (round.received wait.buf) round.len = .giveUp) :
    receiveLoop ping (round :: rest) wait = WaitResult.noReply.polled wait.timeout := by
  rw [receiveLoop, if_neg remains, if_neg polled]
  dsimp only
  rw [if_neg received, if_neg (by rw [protocol]; decide), givesUp]

/-- A result without a datagram, directly behind the request. -/
def blockedRound (now : Int) : Round where
  poll := 1
  len := -1
  wouldBlock := true
  content := []
  now := now
  content_length := rfl
  len_le := by decide

def datagramRound (datagram : List Byte) (small : datagram.length ≤ 1500) (now : Int) : Round where
  poll := 1
  len := datagram.length
  wouldBlock := false
  content := datagram
  now := now
  content_length := rfl
  len_le := Int.ofNat_le.mpr small

def shortReply : List Byte :=
  [0x45, 0, 0, 28, 0, 0, 0, 0, 64, 1, 0, 0, 8, 8, 8, 8, 10, 0, 0, 1] ++
    [0, 0, 0xFF, 0xFE, 0, 0, 0, 1]

def udpDatagram : List Byte :=
  [0x45, 0, 0, 28, 0, 0, 0, 0, 64, 17, 0, 0, 8, 8, 8, 8, 10, 0, 0, 1] ++ [0, 53, 0, 53, 0, 8, 0, 0]

/-- The reply to the next request. -/
def laterReply : List Byte :=
  [0x45, 0, 0, 28, 0, 0, 0, 0, 64, 1, 0, 0, 8, 8, 8, 8, 10, 0, 0, 1] ++
    [0, 0, 0xFF, 0xFD, 0, 0, 0, 2]

theorem udpDatagram_ignored (now : Int) (buf : List Byte) :
    protocolMatches .inet ((datagramRound udpDatagram (by decide) now).received buf) = false :=
  rfl

/-- A UDP datagram and the reply to another request are ignored in the buffer of a
request, before the reply. -/
theorem waitForReply_selects_second :
    let ping : Ping := ⟨.inet, 1, 1000⟩
    let rounds := [datagramRound udpDatagram (by decide) 0,
      datagramRound laterReply (by decide) 0, datagramRound shortReply (by decide) 5]
    ∃ request, generateRequest ⟨.inet 0x0100000A 0x08080808, 32, by decide⟩ 1 = some request ∧
      (waitForReply ping request 0 0 rounds).seen = awaitReply ping 0 rounds 0 ∧
      awaitReply ping 0 rounds 0 = ([1000, 1000, 1000], .reply) ∧
      ((waitForReply ping request 0 0 rounds).answer = .reply ↔
        ∃ round ∈ arrivals ping 0 rounds 0, isAwaited ping round.content = true) := by
  intro ping rounds
  obtain ⟨request, generated⟩ := isSome_iff_exists.mp
    ((ipv4_isSome_iff 0x0100000A 0x08080808 (by decide : 32 < 0x10000) 1).mpr (by decide))
  have well : WaitsWell ping 0 rounds request 0 := by
    intro _ _
    rw [if_neg (by decide)]
    refine ⟨⟨.inl (by decide), .inl (udpDatagram_ignored 0 request), .inl rfl,
      by decide, by decide⟩, ?_⟩
    intro _ _
    rw [if_neg (by decide)]
    obtain ⟨-, checks, sequence, -⟩ := @accepted_of_isIpv4Reply 2 laterReply
      (((datagramRound udpDatagram (by decide) 0).received request).drop 28)
      (by decide) (by decide) (by decide)
    refine ⟨⟨.inl (by decide), .inr ⟨checks, ?_⟩, .inl rfl, by decide, by decide⟩, ?_⟩
    · exact fun same => absurd (sequence.symm.trans same) (by decide)
    · intro _ _
      rw [if_pos (by decide)]
      exact ⟨by decide, fun _ => by decide, by rintro ⟨⟩⟩
  obtain ⟨same, replies⟩ := @waitForReply_selects ping 0 0 request rounds (by decide)
    (by decide) (by decide) (by decide) well
  exact ⟨request, generated, same, by decide, replies⟩

/-- A missing datagram ends the wait, although the reply is the next result. -/
theorem missing_datagram_ends_wait :
    ∃ request, generateRequest ⟨.inet 0x0100000A 0x08080808, 0, by decide⟩ 1 = some request ∧
      (waitForReply ⟨.inet, 1, 1000⟩ request 0 0
        [blockedRound 0, datagramRound shortReply (by decide) 5]).answer = .noReply ∧
      (awaitReply ⟨.inet, 1, 1000⟩ 0
        [blockedRound 0, datagramRound shortReply (by decide) 5] 0).2 = .reply ∧
      ∃ round ∈ arrivals ⟨.inet, 1, 1000⟩ 0
        [blockedRound 0, datagramRound shortReply (by decide) 5] 0,
          isAwaited ⟨.inet, 1, 1000⟩ round.content = true := by
  obtain ⟨request, generated⟩ := isSome_iff_exists.mp
    ((ipv4_isSome_iff 0x0100000A 0x08080808 (by decide : 0 < 0x10000) 1).mpr (by decide))
  obtain ⟨protocol, givesUp⟩ := parseReply_request generated 1000
  refine ⟨request, generated, ?_, by decide, _, mem_cons_of_mem _ (mem_cons_self ..), by decide⟩
  have isTimeout : ¬toInt32 ((1000 : Nat) - toInt32 (0 - 0)) ≤ 0 := by decide
  rw [waitForReply, receiveLoop_of_giveUp isTimeout (by decide) (by decide) protocol givesUp]
  rfl

end SerialModem.Icmp
