import SerialModem.AtHost.NullMode

/-!
# The two terminator matchers

`raw_rx_handler` and `null_handler` look for the terminator with a counter of
eight bits each.  After a refused byte the first tries the byte as the start of
the terminator, the second forgets it.  Which terminators they find in every
stream, and on which of them they agree, is decided by the borders of the
terminator.
-/

namespace SerialModem.AtHost

open Library Library.PatternMatching List Option

def feed (handle : Byte → Host → Option Host) (mode : OperationMode)
    (c : CtxId) : List Byte → Host → Option Host
  | [], host => if (host.data c).atMode = mode then some host else none
  | byte :: rest, host =>
    if (host.data c).atMode = mode then
      (handle byte host).bind (feed handle mode c rest)
    else
      none

theorem feed_append_singleton
    (handle : Byte → Host → Option Host) (mode : OperationMode) (c : CtxId)
    (byte : Byte) :
    ∀ (stream : List Byte) (host : Host), feed handle mode c (stream ++ [byte]) host =
        (feed handle mode c stream host).bind fun before =>
          (handle byte before).bind (feed handle mode c [])
  | [], host => by
    simp only [nil_append, feed]
    split <;> rfl
  | first :: rest, host => by
    simp only [cons_append, feed]
    split
    · cases handle first host with
      | none => rfl
      | some after => exact feed_append_singleton handle mode c byte rest after
    · rfl

def feedRaw (cfg : Config) (env : Environment) (c : CtxId) : List Byte → Host → Option Host :=
  feed (rawRxHandler cfg env c) .dataMode c

def feedNull (cfg : Config) (env : Environment) (c : CtxId) : List Byte → Host → Option Host :=
  feed (fun byte host => some (nullHandler cfg env c byte host)) .nullMode c

/-- Data mode without a requested length, with nothing matched yet. -/
structure RawStart (cfg : Config) (c : CtxId) (host : Host) : Prop
    extends Attended cfg c host where
  unlimited : (host.data c).dataLen = 0
  unmatched : (host.data c).quitStrMatch = 0

structure NullStart (c : CtxId) (host : Host) : Prop where
  live : c ∈ host.instanceList
  mode : (host.data c).atMode = .nullMode
  unmatched : (host.data c).nullMatchCount = 0

section Feeding

variable {cfg : Config} {env : Environment} {c : CtxId}

variable {host : Host}

theorem RawStart.counted (start : RawStart cfg c host) : Counted cfg c 0 host := by
  refine ⟨⟨start.toAttended, ?_⟩, start.unlimited, start.unmatched⟩
  rw [start.unmatched]
  exact length_pos_iff.mpr cfg.terminator_ne

theorem feed_nil {handle : Byte → Host → Option Host} {mode : OperationMode}
    {after : Host} (fed : feed handle mode c [] host = some after) :
    after = host ∧ (host.data c).atMode = mode := by
  simp only [feed] at fed
  split at fed
  · rename_i same
    exact ⟨(Option.some.inj fed).symm, same⟩
  · cases fed

variable {before : Host}

theorem feedRaw_counted {stream : List Byte} (start : RawStart cfg c host)
    (fed : feedRaw cfg env c stream host = some before) :
    ∃ count, Counted cfg c count before ∧ (cfg.terminator.length ≤ 255 → count.toNat =
            scan cfg.terminator (restartFallback cfg.terminator) stream ∧
          Unfinished cfg.terminator (restartFallback cfg.terminator) stream) := by
  induction stream using reverseRecOn generalizing before with
  | nil =>
    obtain ⟨rfl, _⟩ := feed_nil fed
    exact ⟨0, start.counted, fun _ =>
      ⟨rfl, Unfinished.nil cfg.terminator_ne _⟩⟩
  | append_singleton stream byte ih =>
    rw [feedRaw, feed_append_singleton] at fed
    obtain ⟨middle, fedMiddle, rest⟩ := bind_eq_some_iff.mp fed
    obtain ⟨after, handled, kept⟩ := bind_eq_some_iff.mp rest
    obtain ⟨rfl, mode⟩ := feed_nil kept
    obtain ⟨count, counted, scanned⟩ := ih fedMiddle
    have stepped := rawRxHandler_counted counted.session counted.unlimited handled
    rw [counted.counted] at stepped
    rcases stepped with ⟨_, left⟩ | ⟨below, dropped | again⟩
    · rw [mode] at left
      cases left
    · rw [mode] at dropped
      cases dropped
    · refine ⟨_, again, fun short => ?_⟩
      obtain ⟨same, unfinished⟩ := scanned short
      have matched := counted.session.matched
      rw [counted.counted] at matched
      have next := nextCount_toNat (restartFallback_le_one cfg.terminator) short matched byte
      rw [same, ← scan_append_singleton] at next
      rw [next] at below
      exact ⟨next, unfinished_append_singleton_iff.mpr ⟨unfinished, below⟩⟩

theorem Counted.leaves_iff {count : UInt8} {byte : Byte} {after : Host}
    (counted : Counted cfg c count before)
    (handled : rawRxHandler cfg env c byte before = some after) :
    (after.data c).atMode = .atCommandMode ↔
      (nextCount cfg (restartFallback cfg.terminator) count byte).toNat =
        cfg.terminator.length := by
  have stepped := rawRxHandler_counted counted.session counted.unlimited handled
  rw [counted.counted] at stepped
  rcases stepped with ⟨complete, left⟩ | ⟨below, dropped | again⟩
  · exact ⟨fun _ => complete, fun _ => left⟩
  · have stays : (after.data c).atMode ≠ .atCommandMode := by simp [dropped]
    exact ⟨fun left => absurd left stays, fun complete => absurd complete (Nat.ne_of_lt below)⟩
  · exact ⟨fun left => absurd left again.session.left,
      fun complete => absurd complete (Nat.ne_of_lt below)⟩

theorem Counted.handled (consuming : Consuming env c) {count : UInt8}
    (counted : Counted cfg c count before) (byte : Byte) :
    ∃ after, rawRxHandler cfg env c byte before = some after ∧
      (after.data c).atMode ≠ .nullMode := by
  obtain ⟨after, handled, continued⟩ := rawRxHandler_unlimited consuming
    counted.session counted.unlimited byte
  refine ⟨after, handled, ?_⟩
  rcases continued with ⟨_, _, ⟨ring, _, _, becomes⟩, _⟩ | ⟨_, progress⟩
  · have data : after.data c = _ := congrArg Prod.fst becomes.own
    rw [data]
    simp [DataState.cleared]
  · rw [(progress.attended counted.session.toAttended).mode]
    simp

/-- A consuming handler stays in data mode through every stream that does not
complete the counter. -/
theorem feedRaw_exists (consuming : Consuming env c) {stream : List Byte}
    (start : RawStart cfg c host)
    (incomplete : 256 ≤ cfg.terminator.length ∨ (cfg.terminator.length ≤ 255 ∧
        Unfinished cfg.terminator (restartFallback cfg.terminator) stream)) :
    ∃ before, feedRaw cfg env c stream host = some before := by
  induction stream using reverseRecOn with
  | nil => exact ⟨host, by simp [feedRaw, feed, start.mode]⟩
  | append_singleton stream byte ih =>
    obtain ⟨middle, fed⟩ := ih (incomplete.imp_right fun ⟨short, unfinished⟩ =>
        ⟨short, (unfinished_append_singleton_iff.mp unfinished).1⟩)
    obtain ⟨count, counted, scanned⟩ := feedRaw_counted start fed
    obtain ⟨after, handled, notNull⟩ := counted.handled consuming byte
    have stays : (after.data c).atMode = .dataMode := by
      have notLeft : (after.data c).atMode ≠ .atCommandMode := by
        rw [Ne, counted.leaves_iff handled]
        rcases incomplete with long | ⟨short, unfinished⟩
        · exact Nat.ne_of_lt (nextCount_of_long _ long count byte)
        · have matched := counted.session.matched
          rw [counted.counted] at matched
          rw [nextCount_toNat (restartFallback_le_one cfg.terminator) short
            matched, (scanned short).1, ← scan_append_singleton]
          exact Nat.ne_of_lt (unfinished _ (prefix_refl _))
      cases mode : (after.data c).atMode with
      | atCommandMode => exact absurd mode notLeft
      | dataMode => rfl
      | nullMode => exact absurd mode notNull
    refine ⟨after, ?_⟩
    unfold feedRaw at fed ⊢
    rw [feed_append_singleton, fed, bind_some, handled, bind_some]
    simp [feed, stays]

end Feeding

/-- In every stream that is received in data mode the context returns to
AT-command mode with the first byte that completes an occurrence of the
terminator, and with no other byte; unless the handler fails, it is in data
mode until then. -/
def DetectsTerminator (cfg : Config) : Prop :=
  ∀ (env : Environment) (c : CtxId) (host before : Host) (stream : List Byte) (byte : Byte),
    RawStart cfg c host → feedRaw cfg env c stream host = some before →
    (∀ after, rawRxHandler cfg env c byte before = some after →
      ((after.data c).atMode = .atCommandMode ↔ cfg.terminator <:+ stream ++ [byte])) ∧
    (Consuming env c → ∃ after, rawRxHandler cfg env c byte before = some after ∧
        (after.data c).atMode ≠ .nullMode)

theorem exists_rawStart (cfg : Config) : ∃ host, RawStart cfg 0 host := by
  obtain ⟨host, reachable, running, _, current, data, _⟩ :=
    open_session cfg 0 consumeAll (fun _ _ => True) (fun _ _ _ => trivial)
  obtain ⟨live, _⟩ := reachable_rx reachable _ _ running
  refine ⟨host, ⟨live, current, ?_, ?_, ?_⟩, ?_, ?_⟩ <;> rw [data] <;> rfl

variable {cfg : Config}

theorem detectsTerminator_of_restartSafe (short : cfg.terminator.length ≤ 255)
    (safe : RestartSafe cfg.terminator) : DetectsTerminator cfg := by
  intro env c host before stream byte start fed
  obtain ⟨count, counted, scanned⟩ := feedRaw_counted start fed
  refine ⟨fun after handled => ?_, fun consuming =>
    counted.handled consuming byte⟩
  obtain ⟨same, unfinished⟩ := scanned short
  have matched := counted.session.matched
  rw [counted.counted] at matched
  rw [counted.leaves_iff handled,
    nextCount_toNat (restartFallback_le_one cfg.terminator) short matched,
    same, ← scan_append_singleton]
  exact scan_finishes_iff_suffix safe unfinished byte

theorem not_detectsTerminator (stream : List Byte) (occurs : cfg.terminator <:+ stream)
    (incomplete : 256 ≤ cfg.terminator.length ∨ (cfg.terminator.length ≤ 255 ∧
        Unfinished cfg.terminator (restartFallback cfg.terminator) stream)) :
    ¬ DetectsTerminator cfg := by
  intro detects
  let env := sessionEnv 0 consumeAll
  have consuming : Consuming env 0 := consumeAll_consuming 0 0
  have nonempty : stream ≠ [] := by
    rintro rfl
    exact cfg.terminator_ne (suffix_nil.mp occurs)
  obtain ⟨initial, last, rfl⟩ : ∃ initial last, stream = initial ++ [last] :=
    ⟨stream.dropLast, stream.getLast nonempty, (dropLast_append_getLast nonempty).symm⟩
  obtain ⟨host, start⟩ := exists_rawStart cfg
  obtain ⟨after, fed⟩ := feedRaw_exists consuming start incomplete
  unfold feedRaw at fed
  rw [feed_append_singleton] at fed
  obtain ⟨before, fedBefore, rest⟩ := bind_eq_some_iff.mp fed
  obtain ⟨handled, ran, kept⟩ := bind_eq_some_iff.mp rest
  obtain ⟨rfl, mode⟩ := feed_nil kept
  have left := ((detects env 0 host before initial last start fedBefore).1 _ ran).mpr occurs
  rw [mode] at left
  cases left

/-- The matcher of data mode is exact for the terminators that its counter can
hold and that lose nothing by a restart. -/
theorem detectsTerminator_iff (cfg : Config) : DetectsTerminator cfg ↔
      cfg.terminator.length ≤ 255 ∧ RestartSafe cfg.terminator := by
  constructor
  · intro detects
    have short : cfg.terminator.length ≤ 255 := by
      by_contra long
      exact not_detectsTerminator _ (suffix_refl _) (.inl (by omega)) detects
    refine ⟨short, ?_⟩
    by_contra unsafeTerminator
    obtain ⟨stream, occurs, unfinished⟩ :=
      exists_missed_occurrence unsafeTerminator
    exact not_detectsTerminator stream occurs (.inr ⟨short, unfinished⟩) detects
  · rintro ⟨short, safe⟩
    exact detectsTerminator_of_restartSafe short safe

/-- The terminator `aab` is missed at the end of `aaab`. -/
theorem aab_missed : ¬ DetectsTerminator (defaultConfig [97, 97, 98] (by decide)) :=
  not_detectsTerminator [97, 97, 97, 98] ⟨[97], rfl⟩ (.inr ⟨by decide, by decide⟩)

section Agreement

variable {cfg : Config} {env : Environment} {c : CtxId}

structure NullCounted (cfg : Config) (c : CtxId) (count : UInt8)
    (host : Host) : Prop where
  live : c ∈ host.instanceList
  mode : (host.data c).atMode = .nullMode
  counted : (host.data c).nullMatchCount = count
  matched : count.toNat < cfg.terminator.length

theorem nextCount_le {fallback : Byte → Nat} (bounded : ∀ byte, fallback byte ≤ 1)
    {count : UInt8} (matched : count.toNat < cfg.terminator.length)
    (byte : Byte) :
    (nextCount cfg fallback count byte).toNat ≤ cfg.terminator.length := by
  unfold nextCount
  split
  · rw [UInt8.toNat_add, UInt8.toNat_one]
    omega
  · have small := bounded byte
    rw [UInt8.toNat_ofNat']
    omega

theorem NullCounted.next
    (env : Environment) {count : UInt8} {host : Host} (counted : NullCounted cfg c count host)
    (byte : Byte) :
    let next := nextCount cfg dropFallback count byte
    (next.toNat = cfg.terminator.length ∧
        ((nullHandler cfg env c byte host).data c).atMode = .atCommandMode) ∨
      (next.toNat < cfg.terminator.length ∧
        NullCounted cfg c next (nullHandler cfg env c byte host)) := by
  intro next
  have settled : Settled cfg c ((host.data c).discard cfg byte) host
      (nullHandler cfg env c byte host) :=
    nullHandler_settled counted.live counted.mode
  have stepped := (host.data c).discard_counted cfg byte
  rw [← settled.data, counted.counted] at stepped
  rcases stepped with complete | ⟨incomplete, stays, counts⟩
  · exact .inl complete
  · have below : next.toNat < cfg.terminator.length :=
      Nat.lt_of_le_of_ne (nextCount_le dropFallback_le_one counted.matched byte) incomplete
    refine .inr ⟨below, ?_, stays.trans counted.mode, counts, below⟩
    rw [settled.frame.instanceList]
    exact counted.live

variable {host : Host}

theorem NullCounted.leaves_iff {count : UInt8}
    (counted : NullCounted cfg c count host) (byte : Byte) :
    ((nullHandler cfg env c byte host).data c).atMode = .atCommandMode ↔
      (nextCount cfg dropFallback count byte).toNat = cfg.terminator.length := by
  rcases counted.next env byte with
    ⟨complete, left⟩ | ⟨below, again⟩
  · exact ⟨fun _ => complete, fun _ => left⟩
  · refine ⟨fun left => ?_, fun complete => ?_⟩
    · rw [again.mode] at left
      cases left
    · exact absurd complete (Nat.ne_of_lt below)

theorem feedNull_counted {stream : List Byte} {before : Host} (start : NullStart c host)
    (fed : feedNull cfg env c stream host = some before) :
    ∃ count, NullCounted cfg c count before ∧ (cfg.terminator.length ≤ 255 →
        count.toNat = scan cfg.terminator dropFallback stream) := by
  induction stream using reverseRecOn generalizing before with
  | nil =>
    obtain ⟨rfl, mode⟩ := feed_nil fed
    exact ⟨0, ⟨start.live, mode, start.unmatched,
      length_pos_iff.mpr cfg.terminator_ne⟩, fun _ => rfl⟩
  | append_singleton stream byte ih =>
    rw [feedNull, feed_append_singleton] at fed
    obtain ⟨middle, fedMiddle, rest⟩ := bind_eq_some_iff.mp fed
    rw [bind_some] at rest
    obtain ⟨rfl, mode⟩ := feed_nil rest
    obtain ⟨count, counted, scanned⟩ := ih fedMiddle
    rcases counted.next env byte with ⟨_, left⟩ | ⟨_, again⟩
    · rw [mode] at left
      cases left
    · refine ⟨_, again, fun short => ?_⟩
      rw [nextCount_toNat dropFallback_le_one short counted.matched,
        scanned short, ← scan_append_singleton]

theorem feedNull_exists (env : Environment) {stream : List Byte}
    (start : NullStart c host) (short : cfg.terminator.length ≤ 255)
    (unfinished : Unfinished cfg.terminator dropFallback stream) :
    ∃ before, feedNull cfg env c stream host = some before := by
  induction stream using reverseRecOn with
  | nil => exact ⟨host, by simp [feedNull, feed, start.mode]⟩
  | append_singleton stream byte ih =>
    obtain ⟨before, last⟩ := unfinished_append_singleton_iff.mp unfinished
    obtain ⟨middle, fed⟩ := ih before
    obtain ⟨count, counted, scanned⟩ := feedNull_counted start fed
    rw [scan_append_singleton, ← scanned short,
      ← nextCount_toNat dropFallback_le_one short counted.matched] at last
    rcases counted.next env byte with
      ⟨complete, _⟩ | ⟨_, again⟩
    · exact absurd complete (Nat.ne_of_lt last)
    · refine ⟨nullHandler cfg env c byte middle, ?_⟩
      unfold feedNull at fed ⊢
      rw [feed_append_singleton, fed, bind_some, bind_some]
      simp [feed, again.mode]

end Agreement

/-- On every stream the two matchers return the context to AT-command mode
with the same byte, or neither of them does. -/
def MatchersAgree (cfg : Config) : Prop :=
  ∀ (env : Environment) (c : CtxId) (rawHost nullHost : Host) (stream : List Byte) (byte : Byte)
    (rawBefore rawAfter nullBefore : Host),
    RawStart cfg c rawHost → NullStart c nullHost →
    feedRaw cfg env c stream rawHost = some rawBefore →
    feedNull cfg env c stream nullHost = some nullBefore →
    rawRxHandler cfg env c byte rawBefore = some rawAfter →
    ((rawAfter.data c).atMode = .atCommandMode ↔
      ((nullHandler cfg env c byte nullBefore).data c).atMode = .atCommandMode)

theorem scan_eq_of_constant {pattern : List Byte} (constant : Constant pattern) {stream : List Byte}
    (unfinished : Unfinished pattern (restartFallback pattern) stream) :
    scan pattern (restartFallback pattern) stream = scan pattern dropFallback stream := by
  induction stream using reverseRecOn with
  | nil => rfl
  | append_singleton stream byte ih =>
    obtain ⟨before, _⟩ := unfinished_append_singleton_iff.mp unfinished
    rw [scan_append_singleton, scan_append_singleton, ← ih before]
    exact constant.advance_eq (before stream (prefix_refl stream)) byte

theorem matchersAgree_of_constant (constant : Constant cfg.terminator)
    (short : cfg.terminator.length ≤ 255) : MatchersAgree cfg := by
  intro env c rawHost nullHost stream byte rawBefore rawAfter nullBefore
    rawStart nullStart rawFed nullFed handled
  obtain ⟨count, counted, scanned⟩ := feedRaw_counted rawStart rawFed
  obtain ⟨nullCount, nullCounted, nullScanned⟩ :=
    feedNull_counted nullStart nullFed
  obtain ⟨same, unfinished⟩ := scanned short
  have matched := counted.session.matched
  rw [counted.counted] at matched
  have equal : nullCount.toNat = count.toNat := by
    rw [nullScanned short, same, scan_eq_of_constant constant unfinished]
  rw [counted.leaves_iff handled, nullCounted.leaves_iff byte,
    nextCount_toNat (restartFallback_le_one cfg.terminator) short matched,
    nextCount_toNat dropFallback_le_one short nullCounted.matched, equal,
    constant.advance_eq matched]

theorem matchersAgree_of_long (long : 256 ≤ cfg.terminator.length) : MatchersAgree cfg := by
  intro env c rawHost nullHost stream byte rawBefore rawAfter nullBefore
    rawStart nullStart rawFed nullFed handled
  obtain ⟨count, counted, _⟩ := feedRaw_counted rawStart rawFed
  obtain ⟨nullCount, nullCounted, _⟩ := feedNull_counted nullStart nullFed
  rw [counted.leaves_iff handled, nullCounted.leaves_iff byte]
  have rawBelow := nextCount_of_long (restartFallback cfg.terminator) long count byte
  have nullBelow := nextCount_of_long dropFallback long nullCount byte
  omega

theorem exists_nullStart : ∃ host, NullStart 0 host := by
  let data : DataState := { (Ctx.init none).data with atMode := .nullMode }
  refine ⟨(freshHost [0]).setData 0 data, ?_, ?_, ?_⟩
  · simp [Host.setData, Host.setCtx, freshHost]
  · rw [Host.data_setData_self]
  · rw [Host.data_setData_self]
    rfl

/-- A stream that completes the first counter with its last byte and never the
second one separates the matchers. -/
theorem not_matchersAgree (stream : List Byte) (byte : Byte) (short : cfg.terminator.length ≤ 255)
    (unfinished : Unfinished cfg.terminator (restartFallback cfg.terminator) stream)
    (finishes : scan cfg.terminator (restartFallback cfg.terminator)
      (stream ++ [byte]) = cfg.terminator.length)
    (never : Unfinished cfg.terminator dropFallback (stream ++ [byte])) :
    ¬ MatchersAgree cfg := by
  intro agree
  let env := sessionEnv 0 consumeAll
  have consuming : Consuming env 0 := consumeAll_consuming 0 0
  obtain ⟨nullUnfinished, nullLast⟩ := unfinished_append_singleton_iff.mp never
  obtain ⟨rawHost, rawStart⟩ := exists_rawStart cfg
  obtain ⟨nullHost, nullStart⟩ := exists_nullStart
  obtain ⟨rawBefore, rawFed⟩ :=
    feedRaw_exists consuming rawStart (.inr ⟨short, unfinished⟩)
  obtain ⟨nullBefore, nullFed⟩ :=
    feedNull_exists env nullStart short nullUnfinished
  obtain ⟨count, counted, scanned⟩ := feedRaw_counted rawStart rawFed
  obtain ⟨nullCount, nullCounted, nullScanned⟩ :=
    feedNull_counted nullStart nullFed
  obtain ⟨rawAfter, handled, _⟩ := counted.handled consuming byte
  have matched := counted.session.matched
  rw [counted.counted] at matched
  have same := agree env 0 rawHost nullHost stream byte rawBefore rawAfter
    nullBefore rawStart nullStart rawFed nullFed handled
  rw [counted.leaves_iff handled, nullCounted.leaves_iff byte,
    nextCount_toNat (restartFallback_le_one cfg.terminator) short matched,
    nextCount_toNat dropFallback_le_one short nullCounted.matched,
    (scanned short).1, nullScanned short, ← scan_append_singleton,
    ← scan_append_singleton] at same
  exact absurd (same.mp finishes) (Nat.ne_of_lt nullLast)

/-- The matchers agree on terminators of one character, repeated, and on those
that neither of them can find. -/
theorem matchersAgree_iff (cfg : Config) : MatchersAgree cfg ↔
      Constant cfg.terminator ∨ 256 ≤ cfg.terminator.length := by
  by_cases long : 256 ≤ cfg.terminator.length
  · exact ⟨fun _ => .inr long, fun _ => matchersAgree_of_long long⟩
  · have short : cfg.terminator.length ≤ 255 := by omega
    constructor
    · intro agree
      left
      by_contra varied
      obtain ⟨stream, byte, unfinished, finishes, never⟩ :=
        exists_separating_stream varied
      exact not_matchersAgree stream byte short unfinished finishes never agree
    · rintro (constant | impossible)
      · exact matchersAgree_of_constant constant short
      · exact absurd impossible long

/-- On the stream `aab` only the first matcher finds the terminator `ab`. -/
theorem ab_separates : ¬ MatchersAgree (defaultConfig [97, 98] (by decide)) :=
  not_matchersAgree [97, 97] 98 (by decide) (by decide) (by decide) (by decide)

end SerialModem.AtHost
