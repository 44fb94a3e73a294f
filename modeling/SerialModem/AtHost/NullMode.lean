import SerialModem.AtHost.OpenSession
import SerialModem.AtHost.RawSession

/-!
# The terminator in null mode

In null mode the context waits for the terminator with a counter of its own,
which starts at zero when the context is moved there.  For a terminator of
equal characters, such as the default `+++`, that counter is exact on the bytes
received since; what was received before the move is not taken into account.
-/

namespace SerialModem.AtHost

open Library Library.PatternMatching List

variable {cfg : Config} {env : Environment}

/-- The bytes received since the move to null mode end what was received in the
session, and the counter holds their longest partial terminator. -/
structure Discarding (cfg : Config) (state : DataState × Session) : Prop where
  dataMode : state.1.atMode = .dataMode → state.2.dropped = none
  nullMode : state.1.atMode = .nullMode →
    ∃ initial post, state.2.received = initial ++ post ∧ state.2.dropped = some post ∧
      Longest cfg.terminator post state.1.nullMatchCount.toNat ∧
      state.1.nullMatchCount.toNat < cfg.terminator.length

theorem Discarding.atCommandMode
    {state : DataState × Session} (mode : state.1.atMode = .atCommandMode) :
    Discarding cfg state where
  dataMode isData := by simp [mode] at isData
  nullMode isNull := by simp [mode] at isNull

variable {before after : DataState × Session}

theorem Discarding.move {live : Prop} (wellFormed : WellFormed cfg live before)
    (discarding : Discarding cfg before)
    (move : Move cfg False live before after) : Discarding cfg after := by
  cases move with
  | entry entry =>
    cases entry with
    | timeLimit data record limit =>
      exact ⟨discarding.dataMode, discarding.nullMode⟩
    | enter data record ring handler dataLen limit _ _ _ _ _ =>
      exact ⟨fun _ => rfl, fun isNull => by cases isNull⟩
  | ring data record ring consumed _ _ =>
    exact ⟨discarding.dataMode, discarding.nullMode⟩
  | exitHandler data record ring consumed result _ left _ =>
    refine ⟨fun isData => (by cases isData), fun _ => ?_⟩
    cases mode : data.atMode with
    | atCommandMode => exact absurd mode left
    | dataMode =>
      have none := discarding.dataMode mode
      have zero := (wellFormed.counters (by simp [mode])).1
      have pattern := length_pos_iff.mpr cfg.terminator_ne
      change data.nullMatchCount = 0 at zero
      change record.dropped = _ at none
      refine ⟨record.received, [], by simp, by simp [none], ?_, ?_⟩
      · simpa [DataState.exited, zero] using longest_nil cfg.terminator
      · simpa [DataState.exited, zero] using pattern
    | nullMode =>
      obtain ⟨initial, post, received, dropped, longest, short⟩ :=
        discarding.nullMode mode
      change record.dropped = some post at dropped
      exact ⟨initial, post, received, by simp [dropped], longest, short⟩
  | clear data record _ _ _ _ => exact Discarding.atCommandMode rfl
  | quitStrMatch data record count _ | dataLen data record count _ =>
    exact ⟨discarding.dataMode, discarding.nullMode⟩

theorem DataState.discard_counted (cfg : Config) (data : DataState) (byte : Byte) :
    let count := nextCount cfg dropFallback data.nullMatchCount byte
    (count.toNat = cfg.terminator.length ∧ (data.discard cfg byte).atMode = .atCommandMode) ∨
      (count.toNat ≠ cfg.terminator.length ∧ (data.discard cfg byte).atMode = data.atMode ∧
        (data.discard cfg byte).nullMatchCount = count) := by
  have pattern := length_pos_iff.mpr cfg.terminator_ne
  unfold nextCount DataState.discard
  by_cases continues : cfg.terminator[data.nullMatchCount.toNat]? = some byte
  · simp only [if_pos continues]
    by_cases complete : (data.nullMatchCount + 1).toNat = cfg.terminator.length
    · rw [if_pos complete]
      exact .inl ⟨complete, rfl⟩
    · rw [if_neg complete]
      exact .inr ⟨complete, rfl, rfl⟩
  · rw [if_neg continues, if_neg continues]
    refine .inr ⟨?_, rfl, rfl⟩
    have zero : (UInt8.ofNat (dropFallback byte)).toNat = 0 := rfl
    omega

theorem nullMatchCount_advance (constant : Constant cfg.terminator)
    (short : cfg.terminator.length ≤ 255)
    {data : DataState} (byte : Byte)
    (unfinished : data.nullMatchCount.toNat < cfg.terminator.length) :
    let count := advance cfg.terminator (restartFallback cfg.terminator)
      data.nullMatchCount.toNat byte
    (count = cfg.terminator.length ∧ (data.discard cfg byte).atMode = .atCommandMode) ∨
      (count < cfg.terminator.length ∧ (data.discard cfg byte).atMode = data.atMode ∧
        (data.discard cfg byte).nullMatchCount.toNat = count) := by
  intro count
  have same : (nextCount cfg dropFallback data.nullMatchCount byte).toNat =
      count := by
    rw [nextCount_toNat dropFallback_le_one short unfinished]
    exact (constant.advance_eq unfinished byte).symm
  rcases data.discard_counted cfg byte with
    ⟨complete, left⟩ | ⟨incomplete, stays, counted⟩
  · exact .inl ⟨same ▸ complete, left⟩
  · have below : count < cfg.terminator.length := by
      have bound := foldl_advance_le cfg.terminator (restartFallback_le_one cfg.terminator) [byte]
        data.nullMatchCount.toNat
      simp only [foldl_cons, foldl_nil, length_singleton] at bound
      rw [same] at incomplete
      change count ≤ _ at bound
      omega
    exact .inr ⟨below, stays, by rw [counted, same]⟩

theorem Discarding.evolves (constant : Constant cfg.terminator)
    (short : cfg.terminator.length ≤ 255)
    {live : Prop}
    (evolves : Evolves cfg False live before after)
    (wellFormed : WellFormed cfg live before)
    (discarding : Discarding cfg before) : Discarding cfg after := by
  have both := evolves.invariant (motive := fun state => WellFormed cfg live state ∧
      Discarding cfg state) ⟨wellFormed, discarding⟩ ?_ ?_ ?_
  · exact both.2
  · intro first second move holds
    exact ⟨move.wellFormed holds.1, Discarding.move holds.1 holds.2 move⟩
  · intro data record byte notNull holds
    refine ⟨⟨holds.1.ring, holds.1.left, holds.1.counters⟩, ?_, ?_⟩
    · intro isData
      have none := holds.2.dataMode isData
      change record.dropped = _ at none
      simp [Session.receive, none]
    · intro isNull
      exact absurd isNull notNull
  · intro data record byte _ mode holds
    refine ⟨DataState.discard_wellFormed mode holds.1, ?_⟩
    obtain ⟨initial, post, received, dropped, longest, unfinished⟩ :=
      holds.2.nullMode mode
    change record.received = _ at received
    change record.dropped = _ at dropped
    have stepped := longest.advance constant.restartSafe unfinished byte
    rcases nullMatchCount_advance constant short byte unfinished with
      ⟨_, left⟩ | ⟨inside, stays, counted⟩
    · exact Discarding.atCommandMode left
    · refine ⟨fun isData => ?_, fun _ => ⟨initial, post ++ [byte], ?_, ?_, ?_, ?_⟩⟩
      · change (data.discard cfg byte).atMode = _ at isData
        rw [stays, mode] at isData
        cases isData
      · simp [Session.receive, received]
      · simp [Session.receive, dropped]
      · rw [counted]
        exact stepped
      · rw [counted]
        exact inside

theorem reachable_discarding (constant : Constant cfg.terminator)
    (short : cfg.terminator.length ≤ 255)
    {host : Host} (reachable : ReachableState cfg env host) (c : CtxId) :
    Discarding cfg (view c host) :=
  reachable_views (motive := fun _ state => Discarding cfg state)
    (fun _ => Discarding.atCommandMode rfl)
    (fun _ _ _ evolves wellFormed =>
      Discarding.evolves constant short evolves wellFormed)
    reachable c

theorem step_receiveByte_nullMode {host : Host} {c : CtxId} {pipe : PipeId} {byte : Byte}
    {rest : List Byte}
    (live : c ∈ host.instanceList) (running : host.running = .rx c pipe)
    (waiting : host.pipeRx pipe = byte :: rest)
    (mode : (host.data c).atMode = .nullMode) :
    ∃ after, step cfg env .receiveByte host = some after ∧
      after.data c = (host.data c).discard cfg byte := by
  have settled : Settled cfg c ((host.data c).discard cfg byte)
      (takeByte c byte (setPipeRx pipe rest host))
      (nullHandler cfg env c byte (takeByte c byte (setPipeRx pipe rest host))) := by
    have same : (takeByte c byte (setPipeRx pipe rest host)).data c =
        host.data c := takeByte_data byte _ c
    rw [← same]
    exact nullHandler_settled ((takeByte_frame c byte _).instanceList.symm ▸ live) (same ▸ mode)
  refine ⟨finishByte c pipe (nullHandler cfg env c byte
    (takeByte c byte (setPipeRx pipe rest host))), ?_, ?_⟩
  · rw [step_receiveByte live running waiting, mode]
    rfl
  · rw [finishByte_data, settled.data]

/-- A terminator that spans the move to null mode is recognised exactly when
all of its characters are received after the move. -/
theorem terminator_across_switch_iff (plusPlusPlus : cfg.terminator = [43, 43, 43])
    {host : Host} (reachable : ReachableState cfg env host)
    {c : CtxId} {pipe : PipeId} {byte : Byte} {rest : List Byte}
    (running : host.running = .rx c pipe)
    (waiting : host.pipeRx pipe = byte :: rest)
    (mode : (host.data c).atMode = .nullMode)
    (spans : cfg.terminator <:+ (session c host.history).received ++ [byte]) :
    ∃ post after, (session c host.history).dropped = some post ∧
      post <:+ (session c host.history).received ∧
      step cfg env .receiveByte host = some after ∧
      ((after.data c).atMode = .atCommandMode ↔ 2 ≤ post.length) := by
  have constant : Constant cfg.terminator := by
    rw [plusPlusPlus]
    decide
  have length : cfg.terminator.length = 3 := by
    rw [plusPlusPlus]
    rfl
  obtain ⟨initial, post, received, dropped, longest, unfinished⟩ :=
    (reachable_discarding constant (by omega) reachable c).nullMode mode
  obtain ⟨live, _⟩ := reachable_rx reachable _ _ running
  obtain ⟨after, taken, data⟩ :=
    step_receiveByte_nullMode live running waiting mode
  change (session c host.history).received = initial ++ post at received
  refine ⟨post, after, dropped, ⟨initial, received.symm⟩, taken, ?_⟩
  have stepped := (longest.advance constant.restartSafe unfinished byte).finished_iff
  have within : cfg.terminator <:+ post ++ [byte] ↔ 2 ≤ post.length := by
    constructor
    · intro inside
      have short := inside.length_le
      rw [length, length_append, length_singleton] at short
      omega
    · intro enough
      rw [received, append_assoc] at spans
      apply suffix_of_suffix_length_le spans (suffix_append initial (post ++ [byte]))
      rw [length, length_append, length_singleton]
      omega
  rw [data, ← within, ← stepped]
  rcases nullMatchCount_advance constant (by omega) byte unfinished with
    ⟨finished, left⟩ | ⟨inside, stays, _⟩
  · exact ⟨fun _ => finished, fun _ => left⟩
  · constructor
    · intro left
      change ((view c host).1.discard cfg byte).atMode = _ at left
      rw [stays] at left
      exact absurd (mode.symm.trans left) (by simp)
    · intro finished
      exact absurd finished (Nat.ne_of_lt inside)

def switchActions (initial post : List Byte) : List Action :=
  openingActions 0 ++ [.pipeReceive 0 initial] ++ (initial.map fun _ => .receiveByte) ++
    [.receiveEnd, .exitDatamodeHandler 0 (-1), .pipeReceive 0 post, .dispatch, .dispatch]

/-- A terminator that arrives in null mode from its first character on is honoured. -/
theorem terminator_after_switch_honoured : ∃ host after,
      ReachableState plusConfig (sessionEnv 0 consumeAll) host ∧
      (host.data 0).atMode = .nullMode ∧
      session 0 host.history = ⟨0, [97, 43, 43], [], some [43, 43]⟩ ∧
      step plusConfig (sessionEnv 0 consumeAll) .receiveByte host = some after ∧
      (after.data 0).atMode = .atCommandMode := by
  obtain ⟨host, reachable, observed⟩ := exists_run plusConfig (sessionEnv 0 consumeAll) [0]
    (switchActions [97] [43, 43, 43] ++ [.receiveByte, .receiveByte])
    (fun host => (host.running, host.pipeRx 0, (host.data 0).atMode, session 0 host.history))
    (.rx 0 0, [43], .nullMode, ⟨0, [97, 43, 43], [], some [43, 43]⟩)
    (by decide)
  simp only [Prod.mk.injEq] at observed
  obtain ⟨running, waiting, mode, record⟩ := observed
  obtain ⟨post, after, dropped, _, taken, honoured⟩ :=
    terminator_across_switch_iff rfl reachable running waiting mode (by rw [record]; decide)
  rw [record] at dropped
  cases dropped
  exact ⟨host, after, reachable, mode, record, taken, honoured.mpr (by decide)⟩

/-- One `+` before the move and two after it are not recognised. -/
theorem terminator_lost_across_switch : ∃ host after,
      ReachableState plusConfig (sessionEnv 0 consumeAll) host ∧
      host.running = .rx 0 0 ∧ host.pipeRx 0 = [43] ∧
      (host.data 0).atMode = .nullMode ∧
      session 0 host.history = ⟨0, [43, 43], [], some [43]⟩ ∧
      plusConfig.terminator <:+ (session 0 host.history).received ++ [43] ∧
      step plusConfig (sessionEnv 0 consumeAll) .receiveByte host = some after ∧
      (after.data 0).atMode ≠ .atCommandMode := by
  obtain ⟨host, reachable, observed⟩ := exists_run plusConfig (sessionEnv 0 consumeAll) [0]
    (switchActions [43] [43, 43] ++ [.receiveByte])
    (fun host => (host.running, host.pipeRx 0, (host.data 0).atMode, session 0 host.history,
      (step plusConfig (sessionEnv 0 consumeAll) .receiveByte host).map
        fun after => (after.data 0).atMode))
    (.rx 0 0, [43], .nullMode, ⟨0, [43, 43], [], some [43]⟩, some .nullMode)
    (by decide)
  simp only [Prod.mk.injEq] at observed
  obtain ⟨running, waiting, mode, record, next⟩ := observed
  obtain ⟨after, taken, stays⟩ := Option.map_eq_some_iff.mp next
  refine ⟨host, after, reachable, running, waiting, mode, record, ?_, taken, by simp [stays]⟩
  rw [record]
  decide

end SerialModem.AtHost
