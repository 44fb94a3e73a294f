import SerialModem.AtClient.Response
import SerialModem.Socket.Strings

/-!
# Detecting a response

The buffer is searched as a whole after each chunk, for one result after the
other.  Which result is found therefore depends on what else has arrived by the
end of the chunk that completes the first one.
-/

namespace SerialModem.AtClient

open Library List Option
open AtHost (Byte ascii crlfStr)
open Socket (strstr cString strstr_eq_some_iff)

/-- A final result stands in a text, from `start` to `stop`.  Where a text
follows the result, the line goes on to its end. -/
def ResultLine (text : List Byte) (response : AtCmdState × List Byte) (start stop : Nat) : Prop :=
  OccursAt response.2 text start ∧ ((response.1.isWhole = true ∧ stop = start + response.2.length) ∨
      (response.1.isWhole = false ∧
        ∃ index, FirstAt crlfStr (text.drop (start + response.2.length)) index ∧
          stop = start + response.2.length + index + 2))

/-- The result line of `response` ends at `stop`, and no other result line ends earlier. -/
structure Earliest (text : List Byte) (response : AtCmdState × List Byte)
    (stop : Nat) : Prop where
  known : response ∈ atResponses
  line : ∃ start, ResultLine text response start stop
  first : ∀ other ∈ atResponses, ∀ start otherStop,
    ResultLine text other start otherStop → stop ≤ otherStop

def searchedBefore (response : AtCmdState × List Byte) : List (AtCmdState × List Byte) :=
  atResponses.takeWhile fun other => decide (other ≠ response)

/-- What makes `response_handler` give `at_rsp`: a final result with the text
that is taken for the response, or an overflow. -/
def ClientEvent.result? : ClientEvent → Option (Option (AtCmdState × List Byte))
  | .answered state text _ => some (some (state, text))
  | .overflowed _ => some none
  | _ => none

def reported (size : Nat) (chunks : List (List Byte)) (client : ClientState) :
    Option (Option (AtCmdState × List Byte)) :=
  ((receiveChunks size chunks client).log.drop client.log.length).findSome? ClientEvent.result?

/-- Where the chunk ends that brings the position `stop`. -/
def reachedBy (stop : Nat) : Nat → List (List Byte) → Nat
  | arrived, [] => arrived
  | arrived, chunk :: chunks =>
    if stop ≤ arrived + chunk.length then
      arrived + chunk.length
    else
      reachedBy stop (arrived + chunk.length) chunks

variable {text : List Byte} {response : AtCmdState × List Byte} {start stop bound : Nat}

theorem needle_nonempty (known : response ∈ atResponses) : response.2 ≠ [] := by
  have all : ∀ response ∈ atResponses, response.2 ≠ [] := by decide
  exact all response known

theorem ResultLine.within (line : ResultLine text response start stop)
    (known : response ∈ atResponses) : stop ≤ text.length := by
  obtain ⟨occurs, whole | ⟨_, index, ends, same⟩⟩ := line
  · rw [whole.2]
    exact occurs.within (needle_nonempty known)
  · have inside := ends.1.within (by decide)
    rw [length_drop, show crlfStr.length = 2 from rfl] at inside
    omega

theorem resultLine_take_iff (within : stop ≤ bound) :
    ResultLine (text.take bound) response start stop ↔ ResultLine text response start stop := by
  have lineEnd (index : Nat) (same : stop = start + response.2.length + index + 2) :
      FirstAt crlfStr ((text.take bound).drop (start + response.2.length)) index ↔
        FirstAt crlfStr (text.drop (start + response.2.length)) index := by
    rw [drop_take]
    apply firstAt_take_iff
    rw [show crlfStr.length = 2 from rfl]
    omega
  constructor
  · rintro ⟨occurs, whole | ⟨unended, index, ends, same⟩⟩
    · exact ⟨(occursAt_take_iff (by omega)).mp occurs, .inl whole⟩
    · exact ⟨(occursAt_take_iff (by omega)).mp occurs,
        .inr ⟨unended, index, (lineEnd index same).mp ends, same⟩⟩
  · rintro ⟨occurs, whole | ⟨unended, index, ends, same⟩⟩
    · exact ⟨(occursAt_take_iff (by omega)).mpr occurs, .inl whole⟩
    · exact ⟨(occursAt_take_iff (by omega)).mpr occurs,
        .inr ⟨unended, index, (lineEnd index same).mpr ends, same⟩⟩

theorem cString_eq_take (data : List Byte) : cString data = data.take (cString data).length :=
  prefix_iff_eq_take.mp (List.takeWhile_prefix _)

theorem zero_notMem_cString (data : List Byte) : (0 : Byte) ∉ cString data := by
  intro member
  have kept := mem_takeWhile_imp member
  exact absurd kept (by decide)

variable {data : List Byte}

theorem cString_split (clean : (0 : Byte) ∉ data.take stop) :
    cString data = data.take stop ++ cString (data.drop stop) := by
  have kept : ∀ byte ∈ data.take stop, (byte != 0) = true := by
    intro byte member
    rw [bne_iff_ne]
    rintro rfl
    exact clean member
  rw [Socket.cString, Socket.cString, ← takeWhile_append_of_pos kept, take_append_drop]

theorem le_length_cString_iff (inside : stop ≤ data.length) :
    stop ≤ (cString data).length ↔ (0 : Byte) ∉ data.take stop := by
  constructor
  · intro reached member
    apply zero_notMem_cString data
    rw [cString_eq_take data]
    exact (take_subset_take_left data reached) member
  · intro clean
    rw [cString_split clean, length_append, length_take]
    omega

theorem cString_drop {skipped : Nat} (reached : skipped ≤ (cString data).length) :
    cString (data.drop skipped) = (cString data).drop skipped := by
  have shorter : (cString data).length ≤ data.length :=
    (takeWhile_sublist _).length_le
  have clean := (le_length_cString_iff (by omega)).mp reached
  have front : (data.take skipped).length = skipped := by
    rw [length_take]
    omega
  rw [cString_split clean, drop_left' front]

theorem resultLine_visible_iff (known : response ∈ atResponses) :
    ResultLine (cString (text.take bound)) response start stop ↔
      ResultLine text response start stop ∧ stop ≤ bound ∧ (0 : Byte) ∉ text.take stop := by
  have visible : cString (text.take bound) =
      text.take (min (cString (text.take bound)).length bound) := by
    rw [← take_take]
    exact cString_eq_take _
  have shorter : (cString (text.take bound)).length ≤ bound :=
    (takeWhile_sublist _).length_le.trans (length_take_le _ _)
  constructor
  · intro line
    have reached := line.within known
    have inside : stop ≤ (text.take bound).length :=
      reached.trans (takeWhile_sublist _).length_le
    have clean := (le_length_cString_iff inside).mp reached
    rw [take_take, Nat.min_eq_left (by omega)] at clean
    rw [visible, resultLine_take_iff (by omega)] at line
    exact ⟨line, by omega, clean⟩
  · rintro ⟨line, within, clean⟩
    have inside := line.within known
    have reached : stop ≤ (cString (text.take bound)).length := by
      apply (le_length_cString_iff _).mpr
      · rwa [take_take, Nat.min_eq_left within]
      · rw [length_take]
        omega
    rw [visible, resultLine_take_iff (by omega)]
    exact line

theorem findResponse_sound (known : response ∈ atResponses)
    (found : findResponse data response = some (start, stop)) :
    ResultLine (cString data) response start stop := by
  rw [findResponse, bind_eq_some_iff] at found
  obtain ⟨first, firstFound, found⟩ := found
  have occurs := (strstr_eq_some_iff (needle_nonempty known)).mp firstFound
  have inside := occurs.1.within (needle_nonempty known)
  cases whole : response.1.isWhole with
  | true =>
    simp only [whole, if_true, Option.some.injEq, Prod.mk.injEq] at found
    obtain ⟨rfl, rfl⟩ := found
    exact ⟨occurs.1, .inl ⟨whole, rfl⟩⟩
  | false =>
    simp only [whole, Bool.false_eq_true, if_false, map_eq_some_iff, Prod.mk.injEq] at found
    obtain ⟨index, endFound, rfl, rfl⟩ := found
    rw [strnstr, cString_drop inside, strstr_eq_some_iff (by decide)] at endFound
    exact ⟨occurs.1, .inr ⟨whole, index, endFound, rfl⟩⟩

theorem findResponse_complete (known : response ∈ atResponses)
    (line : ResultLine (cString data) response start stop) :
    ∃ first ending, findResponse data response = some (first, ending) ∧ ending ≤ stop := by
  obtain ⟨occurs, ends⟩ := line
  obtain ⟨first, notLater, isFirst⟩ := occurs.exists_first
  have inside := isFirst.1.within (needle_nonempty known)
  have firstFound : strnstr data response.2 = some first :=
    (strstr_eq_some_iff (needle_nonempty known)).mpr isFirst
  rw [findResponse, firstFound, bind_some]
  rcases ends with ⟨whole, same⟩ | ⟨unended, index, ends, same⟩
  · refine ⟨first, first + response.2.length, ?_, by omega⟩
    simp only [whole, if_true]
  · have later : OccursAt crlfStr ((cString data).drop (first + response.2.length))
        (start - first + index) := by
      rw [occursAt_drop_iff, show first + response.2.length +
        (start - first + index) = start + response.2.length + index by omega]
      exact occursAt_drop_iff.mp ends.1
    obtain ⟨firstEnd, notLaterEnd, isFirstEnd⟩ := later.exists_first
    have endFound : strnstr (data.drop (first + response.2.length)) crlfStr = some firstEnd := by
      rw [strnstr, cString_drop inside, strstr_eq_some_iff (by decide)]
      exact isFirstEnd
    refine ⟨first, first + response.2.length + firstEnd + 2, ?_, by omega⟩
    simp only [unended, Bool.false_eq_true, if_false, endFound, map_some]

/-- A response that is searched for before this one stands up to `bound` only behind a NUL. -/
def Undisturbed (text : List Byte) (response : AtCmdState × List Byte) (bound : Nat) : Prop :=
  ∀ other ∈ searchedBefore response, ∀ start stop,
    ResultLine text other start stop → stop ≤ bound → (0 : Byte) ∈ text.take stop

theorem atResponses_split (known : response ∈ atResponses) :
    ∃ later, atResponses = searchedBefore response ++ response :: later := by
  have all : ∀ response ∈ atResponses, atResponses = searchedBefore response ++ response ::
        atResponses.drop ((searchedBefore response).length + 1) := by
    decide
  exact ⟨_, all response known⟩

variable {other : AtCmdState × List Byte}

theorem searchedBefore_known (before : other ∈ searchedBefore response) : other ∈ atResponses :=
  (takeWhile_subset _) before

theorem searchedBefore_state (known : response ∈ atResponses)
    (before : other ∈ searchedBefore response) : other.1 ≠ response.1 := by
  have all : ∀ response ∈ atResponses, ∀ other ∈ searchedBefore response, other.1 ≠ response.1 := by
    decide
  exact all response known other before

theorem parse_of_earliest (earliest : Earliest text response stop)
    (within : stop ≤ bound) (clean : (0 : Byte) ∉ text.take stop) :
    ∃ found, parseAtResponse (text.take bound) = some found ∧ stop ≤ found.2.2 ∧ found.2.2 ≤ bound ∧
      ((found.1, text.take found.2.2) = (response.1, text.take stop) ↔
        Undisturbed text response bound) := by
  obtain ⟨later, split⟩ := atResponses_split earliest.known
  obtain ⟨start, line⟩ := earliest.line
  have seen : ResultLine (cString (text.take bound)) response start stop :=
    (resultLine_visible_iff earliest.known).mpr ⟨line, within, clean⟩
  rw [parseAtResponse, split, findSome?_append]
  cases before : (searchedBefore response).findSome? fun response =>
      (findResponse (text.take bound) response).map fun found => (response.1, found) with
  | none =>
    obtain ⟨first, ending, found, notLater⟩ :=
      findResponse_complete earliest.known seen
    have soundLine := (resultLine_visible_iff earliest.known).mp
      (findResponse_sound earliest.known found)
    have notEarlier := earliest.first response earliest.known first ending soundLine.1
    have same : ending = stop := by omega
    refine ⟨(response.1, first, ending), ?_, notEarlier, soundLine.2.1, ?_⟩
    · rw [none_or, findSome?_cons, found]
      rfl
    · rw [same]
      refine ⟨fun _ other isBefore otherStart otherStop otherLine inside => ?_, fun _ => rfl⟩
      by_contra otherClean
      have otherSeen := (resultLine_visible_iff
        (searchedBefore_known isBefore)).mpr ⟨otherLine, inside, otherClean⟩
      obtain ⟨_, _, otherFound, _⟩ :=
        findResponse_complete (searchedBefore_known isBefore) otherSeen
      have missing := List.findSome?_eq_none_iff.mp before other isBefore
      rw [otherFound] at missing
      cases missing
  | some found =>
    obtain ⟨other, isBefore, isFound⟩ :=
      exists_of_findSome?_eq_some before
    rw [map_eq_some_iff] at isFound
    obtain ⟨⟨otherStart, otherStop⟩, otherFound, rfl⟩ := isFound
    have known := searchedBefore_known isBefore
    have soundLine := (resultLine_visible_iff known).mp (findResponse_sound known otherFound)
    refine ⟨_, rfl, earliest.first other known _ _ soundLine.1, soundLine.2.1, ?_⟩
    have different := searchedBefore_state earliest.known isBefore
    constructor
    · intro same
      exact absurd (congrArg Prod.fst same) different
    · intro undisturbed
      exact absurd (undisturbed other isBefore otherStart otherStop
        soundLine.1 soundLine.2.1) soundLine.2.2

theorem parse_of_early (earliest : Earliest text response stop)
    (early : bound < stop) : parseAtResponse (text.take bound) = none := by
  rw [parseAtResponse, findSome?_eq_none_iff]
  intro other known
  rw [map_eq_none_iff]
  by_contra isSome
  obtain ⟨⟨otherStart, otherStop⟩, found⟩ :=
    ne_none_iff_exists'.mp isSome
  have soundLine := (resultLine_visible_iff known).mp (findResponse_sound known found)
  have notEarlier := earliest.first other known _ _ soundLine.1
  omega

variable {found : AtCmdState × Nat × Nat}

theorem parse_occurs (isFound : parseAtResponse data = some found) :
    ∃ needle, (found.1, needle) ∈ atResponses ∧
      OccursAt needle (data.take found.2.2) found.2.1 := by
  obtain ⟨other, known, otherFound⟩ := exists_of_findSome?_eq_some isFound
  rw [map_eq_some_iff] at otherFound
  obtain ⟨⟨otherStart, otherStop⟩, otherFound, rfl⟩ := otherFound
  refine ⟨other.2, known, ?_⟩
  have line := findResponse_sound known otherFound
  have within := line.within known
  rw [cString_eq_take, resultLine_take_iff within,
    ← resultLine_take_iff (Nat.le_refl otherStop)] at line
  exact line.1

theorem parse_clean (isFound : parseAtResponse data = some found) :
    (0 : Byte) ∉ data.take found.2.2 := by
  obtain ⟨other, known, otherFound⟩ := exists_of_findSome?_eq_some isFound
  rw [map_eq_some_iff] at otherFound
  obtain ⟨⟨otherStart, otherStop⟩, otherFound, rfl⟩ := otherFound
  have line := findResponse_sound known otherFound
  have reached := line.within known
  exact (le_length_cString_iff (reached.trans (takeWhile_sublist _).length_le)).mp reached

variable {size : Nat} {client : ClientState}

theorem stored_eq (data : List Byte) (fits : client.atCmdResp.length ≤ size) :
    client.atCmdResp ++ data.take (size - client.atCmdResp.length) =
      (client.atCmdResp ++ data).take size := by
  rw [take_append, take_of_length_le fits]

/-- What `response_handler` logs.  The text of a response holds no NUL. -/
def ClientEvent.OfHandler : ClientEvent → Prop
  | .answered _ text _ => (0 : Byte) ∉ text
  | .called => False
  | .returned _ => False
  | _ => True

theorem giveRsp_log (gives : Bool) (client : ClientState) :
    (giveRsp gives client).log = client.log := by
  rw [giveRsp]
  split <;> rfl

theorem dispatch_log (client : ClientState) :
    ∃ added, (dispatch client).log = client.log ++ added ∧ ∀ event ∈ added, event.OfHandler := by
  rw [dispatch]
  split
  · refine ⟨[.dispatched client.atCmdResp], rfl, ?_⟩
    exact forall_mem_singleton.mpr trivial
  · exact ⟨[], (append_nil _).symm, nofun⟩

theorem receive_of_found (pending : client.smAtState = .pending)
    (fits : client.atCmdResp.length ≤ size)
    (isFound : parseAtResponse ((client.atCmdResp ++ data).take size) = some found) :
    (receive size data client).1.smAtState = found.1 ∧
      (receive size data client).1.log = client.log ++ [.received data] ++ [.answered found.1
          (((client.atCmdResp ++ data).take size).take found.2.2) found.2.1] := by
  obtain ⟨state, start, processed⟩ := found
  rw [receive]
  simp only [if_pos pending, stored_eq data fits, isFound]
  exact ⟨rfl, rfl⟩

/-- Without a result a chunk is kept as long as there is room. -/
theorem receive_of_none (pending : client.smAtState = .pending)
    (fits : (client.atCmdResp ++ data).length < size)
    (missing : parseAtResponse (client.atCmdResp ++ data) = none) :
    receive size data client =
      ({ client with
        atCmdResp := client.atCmdResp ++ data
        log := client.log ++ [.received data] }, false) := by
  have shorter : client.atCmdResp.length ≤ size := by
    rw [length_append] at fits
    omega
  rw [receive]
  simp only [if_pos pending, stored_eq data shorter, take_of_length_le (Nat.le_of_lt fits), missing,
    if_neg (Nat.ne_of_lt fits), ClientState.record]

theorem responseHandler_of_found (pending : client.smAtState = .pending)
    (fits : client.atCmdResp.length ≤ size)
    (isFound : parseAtResponse ((client.atCmdResp ++ data).take size) = some found) :
    ∃ added, (responseHandler size data client).log = client.log ++
      .received data :: .answered found.1
        (((client.atCmdResp ++ data).take size).take found.2.2) found.2.1 ::
        added := by
  obtain ⟨added, longer, _⟩ :=
    dispatch_log (giveRsp (receive size data client).2 (receive size data client).1)
  refine ⟨added, ?_⟩
  rw [responseHandler, longer, giveRsp_log, (receive_of_found pending fits isFound).2]
  simp only [append_assoc, cons_append, nil_append]

theorem responseHandler_eq_of_none (pending : client.smAtState = .pending)
    (fits : (client.atCmdResp ++ data).length < size)
    (missing : parseAtResponse (client.atCmdResp ++ data) = none) :
    responseHandler size data client =
      { client with
        atCmdResp := client.atCmdResp ++ data
        log := client.log ++ [.received data] } := by
  rw [responseHandler, receive_of_none pending fits missing, dispatch,
    if_neg fun drains => drains.1 pending]
  rfl

theorem responseHandler_of_none (pending : client.smAtState = .pending)
    (fits : (client.atCmdResp ++ data).length < size)
    (missing : parseAtResponse (client.atCmdResp ++ data) = none) :
    ∃ after, responseHandler size data client = after ∧ after.smAtState = .pending ∧
      after.atCmdResp = client.atCmdResp ++ data ∧
      after.log = client.log ++ [.received data] :=
  ⟨_, responseHandler_eq_of_none pending fits missing, pending, rfl, rfl⟩

variable (size) in
theorem receive_log (data : List Byte) (client : ClientState) :
    ∃ added, (receive size data client).1.log = client.log ++ added ∧
      ∀ event ∈ added, event.OfHandler := by
  have single : ∀ event ∈ [ClientEvent.received data], event.OfHandler := by
    exact forall_mem_singleton.mpr trivial
  generalize isStored : client.atCmdResp ++ data.take (size - client.atCmdResp.length) = stored
  rw [receive]
  simp only [isStored]
  split
  · split
    · rename_i state start processed isFound
      refine ⟨[.received data, .answered state (stored.take processed) start], ?_, ?_⟩
      · exact append_assoc ..
      · intro event member
        rcases mem_pair.mp member with rfl | rfl
        · trivial
        · exact parse_clean isFound
    · split
      · refine ⟨[.received data, .overflowed stored], append_assoc .., ?_⟩
        intro event member
        rcases mem_pair.mp member with rfl | rfl
        · trivial
        · trivial
      · exact ⟨[.received data], rfl, single⟩
  · exact ⟨[.received data], rfl, single⟩

variable (size) in
theorem responseHandler_log (data : List Byte) (client : ClientState) :
    ∃ added, (responseHandler size data client).log = client.log ++ added ∧
      ∀ event ∈ added, event.OfHandler := by
  obtain ⟨first, receivedLog, ofReceive⟩ := receive_log size data client
  obtain ⟨second, longer, ofDispatch⟩ := dispatch_log
    (giveRsp (receive size data client).2 (receive size data client).1)
  refine ⟨first ++ second, ?_, ?_⟩
  · rw [responseHandler, longer, giveRsp_log, receivedLog, append_assoc]
  · intro event member
    rcases mem_append.mp member with inFirst | inSecond
    · exact ofReceive event inFirst
    · exact ofDispatch event inSecond

variable (size) in
theorem receiveChunks_log (chunks : List (List Byte)) (client : ClientState) :
    ∃ added, (receiveChunks size chunks client).log = client.log ++ added ∧
      ∀ event ∈ added, event.OfHandler := by
  induction chunks generalizing client with
  | nil => exact ⟨[], (append_nil _).symm, nofun⟩
  | cons data chunks ih =>
    obtain ⟨first, firstLog, ofFirst⟩ := responseHandler_log size data client
    obtain ⟨second, secondLog, ofSecond⟩ :=
      ih (responseHandler size data client)
    refine ⟨first ++ second, ?_, ?_⟩
    · rw [receiveChunks, foldl_cons, ← receiveChunks, secondLog, firstLog, append_assoc]
    · intro event member
      rcases mem_append.mp member with inFirst | inSecond
      · exact ofFirst event inFirst
      · exact ofSecond event inSecond

variable {chunks : List (List Byte)}

theorem reported_clean {state : AtCmdState} {text : List Byte}
    (reports : reported size chunks client = some (some (state, text))) :
    (0 : Byte) ∉ text := by
  obtain ⟨added, longer, ofHandler⟩ := receiveChunks_log size chunks client
  rw [reported, longer, drop_left] at reports
  obtain ⟨event, member, reports⟩ := exists_of_findSome?_eq_some reports
  have logged := ofHandler event member
  cases event with
  | answered otherState otherText start =>
    cases reports
    exact logged
  | _ => cases reports

variable {added : List ClientEvent}

theorem reported_cons_of_result {event : ClientEvent} {result : Option (AtCmdState × List Byte)}
    (isResult : event.result? = some result)
    (isFound : (responseHandler size data client).log =
      client.log ++ .received data :: event :: added) :
    reported size (data :: chunks) client = some result := by
  obtain ⟨more, longer, _⟩ := receiveChunks_log size chunks (responseHandler size data client)
  rw [reported, receiveChunks, foldl_cons, ← receiveChunks, longer,
    isFound, append_assoc, drop_left, cons_append, cons_append,
    findSome?_cons_of_isNone (by rfl), findSome?_cons, isResult]

theorem reported_cons_of_found {state : AtCmdState} {text : List Byte} {start : Nat}
    (isFound : (responseHandler size data client).log =
      client.log ++ .received data :: .answered state text start :: added) :
    reported size (data :: chunks) client = some (some (state, text)) :=
  reported_cons_of_result (by rfl) isFound

theorem reported_cons_of_none {after : ClientState}
    (isKept : responseHandler size data client = after)
    (keptLog : after.log = client.log ++ [.received data]) :
    reported size (data :: chunks) client = reported size chunks after := by
  obtain ⟨more, longer, _⟩ := receiveChunks_log size chunks after
  have sameLog : (receiveChunks size (data :: chunks) client).log =
      client.log ++ .received data :: more := by
    rw [receiveChunks, foldl_cons, isKept, ← receiveChunks, longer, keptLog, append_assoc]
    rfl
  rw [reported, reported, sameLog, longer, drop_left, drop_left]
  rfl

/-- The first report is what the search finds in what has arrived at the end of
the chunk that completes the earliest result. -/
theorem reported_eq (chunks : List (List Byte)) (pending : client.smAtState = .pending)
    (stream : client.atCmdResp ++ chunks.flatten = text)
    (earliest : Earliest text response stop) (within : stop ≤ size)
    (early : client.atCmdResp.length < stop)
    (clean : (0 : Byte) ∉ text.take stop) :
    ∃ found, parseAtResponse (text.take
        (min size (reachedBy stop client.atCmdResp.length chunks))) = some found ∧
      stop ≤ min size (reachedBy stop client.atCmdResp.length chunks) ∧
      reported size chunks client = some (some (found.1, text.take found.2.2)) := by
  induction chunks generalizing client with
  | nil =>
    obtain ⟨start, line⟩ := earliest.line
    have inside := line.within earliest.known
    rw [← stream, flatten_nil, append_nil] at inside
    omega
  | cons data chunks ih =>
    rw [flatten_cons, ← append_assoc] at stream
    have arrived : (client.atCmdResp ++ data).length =
        client.atCmdResp.length + data.length := length_append
    have seen (bound : Nat) (notLater : bound ≤ client.atCmdResp.length + data.length) :
        (client.atCmdResp ++ data).take bound = text.take bound := by
      rw [← stream]
      exact (take_append_of_le_length (by omega)).symm
    have fits : client.atCmdResp.length ≤ size := by omega
    by_cases completes : stop ≤ client.atCmdResp.length + data.length
    · rw [reachedBy, if_pos completes]
      have stored : (client.atCmdResp ++ data).take size = text.take
          (min size (client.atCmdResp.length + data.length)) := by
        rw [← seen _ (Nat.min_le_right _ _), ← arrived, ← take_take, take_length]
      have reached : stop ≤ min size (client.atCmdResp.length + data.length) := by
        omega
      obtain ⟨found, isFound, _, inside, _⟩ :=
        parse_of_earliest earliest reached clean
      refine ⟨found, isFound, reached, ?_⟩
      rw [← stored] at isFound
      obtain ⟨added, isAdded⟩ :=
        responseHandler_of_found pending fits isFound
      rw [reported_cons_of_found isAdded, stored, take_take, Nat.min_eq_left inside]
    · rw [reachedBy, if_neg completes]
      have stored : client.atCmdResp ++ data =
          text.take (client.atCmdResp.length + data.length) := by
        rw [← seen _ (Nat.le_refl _), ← arrived, take_length]
      have missing : parseAtResponse (client.atCmdResp ++ data) = none := by
        rw [stored]
        exact parse_of_early earliest (Nat.lt_of_not_le completes)
      have stillEarly : (client.atCmdResp ++ data).length < stop := by omega
      obtain ⟨after, isKept, stillPending, kept, keptLog⟩ :=
        responseHandler_of_none pending (stillEarly.trans_le within) missing
      rw [reported_cons_of_none isKept keptLog, ← arrived, ← kept]
      rw [← kept] at stream stillEarly
      exact ih stillPending stream stillEarly

/-- What is reported first is the state of the response, with the text up to its end. -/
def ReportsEarliest (size : Nat) (text : List Byte) (response : AtCmdState × List Byte) (stop : Nat)
    (chunks : List (List Byte)) (client : ClientState) : Prop :=
  reported size chunks client = some (some (response.1, text.take stop))

instance {chunks : List (List Byte)} :
    Decidable (ReportsEarliest size text response stop chunks client) :=
  inferInstanceAs (Decidable (_ = _))

/-- The chunks report the earliest result exactly when there is no NUL before
its end and the chunk that completes it does not bring a result that is
searched for before it. -/
theorem reportsEarliest_iff (chunks : List (List Byte)) (pending : client.smAtState = .pending)
    (stream : client.atCmdResp ++ chunks.flatten = text)
    (earliest : Earliest text response stop) (within : stop ≤ size)
    (early : client.atCmdResp.length < stop) :
    ReportsEarliest size text response stop chunks client ↔
      (0 : Byte) ∉ text.take stop ∧ Undisturbed text response
          (min size (reachedBy stop client.atCmdResp.length chunks)) := by
  by_cases clean : (0 : Byte) ∉ text.take stop
  · obtain ⟨found, isFound, reached, isReported⟩ :=
      reported_eq chunks pending stream earliest within early clean
    obtain ⟨other, otherFound, _, _, same⟩ :=
      parse_of_earliest earliest reached clean
    rw [isFound, Option.some.injEq] at otherFound
    rw [ReportsEarliest, isReported, Option.some.injEq, Option.some.injEq, otherFound, same]
    exact (and_iff_right clean).symm
  · constructor
    · intro reports
      exact absurd (reported_clean reports) clean
    · rintro ⟨isClean, _⟩
      exact absurd isClean clean

/-- However the bytes that come after a command are split, the earliest result
is reported with the bytes up to its end, exactly when there is no NUL among
these and neither splitting completes the result in a chunk that brings a
result that is searched for before it. -/
theorem detection_iff {first second : List (List Byte)} (pending : client.smAtState = .pending)
    (firstStream : client.atCmdResp ++ first.flatten = text)
    (secondStream : client.atCmdResp ++ second.flatten = text)
    (earliest : Earliest text response stop) (within : stop ≤ size)
    (early : client.atCmdResp.length < stop) :
    (ReportsEarliest size text response stop first client ∧
        ReportsEarliest size text response stop second client) ↔
      (0 : Byte) ∉ text.take stop ∧ Undisturbed text response
          (min size (reachedBy stop client.atCmdResp.length first)) ∧
        Undisturbed text response (min size (reachedBy stop client.atCmdResp.length second)) := by
  rw [reportsEarliest_iff first pending firstStream earliest within early,
    reportsEarliest_iff second pending secondStream earliest within early]
  tauto

def waitingClient : ClientState where
  atCmdResp := []
  smAtState := .pending
  atRsp := false
  log := [.called]

theorem le_of_findResponse (whole : cString text = text)
    (notBefore : ∀ other ∈ atResponses, ∀ found ∈ findResponse text other,
      stop ≤ found.2) (known : other ∈ atResponses) {otherStop : Nat}
    (line : ResultLine text other start otherStop) :
    stop ≤ otherStop := by
  rw [← whole] at line
  obtain ⟨first, ending, found, notLater⟩ := findResponse_complete known line
  exact (notBefore other known _ found).trans notLater

theorem earliest_error : Earliest (ascii "\r\nERROR\r\n\r\nOK\r\n")
    (.error, ascii "\r\nERROR\r\n") 9 where
  known := by decide
  line := ⟨0, by decide, .inl ⟨rfl, by decide⟩⟩
  first _ known _ _ line :=
    le_of_findResponse (by decide) (by decide) known line

/-- An error that comes before an `OK` is reported when its chunk ends with it,
and the `OK` is when both are in one chunk. -/
theorem whole_and_cut_differ : Earliest (ascii "\r\nERROR\r\n\r\nOK\r\n")
        (.error, ascii "\r\nERROR\r\n") 9 ∧
      reported 32 [ascii "\r\nERROR\r\n", ascii "\r\nOK\r\n"] waitingClient =
        some (some (.error, ascii "\r\nERROR\r\n")) ∧
      reported 32 [ascii "\r\nERROR\r\n\r\nOK\r\n"] waitingClient =
        some (some (.ok, ascii "\r\nERROR\r\n\r\nOK\r\n")) :=
  ⟨earliest_error, by decide, by decide⟩

/-- Two splittings that agree. -/
theorem two_cuts_agree : Undisturbed (ascii "\r\nERROR\r\n\r\nOK\r\n")
        (.error, ascii "\r\nERROR\r\n") 9 ∧
      Undisturbed (ascii "\r\nERROR\r\n\r\nOK\r\n") (.error, ascii "\r\nERROR\r\n") 12 := by
  have firstStream : waitingClient.atCmdResp ++
      [ascii "\r\nERROR\r\n", ascii "\r\nOK\r\n"].flatten =
        ascii "\r\nERROR\r\n\r\nOK\r\n" := by decide
  have secondStream : waitingClient.atCmdResp ++
      [ascii "\r\nERR", ascii "OR\r\n\r\nO", ascii "K\r\n"].flatten =
        ascii "\r\nERROR\r\n\r\nOK\r\n" := by decide
  have within : 9 ≤ 32 := by decide
  exact ((detection_iff rfl firstStream secondStream earliest_error within
    (by decide)).mp ⟨by decide, by decide⟩).2

end SerialModem.AtClient
