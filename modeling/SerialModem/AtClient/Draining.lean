import SerialModem.AtClient.Detection

/-!
# Draining the receive buffer

The buffer is emptied when what it holds ends in a line end and no command is
pending.  A buffer that is full of something else takes nothing more, and what
comes later is lost.
-/

namespace SerialModem.AtClient

open Library List Option
open AtHost (Byte ascii crlfStr)

inductive ReceiverAction where
  | chunk (data : List Byte)
  | setState (state : AtCmdState)
  deriving DecidableEq

def receiverStep (size rxBufSize : Nat) (action : ReceiverAction)
    (client : ClientState) : Option ClientState :=
  match action with
  | .chunk data =>
    if data.length ≤ rxBufSize then
      some (responseHandler size data client)
    else
      none
  | .setState state => some { client with smAtState := state }

/-- The buffer is empty after `sm_at_client_init`. -/
def ClientState.Initial (client : ClientState) : Prop :=
  client.atCmdResp = []

/-- Chunks arrive and the command state changes, in any order. -/
abbrev ReceiverReachable (size rxBufSize : Nat) : ClientState → Prop :=
  Reachable (receiverStep size rxBufSize) (fun _ _ => True) ClientState.Initial

variable {size rxBufSize : Nat}

theorem shift_length (processed : Nat) {stored : List Byte} (left : List Byte)
    (fits : stored.length ≤ size) :
    (stored.drop processed ++
      left.take (size - (stored.drop processed).length)).length ≤ size := by
  rw [length_append, length_take, length_drop]
  omega

variable {client : ClientState}

theorem receive_length (data : List Byte) (fits : client.atCmdResp.length ≤ size) :
    (receive size data client).1.atCmdResp.length ≤ size := by
  have stored : (client.atCmdResp ++ data.take (size - client.atCmdResp.length)).length ≤ size := by
    rw [length_append, length_take]
    omega
  rw [receive]
  split
  · split
    · exact shift_length _ _ stored
    · split
      · exact shift_length _ _ stored
      · exact stored
  · exact stored

theorem giveRsp_atCmdResp (gives : Bool) (client : ClientState) :
    (giveRsp gives client).atCmdResp = client.atCmdResp := by
  rw [giveRsp]
  split <;> rfl

theorem dispatch_length (fits : client.atCmdResp.length ≤ size) :
    (dispatch client).atCmdResp.length ≤ size := by
  rw [dispatch]
  split
  · exact Nat.zero_le _
  · exact fits

theorem responseHandler_length (data : List Byte) (fits : client.atCmdResp.length ≤ size) :
    (responseHandler size data client).atCmdResp.length ≤ size := by
  apply dispatch_length
  rw [giveRsp_atCmdResp]
  exact receive_length data fits

theorem receiver_length (reachable : ReceiverReachable size rxBufSize client) :
    client.atCmdResp.length ≤ size := by
  induction reachable with
  | start initial =>
    rw [initial]
    exact Nat.zero_le _
  | @next _ _ action _ _ taken fits =>
    cases action with
    | chunk data =>
      rw [receiverStep] at taken
      split at taken
      · cases taken
        exact responseHandler_length data fits
      · cases taken
    | setState state =>
      cases taken
      exact fits

/-- What is left in the buffer by a chunk that comes while no command is
pending, before the buffer is looked at. -/
def ClientState.append (size : Nat) (data : List Byte) (client : ClientState) : ClientState where
  atCmdResp := client.atCmdResp ++ data.take (size - client.atCmdResp.length)
  smAtState := client.smAtState
  atRsp := client.atRsp
  log := client.log ++ [.received data]

theorem receive_of_idle (idle : client.smAtState ≠ .pending) (data : List Byte) :
    receive size data client = (client.append size data, false) := by
  rw [receive]
  simp only [if_neg idle]
  rfl

theorem responseHandler_of_idle (idle : client.smAtState ≠ .pending) (data : List Byte) :
    responseHandler size data client = dispatch (client.append size data) := by
  rw [responseHandler, receive_of_idle idle, giveRsp, if_neg Bool.false_ne_true]

theorem dispatch_of_unended (unended : ¬crlfStr <:+ client.atCmdResp) :
    dispatch client = client := by
  rw [dispatch, if_neg fun drains => unended drains.2]

theorem dispatch_of_ended (idle : client.smAtState ≠ .pending)
    (ended : crlfStr <:+ client.atCmdResp) :
    (dispatch client).atCmdResp = [] ∧ (dispatch client).log =
        client.log ++ [.dispatched client.atCmdResp] := by
  rw [dispatch, if_pos ⟨idle, ended⟩]
  exact ⟨rfl, rfl⟩

/-- The start of `sm_at_client_send_cmd`. -/
def ClientState.called (client : ClientState) : ClientState :=
  { client with smAtState := .pending, log := client.log ++ [.called] }

/-- The next command gets the report that it gets with an empty buffer; what was
left there stands in front of the text. -/
def ResponseKept (size : Nat) (chunks : List (List Byte)) (client : ClientState) : Prop :=
  reported size chunks client.called =
    (reported size chunks { client.called with atCmdResp := [] }).map fun result =>
      result.map fun (state, text) => (state, client.atCmdResp ++ text)

/-- What is left in the buffer has no NUL, no result begins in it, and there is
room for the response behind it. -/
structure Harmless (size : Nat) (left response : List Byte) : Prop where
  noNul : (0 : Byte) ∉ left
  apart : ∀ result ∈ atResponses, ∀ start, start < left.length →
    ¬OccursAt result.2 (left ++ response) start
  room : left.length + response.length < size

variable {left more : List Byte}

theorem strnstr_behind {needle : List Byte} (noNul : (0 : Byte) ∉ left) (nonempty : needle ≠ [])
    (apart : ∀ start, start < left.length → ¬OccursAt needle (left ++ more) start) :
    strnstr (left ++ more) needle = (strnstr more needle).map (left.length + ·) := by
  have visible : ∀ start, start < left.length →
      ¬OccursAt needle (left ++ Socket.cString more) start := by
    intro start before occurs
    have split : Socket.cString more ++ more.drop (Socket.cString more).length = more := by
      rw [cString_eq_take more, length_take]
      have shorter := Socket.length_cString_le more
      rw [Nat.min_eq_left shorter, take_append_drop]
    have longer := occurs.append (more.drop (Socket.cString more).length)
    rw [append_assoc, split] at longer
    exact apart start before longer
  rw [strnstr, strnstr, Socket.cString_append_of_notMem noNul]
  cases found : Socket.strstr (Socket.cString more) needle with
  | none =>
    rw [Socket.strstr_eq_none_iff nonempty] at found
    rw [map_none, Socket.strstr_eq_none_iff nonempty]
    intro start occurs
    by_cases before : start < left.length
    · exact visible start before occurs
    · rw [← Nat.add_sub_cancel' (Nat.le_of_not_lt before)] at occurs
      exact found _ (occursAt_append_iff.mp occurs)
  | some index =>
    rw [Socket.strstr_eq_some_iff nonempty] at found
    rw [map_some, Socket.strstr_eq_some_iff nonempty]
    exact (firstAt_append_iff visible).mpr found

theorem findResponse_behind {response : AtCmdState × List Byte}
    (noNul : (0 : Byte) ∉ left) (known : response ∈ atResponses)
    (apart : ∀ start, start < left.length → ¬OccursAt response.2 (left ++ more) start) :
    findResponse (left ++ more) response = (findResponse more response).map fun found =>
      (left.length + found.1, left.length + found.2) := by
  rw [findResponse, findResponse, strnstr_behind noNul (needle_nonempty known) apart]
  cases strnstr more response.2 with
  | none => rfl
  | some start =>
    have behind : (left ++ more).drop (left.length + start + response.2.length) =
        more.drop (start + response.2.length) := by
      rw [Nat.add_assoc, ← drop_drop, drop_left]
    simp only [map_some, bind_some, behind]
    split
    · simp only [map_some, Nat.add_assoc]
    · cases strnstr (more.drop (start + response.2.length)) crlfStr with
      | none => rfl
      | some index => simp only [map_some, Nat.add_assoc]

theorem parseAtResponse_behind (noNul : (0 : Byte) ∉ left) (apart : ∀ result ∈ atResponses, ∀ start,
      start < left.length → ¬OccursAt result.2 (left ++ more) start) :
    parseAtResponse (left ++ more) = (parseAtResponse more).map fun found =>
      (found.1, left.length + found.2.1, left.length + found.2.2) := by
  have each : ∀ responses : List (AtCmdState × List Byte),
      (∀ response ∈ responses, response ∈ atResponses) →
      (responses.findSome? fun response =>
        (findResponse (left ++ more) response).map fun found => (response.1, found)) =
      (responses.findSome? fun response =>
        (findResponse more response).map fun found => (response.1, found)).map fun found =>
          (found.1, left.length + found.2.1, left.length + found.2.2) := by
    intro responses known
    induction responses with
    | nil => rfl
    | cons response rest ih =>
      obtain ⟨isKnown, restKnown⟩ := forall_mem_cons.mp known
      rw [findSome?_cons, findSome?_cons, ih restKnown,
        findResponse_behind noNul isKnown (apart response isKnown)]
      cases findResponse more response with
      | none | some found => rfl
  exact each atResponses fun _ member => member

/-- What is left in front of the buffer of a pending client changes nothing as long
as it is harmless. -/
theorem reported_behind (noNul : (0 : Byte) ∉ left)
    (chunks : List (List Byte)) (pending : client.smAtState = .pending)
    (apart : ∀ result ∈ atResponses, ∀ start, start < left.length →
      ¬OccursAt result.2 (left ++ (client.atCmdResp ++ chunks.flatten)) start)
    (room : left.length + (client.atCmdResp ++ chunks.flatten).length < size) :
    reported size chunks { client with atCmdResp := left ++ client.atCmdResp } =
      (reported size chunks client).map fun result =>
        result.map fun (state, text) => (state, left ++ text) := by
  induction chunks generalizing client with
  | nil => simp [reported, receiveChunks]
  | cons data chunks ih =>
    rw [flatten_cons, ← append_assoc client.atCmdResp] at apart room
    have stored : (left ++ client.atCmdResp) ++ data = left ++ (client.atCmdResp ++ data) :=
      append_assoc ..
    have fits : left.length + (client.atCmdResp ++ data).length < size := by
      rw [length_append] at room
      omega
    have shorter : (client.atCmdResp ++ data).length < size := by omega
    have isParse := @parseAtResponse_behind left (client.atCmdResp ++ data) noNul
      fun result known start before occurs => by
        have longer := occurs.append chunks.flatten
        rw [append_assoc] at longer
        exact apart result known start before longer
    cases found : parseAtResponse (client.atCmdResp ++ data) with
    | none =>
      rw [found, map_none, ← stored] at isParse
      have kept := responseHandler_eq_of_none pending shorter found
      have keptBehind := @responseHandler_eq_of_none data size
        { client with atCmdResp := left ++ client.atCmdResp } pending
        (by rw [stored, length_append]; exact fits) isParse
      rw [reported_cons_of_none kept rfl, reported_cons_of_none keptBehind rfl, stored]
      exact @ih { client with
        atCmdResp := client.atCmdResp ++ data
        log := client.log ++ [.received data] } pending apart room
    | some found =>
      rw [found, map_some, ← stored] at isParse
      have whole : (client.atCmdResp ++ data).take size = client.atCmdResp ++ data :=
        take_of_length_le (by omega)
      have wholeBehind : ((left ++ client.atCmdResp) ++ data).take size =
          left ++ (client.atCmdResp ++ data) := by
        rw [stored]
        exact take_of_length_le (by rw [length_append]; omega)
      rw [length_append] at fits
      obtain ⟨added, isAdded⟩ := @responseHandler_of_found data _ size client pending (by omega)
        (by rw [whole]; exact found)
      obtain ⟨addedBehind, isAddedBehind⟩ := @responseHandler_of_found data _ size
        { client with atCmdResp := left ++ client.atCmdResp } pending
        (by rw [length_append]; omega)
        (by rw [wholeBehind, ← stored]; exact isParse)
      rw [reported_cons_of_found isAdded, reported_cons_of_found isAddedBehind, whole,
        wholeBehind, take_length_add_append]
      rfl

theorem parse_of_no_cr {data : List Byte} (clean : (13 : Byte) ∉ data) :
    parseAtResponse data = none := by
  rw [eq_none_iff_forall_ne_some]
  intro found isFound
  obtain ⟨needle, known, occurs⟩ := parse_occurs isFound
  have all : ∀ response ∈ atResponses, (13 : Byte) ∈ response.2 := by decide
  exact clean (mem_of_mem_take (mem_of_mem_drop (occurs.subset (all _ known))))

theorem reported_of_no_cr (chunks : List (List Byte)) (pending : client.smAtState = .pending)
    (clean : (13 : Byte) ∉ client.atCmdResp ++ chunks.flatten)
    (room : (client.atCmdResp ++ chunks.flatten).length < size) :
    reported size chunks client = none := by
  induction chunks generalizing client with
  | nil => simp [reported, receiveChunks]
  | cons data chunks ih =>
    rw [flatten_cons, ← append_assoc] at clean room
    have kept := @responseHandler_eq_of_none data size client pending
      (by rw [length_append] at room; omega)
      (parse_of_no_cr fun member => clean (mem_append_left _ member))
    rw [reported_cons_of_none kept rfl]
    exact @ih { client with
      atCmdResp := client.atCmdResp ++ data
      log := client.log ++ [.received data] } pending clean room

theorem responseHandler_of_full {data : List Byte} (pending : client.smAtState = .pending)
    (fits : client.atCmdResp.length ≤ size) (full : size ≤ (client.atCmdResp ++ data).length)
    (missing : parseAtResponse ((client.atCmdResp ++ data).take size) = none) :
    ∃ added, (responseHandler size data client).log = client.log ++
      .received data :: .overflowed ((client.atCmdResp ++ data).take size) :: added := by
  obtain ⟨added, longer, -⟩ :=
    dispatch_log (giveRsp (receive size data client).2 (receive size data client).1)
  refine ⟨added, ?_⟩
  have isFull : ((client.atCmdResp ++ data).take size).length = size := by
    rw [length_take, Nat.min_eq_left full]
  rw [responseHandler, longer, giveRsp_log, receive]
  simp only [if_pos pending, stored_eq data fits, missing, if_pos isFull,
    ClientState.record, ClientState.shift, append_assoc, cons_append, nil_append]

/-- A buffer that is filled is reported, as a result or as an overflow. -/
theorem reported_of_full (chunks : List (List Byte)) (pending : client.smAtState = .pending)
    (fits : client.atCmdResp.length ≤ size) (more : chunks ≠ [])
    (full : size ≤ (client.atCmdResp ++ chunks.flatten).length) :
    ∃ result, reported size chunks client = some result := by
  induction chunks generalizing client with
  | nil => exact absurd rfl more
  | cons data chunks ih =>
    cases found : parseAtResponse ((client.atCmdResp ++ data).take size) with
    | some found =>
      obtain ⟨_, isAdded⟩ := responseHandler_of_found pending fits found
      exact ⟨_, reported_cons_of_found isAdded⟩
    | none =>
      by_cases isFull : size ≤ (client.atCmdResp ++ data).length
      · obtain ⟨_, isAdded⟩ := responseHandler_of_full pending fits isFull found
        exact ⟨_, reported_cons_of_result rfl isAdded⟩
      · have shorter := Nat.lt_of_not_le isFull
        rw [take_of_length_le (Nat.le_of_lt shorter)] at found
        rw [flatten_cons, ← append_assoc] at full
        rw [reported_cons_of_none (responseHandler_eq_of_none pending shorter found) rfl]
        apply @ih { client with
          atCmdResp := client.atCmdResp ++ data
          log := client.log ++ [.received data] } pending (Nat.le_of_lt shorter) ?_ full
        rintro rfl
        rw [flatten_nil, append_nil] at full
        exact isFull full

theorem responseHandler_nil (empty : client.atCmdResp = []) :
    (responseHandler size [] client).atCmdResp = [] := by
  have received : (receive size [] client).1.atCmdResp = [] := by
    have none : parseAtResponse [] = none := by decide
    rw [receive]
    simp only [empty, take_nil, append_nil, none]
    split
    · split
      · simp [ClientState.shift, ClientState.record]
      · rfl
    · rfl
  rw [responseHandler, dispatch_of_unended]
  · rw [giveRsp_atCmdResp, received]
  · rw [giveRsp_atCmdResp, received]
    decide

/-- Without room for a byte in a chunk nothing is ever stored. -/
theorem receiver_empty (reachable : ReceiverReachable size 0 client) : client.atCmdResp = [] := by
  induction reachable with
  | start initial => exact initial
  | @next _ _ action _ _ taken empty =>
    cases action with
    | chunk data =>
      rw [receiverStep] at taken
      split at taken
      · rename_i none
        cases taken
        rw [length_eq_zero_iff.mp (Nat.le_zero.mp none)]
        exact responseHandler_nil empty
      · cases taken
    | setState state =>
      cases taken
      exact empty

/-- With something left a response can overflow the buffer that fits into an empty
one. -/
theorem responseKept_iff_empty (reachable : ReceiverReachable size rxBufSize client) :
    (∀ chunks, (∀ data ∈ chunks, data.length ≤ rxBufSize) → ResponseKept size chunks client) ↔
      client.atCmdResp = [] := by
  constructor
  · intro kept
    by_contra nonempty
    have bounded := receiver_length reachable
    have positive := length_pos_iff.mpr nonempty
    have storable : 0 < rxBufSize := by
      apply Nat.pos_of_ne_zero
      rintro rfl
      exact nonempty (receiver_empty reachable)
    -- An empty chunk, for the buffer may be full already.
    generalize isChunks : replicate (size - client.atCmdResp.length) [(120 : Byte)] ++ [[]] = chunks
    have isFlat : chunks.flatten = replicate (size - client.atCmdResp.length) 120 := by
      rw [← isChunks, flatten_append, flatten_replicate_singleton]
      exact append_nil _
    have small : ∀ data ∈ chunks, data.length ≤ rxBufSize := by
      intro data member
      rw [← isChunks] at member
      rcases mem_append.mp member with isByte | isEmpty
      · rw [eq_of_mem_replicate isByte]
        exact storable
      · rw [mem_singleton.mp isEmpty]
        exact Nat.zero_le _
    have same := kept chunks small
    obtain ⟨result, isReported⟩ := @reported_of_full size client.called chunks rfl bounded
      (by rw [← isChunks]; exact append_ne_nil_of_right_ne_nil _ (by decide))
      (by
        rw [isFlat, length_append, length_replicate]
        exact Nat.le_of_eq (Nat.add_sub_cancel' bounded).symm)
    have isMissing := @reported_of_no_cr size { client.called with atCmdResp := [] } chunks rfl (by
        rw [isFlat]
        exact fun member => absurd (eq_of_mem_replicate member) (by decide))
      (by
        rw [isFlat, nil_append, length_replicate]
        omega)
    rw [ResponseKept, isReported, isMissing] at same
    cases same
  · intro empty chunks _
    have sameClient : { client.called with atCmdResp := [] } = client.called := by
      rw [ClientState.called, empty]
    have sameResult : (fun result : Option (AtCmdState × List Byte) =>
        result.map fun (state, text) => (state, client.atCmdResp ++ text)) = id := by
      rw [empty]
      funext result
      cases result with
      | none | some found => rfl
    rw [ResponseKept, sameClient, sameResult, Option.map_id]
    rfl

theorem responseKept_of_harmless (chunks : List (List Byte))
    (harmless : Harmless size client.atCmdResp chunks.flatten) :
    ResponseKept size chunks client := by
  have behind := @reported_behind size { client.called with atCmdResp := [] }
    client.atCmdResp harmless.noNul chunks rfl harmless.apart harmless.room
  rw [append_nil] at behind
  exact behind

/-- A chunk that ends in a line end drains the buffer with all its bytes exactly
when it fits into it.  Every response to the next command is the one that an empty
buffer leads to exactly when the buffer is empty; any one response is if what is
left is harmless to it. -/
theorem reception_drains_iff {client : ClientState}
    (reachable : ReceiverReachable size rxBufSize client) :
    client.atCmdResp.length ≤ size ∧
    (∀ data, data.length ≤ rxBufSize → crlfStr <:+ data → client.smAtState ≠ .pending →
      (((responseHandler size data client).atCmdResp = [] ∧
          (responseHandler size data client).log = client.log ++
            [.received data, .dispatched (client.atCmdResp ++ data)]) ↔
        client.atCmdResp.length + data.length ≤ size)) ∧
    ((∀ chunks, (∀ data ∈ chunks, data.length ≤ rxBufSize) → ResponseKept size chunks client) ↔
      client.atCmdResp = []) ∧
    ∀ chunks, Harmless size client.atCmdResp chunks.flatten → ResponseKept size chunks client := by
  have bounded := receiver_length reachable
  refine ⟨bounded, ?_, responseKept_iff_empty reachable, responseKept_of_harmless⟩
  intro data _ ends idle
  have stillIdle : (client.append size data).smAtState ≠ .pending := idle
  rw [responseHandler_of_idle idle]
  constructor
  · rintro ⟨_, sameLog⟩
    by_cases ended : crlfStr <:+ (client.append size data).atCmdResp
    · rw [(dispatch_of_ended stillIdle ended).2] at sameLog
      simp only [ClientState.append, append_assoc, append_cancel_left_eq, cons_append, nil_append,
        List.cons.injEq, ClientEvent.dispatched.injEq, true_and,
        and_true] at sameLog
      have lengths := congrArg List.length sameLog
      rw [length_take] at lengths
      omega
    · rw [dispatch_of_unended ended] at sameLog
      have lengths := congrArg List.length sameLog
      simp [ClientState.append] at lengths
  · intro fits
    have whole : data.take (size - client.atCmdResp.length) = data :=
      take_of_length_le (by omega)
    have stored : (client.append size data).atCmdResp = client.atCmdResp ++ data := by
      rw [ClientState.append, whole]
    have ended : crlfStr <:+ (client.append size data).atCmdResp := by
      rw [stored]
      exact ends.trans (suffix_append _ _)
    have drained := dispatch_of_ended stillIdle ended
    refine ⟨drained.1, ?_⟩
    rw [drained.2, stored, ClientState.append]
    exact append_assoc ..

theorem full_discards (idle : client.smAtState ≠ .pending) (full : client.atCmdResp.length = size)
    (unended : ¬crlfStr <:+ client.atCmdResp) (data : List Byte) :
    responseHandler size data client = client.record (.received data) := by
  have kept : client.append size data = client.record (.received data) := by
    rw [ClientState.append, full, Nat.sub_self, take_zero, append_nil, ClientState.record]
  rw [responseHandler_of_idle idle, kept]
  exact dispatch_of_unended unended

theorem full_discards_all (chunks : List (List Byte))
    (idle : client.smAtState ≠ .pending) (full : client.atCmdResp.length = size)
    (unended : ¬crlfStr <:+ client.atCmdResp) :
    receiveChunks size chunks client =
      { client with log := client.log ++ chunks.map .received } := by
  induction chunks generalizing client with
  | nil =>
    rw [map_nil, append_nil]
    rfl
  | cons data chunks ih =>
    rw [receiveChunks, foldl_cons, full_discards idle full unended]
    apply (ih (by exact idle) (by exact full) (by exact unended)).trans
    simp only [ClientState.record, append_assoc, cons_append, nil_append, map_cons]

/-- The state after `sm_at_client_init`. -/
def freshClient : ClientState where
  atCmdResp := []
  smAtState := .ok
  atRsp := false
  log := []

/-- Twenty bytes without a line end fill a buffer of that size.  Whatever comes
while no command is pending is lost from then on, and sixteen of them make an
overflow of the response to a command. -/
theorem full_buffer_never_drains :
    (∃ client, ReceiverReachable 20 16 client ∧ client.smAtState = .ok ∧
      crlfStr <:+ ascii "\r\nA\r\n" ∧
      ∀ chunks : List (List Byte), receiveChunks 20 chunks client =
        { client with log := client.log ++ chunks.map .received }) ∧
    ∃ client, ReceiverReachable 20 16 client ∧ client.smAtState = .ok ∧
      reported 20 [ascii "\r\nOK\r\n"] { client.called with atCmdResp := [] } =
        some (some (.ok, ascii "\r\nOK\r\n")) ∧
      reported 20 [ascii "\r\nOK\r\n"] client.called = some none := by
  have initial : ReceiverReachable 20 16 freshClient :=
    Reachable.start (by exact (rfl : freshClient.Initial))
  have half : ReceiverReachable 20 16 (receiveChunks 20 [replicate 16 120] freshClient) :=
    reachable_of_runActions [.chunk (replicate 16 120)] (fun _ _ _ => trivial) initial rfl
  have reachable : ReceiverReachable 20 16 (receiveChunks 20
      [replicate 16 120, replicate 16 120] freshClient) :=
    reachable_of_runActions [.chunk (replicate 16 120),
      .chunk (replicate 16 120)] (fun _ _ _ => trivial) initial rfl
  refine ⟨⟨_, reachable, by decide, by decide, fun chunks => ?_⟩,
    ⟨_, half, by decide, by decide, by decide⟩⟩
  exact full_discards_all chunks (by decide) (by decide) (by decide)

/-- A line that comes after half of one is passed on with it.  The response to a
command that comes there instead, in two chunks, is found behind it. -/
theorem reception_drains_example : ∃ client, ReceiverReachable 20 16 client ∧
      client.atCmdResp.length ≤ 20 ∧
      (responseHandler 20 (ascii "b\r\n") client).atCmdResp = [] ∧
      reported 20 [ascii "\r\nO", ascii "K\r\n"] client.called =
        some (some (.ok, ascii "a\r\nOK\r\n")) ∧
      ∃ chunks, (∀ data ∈ chunks, data.length ≤ 16) ∧ ¬ResponseKept 20 chunks client := by
  have reachable : ReceiverReachable 20 16 (receiveChunks 20 [ascii "a"] freshClient) :=
    reachable_of_runActions [.chunk (ascii "a")] (fun _ _ _ => trivial)
      (Reachable.start (by exact (rfl : freshClient.Initial))) rfl
  have drains := reception_drains_iff reachable
  have kept := drains.2.2.2 [ascii "\r\nO", ascii "K\r\n"] ⟨by decide, by decide, by decide⟩
  refine ⟨_, reachable, drains.1,
    ((drains.2.1 (ascii "b\r\n") (by decide) (by decide) (by decide)).mpr (by decide)).1, ?_, ?_⟩
  · exact Eq.trans kept (by decide)
  · by_contra all
    refine absurd (drains.2.2.1.mp fun chunks small => ?_) (by decide)
    by_contra lost
    exact all ⟨chunks, small, lost⟩

end SerialModem.AtClient
