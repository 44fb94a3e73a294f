import SerialModem.Socket.Exchange

/-!
# The body of a response

Three counters follow the body of a response: what was received, what was
passed on and what waits in the buffer.  The header block is counted with the
body until it is complete.  A request is accounted for when its counters agree
with what was noted of it.
-/

namespace SerialModem.Socket

open Library List
open AtHost

variable {cfg : Config} {env : Environment} {modem : Modem}

variable {haystack needle : List Byte} {index : Nat}

theorem strstr_within (nonempty : needle ≠ []) (found : strstr haystack needle = some index) :
    index + needle.length ≤ haystack.length := by
  have starts := find?_some found
  have same : ((haystack.drop index).take needle.length).length =
      needle.length := congrArg List.length (beq_iff_eq.mp starts)
  have positive := length_pos_iff.mpr nonempty
  rw [length_take, length_drop] at same
  omega

theorem headerEnd_within {buffer : List Byte} {headerEnd : Nat}
    (found : strstr (cString buffer) headerTerminator = some headerEnd) :
    headerEnd + headerTerminator.length ≤ buffer.length := by
  have within := strstr_within (by decide) found
  have shorter : (cString buffer).length ≤ buffer.length :=
    (List.takeWhile_prefix _).length_le
  exact within.trans shorter

theorem take_drop_append {start : Nat}
    (fits : start + needle.length ≤ haystack.length) (more : List Byte) :
    ((haystack ++ more).drop start).take needle.length =
      (haystack.drop start).take needle.length := by
  rw [drop_append_of_le_length (by omega), take_append_of_le_length (by rw [length_drop]; omega)]

theorem strstr_append {more : List Byte} (nonempty : needle ≠ [])
    (found : strstr haystack needle = some index) :
    strstr (haystack ++ more) needle = some index := by
  have within := strstr_within nonempty found
  have positive := length_pos_iff.mpr nonempty
  rw [strstr, find?_range_eq_some] at found ⊢
  obtain ⟨starts, inside, earlier⟩ := found
  refine ⟨?_, ?_, ?_⟩
  · rw [take_drop_append within]
    exact starts
  · rw [mem_range, length_append]
    omega
  · intro start isEarlier
    rw [take_drop_append (by omega)]
    exact earlier start isEarlier

theorem cString_append (buffer more : List Byte) :
    ∃ rest, cString (buffer ++ more) = cString buffer ++ rest := by
  unfold cString
  rw [takeWhile_append]
  split
  · rename_i whole
    rw [(List.takeWhile_prefix _).eq_of_length whole]
    exact ⟨_, rfl⟩
  · exact ⟨[], (append_nil _).symm⟩

/-- A header block has been found at the start of what has arrived. -/
def HasHeaders (stream : List Byte) (size : Nat) : Prop :=
  ∃ headerEnd, strstr (cString stream) headerTerminator = some headerEnd ∧
    size = headerEnd + headerTerminator.length

theorem HasHeaders.append {stream : List Byte} {size : Nat}
    (has : HasHeaders stream size) (more : List Byte) :
    HasHeaders (stream ++ more) size := by
  obtain ⟨headerEnd, found, isSize⟩ := has
  obtain ⟨rest, same⟩ := cString_append stream more
  refine ⟨headerEnd, ?_, isSize⟩
  rw [same]
  exact strstr_append (by decide) found

def pieceBytes (pieces : List (Int × List Byte)) : List Byte :=
  pieces.flatMap Prod.snd

/-- Each piece begins where the ones before end, as an `int` counts it. -/
def ContiguousPieces (pieces : List (Int × List Byte)) : Prop :=
  Always (fun earlier piece =>
    piece.1 = int32 (pieceBytes earlier).length ∧ piece.2 ≠ []) pieces

namespace BodyAccount

def stream (account : BodyAccount) : List Byte :=
  account.received.flatten

/-- The bytes of the body that went out. -/
def passed (account : BodyAccount) : List Byte :=
  pieceBytes account.delivered

@[simp] theorem stream_receive (account : BodyAccount) (content : List Byte) :
    (account.receive content).stream = account.stream ++ content := by
  simp [stream, receive]

@[simp] theorem passed_receive (account : BodyAccount) (content : List Byte) :
    (account.receive content).passed = account.passed :=
  rfl

@[simp] theorem stream_complete (account : BodyAccount) (size : Nat) :
    (account.complete size).stream = account.stream :=
  rfl

@[simp] theorem passed_complete (account : BodyAccount) (size : Nat) :
    (account.complete size).passed = account.passed :=
  rfl

@[simp] theorem stream_finish (account : BodyAccount) (status bytes : Int) :
    (account.finish status bytes).stream = account.stream :=
  rfl

@[simp] theorem passed_finish (account : BodyAccount) (status bytes : Int) :
    (account.finish status bytes).passed = account.passed :=
  rfl

@[simp] theorem headers_deliver (account : BodyAccount) (offset : Int) (content : List Byte) :
    (account.deliver offset content).headers = account.headers := by
  unfold deliver
  split <;> rfl

@[simp] theorem stream_deliver (account : BodyAccount) (offset : Int) (content : List Byte) :
    (account.deliver offset content).stream = account.stream := by
  unfold deliver
  split <;> rfl

@[simp] theorem passed_deliver (account : BodyAccount) (offset : Int) (content : List Byte) :
    (account.deliver offset content).passed = account.passed ++ content := by
  unfold deliver
  split
  · rename_i empty
    rw [empty, append_nil]
  · simp [passed, pieceBytes]

structure Sound (account : BodyAccount) : Prop where
  contiguous : ContiguousPieces account.delivered
  early : account.headers = none → account.delivered = []
  headers : ∀ size, account.headers = some size → HasHeaders account.stream size
  body : ∀ size, account.headers = some size → account.passed <+: account.stream.drop size

namespace Sound

variable {account : BodyAccount}

theorem nothing : Sound {} where
  contiguous := Always.nil
  early _ := rfl
  headers _ isHeaders := by cases isHeaders
  body _ isHeaders := by cases isHeaders

theorem finish (sound : account.Sound) (status bytes : Int) : (account.finish status bytes).Sound :=
  ⟨sound.contiguous, sound.early, sound.headers, sound.body⟩

theorem receive (sound : account.Sound) (content : List Byte) :
    (account.receive content).Sound where
  contiguous := sound.contiguous
  early := sound.early
  headers size isHeaders := by
    rw [stream_receive]
    exact (sound.headers size isHeaders).append content
  body size isHeaders := by
    have before := sound.body size isHeaders
    rw [stream_receive, passed_receive, drop_append]
    exact before.trans (prefix_append _ _)

theorem deliver {size : Nat} {offset : Int} {content : List Byte}
    (sound : account.Sound) (isHeaders : account.headers = some size)
    (isOffset : offset = int32 account.passed.length)
    (next : account.passed ++ content <+: account.stream.drop size) :
    (account.deliver offset content).Sound where
  contiguous := by
    rw [BodyAccount.deliver]
    split
    · exact sound.contiguous
    · rename_i nonempty
      exact (Always.concat_iff _ _).mpr ⟨sound.contiguous, isOffset, nonempty⟩
  early isNone := by
    rw [headers_deliver, isHeaders] at isNone
    cases isNone
  headers other isOther := by
    rw [headers_deliver] at isOther
    rw [stream_deliver]
    exact sound.headers other isOther
  body other isOther := by
    rw [headers_deliver, isHeaders] at isOther
    cases isOther
    rw [passed_deliver, stream_deliver]
    exact next

end Sound

end BodyAccount

def HttpRequest.counters (req : HttpRequest) : Bool × List Byte × Int × Int × Int :=
  (req.headersComplete, req.recvBuf, req.totalReceived, req.bytesSent, req.contentLength)

structure HttpRequest.Unparsed (req : HttpRequest) (account : BodyAccount) :
    Prop where
  incomplete : req.headersComplete = false
  headers : account.headers = none
  delivered : account.delivered = []
  stream : account.stream = req.recvBuf
  total : req.totalReceived = int32 req.recvBuf.length
  unsent : req.bytesSent = 0
  unread : req.contentLength = -1

structure HttpRequest.Counted (req : HttpRequest) (account : BodyAccount)
    (size : Nat) : Prop where
  complete : req.headersComplete = true
  headers : account.headers = some size
  within : size ≤ account.stream.length
  body : account.stream.drop size = account.passed ++ req.recvBuf
  sent : req.bytesSent = int32 account.passed.length
  total : req.totalReceived = int32 (req.bytesSent + req.recvBuf.length)

inductive HttpRequest.Accounted (req : HttpRequest) (account : BodyAccount) :
    Prop
  | asking (asks : req.state = .idle ∨ req.state = .sendingRequest ∨ req.state = .sendingBody)
      (unparsed : req.Unparsed account) (empty : req.recvBuf = []) :
      HttpRequest.Accounted req account
  | headers (receiving : req.state = .receivingHeaders) (unparsed : req.Unparsed account)
      (bounded : req.recvBuf.length ≤ httpRecvBufSize - 1) :
      HttpRequest.Accounted req account
  | body {size : Nat} (receiving : req.state = .receivingBody) (counted : req.Counted account size)
      (bounded : req.recvBuf.length ≤ httpRecvBufSize - 1) :
      HttpRequest.Accounted req account

structure AccountedView (request : Option HttpRequest)
    (account : BodyAccount) : Prop where
  live : ∀ req, request = some req → req.Accounted account
  sound : account.Sound

namespace AccountedView

variable {req : HttpRequest} {account : BodyAccount}

theorem of_live (accounted : req.Accounted account) (sound : account.Sound) :
    AccountedView (some req) account where
  live _ isRequest := by
    cases isRequest
    exact accounted
  sound := sound

theorem of_ended (sound : account.Sound) (status bytes : Int) :
    AccountedView none (account.finish status bytes) where
  live _ isRequest := by cases isRequest
  sound := sound.finish status bytes

end AccountedView

namespace HttpRequest

variable {req : HttpRequest} {account : BodyAccount}

/-- Nothing is passed on before the header block is complete. -/
theorem Unparsed.passed (unparsed : req.Unparsed account) : account.passed = [] := by
  rw [BodyAccount.passed, unparsed.delivered]
  rfl

variable {other : HttpRequest}

theorem Unparsed.same (unparsed : req.Unparsed account) (same : other.counters = req.counters) :
    other.Unparsed account := by
  simp only [counters, Prod.mk.injEq] at same
  obtain ⟨complete, buffer, total, sent, length⟩ := same
  exact ⟨complete.trans unparsed.incomplete, unparsed.headers,
    unparsed.delivered, unparsed.stream.trans buffer.symm,
    by rw [total, buffer, unparsed.total], sent.trans unparsed.unsent,
    length.trans unparsed.unread⟩

variable {size : Nat}

theorem Counted.same (counted : req.Counted account size) (same : other.counters = req.counters) :
    other.Counted account size := by
  simp only [counters, Prod.mk.injEq] at same
  obtain ⟨complete, buffer, total, sent, _⟩ := same
  exact ⟨complete.trans counted.complete, counted.headers, counted.within,
    by rw [counted.body, buffer], sent.trans counted.sent,
    by rw [total, sent, buffer, counted.total]⟩

theorem Accounted.same (accounted : req.Accounted account)
    (same : other.counters = req.counters) (state : other.state = req.state) :
    other.Accounted account := by
  have buffer : other.recvBuf = req.recvBuf :=
    congrArg (fun counters => counters.2.1) same
  cases accounted with
  | asking asks unparsed empty =>
    rw [← state] at asks
    exact .asking asks (unparsed.same same) (buffer.trans empty)
  | headers receiving unparsed bounded =>
    rw [← buffer] at bounded
    exact .headers (state.trans receiving) (unparsed.same same) bounded
  | body receiving counted bounded =>
    rw [← buffer] at bounded
    exact .body (state.trans receiving) (counted.same same) bounded

theorem Accounted.state_headers (accounted : req.Accounted account)
    (receiving : req.state = .receivingHeaders) : req.Unparsed account := by
  cases accounted with
  | asking asks unparsed | headers _ unparsed => exact unparsed
  | body body => rw [receiving] at body; cases body

theorem Accounted.state_body (accounted : req.Accounted account)
    (receiving : req.state = .receivingBody) :
    ∃ size, req.Counted account size := by
  cases accounted with
  | asking asks => simp [receiving] at asks
  | headers headers => rw [receiving] at headers; cases headers
  | body _ counted => exact ⟨_, counted⟩

theorem Accounted.complete (accounted : req.Accounted account)
    (complete : req.headersComplete = true) :
    req.state = .receivingBody ∧ ∃ size, req.Counted account size := by
  cases accounted with
  | asking _ unparsed | headers _ unparsed =>
    rw [unparsed.incomplete] at complete
    cases complete
  | body receiving counted => exact ⟨receiving, _, counted⟩

theorem Accounted.bounded (accounted : req.Accounted account) :
    req.recvBuf.length ≤ httpRecvBufSize - 1 := by
  cases accounted with
  | asking _ _ empty => simp [empty]
  | headers _ _ bounded | body _ _ bounded => exact bounded

variable {content : List Byte}

theorem store_bounded (bounded : req.recvBuf.length ≤ httpRecvBufSize - 1)
    (fits : content.length ≤ req.room) :
    (req.store content).recvBuf.length ≤ httpRecvBufSize - 1 := by
  rw [room] at fits
  simp only [store, length_append]
  omega

theorem Unparsed.store (unparsed : req.Unparsed account) (content : List Byte) :
    (req.store content).Unparsed (account.receive content) where
  incomplete := unparsed.incomplete
  headers := unparsed.headers
  delivered := unparsed.delivered
  stream := by
    rw [BodyAccount.stream_receive, unparsed.stream]
    rfl
  total := by
    rw [HttpRequest.store, unparsed.total, int32_add_left, length_append, Int.natCast_add]
  unsent := unparsed.unsent
  unread := unparsed.unread

theorem Counted.store (counted : req.Counted account size) (content : List Byte) :
    (req.store content).Counted (account.receive content) size where
  complete := counted.complete
  headers := counted.headers
  within := by
    rw [BodyAccount.stream_receive, length_append]
    exact Nat.le_add_right_of_le counted.within
  body := by
    rw [BodyAccount.stream_receive, drop_append_of_le_length
      counted.within, counted.body, BodyAccount.passed_receive,
      append_assoc]
    rfl
  sent := counted.sent
  total := by
    have before := counted.total
    rw [HttpRequest.store, before, int32_add_left, length_append, Int.natCast_add, Int.add_assoc]

theorem sentAfter_eq {sent : Int} (isSent : req.bytesSent = int32 sent) (count : Nat) :
    req.sentAfter count = int32 (req.bytesSent + count) := by
  rw [sentAfter, isSent, int32_add_left]
  split
  · rename_i none
    rw [none]
    exact congrArg int32 (Int.add_zero sent).symm
  · rfl

theorem Counted.forward {rest : List Byte} (counted : req.Counted account size)
    (split : req.recvBuf = content ++ rest) :
    HttpRequest.Counted
      { req with
        bytesSent := int32 (req.bytesSent + content.length)
        recvBuf := rest }
      (account.deliver req.bytesSent content) size where
  complete := counted.complete
  headers := by
    rw [BodyAccount.headers_deliver]
    exact counted.headers
  within := by
    rw [BodyAccount.stream_deliver]
    exact counted.within
  body := by
    rw [BodyAccount.stream_deliver, BodyAccount.passed_deliver, counted.body, split, append_assoc]
  sent := by
    rw [BodyAccount.passed_deliver, length_append]
    dsimp only
    rw [counted.sent, int32_add_left, Int.natCast_add]
  total := by
    have lengths := congrArg List.length split
    rw [length_append] at lengths
    dsimp only
    rw [counted.total, lengths, int32_add_left, Int.natCast_add, Int.add_assoc]

theorem Counted.passOn (counted : req.Counted account size) :
    (req.passOn req.recvBuf.length).Counted (account.deliver req.bytesSent req.recvBuf) size := by
  rw [HttpRequest.passOn, sentAfter_eq counted.sent]
  exact counted.forward (append_nil _).symm

theorem Counted.sound_forward {rest : List Byte}
    (counted : req.Counted account size) (sound : account.Sound)
    (split : req.recvBuf = content ++ rest) :
    (account.deliver req.bytesSent content).Sound := by
  apply sound.deliver counted.headers counted.sent
  rw [counted.body, split, ← append_assoc]
  exact prefix_append _ _

theorem Unparsed.parse (unparsed : req.Unparsed account) {headerEnd : Nat}
    (within : headerEnd + headerTerminator.length ≤ req.recvBuf.length) :
    HttpRequest.Counted
      { req.readHeaders headerEnd with
        recvBuf := req.recvBuf.drop (headerEnd + headerTerminator.length) }
      (account.complete (headerEnd + headerTerminator.length))
      (headerEnd + headerTerminator.length) where
  complete := rfl
  headers := rfl
  within := by
    rw [BodyAccount.stream_complete, unparsed.stream]
    exact within
  body := by
    rw [BodyAccount.stream_complete, BodyAccount.passed_complete,
      unparsed.passed, unparsed.stream, nil_append]
  sent := by
    rw [BodyAccount.passed_complete, unparsed.passed]
    exact unparsed.unsent
  total := by
    have remaining : ((req.recvBuf.drop (headerEnd + headerTerminator.length)).length : Int) =
        req.recvBuf.length - (headerEnd + headerTerminator.length : Nat) := by
      rw [length_drop]
      omega
    simp only [readHeaders]
    rw [unparsed.total, int32_sub_left, remaining, unparsed.unsent, Int.zero_add]

theorem Unparsed.sound_parse (unparsed : req.Unparsed account)
    {headerEnd : Nat} (sound : account.Sound)
    (found : strstr (cString req.recvBuf) headerTerminator = some headerEnd) :
    (account.complete (headerEnd + headerTerminator.length)).Sound where
  contiguous := sound.contiguous
  early isNone := by cases isNone
  headers size isSize := by
    cases isSize
    rw [BodyAccount.stream_complete, unparsed.stream]
    exact ⟨headerEnd, found, rfl⟩
  body other _ := by
    rw [BodyAccount.passed_complete, unparsed.passed]
    exact nil_prefix

end HttpRequest

section

variable {req : HttpRequest} {account : BodyAccount}
  {request : Option HttpRequest} {noted : BodyAccount}

variable {hup : Bool}

theorem HeadersOutcome.accounted {headerEnd : Nat} {finished : Bool}
    (unparsed : req.Unparsed account) (sound : account.Sound)
    (bounded : req.recvBuf.length ≤ httpRecvBufSize - 1)
    (found : strstr (cString req.recvBuf) headerTerminator = some headerEnd)
    (outcome : HeadersOutcome (req.readHeaders headerEnd)
      (account.complete (headerEnd + headerTerminator.length))
      (req.recvBuf.drop (headerEnd + headerTerminator.length)) hup request
      noted finished) :
    AccountedView request noted := by
  have counted := unparsed.parse (headerEnd_within found)
  have parsed := unparsed.sound_parse sound found
  cases outcome with
  | bodyless => exact .of_ended parsed _ _
  | manual =>
    refine .of_live (.body rfl counted ?_) parsed
    rw [length_drop]
    exact (Nat.sub_le _ _).trans bounded
  | ends =>
    exact .of_ended (counted.sound_forward parsed (append_nil _).symm) _ _
  | goesOn =>
    refine .of_live (.body rfl counted.passOn (Nat.zero_le _)) ?_
    exact counted.sound_forward parsed (append_nil _).symm

theorem RecvHeadersOutcome.accounted (receiving : req.state = .receivingHeaders)
    (unparsed : req.Unparsed account) (sound : account.Sound)
    (bounded : req.recvBuf.length ≤ httpRecvBufSize - 1)
    (outcome : RecvHeadersOutcome req account hup request noted) :
    AccountedView request noted := by
  cases outcome with
  | complete found outcome =>
    exact outcome.accounted unparsed sound bounded found
  | goesOn found outcome =>
    have open' := outcome.accounted unparsed sound bounded found
    exact .of_live ((open'.live _ rfl).same rfl rfl) open'.sound
  | full => exact .of_ended sound _ _
  | waits =>
    have waiting : req.Accounted account :=
      .headers receiving unparsed bounded
    exact .of_live (waiting.same rfl rfl) sound

theorem RecvBodyOutcome.accounted {size : Nat} (receiving : req.state = .receivingBody)
    (counted : req.Counted account size) (sound : account.Sound)
    (bounded : req.recvBuf.length ≤ httpRecvBufSize - 1)
    (outcome : RecvBodyOutcome req account hup request noted) :
    AccountedView request noted := by
  have forwarded := counted.sound_forward sound (append_nil _).symm
  cases outcome with
  | manual => exact .of_live (.body receiving counted bounded) sound
  | ends => exact .of_ended forwarded _ _
  | goesOn =>
    exact .of_live (.body (by exact receiving) (counted.passOn.same rfl) (Nat.zero_le _)) forwarded

theorem SendOutcome.accounted (sending : req.state = .sendingRequest)
    (accounted : req.Accounted account) (sound : account.Sound)
    (outcome : SendOutcome req account request noted) :
    AccountedView request noted := by
  cases accounted with
  | headers receiving | body receiving => rw [sending] at receiving; cases receiving
  | asking asks unparsed empty =>
    cases outcome with
    | failed => exact .of_ended sound _ _
    | waits remaining =>
      exact .of_live (.asking asks (unparsed.same rfl) empty) sound
    | sent =>
      refine .of_live (.headers rfl (unparsed.same ?_) (Nat.zero_le _)) sound
      rw [HttpRequest.counters, HttpRequest.counters, empty]

theorem PollOutcome.accounted {found : Bool} {events : PollEvents} {log : SocketLog} {fd : Int}
    (accounted : req.Accounted account) (sound : account.Sound)
    (outcome : PollOutcome found events (modem.answer log fd req.room) req account request noted) :
    AccountedView request noted := by
  cases outcome with
  | lost => exact .of_ended sound _ _
  | rests => exact .of_live accounted sound
  | sends sending outcome => exact outcome.accounted sending accounted sound
  | failed | closedEarly | closed => exact .of_ended sound _ _
  | headers receiving _ answered _ outcome =>
    have fits := HttpRequest.store_bounded accounted.bounded (Modem.answer_length answered)
    exact outcome.accounted (by exact receiving)
      ((accounted.state_headers receiving).store _) (sound.receive _) fits
  | body receiving _ answered _ outcome =>
    have fits := HttpRequest.store_bounded accounted.bounded (Modem.answer_length answered)
    obtain ⟨size, counted⟩ := accounted.state_body receiving
    exact outcome.accounted (by exact receiving) (counted.store _) (sound.receive _) fits

variable {answer : Outcome (List Byte)}

theorem Pulls.counted {pullLen size : Nat} {content : List Byte} {passed : HttpRequest}
    (counted : req.Counted account size) (sound : account.Sound)
    (pulls : Pulls answer pullLen req account content passed noted) :
    passed.Counted noted size ∧ noted.Sound ∧ passed.recvBuf.length ≤ req.recvBuf.length ∧
      passed.state = req.state := by
  cases pulls with
  | buffered filled =>
    have split : req.recvBuf = req.recvBuf.take pullLen ++ req.recvBuf.drop pullLen :=
      (take_append_drop pullLen req.recvBuf).symm
    refine ⟨counted.forward split, counted.sound_forward sound split, ?_,
      rfl⟩
    rw [length_drop]
    exact Nat.sub_le _ _
  | direct empty =>
    -- As if the piece had been stored and drained at once.
    have stored := counted.store content
    have split : (req.store content).recvBuf = content ++ [] := by
      rw [HttpRequest.store, empty, append_nil, nil_append]
    have forwarded := stored.forward split
    refine ⟨⟨forwarded.complete, forwarded.headers, forwarded.within, ?_,
      forwarded.sent, ?_⟩, stored.sound_forward (sound.receive _) split,
      Nat.le_refl _, rfl⟩
    · rw [empty]
      exact forwarded.body
    · have total := forwarded.total
      rw [empty]
      exact total

theorem PullOutcome.accounted {pullLen : Nat}
    (accounted : req.Accounted account) (sound : account.Sound)
    (outcome : PullOutcome answer pullLen req account request noted) :
    AccountedView request noted := by
  cases outcome with
  | refused | waits => exact .of_live accounted sound
  | failed | closed => exact .of_ended sound _ _
  | ends complete pulls =>
    obtain ⟨_, size, counted⟩ := accounted.complete complete
    exact .of_ended (pulls.counted counted sound).2.1 _ _
  | goesOn complete pulls =>
    obtain ⟨receiving, size, counted⟩ := accounted.complete complete
    obtain ⟨after, soundAfter, shorter, sameState⟩ :=
      pulls.counted counted sound
    exact .of_live (.body (sameState.trans receiving) after
      (shorter.trans accounted.bounded)) soundAfter

end

end SerialModem.Socket
