import SerialModem.Library.CharBuffer
import SerialModem.Socket.HttpCommands
import SerialModem.Socket.Strings

/-!
# The text of a request in memory

`handle_at_httpcreq` goes over the header parameters twice: once for the size of
their concatenation, once to copy them.  `http_build_request` formats the
request with up to four calls of `snprintf`, into a buffer of
`http_headers_size` bytes.
-/

namespace SerialModem.Socket

open Library AtHost List Option
open Library.CharBuffer (Stored)

section Headers

variable (parser : AtParser)

/-- What both loops take from a parameter, unless they `continue`. -/
def headerParam (i : Nat) : Option (List Byte) :=
  match parser.string i with
  | .failed _ => none
  | .done header =>
    if header = [] ∨ header.head? = some 0 then none else some header

def headerIndices (index : Nat) : List Nat :=
  List.range' index (parser.count + 1 - index)

/-- The first loop, from a value of `headers_total_len`; `none` where it returns
`-ENOMEM`. -/
def headersTotalLen : List Nat → Nat → Option Nat
  | [], total => some total
  | i :: rest, total =>
    match headerParam parser i with
    | none => headersTotalLen rest total
    | some header =>
      let total := total + (header.length + 2)
      if httpExtraHeadersSize < total + 1 then none
      else headersTotalLen rest total

/-- The second loop, from a value of `pos`. -/
def copyHeaders : List Nat → Nat → CharBuffer Byte → Option (Nat × CharBuffer Byte)
  | [], pos, hdr => some (pos, hdr)
  | i :: rest, pos, hdr =>
    match headerParam parser i with
    | none => copyHeaders rest pos hdr
    | some header =>
      ((hdr.write pos header).bind fun hdr =>
        (hdr.write (pos + header.length) [13]).bind fun hdr =>
          hdr.write (pos + header.length + 1) [10]).bind
        (copyHeaders rest (pos + header.length + 2))

/-- The concatenation in a new block of memory, with the final `pos`. -/
def concatenateHeaders (index total : Nat) (memory : Nat → Byte) : Option (Nat × CharBuffer Byte) :=
  (copyHeaders parser (headerIndices parser index) 0 ⟨total + 1, memory⟩).bind
    fun copied => (copied.2.write copied.1 [0]).map (copied.1, ·)

end Headers

/-- A difference of type `size_t`. -/
def sizeDifference (size len : Nat) : Nat :=
  (size + 4294967296 - len) % 4294967296

/-- A call of `snprintf`: where it writes, with which size, and how long its
text is. -/
structure SnprintfCall where
  position : Nat
  room : Nat
  length : Nat

/-- `len` and `buf`, and the calls so far. -/
structure Building where
  len : Nat
  buffer : CharBuffer Byte
  calls : List SnprintfCall

def Building.append (bufLen : Nat) (text : List Byte) (building : Building) : Option Building :=
  let room := sizeDifference bufLen building.len
  (building.buffer.snprintf building.len room text).map fun buffer =>
    { len := building.len + text.length
      buffer := buffer
      calls := building.calls ++ [⟨building.len, room, text.length⟩] }

def requestStart (req : HttpRequest) : List Byte :=
  httpMethodStr req.method ++ [32] ++ cString req.path ++ ascii " HTTP/1.1" ++
    crlfStr ++ ascii "Host: " ++ cString req.hostname ++ crlfStr ++
    ascii "User-Agent: nRF91-Serial-Modem" ++ crlfStr ++
    ascii "Accept: */*" ++ crlfStr

def contentLengthLine (value : Int) : List Byte :=
  ascii "Content-Length: " ++ decimal value ++ crlfStr

/-- `http_build_request`; no extra headers stand for a null pointer. -/
def httpBuildRequestInto (req : HttpRequest) (bufLen : Nat)
    (buf : CharBuffer Byte) : Option Building :=
  (Building.append bufLen (requestStart req) ⟨0, buf, []⟩).bind fun started =>
    (if 0 < req.requestBodyLen then
      started.append bufLen (contentLengthLine req.requestBodyLen)
    else
      some started).bind fun sized =>
        (if req.extraHeaders ≠ [] then
          sized.append bufLen (cString req.extraHeaders)
        else
          some sized).bind fun extended => extended.append bufLen crlfStr

def httpHeadersSize (req : HttpRequest) : Nat :=
  (httpMethodStr req.method).length + 1 + (cString req.path).length +
    (ascii " HTTP/1.1" ++ crlfStr).length + (ascii "Host: ").length +
    (cString req.hostname).length + crlfStr.length +
    (ascii "User-Agent: nRF91-Serial-Modem" ++ crlfStr).length +
    (ascii "Accept: */*" ++ crlfStr).length +
    (if 0 < req.requestBodyLen then (contentLengthLine 2147483647).length
      else 0) +
    (if req.extraHeaders ≠ [] then (cString req.extraHeaders).length else 0) +
    crlfStr.length + 1

def httpAllocBuildHeaders (req : HttpRequest) (memory : Nat → Byte) : Option Building :=
  httpBuildRequestInto req (httpHeadersSize req) ⟨httpHeadersSize req, memory⟩

def HttpRequest.strings (req : HttpRequest) : HttpRequest :=
  { req with
    path := cString req.path
    hostname := cString req.hostname
    extraHeaders := cString req.extraHeaders }

section Headers

variable {parser : AtParser} {indices : List Nat}

def headersAt (parser : AtParser) (indices : List Nat) : List Byte :=
  (indices.filterMap (headerParam parser)).flatMap fun header =>
    header ++ crlfStr

theorem headersAt_headerIndices (index : Nat) :
    headersAt parser (headerIndices parser index) = extraHeaders parser index :=
  rfl

theorem headersAt_cons_of_none {i : Nat} (skipped : headerParam parser i = none) :
    headersAt parser (i :: indices) = headersAt parser indices := by
  rw [headersAt, headersAt, filterMap_cons_none skipped]

theorem headersAt_cons_of_some {i : Nat} {header : List Byte}
    (taken : headerParam parser i = some header) :
    headersAt parser (i :: indices) = header ++ crlfStr ++ headersAt parser indices := by
  rw [headersAt, headersAt, filterMap_cons_some taken, flatMap_cons]

/-- The first loop computes the length of the concatenation, unless the
concatenation is too long. -/
theorem headersTotalLen_eq (start : Nat) : headersTotalLen parser indices start =
      if headersAt parser indices ≠ [] ∧ httpExtraHeadersSize <
        start + (headersAt parser indices).length + 1 then none
      else some (start + (headersAt parser indices).length) := by
  induction indices generalizing start with
  | nil => rfl
  | cons i rest ih =>
    rw [headersTotalLen]
    cases taken : headerParam parser i with
    | none =>
      rw [headersAt_cons_of_none taken]
      exact ih start
    | some header =>
      rw [headersAt_cons_of_some taken]
      dsimp only
      rw [ih]
      have lineLength : (header ++ crlfStr ++ headersAt parser rest).length =
          header.length + 2 + (headersAt parser rest).length := by
        rw [length_append, length_append]
        rfl
      have nonempty : header ++ crlfStr ++ headersAt parser rest ≠ [] := by
        intro isNil
        rw [isNil] at lineLength
        exact absurd lineLength (by rw [length_nil]; omega)
      rw [lineLength]
      by_cases restEmpty : headersAt parser rest = []
      · rw [restEmpty] at nonempty ⊢
        grind
      · grind

theorem write_stored {buffer : CharBuffer Byte} {text more : List Byte}
    (stored : Stored buffer.contents 0 text)
    (inside : text.length + more.length ≤ buffer.size) :
    ∃ written, buffer.write text.length more = some written ∧ written.size = buffer.size ∧
      Stored written.contents 0 (text ++ more) := by
  refine ⟨_, if_pos inside, rfl, ?_⟩
  have extended := @Stored.append Byte buffer.contents 0 text more stored
  rw [Nat.zero_add] at extended
  exact extended

theorem copyHeaders_stored {hdr : CharBuffer Byte} {text : List Byte}
    (stored : Stored hdr.contents 0 text)
    (inside : text.length + (headersAt parser indices).length ≤ hdr.size) :
    ∃ copied, copyHeaders parser indices text.length hdr =
        some (text.length + (headersAt parser indices).length, copied) ∧
      copied.size = hdr.size ∧
      Stored copied.contents 0 (text ++ headersAt parser indices) := by
  induction indices generalizing text hdr with
  | nil =>
    refine ⟨hdr, rfl, rfl, ?_⟩
    rw [headersAt, filterMap_nil, flatMap_nil, append_nil]
    exact stored
  | cons i rest ih =>
    rw [copyHeaders]
    cases taken : headerParam parser i with
    | none =>
      rw [headersAt_cons_of_none taken] at inside ⊢
      exact ih stored inside
    | some header =>
      rw [headersAt_cons_of_some taken] at inside ⊢
      simp only [length_append] at inside
      have ending : crlfStr.length = 2 := rfl
      obtain ⟨named, isNamed, sizeNamed, storedNamed⟩ :=
        @write_stored hdr text header stored (by omega)
      have lengthNamed : (text ++ header).length = text.length + header.length := length_append
      obtain ⟨returned, isReturned, sizeReturned, storedReturned⟩ :=
        @write_stored named (text ++ header) [13] storedNamed (by
          rw [lengthNamed, length_singleton]
          omega)
      have lengthReturned : (text ++ header ++ [13]).length = text.length + header.length + 1 := by
        rw [length_append, lengthNamed]
        rfl
      obtain ⟨ended, isEnded, sizeEnded, storedEnded⟩ :=
        @write_stored returned (text ++ header ++ [13]) [10] storedReturned (by
            rw [lengthReturned, length_singleton]
            omega)
      have lengthEnded : (text ++ header ++ [13] ++ [10]).length =
          text.length + header.length + 2 := by
        rw [length_append, lengthReturned]
        rfl
      rw [lengthNamed] at isReturned
      rw [lengthReturned] at isEnded
      obtain ⟨copied, isCopied, sizeCopied, storedCopied⟩ :=
        ih storedEnded (by omega)
      rw [lengthEnded] at isCopied
      refine ⟨copied, ?_, by omega, ?_⟩
      · dsimp only
        rw [isNamed, bind_some, isReturned, bind_some, isEnded, bind_some, isCopied, length_append,
          length_append, ending]
        congr 2
        omega
      · rw [append_assoc, append_assoc] at storedCopied
        rw [append_assoc]
        rw [append_assoc] at storedCopied
        exact storedCopied

/-- The two loops agree: the concatenation and its end fill the block. -/
theorem concatenateHeaders_fills (index : Nat) (memory : Nat → Byte) :
    ∃ hdr, concatenateHeaders parser index (extraHeaders parser index).length memory =
          some ((extraHeaders parser index).length, hdr) ∧
      hdr.size = (extraHeaders parser index ++ [0]).length ∧
      Stored hdr.contents 0 (extraHeaders parser index ++ [0]) := by
  rw [← headersAt_headerIndices]
  obtain ⟨copied, isCopied, sizeCopied, storedCopied⟩ :=
    @copyHeaders_stored parser (headerIndices parser index)
      ⟨(headersAt parser (headerIndices parser index)).length + 1, memory⟩ []
      Stored.nil (by
        rw [length_nil, Nat.zero_add]
        exact Nat.le_succ _)
  rw [nil_append] at storedCopied
  rw [length_nil, Nat.zero_add] at isCopied
  obtain ⟨ended, isEnded, sizeEnded, storedEnded⟩ :=
    @write_stored copied _ [0] storedCopied (Nat.le_of_eq sizeCopied.symm)
  refine ⟨ended, ?_, ?_, storedEnded⟩
  · rw [concatenateHeaders, isCopied, bind_some, isEnded]
    rfl
  · rw [sizeEnded, sizeCopied, length_append]
    rfl

end Headers

/-- A request is built so far: its text stands in the buffer, and no call was
given too little room. -/
structure Building.Holds (size : Nat) (text : List Byte) (building : Building) :
    Prop where
  len : building.len = text.length
  bufferSize : building.buffer.size = size
  stored : Stored building.buffer.contents 0 text
  calls : ∀ call ∈ building.calls, call.position < size ∧
    call.room = size - call.position ∧ call.length < call.room

theorem sizeDifference_of_le {size len : Nat} (small : size < 4294967296)
    (within : len ≤ size) : sizeDifference size len = size - len := by
  unfold sizeDifference
  omega

theorem Building.Holds.append {size : Nat} {text more : List Byte}
    {building : Building} (holds : building.Holds size text)
    (small : size < 4294967296)
    (within : text.length + more.length < size) :
    ∃ next, building.append size more = some next ∧
      next.Holds size (text ++ more) ∧
      Stored next.buffer.contents 0 (text ++ more ++ [0]) := by
  have room : sizeDifference size building.len = size - text.length := by
    rw [holds.len]
    exact sizeDifference_of_le small (by omega)
  obtain ⟨written, isWritten, sizeWritten, storedWritten⟩ :=
    @write_stored building.buffer text (more ++ [0]) holds.stored (by
      rw [holds.bufferSize, length_append, length_singleton]
      omega)
  rw [← append_assoc] at storedWritten
  obtain ⟨space, isSpace⟩ : ∃ space, size - text.length = space + 1 :=
    Nat.exists_eq_add_of_le' (by omega)
  have whole : more.take space = more := take_of_length_le (by omega)
  have formatted : building.buffer.snprintf building.len
      (sizeDifference size building.len) more = some written := by
    rw [room, isSpace, CharBuffer.snprintf, whole, holds.len, isWritten]
  refine ⟨_, congrArg (Option.map _) formatted, ?_, storedWritten⟩
  exact
    { len := by
        rw [length_append, ← holds.len]
      bufferSize := sizeWritten.trans holds.bufferSize
      stored := storedWritten.left
      calls := by
        intro call member
        rcases mem_append.mp member with earlier | last
        · exact holds.calls call earlier
        · obtain rfl := mem_singleton.mp last
          dsimp only
          rw [room, holds.len]
          omega }

theorem Building.Holds.appendOptional {size : Nat}
    {text part more : List Byte} {building : Building} {present : Prop}
    [Decidable present] (holds : building.Holds size text)
    (small : size < 4294967296)
    (isPart : part = if present then more else [])
    (within : text.length + part.length < size) :
    ∃ next, (if present then building.append size more else some building) = some next ∧
      next.Holds size (text ++ part) := by
  by_cases isPresent : present
  · rw [if_pos isPresent] at isPart ⊢
    obtain ⟨next, isNext, holdsNext, -⟩ := holds.append small (isPart ▸ within)
    exact ⟨next, isNext, isPart ▸ holdsNext⟩
  · rw [if_neg isPresent] at isPart ⊢
    rw [isPart, append_nil]
    exact ⟨building, rfl, holds⟩

theorem length_decimal_le {value : Int} (nonneg : 0 ≤ value)
    (small : value ≤ 2147483647) : (decimal value).length ≤ 10 := by
  obtain ⟨number, rfl⟩ := Int.eq_ofNat_of_zero_le nonneg
  have digits : decimal (number : Int) = (Nat.toDigits 10 number).map fun character =>
        UInt8.ofNat character.toNat := by
    rw [decimal, ascii, ← Nat.toList_repr]
    rfl
  rw [digits, length_map]
  apply (Nat.length_toDigits_le_iff (by decide) (by decide)).mpr
  have isInt : number ≤ 2147483647 := by exact_mod_cast small
  exact Nat.lt_of_le_of_lt isInt (by decide)

def contentLengthPart (req : HttpRequest) : List Byte :=
  if 0 < req.requestBodyLen then contentLengthLine req.requestBodyLen else []

theorem httpBuildRequest_strings (req : HttpRequest) : httpBuildRequest req.strings =
      requestStart req ++ contentLengthPart req ++ cString req.extraHeaders ++
        crlfStr := by
  unfold httpBuildRequest requestStart contentLengthPart contentLengthLine
  rfl

theorem length_lt_httpHeadersSize (req : HttpRequest) (small : req.requestBodyLen ≤ 2147483647) :
    (httpBuildRequest req.strings).length < httpHeadersSize req := by
  have start : (requestStart req).length =
      (httpMethodStr req.method).length + 1 + (cString req.path).length +
        (ascii " HTTP/1.1" ++ crlfStr).length + (ascii "Host: ").length +
        (cString req.hostname).length + crlfStr.length +
        (ascii "User-Agent: nRF91-Serial-Modem" ++ crlfStr).length +
        (ascii "Accept: */*" ++ crlfStr).length := by
    simp only [requestStart, length_append, length_singleton]
    omega
  have sized : (contentLengthPart req).length ≤
      if 0 < req.requestBodyLen then (contentLengthLine 2147483647).length
      else 0 := by
    unfold contentLengthPart
    split
    · rename_i positive
      have digits := length_decimal_le (Int.le_of_lt positive) small
      have most : (decimal 2147483647).length = 10 := by decide
      simp only [contentLengthLine, length_append]
      omega
    · exact Nat.le_refl 0
  have extended : (cString req.extraHeaders).length =
      if req.extraHeaders ≠ [] then (cString req.extraHeaders).length
      else 0 := by
    by_cases isNil : req.extraHeaders = []
    · rw [isNil]
      rfl
    · rw [if_pos isNil]
  rw [httpBuildRequest_strings]
  simp only [length_append]
  unfold httpHeadersSize
  rw [← start, ← extended]
  omega

/-- The request stands in its buffer, with the end behind it; the length that is
returned is its own, and every call of `snprintf` had room for its text. -/
def BuildsExactly (req : HttpRequest) : Prop :=
  ∀ memory, ∃ built, httpAllocBuildHeaders req memory = some built ∧
    built.len = (httpBuildRequest req.strings).length ∧
    Stored built.buffer.contents 0 (httpBuildRequest req.strings ++ [0]) ∧
    ∀ call ∈ built.calls, call.position < httpHeadersSize req ∧
      call.room = httpHeadersSize req - call.position ∧
      call.length < call.room

theorem buildsExactly {req : HttpRequest} (isInt : req.requestBodyLen ≤ 2147483647)
    (small : httpHeadersSize req < 4294967296) : BuildsExactly req := by
  intro memory
  have fits := length_lt_httpHeadersSize req isInt
  rw [httpBuildRequest_strings] at fits
  simp only [length_append] at fits
  have begins : Building.Holds (httpHeadersSize req) [] ⟨0, ⟨httpHeadersSize req, memory⟩, []⟩ :=
    { len := rfl
      bufferSize := rfl
      stored := Stored.nil
      calls := fun _ member => absurd member not_mem_nil }
  obtain ⟨started, isStarted, holdsStart, -⟩ :=
    @Building.Holds.append _ [] (requestStart req) _ begins small (by
      rw [length_nil]
      omega)
  rw [nil_append] at holdsStart
  have extraPart : cString req.extraHeaders =
      if req.extraHeaders ≠ [] then cString req.extraHeaders else [] := by
    by_cases isNil : req.extraHeaders = []
    · rw [isNil]
      rfl
    · rw [if_pos isNil]
  have sizedPart : contentLengthPart req =
      if 0 < req.requestBodyLen then contentLengthLine req.requestBodyLen
      else [] := rfl
  obtain ⟨sized, isSized, holdsSized⟩ :=
    holdsStart.appendOptional small sizedPart (by omega)
  obtain ⟨extended, isExtended, holdsExtended⟩ :=
    holdsSized.appendOptional small extraPart (by
      rw [length_append]
      omega)
  obtain ⟨built, isBuilt, holdsBuilt, ended⟩ :=
    @Building.Holds.append _ _ crlfStr _ holdsExtended small (by
      simp only [length_append]
      omega)
  rw [← httpBuildRequest_strings] at holdsBuilt ended
  refine ⟨built, ?_, holdsBuilt.len, ended, holdsBuilt.calls⟩
  rw [httpAllocBuildHeaders, httpBuildRequestInto, isStarted, bind_some,
    isSized, bind_some, isExtended, bind_some, isBuilt]

end SerialModem.Socket
