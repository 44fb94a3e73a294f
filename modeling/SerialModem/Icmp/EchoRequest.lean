import SerialModem.Icmp.Checksum

/-!
# The echo request of `AT#XPING`

`send_ping_wait_reply` writes the request into a buffer of
`ICMP_DEFAULT_LINK_MTU` bytes.  Its length comes from the command as a number of
16 bits and is not compared with the buffer.
-/

namespace SerialModem.Icmp

open Library Option

def icmpDefaultLinkMtu : Nat := 1500

def icmpHdrLen : Nat := 8

def ipprotoIcmp : Nat := 1

def ipprotoIcmpv6 : Nat := 58

/-- `ICMP_ECHO_REQ` and `ICMP6_ECHO_REQ`. -/
def icmpEchoReq : Nat := 8
def icmp6EchoReq : Nat := 128

inductive Endpoints where
  /-- `sin_addr.s_addr`. -/
  | inet (src dest : UInt32)
  /-- `sin6_addr.s6_addr`. -/
  | inet6 (src dest : Vector Byte 16)
  deriving DecidableEq

/-- What `send_ping_wait_reply` reads of `ping_argv` for the request. -/
structure PingArgv where
  endpoints : Endpoints
  /-- The length that `at_parser_num_get` accepts for a `uint16_t`. -/
  len : Nat
  len_lt : len < 0x10000

/-- `NET_IPV4H_LEN` and `NET_IPV6H_LEN`. -/
def Endpoints.headerLen : Endpoints → Nat
  | inet _ _ => 20
  | inet6 _ _ => 40

/-- A write to the buffer; `none` where it leaves the buffer. -/
abbrev Write := List Byte → Option (List Byte)

def runWrites (writes : List Write) (buf : List Byte) : Option (List Byte) :=
  writes.foldlM (fun buf write => write buf) buf

def setip (pos : Nat) (ipaddr : UInt32) : Write :=
  runWrites [store8 pos ipaddr.toNat, store8 (pos + 1) (ipaddr.toNat / 0x100),
    store8 (pos + 2) (ipaddr.toNat / 0x10000),
    store8 (pos + 3) (ipaddr.toNat / 0x1000000)]

def memcpy (pos : Nat) (bytes : List Byte) : Write := fun buf =>
  if pos + bytes.length ≤ buf.length then
    some (buf.take pos ++ bytes ++ buf.drop (pos + bytes.length))
  else
    none

/-- The loops over the payload: `buffer[pos + i]` for `count` values of `i`. -/
def fillPayload (pos seqnr : Nat) : Nat → Nat → Write
  | 0, _, buf => some buf
  | count + 1, i, buf => do
    let buf ← store8 (pos + i) ((i + seqnr) % 10 + 48) buf
    fillPayload pos seqnr count (i + 1) buf

/-- The length that has the effect of an `int` on `check_ics`: a negative one
runs no loop, and its low bits still ask for the tails. -/
def intLength (len : Int) : Nat :=
  if 0 ≤ len then len.toNat else (len % 4).toNat

/-- `total_length`, a `uint16_t`. -/
def totalLength (argv : PingArgv) : Nat :=
  match argv.endpoints with
  | .inet _ _ => (argv.len + 20 + icmpHdrLen) % 0x10000
  | .inet6 _ _ => ((argv.len + icmpHdrLen) % 0x10000 + 40) % 0x10000

/-- `payload_length`, a `uint16_t`. -/
def payloadLength (argv : PingArgv) : Nat :=
  (argv.len + icmpHdrLen) % 0x10000

def ipv4Header (src dest : UInt32) (totalLength seqnr : Nat) : List Write :=
  [store8 0 (4 * 0x10 + 20 / 4), store8 2 (totalLength / 0x100), store8 3 totalLength,
    store8 8 64, store8 9 ipprotoIcmp,
    setip 12 src, setip 16 dest,
    calcIcs 0 20 10,
    store8 20 icmpEchoReq, store8 27 seqnr]

def ipv4Writes (src dest : UInt32) (totalLength seqnr : Nat) : List Write :=
  ipv4Header src dest totalLength seqnr ++
    -- `for (int i = 8; i < total_length - header_len; i++)`
    [fillPayload 20 seqnr (totalLength - 20 - 8) 8,
      calcIcs 20 (intLength ((totalLength : Int) - 20)) 2]

/-- The sum of the five partial checksums over an ICMPv6 packet. -/
def icmp6Hcs (buf : List Byte) (dataLen : Nat) : Option Nat := do
  let addresses ← checkIcs buf 8 32
  let length ← checkIcs buf 4 2
  let nextHeader ← buf[6]?
  let protocol ← checkIcs [0, nextHeader] 0 2
  let typeCode ← checkIcs buf 40 2
  let data ← checkIcs buf 44 dataLen
  return foldCarry (addresses + length + protocol + typeCode + data)

def storeIcmp6Hcs (dataLen : Nat) : Write := fun buf => do
  let hcs ← icmp6Hcs buf dataLen
  runWrites [store8 42 hcs, store8 43 (hcs / 0x100)] buf

def ipv6Header (src dest : Vector Byte 16) (payloadLength seqnr : Nat) : List Write :=
  [store8 0 (6 * 0x10), store8 4 (payloadLength / 0x100), store8 5 payloadLength,
    store8 6 ipprotoIcmpv6, store8 7 64,
    memcpy 8 src.toList, memcpy 24 dest.toList,
    store8 40 icmp6EchoReq, store8 47 seqnr]

def ipv6Writes (src dest : Vector Byte 16) (len payloadLength seqnr : Nat) : List Write :=
  ipv6Header src dest payloadLength seqnr ++
    -- `for (int i = 0; i < ping_argv.len; i++)`, at `data[i + icmp_hdr_len]`
    [fillPayload 48 seqnr len 0, storeIcmp6Hcs (4 + len)]

/-- The packet generation of `send_ping_wait_reply`, once `calloc` has given the
buffer; `seqnr` has been incremented. -/
def generateRequest (argv : PingArgv) (seqnr : Nat) : Option (List Byte) :=
  runWrites (match argv.endpoints with
      | .inet src dest => ipv4Writes src dest (totalLength argv) seqnr
      | .inet6 src dest => ipv6Writes src dest argv.len (payloadLength argv) seqnr)
    (List.replicate icmpDefaultLinkMtu 0)

def KeepsLength (write : Write) : Prop :=
  ∀ buf after, write buf = some after → after.length = buf.length

structure Inside (size : Nat) (write : Write) : Prop where
  succeeds : ∀ buf, buf.length = size → (write buf).isSome
  keeps : KeepsLength write

theorem runWrites_cons (write : Write) (rest : List Write) (buf : List Byte) :
    runWrites (write :: rest) buf = (write buf).bind (runWrites rest) := by
  rw [runWrites, List.foldlM_cons]
  rfl

theorem runWrites_append (first second : List Write) (buf : List Byte) :
    runWrites (first ++ second) buf = (runWrites first buf).bind (runWrites second) := by
  rw [runWrites, List.foldlM_append]
  rfl

theorem KeepsLength.run {writes : List Write} (keep : ∀ write ∈ writes, KeepsLength write) :
    KeepsLength (runWrites writes) := by
  induction writes with
  | nil =>
    rintro buf after ⟨⟩
    rfl
  | cons write rest ih =>
    intro buf after ran
    obtain ⟨keeps, others⟩ := List.forall_mem_cons.mp keep
    rw [runWrites_cons] at ran
    obtain ⟨middle, first, remaining⟩ := bind_eq_some_iff.mp ran
    rw [ih others middle after remaining, keeps buf middle first]

variable {size : Nat}

theorem Inside.run {writes : List Write} (inside : ∀ write ∈ writes, Inside size write) :
    Inside size (runWrites writes) where
  succeeds := by
    induction writes with
    | nil => exact fun _ _ => rfl
    | cons write rest ih =>
      intro buf isSize
      obtain ⟨first, others⟩ := List.forall_mem_cons.mp inside
      obtain ⟨middle, ran⟩ :=
        isSome_iff_exists.mp (first.succeeds buf isSize)
      rw [runWrites_cons, ran]
      exact ih others middle ((first.keeps buf middle ran).trans isSize)
  keeps := KeepsLength.run fun write member => (inside write member).keeps

theorem store8_keepsLength (pos value : Nat) : KeepsLength (store8 pos value) := by
  intro buf after ran
  unfold store8 at ran
  split at ran
  · cases ran
    exact List.length_set
  · cases ran

variable {pos : Nat}

theorem store8_inside (value : Nat) (within : pos < size) : Inside size (store8 pos value) where
  succeeds buf isSize := by
    rw [store8, if_pos (by omega)]
    rfl
  keeps := store8_keepsLength pos value

theorem store16_eq_runWrites (pos value : Nat) : store16 pos value =
      runWrites [store8 pos value, store8 (pos + 1) (value / 0x100)] := by
  funext buf
  rw [store16, runWrites_cons]
  cases store8 pos value buf with
  | none => rfl
  | some middle =>
    rw [bind_eq_bind, bind_some, bind_some, runWrites_cons]
    cases store8 (pos + 1) (value / 0x100) middle <;> rfl

theorem store16_keepsLength (pos value : Nat) : KeepsLength (store16 pos value) := by
  rw [store16_eq_runWrites]
  apply KeepsLength.run
  intro write member
  simp only [List.mem_cons, List.not_mem_nil, or_false] at member
  rcases member with rfl | rfl
  · exact store8_keepsLength _ _
  · exact store8_keepsLength _ _

theorem store16_inside {size pos : Nat} (value : Nat) (within : pos + 2 ≤ size) :
    Inside size (store16 pos value) := by
  rw [store16_eq_runWrites]
  apply Inside.run
  intro write member
  simp only [List.mem_cons, List.not_mem_nil, or_false] at member
  rcases member with rfl | rfl
  · exact store8_inside value (by omega)
  · exact store8_inside _ (by omega)

theorem setip_inside (ipaddr : UInt32) (within : pos + 4 ≤ size) :
    Inside size (setip pos ipaddr) := by
  apply Inside.run
  intro write member
  simp only [List.mem_cons, List.not_mem_nil, or_false] at member
  rcases member with rfl | rfl | rfl | rfl
  · exact store8_inside _ (by omega)
  · exact store8_inside _ (by omega)
  · exact store8_inside _ (by omega)
  · exact store8_inside _ (by omega)

theorem memcpy_inside {bytes : List Byte} (within : pos + bytes.length ≤ size) :
    Inside size (memcpy pos bytes) where
  succeeds buf isSize := by
    rw [memcpy, if_pos (by omega)]
    rfl
  keeps := by
    intro buf after ran
    unfold memcpy at ran
    split at ran
    · cases ran
      simp only [List.length_append, List.length_take, List.length_drop]
      omega
    · cases ran

theorem calcIcs_keepsLength (pos len hcsPos : Nat) : KeepsLength (calcIcs pos len hcsPos) := by
  intro buf after ran
  obtain ⟨cleared, isCleared, rest⟩ := bind_eq_some_iff.mp ran
  obtain ⟨hcs, _, isStored⟩ := bind_eq_some_iff.mp rest
  rw [store16_keepsLength _ _ _ _ isStored, store16_keepsLength _ _ _ _ isCleared]

variable {len : Nat}

theorem calcIcs_inside {hcsPos : Nat} (within : pos + len ≤ size)
    (stored : pos + hcsPos + 2 ≤ size) : Inside size (calcIcs pos len hcsPos) where
  succeeds buf isSize := by
    have clear := @store16_inside size (pos + hcsPos) 0 stored
    obtain ⟨cleared, isCleared⟩ :=
      isSome_iff_exists.mp (clear.succeeds buf isSize)
    have sameSize := (clear.keeps buf cleared isCleared).trans isSize
    have computed := @checkIcs_eq cleared pos len (by omega)
    rw [calcIcs, isCleared]
    simp only [bind_eq_bind, bind_some, computed]
    exact (store16_inside _ stored).succeeds cleared sameSize
  keeps := calcIcs_keepsLength pos len hcsPos

theorem fillPayload_keepsLength (pos seqnr count : Nat) :
    ∀ i, KeepsLength (fillPayload pos seqnr count i) := by
  induction count with
  | zero =>
    rintro i buf after ⟨⟩
    rfl
  | succ count ih =>
    intro i buf after ran
    obtain ⟨middle, first, remaining⟩ := bind_eq_some_iff.mp ran
    rw [ih (i + 1) middle after remaining, store8_keepsLength _ _ buf middle first]

theorem fillPayload_isSome_iff (pos seqnr count : Nat) :
    ∀ {i : Nat} {buf : List Byte}, (fillPayload pos seqnr count i buf).isSome ↔
        count = 0 ∨ pos + i + count ≤ buf.length := by
  induction count with
  | zero =>
    intro i buf
    exact ⟨fun _ => .inl rfl, fun _ => rfl⟩
  | succ count ih =>
    intro i buf
    rw [fillPayload]
    by_cases within : pos + i < buf.length
    · have stored : store8 (pos + i) ((i + seqnr) % 10 + 48) buf =
          some (buf.set (pos + i) (UInt8.ofNat ((i + seqnr) % 10 + 48))) :=
        if_pos within
      rw [stored, bind_eq_bind, bind_some, ih, List.length_set]
      omega
    · have outside : store8 (pos + i) ((i + seqnr) % 10 + 48) buf = none :=
        if_neg within
      rw [outside]
      refine ⟨?_, ?_⟩
      · rintro ⟨⟩
      · omega

theorem fillPayload_inside {seqnr count i : Nat} (within : pos + i + count ≤ size) :
    Inside size (fillPayload pos seqnr count i) where
  succeeds buf isSize :=
    (fillPayload_isSome_iff pos seqnr count).mpr (.inr (by omega))
  keeps := fillPayload_keepsLength pos seqnr count i

theorem icmp6Hcs_isSome {buf : List Byte} {dataLen : Nat}
    (within : 44 + dataLen ≤ buf.length) : (icmp6Hcs buf dataLen).isSome := by
  have nextHeader : 6 < buf.length := by omega
  have first := @checkIcs_eq buf 8 32 (by omega)
  have second := @checkIcs_eq buf 4 2 (by omega)
  have third := @checkIcs_eq [0, buf[6]] 0 2 (by simp)
  have fourth := @checkIcs_eq buf 40 2 (by omega)
  have fifth := @checkIcs_eq buf 44 dataLen within
  rw [icmp6Hcs, List.getElem?_eq_getElem nextHeader]
  simp only [bind_eq_bind, bind_some, first, second, third, fourth, fifth]
  rfl

theorem storeIcmp6Hcs_inside {dataLen : Nat} (within : 44 + dataLen ≤ size) :
    Inside size (storeIcmp6Hcs dataLen) := by
  have stores : ∀ hcs : Nat, Inside size (runWrites [store8 42 hcs, store8 43 (hcs / 0x100)]) := by
    intro hcs
    apply Inside.run
    intro write member
    simp only [List.mem_cons, List.not_mem_nil, or_false] at member
    rcases member with rfl | rfl
    · exact store8_inside _ (by omega)
    · exact store8_inside _ (by omega)
  constructor
  · intro buf isSize
    obtain ⟨hcs, isHcs⟩ :=
      isSome_iff_exists.mp (@icmp6Hcs_isSome buf dataLen (by omega))
    rw [storeIcmp6Hcs, isHcs]
    exact (stores hcs).succeeds buf isSize
  · intro buf after ran
    obtain ⟨hcs, _, isStored⟩ := bind_eq_some_iff.mp ran
    exact (stores hcs).keeps buf after isStored

/-- The packet is generated inside its buffer, and its length fields do not wrap
around. -/
structure GeneratesExactly (argv : PingArgv) (seqnr : Nat) : Prop where
  inside : (generateRequest argv seqnr).isSome
  total : totalLength argv = argv.endpoints.headerLen + icmpHdrLen + argv.len
  payload : ∀ src dest, argv.endpoints = .inet6 src dest →
    payloadLength argv = icmpHdrLen + argv.len

theorem ipv4Header_inside (src dest : UInt32) (totalLength seqnr : Nat) :
    ∀ write ∈ ipv4Header src dest totalLength seqnr, Inside icmpDefaultLinkMtu write := by
  intro write member
  simp only [ipv4Header, List.mem_cons, List.not_mem_nil, or_false] at member
  rcases member with rfl | rfl | rfl | rfl | rfl | rfl | rfl | rfl | rfl | rfl
  · exact store8_inside _ (by decide)
  · exact store8_inside _ (by decide)
  · exact store8_inside _ (by decide)
  · exact store8_inside _ (by decide)
  · exact store8_inside _ (by decide)
  · exact setip_inside _ (by decide)
  · exact setip_inside _ (by decide)
  · exact calcIcs_inside (by decide) (by decide)
  · exact store8_inside _ (by decide)
  · exact store8_inside _ (by decide)

theorem ipv6Header_inside (src dest : Vector Byte 16) (payloadLength seqnr : Nat) :
    ∀ write ∈ ipv6Header src dest payloadLength seqnr, Inside icmpDefaultLinkMtu write := by
  intro write member
  simp only [ipv6Header, List.mem_cons, List.not_mem_nil, or_false] at member
  rcases member with rfl | rfl | rfl | rfl | rfl | rfl | rfl | rfl | rfl
  · exact store8_inside _ (by decide)
  · exact store8_inside _ (by decide)
  · exact store8_inside _ (by decide)
  · exact store8_inside _ (by decide)
  · exact store8_inside _ (by decide)
  · exact memcpy_inside (by rw [Vector.length_toList]; decide)
  · exact memcpy_inside (by rw [Vector.length_toList]; decide)
  · exact store8_inside _ (by decide)
  · exact store8_inside _ (by decide)

theorem runWrites_reaches {header rest : List Write} {write : Write}
    {buf : List Byte} (keep : ∀ write ∈ header, KeepsLength write)
    (succeeds : (runWrites (header ++ write :: rest) buf).isSome) :
    ∃ middle, middle.length = buf.length ∧ (write middle).isSome := by
  obtain ⟨after, ran⟩ := isSome_iff_exists.mp succeeds
  rw [runWrites_append] at ran
  obtain ⟨middle, first, remaining⟩ := bind_eq_some_iff.mp ran
  rw [runWrites_cons] at remaining
  obtain ⟨written, isWritten, _⟩ := bind_eq_some_iff.mp remaining
  exact ⟨middle, KeepsLength.run keep buf middle first, isSome_iff_exists.mpr ⟨written, isWritten⟩⟩

theorem runWrites_isSome {header : List Write} {payload last : Write}
    {buf : List Byte} (inside : ∀ write ∈ header, Inside buf.length write)
    (payloadInside : Inside buf.length payload)
    (lastInside : Inside buf.length last) :
    (runWrites (header ++ payload :: [last]) buf).isSome := by
  refine (Inside.run ?_).succeeds buf rfl
  intro write member
  rcases List.mem_append.mp member with inHeader | behind
  · exact inside write inHeader
  · rcases List.mem_cons.mp behind with rfl | isLast
    · exact payloadInside
    · rw [List.mem_singleton.mp isLast]
      exact lastInside

theorem intLength_le {total : Nat} (within : total ≤ size) (large : 23 ≤ size) :
    20 + intLength ((total : Int) - 20) ≤ size := by
  unfold intLength
  split <;> omega

theorem ipv4_isSome_iff (src dest : UInt32) (len_lt : len < 0x10000) (seqnr : Nat) :
    (generateRequest ⟨.inet src dest, len, len_lt⟩ seqnr).isSome ↔
      totalLength ⟨.inet src dest, len, len_lt⟩ ≤ icmpDefaultLinkMtu := by
  have size : (List.replicate icmpDefaultLinkMtu (0 : Byte)).length =
      icmpDefaultLinkMtu := List.length_replicate
  have isRequest : generateRequest ⟨.inet src dest, len, len_lt⟩ seqnr =
      runWrites (ipv4Writes src dest (totalLength ⟨.inet src dest, len, len_lt⟩) seqnr)
        (List.replicate icmpDefaultLinkMtu 0) := rfl
  generalize totalLength ⟨.inet src dest, len, len_lt⟩ = total at isRequest ⊢
  have inside := ipv4Header_inside src dest total seqnr
  rw [isRequest, ipv4Writes]
  constructor
  · intro succeeds
    obtain ⟨middle, isLength, filled⟩ := runWrites_reaches
      (fun write member => (inside write member).keeps) succeeds
    rw [fillPayload_isSome_iff, isLength, size] at filled
    unfold icmpDefaultLinkMtu at filled ⊢
    omega
  · intro fits
    unfold icmpDefaultLinkMtu at fits
    apply runWrites_isSome
    · rwa [size]
    · rw [size]
      unfold icmpDefaultLinkMtu
      by_cases short : total < 28
      · rw [show total - 20 - 8 = 0 by omega]
        exact fillPayload_inside (by omega)
      · exact fillPayload_inside (by omega)
    · rw [size]
      exact calcIcs_inside (intLength_le fits (by decide)) (by decide)

theorem ipv6_isSome_iff (src dest : Vector Byte 16) (len_lt : len < 0x10000) (seqnr : Nat) :
    (generateRequest ⟨.inet6 src dest, len, len_lt⟩ seqnr).isSome ↔
      48 + len ≤ icmpDefaultLinkMtu := by
  have size : (List.replicate icmpDefaultLinkMtu (0 : Byte)).length =
      icmpDefaultLinkMtu := List.length_replicate
  have isRequest : generateRequest ⟨.inet6 src dest, len, len_lt⟩ seqnr =
      runWrites (ipv6Writes src dest len (payloadLength ⟨.inet6 src dest, len, len_lt⟩) seqnr)
        (List.replicate icmpDefaultLinkMtu 0) := rfl
  have inside := ipv6Header_inside src dest (payloadLength ⟨.inet6 src dest, len, len_lt⟩) seqnr
  rw [isRequest, ipv6Writes]
  constructor
  · intro succeeds
    obtain ⟨middle, isLength, filled⟩ := runWrites_reaches
      (fun write member => (inside write member).keeps) succeeds
    rw [fillPayload_isSome_iff, isLength, size] at filled
    unfold icmpDefaultLinkMtu at filled ⊢
    omega
  · intro fits
    unfold icmpDefaultLinkMtu at fits
    apply runWrites_isSome
    · rwa [size]
    · rw [size]
      exact fillPayload_inside (by unfold icmpDefaultLinkMtu; omega)
    · rw [size]
      exact storeIcmp6Hcs_inside (by unfold icmpDefaultLinkMtu; omega)

/-- The request is generated exactly if the headers and `<length>` fit into the
buffer. -/
theorem generatesExactly_iff (argv : PingArgv) (seqnr : Nat) : GeneratesExactly argv seqnr ↔
      argv.endpoints.headerLen + icmpHdrLen + argv.len ≤ icmpDefaultLinkMtu := by
  obtain ⟨endpoints, len, len_lt⟩ := argv
  cases endpoints with
  | inet src dest =>
    have isTotal : totalLength ⟨.inet src dest, len, len_lt⟩ = (len + 20 + 8) % 0x10000 := rfl
    have inside := ipv4_isSome_iff src dest len_lt seqnr
    rw [isTotal] at inside
    dsimp only [Endpoints.headerLen, icmpHdrLen]
    constructor
    · intro generates
      have total := generates.total
      have fits := inside.mp generates.inside
      rw [isTotal] at total
      dsimp only [Endpoints.headerLen, icmpHdrLen] at total
      omega
    · intro fits
      unfold icmpDefaultLinkMtu at fits inside
      refine ⟨inside.mpr (by omega), ?_, by rintro _ _ ⟨⟩⟩
      rw [isTotal]
      dsimp only [Endpoints.headerLen, icmpHdrLen]
      omega
  | inet6 src dest =>
    have isTotal : totalLength ⟨.inet6 src dest, len, len_lt⟩ =
        ((len + 8) % 0x10000 + 40) % 0x10000 := rfl
    have isPayload : payloadLength ⟨.inet6 src dest, len, len_lt⟩ = (len + 8) % 0x10000 := rfl
    have inside := ipv6_isSome_iff src dest len_lt seqnr
    dsimp only [Endpoints.headerLen, icmpHdrLen]
    unfold icmpDefaultLinkMtu at inside ⊢
    constructor
    · intro generates
      exact inside.mp generates.inside
    · intro fits
      refine ⟨inside.mpr fits, ?_, ?_⟩
      · rw [isTotal]
        dsimp only [Endpoints.headerLen, icmpHdrLen]
        omega
      · intro _ _ _
        rw [isPayload]
        dsimp only [icmpHdrLen]
        omega

/-- A length of 1473 leaves the buffer, and with one of 65516 the total length
wraps around. -/
theorem request_exceeds_buffer :
    generateRequest ⟨.inet 0x0100007F 0x0100007F, 1473, by decide⟩ 1 = none ∧
      ¬GeneratesExactly ⟨.inet 0x0100007F 0x0100007F, 1473, by decide⟩ 1 ∧
      totalLength ⟨.inet 0x0100007F 0x0100007F, 65516, by decide⟩ = 8 ∧
      ¬GeneratesExactly ⟨.inet 0x0100007F 0x0100007F, 65516, by decide⟩ 1 := by
  have outside : generateRequest ⟨.inet 0x0100007F 0x0100007F, 1473, by decide⟩ 1 =
        none := by
    rw [← not_isSome_iff_eq_none, ipv4_isSome_iff]
    decide
  refine ⟨outside, ?_, rfl, ?_⟩
  · intro generates
    have inside := generates.inside
    rw [outside] at inside
    cases inside
  · intro generates
    exact absurd generates.total (by decide)

end SerialModem.Icmp
