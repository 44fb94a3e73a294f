import SerialModem.Icmp.EchoRequest

/-!
# The ICMPv6 checksum

The checksum covers a pseudo header and the message, with the checksum field.
`send_ping_wait_reply` takes it apart: it adds the complements of five partial
sums.  The complements stand for the complement of the whole sum, except that
zero has two representations.
-/

namespace SerialModem.Icmp

open Library Option

def ipv6PayloadLength (datagram : List Byte) : Nat :=
  (datagram.getD 4 0).toNat * 0x100 + (datagram.getD 5 0).toNat

def pseudoHeader (datagram : List Byte) : List Byte :=
  slice datagram 8 32 ++ [0, 0] ++ slice datagram 4 2 ++ [0, 0, 0, datagram.getD 6 0]

def VerifiesIcmp6 (datagram : List Byte) : Prop :=
  onesSum 0xFFFF (words16 (pseudoHeader datagram ++
    slice datagram 40 (ipv6PayloadLength datagram))) = 0xFFFF

instance (datagram : List Byte) : Decidable (VerifiesIcmp6 datagram) :=
  inferInstanceAs (Decidable (_ = _))

def checksumField (datagram : List Byte) : Nat :=
  wordTotal (slice datagram 42 2)

/-- The check of `send_ping_wait_reply` on a reply of `len` bytes. -/
def passesIcmp6Check (buf : List Byte) (len : Int) : Option Bool := do
  let hcs ← icmp6Hcs buf (intLength (len - 40 - 4))
  let low ← buf[42]?
  let high ← buf[43]?
  let plhcs := low.toNat + 0x100 * high.toNat
  return plhcs == hcs

theorem onesSum_eq_full_iff {bytes : List Byte} : onesSum 0xFFFF (words16 bytes) = 0xFFFF ↔
      wordTotal bytes % 0xFFFF = 0 ∧ wordTotal bytes ≠ 0 := by
  have most := onesSum_le (@words16_le bytes)
  have same := onesSum_congr (@words16_le bytes)
  have modEq : onesSum 0xFFFF (words16 bytes) % 0xFFFF = wordTotal bytes % 0xFFFF := same.modEq
  have isZero : onesSum 0xFFFF (words16 bytes) = 0 ↔ wordTotal bytes = 0 :=
    same.zero_iff
  omega

theorem internetChecksum_spec (bytes : List Byte) : internetChecksum bytes ≤ 0xFFFF ∧
      (internetChecksum bytes + wordTotal bytes) % 0xFFFF = 0 := by
  have most := onesSum_le (@words16_le bytes)
  have same := onesSum_congr (@words16_le bytes)
  have modEq : onesSum 0xFFFF (words16 bytes) % 0xFFFF = wordTotal bytes % 0xFFFF := same.modEq
  unfold internetChecksum
  omega

def coveredTotal (buf : List Byte) (dataLen : Nat) : Nat :=
  wordTotal (slice buf 8 32) + wordTotal (slice buf 4 2) +
    wordTotal [0, buf.getD 6 0] + wordTotal (slice buf 40 2) +
    wordTotal (slice buf 44 dataLen)

/-- The code completes the words to a multiple of the modulus, and writes zero
only if every part is full. -/
theorem icmp6Hcs_spec {buf : List Byte} {dataLen : Nat}
    (within : 44 + dataLen ≤ buf.length) (isIcmp6 : buf.getD 6 0 = 58) :
    ∃ hcs, icmp6Hcs buf dataLen = some hcs ∧ 0 < hcs ∧ hcs ≤ 0xFFFF ∧
      (coveredTotal buf dataLen + hcs) % 0xFFFF = 0 := by
  have nextHeader : 6 < buf.length := by omega
  have isByte : buf[6] = 58 := by
    rw [List.getD_eq_getElem?_getD, List.getElem?_eq_getElem nextHeader] at isIcmp6
    exact isIcmp6
  have computed : icmp6Hcs buf dataLen = some (foldCarry
      (internetChecksum (slice buf 8 32) + internetChecksum (slice buf 4 2) +
        internetChecksum [0, 58] + internetChecksum (slice buf 40 2) +
        internetChecksum (slice buf 44 dataLen))) := by
    have first := @checkIcs_eq buf 8 32 (by omega)
    have second := @checkIcs_eq buf 4 2 (by omega)
    have third := @checkIcs_eq [0, 58] 0 2 (by simp)
    have fourth := @checkIcs_eq buf 40 2 (by omega)
    have fifth := @checkIcs_eq buf 44 dataLen within
    rw [icmp6Hcs, List.getElem?_eq_getElem nextHeader, isByte]
    simp only [bind_eq_bind, bind_some, first, second, third, fourth, fifth]
    rfl
  have protocol : internetChecksum [0, 58] = 50687 := by decide
  have isProtocol : wordTotal [0, buf.getD 6 0] = 14848 := by
    rw [isIcmp6]
    rfl
  obtain ⟨firstLe, first⟩ := internetChecksum_spec (slice buf 8 32)
  obtain ⟨secondLe, second⟩ := internetChecksum_spec (slice buf 4 2)
  obtain ⟨fourthLe, fourth⟩ := internetChecksum_spec (slice buf 40 2)
  obtain ⟨fifthLe, fifth⟩ := internetChecksum_spec (slice buf 44 dataLen)
  refine ⟨_, computed, ?_⟩
  rw [coveredTotal, isProtocol, protocol]
  generalize internetChecksum (slice buf 8 32) = a at *
  generalize internetChecksum (slice buf 4 2) = b at *
  generalize internetChecksum (slice buf 40 2) = c at *
  generalize internetChecksum (slice buf 44 dataLen) = d at *
  obtain ⟨most, same⟩ := foldCarry_spec (a + b + 50687 + c + d)
  have modEq : foldCarry (a + b + 50687 + c + d) % 0xFFFF =
      (a + b + 50687 + c + d) % 0xFFFF := same.modEq
  have isZero := same.zero_iff
  refine ⟨by omega, most, by omega⟩

theorem verifiesIcmp6_iff {datagram : List Byte} {dataLen : Nat}
    (isLength : ipv6PayloadLength datagram = 4 + dataLen)
    (within : 44 + dataLen ≤ datagram.length)
    (isIcmp6 : datagram.getD 6 0 = 58) :
    VerifiesIcmp6 datagram ↔
      (coveredTotal datagram dataLen + checksumField datagram) % 0xFFFF = 0 := by
  have total : wordTotal (pseudoHeader datagram ++ slice datagram 40 (ipv6PayloadLength datagram)) =
      coveredTotal datagram dataLen + checksumField datagram := by
    have addresses : (slice datagram 8 32).length = 32 :=
      length_slice (by omega)
    have length : (slice datagram 4 2).length = 2 := length_slice (by omega)
    have typeCode : (slice datagram 40 2).length = 2 := length_slice (by omega)
    have field : (slice datagram 42 2).length = 2 := length_slice (by omega)
    rw [isLength, show 4 + dataLen = 2 + (2 + dataLen) by omega,
      slice_add datagram 40 2, slice_add datagram 42 2, pseudoHeader,
      wordTotal_append _ (by simp [addresses, length]),
      wordTotal_append _ (by simp [addresses, length]),
      wordTotal_append _ (by simp [addresses]),
      wordTotal_append _ (by simp [addresses]),
      wordTotal_append _ (by simp [typeCode]),
      wordTotal_append _ (by simp [field]), coveredTotal, checksumField]
    have padding : wordTotal [0, 0] = 0 := rfl
    have protocol : wordTotal [0, 0, 0, datagram.getD 6 0] =
        wordTotal [0, datagram.getD 6 0] := Nat.zero_add _
    have behind : slice datagram (42 + 2) dataLen = slice datagram 44 dataLen :=
      rfl
    rw [padding, protocol, behind]
    omega
  have protocol : wordTotal [0, datagram.getD 6 0] = 14848 := by
    rw [isIcmp6]
    rfl
  have positive : coveredTotal datagram dataLen ≠ 0 := by
    rw [coveredTotal, protocol]
    omega
  rw [VerifiesIcmp6, onesSum_eq_full_iff, total]
  omega

variable {front : List Byte} {pos len : Nat}

variable (tail : List Byte)

theorem slice_append_left (within : pos + len ≤ front.length) :
    slice (front ++ tail) pos len = slice front pos len := by
  rw [slice, List.drop_append_of_le_length (by omega),
    List.take_append_of_le_length (by rw [List.length_drop]; omega)]
  rfl

theorem getD_append_left (within : pos < front.length) :
    (front ++ tail).getD pos 0 = front.getD pos 0 := by
  rw [List.getD_eq_getElem?_getD, List.getElem?_append_left within, List.getD_eq_getElem?_getD]

theorem coveredTotal_append_left {dataLen : Nat} (within : 44 + dataLen ≤ front.length) :
    coveredTotal (front ++ tail) dataLen = coveredTotal front dataLen := by
  rw [coveredTotal, slice_append_left tail (by omega),
    slice_append_left tail (by omega), slice_append_left tail (by omega),
    slice_append_left tail within, getD_append_left tail (by omega)]
  rfl

/-- What the bytes under the check of `len` received bytes add up to, with the
checksum. -/
def receivedTotal (buf : List Byte) (len : Int) : Nat :=
  coveredTotal buf (intLength (len - 40 - 4)) + checksumField buf

/-- The check compares with a value from 1 to 0xFFFF. -/
theorem passesIcmp6Check_spec {buf : List Byte} {len : Int}
    (within : 44 + intLength (len - 40 - 4) ≤ buf.length) (isIcmp6 : buf.getD 6 0 = 58) :
    ∃ passed, passesIcmp6Check buf len = some passed ∧
      (passed = true ↔ checksumField buf ≠ 0 ∧ receivedTotal buf len % 0xFFFF = 0) := by
  obtain ⟨hcs, isHcs, positive, small, complete⟩ := icmp6Hcs_spec within isIcmp6
  have low : 42 < buf.length := by omega
  have high : 43 < buf.length := by omega
  have isField : checksumField buf = buf[42].toNat + 0x100 * buf[43].toNat := by
    rw [checksumField, slice_two high]
    rfl
  have lowSmall := buf[42].toNat_lt
  have highSmall := buf[43].toNat_lt
  refine ⟨checksumField buf == hcs, ?_, ?_⟩
  · rw [passesIcmp6Check, isHcs, isField, List.getElem?_eq_getElem low, List.getElem?_eq_getElem high]
    rfl
  · rw [beq_iff_eq, receivedTotal]
    omega

/-- The whole message has arrived, and it has a checksum. -/
structure CarriesMessage (datagram : List Byte) : Prop where
  message : 4 ≤ ipv6PayloadLength datagram
  complete : 40 + ipv6PayloadLength datagram ≤ datagram.length

/-- The datagram is complete and its checksum is right. -/
def IsVerified (datagram : List Byte) : Prop :=
  CarriesMessage datagram ∧ VerifiesIcmp6 datagram

/-- What the bytes behind the message add up to; behind an odd payload they begin
with the high byte of a word. -/
def trailingTotal (buf : List Byte) (len : Int) : Nat :=
  wordTotal (List.replicate (ipv6PayloadLength buf % 2) 0 ++
    slice buf (40 + ipv6PayloadLength buf) (len.toNat - (40 + ipv6PayloadLength buf)))

theorem payloadLength_append_left (within : 5 < front.length) :
    ipv6PayloadLength (front ++ tail) = ipv6PayloadLength front := by
  rw [ipv6PayloadLength, getD_append_left tail (by omega), getD_append_left tail within]
  rfl

/-- Behind a message that verifies only the trailing bytes count. -/
theorem receivedTotal_of_verified {front tail : List Byte}
    (isVerified : IsVerified front) (isIcmp6 : (front ++ tail).getD 6 0 = 58) :
    receivedTotal (front ++ tail) front.length % 0xFFFF =
      trailingTotal (front ++ tail) front.length % 0xFFFF := by
  obtain ⟨⟨message, complete⟩, verifies⟩ := isVerified
  have isPayload := payloadLength_append_left tail (show 5 < front.length by omega)
  have isLength : ipv6PayloadLength front = 4 + (ipv6PayloadLength front - 4) := by omega
  generalize ipv6PayloadLength front - 4 = dataLen at isLength
  rw [getD_append_left tail (by omega)] at isIcmp6
  have total := (verifiesIcmp6_iff isLength (by omega) isIcmp6).mp verifies
  have isData : intLength ((front.length : Int) - 40 - 4) =
      dataLen + (front.length - (40 + ipv6PayloadLength front)) := by
    rw [intLength, if_pos (by omega)]
    omega
  have field : checksumField (front ++ tail) = checksumField front := by
    rw [checksumField, slice_append_left tail (by omega)]
    rfl
  rw [receivedTotal, field, coveredTotal_append_left tail (by rw [isData]; omega), isData,
    trailingTotal, isPayload, Int.toNat_natCast, slice_append_left tail (by omega)]
  have behind : slice front (44 + dataLen) (front.length - (40 + ipv6PayloadLength front)) =
      slice front (40 + ipv6PayloadLength front)
        (front.length - (40 + ipv6PayloadLength front)) := by
    rw [show 44 + dataLen = 40 + ipv6PayloadLength front by omega]
  have parity : (slice front 44 dataLen).length % 2 = ipv6PayloadLength front % 2 := by
    rw [length_slice (by omega)]
    omega
  have covered := wordTotal_append_odd (slice front 44 dataLen)
    (slice front (44 + dataLen) (front.length - (40 + ipv6PayloadLength front)))
  rw [← slice_add, parity, behind] at covered
  rw [coveredTotal, covered]
  rw [coveredTotal] at total
  omega

/-- A datagram of the length in its header. -/
structure IsIcmp6Datagram (datagram : List Byte) : Prop where
  nextHeader : datagram.getD 6 0 = 58
  length : datagram.length = 40 + ipv6PayloadLength datagram
  message : 4 ≤ ipv6PayloadLength datagram

theorem passesIcmp6Check_of_datagram {datagram : List Byte}
    (isDatagram : IsIcmp6Datagram datagram) (stale : List Byte)
    (verifies : VerifiesIcmp6 datagram) (nonzero : checksumField datagram ≠ 0) :
    passesIcmp6Check (datagram ++ stale) datagram.length = some true := by
  obtain ⟨nextHeader, length, message⟩ := isDatagram
  have isIcmp6 : (datagram ++ stale).getD 6 0 = 58 := by
    rw [getD_append_left stale (by omega), nextHeader]
  have isVerified : IsVerified datagram := ⟨⟨message, length.ge⟩, verifies⟩
  have none : trailingTotal (datagram ++ stale) datagram.length = 0 := by
    rw [trailingTotal, payloadLength_append_left stale (by omega), Int.toNat_natCast,
      length, Nat.sub_self, slice, List.take_zero, List.append_nil]
    rcases Nat.mod_two_eq_zero_or_one (ipv6PayloadLength datagram) with even | odd
    · rw [even]
      rfl
    · rw [odd]
      rfl
  have total := receivedTotal_of_verified isVerified isIcmp6
  rw [none] at total
  have field : checksumField (datagram ++ stale) = checksumField datagram := by
    rw [checksumField, slice_append_left stale (by omega)]
    rfl
  have within : 44 + intLength ((datagram.length : Int) - 40 - 4) ≤ (datagram ++ stale).length := by
    rw [intLength, if_pos (by omega), List.length_append]
    omega
  obtain ⟨passed, isPassed, passes⟩ := passesIcmp6Check_spec within isIcmp6
  rw [← field] at nonzero
  rw [isPassed, passes.mpr ⟨nonzero, total⟩]

def Untouched (pos : Nat) (write : Write) : Prop :=
  ∀ buf after, write buf = some after → after[pos]? = buf[pos]?

theorem Untouched.run {writes : List Write} (untouched : ∀ write ∈ writes, Untouched pos write) :
    Untouched pos (runWrites writes) := by
  induction writes with
  | nil =>
    rintro buf after ⟨⟩
    rfl
  | cons write rest ih =>
    intro buf after ran
    obtain ⟨same, others⟩ := List.forall_mem_cons.mp untouched
    rw [runWrites_cons] at ran
    obtain ⟨middle, first, remaining⟩ := bind_eq_some_iff.mp ran
    rw [ih others middle after remaining, same buf middle first]

variable {other : Nat}

theorem store8_untouched (value : Nat) (apart : other ≠ pos) :
    Untouched pos (store8 other value) := by
  intro buf after ran
  unfold store8 at ran
  split at ran
  · cases ran
    exact List.getElem?_set_ne apart
  · cases ran

theorem fillPayload_untouched (seqnr count : Nat) : ∀ {i : Nat}, pos < other + i →
      Untouched pos (fillPayload other seqnr count i) := by
  induction count with
  | zero =>
    rintro i before buf after ⟨⟩
    rfl
  | succ count ih =>
    intro i before buf after ran
    obtain ⟨middle, first, remaining⟩ := bind_eq_some_iff.mp ran
    have later : Untouched pos (fillPayload other seqnr count (i + 1)) :=
      ih (by omega)
    rw [later middle after remaining, store8_untouched _ (by omega) buf middle first]

theorem runWrites_stored {before later : List Write} {pos value : Nat} {buf after : List Byte}
    (untouched : ∀ write ∈ later, Untouched pos write)
    (ran : runWrites (before ++ store8 pos value :: later) buf =
      some after) : after.getD pos 0 = UInt8.ofNat value := by
  rw [runWrites_append] at ran
  obtain ⟨first, _, remaining⟩ := bind_eq_some_iff.mp ran
  rw [runWrites_cons] at remaining
  obtain ⟨stored, isStored, last⟩ := bind_eq_some_iff.mp remaining
  rw [List.getD_eq_getElem?_getD, Untouched.run untouched stored after last]
  unfold store8 at isStored
  split at isStored
  · rename_i within
    cases isStored
    rw [List.getElem?_set_self within]
    rfl
  · cases isStored

variable {src dest : Vector Byte 16}

end SerialModem.Icmp
