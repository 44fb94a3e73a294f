import Mathlib.Data.List.Perm.Subperm
import Mathlib.Data.List.Range
import SerialModem.Sms.Concatenation

/-!
# Reassembly of concatenated messages

The parts of one message arrive in any order and any number of times.  What the
buffer holds is described by a draft: the text that can be read in each slot.
The text with its header is put together when as many parts arrived as the
message has, whichever they were.
-/

namespace SerialModem.Sms

open Library List Option
open AtHost
open Socket (decimal)

/-! ## Headers -/

theorem length_twoDigits {value : Nat} (small : value < 100) : (twoDigits value).length = 2 := by
  have each : ∀ value : Fin 100, (twoDigits value).length = 2 := by
    decide
  exact each ⟨value, small⟩

theorem twoDigits_nonzero {value : Nat} (small : value < 100) :
    ∀ byte, byte ∈ twoDigits value → byte ≠ 0 := by
  have each : ∀ value : Fin 100, (twoDigits value).all (fun byte => byte != 0) = true := by
    decide
  intro byte member
  exact bne_iff_ne.mp (List.all_eq_true.mp (each ⟨value, small⟩) byte member)

variable (time : SmsTime)

theorem timezone_hours : ((time.timezone * 15).tdiv 60).natAbs < 100 := by
  have low := time.timezoneLow
  have high := time.timezoneHigh
  rw [Int.natAbs_tdiv]
  have quarters : (time.timezone * 15).natAbs ≤ 1920 := by omega
  exact Nat.lt_of_le_of_lt (Nat.div_le_div_right quarters) (by decide)

theorem timezone_minutes : time.timezone.natAbs * 15 % 60 < 100 :=
  Nat.lt_trans (Nat.mod_lt _ (by decide)) (by decide)

theorem length_timeText : time.text.length = 27 := by
  have year := length_twoDigits time.year.isLt
  have month := length_twoDigits time.month.isLt
  have day := length_twoDigits time.day.isLt
  have hour := length_twoDigits time.hour.isLt
  have minute := length_twoDigits time.minute.isLt
  have second := length_twoDigits time.second.isLt
  have hours := length_twoDigits (timezone_hours time)
  have minutes := length_twoDigits (timezone_minutes time)
  have zone : (ascii " UTC").length = 4 := by decide
  simp only [SmsTime.text, signedTwoDigits, length_append,
    length_cons, length_nil, year, month, day, hour, minute, second,
    hours, minutes, zone]

theorem timeText_nonzero : ∀ byte, byte ∈ time.text → byte ≠ 0 := by
  have zone : ∀ byte, byte ∈ ascii " UTC" → byte ≠ 0 := by
    decide +kernel
  have sign : (if (time.timezone * 15).tdiv 60 < 0 then (45 : Byte) else 43) ≠ 0 := by
    split <;> decide
  intro byte member
  simp only [SmsTime.text, signedTwoDigits, mem_append, mem_cons, not_mem_nil, or_false] at member
  rcases member with (((((((((((((inYear | rfl) | inMonth) | rfl) | inDay) |
    rfl) | inHour) | rfl) | inMinute) | rfl) | inSecond) | inZone) |
    (rfl | inHours)) | rfl) | inMinutes
  · exact twoDigits_nonzero time.year.isLt byte inYear
  · decide
  · exact twoDigits_nonzero time.month.isLt byte inMonth
  · decide
  · exact twoDigits_nonzero time.day.isLt byte inDay
  · decide
  · exact twoDigits_nonzero time.hour.isLt byte inHour
  · decide
  · exact twoDigits_nonzero time.minute.isLt byte inMinute
  · decide
  · exact twoDigits_nonzero time.second.isLt byte inSecond
  · exact zone byte inZone
  · exact sign
  · exact twoDigits_nonzero (timezone_hours time) byte inHours
  · decide
  · exact twoDigits_nonzero (timezone_minutes time) byte inMinutes

theorem length_header (data : SmsData) :
    data.header.length = 43 + data.originatingAddress.text.length := by
  have start : (ascii "#XSMS: \"").length = 8 := by decide
  have separator : (ascii "\",\"").length = 3 := by decide
  have lineBreak : crlfStr.length = 2 := by decide
  simp only [SmsData.header, length_append, length_timeText, start, separator, lineBreak]
  omega

theorem length_header_lt (data : SmsData) : data.header.length < smSmsAtHeaderInfoMaxLen := by
  have short := data.originatingAddress.short
  rw [length_header]
  unfold smSmsAtHeaderInfoMaxLen
  unfold smsMaxAddressLenChars at short
  omega

theorem header_nonzero (data : SmsData) : ∀ byte, byte ∈ data.header → byte ≠ 0 := by
  obtain ⟨start, separator, lineBreak⟩ : (∀ byte, byte ∈ ascii "#XSMS: \"" → byte ≠ 0) ∧
        (∀ byte, byte ∈ ascii "\",\"" → byte ≠ 0) ∧
        ∀ byte, byte ∈ crlfStr → byte ≠ 0 := by
    decide +kernel
  intro byte member
  simp only [SmsData.header, mem_append] at member
  rcases member with ((((inBreak | inStart) | inTime) | inFirst) | inAddress) | inSecond
  · exact lineBreak byte inBreak
  · exact start byte inStart
  · exact timeText_nonzero data.time byte inTime
  · exact separator byte inFirst
  · exact data.originatingAddress.noNul byte inAddress
  · exact separator byte inSecond

/-! ## Messages -/

/-- A concatenated message, of the parts below `parts`. -/
structure SmsMessage where
  refNumber : UInt16
  parts : Nat
  part : Nat → SmsData
  positive : 0 < parts
  bounded : parts ≤ maxConcatenatedMessage

namespace SmsMessage

def concatenated (message : SmsMessage) (index : Nat) : SmsConcatenated where
  refNumber := message.refNumber
  totalMsgs := UInt8.ofNat message.parts
  seqNumber := UInt8.ofNat (index + 1)

def text (message : SmsMessage) (index : Nat) : List Byte :=
  (message.part index).payload.text

def header (message : SmsMessage) : List Byte :=
  (message.part 0).header

def piece (message : SmsMessage) (index : Nat) : List Byte :=
  if index = 0 then message.header ++ message.text 0 else message.text index

def size (message : SmsMessage) : Nat :=
  smSmsAtHeaderInfoMaxLen + smsMaxPayloadLenChars * message.parts

def body (message : SmsMessage) : List Byte :=
  (List.range message.parts).flatMap message.text

def urc (message : SmsMessage) : List Byte :=
  message.header ++ message.body ++ urcEnd

theorem text_short (message : SmsMessage) (index : Nat) :
    (message.text index).length ≤ smsMaxPayloadLenChars :=
  (message.part index).payload.short

theorem text_nonzero (message : SmsMessage) (index : Nat) :
    ∀ byte, byte ∈ message.text index → byte ≠ 0 :=
  (message.part index).payload.noNul

theorem piece_of_ne {message : SmsMessage} {index : Nat} (later : index ≠ 0) :
    message.piece index = message.text index :=
  if_neg later

theorem piece_zero (message : SmsMessage) : message.piece 0 = message.header ++ message.text 0 :=
  rfl

theorem piece_nonzero (message : SmsMessage) (index : Nat) :
    ∀ byte, byte ∈ message.piece index → byte ≠ 0 := by
  intro byte member
  rw [piece] at member
  split at member
  · rcases mem_append.mp member with inHeader | inText
    · exact header_nonzero _ byte inHeader
    · exact message.text_nonzero 0 byte inText
  · exact message.text_nonzero index byte member

theorem length_first_lt (message : SmsMessage) : (message.piece 0).length < partSlot 1 := by
  have header := length_header_lt (message.part 0)
  have short := message.text_short 0
  rw [piece_zero, length_append]
  unfold SmsMessage.header partSlot
  omega

end SmsMessage

/-! ## Drafts -/

abbrev Draft :=
  Nat → List Byte

def blank : Draft := fun _ => []

/-- Store a part.  One that fills its slot ends on the next slot and empties
it. -/
def Draft.put (message : SmsMessage) (index : Nat) (draft : Draft) : Draft :=
  fun slot =>
    if slot = index then
      message.piece index
    else if index ≠ 0 ∧ slot = index + 1 ∧ (message.text index).length = smsMaxPayloadLenChars then
      []
    else
      draft slot

def Draft.joined (draft : Draft) (count : Nat) : List Byte :=
  (List.range count).flatMap draft

theorem Draft.joined_succ (draft : Draft) (count : Nat) :
    draft.joined (count + 1) = draft.joined count ++ draft count := by
  rw [joined, joined, range_succ, flatMap_append, flatMap_singleton]

theorem Draft.joined_congr {draft other : Draft} {count : Nat}
    (same : ∀ slot, slot < count → draft slot = other slot) :
    draft.joined count = other.joined count := by
  apply flatMap_congr
  intro slot member
  exact same slot (mem_range.mp member)

theorem Draft.slot_of_joined {draft other : Draft} {count : Nat}
    (shorter : ∀ slot, slot < count → (draft slot).length ≤ (other slot).length)
    (together : (other.joined count).length ≤ (draft.joined count).length) :
    ∀ slot, slot < count → (draft slot).length = (other slot).length := by
  have lengths : ∀ count, (∀ slot, slot < count → (draft slot).length ≤ (other slot).length) →
      (draft.joined count).length ≤ (other.joined count).length := by
    intro count
    induction count with
    | zero => exact fun _ => Nat.le_refl _
    | succ count ih =>
      intro shorter
      rw [joined_succ, joined_succ, length_append, length_append]
      exact Nat.add_le_add (ih fun slot below =>
          shorter slot (Nat.lt_succ_of_lt below))
        (shorter count (Nat.lt_succ_self _))
  induction count with
  | zero => exact fun _ below => absurd below (Nat.not_lt_zero _)
  | succ count ih =>
    have last := shorter count (Nat.lt_succ_self _)
    have front := lengths count fun slot below =>
      shorter slot (Nat.lt_succ_of_lt below)
    rw [joined_succ, joined_succ, length_append, length_append] at together
    intro slot below
    rcases Nat.lt_succ_iff_lt_or_eq.mp below with earlier | rfl
    · exact ih (fun slot below => shorter slot (Nat.lt_succ_of_lt below)) (by omega) slot earlier
    · omega

structure Holds (message : SmsMessage) (draft : Draft)
    (buffer : CharBuffer Byte) : Prop where
  size : buffer.size = message.size
  first : CharBuffer.TextAt buffer.contents 0 (draft 0)
  firstShort : (draft 0).length < partSlot 1
  slots : ∀ index, 0 < index → index < message.parts →
    CharBuffer.readFrom buffer.contents (partSlot index) smsMaxPayloadLenChars = draft index

theorem holds_blank (message : SmsMessage) :
    Holds message blank (CharBuffer.zeroed message.size) := by
  refine ⟨rfl, rfl, by decide, ?_⟩
  intro index _ _
  exact CharBuffer.readFrom_of_end rfl _

/-! ## Storing a part -/

def SmsMessage.Overflows (message : SmsMessage) (index : Nat) : Prop :=
  index ≠ 0 ∧ index + 1 = message.parts ∧ (message.text index).length = smsMaxPayloadLenChars

instance (message : SmsMessage) (index : Nat) : Decidable (message.Overflows index) :=
  inferInstanceAs (Decidable (_ ∧ _))

section Storing

variable {message : SmsMessage} {index : Nat}

theorem seqNumber_toNat (below : index < message.parts) :
    (message.concatenated index).seqNumber.toNat = index + 1 := by
  have bounded := message.bounded
  unfold maxConcatenatedMessage at bounded
  show (UInt8.ofNat (index + 1)).toNat = index + 1
  rw [UInt8.toNat_ofNat']
  omega

theorem totalMsgs_toNat (message : SmsMessage) (index : Nat) :
    (message.concatenated index).totalMsgs.toNat = message.parts := by
  have bounded := message.bounded
  unfold maxConcatenatedMessage at bounded
  show (UInt8.ofNat message.parts).toNat = message.parts
  rw [UInt8.toNat_ofNat']
  omega

theorem seqNumber_eq_one (below : index < message.parts) :
    (message.concatenated index).seqNumber = 1 ↔ index = 0 := by
  have number := seqNumber_toNat below
  constructor
  · intro isOne
    rw [isOne] at number
    have one : (1 : UInt8).toNat = 1 := rfl
    omega
  · rintro rfl
    rfl

theorem concatMsgLen_eq (message : SmsMessage) (index : Nat) :
    concatMsgLen (message.concatenated index).totalMsgs = message.size := by
  rw [concatMsgLen, totalMsgs_toNat]
  rfl

theorem smsStorePart_eq (below : index < message.parts) (buffer : CharBuffer Byte) :
    smsStorePart (message.concatenated index) (message.part index) buffer =
      buffer.write (if index = 0 then 0 else partSlot index) (message.piece index ++ [0]) := by
  have short := message.text_short index
  have first := message.length_first_lt
  have positive := message.positive
  rw [smsStorePart]
  by_cases isFirst : index = 0
  · subst isFirst
    rw [if_pos ((seqNumber_eq_one below).mpr rfl), concatMsgLen_eq, if_pos rfl]
    obtain ⟨room, size⟩ : ∃ room, message.size = room + 1 :=
      ⟨message.size - 1, by unfold SmsMessage.size smSmsAtHeaderInfoMaxLen; omega⟩
    rw [size, CharBuffer.snprintf]
    have fits : (message.piece 0).length ≤ room := by
      unfold SmsMessage.size at size
      unfold partSlot at first
      unfold smsMaxPayloadLenChars smSmsAtHeaderInfoMaxLen at *
      omega
    show buffer.write 0 ((message.piece 0).take room ++ [0]) = _
    rw [take_of_length_le fits]
  · rw [if_neg fun isOne => isFirst ((seqNumber_eq_one below).mp isOne),
      seqNumber_toNat below, Nat.add_sub_cancel, CharBuffer.snprintf,
      if_neg isFirst, SmsMessage.piece_of_ne isFirst]
    show buffer.write (partSlot index) ((message.text index).take smsMaxPayloadLenChars ++ [0]) = _
    rw [take_of_length_le short]

variable {draft : Draft} {buffer : CharBuffer Byte}

theorem smsStorePart_of_overflows (holds : Holds message draft buffer)
    (overflows : message.Overflows index) :
    smsStorePart (message.concatenated index) (message.part index) buffer =
      none := by
  obtain ⟨later, last, full⟩ := overflows
  rw [smsStorePart_eq (by omega), CharBuffer.write, if_neg later, if_neg]
  rw [SmsMessage.piece_of_ne later, length_append, length_singleton,
    full, holds.size, SmsMessage.size, partSlot, ← last, Nat.mul_comm]
  unfold smsMaxPayloadLenChars
  omega

theorem holds_overlay (holds : Holds message draft buffer) : Holds message (draft.put message index)
      { buffer with
        contents := CharBuffer.overlay buffer.contents (if index = 0 then 0 else partSlot index)
          (message.piece index ++ [0]) } := by
  have short := message.text_short index
  have first := message.length_first_lt
  have oldFirst := holds.firstShort
  have written := CharBuffer.textAt_overlay buffer.contents
    (if index = 0 then 0 else partSlot index) (message.piece_nonzero index)
  have pieceLength : (message.piece index ++ [0]).length =
      (message.piece index).length + 1 := length_append
  by_cases isFirst : index = 0
  · subst isFirst
    rw [if_pos rfl] at written ⊢
    have putFirst : draft.put message 0 0 = message.piece 0 := if_pos rfl
    refine ⟨holds.size, ?_, ?_, ?_⟩
    · rw [putFirst]
      exact written
    · rw [putFirst]
      exact first
    · intro slot positive below
      have putLater : draft.put message 0 slot = draft slot := by
        rw [Draft.put, if_neg (by omega), if_neg (by simp)]
      rw [putLater, ← holds.slots slot positive below]
      apply CharBuffer.readFrom_congr
      intro position low _
      have outside : CharBuffer.overlay buffer.contents 0
          (message.piece 0 ++ [0]) position = buffer.contents position := by
        apply CharBuffer.overlay_of_outside
        right
        unfold partSlot smsMaxPayloadLenChars smSmsAtHeaderInfoMaxLen at *
        omega
      exact outside
  · rw [if_neg isFirst] at written ⊢
    have slotLength : message.piece index = message.text index :=
      SmsMessage.piece_of_ne isFirst
    have putFirst : draft.put message index 0 = draft 0 := by
      rw [Draft.put, if_neg (Ne.symm isFirst), if_neg (by omega)]
    refine ⟨holds.size, ?_, ?_, ?_⟩
    · rw [putFirst]
      apply holds.first.congr
      intro position _ high
      show CharBuffer.overlay _ _ _ _ = _
      apply CharBuffer.overlay_of_outside
      left
      unfold partSlot smsMaxPayloadLenChars smSmsAtHeaderInfoMaxLen at *
      omega
    · rw [putFirst]
      exact oldFirst
    · intro slot positive below
      rw [Draft.put]
      split
      · rename_i same
        subst same
        apply written.read
        rw [slotLength]
        exact short
      · rename_i different
        split
        · rename_i clobbered
          obtain ⟨_, rfl, full⟩ := clobbered
          apply CharBuffer.readFrom_of_end
          have ends : CharBuffer.overlay buffer.contents (partSlot index)
              (message.piece index ++ [0])
              (partSlot index + (message.piece index).length) = 0 := by
            rw [CharBuffer.overlay_of_inside (by rw [pieceLength]; omega)]
            simp
          have next : partSlot (index + 1) = partSlot index + (message.piece index).length := by
            rw [slotLength, full]
            unfold partSlot smsMaxPayloadLenChars
            omega
          rw [next]
          exact ends
        · rename_i kept
          rw [← holds.slots slot positive below]
          apply CharBuffer.readFrom_congr
          intro position low high
          show CharBuffer.overlay _ _ _ _ = _
          apply CharBuffer.overlay_of_outside
          rw [pieceLength, slotLength]
          have notFull : slot = index + 1 → (message.text index).length ≠ smsMaxPayloadLenChars :=
            fun next full => kept ⟨isFirst, next, full⟩
          rcases Nat.lt_trichotomy slot index with earlier | same | later
          · left
            unfold partSlot smsMaxPayloadLenChars at *
            omega
          · exact absurd same different
          · right
            unfold partSlot smsMaxPayloadLenChars at *
            omega

theorem smsStorePart_holds (below : index < message.parts) (holds : Holds message draft buffer)
    (inside : ¬ message.Overflows index) :
    ∃ stored, smsStorePart (message.concatenated index) (message.part index) buffer = some stored ∧
      Holds message (draft.put message index) stored := by
  refine ⟨_, ?_, holds_overlay holds⟩
  have short := message.text_short index
  have first := message.length_first_lt
  have positive := message.positive
  rw [smsStorePart_eq below, CharBuffer.write, if_pos]
  rw [holds.size, length_append, length_singleton]
  unfold SmsMessage.size
  by_cases isFirst : index = 0
  · subst isFirst
    rw [if_pos rfl]
    unfold partSlot smsMaxPayloadLenChars smSmsAtHeaderInfoMaxLen at *
    omega
  · rw [if_neg isFirst, SmsMessage.piece_of_ne isFirst]
    have notFull : index + 1 = message.parts →
        (message.text index).length ≠ smsMaxPayloadLenChars :=
      fun last full => inside ⟨isFirst, last, full⟩
    unfold partSlot smsMaxPayloadLenChars at *
    omega

end Storing

/-! ## Joining the parts -/

section Joining

variable {message : SmsMessage} {draft : Draft} {index : Nat} {buffer : CharBuffer Byte}

structure JoinedTo (message : SmsMessage) (draft : Draft) (index : Nat)
    (buffer : CharBuffer Byte) : Prop where
  size : buffer.size = message.size
  text : CharBuffer.TextAt buffer.contents 0 (draft.joined index)
  short : (draft.joined index).length < partSlot index
  slots : ∀ slot, index ≤ slot → slot < message.parts →
    CharBuffer.readFrom buffer.contents (partSlot slot) smsMaxPayloadLenChars = draft slot

theorem Draft.joined_one (draft : Draft) : draft.joined 1 = draft 0 :=
  flatMap_singleton ..

theorem Holds.joinedTo (holds : Holds message draft buffer) : JoinedTo message draft 1 buffer := by
  refine ⟨holds.size, ?_, ?_, ?_⟩
  · rw [Draft.joined_one]
    exact holds.first
  · rw [Draft.joined_one]
    exact holds.firstShort
  · exact fun slot low below => holds.slots slot low below

theorem partSlot_lt_size (below : index < message.parts) : partSlot index < message.size := by
  unfold SmsMessage.size partSlot smsMaxPayloadLenChars
  omega

theorem JoinedTo.strcat (joinedTo : JoinedTo message draft index buffer)
    (inside : (draft.joined index).length < message.size) (more : List Byte) :
    buffer.strcat more =
      if (draft.joined index).length + more.length + 1 ≤ message.size then
        some { buffer with
          contents := CharBuffer.overlay buffer.contents
            (draft.joined index).length (more ++ [0]) }
      else
        none := by
  rw [joinedTo.text.strcat (by rw [joinedTo.size]; exact inside), joinedTo.size]

theorem JoinedTo.next (joinedTo : JoinedTo message draft index buffer)
    (below : index < message.parts) :
    ∃ joined, buffer.strncat (partSlot index) smsMaxPayloadLenChars = some joined ∧
      JoinedTo message draft (index + 1) joined := by
  have read := joinedTo.slots index (Nat.le_refl _) below
  have readShort := CharBuffer.length_readFrom_le buffer.contents
    (partSlot index) smsMaxPayloadLenChars
  have readNonzero := CharBuffer.readFrom_nonzero buffer.contents
    (partSlot index) smsMaxPayloadLenChars
  have short := joinedTo.short
  have room : partSlot index < message.size := partSlot_lt_size below
  have lastSlot : partSlot index + smsMaxPayloadLenChars ≤ message.size := by
    unfold SmsMessage.size partSlot smsMaxPayloadLenChars
    omega
  have step : partSlot (index + 1) = partSlot index + smsMaxPayloadLenChars := by
    unfold partSlot smsMaxPayloadLenChars
    omega
  rw [CharBuffer.strncat, read]
  rw [read] at readShort readNonzero
  rw [joinedTo.strcat (by omega), if_pos (by omega)]
  refine ⟨_, rfl, joinedTo.size, ?_, ?_, ?_⟩
  · rw [Draft.joined_succ]
    have extended := joinedTo.text.append readNonzero
    rw [Nat.zero_add] at extended
    exact extended
  · rw [Draft.joined_succ, length_append]
    omega
  · intro slot low high
    rw [← joinedTo.slots slot (by omega) high]
    apply CharBuffer.readFrom_congr
    intro position after _
    have later : partSlot (index + 1) ≤ partSlot slot := by
      unfold partSlot smsMaxPayloadLenChars
      omega
    apply CharBuffer.overlay_of_outside
    right
    rw [length_append, length_singleton]
    omega

theorem JoinedTo.run (count : Nat) (joinedTo : JoinedTo message draft index buffer)
    (within : index + count ≤ message.parts) :
    ∃ joined, smsJoinParts count index buffer = some joined ∧
      JoinedTo message draft (index + count) joined := by
  induction count generalizing index buffer with
  | zero => exact ⟨buffer, rfl, joinedTo⟩
  | succ count ih =>
    obtain ⟨next, appended, nextJoined⟩ := joinedTo.next (by omega)
    obtain ⟨joined, rest, allJoined⟩ :=
      ih nextJoined (by omega)
    refine ⟨joined, ?_, ?_⟩
    · rw [smsJoinParts, appended, bind_some, rest]
    · rw [Nat.add_right_comm] at allJoined
      exact allJoined

theorem urcEnd_nonzero : ∀ byte, byte ∈ urcEnd → byte ≠ 0 := by
  decide +kernel

theorem smsJoin_eq (holds : Holds message draft buffer) :
    smsJoin (UInt8.ofNat message.parts) buffer =
      if (draft.joined message.parts).length + 4 ≤ message.size then
        some (draft.joined message.parts ++ urcEnd)
      else
        none := by
  have positive := message.positive
  have total := totalMsgs_toNat message 0
  obtain ⟨joined, parts, joinedTo⟩ :=
    holds.joinedTo.run (message.parts - 1) (by omega)
  rw [Nat.add_sub_cancel' positive] at joinedTo
  have ending : urcEnd.length = 3 := rfl
  have atEnd : partSlot message.parts = message.size := by
    unfold SmsMessage.size partSlot
    rw [Nat.mul_comm]
  have short := joinedTo.short
  rw [atEnd] at short
  have count : (UInt8.ofNat message.parts).toNat - 1 = message.parts - 1 :=
    congrArg (· - 1) total
  rw [smsJoin, count, parts, bind_some, joinedTo.strcat short, ending]
  split
  · rename_i fits
    have complete := joinedTo.text.append urcEnd_nonzero
    rw [Nat.zero_add] at complete
    rw [map_some]
    apply congrArg some
    apply complete.read
    rw [joinedTo.size, length_append, ending]
    omega
  · rfl

end Joining

/-! ## Deliveries -/

/-- No message is being put together. -/
def SmsCtx.Idle (ctx : SmsCtx) : Prop :=
  smsConcatClear ctx = ctx

namespace SmsMessage

def deliver (calloc : Nat → Bool) (message : SmsMessage) (index : Nat)
    (ctx : SmsCtx) : Option (SmsCtx × List SmsUrc) :=
  smsCallback calloc (some (message.concatenated index)) (message.part index) ctx

/-- Parts arrive one after another: what each of them makes the handler
send. -/
def deliverAll (calloc : Nat → Bool) (message : SmsMessage) :
    List Nat → SmsCtx → Option (List (List SmsUrc))
  | [], _ => some []
  | index :: rest, ctx =>
    (message.deliver calloc index ctx).bind fun result =>
      (message.deliverAll calloc rest result.1).map (result.2 :: ·)

end SmsMessage

/-- What a draft holds once a part arrived.  Without a reference number every
part starts a new buffer. -/
def Draft.collect (message : SmsMessage) (draft : Draft) (index : Nat) :
    Draft :=
  (if message.refNumber = 0 then blank else draft).put message index

def collected (message : SmsMessage) (arrived : List Nat) : Draft :=
  arrived.foldl (Draft.collect message) blank

theorem collected_concat (message : SmsMessage) (arrived : List Nat) (index : Nat) :
    collected message (arrived ++ [index]) = (collected message arrived).collect message index :=
  foldl_concat ..

def collectedText (message : SmsMessage) (arrived : List Nat) : List Byte :=
  (collected message arrived).joined message.parts

inductive Stage (message : SmsMessage) (ctx : SmsCtx) : List Nat → Prop where
  | idle (idle : ctx.Idle) : Stage message ctx []
  | collecting {arrived : List Nat} {buffer : CharBuffer Byte}
      (refNumber : ctx.refNumber = message.refNumber)
      (totalMsgs : ctx.totalMsgs = UInt8.ofNat message.parts)
      (count : ctx.count = UInt8.ofNat arrived.length)
      (stored : ctx.concatRspBuf = some buffer)
      (holds : Holds message (collected message arrived) buffer) :
      Stage message ctx arrived

section Delivering

variable {message : SmsMessage} {index : Nat} {arrived : List Nat}
  {ctx : SmsCtx} {calloc : Nat → Bool}

theorem ofNat_parts_ne_zero (message : SmsMessage) : UInt8.ofNat message.parts ≠ 0 := by
  intro isZero
  have total := totalMsgs_toNat message 0
  have positive := message.positive
  have zero : (message.concatenated 0).totalMsgs.toNat = 0 :=
    congrArg UInt8.toNat isZero
  omega

theorem deliver_stored (granted : calloc message.size = true)
    (stage : Stage message ctx arrived) (below : index < message.parts) :
    ∃ ready buffer, message.deliver calloc index ctx =
        smsConcatStore (message.concatenated index) (message.part index) ready ∧
      ready.pipe = ctx.pipe ∧ ready.refNumber = message.refNumber ∧
      ready.totalMsgs = UInt8.ofNat message.parts ∧
      ready.count = UInt8.ofNat arrived.length ∧
      ready.concatRspBuf = some buffer ∧
      Holds message (if message.refNumber = 0 then blank else collected message arrived)
        buffer := by
  have total := ofNat_parts_ne_zero message
  have few : ¬ maxConcatenatedMessage < (message.concatenated index).totalMsgs.toNat := by
    rw [totalMsgs_toNat]
    exact Nat.not_lt.mpr message.bounded
  have number := seqNumber_toNat below
  have inRange : ¬ ((message.concatenated index).seqNumber = 0 ∨
      UInt8.ofNat message.parts < (message.concatenated index).seqNumber) := by
    rintro (isZero | beyond)
    · rw [isZero] at number
      have zero : (0 : UInt8).toNat = 0 := rfl
      omega
    · rw [UInt8.lt_iff_toNat_lt, number] at beyond
      have bound := totalMsgs_toNat message index
      have same : (UInt8.ofNat message.parts).toNat = message.parts := bound
      omega
  have sizes := concatMsgLen_eq message index
  have refNumber : (message.concatenated index).refNumber = message.refNumber := rfl
  have totalMsgs : (message.concatenated index).totalMsgs = UInt8.ofNat message.parts := rfl
  rw [SmsMessage.deliver, smsCallback, smsConcatHandle]
  cases stage with
  | idle idle =>
    have noNumber : ctx.refNumber = 0 := by rw [← idle]; rfl
    have noTotal : ctx.totalMsgs = 0 := by rw [← idle]; rfl
    have noCount : ctx.count = 0 := by rw [← idle]; rfl
    refine ⟨{ ctx with
      refNumber := message.refNumber
      concatRspBuf := some (CharBuffer.zeroed message.size)
      totalMsgs := UInt8.ofNat message.parts }, _, ?_, rfl, rfl, rfl,
      noCount, rfl, ?_⟩
    · rw [if_neg fun both => both.1 noNumber, smsConcatBegin,
        if_pos noNumber, if_neg few, sizes, if_pos granted]
      simp only [noTotal, if_true, refNumber, totalMsgs]
      rw [if_neg (by simp), if_neg inRange]
    · have same : (if message.refNumber = 0 then blank
          else collected message []) = blank := by
        split <;> rfl
      rw [same]
      exact holds_blank message
  | collecting sameNumber sameTotal count stored holds =>
    have notOther : ¬ (ctx.refNumber ≠ 0 ∧
        ctx.refNumber ≠ (message.concatenated index).refNumber) :=
      fun both => both.2 sameNumber
    rw [if_neg notOther, smsConcatBegin]
    by_cases noNumber : message.refNumber = 0
    · refine ⟨{ ctx with
        refNumber := message.refNumber
        concatRspBuf := some (CharBuffer.zeroed message.size) }, _, ?_, rfl,
        rfl, sameTotal, count, rfl, ?_⟩
      · rw [if_pos (sameNumber.trans noNumber), if_neg few, sizes, if_pos granted]
        simp only [sameTotal, if_neg total, refNumber, totalMsgs]
        rw [if_neg (by simp), if_neg inRange]
      · rw [if_pos noNumber]
        exact holds_blank message
    · refine ⟨ctx, _, ?_, rfl, sameNumber, sameTotal, count, stored, ?_⟩
      · rw [if_neg fun isZero => noNumber (sameNumber.symm.trans isZero)]
        simp only [sameTotal, if_neg total, totalMsgs]
        rw [if_neg (by simp), if_neg inRange]
      · rw [if_neg noNumber]
        exact holds

theorem smsStored_of_overflows {ready : SmsCtx} {draft : Draft}
    {buffer : CharBuffer Byte} (stored : ready.concatRspBuf = some buffer)
    (holds : Holds message draft buffer)
    (overflows : message.Overflows index) :
    smsConcatStore (message.concatenated index) (message.part index) ready =
      none := by
  rw [smsConcatStore, stored, bind_some, smsStorePart_of_overflows holds overflows, bind_none]

theorem deliver_of_overflows (granted : calloc message.size = true)
    (stage : Stage message ctx arrived) (below : index < message.parts)
    (overflows : message.Overflows index) :
    message.deliver calloc index ctx = none := by
  obtain ⟨ready, buffer, delivered, _, _, _, _, stored, holds⟩ :=
    deliver_stored granted stage below
  rw [delivered, smsStored_of_overflows stored holds overflows]

theorem ofNat_count_eq {count : Nat} (few : count ≤ message.parts) :
    UInt8.ofNat count = UInt8.ofNat message.parts ↔ count = message.parts := by
  have bounded := message.bounded
  unfold maxConcatenatedMessage at bounded
  constructor
  · intro same
    have values := congrArg UInt8.toNat same
    rw [UInt8.toNat_ofNat', UInt8.toNat_ofNat'] at values
    omega
  · exact congrArg UInt8.ofNat

theorem deliver_inside (granted : calloc message.size = true)
    (stage : Stage message ctx arrived) (below : index < message.parts)
    (inside : ¬ message.Overflows index)
    (missing : arrived.length < message.parts) :
    if arrived.length + 1 = message.parts then
      if (collectedText message (arrived ++ [index])).length + 4 ≤ message.size then
        ∃ after, message.deliver calloc index ctx = some (after, [⟨ctx.pipe,
              collectedText message (arrived ++ [index]) ++ urcEnd⟩]) ∧
          Stage message after [] ∧ after.pipe = ctx.pipe
      else
        message.deliver calloc index ctx = none
    else
      ∃ after, message.deliver calloc index ctx = some (after, []) ∧
        Stage message after (arrived ++ [index]) ∧
        after.pipe = ctx.pipe := by
  obtain ⟨ready, buffer, delivered, pipe, refNumber, totalMsgs, count, hasBuffer,
    holds⟩ := deliver_stored granted stage below
  obtain ⟨stored, storing, holdsStored⟩ :=
    smsStorePart_holds below holds inside
  have holdsAfter : Holds message (collected message (arrived ++ [index]))
      stored := by
    rw [collected_concat]
    exact holdsStored
  have counted : ready.count + 1 = UInt8.ofNat (arrived.length + 1) := by
    rw [count, UInt8.ofNat_add]
    rfl
  have complete : ready.count + 1 = ready.totalMsgs ↔ arrived.length + 1 = message.parts := by
    rw [counted, totalMsgs]
    exact ofNat_count_eq missing
  rw [delivered, smsConcatStore, hasBuffer, bind_some, storing, bind_some]
  split
  · rename_i last
    rw [if_pos (complete.mpr last)]
    simp only [totalMsgs]
    rw [smsJoin_eq holdsAfter, ← collectedText]
    split
    · rw [← pipe]
      exact ⟨_, rfl, Stage.idle rfl, rfl⟩
    · rfl
  · rename_i notLast
    rw [if_neg fun all => notLast (complete.mp all)]
    refine ⟨_, rfl, ?_, pipe⟩
    refine Stage.collecting refNumber totalMsgs ?_ rfl holdsAfter
    rw [length_append, length_singleton]
    exact counted

/-! ## Runs -/

def sendDrafts (message : SmsMessage) (pipe : Option PipeId) :
    List Nat → List Nat → Option (List (List SmsUrc))
  | _, [] => some []
  | arrived, index :: rest =>
    if message.Overflows index then
      none
    else if arrived.length + 1 = message.parts then
      if (collectedText message (arrived ++ [index])).length + 4 ≤ message.size then
        (sendDrafts message pipe [] rest).map
          ([⟨pipe, collectedText message (arrived ++ [index]) ++ urcEnd⟩] ::
            ·)
      else
        none
    else
      (sendDrafts message pipe (arrived ++ [index]) rest).map ([] :: ·)

theorem deliverAll_eq (granted : calloc message.size = true) {arrivals : List Nat}
    (stage : Stage message ctx arrived)
    (missing : arrived.length < message.parts)
    (parts : ∀ index, index ∈ arrivals → index < message.parts) :
    message.deliverAll calloc arrivals ctx = sendDrafts message ctx.pipe arrived arrivals := by
  induction arrivals generalizing arrived ctx with
  | nil => rfl
  | cons index rest ih =>
    have below := parts index (mem_cons_self ..)
    have later : ∀ other, other ∈ rest → other < message.parts :=
      fun other member => parts other (mem_cons_of_mem _ member)
    rw [SmsMessage.deliverAll, sendDrafts]
    by_cases overflows : message.Overflows index
    · rw [deliver_of_overflows granted stage below overflows, if_pos overflows, bind_none]
    · have result := deliver_inside granted stage below overflows missing
      rw [if_neg overflows]
      by_cases last : arrived.length + 1 = message.parts
      · rw [if_pos last] at result ⊢
        split at result
        · rename_i fits
          obtain ⟨after, delivered, idle, pipe⟩ := result
          rw [delivered, bind_some, if_pos fits, ih idle message.positive later, pipe]
        · rename_i tooLong
          rw [result, bind_none, if_neg tooLong]
      · rw [if_neg last] at result ⊢
        obtain ⟨after, delivered, collecting, pipe⟩ := result
        have few : (arrived ++ [index]).length < message.parts := by
          rw [length_append, length_singleton]
          omega
        rw [delivered, bind_some, ih collecting few later, pipe]

end Delivering

section Sending

variable {message : SmsMessage} {pipe : Option PipeId}

theorem sendDrafts_group {first rest arrived : List Nat} (some_part : first ≠ [])
    (complete : arrived.length + first.length = message.parts)
    (outputs : List (List SmsUrc)) :
    sendDrafts message pipe arrived (first ++ rest) = some outputs ↔
      (∀ index, index ∈ first → ¬ message.Overflows index) ∧
      (collectedText message (arrived ++ first)).length + 4 ≤ message.size ∧
      ∃ later, sendDrafts message pipe [] rest = some later ∧
        outputs = replicate (first.length - 1) [] ++
          [⟨pipe, collectedText message (arrived ++ first) ++ urcEnd⟩] ::
            later := by
  induction first generalizing arrived outputs with
  | nil => exact absurd rfl some_part
  | cons index front ih =>
    rw [cons_append, sendDrafts, forall_mem_cons]
    rw [length_cons] at complete
    by_cases overflows : message.Overflows index
    · rw [if_pos overflows]
      constructor
      · intro absurdity
        cases absurdity
      · exact fun parts => absurd overflows parts.1.1
    rw [if_neg overflows]
    by_cases last : front = []
    · subst last
      rw [length_nil] at complete
      rw [if_pos complete, nil_append]
      by_cases fits : (collectedText message (arrived ++ [index])).length + 4 ≤ message.size
      · rw [if_pos fits, map_eq_some_iff]
        constructor
        · rintro ⟨later, sent, rfl⟩
          exact ⟨⟨overflows, by simp⟩, fits, later, sent, rfl⟩
        · rintro ⟨_, _, later, sent, rfl⟩
          exact ⟨later, sent, rfl⟩
      · rw [if_neg fits]
        constructor
        · intro absurdity
          cases absurdity
        · exact fun parts => absurd parts.2.1 fits
    · have more : 0 < front.length := length_pos_iff.mpr last
      rw [if_neg (by omega), map_eq_some_iff]
      have complete' : (arrived ++ [index]).length + front.length = message.parts := by
        rw [length_append, length_singleton]
        omega
      have step := ih last complete'
      have joined : arrived ++ [index] ++ front = arrived ++ index :: front :=
        (append_cons arrived index front).symm
      rw [joined] at step
      have count : (index :: front).length - 1 = front.length - 1 + 1 := by
        rw [length_cons]
        omega
      simp only [count, replicate_succ, cons_append]
      constructor
      · rintro ⟨sent, done, rfl⟩
        obtain ⟨inside, fits, later, sentLater, rfl⟩ := (step sent).mp done
        exact ⟨⟨overflows, inside⟩, fits, later, sentLater, rfl⟩
      · rintro ⟨⟨_, inside⟩, fits, later, sentLater, rfl⟩
        exact ⟨_, (step _).mpr ⟨inside, fits, later, sentLater, rfl⟩, rfl⟩

theorem sendDrafts_few {rest arrived : List Nat}
    (few : arrived.length + rest.length < message.parts)
    (inside : ∀ index, index ∈ rest → ¬ message.Overflows index) :
    sendDrafts message pipe arrived rest = some (replicate rest.length []) := by
  induction rest generalizing arrived with
  | nil => rfl
  | cons index rest ih =>
    rw [length_cons] at few
    rw [sendDrafts, if_neg (inside index (mem_cons_self ..)), if_neg (by omega), ih
        (by rw [length_append, length_singleton]; omega)
        fun other member => inside other (mem_cons_of_mem _ member)]
    rfl

end Sending

/-! ## What is collected -/

section Collecting

variable {message : SmsMessage}

theorem joined_piece (message : SmsMessage) : Draft.joined message.piece message.parts =
      message.header ++ message.body := by
  have positive := message.positive
  have each : ∀ count, Draft.joined message.piece (count + 1) =
      message.header ++ (List.range (count + 1)).flatMap message.text := by
    intro count
    induction count with
    | zero =>
      rw [Draft.joined_one, SmsMessage.piece_zero, range_one, flatMap_singleton]
    | succ count ih =>
      rw [Draft.joined_succ, ih, SmsMessage.piece_of_ne (Nat.succ_ne_zero count),
        range_succ (n := count + 1), flatMap_append,
        flatMap_singleton, append_assoc]
  have parts := each (message.parts - 1)
  rw [Nat.sub_add_cancel positive] at parts
  exact parts

theorem put_cases (draft : Draft) (index slot : Nat)
    (before : draft slot = [] ∨ draft slot = message.piece slot) :
    draft.put message index slot = [] ∨ draft.put message index slot = message.piece slot := by
  rw [Draft.put]
  split
  · rename_i same
    rw [same]
    exact .inr rfl
  · split
    · exact .inl rfl
    · exact before

theorem collected_cases (arrived : List Nat) (slot : Nat) : collected message arrived slot = [] ∨
      collected message arrived slot = message.piece slot := by
  induction arrived using reverseRecOn with
  | nil => exact .inl rfl
  | append_singleton arrived index ih =>
    rw [collected_concat, Draft.collect]
    apply put_cases
    split
    · exact .inl rfl
    · exact ih

theorem collectedText_eq_iff (arrived : List Nat) :
    collectedText message arrived = message.header ++ message.body ↔
      ∀ slot, slot < message.parts → collected message arrived slot = message.piece slot := by
  rw [← joined_piece, collectedText]
  constructor
  · intro same slot below
    have shorter : ∀ slot, slot < message.parts → (collected message arrived slot).length ≤
          (message.piece slot).length := by
      intro slot _
      rcases collected_cases arrived slot with isEmpty | isPiece
      · rw [isEmpty]
        exact Nat.zero_le _
      · rw [isPiece]
    have lengths := Draft.slot_of_joined shorter
      (Nat.le_of_eq (congrArg List.length same.symm)) slot below
    rcases collected_cases arrived slot with isEmpty | isPiece
    · rw [isEmpty] at lengths
      rw [isEmpty, eq_nil_of_length_eq_zero lengths.symm]
    · exact isPiece
  · exact Draft.joined_congr

theorem piece_zero_ne_nil (message : SmsMessage) : message.piece 0 ≠ [] := by
  have long := length_header (message.part 0)
  intro isEmpty
  have noHeader : message.header = [] :=
    (append_eq_nil_iff.mp isEmpty).1
  have short : (message.part 0).header.length = 0 :=
    congrArg List.length noHeader
  omega

theorem collected_unnumbered (unnumbered : message.refNumber = 0) (front : List Nat) (last : Nat) :
    (∀ slot, slot < message.parts → collected message (front ++ [last]) slot = message.piece slot) ↔
    last = 0 ∧ ∀ slot, 0 < slot → slot < message.parts → message.text slot = [] := by
  have positive := message.positive
  rw [collected_concat, Draft.collect, if_pos unnumbered]
  have left : ∀ slot, slot ≠ last → blank.put message last slot = [] := by
    intro slot different
    rw [Draft.put, if_neg different]
    split <;> rfl
  constructor
  · intro pieces
    have isFirst : last = 0 := by
      by_contra later
      have first := pieces 0 positive
      rw [left 0 (Ne.symm later)] at first
      exact piece_zero_ne_nil message first.symm
    refine ⟨isFirst, ?_⟩
    intro slot later below
    have piece := pieces slot below
    rw [left slot (by omega), SmsMessage.piece_of_ne (by omega)] at piece
    exact piece.symm
  · rintro ⟨rfl, empty⟩ slot below
    by_cases isFirst : slot = 0
    · subst isFirst
      exact if_pos rfl
    · rw [left slot isFirst, SmsMessage.piece_of_ne isFirst, empty slot (by omega) below]

def Emptied (message : SmsMessage) (arrived : List Nat) (slot : Nat) : Prop :=
  1 < slot ∧ slot - 1 ∈ arrived ∧ (message.text (slot - 1)).length = smsMaxPayloadLenChars ∧
    arrived.idxOf slot < arrived.idxOf (slot - 1)

instance (message : SmsMessage) (arrived : List Nat) (slot : Nat) :
    Decidable (Emptied message arrived slot) :=
  inferInstanceAs (Decidable (_ ∧ _))

theorem collected_numbered (numbered : message.refNumber ≠ 0)
    {arrived : List Nat} (distinct : arrived.Nodup) (slot : Nat) :
    collected message arrived slot =
      if slot ∈ arrived ∧ ¬ Emptied message arrived slot then
        message.piece slot
      else
        [] := by
  induction arrived using reverseRecOn with
  | nil => rfl
  | append_singleton arrived index ih =>
    have apart := nodup_append.mp distinct
    have fresh : index ∉ arrived := fun member =>
      apart.2.2 index member index (mem_singleton_self _) rfl
    have position : (arrived ++ [index]).idxOf index = arrived.length := by
      rw [idxOf_append_of_notMem fresh, idxOf_cons_self, Nat.add_zero]
    have earlier : ∀ other, other ∈ arrived →
        (arrived ++ [index]).idxOf other = arrived.idxOf other :=
      fun other member => idxOf_append_of_mem member
    have within : ∀ other, other ∈ arrived → arrived.idxOf other < arrived.length :=
      fun other member => idxOf_lt_length_of_mem member
    rw [collected_concat, Draft.collect, if_neg numbered, Draft.put]
    by_cases isLast : slot = index
    · subst isLast
      rw [if_pos rfl, if_pos]
      refine ⟨mem_append_right _ (mem_singleton_self _), ?_⟩
      rintro ⟨later, member, _, order⟩
      rw [position] at order
      rcases mem_append.mp member with old | new
      · rw [earlier _ old] at order
        exact absurd (within _ old) (Nat.not_lt.mpr (Nat.le_of_lt order))
      · have same := mem_singleton.mp new
        omega
    · rw [if_neg isLast]
      have sameMember : slot ∈ arrived ++ [index] ↔ slot ∈ arrived := by
        rw [mem_append, mem_singleton]
        exact or_iff_left isLast
      split
      · rename_i clobbered
        obtain ⟨later, rfl, full⟩ := clobbered
        rw [if_neg]
        rintro ⟨member, notEmptied⟩
        apply notEmptied
        have old := sameMember.mp member
        refine ⟨by omega, ?_, full, ?_⟩
        · rw [Nat.add_sub_cancel]
          exact mem_append_right _ (mem_singleton_self _)
        · rw [Nat.add_sub_cancel, position, earlier _ old]
          exact within _ old
      · rename_i kept
        rw [ih apart.1]
        apply if_congr _ rfl rfl
        rw [sameMember]
        apply and_congr_right
        intro old
        apply not_congr
        unfold Emptied
        rw [earlier _ old]
        constructor
        · rintro ⟨later, member, full, order⟩
          refine ⟨later, mem_append_left _ member, full, ?_⟩
          rw [earlier _ member]
          exact order
        · rintro ⟨later, member, full, order⟩
          rcases mem_append.mp member with before | new
          · rw [earlier _ before] at order
            exact ⟨later, before, full, order⟩
          · have same := mem_singleton.mp new
            rw [same] at full
            exact absurd ⟨by omega, by omega, full⟩ kept

end Collecting

/-! ## Reassembly -/

section Reassembly

variable (message : SmsMessage) (arrivals : List Nat)

def Covers (arrivals : List Nat) : Prop :=
  ∀ index, index < message.parts → index ∈ arrivals

instance : Decidable (Covers message arrivals) :=
  inferInstanceAs (Decidable (∀ index, index < message.parts → _))

def CompletesAt (position : Nat) : Prop :=
  Covers message (arrivals.take (position + 1)) ∧ ¬ Covers message (arrivals.take position)

instance (position : Nat) : Decidable (CompletesAt message arrivals position) :=
  inferInstanceAs (Decidable (_ ∧ _))

def expectedUrcs (pipe : Option PipeId) : List (List SmsUrc) :=
  (List.range arrivals.length).map fun position =>
    if CompletesAt message arrivals position then
      [⟨pipe, message.urc⟩]
    else
      []

/-- All parts arrive, and no others. -/
def Arrivals : Prop :=
  ∀ index, index ∈ arrivals ↔ index < message.parts

/-- The handler stays inside its buffer and sends what is expected. -/
def Reassembled (calloc : Nat → Bool) (ctx : SmsCtx) : Prop :=
  message.deliverAll calloc arrivals ctx = some (expectedUrcs message arrivals ctx.pipe)

/-- The conditions under which the message is sent once and whole. -/
structure ReassemblesWhen (calloc : Nat → Bool) : Prop where
  granted : calloc message.size = true
  distinct : (arrivals.take message.parts).Nodup
  once : arrivals.length < 2 * message.parts
  inside : ¬ message.Overflows (message.parts - 1)
  fits : (message.header ++ message.body).length + 4 ≤ message.size
  ordered : message.refNumber ≠ 0 → ∀ index, index < message.parts →
    Emptied message (arrivals.take message.parts) index → message.text index = []
  /-- Without a reference number the first part is the last one to arrive and the
  others are empty. -/
  unnumbered : message.refNumber = 0 → (arrivals.take message.parts).getLast? = some 0 ∧
      ∀ index, 0 < index → index < message.parts → message.text index = []

variable {message : SmsMessage} {arrivals : List Nat}

theorem Covers.parts_le (covers : Covers message arrivals) : message.parts ≤ arrivals.length := by
  have subset : List.range message.parts ⊆ arrivals := fun index member =>
    covers index (mem_range.mp member)
  have within := (nodup_range.subperm subset).length_le
  rw [length_range] at within
  exact within

variable {first : List Nat}

theorem covers_iff_nodup (parts : ∀ index, index ∈ first → index < message.parts)
    (count : first.length = message.parts) :
    Covers message first ↔ first.Nodup := by
  constructor
  · intro covers
    have subset : List.range message.parts ⊆ first := fun index member =>
      covers index (mem_range.mp member)
    have same : List.Perm (List.range message.parts) first :=
      (nodup_range.subperm subset).perm_of_length_le (by rw [length_range, count])
    exact same.nodup_iff.mp nodup_range
  · intro distinct index below
    have subset : first ⊆ List.range message.parts := fun other member =>
      mem_range.mpr (parts other member)
    have same : List.Perm first (List.range message.parts) :=
      (distinct.subperm subset).perm_of_length_le (by rw [length_range, count])
    exact same.mem_iff.mpr (mem_range.mpr below)

theorem Arrivals.covers (covering : Arrivals message arrivals) : Covers message arrivals :=
  fun index below => (covering index).mpr below

theorem Arrivals.length_first (covering : Arrivals message arrivals) :
    (arrivals.take message.parts).length = message.parts := by
  rw [length_take]
  exact Nat.min_eq_left covering.covers.parts_le

theorem Covers.mono {early late : List Nat} (covers : Covers message early)
    (within : early ⊆ late) : Covers message late :=
  fun index below => within (covers index below)

variable {position : Nat}

theorem completesAt_le (completes : CompletesAt message arrivals position) :
    message.parts ≤ position + 1 := by
  have within := completes.1.parts_le
  rw [length_take] at within
  omega

theorem completesAt_of_covers
    (first : Covers message (arrivals.take message.parts)) (position : Nat) :
    CompletesAt message arrivals position ↔ position + 1 = message.parts := by
  constructor
  · intro completes
    have low := completesAt_le completes
    by_contra different
    apply completes.2
    apply first.mono
    exact take_subset_take_left _ (by omega)
  · rintro last
    refine ⟨last ▸ first, ?_⟩
    intro covers
    have within := covers.parts_le
    rw [length_take] at within
    omega

theorem length_expectedUrcs (pipe : Option PipeId) :
    (expectedUrcs message arrivals pipe).length = arrivals.length := by
  rw [expectedUrcs, length_map, length_range]

theorem getElem_expectedUrcs (pipe : Option PipeId)
    (within : position < (expectedUrcs message arrivals pipe).length) :
    (expectedUrcs message arrivals pipe)[position] =
      if CompletesAt message arrivals position then
        [⟨pipe, message.urc⟩]
      else
        [] := by
  simp only [expectedUrcs, getElem_map, getElem_range]

theorem expectedUrcs_of_covers (pipe : Option PipeId)
    (first : Covers message (arrivals.take message.parts)) :
    expectedUrcs message arrivals pipe =
      replicate (message.parts - 1) [] ++ [⟨pipe, message.urc⟩] ::
          replicate (arrivals.drop message.parts).length [] := by
  have positive := message.positive
  have enough := first.parts_le
  rw [length_take] at enough
  have count : (replicate (message.parts - 1) ([] : List SmsUrc)).length =
      message.parts - 1 := length_replicate
  apply ext_getElem
  · rw [length_expectedUrcs, length_append, length_cons, count, length_replicate, length_drop]
    omega
  · intro position within _
    have completes := completesAt_of_covers first position
    rw [getElem_expectedUrcs, getElem_append]
    split
    · rename_i last
      rw [dif_neg (by rw [count]; have := completes.mp last; omega), getElem_cons]
      rw [dif_pos (by rw [count]; have := completes.mp last; omega)]
    · rename_i other
      split
      · rw [getElem_replicate]
      · rename_i after
        rw [count] at after
        rw [getElem_cons, dif_neg]
        · rw [getElem_replicate]
        · rw [count]
          intro isLast
          exact other (completes.mpr (by omega))

theorem exists_completesAt (covering : Arrivals message arrivals) :
    ∃ position, position < arrivals.length ∧ CompletesAt message arrivals position := by
  have positive := message.positive
  have some_count : ∃ count, Covers message (arrivals.take count) :=
    ⟨arrivals.length, by rw [take_length]; exact covering.covers⟩
  have least := Nat.find_spec some_count
  have within : Nat.find some_count ≤ arrivals.length :=
    Nat.find_min' some_count (by rw [take_length]; exact covering.covers)
  have enough := least.parts_le
  rw [length_take] at enough
  refine ⟨Nat.find some_count - 1, by omega, ?_, ?_⟩
  · rw [Nat.sub_add_cancel (by omega)]
    exact least
  · exact Nat.find_min some_count (by omega)

/-! ## The condition -/

theorem deliverAll_refused {calloc : Nat → Bool} {ctx : SmsCtx}
    (idle : ctx.Idle) (refused : calloc message.size = false)
    (arrivals : List Nat) :
    message.deliverAll calloc arrivals ctx = some (replicate arrivals.length []) := by
  have noNumber : ctx.refNumber = 0 := by rw [← idle]; rfl
  have each : ∀ index, message.deliver calloc index ctx = some (ctx, []) := by
    intro index
    rw [SmsMessage.deliver, smsCallback, smsConcatHandle,
      if_neg fun both => both.1 noNumber, smsConcatBegin, if_pos noNumber,
      concatMsgLen_eq, refused]
    simp only [Bool.false_eq_true, if_false, ite_self]
    rw [idle]
  induction arrivals with
  | nil => rfl
  | cons index rest ih =>
    rw [SmsMessage.deliverAll, each, bind_some, ih]
    rfl

theorem collectedText_iff (distinct : first.Nodup) (covers : Covers message first) :
    collectedText message first = message.header ++ message.body ↔
      (message.refNumber ≠ 0 → ∀ index, index < message.parts →
        Emptied message first index → message.text index = []) ∧
      (message.refNumber = 0 → first.getLast? = some 0 ∧
        ∀ index, 0 < index → index < message.parts → message.text index = []) := by
  rw [collectedText_eq_iff]
  by_cases unnumbered : message.refNumber = 0
  · have some_part : first ≠ [] :=
      ne_nil_of_mem (covers 0 message.positive)
    obtain ⟨front, last, rfl⟩ : ∃ front last, first = front ++ [last] :=
      ⟨first.dropLast, first.getLast some_part, (dropLast_append_getLast some_part).symm⟩
    rw [collected_unnumbered unnumbered, getLast?_concat, some_inj]
    exact ⟨fun both => ⟨fun numbered => absurd unnumbered numbered,
      fun _ => both⟩, fun both => both.2 unnumbered⟩
  · have pieces := collected_numbered unnumbered distinct
    have slots : (∀ slot, slot < message.parts →
        collected message first slot = message.piece slot) ↔
        ∀ index, index < message.parts → Emptied message first index → message.text index = [] := by
      apply forall_congr'
      intro slot
      apply imp_congr_right
      intro below
      rw [pieces]
      by_cases emptied : Emptied message first slot
      · rw [if_neg fun both => both.2 emptied, SmsMessage.piece_of_ne (by have := emptied.1; omega)]
        exact ⟨fun empty _ => empty.symm, fun empty => (empty emptied).symm⟩
      · rw [if_pos ⟨covers slot below, emptied⟩]
        exact ⟨fun _ isEmptied => absurd isEmptied emptied, fun _ => rfl⟩
    rw [slots]
    exact ⟨fun ordered => ⟨fun _ => ordered,
      fun isZero => absurd isZero unnumbered⟩, fun both => both.1 unnumbered⟩

theorem overflows_iff_last (covers : Covers message first) :
    (∀ index, index ∈ first → ¬ message.Overflows index) ↔
      ¬ message.Overflows (message.parts - 1) := by
  have positive := message.positive
  constructor
  · intro inside
    exact inside _ (covers _ (by omega))
  · intro lastInside index _ overflows
    have isLast : index = message.parts - 1 := by
      have last := overflows.2.1
      omega
    rw [isLast] at overflows
    exact lastInside overflows

theorem sent_expected {pipe : Option PipeId} {text : List Byte}
    (sent : (expectedUrcs message arrivals pipe)[position]? = some [⟨pipe, text⟩]) :
    CompletesAt message arrivals position ∧ text = message.urc := by
  obtain ⟨within, element⟩ := List.getElem?_eq_some_iff.mp sent
  rw [getElem_expectedUrcs] at element
  split at element
  · rename_i completes
    injection element with same _
    injection same with _ texts
    exact ⟨completes, texts.symm⟩
  · cases element

theorem getElem?_group {first : List SmsUrc} {later : List (List SmsUrc)} (count position : Nat) :
    (replicate count [] ++ first :: later)[count + position]? = (first :: later)[position]? := by
  rw [getElem?_append_right (by rw [length_replicate]; omega),
    length_replicate, Nat.add_sub_cancel_left]

/-- The first arrivals send the message exactly when they are its parts, each of
them once and in a good order, and the buffer has room for them. -/
theorem sendDrafts_expected_iff {rest : List Nat} (covering : Arrivals message (first ++ rest))
    (count : first.length = message.parts) (pipe : Option PipeId) :
    sendDrafts message pipe [] (first ++ rest) = some (expectedUrcs message (first ++ rest) pipe) ↔
      first.Nodup ∧ rest.length < message.parts ∧
      ¬ message.Overflows (message.parts - 1) ∧
      (message.header ++ message.body).length + 4 ≤ message.size ∧
      collectedText message first = message.header ++ message.body := by
  have positive := message.positive
  have below : ∀ index, index ∈ first → index < message.parts :=
    fun index member => (covering index).mp (mem_append_left _ member)
  have some_part : first ≠ [] := length_pos_iff.mp (count ▸ positive)
  have isFirst : (first ++ rest).take message.parts = first := by
    rw [← count, take_left]
  have isRest : (first ++ rest).drop message.parts = rest := by
    rw [← count, drop_left]
  rw [sendDrafts_group some_part (by rw [length_nil, Nat.zero_add, count]), nil_append, count]
  constructor
  · rintro ⟨inside, fits, later, sentLater, expected⟩
    have atLast : (expectedUrcs message (first ++ rest) pipe)[ message.parts - 1 + 0]? =
          some [⟨pipe, collectedText message first ++ urcEnd⟩] := by
      rw [expected, getElem?_group, getElem?_cons_zero]
    obtain ⟨completes, texts⟩ := sent_expected atLast
    have covers : Covers message first := by
      have all := completes.1
      rw [Nat.add_zero, Nat.sub_add_cancel positive, isFirst] at all
      exact all
    have text : collectedText message first = message.header ++ message.body :=
      append_cancel_right texts
    refine ⟨(covers_iff_nodup below count).mp covers, ?_,
      (overflows_iff_last covers).mp inside, ?_, text⟩
    · -- As many arrivals again would send a second message.
      by_contra many
      obtain ⟨second, third, rfl, secondCount⟩ : ∃ second third,
          rest = second ++ third ∧ second.length = message.parts :=
        ⟨rest.take message.parts, rest.drop message.parts,
          (take_append_drop ..).symm, by rw [length_take]; omega⟩
      obtain ⟨_, _, latest, _, again⟩ := (sendDrafts_group
        (length_pos_iff.mp (secondCount ▸ positive))
        (by rw [length_nil, Nat.zero_add, secondCount]) later).mp sentLater
      have next : later[message.parts - 1 + 0]? =
          some [⟨pipe, collectedText message ([] ++ second) ++ urcEnd⟩] := by
        rw [again, secondCount, getElem?_group, getElem?_cons_zero]
      have atSecond : (expectedUrcs message (first ++ (second ++ third)) pipe)[
          message.parts - 1 + (message.parts - 1 + 1)]? =
            some [⟨pipe, collectedText message ([] ++ second) ++ urcEnd⟩] := by
        rw [expected, getElem?_group, getElem?_cons_succ]
        exact next
      have onlyOnce := (completesAt_of_covers
        (isFirst.symm ▸ covers) _).mp (sent_expected atSecond).1
      omega
    · rw [← text]
      exact fits
  · rintro ⟨distinct, few, lastInside, fits, text⟩
    have covers := (covers_iff_nodup below count).mpr distinct
    have restBelow : ∀ index, index ∈ rest → ¬ message.Overflows index := by
      have all : Covers message (first ++ rest) :=
        covers.mono (subset_append_left _ _)
      intro index member
      exact (overflows_iff_last all).mpr lastInside index (mem_append_right _ member)
    refine ⟨(overflows_iff_last covers).mpr lastInside, text ▸ fits, _,
      sendDrafts_few (by rw [length_nil]; omega) restBelow, ?_⟩
    rw [expectedUrcs_of_covers pipe (isFirst.symm ▸ covers), isRest, text]
    rfl

/-- A message is reassembled exactly when its buffer is granted, its parts arrive
once each before it is complete and in a good order, and its texts leave room
for the ends that are stored. -/
theorem reassembled_iff (calloc : Nat → Bool) (message : SmsMessage)
    (arrivals : List Nat) (ctx : SmsCtx) (idle : ctx.Idle)
    (covering : Arrivals message arrivals) :
    Reassembled message arrivals calloc ctx ↔ ReassemblesWhen message arrivals calloc := by
  have positive := message.positive
  have enough := covering.covers.parts_le
  obtain ⟨first, rest, rfl, count⟩ : ∃ first rest,
      arrivals = first ++ rest ∧ first.length = message.parts :=
    ⟨arrivals.take message.parts, arrivals.drop message.parts,
      (take_append_drop ..).symm, covering.length_first⟩
  have isFirst : (first ++ rest).take message.parts = first := by
    rw [← count, take_left]
  have below : ∀ index, index ∈ first → index < message.parts :=
    fun index member => (covering index).mp (mem_append_left _ member)
  rw [Reassembled]
  cases granted : calloc message.size with
  | false =>
    constructor
    · intro reassembled
      rw [deliverAll_refused idle granted] at reassembled
      obtain ⟨position, within, completes⟩ := exists_completesAt covering
      have sent : (expectedUrcs message (first ++ rest) ctx.pipe)[position]? = some [] := by
        rw [← some_inj.mp reassembled, getElem?_replicate_of_lt within]
      obtain ⟨inside, element⟩ := List.getElem?_eq_some_iff.mp sent
      rw [getElem_expectedUrcs, if_pos completes] at element
      cases element
    · intro condition
      rw [condition.granted] at granted
      cases granted
  | true =>
    rw [deliverAll_eq granted (Stage.idle idle) positive
      fun index member => (covering index).mp member,
      sendDrafts_expected_iff covering count]
    constructor
    · rintro ⟨distinct, few, inside, fits, text⟩
      have covers := (covers_iff_nodup below count).mpr distinct
      obtain ⟨ordered, unnumbered⟩ :=
        (collectedText_iff distinct covers).mp text
      refine ⟨granted, ?_, ?_, inside, fits, ?_, ?_⟩
      · rw [isFirst]
        exact distinct
      · rw [length_append]
        omega
      · rw [isFirst]
        exact ordered
      · rw [isFirst]
        exact unnumbered
    · intro condition
      have distinct := condition.distinct
      have once := condition.once
      have ordered := condition.ordered
      have unnumbered := condition.unnumbered
      rw [isFirst] at distinct ordered unnumbered
      rw [length_append] at once
      have covers := (covers_iff_nodup below count).mpr distinct
      exact ⟨distinct, by omega, condition.inside, condition.fits,
        (collectedText_iff distinct covers).mpr ⟨ordered, unnumbered⟩⟩

end Reassembly

/-! ## A repeated part -/

def repeatedMessage : SmsMessage where
  refNumber := 7
  parts := 2
  part index := {
    time := ⟨26, 3, 1, 12, 30, 5, 8, by decide, by decide⟩
    originatingAddress := ⟨ascii "+3580001", by decide +kernel, by decide⟩
    payload := if index = 0 then ⟨ascii "Hello ", by decide +kernel, by decide⟩
      else ⟨ascii "world", by decide +kernel, by decide⟩ }
  positive := by decide
  bounded := by decide

def repeatedCtx : SmsCtx where
  pipe := none
  refNumber := 0
  totalMsgs := 0
  count := 0
  concatRspBuf := none
  cleanupWork := false

/-- The first part arrives twice before the second one. -/
theorem repeated_not_reassembled :
    ¬ ∀ (calloc : Nat → Bool) (message : SmsMessage) (arrivals : List Nat)
      (ctx : SmsCtx), ctx.Idle → Arrivals message arrivals →
        Reassembled message arrivals calloc ctx := by
  intro reassembles
  have covering : Arrivals repeatedMessage [0, 0, 1] := by
    intro index
    rw [mem_cons, mem_cons, mem_singleton]
    show _ ↔ index < 2
    omega
  have repeated := reassembles (fun _ => true) repeatedMessage [0, 0, 1]
    repeatedCtx rfl covering
  have early : ¬ Reassembled repeatedMessage [0, 0, 1] (fun _ => true)
      repeatedCtx := by
    unfold Reassembled
    decide
  exact early repeated

def reorderedMessage : SmsMessage where
  refNumber := 7
  parts := 3
  part index :=
    if index = 2 then
      { repeatedMessage.part 1 with payload := ⟨ascii " again", by decide +kernel, by decide⟩ }
    else
      repeatedMessage.part index
  positive := by decide
  bounded := by decide

/-- The last part arrives first, and once more when the message is complete. -/
theorem reordered_reassembled :
    Reassembled reorderedMessage [2, 0, 1, 2] (fun _ => true) repeatedCtx := by
  have covering : Arrivals reorderedMessage [2, 0, 1, 2] := by
    intro index
    rw [mem_cons, mem_cons, mem_cons, mem_singleton]
    show _ ↔ index < 3
    omega
  apply (reassembled_iff (fun _ => true) reorderedMessage _ repeatedCtx rfl covering).mpr
  exact
    { granted := rfl
      distinct := by decide
      once := by decide
      inside := by decide
      fits := by decide
      ordered := fun _ => by decide
      unnumbered := fun isZero => absurd isZero (by decide) }

end SerialModem.Sms
