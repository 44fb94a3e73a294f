import SerialModem.Library.OnesComplement

/-!
# The Internet checksum

`check_ics` adds a buffer in words of 32 bits, with the end-around carry, and
folds the sum to 16 bits at the end.  The checksum is defined on words of 16
bits.
-/

namespace SerialModem.Icmp

open Library List Option

abbrev Byte := UInt8

/-! ## Memory

A load or a store behind the end of the buffer gives `none`. -/

/-- `*(const uint16_t *)(buffer + pos)`. -/
def load16 (buffer : List Byte) (pos : Nat) : Option Nat := do
  let low ← buffer[pos]?
  let high ← buffer[pos + 1]?
  return low.toNat + 0x100 * high.toNat

/-- `*(const uint32_t *)(buffer + pos)`. -/
def load32 (buffer : List Byte) (pos : Nat) : Option Nat := do
  let low ← load16 buffer pos
  let high ← load16 buffer (pos + 2)
  return low + 0x10000 * high

def store8 (pos value : Nat) (buffer : List Byte) : Option (List Byte) :=
  if pos < buffer.length then
    some (buffer.set pos (UInt8.ofNat value))
  else
    none

/-- `*(uint16_t *)(buffer + pos) = value`. -/
def store16 (pos value : Nat) (buffer : List Byte) : Option (List Byte) := do
  let buffer ← store8 pos value buffer
  store8 (pos + 1) (value / 0x100) buffer

def addCarry (hcs s : Nat) : Nat :=
  let sum := (hcs + s) % 0x100000000
  if sum < s then
    (sum + 1) % 0x100000000
  else
    sum

def addWords (buffer : List Byte) : Nat → Nat → Nat → Option Nat
  | 0, _, hcs => some hcs
  | count + 1, pos, hcs => do
    let s ← load32 buffer pos
    addWords buffer count (pos + 4) (addCarry hcs s)

def foldCarry (hcs : Nat) : Nat :=
  if 0xFFFF < hcs then
    foldCarry (hcs % 0x10000 + hcs / 0x10000)
  else
    hcs
termination_by hcs
decreasing_by omega

def addHalf (buffer : List Byte) (len pos hcs : Nat) : Option Nat :=
  if len.testBit 1 then
    (load16 buffer pos).map (addCarry hcs)
  else
    some hcs

def addLast (buffer : List Byte) (len pos hcs : Nat) : Option Nat :=
  if len.testBit 0 then
    buffer[pos]?.map fun s => addCarry hcs s.toNat
  else
    some hcs

def checkIcs (buffer : List Byte) (pos len : Nat) : Option Nat := do
  let hcs ← addWords buffer (len / 4) pos 0
  let ptr16 := pos + 4 * (len / 4)
  let hcs ← addHalf buffer len ptr16 hcs
  let ptr8 := if len.testBit 1 then ptr16 + 2 else ptr16
  let hcs ← addLast buffer len ptr8 hcs
  -- The complement is cut to 16 bits.
  return 0xFFFF - foldCarry hcs

/-- `calc_ics`: the field is zero while the sum is taken. -/
def calcIcs (pos len hcsPos : Nat) (buffer : List Byte) : Option (List Byte) := do
  let cleared ← store16 (pos + hcsPos) 0 buffer
  let hcs ← checkIcs cleared pos len
  store16 (pos + hcsPos) hcs cleared

/-- The little-endian words of 16 bits; an odd last byte is padded with zero. -/
def words16 : List Byte → List Nat
  | [] => []
  | [last] => [last.toNat]
  | low :: high :: rest => (low.toNat + 0x100 * high.toNat) :: words16 rest

/-- The checksum of RFC 1071. -/
def internetChecksum (bytes : List Byte) : Nat :=
  0xFFFF - onesSum 0xFFFF (words16 bytes)

def wordTotal (bytes : List Byte) : Nat :=
  (words16 bytes).sum

theorem words16_le {bytes : List Byte} : ∀ word ∈ words16 bytes, word ≤ 0xFFFF := by
  induction bytes using words16.induct with
  | case1 => exact fun _ member => absurd member (not_mem_nil)
  | case2 last =>
    intro word member
    rw [mem_singleton.mp member]
    have small := last.toNat_lt
    omega
  | case3 low high rest ih =>
    intro word member
    rcases mem_cons.mp member with rfl | inRest
    · have lowSmall := low.toNat_lt
      have highSmall := high.toNat_lt
      omega
    · exact ih word inRest

/-- Behind an odd number of bytes the tail begins with the high byte of a word. -/
theorem wordTotal_append_odd (front tail : List Byte) : wordTotal (front ++ tail) =
      wordTotal front + wordTotal (replicate (front.length % 2) 0 ++ tail) := by
  induction front using words16.induct with
  | case1 => exact (Nat.zero_add _).symm
  | case2 last =>
    have zero : wordTotal [0] = 0 := rfl
    cases tail with
    | nil => exact congrArg (wordTotal [last] + ·) zero.symm
    | cons high rest =>
      have parts : ∀ low : Byte, wordTotal (low :: high :: rest) =
          low.toNat + 0x100 * high.toNat + wordTotal rest := fun _ => sum_cons
      have single : wordTotal [last] = last.toNat := Nat.add_zero _
      have same : wordTotal (replicate 1 0 ++ high :: rest) = wordTotal (0 :: high :: rest) := rfl
      have none : (0 : Byte).toNat = 0 := rfl
      rw [singleton_append, parts, single, length_singleton, same, parts, none]
      omega
  | case3 low high rest ih =>
    have parity : (low :: high :: rest).length % 2 = rest.length % 2 := by
      rw [length_cons, length_cons]
      omega
    rw [parity]
    unfold wordTotal at ih ⊢
    rw [cons_append, cons_append, words16, words16, sum_cons, sum_cons, ih]
    omega

theorem wordTotal_append {front : List Byte} (tail : List Byte) (even : front.length % 2 = 0) :
    wordTotal (front ++ tail) = wordTotal front + wordTotal tail := by
  rw [wordTotal_append_odd, even]
  rfl

theorem addCarry_eq {hcs s : Nat} (hcsLe : hcs ≤ 0xFFFFFFFF)
    (sLe : s ≤ 0xFFFFFFFF) : addCarry hcs s = onesAdd 0xFFFFFFFF hcs s := by
  unfold addCarry onesAdd
  dsimp only
  split <;> omega

theorem addCarry_spec {hcs s : Nat} (hcsLe : hcs ≤ 0xFFFFFFFF) (sLe : s ≤ 0xFFFFFFFF) :
    addCarry hcs s ≤ 0xFFFFFFFF ∧ OnesCongr 0xFFFF (addCarry hcs s) (hcs + s) := by
  rw [addCarry_eq hcsLe sLe]
  exact ⟨onesAdd_le hcsLe sLe, (onesAdd_congr 0xFFFFFFFF hcs s).of_dvd ⟨0x10001, rfl⟩⟩

theorem foldCarry_spec (hcs : Nat) :
    foldCarry hcs ≤ 0xFFFF ∧ OnesCongr 0xFFFF (foldCarry hcs) hcs := by
  induction hcs using foldCarry.induct with
  | case1 hcs large ih =>
    rw [foldCarry, if_pos large]
    exact ⟨ih.1, ih.2.trans (OnesCongr.carry 0xFFFF hcs)⟩
  | case2 hcs small =>
    rw [foldCarry, if_neg small]
    exact ⟨Nat.le_of_not_lt small, OnesCongr.refl _ _⟩

def slice (buffer : List Byte) (pos len : Nat) : List Byte :=
  (buffer.drop pos).take len

variable {buffer : List Byte} {pos : Nat}

theorem length_slice {len : Nat} (within : pos + len ≤ buffer.length) :
    (slice buffer pos len).length = len := by
  rw [slice, length_take, length_drop]
  omega

theorem slice_add (buffer : List Byte) (pos first second : Nat) :
    slice buffer pos (first + second) =
      slice buffer pos first ++ slice buffer (pos + first) second := by
  rw [slice, take_add, drop_drop]
  rfl

theorem slice_one (within : pos < buffer.length) : slice buffer pos 1 = [buffer[pos]] := by
  rw [slice, drop_eq_getElem_cons within]
  rfl

theorem slice_two (within : pos + 1 < buffer.length) :
    slice buffer pos 2 = [buffer[pos], buffer[pos + 1]] := by
  rw [slice_add buffer pos 1 1, slice_one (by omega), slice_one within]
  rfl

theorem load16_spec {buffer : List Byte} {pos : Nat} (within : pos + 2 ≤ buffer.length) :
    load16 buffer pos = some (wordTotal (slice buffer pos 2)) ∧
      wordTotal (slice buffer pos 2) ≤ 0xFFFF := by
  have first : pos < buffer.length := by omega
  have second : pos + 1 < buffer.length := by omega
  have total : wordTotal (slice buffer pos 2) =
      buffer[pos].toNat + 0x100 * buffer[pos + 1].toNat := by
    rw [slice_two second]
    rfl
  have lowSmall := buffer[pos].toNat_lt
  have highSmall := buffer[pos + 1].toNat_lt
  refine ⟨?_, by omega⟩
  rw [load16, getElem?_eq_getElem first, getElem?_eq_getElem second, total]
  rfl

theorem load32_spec {buffer : List Byte} {pos : Nat} (within : pos + 4 ≤ buffer.length) :
    ∃ word, load32 buffer pos = some word ∧ word ≤ 0xFFFFFFFF ∧
      OnesCongr 0xFFFF word (wordTotal (slice buffer pos 4)) := by
  obtain ⟨low, lowSmall⟩ := @load16_spec buffer pos (by omega)
  obtain ⟨high, highSmall⟩ := @load16_spec buffer (pos + 2) (by omega)
  refine ⟨_, by rw [load32, low, high]; rfl, by omega, ?_⟩
  have even : (slice buffer pos 2).length % 2 = 0 := by
    rw [length_slice (by omega)]
  rw [slice_add buffer pos 2 2, wordTotal_append _ even, Nat.mul_comm 0x10000]
  exact (OnesCongr.refl _ _).add (OnesCongr.mul_succ 0xFFFF _)

theorem addWords_spec {buffer : List Byte} (count : Nat) :
    ∀ {pos hcs : Nat}, pos + 4 * count ≤ buffer.length → hcs ≤ 0xFFFFFFFF →
      ∃ sum, addWords buffer count pos hcs = some sum ∧ sum ≤ 0xFFFFFFFF ∧
        OnesCongr 0xFFFF sum (hcs + wordTotal (slice buffer pos (4 * count))) := by
  induction count with
  | zero =>
    intro pos hcs _ hcsLe
    exact ⟨hcs, rfl, hcsLe, OnesCongr.refl _ _⟩
  | succ count ih =>
    intro pos hcs within hcsLe
    obtain ⟨word, isWord, wordLe, same⟩ :=
      @load32_spec buffer pos (by omega)
    obtain ⟨carriedLe, carried⟩ := addCarry_spec hcsLe wordLe
    obtain ⟨sum, isSum, sumLe, sumSame⟩ :=
      @ih (pos + 4) _ (by omega) carriedLe
    refine ⟨sum, by rw [addWords, isWord]; exact isSum, sumLe, ?_⟩
    have even : (slice buffer pos 4).length % 2 = 0 := by
      rw [length_slice (by omega)]
    rw [show 4 * (count + 1) = 4 + 4 * count by omega, slice_add,
      wordTotal_append _ even, ← Nat.add_assoc]
    exact sumSame.trans ((carried.trans ((OnesCongr.refl _ hcs).add same)).add (OnesCongr.refl _ _))

theorem addHalf_spec {buffer : List Byte} {len pos hcs : Nat}
    (within : pos + (if len.testBit 1 then 2 else 0) ≤ buffer.length)
    (hcsLe : hcs ≤ 0xFFFFFFFF) :
    ∃ sum, addHalf buffer len pos hcs = some sum ∧ sum ≤ 0xFFFFFFFF ∧ OnesCongr 0xFFFF sum (hcs +
        wordTotal (slice buffer pos (if len.testBit 1 then 2 else 0))) := by
  rw [addHalf]
  by_cases half : len.testBit 1 = true
  · rw [if_pos half] at within ⊢
    rw [if_pos half]
    obtain ⟨isWord, wordLe⟩ := load16_spec within
    obtain ⟨sumLe, same⟩ := addCarry_spec hcsLe (Nat.le_trans wordLe (by decide))
    exact ⟨_, by rw [isWord]; rfl, sumLe, same⟩
  · rw [if_neg half, if_neg half]
    exact ⟨hcs, rfl, hcsLe, OnesCongr.refl _ _⟩

theorem addLast_spec {buffer : List Byte} {len pos hcs : Nat}
    (within : pos + (if len.testBit 0 then 1 else 0) ≤ buffer.length)
    (hcsLe : hcs ≤ 0xFFFFFFFF) :
    ∃ sum, addLast buffer len pos hcs = some sum ∧ sum ≤ 0xFFFFFFFF ∧ OnesCongr 0xFFFF sum (hcs +
        wordTotal (slice buffer pos (if len.testBit 0 then 1 else 0))) := by
  rw [addLast]
  by_cases odd : len.testBit 0 = true
  · rw [if_pos odd] at within ⊢
    rw [if_pos odd]
    have isByte : pos < buffer.length := within
    have small := buffer[pos].toNat_lt
    obtain ⟨sumLe, same⟩ :=
      @addCarry_spec hcs buffer[pos].toNat hcsLe (by omega)
    refine ⟨_, by rw [getElem?_eq_getElem isByte]; rfl, sumLe, ?_⟩
    rw [slice_one isByte]
    exact same
  · rw [if_neg odd, if_neg odd]
    exact ⟨hcs, rfl, hcsLe, OnesCongr.refl _ _⟩

theorem length_parts (len : Nat) : 4 * (len / 4) + (if len.testBit 1 then 2 else 0) +
      (if len.testBit 0 then 1 else 0) = len := by
  have second : len.testBit 1 = decide (len / 2 % 2 = 1) := by
    rw [Nat.testBit_eq_decide_div_mod_eq]
  have first : len.testBit 0 = decide (len % 2 = 1) := by
    rw [Nat.testBit_eq_decide_div_mod_eq, Nat.pow_zero, Nat.div_one]
  rw [first, second]
  simp only [decide_eq_true_eq]
  split <;> split <;> omega

theorem checkIcs_eq {buffer : List Byte} {pos len : Nat} (within : pos + len ≤ buffer.length) :
    checkIcs buffer pos len = some (internetChecksum (slice buffer pos len)) := by
  have parts := length_parts len
  have isPtr8 : (if len.testBit 1 then pos + 4 * (len / 4) + 2
      else pos + 4 * (len / 4)) = pos + 4 * (len / 4) + (if len.testBit 1 then 2 else 0) := by
    split <;> rfl
  have isHalfLength : (if len.testBit 1 then 2 else 0) ≤ 2 ∧
      (if len.testBit 1 then 2 else 0) % 2 = 0 := by
    split <;> decide
  generalize isHalf : (if len.testBit 1 then 2 else 0) = half at parts isPtr8 isHalfLength
  generalize isLast : (if len.testBit 0 then 1 else 0) = last at parts
  obtain ⟨words, isWords, wordsLe, wordsSame⟩ :=
    @addWords_spec buffer (len / 4) pos 0 (by omega) (by decide)
  obtain ⟨halves, isHalves, halvesLe, halvesSame⟩ :=
    @addHalf_spec buffer len (pos + 4 * (len / 4)) words (by rw [isHalf]; omega) wordsLe
  obtain ⟨whole, isWhole, wholeLe, wholeSame⟩ :=
    @addLast_spec buffer len (pos + 4 * (len / 4) + half) halves (by rw [isLast]; omega) halvesLe
  have computed : checkIcs buffer pos len = some (0xFFFF - foldCarry whole) := by
    rw [checkIcs, isWords]
    simp only [bind_eq_bind, bind_some, isHalves, isPtr8, isWhole]
    rfl
  have total : OnesCongr 0xFFFF whole (wordTotal (slice buffer pos len)) := by
    have evenWords : (slice buffer pos (4 * (len / 4))).length % 2 = 0 := by
      rw [length_slice (by omega)]
      omega
    have evenHalves : (slice buffer pos (4 * (len / 4) + half)).length % 2 = 0 := by
      rw [length_slice (by omega)]
      omega
    rw [← parts, slice_add, wordTotal_append _ evenHalves, slice_add,
      wordTotal_append _ evenWords, ← Nat.add_assoc pos]
    rw [isHalf] at halvesSame
    rw [isLast] at wholeSame
    rw [Nat.zero_add] at wordsSame
    exact wholeSame.trans ((halvesSame.trans
      (wordsSame.add (OnesCongr.refl _ _))).add (OnesCongr.refl _ _))
  obtain ⟨foldedLe, folded⟩ := foldCarry_spec whole
  have sameSum : foldCarry whole = onesSum 0xFFFF (words16 (slice buffer pos len)) :=
    ((folded.trans total).trans (onesSum_congr words16_le).symm).eq_of_le
      foldedLe (onesSum_le words16_le)
  rw [computed, sameSum, internetChecksum]

theorem store8_eq {pos value : Nat} {front tail : List Byte} {old : Byte}
    (isPos : front.length = pos) :
    store8 pos value (front ++ old :: tail) = some (front ++ UInt8.ofNat value :: tail) := by
  subst isPos
  rw [store8, if_pos (by simp), set_append_right _ _ (Nat.le_refl _), Nat.sub_self]
  rfl

theorem store16_eq {pos value : Nat} {front tail : List Byte}
    {old older : Byte} (isPos : front.length = pos) :
    store16 pos value (front ++ old :: older :: tail) =
      some (front ++ UInt8.ofNat value :: UInt8.ofNat (value / 0x100) :: tail) := by
  have second := @store8_eq (pos + 1) (value / 0x100)
    (front ++ [UInt8.ofNat value]) tail older (by simp [isPos])
  rw [store16, store8_eq isPos, bind_eq_bind, bind_some]
  simpa using second

theorem wordTotal_pair {value : Nat} (small : value ≤ 0xFFFF) :
    wordTotal [UInt8.ofNat value, UInt8.ofNat (value / 0x100)] = value := by
  simp only [wordTotal, words16, sum_cons, sum_nil, UInt8.toNat_ofNat']
  omega

theorem internetChecksum_stored {front tail : List Byte} {hcs : Nat} (even : front.length % 2 = 0)
    (isChecksum : hcs = internetChecksum (front ++ 0 :: 0 :: tail)) :
    internetChecksum (front ++ UInt8.ofNat hcs :: UInt8.ofNat (hcs / 0x100) :: tail) = 0 := by
  have small := onesSum_le (@words16_le (front ++ 0 :: 0 :: tail))
  have hcsLe : hcs ≤ 0xFFFF := by
    rw [isChecksum, internetChecksum]
    omega
  have others : wordTotal (front ++ 0 :: 0 :: tail) = wordTotal front + wordTotal tail := by
    rw [wordTotal_append _ even]
    congr 1
    exact Nat.zero_add _
  have total : wordTotal (front ++ UInt8.ofNat hcs :: UInt8.ofNat (hcs / 0x100) :: tail) =
      wordTotal (front ++ 0 :: 0 :: tail) + hcs := by
    have pair := @wordTotal_append [UInt8.ofNat hcs, UInt8.ofNat (hcs / 0x100)] tail (by simp)
    rw [wordTotal_pair hcsLe] at pair
    rw [others, wordTotal_append _ even, Nat.add_assoc, Nat.add_comm _ hcs]
    exact congrArg _ pair
  have whole : OnesCongr 0xFFFF (wordTotal (front ++ UInt8.ofNat hcs ::
      UInt8.ofNat (hcs / 0x100) :: tail)) 0xFFFF := by
    rw [total, isChecksum, internetChecksum]
    exact (onesSum_congr words16_le).add_complement (by decide) small
  have isFull := ((onesSum_congr words16_le).trans whole).eq_of_le
    (onesSum_le words16_le) (Nat.le_refl _)
  rw [internetChecksum, isFull]

theorem exists_stored_parts {len hcsPos : Nat}
    (within : pos + len ≤ buffer.length) (inside : hcsPos + 2 ≤ len) :
    ∃ before front old older tail behind,
      buffer = before ++ front ++ old :: older :: (tail ++ behind) ∧
        pos = before.length ∧ hcsPos = front.length ∧
        len = (front ++ old :: older :: tail).length := by
  have isLength := length_slice within
  obtain ⟨old, older, tail, isTail⟩ : ∃ old older tail,
      (slice buffer pos len).drop hcsPos = old :: older :: tail := by
    have enough : 2 ≤ ((slice buffer pos len).drop hcsPos).length := by
      rw [length_drop]
      omega
    generalize (slice buffer pos len).drop hcsPos = rest at enough
    rcases rest with _ | ⟨old, _ | ⟨older, tail⟩⟩
    · exact absurd enough (by decide)
    · exact absurd enough (by simp)
    · exact ⟨old, older, tail, rfl⟩
  have isSlice : (slice buffer pos len).take hcsPos ++ old :: older :: tail =
      slice buffer pos len := by
    rw [← isTail, take_append_drop]
  refine ⟨buffer.take pos, (slice buffer pos len).take hcsPos, old, older, tail,
    (buffer.drop pos).drop len, ?_, ?_, ?_, ?_⟩
  · rw [append_assoc, ← cons_append, ← cons_append,
      ← append_assoc (List.take hcsPos _), isSlice, slice,
      take_append_drop, take_append_drop]
  · rw [length_take]
    omega
  · rw [length_take]
    omega
  · rw [isSlice, isLength]

/-- `check_ics` computes the Internet checksum of the bytes, and finds the one
that `calc_ics` stores. -/
theorem checkIcs_exact {buffer : List Byte} {pos len : Nat} (within : pos + len ≤ buffer.length) :
    checkIcs buffer pos len = some (internetChecksum (slice buffer pos len)) ∧
      ∀ hcsPos, hcsPos % 2 = 0 → hcsPos + 2 ≤ len →
        ∃ stored, calcIcs pos len hcsPos buffer = some stored ∧
          checkIcs stored pos len = some 0 := by
  refine ⟨checkIcs_eq within, ?_⟩
  intro hcsPos even inside
  obtain ⟨before, front, old, older, tail, behind, rfl, rfl, rfl, rfl⟩ :=
    exists_stored_parts within inside
  have isFront : (before ++ front).length = before.length + front.length :=
    length_append
  have isSlice : ∀ first second : Byte,
      slice (before ++ front ++ first :: second :: (tail ++ behind))
        before.length (front ++ old :: older :: tail).length =
        front ++ first :: second :: tail := by
    intro first second
    have regrouped : before ++ front ++ first :: second :: (tail ++ behind) =
        before ++ ((front ++ first :: second :: tail) ++ behind) := by simp
    have sameLength : (front ++ old :: older :: tail).length =
        (front ++ first :: second :: tail).length := by simp
    rw [slice, regrouped, drop_left, sameLength, take_left]
  have room : ∀ first second : Byte, before.length + (front ++ old :: older :: tail).length ≤
      (before ++ front ++ first :: second :: (tail ++ behind)).length := by
    intro first second
    simp only [length_append, length_cons]
    omega
  generalize isHcs : internetChecksum (front ++ 0 :: 0 :: tail) = hcs
  refine ⟨before ++ front ++ UInt8.ofNat hcs :: UInt8.ofNat (hcs / 0x100) ::
    (tail ++ behind), ?_, ?_⟩
  · have cleared := @store16_eq _ 0 _ (tail ++ behind) old older isFront
    have checked := checkIcs_eq (room 0 0)
    rw [isSlice, isHcs] at checked
    rw [calcIcs, cleared]
    simp only [bind_eq_bind, bind_some]
    rw [show UInt8.ofNat 0 = 0 from rfl, checked]
    exact store16_eq isFront
  · rw [checkIcs_eq (room _ _), isSlice, internetChecksum_stored even isHcs.symm]

/-- Three bytes: a word and an odd last byte. -/
theorem checkIcs_exact_odd : checkIcs [1, 2, 3] 0 3 = some (internetChecksum [1, 2, 3]) ∧
      ∃ stored, calcIcs 0 3 0 [1, 2, 3] = some stored ∧ checkIcs stored 0 3 = some 0 := by
  obtain ⟨computed, found⟩ := @checkIcs_exact [1, 2, 3] 0 3 (by decide)
  exact ⟨computed, found 0 rfl (by decide)⟩

end SerialModem.Icmp
