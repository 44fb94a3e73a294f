import SerialModem.Library.Pieces
import SerialModem.Socket.Reception

/-!
# Hexadecimal output

Three modules forward received bytes as hexadecimal digits, each with a loop of
its own over a buffer of 257 characters.  The loops keep the rest in different
ways; they send the same chunks.
-/

namespace SerialModem.Socket

open Library List
open AtHost

/-- `sizeof(hex_buf)`. -/
def hexBufSize : Nat := 257

/-- `bin2hex` with room for so many characters and a NUL; without the room for
all of it nothing is converted. -/
def bin2hexInto (room : Nat) (content : List Byte) : List Byte :=
  if room < 2 * content.length + 1 then [] else bin2hex content

/-- The loop of `data_send_hex` from `consumed` on: what is sent, and the
result.  `none` stands for a loop that is not over when the fuel is. -/
def dataSendHexFrom (buf : List Byte) : Nat → Nat → UInt16 → Option (List (List Byte) × Int)
  | 0, _, _ => none
  | fuel + 1, consumed, dataLen =>
    if consumed < buf.length then
      let text :=
        bin2hexInto hexBufSize ((buf.drop consumed).take dataLen.toNat)
      if text.length = 0 then
        some ([], -einval)
      else
        let consumed := consumed + text.length / 2
        let dataLen :=
          if buf.length - consumed < dataLen.toNat then
            UInt16.ofNat (buf.length - consumed)
          else
            dataLen
        (dataSendHexFrom buf fuel consumed dataLen).map fun sent =>
          (text :: sent.1, sent.2)
    else
      some ([], 0)

def dataSendHexRun (fuel : Nat) (buf : List Byte) : Option (List (List Byte) × Int) :=
  dataSendHexFrom buf fuel 0 (UInt16.ofNat (if buf.length < (hexBufSize - 1) / 2 then buf.length
      else (hexBufSize - 1) / 2))

/-- The loop that `http_data_send_hex` and `coap_data_send_hex` share, from
`done` on. -/
def sendHexFrom (chunk : Nat) (buf : List Byte) : Nat → Nat → Option (List (List Byte))
  | 0, _ => none
  | fuel + 1, done =>
    if done < buf.length then
      let n := min chunk (buf.length - done)
      let text := bin2hexInto hexBufSize ((buf.drop done).take n)
      (sendHexFrom chunk buf fuel (done + n)).map fun sent => text :: sent
    else
      some []

def httpDataSendHexRun (fuel : Nat) (buf : List Byte) : Option (List (List Byte)) :=
  sendHexFrom ((hexBufSize - 1) / 2) buf fuel 0

def coapDataSendHexRun (fuel : Nat) (buf : List Byte) : Option (List (List Byte)) :=
  sendHexFrom ((hexBufSize - 1) / 2) buf fuel 0

def hexChunks (content : List Byte) : List (List Byte) :=
  (pieces hexChunk content).map bin2hex

variable (content : List Byte)

@[simp] theorem bin2hex_length : (bin2hex content).length = 2 * content.length := by
  induction content with
  | nil => rfl
  | cons byte rest ih =>
    rw [bin2hex, flatMap_cons, length_append]
    rw [bin2hex] at ih
    rw [ih, length_cons, length_cons, length_cons, length_nil]
    omega

theorem bin2hexInto_take {length : Nat} (short : length ≤ hexChunk) :
    bin2hexInto hexBufSize (content.take length) = bin2hex (content.take length) := by
  have room : (content.take length).length ≤ length :=
    length_take_le length content
  rw [bin2hexInto, if_neg]
  simp only [hexBufSize, hexChunk] at short ⊢
  omega

theorem hexChunks_of_ne_nil {content : List Byte} (nonempty : content ≠ []) : hexChunks content =
      bin2hex (content.take hexChunk) :: hexChunks (content.drop hexChunk) := by
  rw [hexChunks, pieces_of_ne_nil (by decide) nonempty]
  rfl

theorem flatten_hexChunks : (hexChunks content).flatten = bin2hex content := by
  have cut := flatten_pieces (by decide : 0 < hexChunk) content
  conv_rhs => rw [← cut]
  rw [hexChunks]
  induction pieces hexChunk content with
  | nil => rfl
  | cons piece rest ih =>
    rw [map_cons, flatten_cons, flatten_cons, ih]
    simp only [bin2hex, flatMap_append]

theorem length_of_mem_hexChunks {content chunk : List Byte}
    (member : chunk ∈ hexChunks content) : chunk.length ≤ 256 := by
  obtain ⟨piece, isPiece, rfl⟩ := List.mem_map.mp member
  have bounds := length_of_mem_pieces (by decide : 0 < hexChunk) isPiece
  rw [bin2hex_length]
  simp only [hexChunk] at bounds
  omega

theorem take_min_left (length : Nat) :
    content.take (min length content.length) = content.take length := by
  rcases Nat.le_total length content.length with short | long
  · rw [Nat.min_eq_left short]
  · rw [Nat.min_eq_right long, take_of_length_le (Nat.le_refl _), take_of_length_le long]

variable {fuel : Nat}

theorem sendHexFrom_eq (buf : List Byte) {done : Nat} (enough : buf.length - done < fuel) :
    sendHexFrom hexChunk buf fuel done = some (hexChunks (buf.drop done)) := by
  induction fuel generalizing done with
  | zero => omega
  | succ fuel ih =>
    rw [sendHexFrom]
    by_cases left : done < buf.length
    · have nonempty : buf.drop done ≠ [] := by
        simpa [drop_eq_nil_iff] using left
      have progress : 0 < min hexChunk (buf.length - done) := by
        simp only [hexChunk]
        omega
      have length : (buf.drop done).length = buf.length - done :=
        length_drop
      have rest : buf.drop (done + min hexChunk (buf.length - done)) =
          (buf.drop done).drop hexChunk := by
        rw [drop_drop]
        rcases Nat.le_total hexChunk (buf.length - done) with short | long
        · rw [Nat.min_eq_left short]
        · rw [Nat.min_eq_right long, drop_of_length_le (by omega), drop_of_length_le (by omega)]
      rw [if_pos left]
      dsimp only
      rw [ih (by omega), rest, bin2hexInto_take _ (Nat.min_le_left _ _), ← length,
        take_min_left, hexChunks_of_ne_nil nonempty, Option.map_some]
    · have isDone : buf.drop done = [] := drop_of_length_le (by omega)
      rw [if_neg left, isDone]
      rfl

theorem dataSendHexFrom_eq (buf : List Byte) {consumed : Nat} {dataLen : UInt16}
    (enough : buf.length - consumed < fuel)
    (size : dataLen.toNat = min hexChunk (buf.length - consumed)) :
    dataSendHexFrom buf fuel consumed dataLen = some (hexChunks (buf.drop consumed), 0) := by
  induction fuel generalizing consumed dataLen with
  | zero => omega
  | succ fuel ih =>
    rw [dataSendHexFrom]
    by_cases left : consumed < buf.length
    · have nonempty : buf.drop consumed ≠ [] := by
        simpa [drop_eq_nil_iff] using left
      have length : (buf.drop consumed).length = buf.length - consumed :=
        length_drop
      have text : bin2hexInto hexBufSize ((buf.drop consumed).take dataLen.toNat) =
          bin2hex ((buf.drop consumed).take hexChunk) := by
        rw [size, bin2hexInto_take _ (Nat.min_le_left _ _), ← length, take_min_left]
      have produced : (bin2hex ((buf.drop consumed).take hexChunk)).length = 2 * dataLen.toNat := by
        rw [bin2hex_length, length_take, length, size]
      have progress : 0 < dataLen.toNat := by
        rw [size]
        simp only [hexChunk]
        omega
      rw [if_pos left]
      dsimp only
      rw [text, produced, if_neg (by omega), Nat.mul_div_cancel_left _ (by omega : 0 < 2)]
      have next : (if buf.length - (consumed + dataLen.toNat) < dataLen.toNat
            then UInt16.ofNat (buf.length - (consumed + dataLen.toNat))
            else dataLen).toNat =
          min hexChunk (buf.length - (consumed + dataLen.toNat)) := by
        simp only [hexChunk] at size ⊢
        split
        · rw [UInt16.toNat_ofNat_of_lt' (by
            simp only [UInt16.size]
            omega)]
          omega
        · omega
      have rest : buf.drop (consumed + dataLen.toNat) = (buf.drop consumed).drop hexChunk := by
        rw [drop_drop, size]
        rcases Nat.le_total hexChunk (buf.length - consumed) with
          short | long
        · rw [Nat.min_eq_left short]
        · rw [Nat.min_eq_right long, drop_of_length_le (by omega), drop_of_length_le (by omega)]
      rw [ih (by omega) next, rest, hexChunks_of_ne_nil nonempty, Option.map_some]
    · have isDone : buf.drop consumed = [] :=
        drop_of_length_le (by omega)
      rw [if_neg left, isDone]
      rfl

theorem dataSendHexRun_eq {buf : List Byte} (enough : buf.length < fuel) :
    dataSendHexRun fuel buf = some (hexChunks buf, 0) := by
  have first : (if buf.length < (hexBufSize - 1) / 2 then buf.length
      else (hexBufSize - 1) / 2) = min hexChunk (buf.length - 0) := by
    have half : (hexBufSize - 1) / 2 = hexChunk := rfl
    rw [half]
    by_cases short : buf.length < hexChunk
    · rw [if_pos short]
      omega
    · rw [if_neg short]
      omega
  apply dataSendHexFrom_eq buf enough
  rw [first, UInt16.toNat_ofNat_of_lt']
  simp only [UInt16.size, hexChunk]
  omega

/-- All three loops end and send the same chunks, of at most 256 characters:
together the digits of the whole sequence. -/
theorem hex_output_complete (content : List Byte) : ∃ chunks : List (List Byte),
      (∀ fuel, content.length < fuel → dataSendHexRun fuel content = some (chunks, 0) ∧
        httpDataSendHexRun fuel content = some chunks ∧
        coapDataSendHexRun fuel content = some chunks) ∧
      chunks.flatten = bin2hex content ∧
      ∀ chunk, chunk ∈ chunks → chunk.length ≤ 256 := by
  refine ⟨hexChunks content, ?_, flatten_hexChunks content, fun chunk => length_of_mem_hexChunks⟩
  intro fuel enough
  have shared : sendHexFrom hexChunk content fuel 0 =
      some (hexChunks content) := sendHexFrom_eq content enough
  exact ⟨dataSendHexRun_eq enough, shared, shared⟩

theorem dataSendHex_chunks (cfg : Config) (pipe : Option PipeId) (content : List Byte) :
    dataSendHex cfg pipe content = (hexChunks content).forM (dataSendToPipe cfg pipe) := by
  have cut : ∀ fuel (rest : List Byte), dataSendHexLoop cfg pipe fuel rest =
        ((cutPieces hexChunk fuel rest).map bin2hex).forM (dataSendToPipe cfg pipe) := by
    intro fuel
    induction fuel with
    | zero =>
      intro rest
      rfl
    | succ fuel ih =>
      intro rest
      cases rest with
      | nil => rfl
      | cons byte rest =>
        rw [dataSendHexLoop, cutPieces, map_cons, ih]
        rfl
  exact cut content.length content

end SerialModem.Socket
