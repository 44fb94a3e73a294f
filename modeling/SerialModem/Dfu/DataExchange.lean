import SerialModem.Dfu.Exchange

/-!
# The data of a chunk and its answer

The device hands the data to the DFU target in pieces, whenever its ring is full,
the inactivity timer expires or the chunk is complete.  As long as no piece has
failed, what has been written, what is in the ring and what is still on the line
are the chunk; and a success is only reported for a chunk that is written whole.
-/

namespace SerialModem.Dfu

open Library AtHost List

variable {cfg : Config} {env : Environment}

/-- The state of a chunk of which `rest` is still to come. -/
structure Accounts (type : ImageType) (content data : List Byte)
    (device : Device) (rest : List Byte) : Prop where
  noLine : NoLine device.command
  imageType : device.xdfuCurrentImageType = type
  length : (device.datamodeContext type.target).len = data.length
  holds : device.HoldsNoSuccess
  grown : content <+: device.accepted type.target
  written : device.xdfuStatus = 0 → ∃ written : List Byte,
    device.accepted type.target = content ++ written ∧ written ++ (device.dataRb ++ rest) = data ∧
      device.xdfuBytesWritten = written.length

/-- The chunk is complete, and its line is held back or sent. -/
structure Finished (type : ImageType) (content data : List Byte)
    (device : Device) : Prop where
  mode : device.inDatamode = false
  noLine : NoLine device.command
  grown : content <+: device.accepted type.target
  owed : device.HoldsNoSuccess ∨ device.accepted type.target = content ++ data

def Told (type : ImageType) (content data : List Byte) (device : Device) (text : Text) : Prop :=
  Silent text ∨ (device.accepted type.target = content ++ data ∧ device.HoldsNoSuccess)

variable {device : Device}

theorem datamodeSend_accepts (data : List Byte) (accepts : env.target device.calls = 0) :
    ∃ count, device.datamodeSend env data =
        { (device.callTarget env).2.setAccepted device.xdfuCurrentImageType.target
            (device.accepted device.xdfuCurrentImageType.target ++ data) with
          xdfuBytesWritten := count } ∧
      (device.xdfuStatus = 0 → count = device.xdfuBytesWritten + data.length) := by
  unfold Device.datamodeSend
  have accepted : (device.callTarget env).1 = 0 := accepts
  simp only [accepted, if_true]
  split
  · exact ⟨_, rfl, fun _ => rfl⟩
  · rename_i failing
    exact ⟨device.xdfuBytesWritten, rfl, fun status => absurd status failing⟩

theorem datamodeSend_refuses (data : List Byte) (refuses : env.target device.calls ≠ 0) :
    device.datamodeSend env data =
      { (device.callTarget env).2 with
        xdfuStatus := env.target device.calls } := by
  unfold Device.datamodeSend
  have refused : (device.callTarget env).1 ≠ 0 := refuses
  dsimp only
  rw [if_neg refused]
  exact if_neg refused

variable (env) in
theorem rawSend_keeps (device : Device) : (device.rawSend env).inDatamode = device.inDatamode ∧
      (device.rawSend env).dataLen = device.dataLen ∧
      (device.rawSend env).dataRb = [] := by
  unfold Device.rawSend
  split
  · rename_i empty
    exact ⟨rfl, rfl, empty⟩
  · by_cases accepts : env.target device.calls = 0
    · obtain ⟨count, sent, _⟩ := datamodeSend_accepts device.dataRb accepts
      rw [sent]
      exact ⟨rfl, rfl, rfl⟩
    · rw [datamodeSend_refuses device.dataRb accepts]
      exact ⟨rfl, rfl, rfl⟩

namespace Accounts

variable {type : ImageType} {content data : List Byte} {device : Device}
  {rest : List Byte} {byte : Byte}

theorem rawSend (accounts : Accounts type content data device rest) :
    Accounts type content data (device.rawSend env) rest := by
  unfold Device.rawSend
  split
  · exact accounts
  · by_cases accepts : env.target device.calls = 0
    · obtain ⟨count, sent, counted⟩ :=
        datamodeSend_accepts device.dataRb accepts
      have image : (device.datamodeSend env device.dataRb).accepted
          type.target = device.accepted type.target ++ device.dataRb := by
        rw [sent, ← accounts.imageType]
        exact Function.update_self ..
      rw [sent] at image ⊢
      refine ⟨accounts.noLine, accounts.imageType, accounts.length,
        accounts.holds, ?_, fun clean => ?_⟩
      · rw [image]
        exact accounts.grown.trans (prefix_append _ _)
      · obtain ⟨written, whole, isData, length⟩ := accounts.written clean
        refine ⟨written ++ device.dataRb, ?_, ?_, ?_⟩
        · rw [image, whole, append_assoc]
        · rw [append_assoc]
          exact isData
        · rw [length_append, ← length]
          exact counted clean
    · rw [datamodeSend_refuses device.dataRb accepts]
      exact ⟨accounts.noLine, accounts.imageType, accounts.length,
        accounts.holds, accounts.grown, fun clean => absurd clean accepts⟩

theorem store (accounts : Accounts type content data device (byte :: rest)) :
    Accounts type content data { device with dataRb := device.dataRb ++ [byte] } rest := by
  refine ⟨accounts.noLine, accounts.imageType, accounts.length,
    accounts.holds, accounts.grown, fun clean => ?_⟩
  obtain ⟨written, image, isData, length⟩ := accounts.written clean
  refine ⟨written, image, ?_, length⟩
  rw [append_assoc]
  exact isData

theorem writeDataBuf (accounts : Accounts type content data device (byte :: rest)) :
    Accounts type content data (device.writeDataBuf cfg env byte) rest := by
  unfold Device.writeDataBuf
  dsimp only
  split
  · exact accounts.store
  · exact accounts.rawSend.store

theorem counted (accounts : Accounts type content data device rest) (dataLen handled : Nat) :
    Accounts type content data { device with dataLen := dataLen, handled := handled } rest :=
  ⟨accounts.noLine, accounts.imageType, accounts.length, accounts.holds,
    accounts.grown, accounts.written⟩

end Accounts

variable (cfg env) in
theorem writeDataBuf_keeps (device : Device) (byte : Byte) :
    (device.writeDataBuf cfg env byte).inDatamode = device.inDatamode ∧
      (device.writeDataBuf cfg env byte).dataLen = device.dataLen := by
  obtain ⟨mode, length, _⟩ := rawSend_keeps env device
  unfold Device.writeDataBuf
  dsimp only
  split
  · exact ⟨rfl, rfl⟩
  · exact ⟨mode, length⟩

theorem urcSend_mem {line : XdfuLine} {held : XdfuLine}
    (member : held ∈ (device.urcSend cfg line).urcBuf) :
    held ∈ device.urcBuf ∨ held = line := by
  unfold Device.urcSend at member
  dsimp only at member
  split at member
  · exact (mem_append.mp member).imp id mem_singleton.mp
  · cases member

variable {type : ImageType} {content data : List Byte}

variable (cfg) in
theorem Accounts.datamodeExit (accounts : Accounts type content data device [])
    (empty : device.dataRb = []) :
    (device.datamodeExit cfg).command = device.command ∧
      (device.datamodeExit cfg).accepted = device.accepted ∧
      ((device.datamodeExit cfg).HoldsNoSuccess ∨
        device.accepted type.target = content ++ data) := by
  obtain ⟨_, command, accepted⟩ := urcSend_keeps cfg ⟨device.xdfuCurrentImageType, .dataWrite,
      decide ((if device.xdfuStatus = 0 ∧ device.xdfuBytesWritten ≠
        (device.datamodeContext device.xdfuCurrentImageType.target).len
      then -Device.eio else device.xdfuStatus) ≠ 0)⟩ device
  refine ⟨command, accepted, ?_⟩
  by_cases clean : device.xdfuStatus = 0
  · obtain ⟨written, image, isData, _⟩ := accounts.written clean
    rw [empty, append_nil, append_nil] at isData
    right
    rw [image, isData]
  · left
    intro held member
    rcases urcSend_mem member with before | isLine
    · exact accounts.holds held before
    · rw [isLine, if_neg fun both => clean both.1]
      exact decide_eq_true clean

theorem silent_of_holdsNoSuccess (holds : device.HoldsNoSuccess) : Silent device.sendUrcs.2 :=
  silent_of_failed holds

theorem Finished.sendUrcs (finished : Finished type content data device) :
    Finished type content data device.sendUrcs.1 ∧
      ∀ text, Told type content data device text → Told type content data device.sendUrcs.1
          (text ++ device.sendUrcs.2) := by
  have nothing : device.sendUrcs.1.HoldsNoSuccess := by
    intro line member
    cases member
  refine ⟨⟨finished.mode, finished.noLine, finished.grown, .inl nothing⟩, ?_⟩
  rintro text (silent | ⟨image, _⟩)
  · rcases finished.owed with holds | image
    · exact .inl (silent.append (silent_of_holdsNoSuccess holds))
    · exact .inr ⟨image, nothing⟩
  · exact .inr ⟨image, nothing⟩

variable (cfg env) in
theorem Accounts.exitDatamode {type : ImageType} {content data : List Byte}
    {device : Device} (accounts : Accounts type content data device [])
    (empty : device.dataRb = []) :
    Finished type content data (device.exitDatamode cfg env).1 ∧
      WithoutK (device.exitDatamode cfg env).2 ∧
      ∀ text, Silent text → Told type content data (device.exitDatamode cfg env).1
          (text ++ (device.exitDatamode cfg env).2) := by
  obtain ⟨command, accepted, owed⟩ := accounts.datamodeExit cfg empty
  have finished : Finished type content data
      { device.datamodeExit cfg with
        inDatamode := false
        dataLen := 0
        dataRb := [] } := by
    refine ⟨rfl, ?_, ?_, ?_⟩
    · exact command ▸ accounts.noLine
    · exact accepted ▸ accounts.grown
    · exact accepted ▸ owed
  unfold Device.exitDatamode
  dsimp only
  split
  · obtain ⟨sent, tells⟩ := finished.sendUrcs
    refine ⟨sent, (withoutK_lines _).append withoutK_xdatamode, ?_⟩
    intro text silent
    rw [← append_assoc]
    rcases tells text (.inl silent) with stillSilent | written
    · exact .inl (stillSilent.append silent_xdatamode)
    · exact .inr written
  · refine ⟨finished, withoutK_xdatamode, ?_⟩
    intro text silent
    exact .inl (silent.append silent_xdatamode)

/-- The data of a chunk on its way, or its answer; `listening` stands for a
script that still waits for the answer. -/
inductive Sending (type : ImageType) (content data : List Byte)
    (listening : Prop) : Device → List Byte → Text → Prop
  | receiving {device : Device} {rest : List Byte} {text : Text} : device.inDatamode = true →
      Accounts type content data device rest →
      device.dataLen = rest.length → rest ≠ [] → WithoutK text →
      (listening → Silent text) →
      Sending type content data listening device rest text
  | finished {device : Device} {text : Text} : Finished type content data device → WithoutK text →
      (listening → Told type content data device text) →
      Sending type content data listening device [] text

namespace Sending

variable {type : ImageType} {content data : List Byte} {listening : Prop}

variable {device : Device} {rest : List Byte} {text : Text}

theorem receive {byte : Byte}
    (sending : Sending type content data listening device (byte :: rest) text) :
    Sending type content data listening (device.receive cfg env byte).1 rest
      (text ++ (device.receive cfg env byte).2) := by
  cases sending with
  | receiving mode accounts length _ without silent =>
    rw [receive_datamode mode]
    obtain ⟨sameMode, sameLength⟩ := writeDataBuf_keeps cfg env device byte
    have stored : Accounts type content data
        (device.writeDataBuf cfg env byte) rest := accounts.writeDataBuf
    unfold Device.rawRxHandler
    dsimp only
    rw [sameLength, length, length_cons, Nat.add_sub_cancel]
    split
    · rename_i complete
      have nothing := eq_nil_of_length_eq_zero complete
      subst nothing
      obtain ⟨finished, exitWithout, tells⟩ :=
        ((stored.counted 0 _).rawSend).exitDatamode cfg env (rawSend_keeps env _).2.2
      refine Sending.finished ⟨finished.mode, finished.noLine,
        finished.grown, finished.owed⟩ (without.append exitWithout) ?_
      intro isListening
      exact tells text (silent isListening)
    · rename_i more
      rw [append_nil]
      refine receiving (sameMode.trans mode) (stored.counted _ _) rfl ?_ without silent
      rintro rfl
      exact more rfl

theorem inactivity (sending : Sending type content data listening device rest text)
    (mode : device.inDatamode = true) :
    Sending type content data listening (device.rawSend env) rest text := by
  cases sending with
  | receiving _ accounts length more without silent =>
    obtain ⟨sameMode, sameLength, _⟩ := rawSend_keeps env device
    exact receiving (sameMode.trans mode) accounts.rawSend
      (sameLength.trans length) more without silent
  | finished isFinished _ _ =>
    rw [isFinished.mode] at mode
    cases mode

theorem sendUrcs (sending : Sending type content data listening device rest text)
    (mode : device.inDatamode = false) :
    Sending type content data listening device.sendUrcs.1 rest (text ++ device.sendUrcs.2) := by
  cases sending with
  | receiving isDatamode _ _ _ _ _ =>
    rw [isDatamode] at mode
    cases mode
  | finished isFinished without told =>
    obtain ⟨sent, tells⟩ := isFinished.sendUrcs
    exact finished sent (without.append (withoutK_lines _))
      fun isListening => tells text (told isListening)

theorem forget {part : Text} (sending : Sending type content data listening device rest text)
    (isSuffix : part <:+ text) :
    Sending type content data False device rest part := by
  cases sending with
  | receiving mode accounts length more without _ =>
    exact receiving mode accounts length more (without.suffix isSuffix) False.elim
  | finished isFinished without _ =>
    exact finished isFinished (without.suffix isSuffix) False.elim

theorem written_of_success {buffer unread : Text}
    (sending : Sending type content data True device rest (buffer ++ unread))
    (found : waitForUrc buffer = some 0) :
    rest = [] ∧ Waiting type.target (content ++ data) device ∧
      NoLine device.command ∧ WithoutK unread := by
  cases sending with
  | receiving _ _ _ _ _ silent =>
    exact absurd found (silent trivial).waitForUrc_ne
  | finished isFinished without told =>
    rcases told trivial with silent | ⟨image, holds⟩
    · exact absurd found silent.waitForUrc_ne
    · exact ⟨rfl, ⟨isFinished.mode, image, holds⟩, isFinished.noLine,
        without.suffix (suffix_append _ _)⟩

end Sending

/-- The device waits for the data, and the script may have read part of `OK`. -/
structure Entered (type : ImageType) (content data : List Byte)
    (device : Device) (text : Text) : Prop where
  mode : device.inDatamode = true
  accounts : Accounts type content data device data
  length : device.dataLen = data.length
  confirms : Confirms text []

theorem write_commandText (params : List Nat) : CommandText (commandBody "AT#XDFUWRITE" params) :=
  commandText params ⟨_, rfl⟩ (by decide +kernel) (by decide +kernel)

theorem write_answers (type : ImageType) (addr : Nat) (content data : List Byte) :
    Answers cfg env type.target content
      (commandBody "AT#XDFUWRITE" [type.number, addr, data.length])
      (Entered type content data) := by
  intro device text waiting without fits
  rcases cmdSend_command cfg env (write_commandText [type.number, addr, data.length]) device with
    refused | handled
  · rw [refused]
    exact .inr ⟨Kept.refl device, withoutK_error⟩
  · rw [handled, dfuCommand_write (by simp)]
    dsimp only
    have prepares := handleAtXdfuWrite_prepares cfg env type addr data.length device
    generalize device.handleAtXdfuWrite cfg env
      ([type.number, addr, data.length].map decimal) = result at prepares
    cases prepares with
    | fails kept => exact .inr ⟨kept, withoutK_error⟩
    | @enters prepared kept imageType bytesWritten status length =>
      have waits := waiting.of_kept kept
      refine .inl ⟨rfl, ⟨?_, imageType, length, waits.holds, ?_, ?_⟩, rfl,
        ⟨text, by simp [Device.respond], without⟩⟩
      · apply cmdFinnishOrFail_noLine
        change prepared.command.Fits
        rw [kept.command]
        exact fits
      · exact waits.image ▸ prefix_rfl
      · intro _
        refine ⟨[], ?_, by rfl, bytesWritten⟩
        rw [append_nil]
        exact waits.image

theorem Entered.rawSend {text : Text} (entered : Entered type content data device text) :
    Entered type content data (device.rawSend env) text := by
  obtain ⟨sameMode, sameLength, _⟩ := rawSend_keeps env device
  exact ⟨sameMode.trans entered.mode, entered.accounts.rawSend,
    sameLength.trans entered.length, entered.confirms⟩

theorem Entered.sending {buffer unread : Text} (nonempty : data ≠ [])
    (entered : Entered type content data device (buffer ++ unread))
    (found : waitForResponse "OK" buffer = some true) :
    Sending type content data True device data unread := by
  have lineEnd := entered.confirms.unread found
  rw [append_nil] at lineEnd
  refine .receiving entered.mode entered.accounts entered.length nonempty ?_
    fun _ => silent_of_lineEnd lineEnd
  have without : WithoutK ['\r', '\n'] := by decide
  exact without.suffix lineEnd

end SerialModem.Dfu
