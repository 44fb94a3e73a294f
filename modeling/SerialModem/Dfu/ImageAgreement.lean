import SerialModem.Dfu.DataExchange

/-!
# The image on the device

A script that reports success has had one success for each chunk, and each of
them stands for the whole chunk.  So the device has the file, unless a chunk was
sent again of which something had been accepted: the DFU target appends it a
second time.
-/

namespace SerialModem.Dfu

open Library AtHost List Option

theorem readChunks_data {chunkSize : Nat} (positive : 0 < chunkSize) :
    ∀ (fuel offset : Nat) (content : List Byte), content.length ≤ fuel →
      (readChunks chunkSize fuel offset content).flatMap Prod.snd = content
  | 0, offset, content, enough => by
    rw [eq_nil_of_length_eq_zero (Nat.le_zero.mp enough)]
    rfl
  | fuel + 1, offset, content, enough => by
    unfold readChunks
    dsimp only
    split
    · rename_i nothing
      rcases take_eq_nil_iff.mp nothing with zero | empty
      · omega
      · rw [empty]
        rfl
    · rename_i something
      have nonempty : content ≠ [] := by
        rintro rfl
        exact something take_nil
      have length := length_pos_iff.mpr nonempty
      rw [flatMap_cons, readChunks_data positive fuel _ _ (by
        rw [length_drop]
        omega), take_append_drop]

theorem readChunks_nonempty {chunkSize : Nat} : ∀ (fuel offset : Nat) (content : List Byte),
      ∀ chunk ∈ readChunks chunkSize fuel offset content, chunk.2 ≠ []
  | 0, offset, content, chunk, member => by cases member
  | fuel + 1, offset, content, chunk, member => by
    unfold readChunks at member
    dsimp only at member
    split at member
    · cases member
    · rename_i something
      rcases mem_cons.mp member with rfl | later
      · exact something
      · exact readChunks_nonempty fuel _ _ chunk later

/-- `content` has been sent, and what is left is the rest of the file. -/
structure Sent (script : Script) (host : Host) (content : List Byte) :
    Prop where
  whole : content ++ host.chunks.flatMap Prod.snd = script.file
  nonempty : ∀ chunk ∈ host.chunks, chunk.2 ≠ []

theorem Sent.start (script : Script) : Sent script (Host.init script) [] where
  whole := readChunks_data (by decide) _ _ _ (Nat.le_refl _)
  nonempty := readChunks_nonempty _ _ _

variable {content : List Byte}

theorem Sent.of_chunks {script : Script} {host later : Host}
    (sent : Sent script host content) (same : later.chunks = host.chunks) :
    Sent script later content := by
  refine ⟨?_, ?_⟩
  · rw [same]
    exact sent.whole
  · rw [same]
    exact sent.nonempty

structure Idle (script : Script) (content : List Byte) (system : System) :
    Prop where
  waiting : Waiting script.type.target content system.device
  noLine : NoLine system.device.command
  toDevice : system.toDevice = []
  toHost : WithoutK system.toHost

structure Current (script : Script) (system : System) (content : List Byte)
    (addr : Nat) (data : List Byte) : Prop where
  sent : Sent script system.host content
  chunk : system.host.chunks.head? = some (addr, data)
  before : system.acceptedBefore = content.length
  attempts : system.host.attempts ≤ script.retries

def writeBody (script : Script) (addr : Nat) (data : List Byte) : List Byte :=
  commandBody "AT#XDFUWRITE" [script.type.number, addr, data.length]

def initBody (script : Script) : List Byte :=
  commandBody "AT#XDFUINIT" [script.type.number, script.totalSize]

def applyBody (script : Script) : List Byte :=
  commandBody "AT#XDFUAPPLY" [script.type.number]

def System.heard (system : System) : Text :=
  system.host.buffer ++ system.toHost

inductive Sound (script : Script) (system : System) : Prop
  | starting (content : List Byte) : system.host = Host.init script → Idle script content system →
      Sound script system
  | initialising (content : List Byte) : system.host.phase = .initialising →
      system.host.chunks = parseChunksBin script.file →
      system.host.attempts = script.retries →
      Asked script.type.target content (initBody script)
        (Initialised script.type.target) system.device system.toDevice
        system.heard →
      Sound script system
  | writing (content : List Byte) : system.host.phase = .writing → Sent script system.host content →
      system.host.attempts = script.retries → Idle script content system →
      Sound script system
  | retrying (content : List Byte) (addr : Nat) (data : List Byte) : system.host.phase = .writing →
      Current script system content addr data →
      system.host.attempts < script.retries →
      (Asked script.type.target content (writeBody script addr data)
          (fun device _ => device.inDatamode = true) system.device
          system.toDevice system.toHost ∨
        Sending script.type content data False system.device system.toDevice system.toHost) →
      Sound script system
  | awaitingOk (content : List Byte) (addr : Nat) (data : List Byte) :
      system.host.phase = .awaitingOk →
      Current script system content addr data →
      0 < system.host.attempts →
      Asked script.type.target content (writeBody script addr data)
        (Entered script.type content data) system.device system.toDevice
        system.heard →
      Sound script system
  | awaitingUrc (content : List Byte) (addr : Nat) (data : List Byte) :
      system.host.phase = .awaitingUrc →
      Current script system content addr data →
      0 < system.host.attempts →
      Sending script.type content data True system.device system.toDevice system.heard →
      Sound script system
  | applying (text : Text) : (system.host.phase = .applying ∨ system.host.phase = .returned true) →
      Asked script.type.target script.file (applyBody script)
        (Applied script.type.target script.file) system.device
        system.toDevice text →
      Sound script system
  | failed : system.host.phase = .returned false → Sound script system

variable {cfg : Config} {env : Environment} {script : Script} {system after : System}

theorem Asked.image {target : DfuTarget} {body : List Byte} {device : Device}
    {rest : List Byte} {text : Text}
    (asked : Asked target content body (Applied target content) device rest
      text) : device.accepted target = content := by
  cases asked with
  | typing waiting _ _ _ | refused waiting _ _ _ => exact waiting.image
  | granted applied => exact applied.image

theorem Sound.agrees (sound : Sound script system) : Agrees script system := by
  intro returned
  cases sound with
  | starting content host _ =>
    rw [host] at returned
    cases returned
  | initialising content phase _ _ _ | writing content phase _ _ _
  | retrying content addr data phase _ _ _ | awaitingOk content addr data phase _ _ _
  | awaitingUrc content addr data phase _ _ _ =>
    rw [phase] at returned
    cases returned
  | applying text _ asked => exact asked.image
  | failed phase =>
    rw [phase] at returned
    cases returned

theorem Idle.asks (idle : Idle script content system) (body : List Byte)
    (granted : Device → Text → Prop) :
    Asked script.type.target content body granted system.device
      (system.toDevice ++ (body ++ [13])) ([] ++ system.toHost) := by
  rw [idle.toDevice]
  exact .typing idle.waiting idle.noLine.typed rfl idle.toHost

variable {data : List Byte} {addr : Nat}

theorem resumed (current : Current script system content addr data)
    (retrying : Asked script.type.target content (writeBody script addr data)
          (fun device _ => device.inDatamode = true) system.device
          system.toDevice system.toHost ∨
        Sending script.type content data False system.device
          system.toDevice system.toHost) (resumable : Resumable script system) :
    Idle script content system := by
  obtain ⟨⟨mode, noLine⟩, toDevice, nothing⟩ := resumable
  rw [toDevice] at retrying
  have idle : Waiting script.type.target content system.device →
      NoLine system.device.command → WithoutK system.toHost →
      Idle script content system :=
    fun waiting empty without => ⟨waiting, empty, toDevice, without⟩
  rcases retrying with asked | sending
  · cases asked with
    | typing waiting isTyped whole without =>
      have length := congrArg List.length whole
      rw [append_nil, ← isTyped.length, noLine] at length
      simp at length
    | refused waiting empty _ without => exact idle waiting empty without
    | granted isDatamode =>
      rw [isDatamode] at mode
      cases mode
  · cases sending with
    | receiving isDatamode _ _ more _ _ => exact absurd rfl more
    | finished isFinished without _ =>
      -- The image is as long as before, so it is as before.
      have image : system.device.accepted script.type.target = content := by
        refine (isFinished.grown.eq_of_length ?_).symm
        rw [← current.before]
        exact nothing.symm
      refine idle ⟨mode, image, ?_⟩ isFinished.noLine without
      rcases isFinished.owed with holds | written
      · exact holds
      · have member := List.mem_of_mem_head? current.chunk
        rw [image] at written
        exact absurd (self_eq_append_right.mp written) (current.sent.nonempty _ member)

theorem Sound.proceed (sound : Sound script system) (resumes : Resumes script system .proceed)
    (taken : step cfg env script .proceed system = some after) :
    Sound script after := by
  obtain ⟨⟨host, sent⟩, proceeds, rfl⟩ := map_eq_some_iff.mp taken
  unfold Host.proceed at proceeds
  cases sound with
  | starting content isInit idle =>
    rw [isInit] at proceeds
    cases proceeds
    refine .initialising content rfl rfl rfl ?_
    rw [sendCommand_eq]
    exact idle.asks _ _
  | writing content phase isSent attempts idle =>
    rw [phase] at proceeds
    have first : system.host.isFirst script = true := by
      simp [Host.isFirst, phase, attempts]
    cases chunks : system.host.chunks with
    | nil =>
      simp only [chunks] at proceeds
      cases proceeds
      have complete := isSent.whole
      rw [chunks, flatMap_nil, append_nil] at complete
      refine .applying ([] ++ system.toHost) (.inl rfl) ?_
      rw [sendCommand_eq, ← complete]
      exact idle.asks _ _
    | cons chunk rest =>
      obtain ⟨addr, data⟩ := chunk
      simp only [chunks] at proceeds
      split at proceeds
      · cases proceeds
        exact .failed rfl
      · rename_i left
        cases proceeds
        refine .awaitingOk content addr data rfl
          ⟨isSent.of_chunks rfl, ?_, ?_, Nat.le_of_eq attempts⟩
          (Nat.pos_of_ne_zero left) ?_
        · simp [Host.enter, chunks]
        · rw [if_pos first]
          exact congrArg List.length idle.waiting.image
        · rw [sendCommand_eq]
          exact idle.asks _ _
  | retrying content addr data phase current fewer exchange =>
    rw [phase] at proceeds
    have later : system.host.isFirst script = false := by
      simp [Host.isFirst, phase, Nat.ne_of_lt fewer]
    obtain ⟨rest, chunks⟩ := List.head?_eq_some_iff.mp current.chunk
    simp only [chunks] at proceeds
    split at proceeds
    · cases proceeds
      exact .failed rfl
    · rename_i left
      cases proceeds
      have positive := Nat.pos_of_ne_zero left
      have idle := resumed current exchange (resumes rfl phase later positive)
      refine .awaitingOk content addr data rfl
        ⟨current.sent.of_chunks rfl, current.chunk, ?_, current.attempts⟩
        positive ?_
      · rw [if_neg (by rw [later]; exact Bool.false_ne_true)]
        exact current.before
      · rw [sendCommand_eq]
        exact idle.asks _ _
  | initialising content phase _ _ _ | awaitingOk content addr data phase _ _ _
  | awaitingUrc content addr data phase _ _ _ =>
    rw [phase] at proceeds
    cases proceeds
  | applying text phase _ =>
    rcases phase with phase | phase
    · rw [phase] at proceeds
      cases proceeds
    · rw [phase] at proceeds
      cases proceeds
  | failed phase =>
    rw [phase] at proceeds
    cases proceeds

/-- `dfu_write` returns `False` while the exchange goes on. -/
theorem Sound.writeFailed {host : Host} {toHost : Text} {toDevice : List Byte}
    (current : Current script system content addr data)
    (sameChunks : host.chunks = system.host.chunks)
    (sameAttempts : host.attempts = system.host.attempts)
    (positive : 0 < system.host.attempts)
    (exchange : Asked script.type.target content (writeBody script addr data)
          (fun device _ => device.inDatamode = true) system.device
          toDevice toHost ∨
        Sending script.type content data False system.device toDevice toHost) :
    Sound script
      { system with
        host := host.writeFailed
        toDevice := toDevice
        toHost := toHost } := by
  have bound := current.attempts
  refine .retrying content addr data rfl ⟨current.sent.of_chunks sameChunks,
    ?_, current.before, ?_⟩ ?_ exchange
  · rw [← current.chunk, ← sameChunks]
    rfl
  · change host.attempts - 1 ≤ script.retries
    omega
  · change host.attempts - 1 < script.retries
    omega

theorem Sound.timeout (sound : Sound script system)
    (taken : step cfg env script .timeout system = some after) :
    Sound script after := by
  obtain ⟨host, ends, rfl⟩ := map_eq_some_iff.mp taken
  unfold Host.timeout at ends
  have forgotten : system.toHost <:+ system.heard := suffix_append _ _
  cases sound with
  | starting content isInit idle =>
    rw [isInit] at ends
    cases ends
  | initialising content phase _ _ _ =>
    rw [phase] at ends
    cases ends
    exact .failed rfl
  | writing content phase _ _ _ | retrying content addr data phase _ _ _ =>
    rw [phase] at ends
    cases ends
  | awaitingOk content addr data phase current positive asked =>
    rw [phase] at ends
    cases ends
    exact Sound.writeFailed current rfl rfl positive
      (.inl (asked.weaken forgotten fun entered => entered.mode))
  | awaitingUrc content addr data phase current positive sending =>
    rw [phase] at ends
    cases ends
    exact Sound.writeFailed current rfl rfl positive (.inr (sending.forget forgotten))
  | applying text phase _ =>
    rcases phase with phase | phase
    · rw [phase] at ends
      cases ends
      exact .failed rfl
    · rw [phase] at ends
      cases ends
  | failed phase =>
    rw [phase] at ends
    cases ends

theorem heard_split (system : System) (count : Nat) :
    system.host.buffer ++ system.toHost.take count ++ system.toHost.drop count = system.heard := by
  rw [append_assoc, take_append_drop, System.heard]

theorem Sound.read {count : Nat} (sound : Sound script system)
    (taken : step cfg env script (.read count) system = some after) :
    Sound script after := by
  simp only [step] at taken
  split at taken
  · obtain ⟨⟨host, sent⟩, looks, rfl⟩ := map_eq_some_iff.mp taken
    have whole := heard_split system count
    generalize system.host.buffer ++ system.toHost.take count = buffer at looks whole
    generalize system.toHost.drop count = unread at whole
    have forgotten : unread <:+ system.heard := ⟨buffer, whole⟩
    unfold Host.look at looks
    cases sound with
    | starting content isInit idle =>
      rw [isInit] at looks
      cases looks
    | initialising content phase chunks attempts asked =>
      rw [← whole] at asked
      simp only [phase] at looks
      split at looks
      · rename_i found
        cases looks
        obtain ⟨nothing, initialised⟩ := asked.granted_of_ok found
        obtain ⟨since, confirms, without⟩ := initialised.answered
        refine .writing [] rfl ((Sent.start script).of_chunks chunks)
          attempts ⟨initialised.waiting, initialised.noLine, ?_, ?_⟩
        · simpa using nothing
        · refine WithoutK.suffix ?_ (confirms.unread found)
          exact WithoutK.append (by decide) without
      · cases looks
        exact .failed rfl
      · cases looks
        rw [append_nil]
        exact .initialising content rfl chunks attempts asked
    | awaitingOk content addr data phase current positive asked =>
      simp only [phase] at looks
      split at looks
      · rename_i found
        cases looks
        rw [← whole] at asked
        obtain ⟨nothing, entered⟩ := asked.granted_of_ok found
        have nonempty := current.sent.nonempty _ (List.mem_of_mem_head? current.chunk)
        refine .awaitingUrc content addr data rfl
          ⟨current.sent.of_chunks rfl, current.chunk, current.before, current.attempts⟩ positive ?_
        change Sending script.type content data True system.device
          (system.toDevice ++ system.host.data) unread
        have chunkData : system.host.data = data := by
          simp [Host.data, current.chunk]
        rw [nothing, nil_append, chunkData]
        exact entered.sending nonempty found
      · cases looks
        rw [append_nil]
        exact Sound.writeFailed current rfl rfl positive
          (.inl (asked.weaken forgotten fun entered => entered.mode))
      · cases looks
        rw [append_nil]
        rw [← whole] at asked
        exact .awaitingOk content addr data rfl
          ⟨current.sent.of_chunks rfl, current.chunk, current.before,
            current.attempts⟩ positive asked
    | awaitingUrc content addr data phase current positive sending =>
      simp only [phase] at looks
      split at looks
      · rename_i status found
        split at looks
        · rename_i success
          cases looks
          rw [success] at found
          rw [← whole] at sending
          obtain ⟨nothing, waiting, noLine, without⟩ :=
            sending.written_of_success found
          obtain ⟨rest, chunks⟩ :=
            List.head?_eq_some_iff.mp current.chunk
          refine .writing (content ++ data) rfl ⟨?_, ?_⟩ rfl ⟨waiting, noLine, ?_, without⟩
          · have parts := current.sent.whole
            rw [chunks, flatMap_cons, ← append_assoc] at parts
            simpa [Host.writeSucceeded, chunks] using parts
          · intro chunk member
            exact current.sent.nonempty chunk (mem_of_mem_tail member)
          · simpa using nothing
        · cases looks
          rw [append_nil]
          exact Sound.writeFailed current rfl rfl positive (.inr (sending.forget forgotten))
      · cases looks
        rw [append_nil]
        rw [← whole] at sending
        exact .awaitingUrc content addr data rfl
          ⟨current.sent.of_chunks rfl, current.chunk, current.before,
            current.attempts⟩ positive sending
    | applying text phase asked =>
      rcases phase with phase | phase
      · simp only [phase] at looks
        split at looks
        · rename_i status _
          cases looks
          rw [append_nil]
          cases result : status == 0 with
          | true => exact .applying text (.inr rfl) asked
          | false => exact .failed rfl
        · cases looks
          rw [append_nil]
          exact .applying text (.inl rfl) asked
      · simp only [phase] at looks
        cases looks
    | writing content phase _ _ _ | retrying content addr data phase _ _ _ | failed phase =>
      simp only [phase] at looks
      cases looks
  · cases taken

theorem Answers.widen {target : DfuTarget} {body : List Byte} {granted wider : Device → Text → Prop}
    (answers : Answers cfg env target content body granted)
    (widens : ∀ device text, granted device text → wider device text) :
    Answers cfg env target content body wider := by
  intro device text waiting without fits
  exact (answers device text waiting without fits).imp (widens _ _) id

theorem Current.of_device (current : Current script system content addr data)
    (device : Device) (toDevice : List Byte) (toHost : Text) :
    Current script
      { system with
        device := device
        toDevice := toDevice
        toHost := toHost } content addr data :=
  ⟨current.sent, current.chunk, current.before, current.attempts⟩

theorem Idle.sendUrcs (idle : Idle script content system) : Idle script content
      { system with
        device := system.device.sendUrcs.1
        toHost := system.toHost ++ system.device.sendUrcs.2 } := by
  refine ⟨⟨idle.waiting.mode, idle.waiting.image, ?_⟩, idle.noLine,
    idle.toDevice, idle.toHost.append (withoutK_lines _)⟩
  intro line member
  cases member

theorem Sound.receive (sound : Sound script system)
    (taken : step cfg env script .receive system = some after) :
    Sound script after := by
  simp only [step] at taken
  cases line : system.toDevice with
  | nil =>
    rw [line] at taken
    cases taken
  | cons byte rest =>
    rw [line] at taken
    cases taken
    have later : system.host.buffer ++ (system.toHost ++ (system.device.receive cfg env byte).2) =
        system.heard ++ (system.device.receive cfg env byte).2 := by
      rw [System.heard, append_assoc]
    cases sound with
    | starting content _ idle | writing content _ _ _ idle =>
      rw [idle.toDevice] at line
      cases line
    | initialising content phase chunks attempts asked =>
      rw [line] at asked
      refine .initialising content phase chunks attempts ?_
      rw [System.heard, later]
      exact asked.receive (init_commandText _) (init_answers _ _ _)
    | retrying content addr data phase current fewer exchange =>
      rw [line] at exchange
      refine .retrying content addr data phase (current.of_device _ _ _) fewer (exchange.imp ?_ ?_)
      · intro asked
        exact asked.receive (write_commandText _)
          ((write_answers _ _ _ _).widen fun _ _ entered => entered.mode)
      · exact Sending.receive
    | awaitingOk content addr data phase current positive asked =>
      rw [line] at asked
      refine .awaitingOk content addr data phase (current.of_device _ _ _) positive ?_
      rw [System.heard, later]
      exact asked.receive (write_commandText _) (write_answers _ _ _ _)
    | awaitingUrc content addr data phase current positive sending =>
      rw [line] at sending
      refine .awaitingUrc content addr data phase (current.of_device _ _ _) positive ?_
      rw [System.heard, later]
      exact sending.receive
    | applying text phase asked =>
      rw [line] at asked
      exact .applying _ phase (asked.receive (apply_commandText _) (apply_answers _ _ (by simp) _))
    | failed phase => exact .failed phase

theorem Sound.inactivity (sound : Sound script system)
    (taken : step cfg env script .inactivity system = some after) :
    Sound script after := by
  simp only [step] at taken
  split at taken
  · rename_i mode
    cases taken
    cases sound with
    | starting content _ idle | writing content _ _ _ idle =>
      rw [idle.waiting.mode] at mode
      cases mode
    | initialising content phase chunks attempts asked =>
      refine .initialising content phase chunks attempts (asked.inactivity ?_ mode)
      intro device text initialised isDatamode
      rw [initialised.waiting.mode] at isDatamode
      cases isDatamode
    | retrying content addr data phase current fewer exchange =>
      refine .retrying content addr data phase (current.of_device _ _ _)
        fewer (exchange.imp (fun asked => asked.inactivity ?_ mode)
          fun sending => sending.inactivity mode)
      intro device text isDatamode _
      exact (rawSend_keeps env device).1.trans isDatamode
    | awaitingOk content addr data phase current positive asked =>
      exact .awaitingOk content addr data phase (current.of_device _ _ _)
        positive (asked.inactivity (fun _ _ entered _ => entered.rawSend) mode)
    | awaitingUrc content addr data phase current positive sending =>
      exact .awaitingUrc content addr data phase (current.of_device _ _ _)
        positive (sending.inactivity mode)
    | applying text phase asked =>
      refine .applying text phase (asked.inactivity ?_ mode)
      intro device _ applied isDatamode
      rw [applied.mode] at isDatamode
      cases isDatamode
    | failed phase => exact .failed phase
  · cases taken

theorem Sound.sendUrcs (sound : Sound script system)
    (taken : step cfg env script .sendUrcs system = some after) :
    Sound script after := by
  simp only [step] at taken
  split at taken
  · cases taken
  · rename_i notDatamode
    have mode := Bool.eq_false_iff.mpr notDatamode
    cases taken
    have later : system.host.buffer ++ (system.toHost ++ system.device.sendUrcs.2) =
        system.heard ++ system.device.sendUrcs.2 := by
      rw [System.heard, append_assoc]
    cases sound with
    | starting content isInit idle =>
      exact .starting content isInit idle.sendUrcs
    | writing content phase isSent attempts idle =>
      exact .writing content phase isSent attempts idle.sendUrcs
    | initialising content phase chunks attempts asked =>
      refine .initialising content phase chunks attempts ?_
      rw [System.heard, later]
      exact asked.sendUrcs (fun _ _ initialised _ => initialised.sendUrcs) mode
    | retrying content addr data phase current fewer exchange =>
      refine .retrying content addr data phase (current.of_device _ _ _)
        fewer (exchange.imp (fun asked => asked.sendUrcs ?_ mode)
          fun sending => sending.sendUrcs mode)
      intro device text isDatamode isAtMode
      rw [isDatamode] at isAtMode
      cases isAtMode
    | awaitingOk content addr data phase current positive asked =>
      refine .awaitingOk content addr data phase (current.of_device _ _ _) positive ?_
      rw [System.heard, later]
      refine asked.sendUrcs ?_ mode
      intro device text entered isAtMode
      rw [entered.mode] at isAtMode
      cases isAtMode
    | awaitingUrc content addr data phase current positive sending =>
      refine .awaitingUrc content addr data phase (current.of_device _ _ _) positive ?_
      rw [System.heard, later]
      exact sending.sendUrcs mode
    | applying text phase asked =>
      exact .applying _ phase (asked.sendUrcs
        (fun _ _ applied _ => ⟨applied.mode, applied.image⟩) mode)
    | failed phase => exact .failed phase

theorem Sound.step {action : Action} (sound : Sound script system)
    (resumes : Resumes script system action)
    (taken : Dfu.step cfg env script action system = some after) :
    Sound script after := by
  cases action with
  | proceed => exact sound.proceed resumes taken
  | read count => exact sound.read taken
  | timeout => exact sound.timeout taken
  | receive => exact sound.receive taken
  | inactivity => exact sound.inactivity taken
  | sendUrcs => exact sound.sendUrcs taken

theorem Initial.sound (initial : Initial script system)
    (holds : system.device.HoldsNoSuccess) : Sound script system := by
  obtain ⟨lines, toHost⟩ := initial.toHost
  refine .starting _ initial.host ⟨⟨initial.ready.mode, rfl, holds⟩,
      ⟨initial.fits, initial.ready.noLine⟩, initial.toDevice, ?_⟩
  rw [toHost]
  exact withoutK_lines lines

/-- The states of the runs in which every chunk that is sent again has not been
accepted in part. -/
abbrev ResumingReachable (cfg : Config) (env : Environment) (script : Script) : System → Prop :=
  Reachable (step cfg env script) (Resumes script)
    fun system => Initial script system ∧ system.device.HoldsNoSuccess

/-- When the host has finished, the image is the file. -/
theorem image_agrees (reachable : ResumingReachable cfg env script system) :
    Agrees script system := by
  apply Sound.agrees
  apply reachable.invariant
  · intro state initially
    exact initially.1.sound initially.2
  · intro state action next sound resumes taken
    exact sound.step resumes taken

def updateConfig : Config where
  toConfig := plusConfig
  blSupported := true

def updateEnvironment (refused : Option Nat) : Environment where
  target count := if some count = refused then -eagain else 0
  entersDatamode _ := true
  alloc _ _ := true
  idle _ := true
  otherResponse _ _ := []

def updateDevice : Device where
  command := (Ctx.init none).command
  inDatamode := false
  dataLen := 0
  dataRb := []
  datamodeContext _ := ⟨0, 0⟩
  appDfuBufferInitialized := false
  xdfuCurrentImageType := .app
  xdfuBytesWritten := 0
  xdfuStatus := 0
  urcBuf := []
  accepted _ := []
  calls := 0
  handled := 0

def updateScript : Script :=
  doDfuApp [1, 2] defaultRetries

def updateStart : System where
  host := Host.init updateScript
  device := updateDevice
  toDevice := []
  toHost := []
  acceptedBefore := 0

theorem updateStart_initial : Initial updateScript updateStart where
  host := rfl
  ready := ⟨rfl, rfl⟩
  fits := ⟨⟨0, by decide, rfl⟩, by decide, fun _ => rfl⟩
  toDevice := rfl
  toHost := ⟨[], rfl⟩

def commandActions (length : Nat) : List Action :=
  .proceed :: replicate length .receive

def updateActions : List Action :=
  commandActions 16 ++ [.read 6] ++ commandActions 19 ++ [.read 6, .receive, .receive, .read 14] ++
    commandActions 15 ++ [.sendUrcs, .read 37]

theorem update_agrees : ∃ system, ResumingReachable updateConfig (updateEnvironment none)
        updateScript system ∧
      system.host.phase = .returned true ∧
      system.image updateScript = updateScript.file := by
  have run : ((runChecked (step updateConfig (updateEnvironment none) updateScript)
      (fun system _ => system.host.isFirst updateScript ||
        system.host.phase != .writing) updateActions updateStart).map
      fun system => system.host.phase) = some (.returned true) := by
    decide
  obtain ⟨system, ran, returned⟩ := map_eq_some_iff.mp run
  have reachable : ResumingReachable updateConfig (updateEnvironment none) updateScript system := by
    refine reachable_of_runChecked updateActions ?_
      (.start ⟨updateStart_initial, by simp [Device.HoldsNoSuccess, updateStart, updateDevice]⟩) ran
    intro before action _ passed _ phase notFirst
    rw [notFirst, phase] at passed
    exact absurd passed (by decide)
  exact ⟨system, reachable, returned, image_agrees reachable returned⟩

/-- The second byte of the chunk is refused.  The first one has been written, and
is written again with the second attempt. -/
def repeatedActions : List Action :=
  commandActions 16 ++ [.read 6] ++
    commandActions 19 ++ [.read 6, .receive, .inactivity, .receive, .read 15] ++
    commandActions 19 ++ [.read 23, .receive, .receive, .read 14] ++
    commandActions 15 ++ [.sendUrcs, .read 37]

/-- A chunk of which a part was written is sent again. -/
theorem image_written_twice :
    ¬∀ (cfg : Config) (env : Environment) (script : Script) (system : System),
      Reachable (step cfg env script) (fun _ _ => True) (Initial script)
        system → Agrees script system := by
  intro everyRun
  have run : ((runActions (step updateConfig (updateEnvironment (some 3)) updateScript)
      repeatedActions updateStart).map
      fun system => (system.host.phase, system.image updateScript)) =
        some (.returned true, [1, 1, 2]) := by
    decide
  obtain ⟨system, ran, seen⟩ := map_eq_some_iff.mp run
  obtain ⟨returned, image⟩ := Prod.mk.inj seen
  have agrees := everyRun _ _ _ system
    (reachable_of_run repeatedActions updateStart_initial ran) returned
  rw [image] at agrees
  exact absurd agrees (by decide)

end SerialModem.Dfu
