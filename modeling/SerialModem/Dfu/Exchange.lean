import SerialModem.Dfu.Handlers

/-!
# Exchanges between the script and the device

A command and its answer, and the data of a chunk and its `#XDFU` line.  An
exchange goes on also when the script has stopped listening; what it can make of
the answer is only stated while it listens.
-/

namespace SerialModem.Dfu

open Library AtHost List

variable {cfg : Config} {env : Environment}

structure Waiting (target : DfuTarget) (content : List Byte)
    (device : Device) : Prop where
  mode : device.inDatamode = false
  image : device.accepted target = content
  holds : device.HoldsNoSuccess

theorem Waiting.of_kept {target : DfuTarget} {content : List Byte}
    {before after : Device} (waiting : Waiting target content before)
    (kept : Kept before after) : Waiting target content after where
  mode := kept.mode.trans waiting.mode
  image := (congrFun kept.accepted target).trans waiting.image
  holds := by
    unfold Device.HoldsNoSuccess
    rw [kept.urcBuf]
    exact waiting.holds

variable {device : Device}

theorem receive_atMode (mode : device.inDatamode = false) (byte : Byte) :
    device.receive cfg env byte =
      ({ (device.cmdRxHandler cfg env byte).1 with
        handled := (device.cmdRxHandler cfg env byte).1.handled + 1 },
        (device.cmdRxHandler cfg env byte).2) := by
  rw [Device.receive, mode]
  rfl

theorem receive_datamode (mode : device.inDatamode = true) (byte : Byte) :
    device.receive cfg env byte =
      ({ (device.rawRxHandler cfg env byte).1 with
        handled := (device.rawRxHandler cfg env byte).1.handled + 1 },
        (device.rawRxHandler cfg env byte).2) := by
  rw [Device.receive, mode]
  rfl

def Device.finishLine (env : Environment) (device : Device) : Device :=
  { device.cmdFinnishOrFail env with handled := device.handled + 1 }

/-- A command is on its way, has been refused, or has been granted.  What has
been sent to the script since the command is `text`. -/
inductive Asked (target : DfuTarget) (content body : List Byte)
    (granted : Device → Text → Prop) : Device → List Byte → Text → Prop
  | typing {device : Device} {typed rest : List Byte} {text : Text} :
      Waiting target content device → device.command.Typed typed →
      typed ++ rest = body ++ [13] → WithoutK text →
      Asked target content body granted device rest text
  | refused {device : Device} {rest : List Byte} {text : Text} :
      Waiting target content device → NoLine device.command →
      (∀ byte ∈ rest, byte ≤ 57) → WithoutK text →
      Asked target content body granted device rest text
  | granted {device : Device} {text : Text} :
      granted device text → Asked target content body granted device [] text

def Answers (cfg : Config) (env : Environment) (target : DfuTarget)
    (content body : List Byte) (granted : Device → Text → Prop) : Prop :=
  ∀ (device : Device) (text : Text), Waiting target content device →
    WithoutK text → device.command.Fits →
    granted ((device.cmdSend cfg env body).1.finishLine env)
        (text ++ (device.cmdSend cfg env body).2) ∨
      (Kept device (device.cmdSend cfg env body).1 ∧ WithoutK (device.cmdSend cfg env body).2)

namespace Asked

variable {target : DfuTarget} {content body : List Byte} {granted : Device → Text → Prop}

variable {device : Device} {rest : List Byte} {text : Text}

theorem receive (isCommand : CommandText body)
    (answers : Answers cfg env target content body granted) {byte : Byte}
    (asked : Asked target content body granted device (byte :: rest) text) :
    Asked target content body granted (device.receive cfg env byte).1 rest
      (text ++ (device.receive cfg env byte).2) := by
  cases asked with
  | typing waiting isTyped whole without =>
    have takes := cmdRxHandler_takes cfg env isCommand isTyped whole
    rw [receive_atMode waiting.mode]
    generalize device.cmdRxHandler cfg env byte = result at takes
    cases takes with
    | stores longer echo =>
      refine typing ⟨waiting.mode, waiting.image, waiting.holds⟩ longer ?_ (without.append echo)
      rw [append_assoc]
      exact whole
    | givesUp noLine numbers error =>
      exact refused ⟨waiting.mode, waiting.image, waiting.holds⟩ noLine
        numbers (without.append error)
    | @executes command echo nothing fits silent =>
      subst nothing
      have still : Waiting target content { device with command := command } :=
        ⟨waiting.mode, waiting.image, waiting.holds⟩
      rcases answers _ (text ++ echo) still (without.append silent) fits
        with isGranted | ⟨kept, error⟩
      · rw [append_assoc] at isGranted
        exact Asked.granted isGranted
      · have after := still.of_kept kept
        have stays : (Device.cmdSend cfg env body
            { device with command := command }).1.command.Fits := by
          rw [kept.command]
          exact fits
        refine refused ⟨after.mode, after.image, after.holds⟩
          (cmdFinnishOrFail_noLine stays) (by simp)
          (without.append (silent.append error))
  | refused waiting noLine numbers without =>
    obtain ⟨small, later⟩ := forall_mem_cons.mp numbers
    obtain ⟨command, echo, handles, stays, silent⟩ :=
      cmdRxHandler_between cfg env noLine small
    rw [receive_atMode waiting.mode, handles]
    exact refused ⟨waiting.mode, waiting.image, waiting.holds⟩ stays later (without.append silent)

theorem sendUrcs (sends : ∀ device text, granted device text → device.inDatamode = false →
      granted device.sendUrcs.1 (text ++ device.sendUrcs.2))
    (asked : Asked target content body granted device rest text)
    (mode : device.inDatamode = false) :
    Asked target content body granted device.sendUrcs.1 rest (text ++ device.sendUrcs.2) := by
  have waits : Waiting target content device → Waiting target content device.sendUrcs.1 := by
    intro waiting
    exact ⟨waiting.mode, waiting.image, by
      intro line member
      cases member⟩
  cases asked with
  | typing waiting isTyped whole without =>
    exact typing (waits waiting) isTyped whole (without.append (withoutK_lines _))
  | refused waiting noLine numbers without =>
    exact refused (waits waiting) noLine numbers (without.append (withoutK_lines _))
  | granted isGranted => exact Asked.granted (sends device text isGranted mode)

theorem inactivity (flushes : ∀ device text, granted device text →
      device.inDatamode = true → granted (device.rawSend env) text)
    (asked : Asked target content body granted device rest text)
    (mode : device.inDatamode = true) :
    Asked target content body granted (device.rawSend env) rest text := by
  cases asked with
  | typing waiting _ _ _ | refused waiting _ _ _ =>
    rw [waiting.mode] at mode
    cases mode
  | granted isGranted =>
    exact Asked.granted (flushes device text isGranted mode)

theorem weaken {wider : Device → Text → Prop} {part : Text}
    (asked : Asked target content body granted device rest text)
    (isSuffix : part <:+ text)
    (widens : granted device text → wider device part) :
    Asked target content body wider device rest part := by
  cases asked with
  | typing waiting isTyped whole without =>
    exact typing waiting isTyped whole (without.suffix isSuffix)
  | refused waiting noLine numbers without =>
    exact refused waiting noLine numbers (without.suffix isSuffix)
  | granted isGranted => exact Asked.granted (widens isGranted)

theorem granted_of_ok {buffer unread : Text}
    (asked : Asked target content body granted device rest (buffer ++ unread))
    (found : waitForResponse "OK" buffer = some true) :
    rest = [] ∧ granted device (buffer ++ unread) := by
  cases asked with
  | typing _ _ _ without | refused _ _ _ without =>
    exact absurd found (waitForResponse_ne without)
  | granted isGranted => exact ⟨rfl, isGranted⟩

end Asked

structure Initialised (target : DfuTarget) (device : Device)
    (text : Text) : Prop where
  waiting : Waiting target [] device
  noLine : NoLine device.command
  answered : ∃ since, Confirms text since ∧ WithoutK since

theorem init_commandText (params : List Nat) : CommandText (commandBody "AT#XDFUINIT" params) :=
  commandText params ⟨_, rfl⟩ (by decide +kernel) (by decide +kernel)

theorem init_answers (type : ImageType) (size : Nat) (content : List Byte) :
    Answers cfg env type.target content (commandBody "AT#XDFUINIT" [type.number, size])
      (Initialised type.target) := by
  intro device text waiting without fits
  rcases cmdSend_command cfg env
    (init_commandText [type.number, size]) device with refused | handled
  · rw [refused]
    exact .inr ⟨Kept.refl device, withoutK_error⟩
  · rw [handled, dfuCommand_init (by simp)]
    dsimp only
    have initialises := handleAtXdfuInit_initialises cfg env type [decimal size] device
    rw [map_cons, map_singleton]
    generalize device.handleAtXdfuInit cfg env
      [decimal type.number, decimal size] = result at initialises
    cases initialises with
    | fails kept => exact .inr ⟨kept, withoutK_error⟩
    | @empties prepared kept =>
      have prepares := waiting.of_kept kept
      refine .inl ⟨⟨prepares.mode, ?_, prepares.holds⟩, ?_, ?_⟩
      · exact Function.update_self ..
      · apply cmdFinnishOrFail_noLine
        change prepared.command.Fits
        rw [kept.command]
        exact fits
      · exact ⟨[], ⟨text, by simp [Device.respond], without⟩, by decide⟩

theorem Initialised.sendUrcs {target : DfuTarget} {text : Text}
    (initialised : Initialised target device text) :
    Initialised target device.sendUrcs.1 (text ++ device.sendUrcs.2) := by
  obtain ⟨since, confirms, without⟩ := initialised.answered
  refine ⟨⟨initialised.waiting.mode, initialised.waiting.image, ?_⟩,
    initialised.noLine, since ++ device.sendUrcs.2, confirms.append _,
    without.append (withoutK_lines _)⟩
  intro line member
  cases member

structure Applied (target : DfuTarget) (content : List Byte)
    (device : Device) (_text : Text) : Prop where
  mode : device.inDatamode = false
  image : device.accepted target = content

theorem apply_commandText (params : List Nat) : CommandText (commandBody "AT#XDFUAPPLY" params) :=
  commandText params ⟨_, rfl⟩ (by decide +kernel) (by decide +kernel)

theorem apply_answers (target : DfuTarget) (params : List Nat)
    (nonempty : params ≠ []) (content : List Byte) :
    Answers cfg env target content (commandBody "AT#XDFUAPPLY" params)
      (Applied target content) := by
  intro device text waiting without fits
  rcases cmdSend_command cfg env (apply_commandText params) device with refused | handled
  · rw [refused]
    exact .inr ⟨Kept.refl device, withoutK_error⟩
  · rw [handled, dfuCommand_apply nonempty]
    obtain ⟨mode, _, accepted⟩ := handleAtXdfuApply_keeps cfg env (params.map decimal) device
    exact .inl ⟨mode.trans waiting.mode, (congrFun accepted target).trans waiting.image⟩

end SerialModem.Dfu
