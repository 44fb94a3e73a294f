import SerialModem.Mqtt.System

/-!
# Published packets

Whatever the order of commands and flushes, what is published was checked.  The
message IDs of accepted commands count up to 65534 and begin again at 1.

The flushes of data mode read `pub_param` again.  They carry what their own
command has set as long as no other context publishes in between.
-/

namespace SerialModem.Mqtt

open Library List
open AtHost (Byte CtxId)

/-- What the commands have checked. -/
structure Header.Valid (header : Header) : Prop where
  topic : header.topic.length < mqttMaxTopicLen
  qos : header.qos ≤ 2
  dupFlag : header.dupFlag = false
  retainFlag : header.retainFlag ≤ 1
  numbered : 0 < header.messageId.toNat ∧ header.messageId.toNat < 65535

def Entry.Valid : Entry → Prop
  | .accepted _ header => header.Valid
  | .published _ header _ => header.Valid
  | .subscribed _ topic qos messageId =>
    topic.length < mqttMaxTopicLen ∧ qos ≤ 2 ∧ 0 < messageId.toNat ∧ messageId.toNat < 65535

def Entry.acceptedId : Entry → Option UInt16
  | .accepted _ header => some header.messageId
  | _ => none

/-- The message IDs of the accepted commands. -/
def acceptedIds (log : List Entry) : List UInt16 :=
  log.filterMap Entry.acceptedId

/-- The last message ID after some accepted commands. -/
def idAfter : Nat → Nat
  | 0 => 0
  | count + 1 => count % 65534 + 1

theorem idAfter_lt (count : Nat) : idAfter count < 65535 := by
  cases count with
  | zero => decide
  | succ count =>
    have small := Nat.mod_lt count (show 0 < 65534 by decide)
    rw [idAfter]
    omega

variable {messageId : UInt16}

theorem nextMessageId_spec (small : messageId.toNat < 65535) : (nextMessageId messageId).toNat =
      if messageId.toNat = 65534 then 1 else messageId.toNat + 1 := by
  have sum : (messageId + 1).toNat = messageId.toNat + 1 := by
    rw [UInt16.toNat_add, show (1 : UInt16).toNat = 1 from rfl, Nat.mod_eq_of_lt]
    omega
  have isMax : messageId + 1 = 0xFFFF ↔ messageId.toNat = 65534 := by
    rw [← UInt16.toNat_inj, sum, show (0xFFFF : UInt16).toNat = 65535 from rfl]
    omega
  unfold nextMessageId
  by_cases wraps : messageId.toNat = 65534
  · rw [if_pos (isMax.mpr wraps), if_pos wraps]
    rfl
  · rw [if_neg (mt isMax.mp wraps), if_neg wraps, sum]

theorem nextMessageId_bounds (small : messageId.toNat < 65535) :
    0 < (nextMessageId messageId).toNat ∧ (nextMessageId messageId).toNat < 65535 := by
  rw [nextMessageId_spec small]
  split <;> omega

theorem nextMessageId_idAfter {count : Nat} (isId : messageId.toNat = idAfter count) :
    (nextMessageId messageId).toNat = idAfter (count + 1) := by
  rw [nextMessageId_spec (isId ▸ idAfter_lt count), isId]
  cases count with
  | zero => rfl
  | succ count =>
    rw [idAfter, idAfter]
    by_cases wraps : count % 65534 + 1 = 65534
    · rw [if_pos wraps]
      omega
    · rw [if_neg wraps]
      omega

@[simp] theorem length_textOf (memory : Nat → Byte) (size : Nat) :
    (textOf memory size).length = size := by
  rw [textOf, length_map, length_range]

theorem utilStringGet_lt {size stored : Nat} {param : Except Int (List Byte)}
    {memory next : Nat → Byte} (got : utilStringGet size param memory = (.ok stored, next)) :
    stored < size := by
  unfold utilStringGet at got
  split at got
  · cases got
  · split at got
    · cases got
      assumption
    · split at got
      all_goals cases got

variable {system : System} {c : CtxId}

/-- The command has passed its checks. -/
def System.granted (c : CtxId) (memory : Nat → Byte) (topicSize qos retain : Nat)
    (system : System) : System :=
  ({ system with pubTopic := memory }.setQos qos).accept c topicSize retain

/-- What `AT#XMQTTPUB` can do.  A refused command may have stored the topic and
the QoS. -/
inductive PublishEffect (c : CtxId) (system : System) : System → Prop where
  | stored (memory : Nat → Byte) : PublishEffect c system { system with pubTopic := memory }
  | refused (memory : Nat → Byte) {qos : Nat} : qos ≤ 2 →
      PublishEffect c system ({ system with pubTopic := memory }.setQos qos)
  | granted (memory : Nat → Byte) {topicSize qos retain : Nat} (after : System → System) :
      topicSize < mqttMaxTopicLen → qos ≤ 2 → retain ≤ 1 →
      (after = id ∨ after = System.setDatamode c true ∨
        ∃ message, after = System.doMqttPublish c message) →
      PublishEffect c system (after (system.granted c memory topicSize qos retain))

theorem handleAtMqttPublish_effect (c : CtxId) (params : PublishParams)
    (enterDatamode publish : Int) (system : System) :
    PublishEffect c system (system.handleAtMqttPublish c params enterDatamode publish).2 := by
  unfold System.handleAtMqttPublish
  split
  · exact .stored system.pubTopic
  · rcases got : utilStringGet mqttMaxTopicLen params.topic system.pubTopic with ⟨topic, memory⟩
    dsimp only
    cases topic with
    | error err => exact .stored memory
    | ok topicSize =>
      cases readPublish params with
      | error err => exact .stored memory
      | ok read =>
        obtain ⟨message, qos, retain⟩ := read
        dsimp only
        by_cases tooLarge : 2 < qos
        · rw [if_pos tooLarge]
          exact .stored memory
        · rw [if_neg tooLarge]
          have atMost := Nat.le_of_not_lt tooLarge
          by_cases tooMany : 1 < retain
          · rw [if_pos tooMany]
            exact .refused memory atMost
          · rw [if_neg tooMany]
            have granted := fun after =>
              @PublishEffect.granted c system memory topicSize qos retain after
                (utilStringGet_lt got) atMost (Nat.le_of_not_lt tooMany)
            split
            · dsimp only
              split
              · exact granted _ (.inr (.inl rfl))
              · exact granted _ (.inl rfl)
            · exact granted _ (.inr (.inr ⟨message, rfl⟩))

/-- The next message ID for subscriptions is taken. -/
def System.counted (system : System) : System :=
  { system with subMessageId := nextMessageId system.subMessageId }

/-- What a step can do.  A command for subscriptions with a refused QoS has taken
a message ID. -/
inductive StepEffect (action : Action) (system : System) : System → Prop where
  | unchanged : StepEffect action system system
  | connection (connected : Bool) : StepEffect action system { system with connected := connected }
  | publish {c : CtxId} {params : PublishParams} {enterDatamode publish : Int} {after : System} :
      action = .publish c params enterDatamode publish → PublishEffect c system after →
      StepEffect action system after
  | flush {c : CtxId} (data : List Byte) : system.datamode c = true →
      StepEffect action system (system.doMqttPublish c data)
  | leave (c : CtxId) : StepEffect action system (system.setDatamode c false)
  | counted : StepEffect action system system.counted
  | subscribe {op : SubOp} {topic : List Byte} {qos : Nat} :
      topic.length < mqttMaxTopicLen → qos ≤ 2 →
      StepEffect action system
        (system.counted.record (.subscribed op topic qos system.counted.subMessageId))

theorem handleAtMqttSubscribe_effect (action : Action) (op : SubOp) (paramCount : Nat)
    (topic : Except Int (List Byte)) (qos : Except Int Nat) (answer : Int) (system : System) :
    StepEffect action system (system.handleAtMqttSubscribe op paramCount topic qos answer).2 := by
  unfold System.handleAtMqttSubscribe
  split
  · exact .unchanged
  · by_cases wrong : paramCount ≠ (if op = .sub then 3 else 2)
    · rw [if_pos wrong]
      exact .unchanged
    · rw [if_neg wrong]
      rcases got : utilStringGet mqttMaxTopicLen topic fun _ => 0 with ⟨size, memory⟩
      dsimp only
      split
      · exact .unchanged
      · exact .unchanged
      · unfold System.doMqttSubscribe
        dsimp only
        split
        · exact .counted
        · refine .subscribe ?_ (Nat.le_of_not_lt ‹_›)
          rw [length_textOf]
          exact utilStringGet_lt got

variable {action : Action} {after : System}

theorem step_effect (taken : step action system = some after) : StepEffect action system after := by
  cases action with
  | setConnected connected =>
    cases taken
    exact .connection connected
  | publish c params enterDatamode publish =>
    simp only [step] at taken
    split at taken
    · cases taken
    · cases taken
      exact .publish rfl (handleAtMqttPublish_effect c params enterDatamode publish system)
  | datamodeSend c data more publish =>
    simp only [step] at taken
    split at taken
    · cases taken
      unfold System.datamodeSend
      split
      · exact .leave c
      · exact .flush data ‹_›
    · cases taken
  | datamodeExit c =>
    cases taken
    exact .leave c
  | subscribe op paramCount topic qos answer =>
    cases taken
    exact handleAtMqttSubscribe_effect _ op paramCount topic qos answer system

/-- No command publishes while some context is in data mode for MQTT. -/
def OneSession (system : System) : Action → Prop
  | .publish .. => ∀ c, system.datamode c = false
  | _ => True

def ownHeader (topic : Byte) (messageId : UInt16) : Header :=
  ⟨[topic], 1, false, 0, messageId⟩

def sessionLog : List Entry :=
  [.accepted 1 (ownHeader 97 1), .published 1 (ownHeader 97 1) [1, 2],
    .accepted 0 (ownHeader 98 2), .published 0 (ownHeader 98 2) [3]]

/-- A payload in the command, then a session with one flush. -/
theorem session_reachable :
    ∃ system, MqttReachable OneSession system ∧ system.log = sessionLog := by
  have started : MqttReachable OneSession initial := .start rfl
  have connected := started.next (Action.setConnected true) trivial rfl
  have published := connected.next
    (Action.publish 1 ⟨4, .ok [97], .ok [1, 2], .ok 1, .ok 0⟩ 0 0) (fun _ => rfl) rfl
  have entered := published.next
    (Action.publish 0 ⟨4, .ok [98], .ok [], .ok 1, .ok 0⟩ 0 0) (fun _ => rfl) rfl
  have flushed := entered.next (Action.datamodeSend 0 [3] false 0) trivial rfl
  exact ⟨_, flushed, rfl⟩

/-! ## What is published -/

structure System.Sound (system : System) : Prop where
  topicSize : system.pubParam.topicSize < mqttMaxTopicLen
  qos : system.pubParam.qos ≤ 2
  dupFlag : system.pubParam.dupFlag = false
  retainFlag : system.pubParam.retainFlag ≤ 1
  counted : system.pubParam.messageId.toNat = idAfter (acceptedIds system.log).length
  entered : ∀ c, system.datamode c = true → acceptedIds system.log ≠ []
  subscriptions : system.subMessageId.toNat < 65535
  numbered : ∀ index messageId, (acceptedIds system.log)[index]? = some messageId →
    messageId.toNat = index % 65534 + 1
  valid : ∀ entry ∈ system.log, entry.Valid

namespace System.Sound

theorem header (sound : system.Sound) (some : acceptedIds system.log ≠ []) :
    system.header.Valid where
  topic := by
    rw [System.header, length_textOf]
    exact sound.topicSize
  qos := sound.qos
  dupFlag := sound.dupFlag
  retainFlag := sound.retainFlag
  numbered := by
    change 0 < system.pubParam.messageId.toNat ∧ system.pubParam.messageId.toNat < 65535
    rw [sound.counted]
    refine ⟨?_, idAfter_lt _⟩
    cases isLength : (acceptedIds system.log).length with
    | zero => exact absurd (length_eq_zero_iff.mp isLength) some
    | succ count => exact Nat.succ_pos _

theorem record (sound : system.Sound) {entry : Entry} (valid : entry.Valid)
    (notAccepted : entry.acceptedId = none) : (system.record entry).Sound := by
  have same : acceptedIds (system.record entry).log = acceptedIds system.log := by
    simp [acceptedIds, System.record, notAccepted]
  exact
    { sound with
      counted := same ▸ sound.counted
      entered := same ▸ sound.entered
      numbered := same ▸ sound.numbered
      valid := forall_mem_append.mpr ⟨sound.valid, by simpa using valid⟩ }

theorem granted (sound : system.Sound) {topicSize qos retain : Nat} (memory : Nat → Byte)
    (fits : topicSize < mqttMaxTopicLen) (isQos : qos ≤ 2) (isRetain : retain ≤ 1) :
    (system.granted c memory topicSize qos retain).Sound ∧
      acceptedIds (system.granted c memory topicSize qos retain).log ≠ [] := by
  have next := nextMessageId_idAfter sound.counted
  have grown : acceptedIds (system.granted c memory topicSize qos retain).log =
      acceptedIds system.log ++ [nextMessageId system.pubParam.messageId] := by
    simp [acceptedIds, System.granted, System.setQos, System.accept, System.record,
      Entry.acceptedId, System.header]
  refine ⟨?_, by simp [grown]⟩
  exact
    { sound with
      topicSize := fits
      qos := isQos
      dupFlag := rfl
      retainFlag := isRetain
      counted := by
        rw [grown, length_append]
        exact next
      entered := by
        rw [grown]
        simp
      numbered := by
        intro index messageId isId
        rw [grown, getElem?_append] at isId
        split at isId
        · exact sound.numbered index messageId isId
        · rw [getElem?_singleton] at isId
          split at isId
          · cases isId
            rw [next, show index = (acceptedIds system.log).length by omega]
            rfl
          · cases isId
      valid := by
        refine forall_mem_append.mpr ⟨sound.valid, ?_⟩
        rw [forall_mem_singleton]
        refine ⟨?_, isQos, rfl, isRetain, nextMessageId_bounds ?_⟩
        · rw [System.header, length_textOf]
          exact fits
        · exact sound.counted ▸ idAfter_lt _ }

theorem publish {after : System} (sound : system.Sound) (effect : PublishEffect c system after) :
    after.Sound := by
  cases effect with
  | stored memory => exact { sound with }
  | refused memory isQos => exact { sound with qos := isQos }
  | granted memory after fits isQos isRetain follows =>
    obtain ⟨granted, some⟩ := sound.granted memory fits isQos isRetain
    rcases follows with rfl | rfl | ⟨message, rfl⟩
    · exact granted
    · exact { granted with entered := fun _ _ => some }
    · exact granted.record (granted.header some) rfl

end System.Sound

theorem setDatamode_false {d : CtxId} (inMode : (system.setDatamode c false).datamode d = true) :
    system.datamode d = true := by
  simp only [System.setDatamode] at inMode
  split at inMode
  · cases inMode
  · exact inMode

theorem step_sound (sound : system.Sound)
    (effect : StepEffect action system after) : after.Sound := by
  have next := nextMessageId_bounds sound.subscriptions
  have counted : system.counted.Sound := { sound with subscriptions := next.2 }
  cases effect with
  | unchanged => exact sound
  | connection connected => exact { sound with }
  | publish _ effect => exact sound.publish effect
  | @flush c data inMode => exact sound.record (sound.header (sound.entered c inMode)) rfl
  | leave c =>
    exact { sound with entered := fun d inMode => sound.entered d (setDatamode_false inMode) }
  | counted => exact counted
  | subscribe short atMost => exact counted.record ⟨short, atMost, next⟩ rfl

variable {allowed : System → Action → Prop}

/-- What the module holds was checked, and its IDs are counted. -/
theorem sound_of_reachable (reachable : MqttReachable allowed system) : system.Sound := by
  apply reachable.invariant
  · rintro _ rfl
    exact ⟨by decide, by decide, rfl, by decide, rfl, nofun, by decide, nofun, nofun⟩
  · exact fun _ _ _ sound _ taken => step_sound sound (step_effect taken)

/-- Everything that is published or subscribed to was checked. -/
theorem published_valid (reachable : MqttReachable allowed system) :
    ∀ entry ∈ system.log, entry.Valid :=
  (sound_of_reachable reachable).valid

theorem published_valid_session :
    ∃ system : System, system.log = sessionLog ∧ ∀ entry ∈ system.log, entry.Valid := by
  obtain ⟨system, reachable, isLog⟩ := session_reachable
  exact ⟨system, isLog, published_valid reachable⟩

/-- The message IDs of the accepted commands are 1 to 65534, over and over. -/
theorem message_ids_cycle (reachable : MqttReachable allowed system) {first second : Nat}
    {firstId secondId : UInt16} (isFirst : (acceptedIds system.log)[first]? = some firstId)
    (isSecond : (acceptedIds system.log)[second]? = some secondId) :
    firstId.toNat = first % 65534 + 1 ∧ (firstId = secondId ↔ first % 65534 = second % 65534) := by
  have sound := sound_of_reachable reachable
  have firstNumber := sound.numbered first firstId isFirst
  have secondNumber := sound.numbered second secondId isSecond
  refine ⟨firstNumber, ?_⟩
  rw [← UInt16.toNat_inj, firstNumber, secondNumber]
  omega

theorem message_ids_cycle_session : ∃ (system : System) (firstId secondId : UInt16),
    system.log = sessionLog ∧ acceptedIds system.log = [firstId, secondId] ∧
      firstId.toNat = 0 % 65534 + 1 ∧ (firstId = secondId ↔ 0 % 65534 = 1 % 65534) := by
  obtain ⟨system, reachable, isLog⟩ := session_reachable
  have ids : acceptedIds system.log = [1, 2] := by
    rw [isLog]
    rfl
  exact ⟨system, 1, 2, isLog, ids,
    message_ids_cycle reachable (by rw [ids]; rfl) (by rw [ids]; rfl)⟩

/-! ## The header of a packet -/

def Entry.acceptedBy (c : CtxId) : Entry → Option Header
  | .accepted d header => if d = c then some header else none
  | _ => none

/-- What the last accepted command of a context has set. -/
def lastAccepted (c : CtxId) (log : List Entry) : Option Header :=
  (log.filterMap (Entry.acceptedBy c)).getLast?

/-- Each packet carries what the last accepted command of its own context has
set. -/
def CarriesOwn (log : List Entry) : Prop :=
  ∀ before c header payload, before ++ [.published c header payload] <+: log →
    lastAccepted c before = some header

theorem CarriesOwn.concat {log : List Entry} (carries : CarriesOwn log) {entry : Entry}
    (own : ∀ c header payload, entry = .published c header payload →
      lastAccepted c log = some header) :
    CarriesOwn (log ++ [entry]) := by
  intro before c header payload isPrefix
  rcases prefix_concat_iff.mp isPrefix with equal | earlier
  · obtain ⟨rfl, isEntry⟩ := append_inj' equal rfl
    exact own c header payload (singleton_inj.mp isEntry).symm
  · exact carries before c header payload earlier

structure System.Own (system : System) : Prop where
  packets : CarriesOwn system.log
  sessions : ∀ c, system.datamode c = true → lastAccepted c system.log = some system.header

namespace System.Own

theorem idle (packets : CarriesOwn system.log) (noSession : ∀ c, system.datamode c = false) :
    system.Own where
  packets := packets
  sessions c inMode := absurd (inMode.symm.trans (noSession c)) (by decide)

theorem record (own : system.Own) {entry : Entry} (notAccepted : ∀ c, entry.acceptedBy c = none)
    (carried : ∀ c header payload, entry = .published c header payload →
      lastAccepted c system.log = some header) :
    (system.record entry).Own where
  packets := own.packets.concat carried
  sessions c inMode := by
    have same : lastAccepted c (system.log ++ [entry]) = lastAccepted c system.log := by
      simp [lastAccepted, notAccepted]
    exact same.trans (own.sessions c inMode)

theorem doMqttPublish (own : system.Own)
    (isLast : lastAccepted c system.log = some system.header) (payload : List Byte) :
    (system.doMqttPublish c payload).Own := by
  refine own.record (fun _ => rfl) ?_
  intro d header data isEntry
  cases isEntry
  exact isLast

theorem leave (own : system.Own) (c : CtxId) : (system.setDatamode c false).Own :=
  ⟨own.packets, fun d inMode => own.sessions d (setDatamode_false inMode)⟩

theorem publish {after : System} (own : system.Own) (noSession : ∀ c, system.datamode c = false)
    (effect : PublishEffect c system after) : after.Own := by
  cases effect with
  | stored memory => exact idle own.packets noSession
  | refused memory isQos => exact idle own.packets noSession
  | @granted memory topicSize qos retain after fits isQos isRetain follows =>
    have isLast : lastAccepted c (system.granted c memory topicSize qos retain).log =
        some (system.granted c memory topicSize qos retain).header := by
      simp [lastAccepted, System.granted, System.accept, System.record, Entry.acceptedBy,
        System.header]
    have granted : (system.granted c memory topicSize qos retain).Own :=
      idle (own.packets.concat nofun) noSession
    rcases follows with rfl | rfl | ⟨message, rfl⟩
    · exact granted
    · refine ⟨granted.packets, fun d inMode => ?_⟩
      simp only [System.setDatamode] at inMode
      split at inMode
      · rename_i isOwn
        exact isOwn ▸ isLast
      · exact granted.sessions d inMode
    · exact granted.doMqttPublish isLast message

end System.Own

theorem step_own (own : system.Own)
    (oneSession : OneSession system action) (effect : StepEffect action system after) :
    after.Own := by
  have counted : system.counted.Own := ⟨own.packets, own.sessions⟩
  cases effect with
  | unchanged => exact own
  | connection connected => exact ⟨own.packets, own.sessions⟩
  | publish isPublish effect =>
    subst isPublish
    exact own.publish oneSession effect
  | @flush c data inMode => exact own.doMqttPublish (own.sessions c inMode) data
  | leave c => exact own.leave c
  | counted => exact counted
  | subscribe => exact counted.record (fun _ => rfl) nofun

/-- As long as one context at a time publishes, each packet, in data mode too,
has the topic, the flags and the message ID of the last command that its context
was granted. -/
theorem packets_carry_own (reachable : MqttReachable OneSession system) :
    CarriesOwn system.log := by
  have own : system.Own := by
    apply reachable.invariant
    · rintro _ rfl
      exact ⟨by simp [CarriesOwn, initial], nofun⟩
    · exact fun _ _ _ own oneSession taken => step_own own oneSession (step_effect taken)
  exact own.packets

theorem packets_carry_own_session :
    ∃ system : System, system.log = sessionLog ∧ CarriesOwn system.log := by
  obtain ⟨system, reachable, isLog⟩ := session_reachable
  exact ⟨system, isLog, packets_carry_own reachable⟩

/-- Another context publishes during the session, and the flush goes to its
topic. -/
example : (runActions step [.setConnected true, .publish 0 ⟨4, .ok [98], .ok [], .ok 1, .ok 0⟩ 0 0,
      .publish 1 ⟨4, .ok [97], .ok [1, 2], .ok 1, .ok 0⟩ 0 0,
      .datamodeSend 0 [3] false 0] initial).map (fun system => system.log.getLast?) =
    some (some (.published 0 (ownHeader 97 2) [3])) := by
  decide

end SerialModem.Mqtt
