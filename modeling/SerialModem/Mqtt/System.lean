import SerialModem.AtHost.State
import SerialModem.Library.CharBuffer
import SerialModem.Library.TransitionSystem

/-!
# The MQTT client

There is one client for all contexts.  What a publish packet carries besides its
payload is in `pub_param`, which points to the topic in `pub_topic`.  A payload
follows in the command or in data mode, and in data mode each flush is a packet
of its own.

What the MQTT library and the parser return is part of an action.  The library
and its thread change `connected` at any time.
-/

namespace SerialModem.Mqtt

open Library
open AtHost (Byte CtxId)

def mqttMaxTopicLen : Nat := 128

def enomem : Int := 12

def einval : Int := 22

def enotconn : Int := 128

def eoverflow : Int := 139

/-- `struct mqtt_publish_param` without the payload. -/
structure PubParam where
  qos : Nat
  topicSize : Nat
  dupFlag : Bool
  retainFlag : Nat
  messageId : UInt16

/-- What a publish packet carries besides its payload. -/
structure Header where
  topic : List Byte
  qos : Nat
  dupFlag : Bool
  retainFlag : Nat
  messageId : UInt16
  deriving DecidableEq

inductive SubOp where
  | unsub
  | sub
  deriving DecidableEq

inductive Entry where
  /-- `AT#XMQTTPUB` passed its checks. -/
  | accepted (c : CtxId) (header : Header)
  /-- `mqtt_publish`. -/
  | published (c : CtxId) (header : Header) (payload : List Byte)
  /-- `mqtt_subscribe` or `mqtt_unsubscribe`. -/
  | subscribed (op : SubOp) (topic : List Byte) (qos : Nat) (messageId : UInt16)
  deriving DecidableEq

structure System where
  connected : Bool
  pubTopic : Nat → Byte
  pubParam : PubParam
  subMessageId : UInt16
  /-- The contexts with `mqtt_datamode_callback`. -/
  datamode : CtxId → Bool
  log : List Entry

/-- After `sm_at_mqtt_init`. -/
def initial : System where
  connected := false
  pubTopic _ := 0
  pubParam := ⟨0, 0, false, 0, 0⟩
  subMessageId := 0
  datamode _ := false
  log := []

/-- `util_string_get` of a text that `at_parser_string_get` finds.  A text that
leaves no room for the NUL is stored and refused. -/
def utilStringGet (size : Nat) (param : Except Int (List Byte)) (memory : Nat → Byte) :
    Except Int Nat × (Nat → Byte) :=
  match param with
  | .error err => (.error err, memory)
  | .ok text =>
    if text.length < size then
      (.ok text.length, CharBuffer.overlay memory 0 (text ++ [0]))
    else if text.length = size then
      (.error (-enomem), CharBuffer.overlay memory 0 text)
    else
      (.error (-enomem), memory)

def textOf (memory : Nat → Byte) (size : Nat) : List Byte :=
  (List.range size).map memory

/-- The next `message_id`, for packets and for subscriptions. -/
def nextMessageId (messageId : UInt16) : UInt16 :=
  if messageId + 1 = 0xFFFF then 1 else messageId + 1

/-- What the parser gives `handle_at_mqtt_publish`. -/
structure PublishParams where
  paramCount : Nat
  topic : Except Int (List Byte)
  message : Except Int (List Byte)
  qos : Except Int Nat
  retain : Except Int Nat

/-- A parameter that is read only when the command has it. -/
def optionalParam {Value : Type} (present : Prop) [Decidable present]
    (param : Except Int Value) (default : Value) : Except Int Value :=
  if present then param else .ok default

/-- The parameters after the topic. -/
def readPublish (params : PublishParams) : Except Int (List Byte × Nat × Nat) := do
  let message ← optionalParam (2 < params.paramCount) params.message []
  let qos ← optionalParam (3 < params.paramCount) params.qos 0
  let retain ← optionalParam (4 < params.paramCount) params.retain 0
  return (message, qos, retain)

namespace System

def record (entry : Entry) (system : System) : System :=
  { system with log := system.log ++ [entry] }

/-- What the next packet carries. -/
def header (system : System) : Header where
  topic := textOf system.pubTopic system.pubParam.topicSize
  qos := system.pubParam.qos
  dupFlag := system.pubParam.dupFlag
  retainFlag := system.pubParam.retainFlag
  messageId := system.pubParam.messageId

def doMqttPublish (c : CtxId) (payload : List Byte) (system : System) : System :=
  system.record (.published c system.header payload)

def setQos (qos : Nat) (system : System) : System :=
  { system with pubParam := { system.pubParam with qos := qos } }

/-- The last parameters are set, with a new `message_id`. -/
def accept (c : CtxId) (topicSize retain : Nat) (system : System) : System :=
  let accepted := { system with pubParam :=
    { system.pubParam with
      topicSize := topicSize
      dupFlag := false
      retainFlag := retain
      messageId := nextMessageId system.pubParam.messageId } }
  accepted.record (.accepted c accepted.header)

def setDatamode (c : CtxId) (inMode : Bool) (system : System) : System :=
  { system with datamode := fun d => if d = c then inMode else system.datamode d }

/-- `handle_at_mqtt_publish` of a set command.  Data mode is entered when
`enter_datamode` returns zero. -/
def handleAtMqttPublish (c : CtxId) (params : PublishParams) (enterDatamode publish : Int)
    (system : System) : Int × System :=
  if system.connected = false then
    (-enotconn, system)
  else
    let (topic, memory) := utilStringGet mqttMaxTopicLen params.topic system.pubTopic
    let system := { system with pubTopic := memory }
    match topic with
    | .error err => (err, system)
    | .ok topicSize =>
      match readPublish params with
      | .error err => (err, system)
      | .ok (message, qos, retain) =>
        if 2 < qos then
          (-einval, system)
        else if 1 < retain then
          (-einval, system.setQos qos)
        else
          let accepted := (system.setQos qos).accept c topicSize retain
          if message = [] then
            (enterDatamode, if enterDatamode = 0 then accepted.setDatamode c true else accepted)
          else
            (publish, accepted.doMqttPublish c message)

/-- `mqtt_datamode_callback` with `DATAMODE_SEND`.  A flush with more to come
ends the session. -/
def datamodeSend (c : CtxId) (data : List Byte) (more : Bool) (publish : Int) (system : System) :
    Int × System :=
  if more then
    (-eoverflow, system.setDatamode c false)
  else
    (if publish < 0 then publish else data.length, system.doMqttPublish c data)

/-- `do_mqtt_subscribe`. -/
def doMqttSubscribe (op : SubOp) (topic : List Byte) (qos : Nat) (answer : Int)
    (system : System) : Int × System :=
  let counted := { system with subMessageId := nextMessageId system.subMessageId }
  if 2 < qos then
    (-einval, counted)
  else
    (answer, counted.record (.subscribed op topic qos counted.subMessageId))

/-- `handle_at_mqtt_subscribe` and `handle_at_mqtt_unsubscribe`, which has no
QoS.  The topic is copied to the stack. -/
def handleAtMqttSubscribe (op : SubOp) (paramCount : Nat) (topic : Except Int (List Byte))
    (qos : Except Int Nat) (answer : Int) (system : System) : Int × System :=
  if system.connected = false then
    (-enotconn, system)
  else if paramCount ≠ (if op = .sub then 3 else 2) then
    (-einval, system)
  else
    let (size, memory) := utilStringGet mqttMaxTopicLen topic fun _ => 0
    match size, if op = .sub then qos else .ok 0 with
    | .error err, _ => (err, system)
    | .ok _, .error err => (err, system)
    | .ok size, .ok qos => system.doMqttSubscribe op (textOf memory size) qos answer

end System

inductive Action where
  /-- `do_mqtt_connect`, an event or the end of the thread. -/
  | setConnected (connected : Bool)
  | publish (c : CtxId) (params : PublishParams) (enterDatamode publish : Int)
  | datamodeSend (c : CtxId) (data : List Byte) (more : Bool) (publish : Int)
  /-- Data mode ends; `DATAMODE_EXIT` only logs. -/
  | datamodeExit (c : CtxId)
  | subscribe (op : SubOp) (paramCount : Nat) (topic : Except Int (List Byte))
      (qos : Except Int Nat) (answer : Int)

/-- A context in data mode sends no command. -/
def step (action : Action) (system : System) : Option System :=
  match action with
  | .setConnected connected => some { system with connected := connected }
  | .publish c params enterDatamode publish =>
    if system.datamode c then
      none
    else
      some (system.handleAtMqttPublish c params enterDatamode publish).2
  | .datamodeSend c data more publish =>
    if system.datamode c then some (system.datamodeSend c data more publish).2 else none
  | .datamodeExit c => some (system.setDatamode c false)
  | .subscribe op paramCount topic qos answer =>
    some (system.handleAtMqttSubscribe op paramCount topic qos answer).2

abbrev MqttReachable (allowed : System → Action → Prop) : System → Prop :=
  Reachable step allowed (· = initial)

end SerialModem.Mqtt
