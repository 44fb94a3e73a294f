import SerialModem.Dfu.HostScript

/-!
# The script and the device

The script and the device are connected by a line in each direction, on which
everything arrives in order.  When either side acts, when the time of a wait is
over and how much has arrived at a read is left open.
-/

namespace SerialModem.Dfu

open Library AtHost

structure System where
  host : Host
  device : Device
  toDevice : List Byte
  toHost : Text
  /-- How much the DFU target had accepted when the first attempt for the
  current chunk began; no code reads it. -/
  acceptedBefore : Nat

inductive Action where
  | proceed
  | read (count : Nat)
  | timeout
  | receive
  | inactivity
  | sendUrcs
  deriving DecidableEq

def System.image (script : Script) (system : System) : List Byte :=
  system.device.accepted script.type.target

def Host.isFirst (script : Script) (host : Host) : Bool :=
  host.phase == .writing && host.attempts == script.retries

variable (cfg : Config) (env : Environment) (script : Script)

def step (action : Action) (system : System) : Option System :=
  match action with
  | .proceed =>
    (system.host.proceed script).map fun (host, sent) =>
      { system with
        host := host
        toDevice := system.toDevice ++ sent
        acceptedBefore :=
          if system.host.isFirst script then (system.image script).length
          else system.acceptedBefore }
  | .read count =>
    if 0 < count ∧ count ≤ system.toHost.length then
      let buffer := system.host.buffer ++ system.toHost.take count
      ({ system.host with buffer := buffer }.look script).map fun (host, sent) =>
          { system with
            host := host
            toDevice := system.toDevice ++ sent
            toHost := system.toHost.drop count }
    else
      none
  | .timeout =>
    system.host.timeout.map fun host => { system with host := host }
  | .receive =>
    match system.toDevice with
    | [] => none
    | byte :: rest =>
      let (device, sent) := system.device.receive cfg env byte
      some { system with
        device := device
        toDevice := rest
        toHost := system.toHost ++ sent }
  | .inactivity =>
    if system.device.inDatamode then
      some { system with device := system.device.rawSendScheduled env }
    else
      none
  | .sendUrcs =>
    if system.device.inDatamode then
      none
    else
      let (device, sent) := system.device.sendUrcs
      some { system with
        device := device
        toHost := system.toHost ++ sent }

structure Device.Ready (device : Device) : Prop where
  mode : device.inDatamode = false
  noLine : device.command.atCmdLen = 0

/-- The script starts while the device waits for a command.  `#XDFU` lines from
before may be on the line or held back by the device. -/
structure Initial (system : System) : Prop where
  host : system.host = Host.init script
  ready : system.device.Ready
  fits : system.device.command.Fits
  toDevice : system.toDevice = []
  toHost : ∃ lines : List XdfuLine, system.toHost = lines.flatMap XdfuLine.text

/-- A host that was told of success has its file in the image. -/
def Agrees (system : System) : Prop :=
  system.host.phase = .returned true → system.image script = script.file

def Device.HoldsNoSuccess (device : Device) : Prop :=
  ∀ line ∈ device.urcBuf, line.failed = true

structure Resumable (system : System) : Prop where
  ready : system.device.Ready
  toDevice : system.toDevice = []
  nothing : (system.image script).length = system.acceptedBefore

def Resumes (system : System) (action : Action) : Prop :=
  action = .proceed → system.host.phase = .writing →
    system.host.isFirst script = false → 0 < system.host.attempts →
    Resumable script system

end SerialModem.Dfu
