import MeterGateway.Site

/-!
The listen service.  Connectors that listen on the same port share it: the first of them binds it
and the last one gives it up.
-/

namespace MeterGateway

/-- A port that is listened on, with the number of connectors that hold it.  The serial number tells
it apart from others that were bound to the same number before. -/
structure Binding where
  serial : Nat
  number : Nat
  port : Port
  references : Nat := 1

/-- A port that was given up is kept while its connections close. -/
structure Service where
  timeout : Nat
  converters : Converters
  headEnd : HeadEnd := {}
  running : Bool := true
  bindings : List Binding := []
  retired : List Binding := []
  nextSerial : Nat := 0

namespace Service

def binding? (s : Service) (number : Nat) : Option Binding := s.bindings.find? (·.number = number)

def isListening (s : Service) (number : Nat) : Bool := (s.binding? number).isSome

def keepsNumber? (s : Service) (number : Nat) : Option Bool := (s.binding? number).map (·.number ≠ 0)

def putBinding (s : Service) (b : Binding) : Service :=
  { s with bindings := s.bindings.map fun other => if other.number = b.number then b else other }

/-- Stops a port.  Its devices stay in the inventory. -/
def retire (s : Service) (b : Binding) : Service :=
  { s with
    bindings := s.bindings.filter (·.number ≠ b.number)
    retired := s.retired ++ [{ b with port := b.port.stop }] }

def bind (s : Service) (method : FrameMethod) (config : ListenConfig) (free : Bool) (now : Nat) :
    Except GatewayError Unit × Service :=
  if !free then (.error .io, s)
  else
    let port : Port := { method, timeout := s.timeout, registry := { converters := s.converters } }
    match port.addDevices config s.headEnd now with
    | .error e => (.error e, s)
    | .ok (port, headEnd) =>
      let binding : Binding := { serial := s.nextSerial, number := config.port, port }
      (.ok (), { s with headEnd, bindings := s.bindings ++ [binding], nextSerial := s.nextSerial + 1 })

def join (s : Service) (b : Binding) (method : FrameMethod) (config : ListenConfig) (now : Nat) :
    Except GatewayError Unit × Service :=
  if b.port.method ≠ method then (.error (.config (.methodClash b.number b.port.method method)), s)
  else
    match b.port.updateDevices config s.headEnd now with
    | .error e => (.error e, s)
    | .ok (port, headEnd) =>
      (.ok (), { s with headEnd }.putBinding { b with port, references := b.references + 1 })

/-- Opens a connector; `free` says whether its port could be bound. -/
def addListen (s : Service) (config : ListenConfig) (free : Bool) (now : Nat) :
    Except GatewayError Unit × Service :=
  if !s.running then (.error .channelClosed, s)
  else
    match config.frameMethod with
    | .error e => (.error e, s)
    | .ok method =>
      match s.binding? config.port with
      | some b => s.join b method config now
      | none => s.bind method config free now

def removeListen (s : Service) (number : Nat) (config : ListenConfig) : Except GatewayError Unit × Service :=
  if !s.running then (.error .channelClosed, s)
  else
    match s.binding? number with
    | none => (.error (.noListener number), s)
    | some b =>
      let (port, headEnd) := b.port.removeDevices config s.headEnd
      let b := { b with port, references := b.references - 1 }
      let s := { s with headEnd }
      (.ok (), if b.references = 0 then s.retire b else s.putBinding b)

def retireAll (s : Service) : Service := s.bindings.foldl retire s

def clear (s : Service) : Except GatewayError Unit × Service :=
  if !s.running then (.error .channelClosed, s) else (.ok (), s.retireAll)

def shutDown (s : Service) : Except GatewayError Unit × Service :=
  if !s.running then (.error .channelClosed, s) else (.ok (), { s.retireAll with running := false })

def site (s : Service) (b : Binding) : Site := { port := b.port, headEnd := s.headEnd }

def ports (s : Service) : List Binding := s.bindings ++ s.retired

def act (s : Service) (serial now : Nat) (a : Action) : Service × Journal :=
  match s.ports.find? (·.serial = serial) with
  | none => (s, {})
  | some b =>
    let site := (s.site b).act now a
    let replace (other : Binding) : Binding :=
      if other.serial = serial then { other with port := site.port } else other
    ({ s with
        headEnd := site.headEnd
        bindings := s.bindings.map replace
        retired := s.retired.map replace }, site.journal)

def listener (s : Service) (number : Nat) : Except GatewayError Binding :=
  if !s.running then .error .channelClosed
  else
    match s.binding? number with
    | some b => .ok b
    | none => .error (.noListener number)

end Service

end MeterGateway
