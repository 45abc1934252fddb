import MeterGateway.Registry
import MeterGateway.Schedule
import MeterGateway.Session

/-!
A listening port: its devices, the connections to it, the polls and remote calls under way, and the
events it has not come to yet.  The devices of a token are polled, and called, over the connection
that came last among those that authenticated with the token and are still open.
-/

namespace MeterGateway

inductive Event
  | notice : (session : Nat) → Notice → Event
  | pollDue : (device : String) → PollKind → Event
  | pollCompleted : (device : String) → PollKind → Report → Event

structure Client where
  session : Nat
  token : Option String := none
  deriving DecidableEq

structure PointRead where
  point : PointConfig
  ticket : Nat
  outcome : Option Outcome := none
  deriving DecidableEq

/-- A poll under way goes on with the device as it was when the poll began. -/
structure Poll where
  device : DeviceConfig
  kind : PollKind
  uplink : Uplink
  reads : List PointRead

structure Exchange where
  call : Nat
  request : RpcRequest
  wire : WireRequest
  ticket : Nat
  outcome : Option Outcome := none

namespace PointRead

def settle (settled : List (Nat × Outcome)) (r : PointRead) : PointRead :=
  { r with outcome := r.outcome <|> settled.lookup r.ticket }

end PointRead

namespace Poll

def settle (settled : List (Nat × Outcome)) (p : Poll) : Poll :=
  { p with reads := p.reads.map (·.settle settled) }

def isComplete (p : Poll) : Bool := p.reads.all fun r => r.outcome.isSome

def isOver (p : Poll) (device : String) (kind : PollKind) : Bool :=
  p.device.deviceName = device && p.kind = kind && p.isComplete

/-- What the poll has brought, in the order of its points.  A point that could not be read or
converted brings nothing. -/
def report (p : Poll) : Report :=
  p.reads.foldl (fun report r =>
    match r.outcome with
    | some (.resolved response) =>
      match (p.uplink p.device p.kind r.point response).result with
      | .ok more => report.append more
      | .error _ => report
    | _ => report) { deviceName := p.device.deviceName, deviceType := p.device.deviceType }

end Poll

namespace Exchange

def settle (settled : List (Nat × Outcome)) (e : Exchange) : Exchange :=
  { e with outcome := e.outcome <|> settled.lookup e.ticket }

def isOver (e : Exchange) (call : Nat) : Bool := e.call = call && e.outcome.isSome

def reply? (e : Exchange) : Option RpcReply :=
  e.outcome.map fun
    | .resolved response => .success e.request (e.wire.acknowledgedBy response)
    | other => .failure e.request other.describe

end Exchange

structure Port where
  method : FrameMethod
  timeout : Nat
  registry : Registry
  running : Bool := true
  schedule : Schedule := {}
  clients : List Client := []
  polling : List String := []
  inbox : List Event := []
  sessions : List Session := []
  polls : List Poll := []
  exchanges : List Exchange := []
  nextSession : Nat := 0
  nextTicket : Nat := 0

namespace Port

def session? (p : Port) (id : Nat) : Option Session := p.sessions.find? (·.id = id)

def isOpen (p : Port) (id : Nat) : Bool :=
  match p.session? id with
  | some s => !s.hasEnded
  | none => false

def putSession (p : Port) (s : Session) : Port :=
  { p with sessions := p.sessions.map fun other => if other.id = s.id then s else other }

def activeSession? (p : Port) (token : String) : Option Nat :=
  (p.clients.reverse.find? fun c => c.token = some token && p.isOpen c.session).map Client.session

def notify (p : Port) (e : Event) : Port := if p.running then { p with inbox := p.inbox ++ [e] } else p

def tell (p : Port) (session : Nat) (accepted : Bool) : Port :=
  match p.session? session with
  | some s => p.putSession (s.tell accepted)
  | none => p

/-- Takes in what a session has to say.  Where nobody is left to judge a token it is refused. -/
def hear (p : Port) (session : Nat) (notice : Notice) : Port :=
  match p.running, notice with
  | false, .authenticate _ => p.tell session false
  | _, _ => p.notify (.notice session notice)

def settle (p : Port) (settled : List (Nat × Outcome)) : Port :=
  { p with
    polls := p.polls.map (·.settle settled)
    exchanges := p.exchanges.map (·.settle settled) }

def pointRequests (method : FrameMethod) (device : DeviceConfig) (kind : PollKind) :
    List (PointConfig × WireRequest) :=
  (device.points kind).filterMap fun point =>
    match WireRequest.read method device point with
    | .ok request => some (point, request)
    | .error _ => none

/-- The session and the request for a remote call, or what is wrong with the call; the first thing
wrong decides. -/
def prepare (p : Port) (request : RpcRequest) : Except GatewayError (Nat × WireRequest) :=
  match p.registry.get? request.device with
  | none => .error (.deviceNotFound request.device)
  | some record =>
    match p.activeSession? record.token with
    | none => .error (.noActiveConnection request.device)
    | some session =>
      match record.config.rpcCommand? request.method with
      | none => .error (.unknownMethod request.method)
      | some command =>
        match (record.downlink command request.params).result with
        | .error e => .error (.converter e)
        | .ok payload => (WireRequest.write p.method record.config command payload).map (session, ·)

/-! ### Jobs -/

def cancelDevices (p : Port) (names : List String) : Port :=
  { p with schedule := names.foldl Schedule.cancelDevice p.schedule }

def startPolls (schedule : Schedule) (device : DeviceConfig) (now : Nat) : Schedule :=
  PollKind.all.foldl (fun schedule kind =>
    match device.pollPeriod kind with
    | some period => schedule.start device.deviceName kind period now
    | none => schedule) schedule

def reschedule (p : Port) (token : String) (now : Nat) : Port :=
  let p := p.cancelDevices (p.registry.namesWithToken token)
  if (p.activeSession? token).isSome then
    { p with
      schedule := (p.registry.withToken token).foldl
        (fun schedule record => startPolls schedule record.config now) p.schedule }
  else p

/-! ### Devices -/

def addDevices (p : Port) (config : ListenConfig) (h : HeadEnd) (now : Nat) :
    Except GatewayError (Port × HeadEnd) := do
  let installed ← p.registry.addDevices config h
  return ({ p with registry := installed.registry }.reschedule config.accessToken now, installed.headEnd)

/-- Puts the devices of a connector in place of those it had.  The jobs of the token's devices are
given up. -/
def updateDevices (p : Port) (config : ListenConfig) (h : HeadEnd) (now : Nat) :
    Except GatewayError (Port × HeadEnd) := do
  let stale := p.registry.namesWithToken config.accessToken
  let installed ← p.registry.updateDevices config h
  let p := { p with registry := installed.registry }.cancelDevices stale
  return (p.reschedule config.accessToken now, installed.headEnd)

def removeDevices (p : Port) (config : ListenConfig) (h : HeadEnd) : Port × HeadEnd :=
  let installed := p.registry.removeDevices config h
  ({ p with registry := installed.registry }.cancelDevices installed.names, installed.headEnd)

/-! ### Connections -/

def authenticate (p : Port) (session : Nat) (token : String) (now : Nat) : Port :=
  if p.registry.isKnownToken token && p.clients.any (·.session = session) then
    let clients := p.clients.map fun c => if c.session = session then { c with token := some token } else c
    ({ p with clients }.reschedule token now).tell session true
  else p.tell session false

/-- The polls of a connection that is gone go on over another one of its token. -/
def disconnect (p : Port) (session : Nat) (now : Nat) : Port :=
  match p.clients.find? (·.session = session) with
  | none => p
  | some client =>
    let p := { p with clients := p.clients.filter (·.session ≠ session) }
    match client.token with
    | some token => p.reschedule token now
    | none => p

def stop (p : Port) : Port :=
  let shut (s : Session) : Session := (s.tell false).post .close |>.session
  { p with
    running := false
    schedule := p.schedule.cancelAll
    clients := []
    inbox := []
    sessions := p.sessions.map shut }

end Port

end MeterGateway
