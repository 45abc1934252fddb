import MeterGateway.Connector

/-!
The gateway among its devices: its service, the connections as the devices see them, and the clock.
Whatever can be done at once is done before anything that waits for its time, and of what is due the
earliest goes first.  The clock moves in strides, and what falls due within a stride is done at its
end.
-/

namespace MeterGateway

structure Link where
  label : String
  serial : Nat
  session : Nat
  isHeld : Bool := true
  isSevered : Bool := false
  deriving DecidableEq

structure Answer where
  call : Nat
  id : Nat
  result : Except GatewayError RpcReply

structure Sightings where
  received : List (String × Bytes) := []
  closed : List String := []
  answers : List Answer := []
  metrics : List Metric := []

structure Network where
  service : Service
  clock : Nat := 0
  links : List Link := []
  occupied : List Nat := []
  nextCall : Nat := 0
  seen : Sightings := {}

namespace Network

def link? (n : Network) (label : String) : Option Link := n.links.find? (·.label = label)

def linkOf? (n : Network) (serial session : Nat) : Option Link :=
  n.links.find? fun l => l.serial = serial && l.session = session

def putLink (n : Network) (link : Link) : Network :=
  { n with links := n.links.map fun l => if l.label = link.label then link else l }

def receive (n : Network) (serial : Nat) (sent : Nat × Bytes) : Network :=
  match n.linkOf? serial sent.1 with
  | some link =>
    if link.isHeld then { n with seen.received := n.seen.received ++ [(link.label, sent.2)] } else n
  | none => n

def sever (n : Network) (serial session : Nat) : Network :=
  match n.linkOf? serial session with
  | some link =>
    let n := n.putLink { link with isSevered := true }
    if link.isHeld then { n with seen.closed := n.seen.closed ++ [link.label] } else n
  | none => n

def answer (n : Network) (a : Answer) : Network := { n with seen.answers := n.seen.answers ++ [a] }

def reveal (n : Network) (serial : Nat) (j : Journal) : Network :=
  let n := j.sent.foldl (·.receive serial ·) n
  let n := j.closed.foldl (·.sever serial ·) n
  let n := j.answers.foldl (fun n (call, reply) => n.answer ⟨call, reply.id, .ok reply⟩) n
  { n with seen.metrics := n.seen.metrics ++ j.metrics }

def act (n : Network) (serial : Nat) (a : Action) : Network :=
  let (service, journal) := n.service.act serial n.clock a
  { n with service }.reveal serial journal

/-! ### Letting things happen -/

def next? (n : Network) : Option (Nat × Action) :=
  let sites := n.service.ports.map fun b => (b.serial, n.service.site b)
  match sites.findSome? fun (serial, site) => site.ready?.map (serial, ·) with
  | some a => some a
  | none =>
    let due := sites.filterMap fun (serial, site) =>
      (site.due? n.clock).map fun (time, a) => (time, serial, a)
    match due with
    | [] => none
    | t :: rest => some (rest.foldl (fun first t => if t.1 < first.1 then t else first) t).2

/-- A bound on the actions that can follow from what there is to do.  Every byte, request, event and
task leads to a few; a poll leads to as many as there are points to read. -/
def backlog (n : Network) : Nat :=
  let sum (ns : List Nat) : Nat := ns.foldr (· + ·) 0
  let arrival : Arrival → Nat
    | .bytes bytes => bytes.length + 1
    | _ => 1
  let session (s : Session) : Nat :=
    sum (s.arrivals.map arrival) + s.framer.buffer.length + s.commands.length + s.line.outstanding.length + 1
  let port (p : Port) : Nat :=
    sum (p.sessions.map session) + p.inbox.length + p.schedule.tasks.length + p.polls.length +
      p.exchanges.length + 1
  let points (p : Port) : Nat :=
    sum (p.registry.devices.map fun d => d.config.attributes.length + d.config.timeseries.length)
  let ports := n.service.ports.map Binding.port
  8 * sum (ports.map port) * (sum (ports.map points) + 2)

def settle (n : Network) : Network := go n.backlog n
where
  go : Nat → Network → Network
    | 0, n => n
    | fuel + 1, n =>
      match n.next? with
      | some (serial, a) => go fuel (n.act serial a)
      | none => n

def stride : Nat := 10

def pass (n : Network) (ms : Nat) : Network :=
  if ms = 0 then n
  else
    let step := min ms stride
    { n with clock := n.clock + step }.settle.pass (ms - step)
termination_by ms
decreasing_by simp only [stride]; omega

/-! ### Devices -/

def held? (n : Network) (label : String) : Option Link :=
  match n.link? label with
  | some link => if link.isHeld then some link else none
  | none => none

def arrive (n : Network) (link : Link) (a : Arrival) : Network :=
  if link.isSevered then n else n.act link.serial (.arrive link.session a)

def send (n : Network) (label : String) (bytes : Bytes) : Option Network :=
  (n.held? label).map fun link => n.arrive link (.bytes bytes)

def leave (n : Network) (label : String) (a : Arrival) : Option Network :=
  (n.held? label).map fun link => (n.putLink { link with isHeld := false }).arrive link a

def hangUp (n : Network) (label : String) : Option Network := n.leave label .ended

def reset (n : Network) (label : String) : Option Network := n.leave label .reset

/-- Opens a connection to a port, if there is a listener.  A connection that the device held under
the same label is given up for it. -/
def connect (n : Network) (number : Nat) (label : String) : Option Network :=
  (n.service.binding? number).map fun b =>
    let n := (n.hangUp label).getD n
    let link : Link := { label, serial := b.serial, session := b.port.nextSession }
    let n := n.act b.serial .accept
    { n with links := link :: n.links.filter (·.label ≠ label) }

/-! ### The service -/

/-- Port zero stands for any port that is free. -/
def isFree (n : Network) (number : Nat) : Bool := number = 0 || number ∉ n.occupied

def occupy (n : Network) (number : Nat) : Network := { n with occupied := number :: n.occupied }

def vacate (n : Network) : Network := { n with occupied := [] }

def command (n : Network) (result : Except GatewayError Unit × Service) : Except GatewayError Unit × Network :=
  (result.1, { n with service := result.2 })

def addListen (n : Network) (config : ListenConfig) : Except GatewayError Unit × Network :=
  n.command (n.service.addListen config (n.isFree config.port) n.clock)

def removeListen (n : Network) (number : Nat) (config : ListenConfig) : Except GatewayError Unit × Network :=
  n.command (n.service.removeListen number config)

def clear (n : Network) : Except GatewayError Unit × Network := n.command n.service.clear

def shutDown (n : Network) : Except GatewayError Unit × Network := n.command n.service.shutDown

def openConnector (n : Network) (c : Connector) : Except GatewayError Unit × Network :=
  n.command (c.openOn n.service (n.isFree c.port) n.clock)

def closeConnector (n : Network) (c : Connector) : Except GatewayError Unit × Network :=
  n.command (c.closeOn n.service)

def call (n : Network) (number : Nat) (request : RpcRequest) : Nat × Network :=
  let n' := { n with nextCall := n.nextCall + 1 }
  (n.nextCall,
    match n.service.listener number with
    | .ok b => n'.act b.serial (.call n.nextCall request)
    | .error e => n'.answer ⟨n.nextCall, request.id, .error e⟩)

/-! ### Looking at it -/

structure Observation where
  received : List (String × Bytes)
  closed : List String
  stored : List (String × Report)
  replies : List RpcReply
  answers : List Answer
  inventory : Option (List InventoryItem)
  metrics : List (Metric × Nat)

def gather (received : List (String × Bytes)) : List (String × Bytes) :=
  (received.map Prod.fst).eraseDups.map fun label =>
    (label, (received.filter (·.1 = label)).flatMap Prod.snd)

def fresh (n : Network) : Network := { n with seen := {} }

def observe (n earlier : Network) : Observation where
  received := gather n.seen.received
  closed := n.seen.closed.eraseDups.mergeSort fun a b => !(b < a)
  stored := n.service.headEnd.stored.drop earlier.service.headEnd.stored.length
  replies := (n.service.headEnd.replies.drop earlier.service.headEnd.replies.length).mergeSort
    fun a b => a.id ≤ b.id
  answers := n.seen.answers.mergeSort fun a b => a.id ≤ b.id
  inventory :=
    let listing := n.service.headEnd.listing
    if listing = earlier.service.headEnd.listing then none else some listing
  metrics := (Metric.all.map fun m => (m, n.seen.metrics.countP (· = m))).filter (·.2 ≠ 0)

end Network

end MeterGateway
