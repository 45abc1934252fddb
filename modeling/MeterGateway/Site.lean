import MeterGateway.Port

/-!
A port at work before the head end.  What happens at a port is a sequence of actions, each of them
done as a whole: something from outside, a step of one session, or the next event of the port.
Actions may come in any order that the state allows, and one that it does not allow changes nothing.
-/

namespace MeterGateway

structure Journal where
  sent : List (Nat × Bytes) := []
  closed : List Nat := []
  answers : List (Nat × RpcReply) := []
  metrics : List Metric := []

structure Site where
  port : Port
  headEnd : HeadEnd
  journal : Journal := {}

inductive Action
  | accept : Action
  | arrive : (session : Nat) → Arrival → Action
  | read : (session : Nat) → Action
  | obey : (session : Nat) → Action
  | heed : (session : Nat) → Action
  | expire : (session : Nat) → Action
  | fire : (task : Nat) → Action
  | handle : Action
  | completePoll : (device : String) → PollKind → Action
  | completeCall : (number : Nat) → Action
  | call : (number : Nat) → RpcRequest → Action
  | addDevices : ListenConfig → Action
  | updateDevices : ListenConfig → Action
  | removeDevices : ListenConfig → Action
  | stop : Action

namespace Journal

def count (j : Journal) (metrics : List Metric) : Journal := { j with metrics := j.metrics ++ metrics }

def enter (j : Journal) (t : Session.Turn) : Journal :=
  { j.count t.metrics with
    sent := j.sent ++ (t.sent.map fun frame => (t.session.id, frame)).toList
    closed := if t.notice = some .disconnected then j.closed ++ [t.session.id] else j.closed }

def answer (j : Journal) (call : Nat) (reply : RpcReply) : Journal :=
  { j with answers := j.answers ++ [(call, reply)] }

end Journal

namespace Site

def count (s : Site) (metric : Metric) : Site := { s with journal := s.journal.count [metric] }

def take (s : Site) (t : Session.Turn) : Site :=
  let port := (s.port.putSession t.session).settle t.settled
  let port :=
    match t.notice with
    | some notice => port.hear t.session.id notice
    | none => port
  { s with port, journal := s.journal.enter t }

def withSession (s : Site) (id : Nat) (turn : Session → Session.Turn) : Site :=
  match s.port.session? id with
  | some session => s.take (turn session)
  | none => s

def accept (s : Site) : Site :=
  if s.port.running then
    let t := Session.start s.port.nextSession s.port.method s.port.timeout
    let port := { s.port with
      sessions := s.port.sessions ++ [t.session]
      nextSession := s.port.nextSession + 1 }
    { s with port }.take t
  else s

def post (s : Site) (session : Nat) : List WireRequest → Site
  | [] => s
  | request :: rest =>
    let ticket := s.port.nextTicket
    let s := { s with port := { s.port with nextTicket := ticket + 1 } }
    (s.withSession session (·.post (.execute ticket request))).post session rest

/-! ### Polls -/

/-- Begins a poll, unless the last one of its kind is still under way. -/
def poll (s : Site) (device : String) (kind : PollKind) : Site :=
  if jobId device kind ∈ s.port.polling then s
  else
    match s.port.registry.get? device with
    | none => { s with port := { s.port with schedule := s.port.schedule.cancel device kind } }
    | some record =>
      match s.port.activeSession? record.token with
      | none => s.count .pollsSkipped
      | some session =>
        let requests := Port.pointRequests s.port.method record.config kind
        if requests.isEmpty then s
        else
          let reads := requests.zipIdx.map fun ((point, _), i) =>
            ({ point, ticket := s.port.nextTicket + i } : PointRead)
          let port := { s.port with
            polling := s.port.polling ++ [jobId device kind]
            polls := s.port.polls ++ [{ device := record.config, kind, uplink := record.uplink, reads }] }
          { s with port }.post session (requests.map Prod.snd)

/-- Ends a poll that has all its outcomes.  Polls end in any order. -/
def completePoll (s : Site) (device : String) (kind : PollKind) : Site :=
  match s.port.polls.find? (·.isOver device kind) with
  | none => s
  | some poll =>
    let port := { s.port with polls := s.port.polls.eraseP (·.isOver device kind) }
    { s with port := port.notify (.pollCompleted device kind poll.report) }

/-- Forwards what is new in the report of a poll.  The device is the one that has the name now. -/
def forward (s : Site) (device : String) (kind : PollKind) (report : Report) (now : Nat) : Site :=
  let port := { s.port with polling := s.port.polling.filter (· ≠ jobId device kind) }
  match port.registry.get? device with
  | none => { s with port }
  | some record =>
    let (news, record) := record.filterChanges report now
    let port := { port with registry := port.registry.update record }
    if news.isEmpty then { s with port }
    else { s with port, headEnd := s.headEnd.store record.connector news }.count .payloadsForwarded

/-! ### Remote calls -/

def reply (s : Site) (call : Nat) (reply : RpcReply) : Site :=
  { s with
    headEnd := s.headEnd.reply reply
    journal := (s.journal.count [if reply.isError then .rpcFailure else .rpcSuccess]).answer call reply }

def call (s : Site) (number : Nat) (request : RpcRequest) : Site :=
  match s.port.prepare request with
  | .error e => s.reply number (.failure request e.message)
  | .ok (session, wire) =>
    let exchange : Exchange := { call := number, request, wire, ticket := s.port.nextTicket }
    { s with port := { s.port with exchanges := s.port.exchanges ++ [exchange] } }.post session [wire]

/-- Ends a call that has its outcome.  Calls end in any order. -/
def completeCall (s : Site) (number : Nat) : Site :=
  match s.port.exchanges.find? (·.isOver number) with
  | none => s
  | some exchange =>
    let s := { s with port := { s.port with exchanges := s.port.exchanges.eraseP (·.isOver number) } }
    match exchange.reply? with
    | some reply => s.reply number reply
    | none => s

/-! ### Events -/

def respond (s : Site) (now : Nat) : Event → Site
  | .notice session .connected =>
    { s with port := { s.port with clients := s.port.clients ++ [{ session }] } }
  | .notice session (.authenticate token) => { s with port := s.port.authenticate session token now }
  | .notice session .disconnected => { s with port := s.port.disconnect session now }
  | .pollDue device kind => s.poll device kind
  | .pollCompleted device kind report => s.forward device kind report now

def handle (s : Site) (now : Nat) : Site :=
  match s.port.inbox with
  | [] => s
  | e :: inbox => { s with port := { s.port with inbox } }.respond now e

def fire (s : Site) (task now : Nat) : Site :=
  match s.port.schedule.tasks.find? fun t => t.key = task && t.due ≤ now with
  | none => s
  | some t =>
    let port := { s.port with schedule := s.port.schedule.rearm task now }
    { s with port := port.notify (.pollDue t.device t.kind) }

def install (s : Site) (result : Except GatewayError (Port × HeadEnd)) : Site :=
  match result with
  | .ok (port, headEnd) => { s with port, headEnd }
  | .error _ => s

def whileRunning (s : Site) (after : Site) : Site := if s.port.running then after else s

def act (s : Site) (now : Nat) : Action → Site
  | .accept => s.accept
  | .arrive session a => s.withSession session fun t => { session := t.arrive a }
  | .read session => s.withSession session (·.read now)
  | .obey session => s.withSession session (·.obey now)
  | .heed session => s.withSession session (·.heed)
  | .expire session => s.withSession session (·.expire now)
  | .fire task => s.fire task now
  | .handle => s.handle now
  | .completePoll device kind => s.completePoll device kind
  | .completeCall number => s.completeCall number
  | .call number request => s.whileRunning (s.call number request)
  | .addDevices config => s.whileRunning (s.install (s.port.addDevices config s.headEnd now))
  | .updateDevices config => s.whileRunning (s.install (s.port.updateDevices config s.headEnd now))
  | .removeDevices config =>
    s.whileRunning (s.install (.ok (s.port.removeDevices config s.headEnd)))
  | .stop => { s with port := s.port.stop }

def run (s : Site) (actions : List (Nat × Action)) : Site :=
  actions.foldl (fun s (now, a) => s.act now a) s

/-! ### What there is to do -/

def ready? (s : Site) : Option Action :=
  if !s.port.inbox.isEmpty then some .handle
  else
    ((s.port.polls.find? (·.isComplete)).map fun p => .completePoll p.device.deviceName p.kind) <|>
    ((s.port.exchanges.find? (·.outcome.isSome)).map fun e => .completeCall e.call) <|>
    s.port.sessions.findSome? fun session =>
      if session.canHeed then some (.heed session.id)
      else if session.canRead then some (.read session.id)
      else if session.canObey then some (.obey session.id)
      else none

def earlier (a b : Nat × Action) : Nat × Action := if b.1 < a.1 then b else a

def timers (s : Site) : List (Nat × Action) :=
  (s.port.schedule.tasks.map fun t => (t.due, .fire t.key)) ++
    s.port.sessions.filterMap fun session =>
      session.deadline.map fun time => (time, .expire session.id)

def due? (s : Site) (now : Nat) : Option (Nat × Action) :=
  match s.timers.filter (·.1 ≤ now) with
  | [] => none
  | t :: rest => some (rest.foldl earlier t)

end Site

end MeterGateway
