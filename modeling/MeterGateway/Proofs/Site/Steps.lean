import Mathlib.Data.List.Induction
import MeterGateway.Proofs.Registry.Estate
import MeterGateway.Proofs.Session.Steps
import MeterGateway.Site

/-!
The life of a port.  It begins without devices and goes on with any actions at any times, while
others do to the head end what they like.  `act_step` says once what an action can do to the port;
what holds after every course of its life is shown from there by induction on the course.
-/

namespace MeterGateway

namespace Session

def queue (c : Session) (ticket : Nat) (requests : List WireRequest) : Session :=
  { c with commands := c.commands ++
      (requests.zipIdx ticket).map fun (request, ticket) => .execute ticket request }

theorem queue_queue (c : Session) (ticket : Nat) (request : WireRequest) (rest : List WireRequest) :
    (c.queue ticket [request]).queue (ticket + 1) rest = c.queue ticket (request :: rest) := by
  simp [queue]

@[simp] theorem queue_id (c : Session) (ticket : Nat) (requests : List WireRequest) :
    (c.queue ticket requests).id = c.id := rfl

@[simp] theorem queue_hasEnded (c : Session) (ticket : Nat) (requests : List WireRequest) :
    (c.queue ticket requests).hasEnded = c.hasEnded := rfl

/-- The session after a turn.  Where nobody is left to judge its token it is refused at once. -/
def Turn.settledBy (t : Turn) (running : Bool) : Session :=
  if running then t.session
  else
    match t.notice with
    | some (.authenticate _) => t.session.tell false
    | _ => t.session

theorem Turn.settledBy_true (t : Turn) : t.settledBy true = t.session := rfl

theorem Turn.settledBy_eq (t : Turn) (running : Bool) :
    t.settledBy running = t.session ∨ t.settledBy running = t.session.tell false := by
  unfold settledBy
  split
  · exact .inl rfl
  · split
    · exact .inr rfl
    · exact .inl rfl

@[simp] theorem Turn.settledBy_id (t : Turn) (running : Bool) :
    (t.settledBy running).id = t.session.id := by
  obtain same | same := t.settledBy_eq running <;> simp [same]

theorem Turn.settledBy_token (t : Turn) (running : Bool) :
    (t.settledBy running).token = t.session.token := by
  obtain same | same := t.settledBy_eq running <;> simp [same]

def shut (c : Session) : Session := ((c.tell false).post .close).session

@[simp] theorem shut_id (c : Session) : c.shut.id = c.id := by
  unfold shut post
  split <;> simp

@[simp] theorem shut_token (c : Session) : c.shut.token = c.token := by
  unfold shut post
  split <;> simp

@[simp] theorem shut_hasEnded (c : Session) : c.shut.hasEnded = c.hasEnded := by
  rw [← c.tell_hasEnded false]
  unfold shut post
  split <;> rfl

end Session

def Action.move? : Action → Option (Nat × Session.Move)
  | arrive session a => some (session, .arrive a)
  | read session => some (session, .read)
  | obey session => some (session, .obey)
  | heed session => some (session, .heed)
  | expire session => some (session, .expire)
  | _ => none

def Client.grant (session : Nat) (token : String) (c : Client) : Client :=
  if c.session = session then { c with token := some token } else c

@[simp] theorem Client.grant_session (session : Nat) (token : String) (c : Client) :
    (c.grant session token).session = c.session := by
  unfold grant
  split <;> rfl

def Record.poll (r : Record) (kind : PollKind) (ticket : Nat) (points : List PointConfig) : Poll where
  device := r.config
  kind := kind
  uplink := r.uplink
  reads := (points.zipIdx ticket).map fun (point, ticket) => { point, ticket }

@[simp] theorem Poll.settle_nil (q : Poll) : q.settle [] = q := by
  have read : ∀ r : PointRead, r.settle [] = r := by
    intro r
    simp [PointRead.settle]
  simp [settle, read]

@[simp] theorem Exchange.settle_nil (e : Exchange) : e.settle [] = e := by
  simp [settle]

theorem Poll.isOver_iff {p : Poll} {device : String} {kind : PollKind} :
    p.isOver device kind = true ↔
      p.device.deviceName = device ∧ p.kind = kind ∧ p.isComplete = true := by
  simp [isOver, and_assoc]

theorem Exchange.isOver_iff {e : Exchange} {number : Nat} :
    e.isOver number = true ↔ e.call = number ∧ e.outcome.isSome = true := by
  simp [isOver]

namespace Port

variable {p : Port} {id : Nat} {c : Session}

@[simp] theorem settle_nil (p : Port) : p.settle [] = p := by
  simp [settle]

theorem session?_id (present : p.session? id = some c) : c.id = id := by
  simpa using List.find?_some present

theorem session?_congr {p q : Port} (same : p.sessions = q.sessions) (id : Nat) :
    p.session? id = q.session? id := by
  rw [session?, session?, same]

theorem session?_putSession (p : Port) (c : Session) (id : Nat) :
    (p.putSession c).session? id =
      if id = c.id then (p.session? id).map fun _ => c else p.session? id := by
  have ids : ∀ other : Session, (if other.id = c.id then c else other).id = other.id := by
    intro other
    split
    · rename_i same
      exact same.symm
    · rfl
  simp only [putSession, session?, List.find?_map, Function.comp_def, ids]
  cases present : p.sessions.find? (·.id = id) with
  | none => simp
  | some other =>
    have named : other.id = id := p.session?_id present
    simp only [Option.map_some, named]
    split <;> rfl

theorem session?_tell (p : Port) (session : Nat) (accepted : Bool) (id : Nat) :
    (p.tell session accepted).session? id =
      if id = session then (p.session? id).map (·.tell accepted) else p.session? id := by
  by_cases same : id = session
  · rw [if_pos same, same, tell]
    cases present : p.session? session with
    | none => exact present
    | some c =>
      simp only [session?_putSession, Session.tell_id, p.session?_id present, present, if_true,
        Option.map_some]
  · rw [if_neg same, tell]
    cases present : p.session? session with
    | none => rfl
    | some c =>
      simp only [session?_putSession, Session.tell_id, p.session?_id present, if_neg same]

theorem session?_map (p : Port) (f : Session → Session) (ids : ∀ c, (f c).id = c.id) (id : Nat) :
    ({ p with sessions := p.sessions.map f } : Port).session? id = (p.session? id).map f := by
  simp only [session?, List.find?_map, Function.comp_def, ids]

def welcome (p : Port) (c : Session) : Port := ({ p with sessions := p.sessions ++ [c] } : Port).putSession c

theorem session?_welcome (p : Port) (c : Session) (id : Nat) :
    (p.welcome c).session? id = if id = c.id then some c else p.session? id := by
  rw [welcome, session?_putSession]
  by_cases same : id = c.id
  · simp only [session?, List.find?_append, same]
    cases p.sessions.find? (·.id = c.id) <;> simp
  · simp only [session?, List.find?_append, if_neg same]
    simp [Ne.symm same]

theorem isOpen_iff : p.isOpen id = true ↔ ∃ c, p.session? id = some c ∧ c.hasEnded = false := by
  unfold isOpen
  cases p.session? id <;> simp

theorem isOpen_tell (p : Port) (session : Nat) (accepted : Bool) (id : Nat) :
    (p.tell session accepted).isOpen id = p.isOpen id := by
  rw [isOpen, isOpen, session?_tell]
  by_cases mine : id = session
  · rw [if_pos mine]
    cases p.session? id <;> simp
  · rw [if_neg mine]

theorem activeSession?_congr {q : Port} (clients : q.clients = p.clients)
    (opened : ∀ id, q.isOpen id = p.isOpen id) (token : String) :
    q.activeSession? token = p.activeSession? token := by
  simp only [activeSession?, clients, opened]

theorem activeSession?_eq_some {token : String} (active : p.activeSession? token = some id) :
    ∃ client ∈ p.clients, client.session = id ∧ client.token = some token ∧ p.isOpen id = true := by
  rw [activeSession?, Option.map_eq_some_iff] at active
  obtain ⟨client, found, rfl⟩ := active
  have mem := List.mem_of_find?_eq_some found
  have fits := List.find?_some found
  rw [Bool.and_eq_true, decide_eq_true_iff] at fits
  exact ⟨client, List.mem_reverse.mp mem, rfl, fits⟩

theorem activeSession?_isSome {token : String} : (p.activeSession? token).isSome = true ↔
    ∃ client ∈ p.clients, client.token = some token ∧ p.isOpen client.session = true := by
  simp [activeSession?]

theorem prepare_ok {request : RpcRequest} {wire : WireRequest} (ok : p.prepare request = .ok (id, wire)) :
    ∃ r command payload, p.registry.get? request.device = some r ∧
      p.activeSession? r.token = some id ∧ r.config.rpcCommand? request.method = some command ∧
      (r.downlink command request.params).result = .ok payload ∧
      WireRequest.write p.method r.config command payload = .ok wire := by
  unfold prepare at ok
  split at ok
  case h_1 => cases ok
  case h_2 r found =>
    split at ok
    case h_1 => cases ok
    case h_2 active =>
      split at ok
      case h_1 => cases ok
      case h_2 command configured =>
        split at ok
        case h_1 => cases ok
        case h_2 payload converted =>
          cases written : WireRequest.write p.method r.config command payload with
          | error e =>
            rw [written] at ok
            cases ok
          | ok request =>
            rw [written] at ok
            cases ok
            exact ⟨r, command, payload, found, active, configured, converted, written⟩

theorem notify_eq (p : Port) (e : Event) :
    p.notify e = { p with inbox := p.inbox ++ if p.running then [e] else [] } := by
  unfold notify
  split
  · rfl
  · rw [List.append_nil]

theorem tell_eq {p q : Port} (same : q.sessions = p.sessions) (session : Nat) (accepted : Bool) :
    q.tell session accepted = { q with sessions := (p.tell session accepted).sessions } := by
  unfold tell session?
  rw [same]
  split
  · simp only [putSession, same]
  · simp only [← same]

theorem reschedule_eq (p : Port) (token : String) (now : Nat) :
    p.reschedule token now = { p with schedule := (p.reschedule token now).schedule } := by
  unfold reschedule
  simp only
  split <;> rfl

theorem authenticate_accepted {token : String} (known : p.registry.isKnownToken token = true)
    (client : p.clients.any (·.session = id) = true) (now : Nat) :
    p.authenticate id token now = { p with
      clients := p.clients.map (Client.grant id token)
      schedule := ({ p with clients := p.clients.map (Client.grant id token) }.reschedule
        token now).schedule
      sessions := (p.tell id true).sessions } := by
  let admitted : Port := { p with clients := p.clients.map (Client.grant id token) }
  have verdict : p.authenticate id token now = (admitted.reschedule token now).tell id true := by
    rw [authenticate, known, client, Bool.and_self, if_pos rfl]
    rfl
  have same : (admitted.reschedule token now).sessions = p.sessions := by
    rw [reschedule_eq]
  rw [verdict, tell_eq same, reschedule_eq]

theorem authenticate_rejected {token : String}
    (unknown : (p.registry.isKnownToken token && p.clients.any (·.session = id)) = false) (now : Nat) :
    p.authenticate id token now = { p with sessions := (p.tell id false).sessions } := by
  rw [authenticate, unknown, if_neg Bool.false_ne_true]
  exact tell_eq rfl id false

theorem authenticate_session? {token : String} (present : p.session? id = some c)
    (client : p.clients.any (·.session = id) = true) (now : Nat) :
    (p.authenticate id token now).session? id = some (c.tell (p.registry.isKnownToken token)) := by
  have told : ∀ accepted, (p.tell id accepted).session? id = some (c.tell accepted) := by
    intro accepted
    rw [session?_tell, if_pos rfl, present]
    rfl
  cases known : p.registry.isKnownToken token with
  | true =>
    rw [authenticate_accepted known client]
    exact told true
  | false =>
    rw [authenticate_rejected (by rw [known]; rfl)]
    exact told false

theorem putSession_tell (p : Port) (c : Session) (accepted : Bool) :
    (p.putSession c).tell c.id accepted = p.putSession (c.tell accepted) := by
  unfold tell
  rw [session?_putSession, if_pos rfl]
  cases present : p.session? c.id with
  | none =>
    have unknown : ∀ other ∈ p.sessions, other.id ≠ c.id := by simpa [session?] using present
    simp only [Option.map_none, putSession, Session.tell_id]
    congr 1
    apply List.map_congr_left
    intro other mem
    rw [if_neg (unknown other mem), if_neg (unknown other mem)]
  | some other =>
    simp only [Option.map_some, putSession, Session.tell_id, List.map_map]
    congr 1
    apply List.map_congr_left
    intro other _
    by_cases same : other.id = c.id <;> simp [same]

theorem putSession_putSession (p : Port) {c d : Session} (same : d.id = c.id) :
    (p.putSession c).putSession d = p.putSession d := by
  simp only [putSession, List.map_map]
  congr 1
  apply List.map_congr_left
  intro other _
  by_cases mine : other.id = c.id <;> simp [mine, same]

end Port

namespace Site

theorem take_eq (s : Site) (t : Session.Turn) :
    s.take t = { s with
      port := { s.port with
        sessions := (s.port.putSession (t.settledBy s.port.running)).sessions
        polls := s.port.polls.map (·.settle t.settled)
        exchanges := s.port.exchanges.map (·.settle t.settled)
        inbox := s.port.inbox ++
          if s.port.running then (t.notice.map (.notice t.session.id)).toList else [] }
      journal := s.journal.enter t } := by
  unfold take Session.Turn.settledBy
  cases running : s.port.running with
  | true =>
    cases t.notice with
    | none => simp [Port.settle, Port.putSession, running]
    | some notice => simp [Port.hear, Port.notify, Port.settle, Port.putSession, running]
  | false =>
    cases t.notice with
    | none => simp [Port.settle, Port.putSession, running]
    | some notice =>
      cases notice with
      | authenticate token =>
        have refused := (s.port.settle t.settled).putSession_tell t.session false
        simp only [Port.settle, Port.putSession, running, Session.tell_id] at refused
        simp [Port.hear, Port.settle, Port.putSession, running, refused]
      | connected | disconnected =>
        simp [Port.hear, Port.notify, Port.settle, Port.putSession, running]

theorem enter_quiet (j : Journal) (c : Session) : j.enter { session := c } = j := by
  simp [Journal.enter, Journal.count]

theorem enter_start (j : Journal) (id : Nat) (method : FrameMethod) (timeout : Nat) :
    j.enter (Session.start id method timeout) = j.count [.sessionsOpened] := by
  simp [Journal.enter, Journal.count, Session.start]

section Post

variable {s : Site} {id : Nat} {c : Session}

theorem withSession_post (present : s.port.session? id = some c) (going : c.hasEnded = false)
    (ticket : Nat) (request : WireRequest) :
    s.withSession id (·.post (.execute ticket request)) =
      { s with port := s.port.putSession (c.queue ticket [request]) } := by
  have posted : c.post (.execute ticket request) = { session := c.queue ticket [request] } := by
    simp [Session.post, going, Session.queue]
  simp only [withSession, present, posted, take, Port.settle_nil, enter_quiet]

theorem post_cons (present : s.port.session? id = some c) (going : c.hasEnded = false)
    (request : WireRequest) (rest : List WireRequest) :
    s.post id (request :: rest) =
      ({ s with port := { s.port.putSession (c.queue s.port.nextTicket [request]) with
        nextTicket := s.port.nextTicket + 1 } } : Site).post id rest := by
  let numbered : Site := { s with port := { s.port with nextTicket := s.port.nextTicket + 1 } }
  have posted := withSession_post (s := numbered) present going s.port.nextTicket request
  exact congrArg (·.post id rest) posted

theorem post_eq (present : s.port.session? id = some c) (going : c.hasEnded = false)
    (request : WireRequest) (rest : List WireRequest) :
    s.post id (request :: rest) = { s with port := { s.port with
      sessions := (s.port.putSession (c.queue s.port.nextTicket (request :: rest))).sessions
      nextTicket := s.port.nextTicket + (request :: rest).length } } := by
  induction rest generalizing s c request with
  | nil => exact post_cons present going request []
  | cons next rest ih =>
    have waiting : (s.port.putSession (c.queue s.port.nextTicket [request])).session? id =
        some (c.queue s.port.nextTicket [request]) := by
      simp [Port.session?_putSession, present, Port.session?_id present]
    have twice := s.port.putSession_putSession (c := c.queue s.port.nextTicket [request])
      (d := (c.queue s.port.nextTicket [request]).queue (s.port.nextTicket + 1) (next :: rest)) rfl
    rw [Session.queue_queue] at twice
    rw [post_cons present going]
    refine (ih (s := { s with port := { s.port.putSession (c.queue s.port.nextTicket [request]) with
        nextTicket := s.port.nextTicket + 1 } }) waiting going next).trans ?_
    rw [Session.queue_queue]
    simp only [Port.putSession, List.length_cons, Site.mk.injEq, Port.mk.injEq, true_and, and_true] at twice ⊢
    exact ⟨twice, by omega⟩

end Post

/-! ### Steps -/

inductive Response (s : Site) (now : Nat) : Event → Site → Prop
  | connected {id} : Response s now (.notice id .connected)
      { s with port := { s.port with clients := s.port.clients ++ [{ session := id }] } }
  | admitted {id token} : s.port.registry.isKnownToken token = true →
      s.port.clients.any (·.session = id) = true →
      Response s now (.notice id (.authenticate token))
        { s with port := { s.port with
          clients := s.port.clients.map (Client.grant id token)
          schedule := ({ s.port with
            clients := s.port.clients.map (Client.grant id token) }.reschedule token now).schedule
          sessions := (s.port.tell id true).sessions } }
  | rejected {id token} :
      (s.port.registry.isKnownToken token && s.port.clients.any (·.session = id)) = false →
      Response s now (.notice id (.authenticate token))
        { s with port := { s.port with sessions := (s.port.tell id false).sessions } }
  | unknown {id} : s.port.clients.find? (·.session = id) = none →
      Response s now (.notice id .disconnected) s
  | left {id client} : s.port.clients.find? (·.session = id) = some client → client.token = none →
      Response s now (.notice id .disconnected)
        { s with port := { s.port with clients := s.port.clients.filter (·.session ≠ id) } }
  | lost {id client token} : s.port.clients.find? (·.session = id) = some client →
      client.token = some token →
      Response s now (.notice id .disconnected)
        { s with port := { s.port with
          clients := s.port.clients.filter (·.session ≠ id)
          schedule := ({ s.port with
            clients := s.port.clients.filter (·.session ≠ id) }.reschedule token now).schedule } }
  | underWay {device kind} : jobId device kind ∈ s.port.polling →
      Response s now (.pollDue device kind) s
  | orphaned {device kind} : s.port.registry.get? device = none →
      Response s now (.pollDue device kind)
        { s with port := { s.port with schedule := s.port.schedule.cancel device kind } }
  | unreachable {device kind r} : s.port.registry.get? device = some r →
      s.port.activeSession? r.token = none →
      Response s now (.pollDue device kind) (s.count .pollsSkipped)
  | pointless {device kind r} : s.port.registry.get? device = some r →
      Port.pointRequests s.port.method r.config kind = [] →
      Response s now (.pollDue device kind) s
  | begun {device kind r id c requests} : jobId device kind ∉ s.port.polling →
      s.port.registry.get? device = some r → s.port.activeSession? r.token = some id →
      s.port.session? id = some c → c.hasEnded = false →
      Port.pointRequests s.port.method r.config kind = requests → requests ≠ [] →
      Response s now (.pollDue device kind)
        { s with port := { s.port with
          polling := s.port.polling ++ [jobId device kind]
          polls := s.port.polls ++ [r.poll kind s.port.nextTicket (requests.map Prod.fst)]
          sessions := (s.port.putSession (c.queue s.port.nextTicket (requests.map Prod.snd))).sessions
          nextTicket := s.port.nextTicket + requests.length } }
  | discarded {device kind report} : s.port.registry.get? device = none →
      Response s now (.pollCompleted device kind report)
        { s with port := { s.port with polling := s.port.polling.filter (· ≠ jobId device kind) } }
  | unchanged {device kind report r} : s.port.registry.get? device = some r →
      (r.filterChanges report now).1.isEmpty = true →
      Response s now (.pollCompleted device kind report)
        { s with port := { s.port with
          polling := s.port.polling.filter (· ≠ jobId device kind)
          registry := s.port.registry.update (r.filterChanges report now).2 } }
  | forwarded {device kind report r} : s.port.registry.get? device = some r →
      (r.filterChanges report now).1.isEmpty = false →
      Response s now (.pollCompleted device kind report)
        { s with
          port := { s.port with
            polling := s.port.polling.filter (· ≠ jobId device kind)
            registry := s.port.registry.update (r.filterChanges report now).2 }
          headEnd := s.headEnd.store r.connector (r.filterChanges report now).1
          journal := s.journal.count [.payloadsForwarded] }

theorem authenticate_response (s : Site) (now id : Nat) (token : String) :
    Response s now (.notice id (.authenticate token))
      { s with port := s.port.authenticate id token now } := by
  cases verdict : s.port.registry.isKnownToken token && s.port.clients.any (·.session = id) with
  | true =>
    rw [Bool.and_eq_true] at verdict
    rw [Port.authenticate_accepted verdict.1 verdict.2]
    exact .admitted verdict.1 verdict.2
  | false =>
    rw [Port.authenticate_rejected verdict]
    exact .rejected verdict

theorem disconnect_response (s : Site) (now id : Nat) :
    Response s now (.notice id .disconnected) { s with port := s.port.disconnect id now } := by
  unfold Port.disconnect
  split
  case h_1 unknown => exact .unknown unknown
  case h_2 client found =>
    simp only
    split
    case h_1 token owned =>
      rw [Port.reschedule_eq]
      exact .lost found owned
    case h_2 nameless => exact .left found nameless

theorem poll_reads (requests : List (PointConfig × WireRequest)) (ticket : Nat) :
    (requests.zipIdx.map fun ((point, _), i) => ({ point, ticket := ticket + i } : PointRead)) =
      ((requests.map Prod.fst).zipIdx ticket).map fun (point, ticket) => { point, ticket } := by
  rw [List.zipIdx_map, List.zipIdx_eq_map_add (i := ticket), List.map_map, List.map_map]
  rfl

theorem poll_response (s : Site) (now : Nat) (device : String) (kind : PollKind) :
    Response s now (.pollDue device kind) (s.poll device kind) := by
  unfold poll
  split
  case isTrue underWay => exact .underWay underWay
  case isFalse idle =>
    split
    case h_1 gone => exact .orphaned gone
    case h_2 r found =>
      split
      case h_1 silent => exact .unreachable found silent
      case h_2 id active =>
        obtain ⟨_, _, _, _, opened⟩ := Port.activeSession?_eq_some active
        obtain ⟨c, present, going⟩ := Port.isOpen_iff.mp opened
        cases requests : Port.pointRequests s.port.method r.config kind with
        | nil => exact .pointless found requests
        | cons first rest =>
          let begun : Site := { s with port := { s.port with
            polling := s.port.polling ++ [jobId device kind]
            polls := s.port.polls ++
              [r.poll kind s.port.nextTicket ((first :: rest).map Prod.fst)] } }
          have posted := post_eq (s := begun) present going first.2 (rest.map Prod.snd)
          simp only [List.isEmpty_cons, Bool.false_eq_true, if_false, poll_reads]
          rw [← List.map_cons, List.length_map] at posted
          refine (congrArg (Response s now (.pollDue device kind)) posted).mpr ?_
          exact .begun idle found active present going requests nofun

theorem forward_response (s : Site) (now : Nat) (device : String) (kind : PollKind) (report : Report) :
    Response s now (.pollCompleted device kind report) (s.forward device kind report now) := by
  unfold forward
  simp only
  split
  case h_1 gone => exact .discarded gone
  case h_2 r found =>
    split
    case isTrue nothing => exact .unchanged found nothing
    case isFalse news => exact .forwarded found (by simpa using news)

theorem respond_response (s : Site) (now : Nat) (e : Event) : Response s now e (s.respond now e) := by
  cases e with
  | notice id notice =>
    cases notice with
    | connected => exact .connected
    | authenticate token => exact s.authenticate_response now id token
    | disconnected => exact s.disconnect_response now id
  | pollDue device kind => exact s.poll_response now device kind
  | pollCompleted device kind report => exact s.forward_response now device kind report

inductive Step (s : Site) (now : Nat) : Action → Site → Prop
  | idle {a} : a ≠ .stop → (a = .accept → s.port.running = false) →
      (∀ id m, a.move? = some (id, m) → s.port.session? id = none) → Step s now a s
  | accepted : s.port.running = true →
      Step s now .accept
        { s with
          port := { s.port with
            sessions := (s.port.welcome
              (Session.start s.port.nextSession s.port.method s.port.timeout).session).sessions
            inbox := s.port.inbox ++ [.notice s.port.nextSession .connected]
            nextSession := s.port.nextSession + 1 }
          journal := s.journal.count [.sessionsOpened] }
  | moved {a id m c t} : a.move? = some (id, m) → s.port.session? id = some c → c.Step now m t →
      Step s now a (s.take t)
  | fired {task} : task ∈ s.port.schedule.tasks → task.due ≤ now →
      Step s now (.fire task.key) { s with port := { s.port with
        schedule := s.port.schedule.rearm task.key now
        inbox := s.port.inbox ++ if s.port.running then [.pollDue task.device task.kind] else [] } }
  | handled {e inbox s'} : s.port.inbox = e :: inbox →
      Response { s with port := { s.port with inbox } } now e s' → Step s now .handle s'
  | completed {device kind poll} : s.port.polls.find? (·.isOver device kind) = some poll →
      Step s now (.completePoll device kind) { s with port := { s.port with
        polls := s.port.polls.eraseP (·.isOver device kind)
        inbox := s.port.inbox ++
          if s.port.running then [.pollCompleted device kind poll.report] else [] } }
  | answered {number exchange reply} : s.port.exchanges.find? (·.isOver number) = some exchange →
      exchange.reply? = some reply →
      Step s now (.completeCall number) ({ s with port := { s.port with
        exchanges := s.port.exchanges.eraseP (·.isOver number) } }.reply number reply)
  | declined {number request e} : s.port.running = true → s.port.prepare request = .error e →
      Step s now (.call number request) (s.reply number (.failure request e.message))
  | called {number request id wire c} : s.port.running = true →
      s.port.prepare request = .ok (id, wire) → s.port.session? id = some c →
      c.hasEnded = false →
      Step s now (.call number request) { s with port := { s.port with
        exchanges := s.port.exchanges ++
          [{ call := number, request, wire, ticket := s.port.nextTicket }]
        sessions := (s.port.putSession (c.queue s.port.nextTicket [wire])).sessions
        nextTicket := s.port.nextTicket + 1 } }
  | added {config done} : s.port.running = true →
      s.port.registry.addDevices config s.headEnd = .ok done →
      Step s now (.addDevices config)
        { s with
          port := { s.port with
            registry := done.registry
            schedule := ({ s.port with registry := done.registry }.reschedule
              config.accessToken now).schedule }
          headEnd := done.headEnd }
  | updated {config done} : s.port.running = true →
      s.port.registry.updateDevices config s.headEnd = .ok done →
      Step s now (.updateDevices config)
        { s with
          port := { s.port with
            registry := done.registry
            schedule := (({ s.port with registry := done.registry }.cancelDevices
              (s.port.registry.namesWithToken config.accessToken)).reschedule
              config.accessToken now).schedule }
          headEnd := done.headEnd }
  | removed {config} : s.port.running = true →
      Step s now (.removeDevices config)
        { s with
          port := { s.port with
            registry := (s.port.registry.removeDevices config s.headEnd).registry
            schedule := (s.port.registry.namesWithToken config.accessToken).foldl
              Schedule.cancelDevice s.port.schedule }
          headEnd := (s.port.registry.removeDevices config s.headEnd).headEnd }
  | stopped : Step s now .stop { s with port := { s.port with
      running := false
      schedule := s.port.schedule.cancelAll
      clients := []
      inbox := []
      sessions := s.port.sessions.map Session.shut } }

section Act

variable (s : Site) (now : Nat)

theorem withSession_step {a : Action} {id : Nat} {m : Session.Move} (move : a.move? = some (id, m)) :
    Step s now a (s.withSession id (·.turn now m)) := by
  unfold withSession
  split
  case h_1 c present => exact .moved move present (c.turn_step now m)
  case h_2 absent =>
    have moves : ∀ i n, a.move? = some (i, n) → s.port.session? i = none := by
      intro i n other
      rw [move] at other
      cases other
      exact absent
    apply Step.idle _ _ moves
    all_goals
      rintro rfl
      cases move

theorem accept_step : Step s now .accept s.accept := by
  unfold accept
  split
  case isTrue running =>
    rw [take_eq]
    simp only [Session.Turn.settledBy, if_pos running, enter_start]
    simp only [Session.start, Poll.settle_nil, Exchange.settle_nil, List.map_id_fun', id, Option.map_some,
      Option.toList_some]
    exact .accepted running
  case isFalse stopped => exact .idle nofun (fun _ => by simpa using stopped) nofun

theorem completePoll_step (device : String) (kind : PollKind) :
    Step s now (.completePoll device kind) (s.completePoll device kind) := by
  unfold completePoll
  split
  case h_1 => exact .idle nofun nofun nofun
  case h_2 poll complete =>
    simp only [Port.notify_eq]
    exact .completed complete

theorem completeCall_step (number : Nat) :
    Step s now (.completeCall number) (s.completeCall number) := by
  unfold completeCall
  split
  case h_1 => exact .idle nofun nofun nofun
  case h_2 exchange settled =>
    have fits := List.find?_some settled
    have outcome := (Exchange.isOver_iff.mp fits).2
    simp only
    split
    case h_1 reply replied => exact .answered settled replied
    case h_2 nothing =>
      rw [Exchange.reply?, Option.map_eq_none_iff] at nothing
      rw [nothing] at outcome
      cases outcome

theorem fire_step (task : Nat) : Step s now (.fire task) (s.fire task now) := by
  unfold fire
  split
  case h_1 => exact .idle nofun nofun nofun
  case h_2 t found =>
    have fits := List.find?_some found
    rw [Bool.and_eq_true, decide_eq_true_iff, decide_eq_true_iff] at fits
    simp only [Port.notify_eq, ← fits.1]
    exact .fired (List.mem_of_find?_eq_some found) fits.2

theorem act_call (running : s.port.running = true) (number : Nat) (request : RpcRequest) :
    s.act now (.call number request) = s.call number request := by
  simp only [act, whileRunning, running, if_true]

theorem call_accepted (number : Nat) {request : RpcRequest} {id : Nat} {wire : WireRequest}
    (prepared : s.port.prepare request = .ok (id, wire)) :
    ∃ c, s.port.session? id = some c ∧ c.hasEnded = false ∧
      s.call number request = { s with port := { s.port with
        exchanges := s.port.exchanges ++
          [{ call := number, request, wire, ticket := s.port.nextTicket }]
        sessions := (s.port.putSession (c.queue s.port.nextTicket [wire])).sessions
        nextTicket := s.port.nextTicket + 1 } } := by
  obtain ⟨r, _, _, _, active, _⟩ := Port.prepare_ok prepared
  obtain ⟨_, _, _, _, opened⟩ := Port.activeSession?_eq_some active
  obtain ⟨c, present, going⟩ := Port.isOpen_iff.mp opened
  refine ⟨c, present, going, ?_⟩
  let exchange : Exchange := { call := number, request, wire, ticket := s.port.nextTicket }
  let noted : Site := { s with port := { s.port with exchanges := s.port.exchanges ++ [exchange] } }
  simp only [call, prepared]
  exact post_eq (s := noted) present going wire []

theorem call_step (running : s.port.running = true) (number : Nat) (request : RpcRequest) :
    Step s now (.call number request) (s.call number request) := by
  cases prepared : s.port.prepare request with
  | error e =>
    simp only [call, prepared]
    exact .declined running prepared
  | ok target =>
    obtain ⟨id, wire⟩ := target
    obtain ⟨c, present, going, called⟩ := s.call_accepted number prepared
    rw [called]
    exact .called running prepared present going

theorem act_step (a : Action) : Step s now a (s.act now a) := by
  cases a with
  | accept => exact s.accept_step now
  | arrive id arrival => exact s.withSession_step now (a := .arrive id arrival) (m := .arrive arrival) rfl
  | read id => exact s.withSession_step now (a := .read id) (m := .read) rfl
  | obey id => exact s.withSession_step now (a := .obey id) (m := .obey) rfl
  | heed id => exact s.withSession_step now (a := .heed id) (m := .heed) rfl
  | expire id => exact s.withSession_step now (a := .expire id) (m := .expire) rfl
  | fire task => exact s.fire_step now task
  | handle =>
    simp only [act, handle]
    split
    case h_1 => exact .idle nofun nofun nofun
    case h_2 e inbox next => exact .handled next (respond_response _ now e)
  | completePoll device kind => exact s.completePoll_step now device kind
  | completeCall number => exact s.completeCall_step now number
  | call number request =>
    simp only [act, whileRunning]
    split
    case isTrue running => exact s.call_step now running number request
    case isFalse => exact .idle nofun nofun nofun
  | addDevices config =>
    simp only [act, whileRunning, Port.addDevices]
    split
    case isTrue running =>
      cases ok : s.port.registry.addDevices config s.headEnd with
      | error e => exact .idle nofun nofun nofun
      | ok done =>
        simp only [bind, Except.bind, install, pure, Except.pure]
        rw [Port.reschedule_eq]
        exact .added running ok
    case isFalse => exact .idle nofun nofun nofun
  | updateDevices config =>
    simp only [act, whileRunning, Port.updateDevices]
    split
    case isTrue running =>
      cases ok : s.port.registry.updateDevices config s.headEnd with
      | error e => exact .idle nofun nofun nofun
      | ok done =>
        simp only [bind, Except.bind, install, pure, Except.pure]
        rw [Port.reschedule_eq]
        exact .updated running ok
    case isFalse => exact .idle nofun nofun nofun
  | removeDevices config =>
    simp only [act, whileRunning, install]
    split
    case isTrue running => exact .removed running
    case isFalse => exact .idle nofun nofun nofun
  | stop => exact .stopped

end Act

/-! ### What steps leave alone -/

section Frame

variable {s s' : Site} {now : Nat} {a : Action} {e : Event}

theorem Response.frame (response : Response s now e s') :
    s'.port.method = s.port.method ∧ s'.port.timeout = s.port.timeout ∧
      s'.port.running = s.port.running ∧ s'.port.nextSession = s.port.nextSession := by
  cases response <;> exact ⟨rfl, rfl, rfl, rfl⟩

theorem Response.inbox_eq (response : Response s now e s') : s'.port.inbox = s.port.inbox := by
  cases response <;> rfl

theorem Step.method_eq (step : s.Step now a s') : s'.port.method = s.port.method := by
  cases step with
  | moved => rw [take_eq]
  | handled _ response => exact response.frame.1
  | _ => rfl

theorem Step.timeout_eq (step : s.Step now a s') : s'.port.timeout = s.port.timeout := by
  cases step with
  | moved => rw [take_eq]
  | handled _ response => exact response.frame.2.1
  | _ => rfl

theorem Step.running_eq (step : s.Step now a s') (going : a ≠ .stop) :
    s'.port.running = s.port.running := by
  cases step with
  | moved => rw [take_eq]
  | handled _ response => exact response.frame.2.2.1
  | stopped => exact absurd rfl going
  | _ => rfl

theorem Step.stopped_running (step : s.Step now .stop s') : s'.port.running = false := by
  cases step with
  | idle going => exact absurd rfl going
  | moved move => cases move
  | stopped => rfl

theorem Step.was_running (step : s.Step now a s') (running : s'.port.running = true) :
    s.port.running = true ∧ a ≠ .stop := by
  have going : a ≠ .stop := by
    rintro rfl
    rw [step.stopped_running] at running
    cases running
  exact ⟨(step.running_eq going).symm.trans running, going⟩

theorem Step.nextSession_le (step : s.Step now a s') : s.port.nextSession ≤ s'.port.nextSession := by
  cases step with
  | accepted => exact Nat.le_succ _
  | moved => exact Nat.le_of_eq (by rw [take_eq])
  | handled _ response => exact Nat.le_of_eq response.frame.2.2.2.symm
  | _ => exact Nat.le_refl _

theorem Step.accepted_nextSession (step : s.Step now .accept s') (running : s.port.running = true) :
    s'.port.nextSession = s.port.nextSession + 1 := by
  cases step with
  | idle _ unheard =>
    rw [unheard rfl] at running
    cases running
  | accepted => rfl
  | moved move => cases move

end Frame

end Site

/-! ### Courses -/

/-- What happens next in the life of a port: an action, or something that others do to the head
end. -/
inductive Happening
  | act : (now : Nat) → Action → Happening
  | elsewhere : HeadEnd → Happening

def Site.happen (s : Site) : Happening → Site
  | .act now a => s.act now a
  | .elsewhere headEnd => { s with headEnd }

structure Opening where
  method : FrameMethod
  timeout : Nat
  converters : Converters
  headEnd : HeadEnd

namespace Opening

def site (o : Opening) : Site where
  port := { method := o.method, timeout := o.timeout, registry := { converters := o.converters } }
  headEnd := o.headEnd

def after (o : Opening) (course : List Happening) : Site := course.foldl Site.happen o.site

@[simp] theorem after_nil (o : Opening) : o.after [] = o.site := rfl

theorem after_snoc (o : Opening) (course : List Happening) (x : Happening) :
    o.after (course ++ [x]) = (o.after course).happen x := by
  simp [after]

theorem after_invariant {P : Site → Prop} (o : Opening) (opened : P o.site)
    (act : ∀ s now a s', P s → Site.Step s now a s' → P s')
    (elsewhere : ∀ s headEnd, P s → P { s with headEnd }) (course : List Happening) :
    P (o.after course) := by
  induction course using List.reverseRecOn with
  | nil => exact opened
  | append_singleton course x ih =>
    rw [after_snoc]
    cases x with
    | act now a => exact act _ now a _ ih (Site.act_step _ now a)
    | elsewhere headEnd => exact elsewhere _ headEnd ih

theorem after_running {P : List Happening → Prop} (o : Opening) (opened : P [])
    (act : ∀ course now a, P course → (o.after course).port.running = true → a ≠ .stop →
      P (course ++ [.act now a]))
    (elsewhere : ∀ course headEnd, P course → P (course ++ [.elsewhere headEnd]))
    (course : List Happening) (running : (o.after course).port.running = true) : P course := by
  induction course using List.reverseRecOn with
  | nil => exact opened
  | append_singleton course x ih =>
    rw [after_snoc] at running
    cases x with
    | act now a =>
      obtain ⟨before, going⟩ := (Site.act_step _ now a).was_running running
      exact act course now a (ih before) before going
    | elsewhere headEnd => exact elsewhere course headEnd (ih running)

end Opening

end MeterGateway
