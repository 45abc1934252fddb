import MeterGateway.Proofs.Session.Gate
import MeterGateway.Proofs.Site.Steps

/-!
What a port has to do with one connection.  `Step.contact` says how any step of the port bears on
it; the other connections, the devices and the clock matter only as far as that says.
-/

namespace MeterGateway

def Event.notice? (id : Nat) : Event → Option Notice
  | notice session news => if session = id then some news else none
  | pollDue _ _ | pollCompleted _ _ _ => none

/-- A connection: its session, what the port has still to hear of it, the tokens that the port knows
it with, and the frames written on it. -/
@[ext] structure Contact where
  session : Option Session
  notices : List Notice
  tokens : List (Option String)
  written : List Bytes

def Site.contact (s : Site) (id : Nat) : Contact where
  session := s.port.session? id
  notices := s.port.inbox.filterMap (Event.notice? id)
  tokens := (s.port.clients.filter (·.session = id)).map Client.token
  written := (s.journal.sent.filter (·.1 = id)).map Prod.snd

theorem Site.mem_notices {s : Site} {id : Nat} {n : Notice} :
    n ∈ (s.contact id).notices ↔ .notice id n ∈ s.port.inbox := by
  rw [contact, List.mem_filterMap]
  constructor
  · rintro ⟨e, mem, same⟩
    cases e with
    | notice session notice =>
      obtain ⟨rfl, rfl⟩ : session = id ∧ notice = n := by simpa [Event.notice?] using same
      exact mem
    | _ => cases same
  · intro mem
    exact ⟨_, mem, if_pos rfl⟩

theorem Site.token_mem {s : Site} {client : Client} (known : client ∈ s.port.clients) :
    client.token ∈ (s.contact client.session).tokens :=
  List.mem_map_of_mem (List.mem_filter.mpr ⟨known, decide_eq_true rfl⟩)

def Record.Issues (method : FrameMethod) (r : Record) (request : WireRequest) : Prop :=
  (∃ kind, ∃ point ∈ r.config.points kind, WireRequest.read method r.config point = .ok request) ∨
  ∃ command ∈ r.config.rpc, ∃ params payload, (r.downlink command params).result = .ok payload ∧
    WireRequest.write method r.config command payload = .ok request

theorem Port.mem_pointRequests {method : FrameMethod} {device : DeviceConfig} {kind : PollKind}
    {point : PointConfig} {request : WireRequest}
    (mem : (point, request) ∈ Port.pointRequests method device kind) :
    point ∈ device.points kind ∧ WireRequest.read method device point = .ok request := by
  rw [Port.pointRequests, List.mem_filterMap] at mem
  obtain ⟨own, listed, made⟩ := mem
  split at made
  · rename_i read
    cases made
    exact ⟨listed, read⟩
  · cases made

theorem Action.handle_ne_stop : Action.handle ≠ .stop := nofun

namespace Contact

inductive Step (p : Port) (now : Nat) (a : Action) (id : Nat) : Contact → Contact → Prop
  | kept {k} : a ≠ .stop → (∀ m, a.move? = some (id, m) → k.session = none) → Step p now a id k k
  | opened {k} : a = .accept → p.running = true → id = p.nextSession →
      Step p now a id k { k with
        session := some (Session.start id p.method p.timeout).session
        notices := k.notices ++ [.connected] }
  | moved {c m t ns ts ws} : a.move? = some (id, m) → c.Step now m t →
      Step p now a id ⟨some c, ns, ts, ws⟩
        ⟨some (t.settledBy p.running), ns ++ if p.running then t.notice.toList else [], ts,
          ws ++ t.sent.toList⟩
  | entered {x ns ts ws} : a = .handle →
      Step p now a id ⟨x, .connected :: ns, ts, ws⟩ ⟨x, ns, ts ++ [none], ws⟩
  | accepted {x token inbox ns ts ws} : a = .handle →
      p.inbox = .notice id (.authenticate token) :: inbox →
      p.registry.isKnownToken token = true → ts ≠ [] →
      Step p now a id ⟨x, .authenticate token :: ns, ts, ws⟩
        ⟨x.map (·.tell true), ns, ts.map fun _ => some token, ws⟩
  | rejected {x token ns ts ws} : a = .handle →
      p.registry.isKnownToken token = false ∨ ts = [] →
      Step p now a id ⟨x, .authenticate token :: ns, ts, ws⟩ ⟨x.map (·.tell false), ns, ts, ws⟩
  | left {x ns ts ws} : a = .handle →
      Step p now a id ⟨x, .disconnected :: ns, ts, ws⟩ ⟨x, ns, [], ws⟩
  | posted {c r requests ns ts ws} : a ≠ .stop → a.move? = none → r ∈ p.registry.devices →
      some r.token ∈ ts → c.hasEnded = false → (∀ request ∈ requests, r.Issues p.method request) →
      Step p now a id ⟨some c, ns, ts, ws⟩ ⟨some (c.queue p.nextTicket requests), ns, ts, ws⟩
  | shut {x ns ts ws} : a = .stop → Step p now a id ⟨x, ns, ts, ws⟩ ⟨x.map Session.shut, [], [], ws⟩

theorem Step.kept_eq {p : Port} {now : Nat} {a : Action} {id : Nat} {k k' : Contact} (going : a ≠ .stop)
    (moves : ∀ m, a.move? = some (id, m) → k.session = none) (same : k' = k) :
    Step p now a id k k' := by
  rw [same]
  exact .kept going moves

theorem Step.of_eq {p : Port} {now : Nat} {a : Action} {id : Nat} {k k' k'' : Contact}
    (step : Step p now a id k k') (same : k'' = k') : Step p now a id k k'' := by
  rw [same]
  exact step

theorem Step.passed {p : Port} {now : Nat} {id : Nat} {k k' : Contact} (same : k' = k) :
    Step p now .handle id k k' :=
  .kept_eq Action.handle_ne_stop nofun same

end Contact

namespace Site

variable {s s' : Site} {now : Nat} {a : Action} {e : Event}

theorem tokens_grant (clients : List Client) (session : Nat) (token : String) (id : Nat) :
    ((clients.map (Client.grant session token)).filter (·.session = id)).map Client.token =
      if id = session then (clients.filter (·.session = id)).map fun _ => some token
      else (clients.filter (·.session = id)).map Client.token := by
  simp only [List.filter_map, List.map_map, Function.comp_def, Client.grant_session]
  split
  case isTrue mine =>
    apply List.map_congr_left
    intro c mem
    have own : c.session = id := of_decide_eq_true (List.mem_filter.mp mem).2
    rw [Client.grant, if_pos (own.trans mine)]
  case isFalse other =>
    apply List.map_congr_left
    intro c mem
    have own : c.session = id := of_decide_eq_true (List.mem_filter.mp mem).2
    rw [Client.grant, if_neg]
    rw [own]
    exact other

theorem tokens_leave (clients : List Client) (session id : Nat) :
    ((clients.filter (·.session ≠ session)).filter (·.session = id)).map Client.token =
      if id = session then [] else (clients.filter (·.session = id)).map Client.token := by
  rw [List.filter_filter]
  split
  case isTrue mine =>
    rw [List.map_eq_nil_iff, List.filter_eq_nil_iff]
    simp [mine]
  case isFalse other =>
    congr 1
    apply List.filter_congr
    intro c _
    by_cases own : c.session = id <;> simp [own, other]

theorem any_session (clients : List Client) (id : Nat) :
    clients.any (·.session = id) = true ↔ (clients.filter (·.session = id)).map Client.token ≠ [] := by
  simp [List.filter_eq_nil_iff]

/-- A session that requests are posted to is one that the port knows with the token of the device. -/
theorem queue_contact {p : Port} {c : Session} {r : Record} {session : Nat} {requests : List WireRequest}
    (device : r ∈ p.registry.devices) (active : s.port.activeSession? r.token = some session)
    (present : s.port.session? session = some c) (going : c.hasEnded = false)
    (issued : ∀ request ∈ requests, r.Issues p.method request)
    (sessions : s'.port.sessions = (s.port.putSession (c.queue p.nextTicket requests)).sessions)
    (inbox : s'.port.inbox = s.port.inbox) (clients : s'.port.clients = s.port.clients)
    (sent : s'.journal.sent = s.journal.sent) (going_on : a ≠ .stop) (still : a.move? = none) (id : Nat) :
    (s.contact id).Step p now a id (s'.contact id) := by
  have after : s'.contact id = { s.contact id with
      session := (s.port.putSession (c.queue p.nextTicket requests)).session? id } := by
    simp only [Site.contact, Port.session?, sessions, inbox, clients, sent]
  rw [after, Port.session?_putSession, Session.queue_id, Port.session?_id present]
  by_cases mine : id = session
  · subst mine
    have held : some r.token ∈ (s.contact id).tokens := by
      obtain ⟨client, mem, rfl, token, -⟩ := Port.activeSession?_eq_some active
      exact token ▸ token_mem mem
    have before : s.contact id = ⟨some c, (s.contact id).notices, (s.contact id).tokens,
        (s.contact id).written⟩ := by
      rw [← present]
      rfl
    rw [if_pos rfl, present, before]
    exact .posted going_on still device held going issued
  · rw [if_neg mine]
    apply Contact.Step.kept going_on
    intro m move
    rw [still] at move
    cases move

theorem Response.contact {inbox : List Event} (next : s.port.inbox = e :: inbox)
    (response : Response { s with port := { s.port with inbox } } now e s') (id : Nat) :
    (s.contact id).Step s.port now .handle id (s'.contact id) := by
  have before : s.contact id = ⟨s.port.session? id,
      (e.notice? id).toList ++ inbox.filterMap (Event.notice? id),
      (s.port.clients.filter (·.session = id)).map Client.token,
      (s.journal.sent.filter (·.1 = id)).map Prod.snd⟩ := by
    rw [Site.contact, next, List.filterMap_cons]
    cases e.notice? id <;> rfl
  rw [before]
  let left : Port := { s.port with inbox }
  cases response with
  | @connected session =>
    by_cases mine : session = id
    · simp only [Event.notice?, if_pos mine, Option.toList_some, List.singleton_append]
      refine (Contact.Step.entered rfl).of_eq ?_
      simp [Site.contact, Port.session?, mine]
    · simp only [Event.notice?, if_neg mine, Option.toList_none, List.nil_append]
      refine .passed ?_
      simp [Site.contact, Port.session?, mine]
  | @admitted session token known client =>
    by_cases mine : session = id
    · subst mine
      simp only [Event.notice?, if_true, Option.toList_some, List.singleton_append]
      refine (Contact.Step.accepted rfl next known ((any_session _ _).mp client)).of_eq ?_
      refine Contact.ext ?_ rfl ?_ rfl
      · exact (left.session?_tell session true session).trans (if_pos rfl)
      · refine (tokens_grant _ session token session).trans ?_
        rw [if_pos rfl, List.map_map]
        rfl
    · simp only [Event.notice?, if_neg mine, Option.toList_none, List.nil_append]
      refine .passed (Contact.ext ?_ rfl ?_ rfl)
      · exact (left.session?_tell session true id).trans (if_neg (Ne.symm mine))
      · exact (tokens_grant _ session token id).trans (if_neg (Ne.symm mine))
  | @rejected session token refused =>
    by_cases mine : session = id
    · subst mine
      simp only [Event.notice?, if_true, Option.toList_some, List.singleton_append]
      have unfit : s.port.registry.isKnownToken token = false ∨
          (s.port.clients.filter (·.session = session)).map Client.token = [] := by
        rw [Bool.and_eq_false_iff] at refused
        refine refused.imp_right ?_
        intro absent
        by_contra held
        rw [(any_session _ _).mpr held] at absent
        cases absent
      refine (Contact.Step.rejected rfl unfit).of_eq (Contact.ext ?_ rfl rfl rfl)
      exact (left.session?_tell session false session).trans (if_pos rfl)
    · simp only [Event.notice?, if_neg mine, Option.toList_none, List.nil_append]
      refine .passed (Contact.ext ?_ rfl rfl rfl)
      exact (left.session?_tell session false id).trans (if_neg (Ne.symm mine))
  | @unknown session unknown =>
    by_cases mine : session = id
    · subst mine
      simp only [Event.notice?, if_true, Option.toList_some, List.singleton_append]
      refine (Contact.Step.left rfl).of_eq (Contact.ext rfl rfl ?_ rfl)
      rw [List.find?_eq_none] at unknown
      rw [Site.contact, List.map_eq_nil_iff, List.filter_eq_nil_iff]
      exact unknown
    · simp only [Event.notice?, if_neg mine, Option.toList_none, List.nil_append]
      exact .passed rfl
  | @left session | @lost session =>
    by_cases mine : session = id
    · subst mine
      simp only [Event.notice?, if_true, Option.toList_some, List.singleton_append]
      refine (Contact.Step.left rfl).of_eq (Contact.ext rfl rfl ?_ rfl)
      exact (tokens_leave _ session session).trans (if_pos rfl)
    · simp only [Event.notice?, if_neg mine, Option.toList_none, List.nil_append]
      refine .passed (Contact.ext rfl rfl ?_ rfl)
      exact (tokens_leave _ session id).trans (if_neg (Ne.symm mine))
  | underWay | orphaned | unreachable | pointless | discarded | unchanged | forwarded =>
    exact .passed rfl
  | @begun device kind r session c requests idle found active present going made =>
    have issued : ∀ request ∈ requests.map Prod.snd, r.Issues s.port.method request := by
      intro request mem
      obtain ⟨⟨point, _⟩, pair, rfl⟩ := List.mem_map.mp mem
      obtain ⟨listed, read⟩ := Port.mem_pointRequests (made ▸ pair)
      exact .inl ⟨kind, point, listed, read⟩
    apply queue_contact (s := { s with port := left }) (p := s.port) (List.mem_of_find?_eq_some found)
      active present going issued <;> first | rfl | exact Action.handle_ne_stop

theorem enter_written (j : Journal) (t : Session.Turn) (id : Nat) :
    ((j.enter t).sent.filter (·.1 = id)).map Prod.snd =
      (j.sent.filter (·.1 = id)).map Prod.snd ++ if t.session.id = id then t.sent.toList else [] := by
  simp only [Journal.enter, Journal.count, List.filter_append, List.map_append]
  congr 1
  cases t.sent with
  | none => simp
  | some frame => by_cases mine : t.session.id = id <;> simp [mine]

theorem take_contact {c : Session} {m : Session.Move} {t : Session.Turn} {session : Nat}
    (move : a.move? = some (session, m)) (present : s.port.session? session = some c)
    (step : c.Step now m t) (id : Nat) :
    (s.contact id).Step s.port now a id ((s.take t).contact id) := by
  have named : t.session.id = session := step.id_eq.trans (Port.session?_id present)
  rw [take_eq]
  have heard : ∀ inbox : List Event,
      (inbox ++ if s.port.running then (t.notice.map (Event.notice t.session.id)).toList else []).filterMap
        (Event.notice? id) =
      inbox.filterMap (Event.notice? id) ++
        if s.port.running ∧ session = id then t.notice.toList else [] := by
    intro inbox
    rw [List.filterMap_append, named]
    congr 1
    cases s.port.running with
    | false => rfl
    | true =>
      cases t.notice with
      | none => simp
      | some notice => by_cases mine : session = id <;> simp [Event.notice?, mine]
  by_cases mine : session = id
  · subst mine
    have before : s.contact session = ⟨some c, s.port.inbox.filterMap (Event.notice? session),
        (s.port.clients.filter (·.session = session)).map Client.token,
        (s.journal.sent.filter (·.1 = session)).map Prod.snd⟩ := by
      rw [Site.contact, present]
    rw [before]
    refine (Contact.Step.moved move step).of_eq (Contact.ext ?_ ?_ rfl ?_)
    · refine (s.port.session?_putSession _ session).trans ?_
      rw [Session.Turn.settledBy_id, named, if_pos rfl, present]
      rfl
    · refine (heard s.port.inbox).trans ?_
      simp
    · refine (enter_written s.journal t session).trans ?_
      rw [if_pos named]
  · have elsewhere : ∀ n, a.move? = some (id, n) → (s.contact id).session = none := by
      intro n other
      rw [move, Option.some.injEq, Prod.mk.injEq] at other
      exact absurd other.1 mine
    have going : a ≠ .stop := by
      rintro rfl
      cases move
    refine .kept_eq going elsewhere (Contact.ext ?_ ?_ rfl ?_)
    · refine (s.port.session?_putSession _ id).trans (if_neg ?_)
      rw [Session.Turn.settledBy_id, named]
      exact Ne.symm mine
    · refine (heard s.port.inbox).trans ?_
      rw [if_neg (mine ·.2), List.append_nil]
      rfl
    · refine (enter_written s.journal t id).trans ?_
      rw [named, if_neg mine, List.append_nil]
      rfl

theorem Step.contact (step : s.Step now a s') (id : Nat) :
    (s.contact id).Step s.port now a id (s'.contact id) := by
  cases step with
  | accepted running =>
    by_cases mine : id = s.port.nextSession
    · subst mine
      refine (Contact.Step.opened rfl running rfl).of_eq (Contact.ext ?_ ?_ rfl rfl)
      · exact (s.port.session?_welcome _ _).trans (if_pos rfl)
      · simp [Site.contact, Event.notice?]
    · refine .kept_eq nofun nofun (Contact.ext ?_ ?_ rfl rfl)
      · exact (s.port.session?_welcome _ _).trans (if_neg mine)
      · simp [Site.contact, Event.notice?, Ne.symm mine]
  | moved move present step => exact take_contact move present step id
  | @fired task =>
    refine .kept_eq nofun nofun (Contact.ext rfl ?_ rfl rfl)
    cases running : s.port.running <;> simp [Site.contact, Event.notice?]
  | @completed poll =>
    refine .kept_eq nofun nofun (Contact.ext rfl ?_ rfl rfl)
    cases running : s.port.running <;> simp [Site.contact, Event.notice?]
  | handled next response => exact response.contact next id
  | @called number request session wire c running prepared present going =>
    obtain ⟨r, command, payload, found, active, configured, converted, written⟩ := Port.prepare_ok prepared
    have issued : ∀ issue ∈ [wire], r.Issues s.port.method issue := by
      intro issue mem
      rw [List.mem_singleton.mp mem]
      exact .inr ⟨command, List.mem_of_find?_eq_some configured, request.params, payload, converted, written⟩
    apply queue_contact (List.mem_of_find?_eq_some found) active present going issued <;> first | rfl | nofun
  | stopped =>
    refine (Contact.Step.shut rfl).of_eq (Contact.ext ?_ rfl rfl rfl)
    exact s.port.session?_map Session.shut Session.shut_id id
  | idle going _ moves => exact .kept going (moves id)
  | answered | declined | added | updated | removed => exact .kept nofun nofun

end Site

end MeterGateway
