import MeterGateway.Proofs.Site.Admission

namespace MeterGateway

namespace Site

def waitingAt (s : Site) (id : Nat) : List (Nat × WireRequest) :=
  ((s.port.session? id).map Session.waiting).getD []

/-- The ways an action bears on the requests that wait in a session.  Those that are there are worked
through in their order, and what is posted comes after them. -/
inductive PostStep (s : Site) (a : Action) (id : Nat) : List (Nat × WireRequest) → Prop
  | worked {rest} : rest <:+ s.waitingAt id → PostStep s a id rest
  | polled {device kind inbox r} : a = .handle → s.port.inbox = .pollDue device kind :: inbox →
      s.port.registry.get? device = some r → s.port.activeSession? r.token = some id →
      PostStep s a id (s.waitingAt id ++
        (((Port.pointRequests s.port.method r.config kind).map Prod.snd).zipIdx
          s.port.nextTicket).map Prod.swap)
  | called {number request wire} : a = .call number request → s.port.running = true →
      s.port.prepare request = .ok (id, wire) →
      PostStep s a id (s.waitingAt id ++ [(s.port.nextTicket, wire)])

variable {s s' : Site} {now id : Nat} {a : Action}

theorem PostStep.same (s : Site) (a : Action) {rest : List (Nat × WireRequest)}
    (same : rest = s.waitingAt id) : s.PostStep a id rest :=
  .worked (same ▸ List.suffix_refl _)

theorem waitingAt_eq {found : Option Session} (held : s.port.session? id = found) :
    s.waitingAt id = (found.map Session.waiting).getD [] := by
  rw [waitingAt, held]

theorem waitingAt_map {f : Session → Session} (kept : ∀ c, (f c).waiting = c.waiting)
    (mapped : s'.port.session? id = (s.port.session? id).map f) : s'.waitingAt id = s.waitingAt id := by
  rw [waitingAt_eq mapped, waitingAt, Option.map_map]
  congr 2
  exact funext kept

theorem waitingAt_tell {session : Nat} {accepted : Bool}
    (told : s'.port.sessions = (s.port.tell session accepted).sessions) :
    s'.waitingAt id = s.waitingAt id := by
  have tell := Port.session?_congr told id
  rw [Port.session?_tell] at tell
  split at tell
  · exact waitingAt_map (fun c => c.tell_waiting accepted) tell
  · exact waitingAt_eq tell

theorem waitingAt_queue {c : Session} {ticket : Nat} {requests : List WireRequest}
    (present : s.port.session? id = some c)
    (queued : s'.port.sessions = (s.port.putSession (c.queue ticket requests)).sessions) (other : Nat) :
    s'.waitingAt other =
      s.waitingAt other ++ if other = id then (requests.zipIdx ticket).map Prod.swap else [] := by
  have put := Port.session?_congr queued other
  rw [Port.session?_putSession, Session.queue_id, Port.session?_id present] at put
  split at put
  case isTrue mine =>
    subst mine
    rw [present] at put
    rw [waitingAt_eq put, waitingAt_eq present, if_pos rfl]
    exact c.queue_waiting ticket requests
  case isFalse other => rw [waitingAt_eq put, if_neg other, List.append_nil, waitingAt]

theorem take_waitingAt {session : Nat} {c : Session} {m : Session.Move} {t : Session.Turn}
    (present : s.port.session? session = some c) (turn : c.Step now m t)
    (unposted : ∀ command, m ≠ .post command) (id : Nat) :
    (s.take t).waitingAt id <:+ s.waitingAt id := by
  have put : (s.take t).port.session? id =
      (s.port.putSession (t.settledBy s.port.running)).session? id := by
    rw [take_eq]
    rfl
  rw [Port.session?_putSession, Session.Turn.settledBy_id, turn.id_eq, Port.session?_id present] at put
  split at put
  case isTrue mine =>
    subst mine
    rw [present] at put
    rw [waitingAt_eq put, waitingAt_eq present]
    change (t.settledBy s.port.running).waiting <:+ c.waiting
    rw [Session.waiting, Session.Turn.settledBy_commands]
    exact (turn.commands_suffix unposted).filterMap _
  case isFalse =>
    rw [waitingAt_eq put]
    exact List.suffix_refl _

theorem Step.postStep (step : s.Step now a s') (id : Nat) : s.PostStep a id (s'.waitingAt id) := by
  cases step with
  | accepted =>
    have welcome := s.port.session?_welcome
      (Session.start s.port.nextSession s.port.method s.port.timeout).session id
    split at welcome
    · exact .worked (waitingAt_eq (s := { s with port := _ }) welcome ▸ List.nil_suffix)
    · exact .same s _ (waitingAt_eq (s := { s with port := _ }) welcome)
  | moved move present turn =>
    exact .worked (take_waitingAt present turn (Action.move?_own move).1 id)
  | @handled e inbox _ next response =>
    let left : Site := { s with port := { s.port with inbox } }
    cases response with
    | admitted | rejected => exact .same s _ (waitingAt_tell (s := left) rfl)
    | begun _ found active present _ made =>
      subst made
      rw [waitingAt_queue (s := left) present rfl id]
      split
      case isTrue mine => exact mine ▸ .polled rfl next found active
      case isFalse => exact .same s _ (List.append_nil _)
    | _ => exact .same s _ rfl
  | called running prepared present =>
    rw [waitingAt_queue present rfl id]
    split
    case isTrue mine => exact mine ▸ .called rfl running prepared
    case isFalse => exact .same s _ (List.append_nil _)
  | stopped =>
    exact .same s _ (waitingAt_map Session.shut_waiting (s.port.session?_map _ Session.shut_id id))
  | _ => exact .same s _ rfl

/-! ### Tickets -/

theorem Step.nextTicket_le (step : s.Step now a s') : s.port.nextTicket ≤ s'.port.nextTicket := by
  cases step with
  | moved => exact Nat.le_of_eq (by rw [take_eq])
  | handled _ response =>
    cases response with
    | begun => exact Nat.le_add_right _ _
    | _ => exact Nat.le_refl _
  | called => exact Nat.le_succ _
  | _ => exact Nat.le_refl _

theorem PostStep.unrepeated {rest : List (Nat × WireRequest)} (step : s.PostStep a id rest)
    {ticket : Nat} (former : ticket < s.port.nextTicket) :
    rest.countP (·.1 = ticket) ≤ (s.waitingAt id).countP (·.1 = ticket) := by
  have added : ∀ posted : List (Nat × WireRequest), (∀ entry ∈ posted, s.port.nextTicket ≤ entry.1) →
      (s.waitingAt id ++ posted).countP (·.1 = ticket) ≤ (s.waitingAt id).countP (·.1 = ticket) := by
    intro posted fresh
    have none_of : posted.countP (·.1 = ticket) = 0 := by
      rw [List.countP_eq_zero]
      intro entry mem same
      have later := fresh entry mem
      rw [of_decide_eq_true same] at later
      omega
    rw [List.countP_append, none_of]
    exact Nat.le_refl _
  cases step with
  | worked suffix => exact suffix.sublist.countP_le
  | polled =>
    apply added
    intro entry mem
    obtain ⟨numbered, inside, rfl⟩ := List.mem_map.mp mem
    exact List.le_snd_of_mem_zipIdx inside
  | called =>
    apply added
    intro entry mem
    exact Nat.le_of_eq (List.mem_singleton.mp mem ▸ rfl)

end Site

end MeterGateway
