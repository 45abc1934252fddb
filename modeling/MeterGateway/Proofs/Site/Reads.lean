import MeterGateway.Proofs.Session.Accounts
import MeterGateway.Proofs.Site.Rounds

/-!
No read of a poll is lost.  As long as it has no outcome its request waits in a session that is open,
among the commands or on the line, and whatever the session does with it is the outcome of the read.
-/

namespace MeterGateway

namespace Session

variable {c : Session}

theorem queue_outstanding (c : Session) (ticket : Nat) (requests : List WireRequest) :
    (c.queue ticket requests).outstanding =
      c.outstanding ++ (requests.zipIdx ticket).map Prod.snd := by
  simp only [outstanding, queue, List.filterMap_append, List.filterMap_map, List.append_assoc]
  rw [← List.filterMap_eq_map (f := Prod.snd)]
  rfl

theorem queue_tidy (tidy : c.Tidy) (going : c.hasEnded = false) (ticket : Nat)
    (requests : List WireRequest) : (c.queue ticket requests).Tidy where
  orderly := tidy.orderly
  going := tidy.going
  ended := by
    intro ended
    rw [queue_hasEnded, going] at ended
    cases ended

theorem tell_tidy (tidy : c.Tidy) (accepted : Bool) : (c.tell accepted).Tidy :=
  (c.tell_step accepted 0).tidy tidy

theorem tell_outstanding (c : Session) (accepted : Bool) : (c.tell accepted).outstanding = c.outstanding := by
  unfold tell
  split <;> rfl

end Session

namespace Site

inductive SessionStep (s : Site) (now : Nat) (a : Action) (id : Nat) : Option Session → Prop
  | same : SessionStep s now a id (s.port.session? id)
  | opened : id = s.port.nextSession →
      SessionStep s now a id (some (Session.start id s.port.method s.port.timeout).session)
  | moved {c m} : s.port.session? id = some c → (c.turn now m).settled = s.settles (.act now a) →
      SessionStep s now a id (some (c.turn now m).session)
  | told {c} (accepted) : s.port.session? id = some c → SessionStep s now a id (some (c.tell accepted))
  | queued {c} (ticket requests) : s.port.session? id = some c → c.hasEnded = false →
      SessionStep s now a id (some (c.queue ticket requests))

variable {s s' : Site} {now id : Nat} {a : Action}

theorem session_tell {session : Nat} {accepted : Bool}
    (told : s'.port.sessions = (s.port.tell session accepted).sessions) :
    s.SessionStep now a id (s'.port.session? id) := by
  rw [Port.session?_congr told, Port.session?_tell]
  split
  case isTrue mine =>
    cases present : s.port.session? id with
    | none =>
      rw [Option.map_none, ← present]
      exact .same
    | some c => exact .told accepted present
  case isFalse => exact .same

theorem session_queue {session ticket : Nat} {c : Session} {requests : List WireRequest}
    (present : s.port.session? session = some c) (going : c.hasEnded = false)
    (queued : s'.port.sessions = (s.port.putSession (c.queue ticket requests)).sessions) :
    s.SessionStep now a id (s'.port.session? id) := by
  rw [Port.session?_congr queued, Port.session?_putSession, Session.queue_id, Port.session?_id present]
  split
  case isTrue mine =>
    subst mine
    rw [present]
    exact .queued ticket requests present going
  case isFalse => exact .same

theorem move_session (running : s.port.running = true) (now : Nat) {session : Nat} {m : Session.Move}
    (move : a.move? = some (session, m)) :
    s.SessionStep now a id ((s.withSession session (·.turn now m)).port.session? id) := by
  cases present : s.port.session? session with
  | none =>
    simp only [withSession, present]
    exact .same
  | some c =>
    have put : (s.withSession session (·.turn now m)).port.sessions =
        (s.port.putSession (c.turn now m).session).sessions := by
      simp only [withSession, present, take_eq, running, Session.Turn.settledBy_true]
    rw [Port.session?_congr put, Port.session?_putSession, (c.turn_step now m).id_eq,
      Port.session?_id present]
    split
    case isTrue mine =>
      subst mine
      rw [present]
      exact .moved present (settles_move now move present).symm
    case isFalse => exact .same

theorem Step.session (step : s.Step now a s') (still : a.move? = none) (going : a ≠ .stop) (id : Nat) :
    s.SessionStep now a id (s'.port.session? id) := by
  cases step with
  | accepted =>
    have welcome := s.port.session?_welcome
      (Session.start s.port.nextSession s.port.method s.port.timeout).session id
    change s.SessionStep now _ id ((s.port.welcome _).session? id)
    rw [welcome]
    split
    case isTrue first =>
      obtain rfl : id = s.port.nextSession := first
      exact .opened rfl
    case isFalse => exact .same
  | moved move =>
    rw [still] at move
    cases move
  | @handled e inbox _ next response =>
    let left : Port := { s.port with inbox }
    have told : ∀ session accepted, (left.tell session accepted).sessions =
        (s.port.tell session accepted).sessions := by
      intro session accepted
      rw [Port.tell_eq (p := s.port) (q := left) rfl]
    cases response with
    | admitted | rejected => exact session_tell (told _ _)
    | @begun _ _ _ session c _ _ _ _ present opened => exact session_queue present opened rfl
    | _ => exact .same
  | called _ _ present opened => exact session_queue present opened rfl
  | stopped => exact absurd rfl going
  | _ => exact .same

theorem act_session (running : s.port.running = true) (now : Nat) (going : a ≠ .stop) (id : Nat) :
    s.SessionStep now a id ((s.act now a).port.session? id) := by
  cases a with
  | arrive session arrival => exact move_session running now (m := .arrive arrival) rfl
  | read session => exact move_session running now (m := .read) rfl
  | obey session => exact move_session running now (m := .obey) rfl
  | heed session => exact move_session running now (m := .heed) rfl
  | expire session => exact move_session running now (m := .expire) rfl
  | _ => exact (s.act_step now _).session rfl going id

/-! ### What waits -/

section Session

variable {found : Option Session}

theorem SessionStep.tidy (step : s.SessionStep now a id found)
    (tidy : ∀ c, s.port.session? id = some c → c.Tidy) : ∀ c, found = some c → c.Tidy := by
  intro c present
  cases step with
  | same => exact tidy c present
  | opened =>
    cases present
    exact Session.start_tidy ..
  | moved held =>
    cases present
    exact (Session.turn_step _ now _).tidy (tidy _ held)
  | told accepted held =>
    cases present
    exact Session.tell_tidy (tidy _ held) accepted
  | queued ticket requests held going =>
    cases present
    exact Session.queue_tidy (tidy _ held) going ticket requests

theorem SessionStep.outstanding (step : s.SessionStep now a id found)
    (fresh : s.port.session? s.port.nextSession = none) {c : Session} (tidy : c.Tidy)
    (present : s.port.session? id = some c) {ticket : Nat} (waits : ticket ∈ c.outstanding) :
    ticket ∈ (s.settles (.act now a)).map Prod.fst ∨ ∃ c', found = some c' ∧ ticket ∈ c'.outstanding := by
  cases step with
  | same => exact .inr ⟨c, present, waits⟩
  | opened next =>
    rw [next, fresh] at present
    cases present
  | @moved d m held own =>
    obtain rfl := Option.some.inj (held.symm.trans present)
    have kept := ((d.turn_step now m).conserves tidy).mem_iff.mpr (List.mem_append_left _ waits)
    rw [List.mem_append, Session.Turn.settledTickets, own] at kept
    exact kept.imp_right fun still => ⟨_, rfl, still⟩
  | told accepted held =>
    obtain rfl := Option.some.inj (held.symm.trans present)
    exact .inr ⟨_, rfl, by rwa [Session.tell_outstanding]⟩
  | queued ticket requests held =>
    obtain rfl := Option.some.inj (held.symm.trans present)
    exact .inr ⟨_, rfl, by rw [Session.queue_outstanding]; exact List.mem_append_left _ waits⟩

end Session

def Waits (s : Site) (ticket : Nat) : Prop :=
  ∃ id c, s.port.session? id = some c ∧ c.hasEnded = false ∧ ticket ∈ c.outstanding

structure Attended (s : Site) : Prop where
  tidy : ∀ id c, s.port.session? id = some c → c.Tidy
  reads : ∀ p ∈ s.port.polls, ∀ read ∈ p.reads, read.outcome = none → s.Waits read.ticket

theorem Begins.waits {name : String} {kind : PollKind} {r : Record} {p : Poll}
    (begins : s.Begins s' name kind r p) : ∀ read ∈ p.reads, s'.Waits read.ticket := by
  intro read mem
  obtain ⟨session, c, active, present, queued⟩ := begins.posted
  obtain ⟨_, _, _, _, opened⟩ := Port.activeSession?_eq_some active
  obtain ⟨d, here, going⟩ := Port.isOpen_iff.mp opened
  obtain rfl := Option.some.inj (here.symm.trans present)
  refine ⟨session, _, queued, going, ?_⟩
  have entry : (read.point, read.ticket) ∈ p.points := List.mem_map_of_mem mem
  rw [begins.points] at entry
  have numbered := List.mem_map_of_mem (f := Prod.snd) entry
  rw [List.zipIdx_map_snd, List.length_map] at numbered
  rw [Session.queue_outstanding, List.mem_append, List.zipIdx_map_snd, List.length_map]
  exact .inr numbered

theorem Attended.step (attended : s.Attended) (running : s.port.running = true) (going : a ≠ .stop)
    (fresh : s.port.session? s.port.nextSession = none) (now : Nat) : (s.act now a).Attended := by
  have session := act_session running now going
  have tidy : ∀ id c, (s.act now a).port.session? id = some c → c.Tidy :=
    fun id => (session id).tidy (attended.tidy id)
  have on : ∀ ticket, s.Waits ticket →
      ticket ∈ (s.settles (.act now a)).map Prod.fst ∨ (s.act now a).Waits ticket := by
    rintro ticket ⟨id, c, present, -, waits⟩
    obtain settled | ⟨c', held, still⟩ :=
      (session id).outstanding fresh (attended.tidy id c present) present waits
    · exact .inl settled
    · refine .inr ⟨id, c', held, ?_, still⟩
      by_contra ended
      rw [(tidy id c' held).ended (by simpa using ended)] at still
      cases still
  have quiet : a.move? = none → ∀ p ∈ s.port.polls, ∀ read ∈ p.reads,
      read.outcome = none → (s.act now a).Waits read.ticket := by
    intro idle p held read mem none_yet
    have waits := on _ (attended.reads p held read mem none_yet)
    rw [s.settles_idle now idle] at waits
    exact waits.resolve_left nofun
  refine ⟨tidy, ?_⟩
  have paces : s.PollStep now a _ _ _ := act_paces running now going
  generalize (s.act now a).port.polls = polls, (s.act now a).port.polling = polling,
    (s.act now a).port.inbox = inbox at paces
  cases paces with
  | kept =>
    intro p mem read here none_yet
    obtain ⟨q, held, rfl⟩ := List.mem_map.mp mem
    obtain ⟨former, there, rfl⟩ := List.mem_map.mp here
    obtain ⟨before, unsettled⟩ : former.outcome = none ∧
        (s.settles (.act now a)).lookup former.ticket = none := by
      simpa [PointRead.settle] using none_yet
    refine (on _ (attended.reads q held former there before)).resolve_left ?_
    rw [List.mem_map]
    rintro ⟨entry, mem, same⟩
    have differs := List.lookup_eq_none_iff.mp unsettled entry mem
    simp [same] at differs
  | heard handling | reported handling => exact quiet (by rw [handling]; rfl)
  | begun handling _ _ begins =>
    intro p mem
    obtain old | new := List.mem_append.mp mem
    · exact quiet (by rw [handling]; rfl) p old
    · rw [List.mem_singleton.mp new]
      exact fun read here _ => begins.waits read here
  | @completed before p after completing split =>
    intro q left
    apply quiet (by rw [completing]; rfl) q
    rw [split]
    exact ((List.sublist_cons_self p after).append_left before).subset left

end Site

theorem Opening.attended (o : Opening) (course : List Happening)
    (running : (o.after course).port.running = true) : (o.after course).Attended := by
  apply o.after_running (P := fun course => (o.after course).Attended) _ _ _ course running
  · constructor
    · intro id c present
      cases present
    · intro p mem
      cases mem
  · intro course now a attended before going
    have fresh := (o.after_sound course (o.after course).port.nextSession).fresh (Nat.le_refl _)
    rw [after_snoc]
    exact attended.step before going fresh now
  · intro course headEnd attended
    rw [after_snoc]
    exact ⟨attended.tidy, attended.reads⟩

end MeterGateway
