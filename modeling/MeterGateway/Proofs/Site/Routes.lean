import MeterGateway.Proofs.Site.Calls

namespace MeterGateway

theorem getLast?_eq_max? {xs ys : List Nat} (sorted : xs.Pairwise (· < ·))
    (same : ∀ n, n ∈ xs ↔ n ∈ ys) : xs.getLast? = ys.max? := by
  cases last : xs.getLast? with
  | none =>
    obtain rfl := List.getLast?_eq_none_iff.mp last
    have nothing : ys = [] := List.eq_nil_iff_forall_not_mem.mpr fun n mem => by simpa using (same n).mpr mem
    rw [nothing]
    rfl
  | some n =>
    obtain ⟨rest, rfl⟩ := List.getLast?_eq_some_iff.mp last
    refine (List.max?_eq_some_iff.mpr ⟨(same n).mp (by simp), ?_⟩).symm
    intro m mem
    obtain before | rfl : m ∈ rest ∨ m = n := by simpa using (same m).mpr mem
    · exact Nat.le_of_lt ((List.pairwise_append.mp sorted).2.2 m before n (List.mem_singleton_self n))
    · exact Nat.le_refl _

/-! ### In order of connecting -/

def Event.connected? : Event → Option Nat
  | notice id .connected => some id
  | _ => none

namespace Session

variable {c : Session} {now : Nat} {m : Move} {t : Turn}

theorem Step.notice_ne (step : c.Step now m t) : t.notice ≠ some .connected := by
  have followed : ∀ (d : Session) (l : Line.Turn), (d.follow l).notice ≠ some .connected := by
    intro d l
    obtain ⟨-, -, notice⟩ | ⟨-, -, notice⟩ := d.follow_session l <;> simp [notice]
  cases step with
  | received | submitted | expired => exact followed _ _
  | _ => nofun

end Session

namespace Site

variable {s s' : Site} {now : Nat} {a : Action}

/-- The connections that the port knows, and those that it is about to, stand in the order in which
they were made. -/
def Ordered (s : Site) : Prop :=
  (s.port.clients.map Client.session ++ s.port.inbox.filterMap Event.connected?).Sublist
    (List.range s.port.nextSession)

theorem Ordered.of_sublist (ordered : s.Ordered)
    (fewer : (s'.port.clients.map Client.session).Sublist (s.port.clients.map Client.session))
    (pending : s'.port.inbox.filterMap Event.connected? = s.port.inbox.filterMap Event.connected?)
    (next : s'.port.nextSession = s.port.nextSession) : s'.Ordered := by
  rw [Ordered, pending, next]
  exact (fewer.append_right _).trans ordered

theorem Response.ordered {e : Event} {inbox : List Event} (next : s.port.inbox = e :: inbox)
    (response : Response { s with port := { s.port with inbox } } now e s') (ordered : s.Ordered) :
    s'.Ordered := by
  have others : e.connected? = none → inbox.filterMap Event.connected? =
      s.port.inbox.filterMap Event.connected? := by
    intro other
    rw [next, List.filterMap_cons_none other]
  have granted : ∀ session token, (s.port.clients.map (Client.grant session token)).map Client.session =
      s.port.clients.map Client.session := by
    intro session token
    simp only [List.map_map, Function.comp_def, Client.grant_session]
  cases response with
  | connected =>
    rw [Ordered, next] at ordered
    simpa [Ordered, Event.connected?] using ordered
  | admitted => exact ordered.of_sublist (granted _ _ ▸ List.Sublist.refl _) (others rfl) rfl
  | left | lost => exact ordered.of_sublist (List.filter_sublist.map _) (others rfl) rfl
  | _ => exact ordered.of_sublist (List.Sublist.refl _) (others rfl) rfl

theorem Step.ordered (step : s.Step now a s') (ordered : s.Ordered) : s'.Ordered := by
  cases step with
  | accepted =>
    have more := ordered.append_right [s.port.nextSession]
    rw [← List.range_succ, List.append_assoc] at more
    simpa [Ordered, Event.connected?] using more
  | @moved _ _ _ _ t _ _ turn =>
    have unheard : (t.notice.map (Event.notice t.session.id)).toList.filterMap Event.connected? = [] := by
      cases notice : t.notice with
      | none => rfl
      | some news =>
        cases news with
        | connected => exact absurd notice turn.notice_ne
        | authenticate | disconnected => rfl
    rw [take_eq]
    refine ordered.of_sublist (List.Sublist.refl _) ?_ rfl
    cases running : s.port.running <;> simp [unheard]
  | fired | completed =>
    refine ordered.of_sublist (List.Sublist.refl _) ?_ rfl
    cases running : s.port.running <;> simp [Event.connected?]
  | handled next response => exact response.ordered next ordered
  | stopped => exact List.nil_sublist _
  | _ => exact ordered

end Site

/-! ### In order of being accepted -/

theorem Known.mem {token : String} {left ns : List Notice} {ts : List (Option String)}
    (known : Known (some token) left ns ts) : some token ∈ ts := by
  cases known
  exact List.mem_singleton_self _

theorem Standing.mem {c : Session} {ns : List Notice} {ts : List (Option String)} {token : String}
    {timeout : Nat} {allowed : String → WireRequest → Prop} (standing : Standing (some c) ns ts)
    (g : c.Gated timeout allowed) (accepted : c.admitted = some token) (going : c.hasEnded = false) :
    some token ∈ ts := by
  cases standing with
  | reading reading known =>
    rw [Session.admitted_of_reading reading] at accepted
    exact (accepted ▸ known).mem
  | asking judged | rejected judged =>
    rw [Session.admitted, judged, g.judged _ (by rw [judged]; rfl)] at accepted
    cases accepted
  | accepted told known =>
    rw [Session.admitted, told] at accepted
    cases accepted
    exact known.mem
  | ended ended | gone ended => simp [Session.hasEnded, ended] at going

namespace Site

variable {s : Site} {id : Nat} {token : String} {x : Happening}

def admits? (s : Site) (token : String) : Happening → Option Nat
  | .act _ .handle =>
    match s.port.inbox.head? with
    | some (.notice id (.authenticate claimed)) =>
      if claimed = token ∧ s.port.registry.isKnownToken token then some id else none
    | _ => none
  | _ => none

def admissions (s : Site) (token : String) : List Happening → List Nat
  | [] => []
  | x :: course => (s.admits? token x).toList ++ (s.happen x).admissions token course

theorem admissions_append (s : Site) (token : String) (course more : List Happening) :
    s.admissions token (course ++ more) =
      s.admissions token course ++ (s.later course).admissions token more := by
  induction course generalizing s with
  | nil => rfl
  | cons x course ih => simp [admissions, later, ih]

theorem admits?_eq_some : s.admits? token x = some id ↔ ∃ now, x = .act now .handle ∧
    s.port.inbox.head? = some (.notice id (.authenticate token)) ∧
    s.port.registry.isKnownToken token = true := by
  constructor
  · intro admits
    unfold admits? at admits
    split at admits
    case h_2 => cases admits
    case h_1 now =>
      split at admits
      case h_2 => cases admits
      case h_1 other claimed head =>
        obtain ⟨⟨rfl, known⟩, same⟩ := Option.ite_none_right_eq_some.mp admits
        cases same
        exact ⟨now, rfl, head, known⟩
  · rintro ⟨now, rfl, head, known⟩
    simp only [admits?, head, known, and_self, if_true]

end Site

/-! ### Where requests go -/

def Record.command (method : FrameMethod) (r : Record) (request : RpcRequest) :
    Except GatewayError WireRequest :=
  match r.config.rpcCommand? request.method with
  | none => .error (.unknownMethod request.method)
  | some command =>
    match (r.downlink command request.params).result with
    | .error e => .error (.converter e)
    | .ok payload => WireRequest.write method r.config command payload

theorem Port.prepare_eq {p : Port} {request : RpcRequest} {r : Record}
    (found : p.registry.get? request.device = some r) :
    p.prepare request =
      match p.activeSession? r.token with
      | none => .error (.noActiveConnection request.device)
      | some id => (r.command p.method request).map (id, ·) := by
  simp only [prepare, found, Record.command]
  cases p.activeSession? r.token with
  | none => rfl
  | some id =>
    simp only
    cases r.config.rpcCommand? request.method with
    | none => rfl
    | some command =>
      simp only
      cases (r.downlink command request.params).result <;> rfl

namespace Site

variable {s : Site}

structure Routes (s : Site) (token : String) (target : Option Nat) : Prop where
  polls : ∀ now device kind inbox r, s.port.inbox = .pollDue device kind :: inbox →
    s.port.registry.get? device = some r → r.token = token → jobId device kind ∉ s.port.polling →
    ∀ id, (s.act now .handle).waitingAt id = s.waitingAt id ++
      if target = some id then
        (((Port.pointRequests s.port.method r.config kind).map Prod.snd).zipIdx
          s.port.nextTicket).map Prod.swap
      else []
  calls : ∀ now number request r, s.port.registry.get? request.device = some r → r.token = token →
    ∀ id, (s.act now (.call number request)).waitingAt id = s.waitingAt id ++
      if target = some id then
        (r.command s.port.method request).toOption.toList.map (s.port.nextTicket, ·)
      else []

theorem poll_waitingAt {device : String} {kind : PollKind} {inbox : List Event} {r : Record}
    (next : s.port.inbox = .pollDue device kind :: inbox)
    (found : s.port.registry.get? device = some r) (idle : jobId device kind ∉ s.port.polling)
    (now id : Nat) :
    (s.act now .handle).waitingAt id = s.waitingAt id ++
      if s.port.activeSession? r.token = some id then
        (((Port.pointRequests s.port.method r.config kind).map Prod.snd).zipIdx
          s.port.nextTicket).map Prod.swap
      else [] := by
  let left : Site := { s with port := { s.port with inbox } }
  have polled : s.act now .handle = left.poll device kind := by
    simp only [act, handle, next]
    rfl
  have response := left.poll_response now device kind
  rw [polled]
  generalize left.poll device kind = s' at response
  cases response with
  | underWay busy => exact absurd busy idle
  | orphaned gone =>
    rw [show s.port.registry.get? device = none from gone] at found
    cases found
  | unreachable own silent =>
    cases found.symm.trans own
    rw [show s.port.activeSession? r.token = none from silent]
    exact (List.append_nil _).symm
  | pointless own nothing =>
    cases found.symm.trans own
    rw [show Port.pointRequests s.port.method r.config kind = [] from nothing]
    exact (List.append_nil _).symm.trans (congrArg _ (ite_self _).symm)
  | @begun _ _ _ session _ _ _ own active present _ made =>
    cases found.symm.trans own
    subst made
    rw [waitingAt_queue (s := left) present rfl id, show s.port.activeSession? r.token = _ from active]
    simp only [Option.some.injEq, eq_comm (a := session)]
    rfl

theorem call_waitingAt {request : RpcRequest} {r : Record} (running : s.port.running = true)
    (found : s.port.registry.get? request.device = some r) (now number id : Nat) :
    (s.act now (.call number request)).waitingAt id = s.waitingAt id ++
      if s.port.activeSession? r.token = some id then
        (r.command s.port.method request).toOption.toList.map (s.port.nextTicket, ·)
      else [] := by
  have prepared := Port.prepare_eq found
  rw [s.act_call now running]
  cases active : s.port.activeSession? r.token with
  | none =>
    rw [active] at prepared
    simp only [call, prepared]
    exact (List.append_nil _).symm
  | some session =>
    simp only [active] at prepared
    cases made : r.command s.port.method request with
    | error e =>
      rw [made] at prepared
      simp only [call, prepared, Except.map, Except.toOption]
      exact (List.append_nil _).symm.trans (congrArg _ (ite_self _).symm)
    | ok wire =>
      rw [made] at prepared
      obtain ⟨c, present, -, accepted⟩ := s.call_accepted number prepared
      rw [accepted, waitingAt_queue present rfl id]
      simp only [Option.some.injEq, eq_comm (a := session)]
      rfl

theorem routes (running : s.port.running = true) (token : String) :
    s.Routes token (s.port.activeSession? token) where
  polls := by
    rintro now device kind inbox r next found rfl idle id
    exact poll_waitingAt next found idle now id
  calls := by
    rintro now number request r found rfl id
    exact call_waitingAt running found now number id

end Site

namespace Opening

variable {o : Opening} {course : List Happening} {token : String} {id : Nat}

theorem after_ordered (o : Opening) (course : List Happening) : (o.after course).Ordered :=
  o.after_invariant (List.nil_sublist _) (fun _ _ _ _ ordered step => step.ordered ordered)
    (fun _ _ ordered => ordered) course

theorem admissions_snoc (o : Opening) (token : String) (course : List Happening) (x : Happening) :
    o.site.admissions token (course ++ [x]) =
      o.site.admissions token course ++ ((o.after course).admits? token x).toList := by
  rw [Site.admissions_append]
  simp [Site.admissions, Site.later, after]

/-- The connections that are accepted are those whose sessions were, and they remain so. -/
theorem mem_admissions : id ∈ o.site.admissions token course ↔
    ∃ c, (o.after course).port.session? id = some c ∧ c.admitted = some token := by
  induction course using List.reverseRecOn with
  | nil =>
    constructor
    · nofun
    · rintro ⟨c, present, -⟩
      cases present
  | append_singleton course x ih =>
    rw [admissions_snoc, List.mem_append, ih, Option.mem_toList, Site.admits?_eq_some, after_snoc]
    have sound := o.after_sound course id
    cases x with
    | elsewhere headEnd =>
      refine ⟨fun accepted => ?_, .inl⟩
      obtain before | ⟨now, same, -⟩ := accepted
      · exact before
      · cases same
    | act now a =>
      have step := (Site.act_step (o.after course) now a).contact id
      constructor
      · rintro (⟨c, present, accepted⟩ | ⟨_, same, head, known⟩)
        · exact step.admitted_keeps sound present accepted
        · cases same
          obtain ⟨inbox, next⟩ := List.head?_eq_some_iff.mp head
          obtain ⟨c, -, -, told⟩ := Site.handle_session? now sound next
          refine ⟨_, told, ?_⟩
          rw [known]
          rfl
      · rintro ⟨d, after, accepted⟩
        obtain before | ⟨rfl, head, known, -⟩ := step.admitted_of sound after accepted
        · exact .inl before
        · exact .inr ⟨now, rfl, head, known⟩

theorem serves_iff (running : (o.after course).port.running = true) :
    (o.after course).port.Serves token id ↔
      id ∈ o.site.admissions token course ∧ (o.after course).port.isOpen id = true := by
  have sound := o.after_sound course id
  have standing := sound.standing running
  rw [mem_admissions]
  constructor
  · rintro ⟨client, known, rfl, owned, opened⟩
    refine ⟨?_, opened⟩
    obtain ⟨c, present, going⟩ := Port.isOpen_iff.mp opened
    rw [show ((o.after course).contact client.session).session = some c from present] at standing
    exact ⟨c, present, standing.admitted (owned ▸ Site.token_mem known) going⟩
  · rintro ⟨⟨c, present, accepted⟩, opened⟩
    obtain ⟨d, same, going⟩ := Port.isOpen_iff.mp opened
    cases present.symm.trans same
    have gated := sound.gated c present
    rw [show ((o.after course).contact id).session = some c from present] at standing
    obtain ⟨client, own, token⟩ := List.mem_map.mp (standing.mem gated accepted going)
    obtain ⟨known, mine⟩ := List.mem_filter.mp own
    exact ⟨client, known, of_decide_eq_true mine, token, opened⟩

theorem activeSession?_eq (running : (o.after course).port.running = true) (token : String) :
    (o.after course).port.activeSession? token =
      ((o.site.admissions token course).filter (o.after course).port.isOpen).max? := by
  let p := (o.after course).port
  let serving := (p.clients.filter fun c => c.token = some token && p.isOpen c.session).map Client.session
  have last : p.activeSession? token = serving.getLast? := by
    rw [Port.activeSession?, ← List.head?_filter, List.filter_reverse, List.head?_reverse,
      List.getLast?_map]
  have sorted : serving.Pairwise (· < ·) := by
    have known : (p.clients.map Client.session).Sublist (List.range p.nextSession) :=
      (List.sublist_append_left _ _).trans (o.after_ordered course)
    exact List.pairwise_lt_range.sublist ((List.filter_sublist.map _).trans known)
  have same : ∀ id, id ∈ serving ↔ p.Serves token id := by
    intro id
    simp only [serving, Port.Serves, List.mem_map, List.mem_filter, Bool.and_eq_true, decide_eq_true_iff]
    constructor
    · rintro ⟨client, ⟨known, owned, opened⟩, rfl⟩
      exact ⟨client, known, rfl, owned, opened⟩
    · rintro ⟨client, known, rfl, owned, opened⟩
      exact ⟨client, ⟨known, owned, opened⟩, rfl⟩
  rw [show (o.after course).port.activeSession? token = _ from last]
  apply getLast?_eq_max? sorted
  intro id
  rw [same, serves_iff running, List.mem_filter]

/-- The requests for the devices of a token go to the connection that connected last among those that
were accepted with it and are open; this is the one accepted last if they were accepted in the order
in which they connected. -/
theorem requests_go_to_last_connected (o : Opening) (course : List Happening) (token : String)
    (running : (o.after course).port.running = true) :
    let accepted := (o.site.admissions token course).filter (o.after course).port.isOpen
    (o.after course).Routes token accepted.max? ∧
      (accepted ≠ [] → ∃ id ∈ accepted, accepted.max? = some id) ∧
      (accepted.Pairwise (· < ·) → (o.after course).Routes token accepted.getLast?) := by
  intro accepted
  have routes : (o.after course).Routes token accepted.max? :=
    activeSession?_eq running token ▸ Site.routes running token
  refine ⟨routes, ?_, ?_⟩
  · intro some_accepted
    obtain ⟨id, last⟩ := Option.isSome_iff_exists.mp (List.isSome_max?_of_ne_nil some_accepted)
    exact ⟨id, (List.max?_eq_some_iff.mp last).1, last⟩
  · intro sorted
    rw [getLast?_eq_max? sorted fun _ => Iff.rfl]
    exact routes

def rivals : List Happening :=
  [.act 0 (.addDevices (stand "quay" "k")), .act 0 .accept, .act 0 .accept, .act 0 .handle, .act 0 .handle,
    .act 0 (.arrive 1 (.bytes [0x6B])), .act 0 (.read 1), .act 0 (.read 1), .act 0 .handle, .act 0 (.heed 1),
    .act 0 (.arrive 0 (.bytes [0x6B])), .act 0 (.read 0), .act 0 (.read 0), .act 0 .handle, .act 0 (.heed 0)]

def dueRivals : List Happening := rivals ++ [.act 1000 (.fire 1)]

theorem requests_go_to_last_connected_rivals :
    (trial.after dueRivals).port.running = true ∧
      (trial.site.admissions "k" dueRivals).filter (trial.after dueRivals).port.isOpen = [1, 0] ∧
      (trial.after dueRivals).port.inbox = [.pollDue "meter-1" .timeseries] ∧
      (trial.after dueRivals).Routes "k" (some 1) := by
  have running : (trial.after dueRivals).port.running = true := rfl
  have accepted : (trial.site.admissions "k" dueRivals).filter (trial.after dueRivals).port.isOpen =
      [1, 0] := by decide +kernel
  have routes := (requests_go_to_last_connected trial dueRivals "k" running).1
  rw [accepted] at routes
  exact ⟨running, accepted, rfl, routes⟩

/-- The connection that was accepted last is open, and the other one is polled. -/
theorem last_accepted_is_passed_over :
    trial.site.admissions "k" dueRivals = [1, 0] ∧
      (trial.after dueRivals).port.isOpen 0 = true ∧
      (trial.after (dueRivals ++ [.act 1000 .handle, .act 1000 (.obey 0), .act 1000 (.obey 1)])).journal.sent =
        [(1, [1, 3, 0, 0, 0, 1, 0x84, 0x0A])] := by
  decide +kernel

end Opening

end MeterGateway
