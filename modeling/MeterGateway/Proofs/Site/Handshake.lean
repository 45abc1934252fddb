import MeterGateway.Proofs.Site.Contacts

/-!
How a connection and its port come to know each other.  At a port that runs, the session, the notices
that the port has still to deal with, and what the port knows of the connection are always in step:
`Standing` lists the ways they can be.
-/

namespace MeterGateway

/-- The port knows a connection with this token, or is about to once it hears that there is one;
then these notices are left. -/
inductive Known : (token : Option String) → (left : List Notice) → (notices : List Notice) →
    (tokens : List (Option String)) → Prop
  | announced {left} : Known none left (.connected :: left) []
  | entered {token left} : Known token left left [token]

inductive Standing : Option Session → List Notice → List (Option String) → Prop
  | absent : Standing none [] []
  | reading {c ns ts} : c.phase = .reading → Known c.token [] ns ts → Standing (some c) ns ts
  | asking {c token ns ts} : c.phase = .asking token → Known none [.authenticate token] ns ts →
      Standing (some c) ns ts
  | rejected {c token ns ts} : c.phase = .told token false → Known none [] ns ts →
      Standing (some c) ns ts
  | accepted {c token ns ts} : c.phase = .told token true → Known (some token) [] ns ts →
      Standing (some c) ns ts
  | ended {c ns ts} : c.phase = .ended → Known c.token [.disconnected] ns ts → Standing (some c) ns ts
  | gone {c} : c.phase = .ended → Standing (some c) [] []

namespace Known

variable {token : Option String} {n : Notice} {ns left : List Notice} {ts : List (Option String)}

theorem append (known : Known token [] ns ts) (more : List Notice) : Known token more (ns ++ more) ts := by
  cases known with
  | announced => exact .announced
  | entered => exact .entered

theorem enter (known : Known token left (.connected :: ns) ts) (other : left.head? ≠ some .connected) :
    Known token left ns (ts ++ [none]) := by
  cases known with
  | announced => exact .entered
  | entered => exact absurd rfl other

theorem next (known : Known token left (n :: ns) ts) (other : n ≠ .connected) :
    left = n :: ns ∧ ts = [token] := by
  cases known with
  | announced => exact absurd rfl other
  | entered => exact ⟨rfl, rfl⟩

theorem left_eq (known : Known token left ns ts) (entry : ts ≠ []) : ns = left := by
  cases known with
  | announced => exact absurd rfl entry
  | entered => rfl

theorem token_eq (known : Known token left ns ts) {t : String} (mem : some t ∈ ts) : token = some t := by
  cases known with
  | announced => cases mem
  | entered => exact (List.mem_singleton.mp mem).symm

end Known

namespace Standing

variable {x : Option Session} {c d : Session} {ns : List Notice} {ts : List (Option String)}
  {token : String}

theorem of_same (standing : Standing (some c) ns ts) (phase : d.phase = c.phase)
    (token : d.token = c.token) : Standing (some d) ns ts := by
  cases standing with
  | reading reading known => exact .reading (phase.trans reading) (token ▸ known)
  | asking asking known => exact .asking (phase.trans asking) known
  | rejected rejected known => exact .rejected (phase.trans rejected) known
  | accepted accepted known => exact .accepted (phase.trans accepted) known
  | ended ended known => exact .ended (phase.trans ended) (token ▸ known)
  | gone ended => exact .gone (phase.trans ended)

theorem of_reading (standing : Standing (some c) ns ts) (reading : c.phase = .reading) :
    Known c.token [] ns ts := by
  cases standing with
  | reading _ known => exact known
  | asking other | rejected other | accepted other | ended other | gone other =>
    rw [reading] at other
    cases other

theorem of_told {verdict : Bool} (standing : Standing (some c) ns ts)
    (told : c.phase = .told token verdict) :
    Known (if verdict then some token else none) [] ns ts := by
  cases standing with
  | rejected rejected known =>
    rw [told] at rejected
    cases rejected
    exact known
  | accepted accepted known =>
    rw [told] at accepted
    cases accepted
    exact known
  | reading other | asking other | ended other | gone other =>
    rw [told] at other
    cases other

theorem entered (standing : Standing x (.connected :: ns) ts) : Standing x ns (ts ++ [none]) := by
  cases standing with
  | reading reading known => exact .reading reading (known.enter nofun)
  | asking asking known => exact .asking asking (known.enter nofun)
  | rejected rejected known => exact .rejected rejected (known.enter nofun)
  | accepted accepted known => exact .accepted accepted (known.enter nofun)
  | ended ended known => exact .ended ended (known.enter nofun)

theorem judged (standing : Standing x (.authenticate token :: ns) ts) :
    ∃ c, x = some c ∧ c.phase = .asking token ∧ ns = [] ∧ ts = [none] := by
  cases standing with
  | asking asking known =>
    obtain ⟨same, rfl⟩ := known.next nofun
    cases same
    exact ⟨_, rfl, asking, rfl, rfl⟩
  | reading _ known | rejected _ known | accepted _ known | ended _ known =>
    cases (known.next nofun).1

theorem left (standing : Standing x (.disconnected :: ns) ts) : Standing x ns [] := by
  cases standing with
  | ended ended known =>
    cases (known.next nofun).1
    exact .gone ended
  | reading _ known | asking _ known | rejected _ known | accepted _ known =>
    cases (known.next nofun).1

theorem leaving (standing : Standing x (.disconnected :: ns) ts) : ∃ t, ts = [t] := by
  cases standing with
  | ended ended known => exact ⟨_, (known.next nofun).2⟩
  | reading _ known | asking _ known | rejected _ known | accepted _ known =>
    cases (known.next nofun).1

/-- A port that knows a connection which has ended has still to hear so. -/
theorem unheard (standing : Standing (some c) ns ts) (entry : ts ≠ []) (ended : c.hasEnded = true) :
    .disconnected ∈ ns := by
  have phase : c.phase = .ended := of_decide_eq_true ended
  cases standing with
  | ended _ known =>
    rw [known.left_eq entry]
    exact List.mem_singleton_self _
  | gone => exact absurd rfl entry
  | reading other | asking other | rejected other | accepted other =>
    rw [phase] at other
    cases other

theorem admitted (standing : Standing (some c) ns ts) (known : some token ∈ ts)
    (going : c.hasEnded = false) : c.admitted = some token := by
  cases standing with
  | reading reading entry => exact (Session.admitted_of_reading reading).trans (entry.token_eq known)
  | asking _ entry | rejected _ entry => cases entry.token_eq known
  | accepted accepted entry =>
    rw [Session.admitted, accepted]
    exact entry.token_eq known
  | ended ended | gone ended => simp [Session.hasEnded, ended] at going

theorem finish (known : Known c.token [] ns ts) :
    Standing (some c.finish.session) (ns ++ [.disconnected]) ts :=
  .ended rfl (known.append _)

theorem follow (standing : Standing (some c) ns ts) (reading : c.phase = .reading) (l : Line.Turn) :
    Standing (some (c.follow l).session) (ns ++ (c.follow l).notice.toList) ts := by
  obtain ⟨session, -, quiet⟩ | ⟨session, -, notice⟩ := c.follow_session l
  · rw [session, quiet, Option.toList_none, List.append_nil]
    exact standing.of_same rfl rfl
  · rw [session, notice]
    exact .finish (standing.of_reading reading)

end Standing

theorem Session.Step.standing {c : Session} {now : Nat} {m : Session.Move} {t : Session.Turn}
    {timeout : Nat} {allowed : String → WireRequest → Prop} {ns : List Notice}
    {ts : List (Option String)} (step : c.Step now m t) (own : ∀ accepted, m ≠ .tell accepted)
    (g : c.Gated timeout allowed) (standing : Standing (some c) ns ts) :
    Standing (some t.session) (ns ++ t.notice.toList) ts := by
  have quiet : ∀ {d : Session}, d.phase = c.phase → d.token = c.token →
      Standing (some d) (ns ++ (none : Option Notice).toList) ts := by
    intro d phase token
    rw [Option.toList_none, List.append_nil]
    exact standing.of_same phase token
  cases step with
  | idle | deaf | arrived | scanned | took | queued | refused => exact quiet rfl rfl
  | asked reading next =>
    have known := standing.of_reading reading
    have fresh := g.token_of_next next
    rw [fresh] at known
    exact .asking rfl (known.append _)
  | illegible reading | hungUp reading | closed reading => exact .finish (standing.of_reading reading)
  | received reading | submitted reading | expired reading =>
    apply Standing.follow
    · exact standing.of_same rfl rfl
    · exact reading
  | @admitted token accepted =>
    rw [Option.toList_none, List.append_nil]
    exact .reading rfl (standing.of_told accepted)
  | @dismissed token rejected =>
    have fresh : c.token = none := g.judged token (by rw [rejected]; rfl)
    have known := standing.of_told rejected
    rw [if_neg Bool.false_ne_true, ← fresh] at known
    exact .finish known
  | @told token accepted => exact absurd rfl (own accepted)

theorem Session.Step.token_eq {c : Session} {now : Nat} {m : Session.Move} {t : Session.Turn}
    {timeout : Nat} {allowed : String → WireRequest → Prop} (step : c.Step now m t)
    (g : c.Gated timeout allowed) {token : String} (mine : c.token = some token) :
    t.session.token = some token := by
  have followed : ∀ (d : Session) (l : Line.Turn), (d.follow l).session.token = d.token := by
    intro d l
    obtain ⟨session, -⟩ | ⟨session, -⟩ := d.follow_session l <;> rw [session]
    rfl
  cases step with
  | received | submitted | expired => exact (followed _ _).trans mine
  | admitted accepted =>
    rw [g.judged _ (by rw [accepted]; rfl)] at mine
    cases mine
  | _ => exact mine

namespace Contact

structure Sound (allowed : String → WireRequest → Prop) (p : Port) (id : Nat) (k : Contact) : Prop where
  gated : ∀ c, k.session = some c → c.Gated p.timeout allowed
  standing : p.running = true → Standing k.session k.notices k.tokens
  stopped : p.running = false → k.notices = [] ∧ k.tokens = []
  fresh : p.nextSession ≤ id → k.session = none
  written : ∀ frame ∈ k.written, ∃ c, k.session = some c ∧ ∃ token request tid,
    c.token = some token ∧ allowed token request ∧ request.encode tid = .ok frame

variable {allowed : String → WireRequest → Prop} {p p' : Port} {now id : Nat} {a : Action} {k k' : Contact}

theorem Sound.new : (⟨none, [], [], []⟩ : Contact).Sound allowed p id where
  gated := by
    intro c mine
    cases mine
  standing := fun _ => .absent
  stopped := fun _ => ⟨rfl, rfl⟩
  fresh := fun _ => rfl
  written := by
    intro frame mem
    cases mem

theorem Sound.running (sound : k.Sound allowed p id) (heard : k.notices ≠ [] ∨ k.tokens ≠ []) :
    p.running = true := by
  by_contra stopped
  obtain ⟨quiet, unknown⟩ := sound.stopped (by simpa using stopped)
  exact heard.elim (· quiet) (· unknown)

theorem Sound.session_of_token (sound : k.Sound allowed p id) (known : k.tokens ≠ []) :
    ∃ c, k.session = some c := by
  have standing := sound.standing (sound.running (.inr known))
  generalize k.session = x, k.notices = ns, k.tokens = ts at standing known ⊢
  cases standing with
  | absent => exact absurd rfl known
  | reading | asking | rejected | accepted | ended | gone => exact ⟨_, rfl⟩

theorem Step.still_open (step : Step p now a id k k') (sound : k.Sound allowed p id) {c d : Session}
    (before : k.session = some c) (after : k'.session = some d) (going : d.hasEnded = false) :
    c.hasEnded = false := by
  have told : ∀ {x : Option Session} {accepted : Bool}, x = some c → x.map (·.tell accepted) = some d →
      c.hasEnded = false := by
    rintro x accepted rfl same
    cases same
    exact (c.tell_hasEnded accepted).symm.trans going
  cases step with
  | kept | entered | left =>
    cases before.symm.trans after
    exact going
  | opened _ _ new =>
    rw [sound.fresh (Nat.le_of_eq new.symm)] at before
    cases before
  | @moved _ m t ns ts ws _ turn =>
    cases before
    cases after
    by_contra closed
    have ended := turn.ended (by simpa using closed)
    obtain same | same := t.settledBy_eq p.running <;> simp [same, ended] at going
  | accepted | rejected => exact told before after
  | posted =>
    cases before
    cases after
    exact going
  | shut =>
    cases (congrArg (Option.map Session.shut) before).symm.trans after
    by_contra closed
    simp [closed] at going

theorem tell_gated {timeout : Nat} {c : Session} (g : c.Gated timeout allowed) (accepted : Bool) :
    (c.tell accepted).Gated timeout allowed :=
  (c.tell_step accepted 0).gated g nofun

theorem settledBy_gated {timeout : Nat} {t : Session.Turn} (g : t.session.Gated timeout allowed)
    (running : Bool) : (t.settledBy running).Gated timeout allowed := by
  obtain same | same := t.settledBy_eq running <;> rw [same]
  · exact g
  · exact tell_gated g false

theorem start_gated (id : Nat) (method : FrameMethod) (timeout : Nat) :
    (Session.start id method timeout).session.Gated timeout allowed where
  framer := rfl
  judged := nofun
  line := fun _ => .inl rfl
  commands := nofun
  outstanding := nofun

theorem queue_gated {timeout : Nat} {c : Session} (g : c.Gated timeout allowed) {token : String}
    (accepted : c.admitted = some token) {requests : List WireRequest}
    (fit : ∀ request ∈ requests, allowed token request) (ticket : Nat) :
    (c.queue ticket requests).Gated timeout allowed := by
  refine ⟨g.framer, g.judged, g.line, ?_, g.outstanding⟩
  intro n request mem
  obtain before | posted := List.mem_append.mp mem
  · exact g.commands n request before
  · obtain ⟨⟨issued, _⟩, pair, same⟩ := List.mem_map.mp posted
    cases same
    exact ⟨token, accepted, fit request (List.fst_mem_of_mem_zipIdx pair)⟩

theorem shut_gated {timeout : Nat} {c : Session} (g : c.Gated timeout allowed) :
    c.shut.Gated timeout allowed :=
  ((c.tell false).post_step .close 0).gated (tell_gated g false) nofun

theorem Sound.mono (sound : k.Sound allowed p id) {allowed' : String → WireRequest → Prop}
    (more : ∀ token request, allowed token request → allowed' token request) : k.Sound allowed' p id := by
  refine ⟨fun c mine => (sound.gated c mine).mono more, sound.standing, sound.stopped, sound.fresh, ?_⟩
  intro frame mem
  obtain ⟨c, mine, token, request, tid, own, fits, encoded⟩ := sound.written frame mem
  exact ⟨c, mine, token, request, tid, own, more token request fits, encoded⟩

/-- What is done to every session in the same way changes nothing between the connection and its
port, as long as it leaves the token alone. -/
theorem Sound.map (sound : k.Sound allowed p id) {f : Session → Session}
    (gated : ∀ c : Session, c.Gated p.timeout allowed → (f c).Gated p.timeout allowed)
    (token : ∀ c, (f c).token = c.token) :
    (∀ c, k.session.map f = some c → c.Gated p.timeout allowed) ∧
      (p.nextSession ≤ id → k.session.map f = none) ∧
      ∀ frame ∈ k.written, ∃ c, k.session.map f = some c ∧ ∃ token request tid,
        c.token = some token ∧ allowed token request ∧ request.encode tid = .ok frame := by
  refine ⟨?_, ?_, ?_⟩
  · intro d mapped
    obtain ⟨c, present, rfl⟩ := Option.map_eq_some_iff.mp mapped
    exact gated c (sound.gated c present)
  · intro beyond
    rw [sound.fresh beyond, Option.map_none]
  · intro frame mem
    obtain ⟨c, present, written⟩ := sound.written frame mem
    rw [present]
    exact ⟨f c, rfl, (token c).symm ▸ written⟩

end Contact

theorem Site.standing_of_notice {s : Site} {id : Nat} {n : Notice} {inbox : List Event}
    {allowed : String → WireRequest → Prop} (sound : (s.contact id).Sound allowed s.port id)
    (next : s.port.inbox = .notice id n :: inbox) :
    Standing (s.port.session? id) (n :: inbox.filterMap (Event.notice? id)) (s.contact id).tokens := by
  have notices : (s.contact id).notices = n :: inbox.filterMap (Event.notice? id) := by
    simp [contact, next, Event.notice?]
  have standing := sound.standing (sound.running (.inl (by simp [notices])))
  rw [notices] at standing
  exact standing

def Site.InStep (s : Site) : Prop := ∀ id, ∃ allowed, (s.contact id).Sound allowed s.port id

theorem Site.InStep.session {s : Site} (inStep : s.InStep) {client : Client}
    (known : client ∈ s.port.clients) : ∃ c, s.port.session? client.session = some c := by
  obtain ⟨allowed, sound⟩ := inStep client.session
  exact sound.session_of_token (List.ne_nil_of_mem (token_mem known))

theorem Action.move?_own {a : Action} {id : Nat} {m : Session.Move} (move : a.move? = some (id, m)) :
    (∀ command, m ≠ .post command) ∧ (∀ accepted, m ≠ .tell accepted) ∧ a ≠ .stop := by
  cases a <;> cases move <;> exact ⟨nofun, nofun, nofun⟩

theorem Site.Step.sound {s s' : Site} {now : Nat} {a : Action} {id : Nat}
    {allowed : String → WireRequest → Prop} (step : s.Step now a s')
    (issues : ∀ r ∈ s.port.registry.devices, ∀ request, r.Issues s.port.method request →
      allowed r.token request)
    (sound : (s.contact id).Sound allowed s.port id) : (s'.contact id).Sound allowed s'.port id := by
  have bears := step.contact id
  generalize s.contact id = k at bears sound
  generalize s'.contact id = k' at bears ⊢
  -- what all but a stop have in common: the port runs on if it does, and no number is used again
  have going_on : a ≠ .stop → (∀ c, k'.session = some c → c.Gated s.port.timeout allowed) →
      (s.port.running = true → Standing k'.session k'.notices k'.tokens) →
      (s.port.running = false → k'.notices = [] ∧ k'.tokens = []) →
      (s'.port.nextSession ≤ id → k'.session = none) →
      (∀ frame ∈ k'.written, ∃ c, k'.session = some c ∧ ∃ token request tid,
        c.token = some token ∧ allowed token request ∧ request.encode tid = .ok frame) →
      k'.Sound allowed s'.port id := by
    intro going gated standing stopped fresh written
    have running := step.running_eq going
    exact ⟨step.timeout_eq ▸ gated, running ▸ standing, running ▸ stopped, fresh, written⟩
  have still_fresh : s'.port.nextSession ≤ id → k.session = none := by
    intro beyond
    exact sound.fresh (Nat.le_trans step.nextSession_le beyond)
  cases bears with
  | kept going =>
    exact going_on going sound.gated sound.standing sound.stopped still_fresh sound.written
  | opened accept running new =>
    have absent : k.session = none := sound.fresh (Nat.le_of_eq new.symm)
    have standing := sound.standing running
    subst accept
    refine going_on nofun ?_ ?_ ?_ ?_ ?_
    · intro c mine
      cases mine
      exact Contact.start_gated _ _ _
    · intro _
      rw [absent] at standing
      generalize k.notices = ns at *
      generalize k.tokens = ts at *
      cases standing
      exact .reading rfl .announced
    · intro stopped
      rw [running] at stopped
      cases stopped
    · intro beyond
      rw [step.accepted_nextSession running] at beyond
      omega
    · intro frame mem
      obtain ⟨c, mine, -⟩ := sound.written frame mem
      rw [absent] at mine
      cases mine
  | @moved c m t ns ts ws move turn =>
    obtain ⟨unposted, own, going⟩ := Action.move?_own move
    have g := sound.gated c rfl
    have gated := turn.gated g fun ticket request post => absurd post (unposted _)
    refine going_on going ?_ ?_ ?_ ?_ ?_
    · intro d mine
      cases mine
      exact Contact.settledBy_gated gated _
    · intro running
      rw [running, Session.Turn.settledBy_true, if_pos rfl]
      exact turn.standing own g (sound.standing running)
    · intro stopped
      rw [stopped, if_neg Bool.false_ne_true, List.append_nil]
      exact sound.stopped stopped
    · intro beyond
      cases still_fresh beyond
    · intro frame mem
      refine ⟨_, rfl, ?_⟩
      obtain ⟨token, request, tid, mine, fits, encoded⟩ : ∃ token request tid,
          c.token = some token ∧ allowed token request ∧ request.encode tid = .ok frame := by
        obtain before | new := List.mem_append.mp mem
        · obtain ⟨d, same, written⟩ := sound.written frame before
          cases same
          exact written
        · exact turn.writes g (Option.mem_toList.mp new)
      refine ⟨token, request, tid, ?_, fits, encoded⟩
      rw [Session.Turn.settledBy_token]
      exact turn.token_eq g mine
  | entered handle =>
    subst handle
    refine going_on nofun sound.gated ?_ ?_ still_fresh sound.written
    · intro running
      exact (sound.standing running).entered
    · intro stopped
      cases (sound.stopped stopped).1
  | accepted handle next known held =>
    subst handle
    obtain ⟨gated, fresh, written⟩ := sound.map (f := (·.tell true))
      (fun c g => Contact.tell_gated g true) (fun c => c.tell_token true)
    refine going_on nofun gated ?_ ?_ (fun beyond => fresh (Nat.le_trans step.nextSession_le beyond)) written
    · intro running
      obtain ⟨c, present, asking, rfl, same⟩ := (sound.standing running).judged
      simp only at present same
      rw [present, same]
      exact .accepted (Session.tell_phase asking true) .entered
    · intro stopped
      cases (sound.stopped stopped).1
  | rejected handle unfit =>
    subst handle
    obtain ⟨gated, fresh, written⟩ := sound.map (f := (·.tell false))
      (fun c g => Contact.tell_gated g false) (fun c => c.tell_token false)
    refine going_on nofun gated ?_ ?_ (fun beyond => fresh (Nat.le_trans step.nextSession_le beyond)) written
    · intro running
      obtain ⟨c, present, asking, rfl, same⟩ := (sound.standing running).judged
      simp only at present same
      rw [present, same]
      exact .rejected (Session.tell_phase asking false) .entered
    · intro stopped
      cases (sound.stopped stopped).1
  | left handle =>
    subst handle
    refine going_on nofun sound.gated ?_ ?_ still_fresh sound.written
    · intro running
      exact (sound.standing running).left
    · intro stopped
      cases (sound.stopped stopped).1
  | @posted c r requests ns ts ws going still device known open_ fit =>
    have running := sound.running (.inr (List.ne_nil_of_mem known))
    have admitted := (sound.standing running).admitted known open_
    refine going_on going ?_ ?_ ?_ ?_ ?_
    · intro d mine
      cases mine
      exact Contact.queue_gated (sound.gated c rfl) admitted
        (fun request mem => issues r device request (fit request mem)) _
    · intro _
      exact (sound.standing running).of_same rfl rfl
    · exact sound.stopped
    · intro beyond
      cases still_fresh beyond
    · intro frame mem
      obtain ⟨d, same, written⟩ := sound.written frame mem
      cases same
      exact ⟨_, rfl, written⟩
  | shut stop =>
    subst stop
    obtain ⟨gated, fresh, written⟩ := sound.map (f := Session.shut)
      (fun c g => Contact.shut_gated g) Session.shut_token
    have stopped := step.stopped_running
    refine ⟨step.timeout_eq ▸ gated, ?_, fun _ => ⟨rfl, rfl⟩,
      fun beyond => fresh (Nat.le_trans step.nextSession_le beyond), written⟩
    intro running
    rw [stopped] at running
    cases running

theorem Site.happen_sound (s : Site) (x : Happening) {id : Nat} {allowed : String → WireRequest → Prop}
    (issues : ∀ r ∈ s.port.registry.devices, ∀ request, r.Issues s.port.method request →
      allowed r.token request)
    (sound : (s.contact id).Sound allowed s.port id) :
    ((s.happen x).contact id).Sound allowed (s.happen x).port id := by
  cases x with
  | act now a => exact (s.act_step now a).sound issues sound
  | elsewhere headEnd => exact sound

namespace Opening

variable (o : Opening)

@[simp] theorem after_method (course : List Happening) : (o.after course).port.method = o.method := by
  apply o.after_invariant (P := fun s => s.port.method = o.method)
  · rfl
  · intro s now a s' ih step
    exact step.method_eq.trans ih
  · exact fun _ _ ih => ih

@[simp] theorem after_timeout (course : List Happening) : (o.after course).port.timeout = o.timeout := by
  apply o.after_invariant (P := fun s => s.port.timeout = o.timeout)
  · rfl
  · intro s now a s' ih step
    exact step.timeout_eq.trans ih
  · exact fun _ _ ih => ih

/-- A device of the token was registered at some time of the course, and the request is one that is
made for it. -/
def Allowed (course : List Happening) (token : String) (request : WireRequest) : Prop :=
  ∃ before after, course = before ++ after ∧
    ∃ r ∈ (o.after before).port.registry.devices, r.token = token ∧ r.Issues o.method request

variable {o}

theorem Allowed.snoc {course : List Happening} {token : String} {request : WireRequest}
    (allowed : o.Allowed course token request) (x : Happening) :
    o.Allowed (course ++ [x]) token request := by
  obtain ⟨before, after, rfl, made⟩ := allowed
  exact ⟨before, after ++ [x], List.append_assoc .., made⟩

theorem allowed_of_registered {course : List Happening} {r : Record} {request : WireRequest}
    (device : r ∈ (o.after course).port.registry.devices) (made : r.Issues o.method request)
    (x : Happening) : o.Allowed (course ++ [x]) r.token request :=
  ⟨course, [x], rfl, r, device, rfl, made⟩

theorem after_sound (o : Opening) (course : List Happening) (id : Nat) :
    ((o.after course).contact id).Sound (o.Allowed course) (o.after course).port id := by
  induction course using List.reverseRecOn with
  | nil =>
    have empty : (o.after []).contact id = ⟨none, [], [], []⟩ := rfl
    rw [empty]
    exact .new
  | append_singleton course x ih =>
    rw [after_snoc]
    apply Site.happen_sound _ x _ (ih.mono fun token request allowed => allowed.snoc x)
    intro r device request made
    rw [after_method] at made
    exact allowed_of_registered device made x

theorem after_inStep (o : Opening) (course : List Happening) : (o.after course).InStep :=
  fun id => ⟨_, o.after_sound course id⟩

end Opening

end MeterGateway
