import MeterGateway.Proofs.Site.Handshake

namespace MeterGateway

def SessionCommand.request? : SessionCommand → Option (Nat × WireRequest)
  | execute ticket request => some (ticket, request)
  | close => none

namespace Session

variable {c : Session} {now : Nat} {m : Move} {t : Turn} {timeout : Nat}
  {allowed : String → WireRequest → Prop} {token : String}

theorem follow_admitted (reading : c.phase = .reading) {d : Session} (phase : d.phase = c.phase)
    (token : d.token = c.token) (l : Line.Turn) : (d.follow l).session.admitted = c.admitted := by
  rw [admitted_of_reading reading, ← token]
  obtain ⟨session, -⟩ | ⟨session, -⟩ := d.follow_session l <;> rw [session]
  · exact admitted_of_reading (phase.trans reading)
  · rfl

theorem Step.admitted_of (step : c.Step now m t) (own : ∀ accepted, m ≠ .tell accepted)
    (accepted : t.session.admitted = some token) : c.admitted = some token := by
  cases step with
  | idle | deaf | arrived | scanned | took | queued | refused => exact accepted
  | asked reading | illegible reading | hungUp reading | closed reading =>
    rw [admitted_of_reading reading]
    exact accepted
  | received reading | submitted reading | expired reading =>
    exact (follow_admitted reading (by rfl) (by rfl) _).symm.trans accepted
  | admitted told | dismissed told =>
    rw [Session.admitted, told]
    exact accepted
  | told => exact absurd rfl (own _)

theorem Step.admitted_keeps (step : c.Step now m t) (g : c.Gated timeout allowed)
    (accepted : c.admitted = some token) : t.session.admitted = some token := by
  cases step with
  | idle | deaf | arrived | scanned | took | queued | refused => exact accepted
  | asked reading next =>
    rw [admitted_of_reading reading, g.token_of_next next] at accepted
    cases accepted
  | illegible reading | hungUp reading | closed reading =>
    rw [admitted_of_reading reading] at accepted
    exact accepted
  | received reading | submitted reading | expired reading =>
    exact (follow_admitted reading (by rfl) (by rfl) _).trans accepted
  | admitted told | dismissed told =>
    rw [Session.admitted, told] at accepted
    exact accepted
  | told asking =>
    rw [Session.admitted, asking, g.judged _ (by rw [asking]; rfl)] at accepted
    cases accepted

def waiting (c : Session) : List (Nat × WireRequest) := c.commands.filterMap SessionCommand.request?

theorem Step.commands_suffix (step : c.Step now m t) (unposted : ∀ command, m ≠ .post command) :
    t.session.commands <:+ c.commands := by
  have followed : ∀ (d : Session) (l : Line.Turn), (d.follow l).session.commands <:+ d.commands := by
    intro d l
    obtain ⟨session, -⟩ | ⟨session, -⟩ := d.follow_session l
    · exact session ▸ List.suffix_refl d.commands
    · exact session ▸ List.nil_suffix
  cases step with
  | received | expired => exact followed _ _
  | submitted _ posted =>
    rw [posted]
    exact (followed _ _).trans (List.suffix_cons _ _)
  | queued => exact absurd rfl (unposted _)
  | illegible | hungUp | closed | dismissed => exact List.nil_suffix
  | _ => exact List.suffix_refl _

theorem tell_commands (c : Session) (accepted : Bool) : (c.tell accepted).commands = c.commands := by
  unfold tell
  split <;> rfl

theorem tell_false_admitted (c : Session) : (c.tell false).admitted = c.admitted := by
  unfold tell
  split
  · rename_i asking
    simp [admitted, asking]
  · rfl

theorem Turn.settledBy_admitted (t : Turn) (running : Bool) :
    (t.settledBy running).admitted = t.session.admitted := by
  obtain same | same := t.settledBy_eq running <;> rw [same]
  exact t.session.tell_false_admitted

theorem Turn.settledBy_ended {t : Turn} (ended : t.session.phase = .ended) (running : Bool) :
    t.settledBy running = t.session := by
  obtain same | same := t.settledBy_eq running <;> rw [same]
  simp [tell, ended]

theorem read_illegible (c : Session) (now : Nat) {chunk : Bytes} {framer : Framer}
    (reading : c.phase = .reading) (next : c.framer.next = (some (.token chunk), framer))
    (illegible : Utf8.decode? chunk = none) :
    (c.read now).session.phase = .ended ∧ (c.read now).session.token = c.token := by
  simp [read, reading, next, ask, illegible, finish]

theorem Turn.settledBy_commands (t : Turn) (running : Bool) :
    (t.settledBy running).commands = t.session.commands := by
  obtain same | same := t.settledBy_eq running <;> rw [same]
  exact t.session.tell_commands false

theorem shut_admitted (c : Session) : c.shut.admitted = c.admitted := by
  rw [← c.tell_false_admitted]
  unfold shut post
  split <;> rfl

theorem tell_waiting (c : Session) (accepted : Bool) : (c.tell accepted).waiting = c.waiting := by
  rw [waiting, tell_commands]
  rfl

theorem shut_waiting (c : Session) : c.shut.waiting = c.waiting := by
  rw [← c.tell_waiting false]
  unfold shut post
  split
  · rfl
  · simp [waiting, SessionCommand.request?]

theorem queue_waiting (c : Session) (ticket : Nat) (requests : List WireRequest) :
    (c.queue ticket requests).waiting = c.waiting ++ (requests.zipIdx ticket).map Prod.swap := by
  simp only [waiting, queue, List.filterMap_append, List.filterMap_map]
  rw [← List.filterMap_eq_map]
  rfl

end Session

/-! ### What a connection has heard -/

/-- The chunk that happens to arrive on a connection.  One that has ended hears nothing. -/
def Site.chunk? (s : Site) (id : Nat) : Happening → Option Bytes
  | .act _ (.arrive session (.bytes bytes)) =>
    if session = id ∧ s.port.isOpen id ∧ bytes ≠ [] then some bytes else none
  | _ => none

def Site.heard (s : Site) (id : Nat) : List Happening → List Bytes
  | [] => []
  | x :: course => (s.chunk? id x).toList ++ (s.happen x).heard id course

namespace Site

variable {s : Site} {now id : Nat} {a : Action} {c : Session} {m : Session.Move}

theorem heard_append (s : Site) (id : Nat) (course more : List Happening) :
    s.heard id (course ++ more) = s.heard id course ++ (course.foldl happen s).heard id more := by
  induction course generalizing s with
  | nil => rfl
  | cons x course ih => simp [heard, ih]

theorem chunk?_move (move : a.move? = some (id, m)) (present : s.port.session? id = some c) :
    s.chunk? id (.act now a) = m.chunk? c := by
  cases a with
  | arrive session arrival =>
    cases move
    cases arrival with
    | bytes bytes =>
      cases ended : c.hasEnded <;> by_cases empty : bytes = [] <;>
        simp [chunk?, Session.Move.chunk?, Port.isOpen, present, ended, empty]
    | ended | reset => rfl
  | _ => cases move <;> rfl

theorem chunk?_none (absent : ∀ m, a.move? = some (id, m) → s.port.session? id = none) :
    s.chunk? id (.act now a) = none := by
  cases a with
  | arrive session arrival =>
    cases arrival with
    | bytes bytes =>
      apply if_neg
      rintro ⟨rfl, heard, -⟩
      obtain ⟨c, present, -⟩ := Port.isOpen_iff.mp heard
      rw [absent _ rfl] at present
      cases present
    | ended | reset => rfl
  | _ => rfl

end Site

namespace Contact

variable {allowed : String → WireRequest → Prop} {p : Port} {now id : Nat} {a : Action} {k k' : Contact}
  {c d : Session} {heard : List Bytes}

theorem tell_hears {timeout : Nat} (g : c.Gated timeout allowed) (h : c.Hears heard) (accepted : Bool) :
    (c.tell accepted).Hears heard := by
  simpa [Session.Move.chunk?] using (c.tell_step accepted 0).hears g h

theorem settledBy_hears {t : Session.Turn} {timeout : Nat} (g : t.session.Gated timeout allowed)
    (h : t.session.Hears heard) (running : Bool) : (t.settledBy running).Hears heard := by
  obtain same | same := t.settledBy_eq running <;> rw [same]
  · exact h
  · exact tell_hears g h false

theorem shut_hears {timeout : Nat} (g : c.Gated timeout allowed) (h : c.Hears heard) :
    c.shut.Hears heard := by
  simpa [Session.Move.chunk?, Session.shut] using
    ((c.tell false).post_step .close 0).hears (tell_gated g false) (tell_hears g h false)

theorem Step.stays_rejected (step : Step p now a id k k') (known : id < p.nextSession)
    (present : k.session = some c) (r : c.Rejected) :
    ∃ d, k'.session = some d ∧ d.Rejected ∧ d.framer = c.framer ∧ k'.written = k.written := by
  have told : ∀ (d : Session) accepted, d.Rejected →
      (d.tell accepted).Rejected ∧ (d.tell accepted).framer = d.framer := by
    intro d accepted r
    obtain ⟨still, same, -⟩ := (d.tell_step accepted 0).rejected r
    exact ⟨still, same⟩
  cases step with
  | kept | entered | left => exact ⟨c, present, r, rfl, rfl⟩
  | opened _ _ new => exact absurd known (by omega)
  | @moved _ m t ns ts ws _ turn =>
    cases present
    obtain ⟨still, same, nothing⟩ := turn.rejected r
    refine ⟨_, rfl, ?_, ?_, ?_⟩
    · obtain settled | settled := t.settledBy_eq p.running <;> rw [settled]
      · exact still
      · exact (told _ false still).1
    · rw [← same]
      obtain settled | settled := t.settledBy_eq p.running <;> rw [settled]
      exact (told _ false still).2
    · rw [nothing, Option.toList_none, List.append_nil]
  | accepted | rejected =>
    exact ⟨_, congrArg (Option.map _) present, (told _ _ r).1, (told _ _ r).2, rfl⟩
  | posted =>
    cases present
    exact ⟨_, rfl, r, rfl, rfl⟩
  | shut =>
    obtain ⟨refused, same⟩ := told _ false r
    obtain ⟨still, silent, -⟩ := ((c.tell false).post_step .close 0).rejected refused
    exact ⟨_, congrArg (Option.map _) present, still, silent.trans same, rfl⟩

def Hears (heard : List Bytes) (k : Contact) : Prop :=
  match k.session with
  | some c => c.Hears heard
  | none => heard = []

theorem hears_iff (present : k.session = some c) : k.Hears heard ↔ c.Hears heard := by
  unfold Hears
  rw [present]

theorem Hears.map (h : k.Hears heard) {f : Session → Session}
    (kept : ∀ c, k.session = some c → c.Hears heard → (f c).Hears heard)
    (mapped : k'.session = k.session.map f) : k'.Hears heard := by
  unfold Hears at h ⊢
  rw [mapped]
  cases present : k.session with
  | none =>
    rw [present] at h
    exact h
  | some c =>
    rw [present] at h
    exact kept c present h

theorem Step.hears (step : Step p now a id k k') (sound : k.Sound allowed p id) {chunk : Option Bytes}
    (moves : ∀ m c, a.move? = some (id, m) → k.session = some c → chunk = m.chunk? c)
    (quiet : (∀ m, a.move? = some (id, m) → k.session = none) → chunk = none) (h : k.Hears heard) :
    k'.Hears (heard ++ chunk.toList) := by
  have silent : a.move? = none → k'.Hears heard → k'.Hears (heard ++ chunk.toList) := by
    intro still kept
    rw [quiet, Option.toList_none, List.append_nil]
    · exact kept
    · intro m move
      rw [still] at move
      cases move
  cases step with
  | kept _ absent =>
    rw [quiet absent, Option.toList_none, List.append_nil]
    exact h
  | opened accept running new =>
    have absent : k.session = none := sound.fresh (Nat.le_of_eq new.symm)
    unfold Hears at h
    rw [absent] at h
    subst accept h
    apply silent rfl
    rw [hears_iff rfl]
    exact .of_unread rfl fun _ => rfl
  | @moved c m t ns ts ws move turn =>
    have g := sound.gated c rfl
    have unposted := (Action.move?_own move).1
    rw [hears_iff rfl] at h ⊢
    rw [moves m c move rfl]
    exact settledBy_hears (turn.gated g fun _ _ post => absurd post (unposted _)) (turn.hears g h) p.running
  | entered handle | left handle =>
    subst handle
    exact silent rfl h
  | accepted handle | rejected handle =>
    subst handle
    exact silent rfl (h.map (fun c present heard => tell_hears (sound.gated c present) heard _) rfl)
  | posted going still =>
    rw [hears_iff rfl] at h
    apply silent still
    rw [hears_iff rfl]
    exact h
  | shut stop =>
    subst stop
    exact silent rfl (h.map (fun c present heard => shut_hears (sound.gated c present) heard) rfl)

/-- A session is accepted by the verdict on the token that it has sent, and by nothing else. -/
theorem Step.admitted_of (step : Step p now a id k k') (sound : k.Sound allowed p id) {token : String}
    (after : k'.session = some d) (accepted : d.admitted = some token) :
    (∃ c, k.session = some c ∧ c.admitted = some token) ∨
      (a = .handle ∧ p.inbox.head? = some (.notice id (.authenticate token)) ∧
        p.registry.isKnownToken token = true ∧ ∃ c, k.session = some c ∧ c.claimed = some token) := by
  cases step with
  | kept | entered | left => exact .inl ⟨d, after, accepted⟩
  | opened =>
    cases after
    cases accepted
  | @moved c m t ns ts ws move turn =>
    cases after
    rw [Session.Turn.settledBy_admitted] at accepted
    exact .inl ⟨c, rfl, turn.admitted_of (Action.move?_own move).2.1 accepted⟩
  | @accepted x other inbox ns ts ws handle next known held =>
    have running := sound.running (.inr held)
    obtain ⟨c, present, asking, -, -⟩ := (sound.standing running).judged
    simp only at present after
    rw [present] at after
    cases after
    rw [Session.admitted, Session.tell_phase asking true] at accepted
    cases accepted
    refine .inr ⟨handle, by rw [next]; rfl, known, c, present, ?_⟩
    rw [Session.claimed, asking]
    rfl
  | rejected =>
    obtain ⟨c, present, rfl⟩ := Option.map_eq_some_iff.mp after
    exact .inl ⟨c, present, c.tell_false_admitted ▸ accepted⟩
  | @posted c =>
    cases after
    exact .inl ⟨c, rfl, accepted⟩
  | shut =>
    obtain ⟨c, present, rfl⟩ := Option.map_eq_some_iff.mp after
    exact .inl ⟨c, present, c.shut_admitted ▸ accepted⟩

theorem Step.admitted_keeps (step : Step p now a id k k') (sound : k.Sound allowed p id) {token : String}
    (present : k.session = some c) (accepted : c.admitted = some token) :
    ∃ d, k'.session = some d ∧ d.admitted = some token := by
  have told : ∀ verdict, (c.tell verdict).admitted = some token :=
    fun verdict => (c.tell_step verdict now).admitted_keeps (sound.gated c present) accepted
  cases step with
  | kept | entered | left => exact ⟨c, present, accepted⟩
  | opened _ _ new =>
    rw [sound.fresh (Nat.le_of_eq new.symm)] at present
    cases present
  | @moved _ m t _ _ _ _ turn =>
    cases present
    refine ⟨_, rfl, ?_⟩
    rw [Session.Turn.settledBy_admitted]
    exact turn.admitted_keeps (sound.gated _ rfl) accepted
  | accepted | rejected => exact ⟨_, congrArg (Option.map _) present, told _⟩
  | posted =>
    cases present
    exact ⟨_, rfl, accepted⟩
  | shut => exact ⟨_, congrArg (Option.map _) present, c.shut_admitted.trans accepted⟩

theorem Step.waiting (step : Step p now a id k k') (sound : k.Sound allowed p id)
    (before : k.session = some c) (after : k'.session = some d) :
    d.waiting <:+ c.waiting ∨ ∃ r ∈ p.registry.devices, c.admitted = some r.token ∧
      ∃ posted, d.waiting = c.waiting ++ posted ∧
        ∀ request ∈ posted.map Prod.snd, r.Issues p.method request := by
  cases step with
  | kept | entered | left =>
    rw [before] at after
    cases after
    exact .inl (List.suffix_refl _)
  | opened _ _ new =>
    rw [sound.fresh (Nat.le_of_eq new.symm)] at before
    cases before
  | @moved _ m t ns ts ws move turn =>
    cases before
    cases after
    left
    rw [Session.waiting, Session.Turn.settledBy_commands]
    exact (turn.commands_suffix (Action.move?_own move).1).filterMap _
  | accepted | rejected =>
    simp only at before after
    rw [before] at after
    cases after
    exact .inl (c.tell_waiting _ ▸ List.suffix_refl c.waiting)
  | @posted _ r requests ns ts ws going still device known open_ fit =>
    cases before
    cases after
    have running := sound.running (.inr (List.ne_nil_of_mem known))
    refine .inr ⟨r, device, (sound.standing running).admitted known open_, _, c.queue_waiting _ _, ?_⟩
    intro request mem
    rw [List.map_map] at mem
    obtain ⟨⟨own, ticket⟩, pair, rfl⟩ := List.mem_map.mp mem
    exact fit _ (List.fst_mem_of_mem_zipIdx pair)
  | shut =>
    simp only at before after
    rw [before] at after
    cases after
    exact .inl (c.shut_waiting ▸ List.suffix_refl c.waiting)

end Contact

namespace Site

variable {s : Site} {id : Nat} {a : Action} {c : Session} {m : Session.Move} {token : String}

theorem mem_written {frame : Bytes} : frame ∈ (s.contact id).written ↔ (id, frame) ∈ s.journal.sent := by
  simp only [contact, List.mem_map, List.mem_filter, decide_eq_true_iff]
  constructor
  · rintro ⟨⟨_, _⟩, ⟨mem, rfl⟩, rfl⟩
    exact mem
  · intro mem
    exact ⟨_, ⟨mem, rfl⟩, rfl⟩

theorem act_session? {now : Nat} (move : a.move? = some (id, m)) (present : s.port.session? id = some c) :
    (s.act now a).port.session? id = some ((c.turn now m).settledBy s.port.running) := by
  have acted : s.act now a = s.take (c.turn now m) := by
    cases a <;> cases move <;> simp only [act, withSession, present] <;> rfl
  rw [acted, take_eq]
  refine (s.port.session?_putSession _ id).trans ?_
  rw [Session.Turn.settledBy_id, (c.turn_step now m).id_eq, Port.session?_id present, if_pos rfl, present]
  rfl

/-- The verdict on the token of a connection is whether the token is known when it is dealt with. -/
theorem handle_session? {allowed : String → WireRequest → Prop} {inbox : List Event} (now : Nat)
    (sound : (s.contact id).Sound allowed s.port id)
    (next : s.port.inbox = .notice id (.authenticate token) :: inbox) :
    ∃ c, s.port.session? id = some c ∧ c.phase = .asking token ∧
      (s.act now .handle).port.session? id = some { c with
        phase := .told token (s.port.registry.isKnownToken token) } := by
  obtain ⟨c, present, asking, -, held⟩ := (standing_of_notice sound next).judged
  have client : s.port.clients.any (·.session = id) = true := by
    rw [any_session]
    exact List.ne_nil_of_mem (held ▸ List.mem_singleton_self _)
  let left : Port := { s.port with inbox }
  have told : (left.authenticate id token now).session? id =
      some (c.tell (s.port.registry.isKnownToken token)) :=
    Port.authenticate_session? (p := left) present client now
  refine ⟨c, present, asking, ?_⟩
  simp only [act, handle, next]
  refine told.trans ?_
  simp [Session.tell, asking]

end Site

namespace Opening

variable {o : Opening} {course : List Happening} {id : Nat} {c d : Session} {token : String}

theorem after_heard (o : Opening) (course : List Happening) (id : Nat) :
    ((o.after course).contact id).Hears (o.site.heard id course) := by
  induction course using List.reverseRecOn with
  | nil => rfl
  | append_singleton course x ih =>
    have heard : o.site.heard id (course ++ [x]) =
        o.site.heard id course ++ ((o.after course).chunk? id x).toList := by
      rw [Site.heard_append]
      simp [Site.heard, after]
    rw [after_snoc, heard]
    cases x with
    | act now a =>
      apply ((Site.act_step _ now a).contact id).hears (o.after_sound course id) _ _ ih
      · intro m c move present
        exact Site.chunk?_move move present
      · exact Site.chunk?_none
    | elsewhere headEnd =>
      rw [show (o.after course).chunk? id (.elsewhere headEnd) = none from rfl, Option.toList_none,
        List.append_nil]
      exact ih

/-- The port has accepted this token from the connection when it was known: it is the first chunk
that was heard there, as a whole. -/
def Recognised (o : Opening) (course : List Happening) (id : Nat) (token : String) : Prop :=
  ∃ before now after, course = before ++ .act now .handle :: after ∧
    (o.after before).port.inbox.head? = some (.notice id (.authenticate token)) ∧
    (o.after before).port.registry.isKnownToken token = true ∧
    ∃ chunk rest, o.site.heard id before = chunk :: rest ∧ Utf8.decode? chunk = some token

theorem recognised_of_admitted (present : (o.after course).port.session? id = some c)
    (accepted : c.admitted = some token) : o.Recognised course id token := by
  induction course using List.reverseRecOn generalizing c with
  | nil => cases present
  | append_singleton course x ih =>
    have later : o.Recognised course id token → o.Recognised (course ++ [x]) id token := by
      rintro ⟨before, now, after, rfl, recognised⟩
      exact ⟨before, now, after ++ [x], by simp, recognised⟩
    rw [after_snoc] at present
    cases x with
    | elsewhere headEnd => exact later (ih present accepted)
    | act now a =>
      have sound := o.after_sound course id
      obtain ⟨d, before, held⟩ | ⟨rfl, head, known, d, before, claims⟩ :=
        ((Site.act_step _ now a).contact id).admitted_of sound present accepted
      · exact later (ih before held)
      · have heard := (Contact.hears_iff before).mp (o.after_heard course id)
        exact ⟨course, now, [], rfl, head, known, heard.spelled claims⟩

theorem after_rejected (present : (o.after course).port.session? id = some c) (r : c.Rejected)
    (more : List Happening) :
    ∃ d, (o.after (course ++ more)).port.session? id = some d ∧ d.Rejected ∧ d.framer = c.framer ∧
      ∀ frame, (id, frame) ∈ (o.after (course ++ more)).journal.sent →
        (id, frame) ∈ (o.after course).journal.sent := by
  induction more using List.reverseRecOn with
  | nil =>
    rw [List.append_nil]
    exact ⟨c, present, r, rfl, fun frame mem => mem⟩
  | append_singleton more x ih =>
    obtain ⟨d, before, still, same, written⟩ := ih
    rw [← List.append_assoc, after_snoc]
    cases x with
    | elsewhere headEnd => exact ⟨d, before, still, same, written⟩
    | act now a =>
      have known : id < (o.after (course ++ more)).port.nextSession := by
        by_contra beyond
        have absent := (o.after_sound (course ++ more) id).fresh (by omega)
        rw [show (o.after (course ++ more)).port.session? id = none from absent] at before
        cases before
      obtain ⟨e, after, refused, silent, kept⟩ :=
        ((Site.act_step _ now a).contact id).stays_rejected known before still
      refine ⟨e, after, refused, silent.trans same, ?_⟩
      intro frame mem
      apply written
      rw [← Site.mem_written] at mem ⊢
      exact kept ▸ mem

structure Admission (o : Opening) (course : List Happening) (id : Nat) (c : Session) : Prop where
  /-- Before that, no frames are cut, nothing is handed to the line, and nothing is written. -/
  closed : c.token = none →
    (∀ frame framer, c.framer.next ≠ (some (.frame frame), framer)) ∧
      Session.Unused o.timeout c.line ∧ ∀ frame, (id, frame) ∉ (o.after course).journal.sent
  recognised : ∀ token, c.admitted = some token → o.Recognised course id token
  judged : ∀ token inbox now, (o.after course).port.inbox = .notice id (.authenticate token) :: inbox →
    c.phase = .asking token ∧ ((o.after course).act now .handle).port.session? id = some { c with
      phase := .told token ((o.after course).port.registry.isKnownToken token) }
  illegible : ∀ chunk framer now, c.phase = .reading → c.framer.next = (some (.token chunk), framer) →
    Utf8.decode? chunk = none → ∃ d, ((o.after course).act now (.read id)).port.session? id = some d ∧
      d.Rejected ∧ d.hasEnded = true
  dismissed : ∀ token now, c.phase = .told token false →
    ∃ d, ((o.after course).act now (.heed id)).port.session? id = some d ∧ d.hasEnded = true
  /-- Whatever happens after a rejection, nothing more is read from the connection or written to it. -/
  rejected : c.Rejected → ∀ more, ∃ d, (o.after (course ++ more)).port.session? id = some d ∧
    d.Rejected ∧ d.framer = c.framer ∧ ∀ frame, (id, frame) ∉ (o.after (course ++ more)).journal.sent
  /-- The requests that are posted next are made for a device that has, at that moment, the token
  that the connection was accepted with. -/
  posted : ∀ x d, ((o.after course).happen x).port.session? id = some d →
    d.waiting <:+ c.waiting ∨ ∃ r ∈ (o.after course).port.registry.devices,
      c.admitted = some r.token ∧ ∃ posted, d.waiting = c.waiting ++ posted ∧
        ∀ request ∈ posted.map Prod.snd, r.Issues o.method request
  written : ∀ frame, (id, frame) ∈ (o.after course).journal.sent → ∃ token request tid,
    c.token = some token ∧ o.Allowed course token request ∧ request.encode tid = .ok frame

/-- A connection is admitted by its first chunk alone, and serves the devices of that token only. -/
theorem admitted_by_first_chunk (o : Opening) (course : List Happening) (id : Nat) (c : Session)
    (present : (o.after course).port.session? id = some c) : o.Admission course id c := by
  have sound := o.after_sound course id
  have gated : c.Gated o.timeout (o.Allowed course) := by
    rw [← o.after_timeout course]
    exact sound.gated c present
  have written : ∀ frame, (id, frame) ∈ (o.after course).journal.sent → ∃ token request tid,
      c.token = some token ∧ o.Allowed course token request ∧ request.encode tid = .ok frame := by
    intro frame mem
    obtain ⟨d, same, made⟩ := sound.written frame (Site.mem_written.mpr mem)
    rw [show (o.after course).port.session? id = some d from same] at present
    cases present
    exact made
  have unwritten : c.token = none → ∀ frame, (id, frame) ∉ (o.after course).journal.sent := by
    intro fresh frame mem
    obtain ⟨token, _, _, mine, -⟩ := written frame mem
    rw [fresh] at mine
    cases mine
  constructor
  case closed =>
    intro fresh
    exact ⟨gated.frames fresh, gated.line fresh, unwritten fresh⟩
  case recognised =>
    intro token accepted
    exact recognised_of_admitted present accepted
  case judged =>
    intro token inbox now next
    obtain ⟨d, same, asking, told⟩ := Site.handle_session? now sound next
    rw [present] at same
    cases same
    exact ⟨asking, told⟩
  case illegible =>
    intro chunk framer now reading next illegible
    have fresh := gated.token_of_next next
    obtain ⟨ended, same⟩ := c.read_illegible now reading next illegible
    refine ⟨(c.read now).session, ?_, ⟨same.trans fresh, .inl ended⟩, decide_eq_true ended⟩
    have moved : ((o.after course).act now (.read id)).port.session? id =
        some ((c.read now).settledBy (o.after course).port.running) :=
      Site.act_session? (m := .read) rfl present
    rw [moved, Session.Turn.settledBy_ended ended]
  case dismissed =>
    intro token now told
    have ended : c.heed.session.phase = .ended := by simp [Session.heed, told, Session.finish]
    refine ⟨c.heed.session, ?_, decide_eq_true ended⟩
    have moved : ((o.after course).act now (.heed id)).port.session? id =
        some (c.heed.settledBy (o.after course).port.running) :=
      Site.act_session? (m := .heed) rfl present
    rw [moved, Session.Turn.settledBy_ended ended]
  case rejected =>
    intro refused more
    obtain ⟨d, later, still, silent, kept⟩ := after_rejected present refused more
    exact ⟨d, later, still, silent, fun frame mem => unwritten refused.1 frame (kept frame mem)⟩
  case written => exact written
  case posted =>
    intro x d after
    cases x with
    | elsewhere headEnd =>
      rw [show (o.after course).port.session? id = some d from after] at present
      cases present
      exact .inl (List.suffix_refl _)
    | act now a =>
      have posts := ((Site.act_step _ now a).contact id).waiting sound present after
      rw [after_method] at posts
      exact posts

def stand (name token : String) : ListenConfig where
  port := 5000
  name := some name
  method := "rtu"
  accessToken := token
  devices := [{
    deviceName := "meter-1"
    timeseriesPollPeriod := some 1000
    timeseries := [{ tag := "energy" }] }]

def trial : Opening := ⟨.rtu, 500, .default, {}⟩

def greeting : List Happening :=
  [.act 0 (.addDevices (stand "quay" "k")), .act 0 .accept, .act 0 .handle, .act 0 (.arrive 0 (.bytes [0x6B])),
    .act 0 (.read 0), .act 0 (.read 0), .act 0 .handle, .act 0 (.heed 0)]

def firstPoll : List Happening := [.act 1000 (.fire 0), .act 1000 .handle, .act 1000 (.obey 0)]

theorem admitted_by_first_chunk_poll :
    let course := greeting ++ firstPoll
    ∃ c, (trial.after course).port.session? 0 = some c ∧ c.token = some "k" ∧
      (trial.after course).journal.sent = [(0, [1, 3, 0, 0, 0, 1, 0x84, 0x0A])] ∧
      trial.Admission course 0 c :=
  ⟨_, rfl, rfl, by decide +kernel, admitted_by_first_chunk _ _ _ _ rfl⟩

end Opening

end MeterGateway
