import MeterGateway.Proofs.Line.Conservation
import MeterGateway.Proofs.Session.Steps

/-!
The gate of a session.  Until its token was accepted a session cuts no frames, its line is not used,
and nothing is written; afterwards only requests that are allowed for the token are on the line,
provided that no others were posted.
-/

namespace MeterGateway

namespace Framer

variable {f g : Framer}

theorem next_authenticated {item : Option Inbound} (next : f.next = (item, g)) :
    g.authenticated = f.authenticated := by
  simp only [Framer.next] at next
  split at next
  · cases next
    rfl
  · split at next <;> cases next <;> rfl

theorem next_token {bytes : Bytes} (next : f.next = (some (.token bytes), g)) :
    f.authenticated = false ∧ f.buffer = bytes ∧ bytes ≠ [] := by
  simp only [Framer.next] at next
  split at next
  · cases next
  · rename_i filled
    split at next
    · cases cut : (cut f.method f.buffer).1 <;> simp [cut] at next
    · rename_i closed
      cases next
      exact ⟨by simpa using closed, rfl, filled⟩

theorem next_frame {bytes : Bytes} (next : f.next = (some (.frame bytes), g)) :
    f.authenticated = true := by
  simp only [Framer.next] at next
  split at next
  · cases next
  · split at next
    · assumption
    · cases next

theorem next_none (closed : f.authenticated = false) (next : f.next = (none, g)) :
    f.buffer = [] ∧ g = f := by
  simp only [Framer.next, closed, Bool.false_eq_true, if_false] at next
  split at next
  · rename_i empty
    cases next
    exact ⟨empty, rfl⟩
  · cases next

end Framer

namespace Line

variable {l : Line} {ticket : Nat} {c : Call} {t : Turn}

theorem Step.outstanding_mem (step : Step l ticket c t) {p : Pending} (mem : p ∈ t.line.outstanding) :
    p ∈ l.outstanding ∨ c.accepted? l ticket = some p := by
  cases step with
  | disconnected | unencodable | unmatched | early => exact .inl mem
  | queued on encoded =>
    simp only [outstanding, List.mem_append, List.mem_singleton, ← or_assoc] at mem ⊢
    refine mem.imp_right ?_
    rintro rfl
    simp [Call.accepted?, on, encoded]
  | started on encoded =>
    simp only [outstanding, Option.map_some, Option.toList_some, List.mem_append, List.mem_singleton] at mem ⊢
    obtain rfl | waiting := mem
    · right
      simp [Call.accepted?, on, encoded]
    · exact .inl (.inr waiting)
  | answered | late =>
    rw [advance_outstanding] at mem
    exact .inl (List.mem_append_right _ mem)
  | closed => cases mem

theorem Step.sent_mem (step : Step l ticket c t) {frame : Bytes} (sent : t.sent = some frame) :
    ∃ p, (p ∈ l.outstanding ∨ c.accepted? l ticket = some p) ∧ p.frame = frame := by
  cases step with
  | disconnected | unencodable | queued | unmatched | early | closed => cases sent
  | @started request now frame on encoded =>
    cases sent
    exact ⟨⟨ticket, l.nextTid, request, frame⟩, .inr (by simp [Call.accepted?, on, encoded]), rfl⟩
  | answered | late =>
    rw [advance_sent, Option.map_eq_some_iff] at sent
    obtain ⟨p, first, rfl⟩ := sent
    exact ⟨p, .inl (List.mem_append_right _ (List.mem_of_head? first)), rfl⟩

end Line

def Phase.judged? : Phase → Option String
  | asking token | told token _ => some token
  | _ => none

def Arrival.bytes? : Arrival → Option Bytes
  | bytes chunk => some chunk
  | ended | reset => none

namespace Session

def admitted (c : Session) : Option String :=
  match c.phase with
  | .told token true => some token
  | _ => c.token

def Unused (timeout : Nat) (l : Line) : Prop :=
  l = { timeout } ∨ l = ({ timeout } : Line).close.line

/-- The requests that are in a session are allowed for the token it was accepted with, and as long
as there is none it reads no frames. -/
structure Gated (timeout : Nat) (allowed : String → WireRequest → Prop) (c : Session) : Prop where
  framer : c.framer.authenticated = c.token.isSome
  judged : ∀ token, c.phase.judged? = some token → c.token = none
  line : c.token = none → Unused timeout c.line
  commands : ∀ ticket request, .execute ticket request ∈ c.commands →
    ∃ token, c.admitted = some token ∧ allowed token request
  outstanding : ∀ p ∈ c.line.outstanding,
    ∃ token, c.token = some token ∧ allowed token p.request ∧ p.request.encode p.tid = .ok p.frame

variable {timeout now : Nat} {allowed : String → WireRequest → Prop} {c : Session} {m : Move} {t : Turn}

theorem admitted_of_reading (reading : c.phase = .reading) : c.admitted = c.token := by
  rw [admitted, reading]

namespace Gated

theorem mono (g : c.Gated timeout allowed) {allowed' : String → WireRequest → Prop}
    (more : ∀ token request, allowed token request → allowed' token request) :
    c.Gated timeout allowed' := by
  refine ⟨g.framer, g.judged, g.line, ?_, ?_⟩
  · intro ticket request mem
    obtain ⟨token, accepted, fits⟩ := g.commands ticket request mem
    exact ⟨token, accepted, more token request fits⟩
  · intro p mem
    obtain ⟨token, mine, fits, encoded⟩ := g.outstanding p mem
    exact ⟨token, mine, more token p.request fits, encoded⟩

theorem frames (g : c.Gated timeout allowed) (closed : c.token = none) (frame : Bytes)
    (framer : Framer) : c.framer.next ≠ (some (.frame frame), framer) := by
  intro next
  have opened := Framer.next_frame next
  rw [g.framer, closed] at opened
  cases opened

theorem token_of_next (g : c.Gated timeout allowed) {chunk : Bytes} {framer : Framer}
    (next : c.framer.next = (some (.token chunk), framer)) : c.token = none := by
  have unauthenticated := (Framer.next_token next).1
  rw [g.framer] at unauthenticated
  simpa using unauthenticated

theorem with_framer (g : c.Gated timeout allowed) {framer : Framer}
    (same : framer.authenticated = c.framer.authenticated) :
    { c with framer }.Gated timeout allowed :=
  ⟨same.trans g.framer, g.judged, g.line, g.commands, g.outstanding⟩

theorem with_commands (g : c.Gated timeout allowed) {commands : List SessionCommand}
    (fewer : commands ⊆ c.commands) : { c with commands }.Gated timeout allowed :=
  ⟨g.framer, g.judged, g.line, fun ticket request mem => g.commands ticket request (fewer mem),
    g.outstanding⟩

theorem finish (g : c.Gated timeout allowed) : c.finish.session.Gated timeout allowed where
  framer := g.framer
  judged := nofun
  line := by
    intro closed
    right
    obtain unused | unused := g.line closed
    all_goals simp [Session.finish, unused, Line.close]
  commands := nofun
  outstanding := nofun

theorem follow (g : c.Gated timeout allowed) {t : Line.Turn}
    (unused : c.token = none → Unused timeout t.line)
    (outstanding : ∀ p ∈ t.line.outstanding, ∃ token, c.token = some token ∧
      allowed token p.request ∧ p.request.encode p.tid = .ok p.frame) :
    (c.follow t).session.Gated timeout allowed := by
  have went : { c with line := t.line }.Gated timeout allowed :=
    ⟨g.framer, g.judged, unused, g.commands, outstanding⟩
  obtain ⟨session, -⟩ | ⟨session, -⟩ := c.follow_session t
  · rw [session]
    exact went
  · rw [session]
    exact went.finish

theorem follow_kept (g : c.Gated timeout allowed) {call : Line.Call} {t : Line.Turn}
    (step : c.line.Step 0 call t) (unused : c.token = none → Unused timeout t.line)
    (nothing : call.accepted? c.line 0 = none) : (c.follow t).session.Gated timeout allowed := by
  apply g.follow unused
  intro p mem
  obtain before | brought := step.outstanding_mem mem
  · exact g.outstanding p before
  · rw [nothing] at brought
    cases brought

end Gated

theorem Unused.expire {l : Line} (unused : Unused timeout l) : Unused timeout (l.expire now).line := by
  obtain rfl | rfl := unused
  · exact .inl rfl
  · exact .inr rfl

theorem Step.gated (step : c.Step now m t) (g : c.Gated timeout allowed)
    (posted : ∀ ticket request, m = .post (.execute ticket request) →
      ∃ token, c.admitted = some token ∧ allowed token request) :
    t.session.Gated timeout allowed := by
  cases step with
  | idle | deaf | refused => exact g
  | arrived => exact ⟨g.framer, g.judged, g.line, g.commands, g.outstanding⟩
  | asked reading next =>
    have closed := g.token_of_next next
    refine ⟨(Framer.next_authenticated next).trans g.framer, fun _ _ => closed, g.line, ?_, g.outstanding⟩
    intro ticket request mem
    have waiting := g.commands ticket request mem
    rw [admitted_of_reading reading] at waiting
    exact waiting
  | illegible _ next | hungUp _ next => exact (g.with_framer (Framer.next_authenticated next)).finish
  | received _ next =>
    apply (g.with_framer (Framer.next_authenticated next)).follow_kept (c.line.receive_step 0 _ now)
    · intro closed
      exact absurd next (g.frames closed _ _)
    · rfl
  | scanned _ next => exact g.with_framer (Framer.next_authenticated next)
  | took _ next =>
    have taken := g.with_framer (Framer.next_authenticated next)
    exact ⟨taken.framer, g.judged, g.line, g.commands, g.outstanding⟩
  | @submitted ticket request commands reading waiting =>
    obtain ⟨token, accepted, fits⟩ := g.commands ticket request (waiting ▸ List.mem_cons_self)
    rw [admitted_of_reading reading] at accepted
    apply (g.with_commands (waiting ▸ List.subset_cons_self _ _)).follow
    · intro closed
      rw [show c.token = none from closed] at accepted
      cases accepted
    · intro p mem
      obtain before | brought := (c.line.submit_step ticket request now).outstanding_mem mem
      · exact g.outstanding p before
      · obtain ⟨own, encoded, -⟩ := Line.Call.accepted?_eq_some brought
        cases own
        exact ⟨token, accepted, fits, encoded⟩
  | closed _ waiting => exact (g.with_commands (waiting ▸ List.subset_cons_self _ _)).finish
  | expired =>
    apply g.follow_kept (c.line.expire_step 0 now)
    · intro closed
      exact (g.line closed).expire
    · rfl
  | @admitted token accepted =>
    refine ⟨rfl, nofun, nofun, ?_, ?_⟩
    · intro ticket request mem
      have waiting := g.commands ticket request mem
      rw [Session.admitted, accepted] at waiting
      exact waiting
    · intro p mem
      obtain ⟨other, before, -⟩ := g.outstanding p mem
      rw [g.judged token (by rw [accepted]; rfl)] at before
      cases before
  | dismissed => exact g.finish
  | @queued command =>
    refine ⟨g.framer, g.judged, g.line, ?_, g.outstanding⟩
    intro ticket request mem
    rw [List.mem_append, List.mem_singleton] at mem
    obtain before | new := mem
    · exact g.commands ticket request before
    · exact posted ticket request (congrArg Move.post new.symm)
  | @told token accepted asking =>
    have closed : c.token = none := g.judged token (by rw [asking]; rfl)
    refine ⟨g.framer, fun _ _ => closed, g.line, ?_, g.outstanding⟩
    intro ticket request mem
    obtain ⟨other, before, -⟩ := g.commands ticket request mem
    rw [Session.admitted, asking, closed] at before
    cases before

theorem Step.writes (step : c.Step now m t) (g : c.Gated timeout allowed) {frame : Bytes}
    (sent : t.sent = some frame) :
    ∃ token request tid, c.token = some token ∧ allowed token request ∧ request.encode tid = .ok frame := by
  have written : ∀ (d : Session) (l : Line.Turn), (d.follow l).sent = some frame → l.sent = some frame := by
    intro d l sent
    obtain ⟨-, same, -⟩ | ⟨-, nothing, -⟩ := d.follow_session l
    · exact same ▸ sent
    · rw [nothing] at sent
      cases sent
  have held : ∀ p ∈ c.line.outstanding, p.frame = frame →
      ∃ token request tid, c.token = some token ∧ allowed token request ∧ request.encode tid = .ok frame := by
    rintro p mem rfl
    obtain ⟨token, mine, fits, encoded⟩ := g.outstanding p mem
    exact ⟨token, p.request, p.tid, mine, fits, encoded⟩
  cases step with
  | received =>
    obtain ⟨p, before | brought, own⟩ := (c.line.receive_step 0 _ now).sent_mem (written _ _ sent)
    · exact held p before own
    · cases brought
  | @submitted ticket request commands reading waiting =>
    obtain ⟨p, before | brought, own⟩ := (c.line.submit_step ticket request now).sent_mem (written _ _ sent)
    · exact held p before own
    · obtain ⟨token, accepted, fits⟩ := g.commands ticket request (waiting ▸ List.mem_cons_self)
      obtain ⟨same, encoded, -⟩ := Line.Call.accepted?_eq_some brought
      rw [admitted_of_reading reading] at accepted
      cases same
      exact ⟨token, p.request, p.tid, accepted, fits, own ▸ encoded⟩
  | expired =>
    obtain ⟨p, before | brought, own⟩ := (c.line.expire_step 0 now).sent_mem (written _ _ sent)
    · exact held p before own
    · cases brought
  | _ => cases sent

/-! ### The token of a session -/

def claimed (c : Session) : Option String := c.phase.judged? <|> c.token

def Move.chunk? (c : Session) : Move → Option Bytes
  | .arrive (.bytes bytes) => if c.hasEnded ∨ bytes = [] then none else some bytes
  | _ => none

def unread (c : Session) : List Bytes :=
  (c.framer.buffer :: c.arrivals.filterMap Arrival.bytes?).filter (· ≠ [])

theorem unread_arrived (c : Session) (going : c.hasEnded = false) (a : Arrival) {d : Session}
    (framer : d.framer = c.framer) (arrivals : d.arrivals = c.arrivals ++ [a]) :
    d.unread = c.unread ++ ((Move.arrive a).chunk? c).toList := by
  rw [unread, unread, framer, arrivals, List.filterMap_append, ← List.cons_append, List.filter_append]
  congr 1
  cases a with
  | bytes bytes =>
    by_cases empty : bytes = [] <;> simp [Move.chunk?, going, empty, Arrival.bytes?]
  | ended | reset => rfl

/-- The first chunk that a session has heard is its token, as a whole; until then it has heard what
it has not read. -/
def Hears (heard : List Bytes) (c : Session) : Prop :=
  match c.claimed with
  | some token => ∃ chunk rest, heard = chunk :: rest ∧ Utf8.decode? chunk = some token
  | none => c.phase = .reading → heard = c.unread

theorem claimed_of_reading (reading : c.phase = .reading) : c.claimed = c.token := by
  rw [claimed, reading]
  rfl

namespace Hears

variable {heard : List Bytes} {d : Session} {token : String}

theorem of_spelled {chunk : Bytes} {rest : List Bytes} (claims : c.claimed = some token)
    (spells : Utf8.decode? chunk = some token) : c.Hears (chunk :: rest) := by
  unfold Hears
  rw [claims]
  exact ⟨chunk, rest, rfl, spells⟩

theorem of_unread (claims : c.claimed = none) (waits : c.phase = .reading → heard = c.unread) :
    c.Hears heard := by
  unfold Hears
  rw [claims]
  exact waits

theorem spelled (h : c.Hears heard) (claims : c.claimed = some token) :
    ∃ chunk rest, heard = chunk :: rest ∧ Utf8.decode? chunk = some token := by
  unfold Hears at h
  rw [claims] at h
  exact h

theorem unread (h : c.Hears heard) (claims : c.claimed = none) (reading : c.phase = .reading) :
    heard = c.unread := by
  unfold Hears at h
  rw [claims] at h
  exact h reading

theorem of_claimed (h : c.Hears heard) (claims : c.claimed = some token)
    (same : d.claimed = some token) (more : List Bytes) : d.Hears (heard ++ more) := by
  obtain ⟨chunk, rest, rfl, spells⟩ := h.spelled claims
  exact .of_spelled same spells

theorem of_ended (h : c.Hears heard) (ended : d.phase = .ended)
    (same : d.claimed = c.claimed ∨ d.claimed = none) : d.Hears heard := by
  have waits : d.phase = .reading → heard = d.unread := by
    rw [ended]
    nofun
  obtain same | none := same
  · cases claims : c.claimed with
    | none => exact .of_unread (same.trans claims) waits
    | some token => simpa using h.of_claimed claims (same.trans claims) []
  · exact .of_unread none waits

theorem of_reading (h : c.Hears heard) (reading : c.phase = .reading) (same : d.claimed = c.claimed)
    (unread : c.token = none → d.unread = c.unread) : d.Hears heard := by
  cases claims : c.claimed with
  | some token => simpa using h.of_claimed claims (same.trans claims) []
  | none =>
    apply of_unread (same.trans claims)
    intro _
    rw [claimed_of_reading reading] at claims
    rw [unread claims]
    exact h.unread ((claimed_of_reading reading).trans claims) reading

theorem finish (h : c.Hears heard) (reading : c.phase = .reading) (same : d.token = c.token) :
    d.finish.session.Hears heard := by
  apply h.of_ended rfl
  rw [claimed_of_reading reading]
  exact .inl same

theorem follow (h : c.Hears heard) (reading : c.phase = .reading) (phase : d.phase = c.phase)
    (token : d.token = c.token) (unread : c.token = none → d.unread = c.unread) (l : Line.Turn) :
    (d.follow l).session.Hears heard := by
  obtain ⟨session, -⟩ | ⟨session, -⟩ := d.follow_session l
  · rw [session]
    apply h.of_reading reading
    · simp only [claimed, phase, token]
    · exact unread
  · rw [session]
    exact h.finish reading token

end Hears

theorem Step.hears (step : c.Step now m t) (g : c.Gated timeout allowed) {heard : List Bytes}
    (h : c.Hears heard) : t.session.Hears (heard ++ (m.chunk? c).toList) := by
  -- only an arrival can be heard
  have silent : (∀ a, m ≠ .arrive a) → t.session.Hears heard →
      t.session.Hears (heard ++ (m.chunk? c).toList) := by
    intro quiet kept
    have nothing : m.chunk? c = none := by
      cases m with
      | arrive a => exact absurd rfl (quiet a)
      | _ => rfl
    rw [nothing, Option.toList_none, List.append_nil]
    exact kept
  have same_framer : ∀ {framer}, c.framer.next = (none, framer) → c.token = none →
      c.framer.buffer = [] ∧ framer = c.framer := by
    intro framer next fresh
    apply Framer.next_none _ next
    rw [g.framer, fresh]
    rfl
  cases step with
  | idle quiet => exact silent quiet h
  | deaf ended =>
    have nothing : ∀ a, (Move.arrive a).chunk? c = none := by
      intro a
      cases a <;> simp [Move.chunk?, ended]
    rw [nothing, Option.toList_none, List.append_nil]
    exact h
  | @arrived a going =>
    cases claims : c.claimed with
    | some token => exact h.of_claimed claims (by exact claims) _
    | none =>
      apply Hears.of_unread (by exact claims)
      intro reading
      rw [h.unread claims reading]
      symm
      apply c.unread_arrived going a <;> rfl
  | @asked bytes token framer reading next legible =>
    apply silent nofun
    obtain ⟨-, filled, some⟩ := Framer.next_token next
    have waiting := h.unread ((claimed_of_reading reading).trans (g.token_of_next next)) reading
    rw [unread, filled, List.filter_cons_of_pos (by simpa using some)] at waiting
    rw [waiting]
    exact .of_spelled rfl legible
  | illegible reading => exact silent nofun (h.finish reading rfl)
  | received reading next =>
    apply silent nofun
    apply h.follow reading
    · rfl
    · rfl
    · intro fresh
      exact absurd next (g.frames fresh _ _)
  | scanned reading next =>
    apply silent nofun
    apply h.of_reading reading
    · rfl
    · intro fresh
      rw [(same_framer next fresh).2]
  | took reading next more =>
    apply silent nofun
    apply h.of_reading reading
    · rfl
    · intro fresh
      obtain ⟨empty, rfl⟩ := same_framer next fresh
      simp [unread, Framer.push, empty, more, Arrival.bytes?]
  | hungUp reading | closed reading => exact silent nofun (h.finish reading rfl)
  | submitted reading | expired reading =>
    apply silent nofun
    apply h.follow reading
    · rfl
    · rfl
    · intro _
      rfl
  | @admitted token accepted =>
    apply silent nofun
    have claims : c.claimed = some token := by
      rw [claimed, accepted]
      rfl
    simpa using h.of_claimed claims rfl []
  | @dismissed token rejected =>
    apply silent nofun
    apply h.of_ended rfl
    exact .inr (g.judged token (by rw [rejected]; rfl))
  | queued | refused => exact silent nofun h
  | @told token accepted asking =>
    apply silent nofun
    have claims : c.claimed = some token := by
      rw [claimed, asking]
      rfl
    simpa using h.of_claimed claims rfl []

def Rejected (c : Session) : Prop :=
  c.token = none ∧ (c.phase = .ended ∨ ∃ token, c.phase = .told token false)

/-- A session that is refused reads nothing more and never writes. -/
theorem Step.rejected (step : c.Step now m t) (r : c.Rejected) :
    t.session.Rejected ∧ t.session.framer = c.framer ∧ t.sent = none := by
  obtain ⟨closed, refused⟩ := r
  have silent : c.phase ≠ .reading := by
    intro reading
    rw [reading] at refused
    obtain refused | ⟨_, refused⟩ := refused <;> cases refused
  cases step with
  | idle | deaf | refused | arrived | queued => exact ⟨⟨closed, refused⟩, rfl, rfl⟩
  | dismissed => exact ⟨⟨closed, .inl rfl⟩, rfl, rfl⟩
  | admitted accepted =>
    rw [accepted] at refused
    obtain refused | ⟨_, refused⟩ := refused <;> cases refused
  | told asking =>
    rw [asking] at refused
    obtain refused | ⟨_, refused⟩ := refused <;> cases refused
  | asked reading | illegible reading | received reading | scanned reading | took reading
  | hungUp reading | submitted reading | closed reading | expired reading =>
    exact absurd reading silent

end Session

end MeterGateway
