import MeterGateway.Session

namespace MeterGateway.Session

inductive Move
  | arrive : Arrival → Move
  | read : Move
  | obey : Move
  | heed : Move
  | expire : Move
  | post : SessionCommand → Move
  | tell : (accepted : Bool) → Move

def turn (s : Session) (now : Nat) : Move → Turn
  | .arrive a => { session := s.arrive a }
  | .read => s.read now
  | .obey => s.obey now
  | .heed => s.heed
  | .expire => s.expire now
  | .post command => s.post command
  | .tell accepted => { session := s.tell accepted }

inductive Step (s : Session) (now : Nat) : Move → Turn → Prop
  | idle {m} : (∀ a, m ≠ .arrive a) → (∀ command, m ≠ .post command) → Step s now m { session := s }
  | deaf {a} : s.hasEnded = true → Step s now (.arrive a) { session := s }
  | arrived {a} : s.hasEnded = false →
      Step s now (.arrive a) { session := { s with
        arrivals := s.arrivals ++ [a]
        writable := s.writable && a ≠ .reset } }
  | asked {bytes token framer} : s.phase = .reading →
      s.framer.next = (some (.token bytes), framer) → Utf8.decode? bytes = some token →
      Step s now .read
        { session := { s with framer, phase := .asking token }
          notice := some (.authenticate token) }
  | illegible {bytes framer} : s.phase = .reading →
      s.framer.next = (some (.token bytes), framer) → Utf8.decode? bytes = none →
      Step s now .read { { s with framer }.finish with
        metrics := .authRejected :: { s with framer }.finish.metrics }
  | received {frame framer} : s.phase = .reading →
      s.framer.next = (some (.frame frame), framer) →
      Step s now .read ({ s with framer }.follow (s.line.receive frame now))
  | scanned {framer} : s.phase = .reading → s.framer.next = (none, framer) → s.arrivals = [] →
      Step s now .read { session := { s with framer } }
  | took {bytes arrivals framer} : s.phase = .reading → s.framer.next = (none, framer) →
      s.arrivals = .bytes bytes :: arrivals →
      Step s now .read { session := { s with framer := framer.push bytes, arrivals } }
  | hungUp {framer} : s.phase = .reading → s.framer.next = (none, framer) →
      Step s now .read { s with framer }.finish
  | submitted {ticket request commands} : s.phase = .reading →
      s.commands = .execute ticket request :: commands →
      Step s now .obey ({ s with commands }.follow (s.line.submit ticket request now))
  | closed {commands} : s.phase = .reading → s.commands = .close :: commands →
      Step s now .obey { s with commands }.finish
  | expired : s.phase = .reading → Step s now .expire (s.follow (s.line.expire now))
  | admitted {token} : s.phase = .told token true →
      Step s now .heed
        { session := { s with
            phase := .reading
            token := some token
            framer := s.framer.authenticate }
          metrics := [.authAccepted] }
  | dismissed {token} : s.phase = .told token false →
      Step s now .heed { s.finish with metrics := .authRejected :: s.finish.metrics }
  | queued {command} : s.hasEnded = false →
      Step s now (.post command) { session := { s with commands := s.commands ++ [command] } }
  | refused {command} : s.hasEnded = true →
      Step s now (.post command) { session := s, settled := command.refusal }
  | told {token accepted} : s.phase = .asking token →
      Step s now (.tell accepted) { session := { s with phase := .told token accepted } }

theorem arrive_step (s : Session) (a : Arrival) (now : Nat) :
    Step s now (.arrive a) { session := s.arrive a } := by
  unfold arrive
  split
  case isTrue ended => exact .deaf ended
  case isFalse going => exact .arrived (by simpa using going)

theorem read_step (s : Session) (now : Nat) : Step s now .read (s.read now) := by
  unfold read
  split
  case h_1 reading =>
    split
    case h_1 bytes framer next =>
      unfold ask
      cases legible : Utf8.decode? bytes with
      | some token => exact .asked reading next legible
      | none => exact .illegible reading next legible
    case h_2 frame framer next => exact .received reading next
    case h_3 framer next =>
      split
      case h_1 nothing => exact .scanned reading next nothing
      case h_2 bytes arrivals more => exact .took reading next more
      case h_3 | h_4 => exact .hungUp reading next
  case h_2 => exact .idle nofun nofun

theorem obey_step (s : Session) (now : Nat) : Step s now .obey (s.obey now) := by
  unfold obey
  split
  case h_1 ticket request commands reading posted => exact .submitted reading posted
  case h_2 commands reading posted => exact .closed reading posted
  case h_3 => exact .idle nofun nofun

theorem heed_step (s : Session) (now : Nat) : Step s now .heed s.heed := by
  unfold heed
  split
  case h_1 token accepted => exact .admitted accepted
  case h_2 token rejected => exact .dismissed rejected
  case h_3 => exact .idle nofun nofun

theorem expire_step (s : Session) (now : Nat) : Step s now .expire (s.expire now) := by
  unfold expire
  split
  case h_1 reading => exact .expired reading
  case h_2 => exact .idle nofun nofun

theorem post_step (s : Session) (command : SessionCommand) (now : Nat) :
    Step s now (.post command) (s.post command) := by
  unfold post
  split
  case isTrue ended => exact .refused ended
  case isFalse going => exact .queued (by simpa using going)

theorem tell_step (s : Session) (accepted : Bool) (now : Nat) :
    Step s now (.tell accepted) { session := s.tell accepted } := by
  unfold tell
  split
  case h_1 token asking => exact .told asking
  case h_2 => exact .idle nofun nofun

theorem turn_step (s : Session) (now : Nat) (m : Move) : Step s now m (s.turn now m) := by
  cases m with
  | arrive a => exact s.arrive_step a now
  | read => exact s.read_step now
  | obey => exact s.obey_step now
  | heed => exact s.heed_step now
  | expire => exact s.expire_step now
  | post command => exact s.post_step command now
  | tell accepted => exact s.tell_step accepted now

theorem follow_session (s : Session) (t : Line.Turn) :
    (s.follow t).session = { s with line := t.line } ∧ (s.follow t).sent = t.sent ∧
      (s.follow t).notice = none ∨
    (s.follow t).session = { s with line := t.line }.finish.session ∧ (s.follow t).sent = none ∧
      (s.follow t).notice = some .disconnected := by
  unfold follow
  cases sent : t.sent with
  | none => exact .inl ⟨rfl, rfl, rfl⟩
  | some frame =>
    by_cases open_ : s.writable = true
    · simp [open_]
    · right
      simp only [open_]
      exact ⟨rfl, rfl, rfl⟩

@[simp] theorem finish_id (s : Session) : s.finish.session.id = s.id := rfl

@[simp] theorem tell_id (s : Session) (accepted : Bool) : (s.tell accepted).id = s.id := by
  unfold tell
  split <;> rfl

@[simp] theorem tell_token (s : Session) (accepted : Bool) : (s.tell accepted).token = s.token := by
  unfold tell
  split <;> rfl

@[simp] theorem tell_hasEnded (s : Session) (accepted : Bool) :
    (s.tell accepted).hasEnded = s.hasEnded := by
  unfold tell
  split
  · rename_i asking
    simp [hasEnded, asking]
  · rfl

theorem tell_phase {s : Session} {token : String} (asking : s.phase = .asking token) (accepted : Bool) :
    (s.tell accepted).phase = .told token accepted := by
  simp [tell, asking]

theorem tell_heed {s : Session} {token : String} (asking : s.phase = .asking token) (accepted : Bool) :
    (s.tell accepted).heed.session.hasEnded = !accepted := by
  cases accepted <;> simp [tell, asking, heed, hasEnded, finish]

@[simp] theorem follow_id (s : Session) (t : Line.Turn) : (s.follow t).session.id = s.id := by
  obtain ⟨session, -⟩ | ⟨session, -⟩ := s.follow_session t
  · rw [session]
  · rw [session, finish_id]

theorem Step.ended {s : Session} {now : Nat} {m : Move} {t : Turn} (step : Step s now m t)
    (ended : s.hasEnded = true) : t.session.hasEnded = true := by
  have phase : s.phase = .ended := of_decide_eq_true ended
  cases step with
  | idle | deaf | refused => exact ended
  | arrived going | queued going =>
    rw [ended] at going
    cases going
  | asked other | illegible other | received other | scanned other | took other | hungUp other
  | submitted other | closed other | expired other | admitted other | dismissed other | told other =>
    rw [phase] at other
    cases other

theorem Step.id_eq {s : Session} {now : Nat} {m : Move} {t : Turn} (step : Step s now m t) :
    t.session.id = s.id := by
  cases step with
  | received | submitted | expired => rw [follow_id]
  | _ => rfl

end MeterGateway.Session
