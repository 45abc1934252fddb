import MeterGateway.Proofs.Line.Correlation
import MeterGateway.Proofs.Session.Steps

namespace MeterGateway

def SessionCommand.ticket? : SessionCommand → Option Nat
  | execute ticket _ => some ticket
  | close => none

theorem SessionCommand.refusal_eq (command : SessionCommand) :
    command.refusal = command.ticket?.toList.map (·, .failed .notConnected) := by
  cases command <;> rfl

theorem SessionCommand.refusals_eq (commands : List SessionCommand) :
    commands.flatMap refusal = (commands.filterMap ticket?).map (·, .failed .notConnected) := by
  induction commands with
  | nil => rfl
  | cons command commands ih =>
    rw [List.flatMap_cons, refusal_eq, ih, List.filterMap_cons]
    cases command.ticket? <;> rfl

namespace Line

variable {l : Line} {ticket : Nat} {c : Call} {t : Turn}

theorem Step.tickets (step : Step l ticket c t) (o : l.Orderly) :
    (t.settledTickets ++ t.line.outstanding.map Pending.ticket).Perm
      (l.outstanding.map Pending.ticket ++ (c.request?.map fun _ => ticket).toList) := by
  obtain ⟨asked, -, refused, kept⟩ | ⟨done, settled, kept, asked⟩ := step.conserves o
  · obtain ⟨request, asked⟩ := Option.isSome_iff_exists.mp asked
    rw [refused, kept, asked]
    exact List.perm_append_comm
  · rw [settled, ← List.map_append, kept, List.map_append]
    apply List.Perm.of_eq
    cases accepted : c.accepted? l ticket with
    | none =>
      rw [accepted, Option.isSome_none, Option.isSome_eq_false_iff,
        Option.isNone_iff_eq_none] at asked
      rw [asked]
      rfl
    | some p =>
      obtain ⟨request, -, own, -⟩ := Call.accepted?_eq_some accepted
      rw [request, ← own]
      rfl

theorem Step.connected_eq (step : Step l ticket c t) (going : c ≠ .close) :
    t.line.connected = l.connected := by
  cases step with
  | answered | late => exact advance_connected ..
  | closed => exact absurd rfl going
  | _ => rfl

theorem Step.times_out {now : Nat} (step : Step l ticket (.expire now) t) {entry : Nat × Outcome}
    (settled : entry ∈ t.settled) :
    ∃ f, l.inFlight = some f ∧ f.deadline ≤ now ∧ entry = (f.pending.ticket, .timedOut) := by
  cases step with
  | early => cases settled
  | @late _ f flying due =>
    rw [advance_settled] at settled
    exact ⟨f, flying, due, List.mem_singleton.mp settled⟩

theorem Step.refuses {request : WireRequest} {now : Nat}
    (step : Step l ticket (.submit request now) t) (connected : l.connected = true)
    {entry : Nat × Outcome} (settled : entry ∈ t.settled) :
    ∃ e, request.encode l.nextTid = .error e ∧ entry = (ticket, .failed (.codec e)) := by
  cases step with
  | disconnected off =>
    rw [connected] at off
    cases off
  | @unencodable _ _ e _ failed => exact ⟨e, failed, List.mem_singleton.mp settled⟩
  | queued | started => cases settled

end Line

namespace Session

def Turn.settledTickets (t : Turn) : List Nat := t.settled.map Prod.fst

def Move.ticket? : Move → Option Nat
  | .post command => command.ticket?
  | _ => none

def outstanding (s : Session) : List Nat :=
  s.line.outstanding.map Pending.ticket ++ s.commands.filterMap SessionCommand.ticket?

@[simp] theorem finish_outstanding (s : Session) : s.finish.session.outstanding = [] := rfl

theorem finish_settled (s : Session) :
    s.finish.settled = s.outstanding.map (·, .failed .notConnected) := by
  rw [outstanding, List.map_append, ← SessionCommand.refusals_eq, List.map_map]
  rfl

theorem finish_settledTickets (s : Session) : s.finish.settledTickets = s.outstanding := by
  simp [Turn.settledTickets, finish_settled, Function.comp_def]

theorem follow_unwritable {s : Session} {t : Line.Turn} (sent : t.sent.isSome = true)
    (shut : s.writable = false) :
    (s.follow t).session = { s with line := t.line }.finish.session ∧
      (s.follow t).settled = t.settled ++ { s with line := t.line }.finish.settled ∧
      (s.follow t).sent = none := by
  obtain ⟨frame, sent⟩ := Option.isSome_iff_exists.mp sent
  simp only [follow, sent, shut]
  exact ⟨rfl, rfl, rfl⟩

theorem follow_settled (s : Session) (t : Line.Turn) :
    (s.follow t).session = { s with line := t.line } ∧ (s.follow t).settled = t.settled ∧
      (s.follow t).sent = t.sent ∨
    t.sent.isSome = true ∧ s.writable = false ∧
      (s.follow t).session = { s with line := t.line }.finish.session ∧
      (s.follow t).settled = t.settled ++ { s with line := t.line }.finish.settled ∧
      (s.follow t).sent = none := by
  cases sent : t.sent with
  | none =>
    left
    simp [follow, sent]
  | some frame =>
    by_cases open_ : s.writable = true
    · left
      simp [follow, sent, open_]
    · right
      rw [Bool.not_eq_true] at open_
      exact ⟨rfl, open_, follow_unwritable (by rw [sent]; rfl) open_⟩

theorem follow_tickets (s : Session) (t : Line.Turn) :
    (s.follow t).settledTickets ++ (s.follow t).session.outstanding =
      t.settledTickets ++ { s with line := t.line }.outstanding := by
  obtain ⟨session, settled, -⟩ | ⟨-, -, session, settled, -⟩ := s.follow_settled t
  · rw [session, Turn.settledTickets, settled]
    rfl
  · rw [session, Turn.settledTickets, settled, List.map_append, finish_outstanding, List.append_nil,
      ← finish_settledTickets]
    rfl

structure Tidy (s : Session) : Prop where
  orderly : s.line.Orderly
  going : s.hasEnded = false → s.line.connected = true
  ended : s.hasEnded = true → s.outstanding = []

theorem finish_tidy (s : Session) : s.finish.session.Tidy where
  orderly := ⟨fun _ => rfl, fun _ => rfl⟩
  going := nofun
  ended _ := rfl

theorem follow_tidy {s : Session} {t : Line.Turn} (going : s.hasEnded = false)
    (orderly : t.line.Orderly) (connected : t.line.connected = true) :
    (s.follow t).session.Tidy := by
  obtain ⟨session, -⟩ | ⟨-, -, session, -⟩ := s.follow_settled t
  · rw [session]
    refine ⟨orderly, fun _ => connected, ?_⟩
    intro ended
    exact absurd ended (by simpa [hasEnded] using going)
  · rw [session]
    exact finish_tidy _

theorem hasEnded_of_reading {s : Session} (reading : s.phase = .reading) : s.hasEnded = false := by
  rw [hasEnded, reading]
  rfl

section Steps

variable {s : Session} {now : Nat} {m : Move} {t : Turn}

theorem Step.tidy (step : Step s now m t) (tidy : s.Tidy) : t.session.Tidy := by
  have same {r : Session} (going : s.hasEnded = false) (line : r.line = s.line)
      (goes_on : r.hasEnded = false) : r.Tidy := by
    refine ⟨line ▸ tidy.orderly, fun _ => line ▸ tidy.going going, fun ended => ?_⟩
    rw [goes_on] at ended
    cases ended
  have called {r : Session} {n : Nat} {c : Line.Call} {t : Line.Turn} (reading : s.phase = .reading)
      (step : Line.Step s.line n c t) (open_ : c ≠ .close) (goes_on : r.hasEnded = false) :
      (r.follow t).session.Tidy :=
    follow_tidy goes_on (step.orderly tidy.orderly)
      ((step.connected_eq open_).trans (tidy.going (hasEnded_of_reading reading)))
  cases step with
  | idle | deaf | refused => exact tidy
  | illegible | hungUp | closed | dismissed => exact finish_tidy _
  | received reading =>
    exact called reading (Line.receive_step _ 0 _ now) Line.Call.noConfusion
      (hasEnded_of_reading reading)
  | submitted reading =>
    exact called reading (Line.submit_step _ _ _ now) Line.Call.noConfusion
      (hasEnded_of_reading reading)
  | expired reading =>
    exact called reading (Line.expire_step _ 0 now) Line.Call.noConfusion
      (hasEnded_of_reading reading)
  | arrived going | queued going => exact same going rfl going
  | asked reading => exact same (hasEnded_of_reading reading) rfl rfl
  | scanned reading | took reading =>
    exact same (hasEnded_of_reading reading) rfl (hasEnded_of_reading reading)
  | admitted told | told told =>
    exact same (by rw [hasEnded, told]; rfl) rfl rfl

theorem Step.conserves (step : Step s now m t) (tidy : s.Tidy) :
    (t.settledTickets ++ t.session.outstanding).Perm (s.outstanding ++ m.ticket?.toList) := by
  have called {r : Session} {n : Nat} {c : Line.Call} {t : Line.Turn}
      (step : Line.Step s.line n c t) :
      ((r.follow t).settledTickets ++ (r.follow t).session.outstanding).Perm
        (s.line.outstanding.map Pending.ticket ++ (c.request?.map fun _ => n).toList ++
          r.commands.filterMap SessionCommand.ticket?) := by
    rw [follow_tickets, outstanding, ← List.append_assoc]
    exact (step.tickets tidy.orderly).append_right _
  have ended {r : Session} (same : r.outstanding = s.outstanding) :
      (r.finish.settledTickets ++ r.finish.session.outstanding).Perm (s.outstanding ++ []) := by
    rw [finish_settledTickets, finish_outstanding, same]
  cases step with
  | idle _ quiet =>
    cases m with
    | post command => exact absurd rfl (quiet command)
    | _ => simp [Turn.settledTickets, Move.ticket?]
  | deaf | arrived | asked | scanned | took | admitted | told =>
    simp [Turn.settledTickets, Move.ticket?, outstanding]
  | illegible | hungUp | dismissed => exact ended rfl
  | @closed commands _ posted =>
    refine ended (r := { s with commands }) ?_
    rw [outstanding, outstanding, posted, List.filterMap_cons]
    rfl
  | received =>
    refine (called (Line.receive_step s.line 0 _ now)).trans (.of_eq ?_)
    simp [Line.Call.request?, Move.ticket?, outstanding]
  | expired =>
    refine (called (Line.expire_step s.line 0 now)).trans (.of_eq ?_)
    simp [Line.Call.request?, Move.ticket?, outstanding]
  | submitted _ posted =>
    refine (called (Line.submit_step s.line _ _ now)).trans (.of_eq ?_)
    simp [Line.Call.request?, Move.ticket?, outstanding, posted, SessionCommand.ticket?]
  | @queued command =>
    apply List.Perm.of_eq
    cases command <;> simp [Turn.settledTickets, Move.ticket?, outstanding, SessionCommand.ticket?]
  | @refused command =>
    refine .trans (.of_eq ?_) List.perm_append_comm
    rw [Turn.settledTickets, SessionCommand.refusal_eq]
    simp [Move.ticket?, Function.comp_def]

/-- Why a request is settled: by a frame that answers it, by its deadline, because it cannot be
encoded, or as not connected by the end of the session. -/
inductive Cause (s : Session) (now : Nat) : Move → Turn → Nat × Outcome → Prop
  | answered {t frame framer f} : s.phase = .reading →
      s.framer.next = (some (.frame frame), framer) → s.line.inFlight = some f →
      f.pending.request.correlates f.pending.tid frame = true →
      Cause s now .read t (f.pending.ticket, (Line.judge f.pending.request frame).1)
  | late {t f} : s.phase = .reading → s.line.inFlight = some f → f.deadline ≤ now →
      Cause s now .expire t (f.pending.ticket, .timedOut)
  | unencodable {t ticket request commands e} : s.phase = .reading →
      s.commands = .execute ticket request :: commands →
      request.encode s.line.nextTid = .error e →
      Cause s now .obey t (ticket, .failed (.codec e))
  | ending {m t ticket} : s.hasEnded = false → t.session.hasEnded = true → ticket ∈ s.outstanding →
      Cause s now m t (ticket, .failed .notConnected)
  | ended {t ticket request} : s.hasEnded = true →
      Cause s now (.post (.execute ticket request)) t (ticket, .failed .notConnected)

theorem Step.cause (step : Step s now m t) (tidy : s.Tidy) {entry : Nat × Outcome}
    (settled : entry ∈ t.settled) : Cause s now m t entry := by
  have waits : entry.1 ∈ s.outstanding ++ m.ticket?.toList := by
    rw [← (step.conserves tidy).mem_iff]
    exact List.mem_append_left _ (List.mem_map_of_mem settled)
  -- what is settled at the end was not settled by the move itself
  have ending {r : Session} (going : s.hasEnded = false) (quiet : m.ticket? = none)
      (ended : t.session.hasEnded = true) (mem : entry ∈ r.finish.settled) :
      Cause s now m t entry := by
    rw [finish_settled, List.mem_map] at mem
    obtain ⟨ticket, -, rfl⟩ := mem
    rw [quiet, Option.toList_none, List.append_nil] at waits
    exact .ending going ended waits
  have followed {r : Session} {l : Line.Turn} (turn : t = r.follow l)
      (going : s.hasEnded = false) (quiet : m.ticket? = none)
      (own : entry ∈ l.settled → Cause s now m t entry) : Cause s now m t entry := by
    obtain ⟨-, same, -⟩ | ⟨-, -, session, more, -⟩ := r.follow_settled l
    · rw [turn, same] at settled
      exact own settled
    · rw [turn, more, List.mem_append] at settled
      obtain settled | settled := settled
      · exact own settled
      · refine ending going quiet ?_ settled
        rw [turn, session]
        rfl
  cases step with
  | idle | deaf | arrived | asked | scanned | took | admitted | queued | told => cases settled
  | illegible reading | hungUp reading | closed reading =>
    exact ending (hasEnded_of_reading reading) rfl rfl settled
  | dismissed told => exact ending (by rw [hasEnded, told]; rfl) rfl rfl settled
  | received reading next =>
    refine followed rfl (hasEnded_of_reading reading) rfl ?_
    intro mem
    obtain ⟨ticket, outcome⟩ := entry
    obtain ⟨f, flying, rfl, correlates, rfl⟩ := (Line.receive_step s.line 0 _ now).receives mem
    exact .answered reading next flying correlates
  | submitted reading posted =>
    refine followed rfl (hasEnded_of_reading reading) rfl ?_
    intro mem
    have connected := tidy.going (hasEnded_of_reading reading)
    obtain ⟨e, failed, rfl⟩ := (Line.submit_step s.line _ _ now).refuses connected mem
    exact .unencodable reading posted failed
  | expired reading =>
    refine followed rfl (hasEnded_of_reading reading) rfl ?_
    intro mem
    obtain ⟨f, flying, due, rfl⟩ := (Line.expire_step s.line 0 now).times_out mem
    exact .late reading flying due
  | @refused command ended =>
    cases command with
    | execute ticket request =>
      obtain rfl := List.mem_singleton.mp settled
      exact .ended ended
    | close => cases settled

theorem Step.after_end (step : Step s now m t) (ended : s.hasEnded = true) :
    t.session = s ∧ t.sent = none ∧ t.settled = m.ticket?.toList.map (·, .failed .notConnected) := by
  have phase : s.phase = .ended := of_decide_eq_true ended
  cases step with
  | idle _ quiet =>
    cases m with
    | post command => exact absurd rfl (quiet command)
    | _ => exact ⟨rfl, rfl, rfl⟩
  | deaf => exact ⟨rfl, rfl, rfl⟩
  | @refused command => exact ⟨rfl, rfl, command.refusal_eq⟩
  | arrived going | queued going =>
    rw [ended] at going
    cases going
  | asked other | illegible other | received other | scanned other | took other | hungUp other
  | submitted other | closed other | expired other | admitted other | dismissed other | told other =>
    rw [phase] at other
    cases other

end Steps

structure Diary where
  session : Session
  settled : List (Nat × Outcome) := []
  sent : List Bytes := []

namespace Diary

def note (d : Diary) (e : Nat × Move) : Diary :=
  let t := d.session.turn e.1 e.2
  { session := t.session, settled := d.settled ++ t.settled, sent := d.sent ++ t.sent.toList }

def after (d : Diary) (moves : List (Nat × Move)) : Diary := moves.foldl note d

def settledTickets (d : Diary) : List Nat := d.settled.map Prod.fst

theorem after_append (d : Diary) (moves more : List (Nat × Move)) :
    d.after (moves ++ more) = (d.after moves).after more :=
  List.foldl_append

def posted (moves : List (Nat × Move)) : List Nat := moves.filterMap fun e => e.2.ticket?

theorem after_conserves {d : Diary} (tidy : d.session.Tidy) (moves : List (Nat × Move)) :
    (d.after moves).session.Tidy ∧
      ((d.after moves).settledTickets ++ (d.after moves).session.outstanding).Perm
        (d.settledTickets ++ d.session.outstanding ++ posted moves) := by
  induction moves generalizing d with
  | nil => exact ⟨tidy, by rw [posted, List.filterMap_nil, List.append_nil]; rfl⟩
  | cons e moves ih =>
    have step := d.session.turn_step e.1 e.2
    obtain ⟨still, kept⟩ := ih (d := d.note e) (step.tidy tidy)
    refine ⟨still, kept.trans ?_⟩
    have one : ((d.note e).settledTickets ++ (d.note e).session.outstanding).Perm
        (d.settledTickets ++ d.session.outstanding ++ e.2.ticket?.toList) := by
      rw [note, settledTickets, List.map_append, List.append_assoc, List.append_assoc]
      exact (step.conserves tidy).append_left _
    refine (one.append_right _).trans (.of_eq ?_)
    rw [List.append_assoc, posted, posted, List.filterMap_cons]
    cases e.2.ticket? <;> rfl

theorem after_ended {d : Diary} (ended : d.session.hasEnded = true) (moves : List (Nat × Move)) :
    (d.after moves).session = d.session ∧ (d.after moves).sent = d.sent ∧
      (d.after moves).settled = d.settled ++ (posted moves).map (·, .failed .notConnected) := by
  induction moves generalizing d with
  | nil => exact ⟨rfl, rfl, (List.append_nil _).symm⟩
  | cons e moves ih =>
    obtain ⟨session, sent, settled⟩ := (d.session.turn_step e.1 e.2).after_end ended
    obtain ⟨session', sent', settled'⟩ := ih (d := d.note e) (by rw [note, session]; exact ended)
    refine ⟨session'.trans session, sent'.trans ?_, settled'.trans ?_⟩
    · rw [note, sent]
      exact List.append_nil _
    · rw [note, settled, List.append_assoc, ← List.map_append, posted, posted, List.filterMap_cons]
      cases e.2.ticket? <;> rfl

end Diary

def diary (id : Nat) (method : FrameMethod) (timeout : Nat) (moves : List (Nat × Move)) : Diary :=
  Diary.after { session := (start id method timeout).session } moves

theorem start_tidy (id : Nat) (method : FrameMethod) (timeout : Nat) :
    (start id method timeout).session.Tidy where
  orderly := ⟨fun _ => rfl, fun _ => rfl⟩
  going _ := rfl
  ended := nofun

theorem diary_conserves (id : Nat) (method : FrameMethod) (timeout : Nat)
    (moves : List (Nat × Move)) :
    (diary id method timeout moves).session.Tidy ∧
      ((diary id method timeout moves).settledTickets ++
        (diary id method timeout moves).session.outstanding).Perm (Diary.posted moves) :=
  Diary.after_conserves (start_tidy id method timeout) moves

end Session

end MeterGateway
