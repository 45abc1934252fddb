import MeterGateway.Proofs.Session.Accounts

/-!
The end of a session, step by step.  A session that leaves off closes its line and its channel and
refuses one by one the commands it has not read, while others still post to it.  However these steps
fall among the posts, it comes to the same as if the session had ended at once, after what was
posted while the channel was open and before the rest.
-/

namespace MeterGateway.Session

def hold (s : Session) (more : List SessionCommand) : Session :=
  { s with commands := s.commands ++ more }

/-- The ways a session leaves off: what the last move settles by itself, and the session as it is
when only the closing is left to do.  A session to which nobody can post any more is one that has a
close behind its last command. -/
inductive Leaves (s : Session) (now : Nat) : Move → List (Nat × Outcome) → Session → Prop
  | hungUp {framer arrival arrivals} : s.phase = .reading → s.framer.next = (none, framer) →
      s.arrivals = arrival :: arrivals → arrival = .ended ∨ arrival = .reset →
      Leaves s now .read [] { s with framer }
  | illegible {bytes framer} : s.phase = .reading →
      s.framer.next = (some (.token bytes), framer) → Utf8.decode? bytes = none →
      Leaves s now .read [] { s with framer }
  | dismissed {token} : s.phase = .told token false → Leaves s now .heed [] s
  | closed {commands} : s.phase = .reading → s.commands = .close :: commands →
      Leaves s now .obey [] { s with commands }
  | received {frame framer} : s.phase = .reading →
      s.framer.next = (some (.frame frame), framer) →
      (s.line.receive frame now).sent.isSome = true → s.writable = false →
      Leaves s now .read (s.line.receive frame now).settled
        { s with framer, line := (s.line.receive frame now).line }
  | submitted {ticket request commands} : s.phase = .reading →
      s.commands = .execute ticket request :: commands →
      (s.line.submit ticket request now).sent.isSome = true → s.writable = false →
      Leaves s now .obey (s.line.submit ticket request now).settled
        { s with commands, line := (s.line.submit ticket request now).line }
  | expired : s.phase = .reading → (s.line.expire now).sent.isSome = true → s.writable = false →
      Leaves s now .expire (s.line.expire now).settled { s with line := (s.line.expire now).line }

section Leaves

variable {s last : Session} {now : Nat} {m : Move} {before : List (Nat × Outcome)}

theorem Leaves.turn (leaves : Leaves s now m before last) :
    (s.turn now m).session = last.finish.session ∧
      (s.turn now m).settled = before ++ last.finish.settled ∧ (s.turn now m).sent = none := by
  cases leaves with
  | hungUp reading next arrived ending =>
    obtain rfl | rfl := ending <;> simp [Session.turn, read, reading, next, arrived, finish]
  | illegible reading next illegible =>
    simp [Session.turn, read, reading, next, ask, illegible, finish]
  | dismissed told => simp [Session.turn, heed, told, finish]
  | closed reading posted => simp [Session.turn, obey, reading, posted, finish]
  | received reading next sent shut =>
    simp only [Session.turn, read, reading, next]
    exact follow_unwritable sent shut
  | submitted reading posted sent shut =>
    simp only [Session.turn, obey, reading, posted]
    exact follow_unwritable sent shut
  | expired reading sent shut =>
    simp only [Session.turn, expire, reading]
    exact follow_unwritable sent shut

theorem Leaves.going (leaves : Leaves s now m before last) : s.hasEnded = false := by
  cases leaves with
  | hungUp reading | illegible reading | closed reading | received reading | submitted reading
  | expired reading => exact hasEnded_of_reading reading
  | dismissed told =>
    rw [hasEnded, told]
    rfl

theorem Leaves.ends (leaves : Leaves s now m before last) :
    (s.turn now m).session.hasEnded = true := by
  rw [leaves.turn.1]
  rfl

theorem Leaves.hold (leaves : Leaves s now m before last) (more : List SessionCommand) :
    Leaves (s.hold more) now m before (last.hold more) := by
  cases leaves with
  | hungUp reading next arrived ending => exact .hungUp reading next arrived ending
  | illegible reading next illegible => exact .illegible reading next illegible
  | dismissed told => exact .dismissed told
  | closed reading posted => exact .closed reading (by rw [Session.hold, posted]; rfl)
  | received reading next sent shut => exact .received reading next sent shut
  | submitted reading posted sent shut =>
    exact .submitted reading (by rw [Session.hold, posted]; rfl) sent shut
  | expired reading sent shut => exact .expired reading sent shut

theorem exists_leaves (ended : (s.turn now m).session.hasEnded = true) (going : s.hasEnded = false) :
    ∃ before last, Leaves s now m before last := by
  have unwritable {r : Session} {l : Line.Turn} (ended : (r.follow l).session.hasEnded = true)
      (reading : r.phase = .reading) :
      l.sent.isSome = true ∧ r.writable = false := by
    obtain ⟨session, -⟩ | ⟨sent, shut, -⟩ := r.follow_settled l
    · rw [session] at ended
      exact absurd (hasEnded_of_reading reading) (by simpa [hasEnded] using ended)
    · exact ⟨sent, shut⟩
  have goes_on {r : Session} (reading : r.phase = .reading) (ended : r.hasEnded = true) :
      ∃ before last, Leaves s now m before last := by
    rw [hasEnded_of_reading reading] at ended
    cases ended
  have step := s.turn_step now m
  generalize turned : s.turn now m = t at ended step
  cases step with
  | idle =>
    rw [going] at ended
    cases ended
  | deaf ended | refused ended =>
    rw [going] at ended
    cases ended
  | arrived going | queued going =>
    exact absurd going (by simpa [hasEnded] using ended)
  | asked | told => cases ended
  | illegible reading next illegible => exact ⟨_, _, .illegible reading next illegible⟩
  | received reading next =>
    obtain ⟨sent, shut⟩ := unwritable ended reading
    exact ⟨_, _, .received reading next sent shut⟩
  | scanned reading | took reading => exact goes_on reading ended
  | hungUp reading next =>
    -- the session has read something, for otherwise it would go on
    rw [← turned] at ended
    cases arrived : s.arrivals with
    | nil =>
      simp only [Session.turn, read, reading, next, arrived] at ended
      cases ended
    | cons a arrivals =>
      cases a with
      | bytes bytes =>
        simp only [Session.turn, read, reading, next, arrived] at ended
        cases ended
      | ended => exact ⟨_, _, .hungUp reading next arrived (.inl rfl)⟩
      | reset => exact ⟨_, _, .hungUp reading next arrived (.inr rfl)⟩
  | submitted reading posted =>
    obtain ⟨sent, shut⟩ := unwritable ended reading
    exact ⟨_, _, .submitted reading posted sent shut⟩
  | closed reading posted => exact ⟨_, _, .closed reading posted⟩
  | expired reading =>
    obtain ⟨sent, shut⟩ := unwritable ended reading
    exact ⟨_, _, .expired reading sent shut⟩
  | admitted told => cases ended
  | dismissed told => exact ⟨_, _, .dismissed told⟩

end Leaves

/-! ### Closing -/

inductive Stage
  | left : Stage
  | lineClosed : Stage
  | channelClosed : Stage
  | finished : Stage

structure Unwinding where
  session : Session
  stage : Stage := .left
  settled : List (Nat × Outcome) := []

inductive Beat
  | step : Beat
  | post : SessionCommand → Beat
  deriving DecidableEq

def Beat.command? : Beat → Option SessionCommand
  | step => none
  | post command => some command

namespace Unwinding

def step (u : Unwinding) : Unwinding :=
  match u.stage with
  | .left =>
    { session := { u.session with line := u.session.line.close.line }
      stage := .lineClosed
      settled := u.settled ++ u.session.line.close.settled }
  | .lineClosed => { u with stage := .channelClosed }
  | .channelClosed =>
    match u.session.commands with
    | [] => { u with session := { u.session with phase := .ended, arrivals := [] }, stage := .finished }
    | command :: commands =>
      { u with
        session := { u.session with commands }
        settled := u.settled ++ command.refusal }
  | .finished => u

def post (u : Unwinding) (command : SessionCommand) : Unwinding :=
  match u.stage with
  | .left | .lineClosed => { u with session := u.session.hold [command] }
  | .channelClosed | .finished => { u with settled := u.settled ++ command.refusal }

def beat (u : Unwinding) : Beat → Unwinding
  | .step => u.step
  | .post command => u.post command

def run (u : Unwinding) (beats : List Beat) : Unwinding := beats.foldl beat u

def ahead (u : Unwinding) : Nat :=
  match u.stage with
  | .left => u.session.commands.length + 3
  | .lineClosed => u.session.commands.length + 2
  | .channelClosed => u.session.commands.length + 1
  | .finished => 0

@[simp] theorem run_concat (u : Unwinding) (beats : List Beat) (b : Beat) :
    u.run (beats ++ [b]) = (u.run beats).beat b := by
  simp [run]

theorem ahead_step (u : Unwinding) : u.step.ahead = u.ahead - 1 := by
  obtain ⟨s, stage, settled⟩ := u
  cases stage with
  | left | lineClosed | finished => rfl
  | channelClosed => cases commands : s.commands <;> simp [step, ahead, commands]

theorem ahead_post (u : Unwinding) (command : SessionCommand) :
    (u.post command).ahead ≤ u.ahead + 1 ∧ (u.ahead = 0 → (u.post command).ahead = 0) := by
  obtain ⟨s, stage, settled⟩ := u
  cases stage <;> simp [post, ahead, hold]

theorem finished_iff (u : Unwinding) : u.stage = .finished ↔ u.ahead = 0 := by
  obtain ⟨s, stage, settled⟩ := u
  cases stage <;> simp [ahead]

theorem ahead_run (u : Unwinding) (beats : List Beat) :
    (u.run beats).ahead ≤
      u.ahead + (beats.filterMap Beat.command?).length - beats.count .step := by
  induction beats using List.reverseRecOn with
  | nil => exact Nat.le_refl _
  | append_singleton beats b ih =>
    rw [run_concat, List.filterMap_append, List.length_append, List.count_append]
    cases b with
    | step =>
      show (u.run beats).step.ahead ≤ _
      have posts : ([Beat.step].filterMap Beat.command?).length = 0 := rfl
      have steps : [Beat.step].count .step = 1 := rfl
      rw [ahead_step]
      omega
    | post command =>
      show ((u.run beats).post command).ahead ≤ _
      have posts : ([Beat.post command].filterMap Beat.command?).length = 1 := rfl
      have steps : [Beat.post command].count .step = 0 := rfl
      have more := (u.run beats).ahead_post command
      omega

/-- How far a closing has come, with the commands that were posted while the channel was open and
those that were posted later. -/
inductive Traced (last : Session) : List SessionCommand → List SessionCommand → Unwinding → Prop
  | left {early} : Traced last early [] { session := last.hold early }
  | lineClosed {early} : Traced last early []
      { session := { last.hold early with line := last.line.close.line }
        stage := .lineClosed
        settled := last.line.close.settled }
  | channelClosed {early late commands settled} :
      (settled ++ commands.flatMap SessionCommand.refusal).Perm
        ((last.hold early).finish.settled ++ late.flatMap SessionCommand.refusal) →
      Traced last early late
        { session := { last with line := last.line.close.line, commands }
          stage := .channelClosed
          settled }
  | finished {early late settled} :
      settled.Perm
        ((last.hold early).finish.settled ++ late.flatMap SessionCommand.refusal) →
      Traced last early late
        { session := (last.hold early).finish.session, stage := .finished, settled }

variable {last : Session} {early late : List SessionCommand} {u : Unwinding}

theorem Traced.step (traced : Traced last early late u) : Traced last early late u.step := by
  cases traced with
  | left => exact .lineClosed
  | lineClosed =>
    refine .channelClosed (.of_eq ?_)
    exact (List.append_nil _).symm
  | channelClosed told =>
    rename_i commands settled
    cases commands with
    | nil =>
      rw [List.flatMap_nil, List.append_nil] at told
      exact .finished told
    | cons command commands =>
      refine .channelClosed ?_
      rwa [List.append_assoc]
  | finished told => exact .finished told

theorem Traced.post (traced : Traced last early late u) (command : SessionCommand) :
    ∃ early' late', early' ++ late' = early ++ late ++ [command] ∧
      Traced last early' late' (u.post command) := by
  have more : (last.hold early).hold [command] = last.hold (early ++ [command]) := by
    simp [hold]
  have refusals : (late ++ [command]).flatMap SessionCommand.refusal =
      late.flatMap SessionCommand.refusal ++ command.refusal := by
    simp
  cases traced with
  | left =>
    refine ⟨early ++ [command], [], by simp, ?_⟩
    rw [Unwinding.post, more]
    exact .left
  | lineClosed =>
    refine ⟨early ++ [command], [], by simp, ?_⟩
    have traced := @Traced.lineClosed last (early ++ [command])
    rw [← more] at traced
    exact traced
  | channelClosed told =>
    rename_i commands settled
    refine ⟨early, late ++ [command], (List.append_assoc ..).symm, .channelClosed ?_⟩
    have refused := told.append_right command.refusal
    rw [List.append_assoc, List.append_assoc] at refused
    rw [refusals, List.append_assoc]
    exact (List.perm_append_comm.append_left settled).trans refused
  | finished told =>
    refine ⟨early, late ++ [command], (List.append_assoc ..).symm, .finished ?_⟩
    rw [refusals, ← List.append_assoc]
    exact told.append_right _

theorem Traced.run (traced : Traced last early late u) (beats : List Beat) :
    ∃ early' late', early' ++ late' = early ++ late ++ beats.filterMap Beat.command? ∧
      Traced last early' late' (u.run beats) := by
  induction beats using List.reverseRecOn with
  | nil => exact ⟨early, late, (List.append_nil _).symm, traced⟩
  | append_singleton beats b ih =>
    obtain ⟨early', late', split, traced⟩ := ih
    rw [run_concat, List.filterMap_append, ← List.append_assoc, ← split]
    cases b with
    | step => exact ⟨early', late', (List.append_nil _).symm, traced.step⟩
    | post command => exact traced.post command

theorem run_finished (last : Session) (beats : List Beat)
    (enough : last.commands.length + 3 + (beats.filterMap Beat.command?).length ≤
      beats.count .step) :
    ∃ early late, early ++ late = beats.filterMap Beat.command? ∧
      let u := run { session := last } beats
      u.stage = .finished ∧ u.session = (last.hold early).finish.session ∧
        u.settled.Perm
          ((last.hold early).finish.settled ++ late.flatMap SessionCommand.refusal) := by
  have fresh : last.hold [] = last := by simp [hold]
  have new : Traced last [] [] { session := last } := by
    have leaving := @Traced.left last []
    rwa [fresh] at leaving
  obtain ⟨early, late, split, traced⟩ := new.run beats
  have finished : (run { session := last } beats).stage = .finished := by
    have none_ahead := ahead_run { session := last } beats
    rw [finished_iff]
    simp only [ahead] at none_ahead ⊢
    omega
  refine ⟨early, late, split, finished, ?_⟩
  generalize run { session := last } beats = u at traced finished
  cases traced with
  | finished told => exact ⟨rfl, told⟩
  | left | lineClosed | channelClosed => cases finished

end Unwinding

theorem Diary.after_posts {d : Diary} (going : d.session.hasEnded = false) (now : Nat)
    (commands : List SessionCommand) :
    d.after (commands.map fun command => (now, .post command)) =
      { d with session := d.session.hold commands } := by
  induction commands generalizing d with
  | nil => simp [after, hold]
  | cons command commands ih =>
    have next : d.note (now, .post command) = { d with session := d.session.hold [command] } := by
      simp [note, turn, post, going, hold]
    rw [List.map_cons]
    show (d.note (now, .post command)).after _ = _
    rw [next, ih (d := { d with session := d.session.hold [command] }) going]
    simp [hold]

theorem Diary.after_ending {d : Diary} {now : Nat} {m : Move} {before : List (Nat × Outcome)}
    {last : Session} (leaves : Leaves d.session now m before last) (early late : List SessionCommand) :
    let e := d.after (early.map (now, .post ·) ++ (now, m) :: late.map (now, .post ·))
    e.session = (last.hold early).finish.session ∧ e.sent = d.sent ∧
      e.settled = d.settled ++ before ++
        ((last.hold early).finish.settled ++ late.flatMap SessionCommand.refusal) := by
  obtain ⟨session, settled, sent⟩ := (leaves.hold early).turn
  let last_note := note { d with session := d.session.hold early } (now, m)
  have ended : last_note.session.hasEnded = true := (leaves.hold early).ends
  have late_posted : posted (late.map (now, .post ·)) = late.filterMap SessionCommand.ticket? := by
    rw [posted, List.filterMap_map]
    rfl
  obtain ⟨session', sent', settled'⟩ := after_ended ended (late.map (now, .post ·))
  rw [after_append, after_posts leaves.going]
  refine ⟨session'.trans session, sent'.trans ?_, settled'.trans ?_⟩
  · show d.sent ++ ((d.session.hold early).turn now m).sent.toList = d.sent
    rw [sent]
    exact List.append_nil _
  · show d.settled ++ ((d.session.hold early).turn now m).settled ++ _ = _
    rw [settled, late_posted, ← SessionCommand.refusals_eq]
    simp only [List.append_assoc]

/-- Each request that is posted waits or is settled, and once; a session that has ended has settled
all of them and writes nothing.  A session ends by each of the ways of `Leaves` and by no other.  What
is then settled neither by a frame nor by its deadline, and could be encoded, fails as not connected,
on the line or among the commands, and however posts fall among the steps of the closing. -/
theorem every_request_is_settled_once (id : Nat) (method : FrameMethod) (timeout : Nat)
    (moves : List (Nat × Move)) :
    let d := diary id method timeout moves
    (d.settledTickets ++ d.session.outstanding).Perm (Diary.posted moves) ∧
    (d.session.hasEnded = true → d.settledTickets.Perm (Diary.posted moves) ∧ ∀ more,
      let e := diary id method timeout (moves ++ more)
      e.session = d.session ∧ e.sent = d.sent ∧
        e.settled = d.settled ++ (Diary.posted more).map (·, .failed .notConnected)) ∧
    ∀ now m, let t := d.session.turn now m
      (∀ entry ∈ t.settled, Cause d.session now m t entry) ∧
      (d.session.hasEnded = false ∧ t.session.hasEnded = true ↔
        ∃ before last, Leaves d.session now m before last) ∧
      ∀ before last, Leaves d.session now m before last →
        t.sent = none ∧ t.settled = before ++ last.outstanding.map (·, .failed .notConnected) ∧
          t.settledTickets.Perm d.session.outstanding ∧
          ∀ beats : List Beat,
            last.commands.length + 3 + (beats.filterMap Beat.command?).length ≤
                beats.count .step →
              ∃ early late, early ++ late = beats.filterMap Beat.command? ∧
                let u := Unwinding.run { session := last } beats
                let e := diary id method timeout (moves ++
                  early.map (now, .post ·) ++ (now, m) :: late.map (now, .post ·))
                u.stage = .finished ∧ e.session = u.session ∧ e.sent = d.sent ∧
                  e.settled.Perm (d.settled ++ before ++ u.settled) := by
  intro d
  obtain ⟨tidy, conserved⟩ := diary_conserves id method timeout moves
  refine ⟨conserved, ?_, ?_⟩
  · intro ended
    refine ⟨?_, ?_⟩
    · rwa [tidy.ended ended, List.append_nil] at conserved
    intro more e
    have same : e = d.after more := Diary.after_append _ moves more
    rw [same]
    exact Diary.after_ended ended more
  intro now m t
  have step := d.session.turn_step now m
  refine ⟨fun entry settled => step.cause tidy settled, ?_, ?_⟩
  · constructor
    · rintro ⟨going, ended⟩
      exact exists_leaves ended going
    · rintro ⟨before, last, leaves⟩
      exact ⟨leaves.going, leaves.ends⟩
  intro before last leaves
  obtain ⟨session, settled, silent⟩ := leaves.turn
  have quiet : m.ticket? = none := by cases leaves <;> rfl
  refine ⟨silent, settled.trans (by rw [finish_settled]), ?_, ?_⟩
  · have all := step.conserves tidy
    rwa [session, quiet, finish_outstanding, List.append_nil, Option.toList_none,
      List.append_nil] at all
  · intro beats enough
    obtain ⟨early, late, split, stage, closed, told⟩ := Unwinding.run_finished last beats enough
    obtain ⟨same, sent, all⟩ := Diary.after_ending leaves early late
    have run_on : diary id method timeout (moves ++
        early.map (now, .post ·) ++ (now, m) :: late.map (now, .post ·)) =
        d.after (early.map (now, .post ·) ++ (now, m) :: late.map (now, .post ·)) := by
      rw [List.append_assoc]
      exact Diary.after_append _ moves _
    refine ⟨early, late, split, stage, ?_⟩
    rw [run_on, same, sent, all]
    exact ⟨closed.symm, rfl, told.symm.append_left _⟩

/-- One request is in flight, one queued, one not read, and one comes too late. -/
example :
    let reading : WireRequest := .rtu ⟨1, .readHoldingRegisters, 0, 1, []⟩
    let moves : List Move := [.arrive (.bytes [0x6B]), .read, .read, .tell true, .heed,
      .post (.execute 0 reading), .obey, .post (.execute 1 reading), .obey,
      .post (.execute 2 reading), .arrive .ended, .read, .post (.execute 3 reading)]
    (diary 0 .rtu 1000 (moves.map (0, ·))).settled =
      [(0, .failed .notConnected), (1, .failed .notConnected), (2, .failed .notConnected),
        (3, .failed .notConnected)] := by
  decide +kernel

end MeterGateway.Session
