import MeterGateway.Proofs.Site.Reads

namespace MeterGateway

def Uplink.gain (uplink : Uplink) (device : DeviceConfig) (kind : PollKind) (point : PointConfig) :
    Option Outcome → Option Report
  | some (.resolved response) => (uplink device kind point response).result.toOption
  | _ => none

/-- What the points of a device bring whose requests could be made and were numbered from the first
ticket on. -/
def Record.brought (r : Record) (method : FrameMethod) (kind : PollKind) (first : Nat)
    (settled : List (Nat × Outcome)) : List Report :=
  ((Port.pointRequests method r.config kind).zipIdx first).filterMap fun ((point, _), ticket) =>
    r.uplink.gain r.config kind point (settled.lookup ticket)

theorem Report.entries_append (r s : Report) (kind : PollKind) :
    (r.append s).entries kind = r.entries kind ++ s.entries kind := by
  cases kind <;> rfl

theorem Report.foldl_append {α : Type} {step : Report → α → Report} {gain : α → Option Report}
    (own : ∀ report a, step report a = (gain a).elim report report.append) (as : List α)
    (report : Report) (kind : PollKind) :
    (as.foldl step report).deviceName = report.deviceName ∧
      (as.foldl step report).deviceType = report.deviceType ∧
      (as.foldl step report).entries kind =
        report.entries kind ++ (as.filterMap gain).flatMap (·.entries kind) := by
  induction as generalizing report with
  | nil => simp
  | cons a as ih =>
    obtain ⟨name, type, entries⟩ := ih (step report a)
    rw [List.foldl_cons, name, type, entries, own, List.filterMap_cons]
    cases gain a with
    | none => exact ⟨rfl, rfl, rfl⟩
    | some more =>
      refine ⟨rfl, rfl, ?_⟩
      rw [List.flatMap_cons, ← List.append_assoc, ← entries_append]
      rfl

namespace Poll

def gains (p : Poll) : List Report :=
  p.reads.filterMap fun r => p.uplink.gain p.device p.kind r.point r.outcome

theorem report_entries (p : Poll) (kind : PollKind) :
    p.report.deviceName = p.device.deviceName ∧ p.report.deviceType = p.device.deviceType ∧
      p.report.entries kind = p.gains.flatMap (·.entries kind) := by
  let blank : Report := { deviceName := p.device.deviceName, deviceType := p.device.deviceType }
  have empty : blank.entries kind = [] := by cases kind <;> rfl
  suffices folded : p.report.deviceName = blank.deviceName ∧ p.report.deviceType = blank.deviceType ∧
      p.report.entries kind = blank.entries kind ++ p.gains.flatMap (·.entries kind) by
    rw [empty, List.nil_append] at folded
    exact folded
  unfold report gains
  apply Report.foldl_append
  intro report r
  cases r.outcome with
  | none => rfl
  | some outcome =>
    cases outcome with
    | resolved response =>
      simp only [Uplink.gain]
      cases (p.uplink p.device p.kind r.point response).result <;> rfl
    | _ => rfl

theorem settle_settle (p : Poll) (settled more : List (Nat × Outcome)) :
    (p.settle settled).settle more = p.settle (settled ++ more) := by
  simp only [settle, List.map_map]
  congr 1
  apply List.map_congr_left
  intro r _
  simp only [Function.comp, PointRead.settle, List.lookup_append]
  cases r.outcome <;> simp

end Poll

namespace Site

theorem gains_opening (s : Site) (r : Record) (kind : PollKind) (settled : List (Nat × Outcome)) :
    ((s.opening r kind).settle settled).gains =
      r.brought s.port.method kind s.port.nextTicket settled := by
  simp only [Poll.gains, Poll.settle, opening, Record.poll, Record.brought, List.zipIdx_map, List.map_map,
    List.filterMap_map]
  rfl

theorem outcome_opening {s : Site} {r : Record} {kind : PollKind} {read : PointRead}
    (mem : read ∈ (s.opening r kind).reads) : read.outcome = none := by
  obtain ⟨_, -, rfl⟩ := List.mem_map.mp mem
  rfl

theorem settled_of_complete {s : Site} {r : Record} {kind : PollKind} {settled : List (Nat × Outcome)}
    (complete : ((s.opening r kind).settle settled).isComplete = true) :
    ∀ entry ∈ (s.opening r kind).points, (settled.lookup entry.2).isSome = true := by
  intro entry mem
  obtain ⟨read, here, rfl⟩ := List.mem_map.mp mem
  have outcome := List.all_eq_true.mp complete _ (List.mem_map_of_mem here)
  rw [PointRead.settle, outcome_opening here] at outcome
  exact outcome

theorem settlements_snoc (s : Site) (course : List Happening) (x : Happening) :
    s.settlements (course ++ [x]) = s.settlements course ++ (s.later course).settles x := by
  induction course generalizing s with
  | nil => simp [settlements, later]
  | cons y course ih =>
    rw [List.cons_append, settlements, ih, settlements, List.append_assoc]
    rfl

end Site

namespace Opening

variable {o : Opening} {course : List Happening} {p : Poll}

theorem later_after (o : Opening) (course more : List Happening) :
    (o.after course).later more = o.after (course ++ more) :=
  List.foldl_append.symm

/-- The poll began when a tick was dealt with in the course, and has the outcomes that its tickets were
settled with from there on. -/
def Ran (o : Opening) (course : List Happening) (p : Poll) : Prop :=
  ∃ before tick after name kind r, course = before ++ .act tick .handle :: after ∧
    let s := o.after before
    let s' := s.act tick .handle
    s.Begins s' name kind r (s.opening r kind) ∧
      p = (s.opening r kind).settle (s'.settlements after)

theorem Ran.snoc (ran : o.Ran course p) (x : Happening) :
    o.Ran (course ++ [x]) (p.settle ((o.after course).settles x)) := by
  obtain ⟨before, tick, after, name, kind, r, rfl, begins, rfl⟩ := ran
  refine ⟨before, tick, after ++ [x], name, kind, r, by simp, begins, ?_⟩
  have begun : (o.after before).act tick .handle = o.after (before ++ [.act tick .handle]) :=
    (o.after_snoc before (.act tick .handle)).symm
  rw [Poll.settle_settle, Site.settlements_snoc, begun, later_after, List.append_assoc]
  rfl

theorem Ran.snoc_complete (ran : o.Ran course p) (complete : p.isComplete = true) (x : Happening) :
    o.Ran (course ++ [x]) p := by
  have later := ran.snoc x
  rwa [Poll.settle_of_complete complete] at later

structure Over (o : Opening) (course : List Happening) (name : String) (kind : PollKind)
    (report : Report) (p : Poll) : Prop where
  ran : o.Ran course p
  complete : p.isComplete = true
  device : p.device.deviceName = name
  polled : p.kind = kind
  told : p.report = report

theorem Over.snoc {name : String} {kind : PollKind} {report : Report}
    (ended : o.Over course name kind report p) (x : Happening) :
    o.Over (course ++ [x]) name kind report p :=
  { ended with ran := ended.ran.snoc_complete ended.complete x }

structure Chronicle (o : Opening) (course : List Happening) (polls : List Poll) (inbox : List Event) :
    Prop where
  ran : ∀ p ∈ polls, o.Ran course p
  ended : ∀ name kind report, .pollCompleted name kind report ∈ inbox →
    ∃ p, o.Over course name kind report p

theorem Chronicle.snoc {polls : List Poll} {polling : List String} {inbox : List Event} {now : Nat}
    {a : Action} (chronicle : o.Chronicle course (o.after course).port.polls (o.after course).port.inbox)
    (step : (o.after course).PollStep now a polls polling inbox) :
    o.Chronicle (course ++ [.act now a]) polls inbox := by
  have kept : a.move? = none → ∀ p ∈ (o.after course).port.polls,
      o.Ran (course ++ [.act now a]) p := by
    intro still p held
    have later := (chronicle.ran p held).snoc (.act now a)
    rwa [Site.settles_idle _ now still, Poll.settle_nil] at later
  have ended : ∀ name kind report, .pollCompleted name kind report ∈ (o.after course).port.inbox →
      ∃ p, o.Over (course ++ [.act now a]) name kind report p := by
    intro name kind report told
    obtain ⟨p, ended⟩ := chronicle.ended name kind report told
    exact ⟨p, ended.snoc _⟩
  cases step with
  | kept silent =>
    constructor
    · intro p mem
      obtain ⟨q, held, rfl⟩ := List.mem_map.mp mem
      exact (chronicle.ran q held).snoc _
    · intro name kind report told
      obtain old | new := List.mem_append.mp told
      · exact ended name kind report old
      · cases silent _ new
  | heard handling next | reported handling next =>
    rw [next] at ended
    exact ⟨kept (by rw [handling]; rfl), fun name kind report told => ended _ _ _ (List.mem_cons_of_mem _ told)⟩
  | @begun name kind r inbox handling next idle begins =>
    rw [next] at ended
    refine ⟨?_, fun name kind report told => ended _ _ _ (List.mem_cons_of_mem _ told)⟩
    intro p mem
    obtain old | new := List.mem_append.mp mem
    · exact kept (by rw [handling]; rfl) p old
    · rw [List.mem_singleton.mp new]
      subst handling
      exact ⟨course, now, [], name, kind, r, rfl, begins, (Poll.settle_nil _).symm⟩
  | @completed before p after completing split complete =>
    have mem : p ∈ (o.after course).port.polls := split ▸ by simp
    have kept := kept (by rw [completing]; rfl)
    constructor
    · intro q left
      apply kept
      rw [split]
      exact ((List.sublist_cons_self p after).append_left before).subset left
    · intro name kind report told
      obtain old | new := List.mem_append.mp told
      · exact ended name kind report old
      · obtain ⟨rfl, rfl, rfl⟩ : name = p.device.deviceName ∧ kind = p.kind ∧ report = p.report := by
          simpa using new
        exact ⟨p, kept p mem, complete, rfl, rfl, rfl⟩

theorem chronicled (o : Opening) (course : List Happening)
    (running : (o.after course).port.running = true) :
    o.Chronicle course (o.after course).port.polls (o.after course).port.inbox := by
  apply o.after_running
    (P := fun course => o.Chronicle course (o.after course).port.polls (o.after course).port.inbox)
    _ _ _ course running
  · exact ⟨nofun, nofun⟩
  · intro course now a chronicle before going
    rw [after_snoc]
    exact chronicle.snoc (Site.act_paces before now going)
  · intro course headEnd chronicle
    rw [after_snoc]
    constructor
    · intro p held
      have later := (chronicle.ran p held).snoc (.elsewhere headEnd)
      rwa [show Site.settles _ (.elsewhere headEnd) = [] from rfl, Poll.settle_nil] at later
    · intro name kind report told
      obtain ⟨p, ended⟩ := chronicle.ended name kind report told
      exact ⟨p, ended.snoc _⟩

/-- What a report holds: the device as it was when its poll began, and point after point what could be
made of the outcomes since then, of which none is missing. -/
def Brings (o : Opening) (course : List Happening) (name : String) (kind : PollKind)
    (report : Report) : Prop :=
  ∃ before tick after r, course = before ++ .act tick .handle :: after ∧
    let s := o.after before
    let s' := s.act tick .handle
    let settled := s'.settlements after
    s.Begins s' name kind r (s.opening r kind) ∧
      (∀ entry ∈ (s.opening r kind).points, (settled.lookup entry.2).isSome = true) ∧
      report.deviceName = name ∧ report.deviceType = r.config.deviceType ∧
      ∀ k, report.entries k =
        (r.brought s.port.method kind s.port.nextTicket settled).flatMap (·.entries k)

theorem Over.brings {name : String} {kind : PollKind} {report : Report}
    (ended : o.Over course name kind report p) : o.Brings course name kind report := by
  obtain ⟨⟨before, tick, after, own, polled, r, split, begins, same⟩, complete, named, rfl, rfl⟩ := ended
  have record : r.config.deviceName = own := by
    have found : r.name = own := by simpa using List.find?_some begins.record
    exact found
  subst same named record
  refine ⟨before, tick, after, r, split, begins, Site.settled_of_complete complete, ?_⟩
  have report := Poll.report_entries (((o.after before).opening r polled).settle
    (((o.after before).act tick .handle).settlements after))
  refine ⟨(report .timeseries).1, (report .timeseries).2.1, ?_⟩
  intro k
  rw [(report k).2.2, Site.gains_opening]
  rfl

end Opening

/-! ### Rounds -/

structure Site.InRounds (s : Site) : Prop where
  jobs : ∀ job ∈ s.port.polling, ∃ device kind, job = jobId device kind
  once : ∀ device kind, jobId device kind ∈ s.port.polling ↔
    s.port.polls.countP (·.round = (device, kind)) +
      s.port.inbox.countP (·.completion? = some (device, kind)) = 1
  single : ∀ device kind, s.port.polls.countP (·.round = (device, kind)) ≤ 1
  ticks : ∀ now device kind inbox, s.port.inbox = .pollDue device kind :: inbox →
    jobId device kind ∈ s.port.polling → s.act now .handle = { s with port := { s.port with inbox } }
  reads : ∀ p ∈ s.port.polls, ∀ read ∈ p.reads, read.outcome = none → s.Waits read.ticket
  completed : ∀ p ∈ s.port.polls, p.isComplete = true →
    ∀ more time, (∀ now, .act now .stop ∉ more) →
      .act time (.completePoll p.device.deviceName p.kind) ∈ more →
      s.Reaches more fun s => .pollCompleted p.device.deviceName p.kind p.report ∈ s.port.inbox
  freed : ∀ device kind report, .pollCompleted device kind report ∈ s.port.inbox →
    ∀ more, (∀ now, .act now .stop ∉ more) → s.port.inbox.length ≤ more.countP Happening.handles →
      s.Reaches more fun s => jobId device kind ∉ s.port.polling

namespace Opening

theorem paced (o : Opening) (course : List Happening) (running : (o.after course).port.running = true) :
    Paced (o.after course).port.rounds (o.after course).port.polling := by
  apply o.after_running
    (P := fun course => Paced (o.after course).port.rounds (o.after course).port.polling) _ _ _ course running
  · exact ⟨.refl _, List.nodup_nil⟩
  · intro course now a paced before going
    rw [after_snoc]
    exact (Site.act_paces before now going).paced paced
  · intro course headEnd paced
    rw [after_snoc]
    exact paced

/-- As long as a port runs, a job stands among those of polls under way exactly when one round of it
is not over.  Such a round keeps out every other, and it comes to its end when the outcomes of its
reads are there.  Its report then holds, in the order of the points, what could be made of them. -/
theorem polls_come_in_rounds (o : Opening) (course : List Happening)
    (running : (o.after course).port.running = true) :
    (o.after course).InRounds ∧
      ∀ device kind report, .pollCompleted device kind report ∈ (o.after course).port.inbox →
        o.Brings course device kind report := by
  have paced := o.paced course running
  generalize same : o.after course = s at running paced
  have count := paced.count
  simp only [Port.rounds, rounds_count] at count
  refine ⟨?_, ?_⟩
  · constructor
    case jobs =>
      intro job held
      obtain ⟨round, -, rfl⟩ := List.mem_map.mp (paced.jobs.mem_iff.mp held)
      exact ⟨round.1, round.2, rfl⟩
    case once =>
      intro device kind
      rw [count]
      split <;> simp_all
    case single =>
      intro device kind
      have all := count device kind
      split at all <;> omega
    case ticks =>
      intro now device kind inbox next held
      simp only [Site.act, Site.handle, next, Site.respond, Site.poll, held, if_true]
    case reads => exact same ▸ (o.attended course (same ▸ running)).reads
    case completed =>
      intro p mem complete more time going ends
      exact Site.completion_told running paced mem complete going ends
    case freed =>
      intro device kind report mem more going enough
      obtain ⟨front, back, split⟩ := List.append_of_mem mem
      refine Site.freed_in_turn running split going ?_
      rw [split, List.length_append, List.length_cons] at enough
      omega
  · subst same
    intro device kind report told
    obtain ⟨p, ended⟩ := (o.chronicled course running).ended device kind report told
    exact ended.brings

theorem polls_come_in_rounds_first :
    let course := greeting ++ firstPoll ++ reading ++
      [.act 1100 (.completePoll "meter-1" .timeseries)]
    let s := trial.after course
    s.port.running = true ∧ s.port.polling = [jobId "meter-1" .timeseries] ∧ s.InRounds ∧
      ∃ report, .pollCompleted "meter-1" .timeseries report ∈ s.port.inbox ∧
        trial.Brings course "meter-1" .timeseries report := by
  intro course s
  have running : s.port.running = true := by decide +kernel
  have waiting : s.port.inbox.filterMap Event.completion? = [("meter-1", .timeseries)] := by decide +kernel
  obtain ⟨rounds, brings⟩ := trial.polls_come_in_rounds course running
  obtain ⟨e, mem, ends⟩ := List.mem_filterMap.mp (waiting ▸ List.mem_singleton_self _)
  cases e with
  | pollCompleted device kind report =>
    obtain ⟨rfl, rfl⟩ : device = "meter-1" ∧ kind = .timeseries := by simpa [Event.completion?] using ends
    exact ⟨running, by decide +kernel, rounds, report, mem, brings _ _ _ mem⟩
  | notice | pollDue => cases ends

end Opening

end MeterGateway
