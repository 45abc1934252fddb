import MeterGateway.Proofs.Site.Admission
import MeterGateway.Proofs.Site.Devices

namespace MeterGateway

def Poll.points (p : Poll) : List (PointConfig × Nat) := p.reads.map fun r => (r.point, r.ticket)

@[simp] theorem Poll.settle_points (p : Poll) (settled : List (Nat × Outcome)) :
    (p.settle settled).points = p.points := by
  simp [points, settle, PointRead.settle]

theorem Record.poll_points (r : Record) (kind : PollKind) (ticket : Nat) (points : List PointConfig) :
    (r.poll kind ticket points).points = points.zipIdx ticket := by
  rw [Poll.points, poll, List.map_map]
  exact List.map_id _

namespace Site

structure Begins (s s' : Site) (name : String) (kind : PollKind) (r : Record) (p : Poll) : Prop where
  due : s.port.inbox.head? = some (.pollDue name kind)
  record : s.port.registry.get? name = some r
  device : p.device = r.config
  uplink : p.uplink = r.uplink
  polled : p.kind = kind
  points : p.points =
    ((Port.pointRequests s.port.method r.config kind).map Prod.fst).zipIdx s.port.nextTicket
  posted : ∃ session c, s.port.activeSession? r.token = some session ∧
    s.port.session? session = some c ∧ s'.port.session? session =
      some (c.queue s.port.nextTicket ((Port.pointRequests s.port.method r.config kind).map Prod.snd))

variable {s s' : Site} {now : Nat} {a : Action} {name : String} {kind : PollKind} {r : Record} {p : Poll}

theorem Begins.settle (begins : s.Begins s' name kind r p) (settled : List (Nat × Outcome)) :
    s.Begins s' name kind r (p.settle settled) where
  due := begins.due
  record := begins.record
  device := begins.device
  uplink := begins.uplink
  polled := begins.polled
  points := (p.settle_points settled).trans begins.points
  posted := begins.posted

def opening (s : Site) (r : Record) (kind : PollKind) : Poll :=
  r.poll kind s.port.nextTicket ((Port.pointRequests s.port.method r.config kind).map Prod.fst)

theorem begins_of_due {inbox : List Event} {id : Nat} {c : Session}
    (due : s.port.inbox = .pollDue name kind :: inbox) (found : s.port.registry.get? name = some r)
    (active : s.port.activeSession? r.token = some id) (present : s.port.session? id = some c)
    (queued : s'.port.sessions = (s.port.putSession (c.queue s.port.nextTicket
      ((Port.pointRequests s.port.method r.config kind).map Prod.snd))).sessions) :
    s.Begins s' name kind r (s.opening r kind) where
  due := by
    rw [due]
    rfl
  record := found
  device := rfl
  uplink := rfl
  polled := rfl
  points := r.poll_points _ _ _
  posted := by
    refine ⟨id, c, active, present, ?_⟩
    rw [Port.session?_congr queued, Port.session?_putSession, Session.queue_id, Port.session?_id present,
      if_pos rfl, present]
    rfl

/-- A poll that is under way after a step was so before, or has begun with it. -/
theorem Step.polls (step : s.Step now a s') (mem : p ∈ s'.port.polls) :
    (∃ q ∈ s.port.polls, ∃ settled, p = q.settle settled) ∨
      a = .handle ∧ ∃ name kind r, s.Begins s' name kind r p := by
  have before : p ∈ s.port.polls → ∃ q ∈ s.port.polls, ∃ settled, p = q.settle settled := by
    intro mem
    exact ⟨p, mem, [], p.settle_nil.symm⟩
  cases step with
  | @moved _ id m c t =>
    rw [take_eq] at mem
    obtain ⟨q, held, rfl⟩ := List.mem_map.mp mem
    exact .inl ⟨q, held, t.settled, rfl⟩
  | completed =>
    exact .inl (before (List.mem_of_mem_eraseP mem))
  | handled next response =>
    cases response with
    | @begun name kind r session c requests idle found active present going made some =>
      obtain old | new := List.mem_append.mp mem
      · exact .inl (before old)
      · rw [List.mem_singleton] at new
        subst new made
        exact .inr ⟨rfl, name, kind, r, begins_of_due next found active present rfl⟩
    | _ => exact .inl (before mem)
  | _ => exact .inl (before mem)

theorem Step.completions (step : s.Step now a s') {report : Report}
    (mem : .pollCompleted name kind report ∈ s'.port.inbox) :
    .pollCompleted name kind report ∈ s.port.inbox ∨ ∃ p ∈ s.port.polls, p.isComplete = true ∧
      p.device.deviceName = name ∧ p.kind = kind ∧ p.report = report := by
  cases step with
  | accepted =>
    left
    simpa using mem
  | @moved _ id m c t =>
    left
    rw [take_eq] at mem
    obtain old | new := List.mem_append.mp mem
    · exact old
    · cases t.notice <;> simp at new
  | fired =>
    left
    obtain old | new := List.mem_append.mp mem
    · exact old
    · simp at new
  | handled next response =>
    rw [response.inbox_eq] at mem
    exact .inl (next ▸ List.mem_cons_of_mem _ mem)
  | @completed device own p found =>
    obtain old | new := List.mem_append.mp mem
    · exact .inl old
    · right
      obtain ⟨-, rfl, rfl, rfl⟩ : s.port.running = true ∧ name = device ∧ kind = own ∧
          report = p.report := by simpa using new
      have fits := List.find?_some found
      obtain ⟨named, polled, complete⟩ := Poll.isOver_iff.mp fits
      exact ⟨p, List.mem_of_find?_eq_some found, complete, named, polled, rfl⟩
  | stopped => cases mem
  | _ => exact .inl mem

theorem completePoll_inbox (found : s.port.polls.find? (·.isOver name kind) = some p)
    (running : s.port.running = true) (now : Nat) : (s.act now (.completePoll name kind)).port.inbox =
      s.port.inbox ++ [.pollCompleted name kind p.report] := by
  simp only [act, completePoll, found]
  simp [Port.notify, running]

end Site

namespace Opening

variable {o : Opening} {course : List Happening} {p : Poll}

def Traced (o : Opening) (course : List Happening) (p : Poll) : Prop :=
  ∃ before tick after name kind r, course = before ++ .act tick .handle :: after ∧
    (o.after before).Begins (o.after (before ++ [.act tick .handle])) name kind r p

theorem Traced.snoc (traced : o.Traced course p) (x : Happening) : o.Traced (course ++ [x]) p := by
  obtain ⟨before, tick, after, name, kind, r, rfl, begins⟩ := traced
  exact ⟨before, tick, after ++ [x], name, kind, r, by simp, begins⟩

theorem Traced.settle (traced : o.Traced course p) (settled : List (Nat × Outcome)) :
    o.Traced course (p.settle settled) := by
  obtain ⟨before, tick, after, name, kind, r, rfl, begins⟩ := traced
  exact ⟨before, tick, after, name, kind, r, rfl, begins.settle settled⟩

theorem polls_traced (o : Opening) (course : List Happening) :
    ∀ p ∈ (o.after course).port.polls, o.Traced course p := by
  induction course using List.reverseRecOn with
  | nil => nofun
  | append_singleton course x ih =>
    intro p mem
    rw [after_snoc] at mem
    cases x with
    | elsewhere headEnd => exact (ih p mem).snoc _
    | act now a =>
      obtain ⟨q, held, settled, rfl⟩ | ⟨rfl, name, kind, r, begins⟩ := (Site.act_step _ now a).polls mem
      · exact ((ih q held).settle settled).snoc _
      · refine ⟨course, now, [], name, kind, r, rfl, ?_⟩
        rw [after_snoc]
        exact begins

theorem polls_unhandled {P : Poll → Prop} (settle : ∀ p settled, P p → P (p.settle settled))
    {before after : List Happening} (begun : ∀ p ∈ (o.after before).port.polls, P p)
    (unhandled : ∀ now, .act now .handle ∉ after) : ∀ p ∈ (o.after (before ++ after)).port.polls, P p := by
  induction after using List.reverseRecOn with
  | nil => rwa [List.append_nil]
  | append_singleton after x ih =>
    have earlier := ih fun now mem => unhandled now (List.mem_append_left _ mem)
    intro p mem
    rw [← List.append_assoc, after_snoc] at mem
    cases x with
    | elsewhere headEnd => exact earlier p mem
    | act now a =>
      obtain ⟨q, held, settled, rfl⟩ | ⟨rfl, -⟩ := (Site.act_step _ now a).polls mem
      · exact settle q settled (earlier q held)
      · exact absurd (List.mem_append_right _ List.mem_cons_self) (unhandled now)

theorem completions_traced (o : Opening) (course : List Happening) {name : String} {kind : PollKind}
    {report : Report} (mem : .pollCompleted name kind report ∈ (o.after course).port.inbox) :
    ∃ p, o.Traced course p ∧ p.isComplete = true ∧ p.device.deviceName = name ∧ p.kind = kind ∧
      p.report = report := by
  induction course using List.reverseRecOn with
  | nil => cases mem
  | append_singleton course x ih =>
    rw [after_snoc] at mem
    have later : .pollCompleted name kind report ∈ (o.after course).port.inbox →
        ∃ p, o.Traced (course ++ [x]) p ∧ p.isComplete = true ∧ p.device.deviceName = name ∧
          p.kind = kind ∧ p.report = report := by
      intro old
      obtain ⟨p, traced, complete⟩ := ih old
      exact ⟨p, traced.snoc x, complete⟩
    cases x with
    | elsewhere headEnd => exact later mem
    | act now a =>
      obtain old | ⟨p, held, complete⟩ := (Site.act_step _ now a).completions mem
      · exact later old
      · exact ⟨p, (o.polls_traced course p held).snoc _, complete⟩

def Keeps (o : Opening) (name : String) (before after : List Happening) : Prop :=
  ∀ mid now a rest, after = mid ++ .act now a :: rest → name ∉ (o.after (before ++ mid)).dropped a

theorem Keeps.device {name : String} {before after : List Happening} (keeps : o.Keeps name before after)
    {r : Record} (held : (o.after before).port.registry.get? name = some r) :
    ∃ r', (o.after (before ++ after)).port.registry.get? name = some r' ∧ r'.lasting = r.lasting := by
  induction after using List.reverseRecOn with
  | nil =>
    rw [List.append_nil]
    exact ⟨r, held, rfl⟩
  | append_singleton after x ih =>
    have earlier : o.Keeps name before after := by
      rintro mid now a rest rfl
      exact keeps mid now a (rest ++ [x]) (by simp)
    obtain ⟨d, there, same⟩ := ih earlier
    rw [← List.append_assoc, after_snoc]
    cases x with
    | elsewhere headEnd => exact ⟨d, there, same⟩
    | act now a =>
      obtain ⟨e, still, alike⟩ := (Site.act_step _ now a).device_kept (keeps after now a [] rfl) there
      exact ⟨e, still, alike.trans same⟩

/-- Devices change what they have reported, and reports are stored, only when a poll is over.  The
report is that of a poll which began for the device of that name, and that is the device it goes to
unless its name was taken from it in the meantime. -/
theorem reports_follow_polls (o : Opening) (course : List Happening) (now : Nat) (a : Action) :
    let s := o.after course
    let s' := s.act now a
    (s'.headEnd.stored = s.headEnd.stored ∧
      ∀ r ∈ s'.port.registry.devices, r ∈ s.port.registry.devices ∨ r.lasting = r) ∨
    ∃ name kind report inbox r, a = .handle ∧ s.port.inbox = .pollCompleted name kind report :: inbox ∧
      s.port.registry.get? name = some r ∧
      s'.port.registry = s.port.registry.update (r.filterChanges report now).2 ∧
      s'.headEnd.stored = s.headEnd.stored ++ (if (r.filterChanges report now).1.isEmpty then []
        else [(r.connector, (r.filterChanges report now).1)]) ∧
      ∃ before tick after r₀ p, course = before ++ .act tick .handle :: after ∧
        (o.after before).Begins (o.after (before ++ [.act tick .handle])) name kind r₀ p ∧
        p.isComplete = true ∧ p.report = report ∧
        (o.Keeps name before (.act tick .handle :: after) → r.lasting = r₀.lasting) := by
  intro s s'
  have view := (Site.act_step s now a).devices
  change s.DeviceStep now a s'.port.registry s'.headEnd.stored at view
  generalize s'.port.registry = registry, s'.headEnd.stored = stored at view ⊢
  cases view with
  | kept => exact .inl ⟨rfl, fun r mem => .inl mem⟩
  | edited _ _ ok =>
    refine .inl ⟨rfl, ?_⟩
    intro r mem
    obtain ⟨made, split⟩ := (Registry.edited_of_edit ok).split
    rw [split.devices] at mem
    obtain old | new := List.mem_append.mp mem
    · exact .inl (List.mem_of_mem_filter old)
    · exact .inr (split.fresh r new).2.2
  | @reported name kind report inbox r handle next found =>
    refine .inr ⟨name, kind, report, inbox, r, handle, next, found, rfl, rfl, ?_⟩
    have waiting : .pollCompleted name kind report ∈ s.port.inbox := next ▸ List.mem_cons_self
    obtain ⟨p, ⟨before, tick, after, polled, own, r₀, split, begins⟩, complete, rfl, rfl, rfl⟩ :=
      o.completions_traced course waiting
    have named : polled = p.device.deviceName := by
      have record : r₀.name = polled := by simpa using List.find?_some begins.record
      rw [begins.device]
      exact record.symm
    have kind := begins.polled
    subst named kind
    refine ⟨before, tick, after, r₀, p, split, begins, complete, rfl, ?_⟩
    intro keeps
    obtain ⟨d, still, same⟩ := keeps.device begins.record
    rw [← split] at still
    rw [← same, Option.some.inj (found.symm.trans still)]

def reading : List Happening :=
  [.act 1100 (.arrive 0 (.bytes [1, 3, 2, 0, 42, 0x39, 0x9B])), .act 1100 (.read 0), .act 1100 (.read 0)]

def handover : List Happening :=
  [.act 1050 (.removeDevices (stand "quay" "k")), .act 1050 (.updateDevices (stand "pier" "q"))]

/-- The poll that was under way when another connector took the name brings it its report. -/
theorem report_goes_to_namesake :
    let polling := greeting ++ firstPoll
    let course := polling ++ (handover ++ reading)
    let s := (trial.after course).act 1100 (.completePoll "meter-1" .timeseries)
    ∃ p r₀ before after, polling = before ++ .act 1000 .handle :: after ∧
      (trial.after before).Begins (trial.after (before ++ [.act 1000 .handle])) "meter-1" .timeseries r₀ p ∧
      r₀.connector = "quay" ∧ r₀.token = "k" ∧
      s.port.inbox = [.pollCompleted "meter-1" .timeseries p.report] ∧
      (s.port.registry.get? "meter-1").map (fun r => (r.connector, r.token)) = some ("pier", "q") ∧
      (s.act 1100 .handle).headEnd.stored.map (fun x => (x.1, x.2.telemetry.map Entry.key)) =
        [("pier", ["energy"])] := by
  intro polling course s
  let asked := greeting ++ [.act 1000 (.fire 0)]
  obtain ⟨p₀, r₀, only, begins, quay, k⟩ : ∃ p₀ r₀, (trial.after polling).port.polls = [p₀] ∧
      (trial.after asked).Begins (trial.after (asked ++ [.act 1000 .handle])) "meter-1" .timeseries r₀ p₀ ∧
      r₀.connector = "quay" ∧ r₀.token = "k" :=
    ⟨_, _, rfl, ⟨rfl, rfl, rfl, rfl, rfl, rfl, _, _, rfl, rfl, rfl⟩, rfl, rfl⟩
  have begun : ∀ p ∈ (trial.after course).port.polls, (trial.after asked).Begins
      (trial.after (asked ++ [.act 1000 .handle])) "meter-1" .timeseries r₀ p := by
    apply polls_unhandled
    · exact fun p settled begins => begins.settle settled
    · intro p mem
      rw [only, List.mem_singleton] at mem
      exact mem ▸ begins
    · simp [handover, reading]
  obtain ⟨p, polls⟩ : ∃ p, (trial.after course).port.polls = [p] := by
    apply List.length_eq_one_iff.mp
    decide +kernel
  have mine := begun p (polls ▸ List.mem_singleton_self p)
  have complete : p.isComplete = true := by
    have all : (trial.after course).port.polls.all (·.isComplete) = true := by decide +kernel
    rw [polls] at all
    simpa using all
  have inbox : s.port.inbox = [.pollCompleted "meter-1" .timeseries p.report] := by
    have idle : (trial.after course).port.inbox = [] := List.isEmpty_iff.mp (by decide +kernel)
    have running : (trial.after course).port.running = true := by decide +kernel
    have recorded : r₀.name = "meter-1" := by simpa using List.find?_some mine.record
    have named : p.device.deviceName = "meter-1" :=
      (congrArg DeviceConfig.deviceName mine.device).trans recorded
    have fits : p.isOver "meter-1" .timeseries = true :=
      Poll.isOver_iff.mpr ⟨named, mine.polled, complete⟩
    have found : (trial.after course).port.polls.find? (·.isOver "meter-1" .timeseries) = some p := by
      simp [polls, fits]
    have completed := Site.completePoll_inbox found running 1100
    rwa [idle] at completed
  exact ⟨p, r₀, asked, _, rfl, mine, quay, k, inbox, by decide +kernel, by decide +kernel⟩

end Opening

end MeterGateway
