import MeterGateway.Proofs.Schedule.Timetable
import MeterGateway.Proofs.Site.Calls
import MeterGateway.Proofs.Site.Polls

/-!
Polls come in rounds.  A round begins when a tick is dealt with and ends when the completion of its
poll is; in between its job stands in the table of polls under way, and whatever ticks come change
nothing.
-/

namespace MeterGateway

def Poll.round (p : Poll) : String × PollKind := (p.device.deviceName, p.kind)

def Event.completion? : Event → Option (String × PollKind)
  | pollCompleted device kind _ => some (device, kind)
  | notice _ _ | pollDue _ _ => none

/-- The rounds that are not over: their reads are under way, or their completion is still to be dealt
with. -/
def rounds (polls : List Poll) (inbox : List Event) : List (String × PollKind) :=
  polls.map Poll.round ++ inbox.filterMap Event.completion?

section Rounds

variable (polls before after : List Poll) (p : Poll) (inbox : List Event)

theorem rounds_settle (settled : List (Nat × Outcome)) :
    rounds (polls.map (·.settle settled)) inbox = rounds polls inbox := by
  rw [rounds, List.map_map]
  rfl

theorem rounds_heard {e : Event} (silent : e.completion? = none) :
    rounds polls (e :: inbox) = rounds polls inbox := by
  rw [rounds, List.filterMap_cons_none silent, rounds]

theorem rounds_news {news : List Event} (silent : ∀ e ∈ news, e.completion? = none) :
    rounds polls (inbox ++ news) = rounds polls inbox := by
  rw [rounds, List.filterMap_append, List.filterMap_eq_nil_iff.mpr silent, List.append_nil, rounds]

theorem rounds_begun : (rounds (polls ++ [p]) inbox).Perm (p.round :: rounds polls inbox) := by
  rw [rounds, List.map_append, List.append_assoc]
  exact List.perm_middle

theorem rounds_reported (name : String) (kind : PollKind) (report : Report) :
    (rounds polls (.pollCompleted name kind report :: inbox)).Perm ((name, kind) :: rounds polls inbox) :=
  List.perm_middle

theorem rounds_count (round : String × PollKind) : (rounds polls inbox).count round =
    polls.countP (·.round = round) + inbox.countP (·.completion? = some round) := by
  rw [rounds, List.count_append, List.count, List.countP_map, List.countP_filterMap]
  have event : (fun e : Event => (e.completion?.map (· == round)).getD false) =
      fun e => decide (e.completion? = some round) := by
    funext e
    cases e.completion? <;> simp [beq_eq_decide]
  rw [event]
  simp only [Function.comp_def, beq_eq_decide]

theorem rounds_completed : (rounds (before ++ after)
    (inbox ++ [.pollCompleted p.device.deviceName p.kind p.report])).Perm
      (rounds (before ++ p :: after) inbox) := by
  have last : (inbox ++ [Event.pollCompleted p.device.deviceName p.kind p.report]).filterMap
      Event.completion? = inbox.filterMap Event.completion? ++ [p.round] := by
    rw [List.filterMap_append]
    rfl
  rw [rounds, last, ← List.append_assoc, rounds, List.map_append, List.map_append, List.map_cons]
  refine (List.perm_append_singleton _ _).trans (.trans ?_ (List.perm_middle.symm.append_right _))
  rfl

end Rounds

def Port.rounds (p : Port) : List (String × PollKind) := MeterGateway.rounds p.polls p.inbox

def jobOf (round : String × PollKind) : String := jobId round.1 round.2

theorem jobOf_injective : Function.Injective jobOf := by
  intro x y same
  exact Prod.ext_iff.mpr (jobId_inj.mp same)

structure Paced (rounds : List (String × PollKind)) (polling : List String) : Prop where
  jobs : polling.Perm (rounds.map jobOf)
  distinct : polling.Nodup

theorem Paced.perm {former rounds : List (String × PollKind)} {polling : List String}
    (paced : Paced former polling) (same : rounds.Perm former) : Paced rounds polling :=
  ⟨paced.jobs.trans (same.symm.map _), paced.distinct⟩

theorem Paced.mem_iff {rounds : List (String × PollKind)} {polling : List String}
    (paced : Paced rounds polling) (device : String) (kind : PollKind) :
    jobId device kind ∈ polling ↔ (device, kind) ∈ rounds := by
  rw [paced.jobs.mem_iff, ← List.mem_map_of_injective jobOf_injective]
  rfl

theorem Paced.nodup {rounds : List (String × PollKind)} {polling : List String}
    (paced : Paced rounds polling) : rounds.Nodup :=
  .of_map jobOf (paced.jobs.nodup_iff.mp paced.distinct)

theorem Paced.count {rounds : List (String × PollKind)} {polling : List String}
    (paced : Paced rounds polling) (device : String) (kind : PollKind) :
    rounds.count (device, kind) = if jobId device kind ∈ polling then 1 else 0 := by
  simp only [paced.nodup.count, paced.mem_iff]

namespace Site

inductive PollStep (s : Site) (now : Nat) (a : Action) : List Poll → List String → List Event → Prop
  | kept {news} : (∀ e ∈ news, e.completion? = none) →
      (∀ name kind, a = .completePoll name kind → ∀ p ∈ s.port.polls, p.isOver name kind = false) →
      (a = .handle → s.port.inbox = []) →
      PollStep s now a (s.port.polls.map (·.settle (s.settles (.act now a)))) s.port.polling
        (s.port.inbox ++ news)
  | heard {e inbox} : a = .handle → s.port.inbox = e :: inbox → e.completion? = none →
      PollStep s now a s.port.polls s.port.polling inbox
  | begun {name kind r inbox} : a = .handle → s.port.inbox = .pollDue name kind :: inbox →
      jobId name kind ∉ s.port.polling → s.Begins (s.act now a) name kind r (s.opening r kind) →
      PollStep s now a (s.port.polls ++ [s.opening r kind]) (s.port.polling ++ [jobId name kind]) inbox
  | completed {before p after} : a = .completePoll p.device.deviceName p.kind →
      s.port.polls = before ++ p :: after → p.isComplete = true →
      PollStep s now a (before ++ after) s.port.polling
        (s.port.inbox ++ [.pollCompleted p.device.deviceName p.kind p.report])
  | reported {name kind report inbox} : a = .handle →
      s.port.inbox = .pollCompleted name kind report :: inbox →
      PollStep s now a s.port.polls (s.port.polling.filter (· ≠ jobId name kind)) inbox

variable {s s' : Site} {now : Nat} {a : Action}

theorem PollStep.idle (s : Site) (now : Nat) (news : List Event) (still : a.move? = none)
    (uncompleted : ∀ e ∈ news, e.completion? = none)
    (unfinished : ∀ name kind, a = .completePoll name kind →
      ∀ p ∈ s.port.polls, p.isOver name kind = false)
    (unheard : a = .handle → s.port.inbox = []) :
    s.PollStep now a s.port.polls s.port.polling (s.port.inbox ++ news) := by
  have kept : s.PollStep now a _ _ _ := .kept uncompleted unfinished unheard
  rw [s.settles_idle now still] at kept
  simpa using kept

theorem PollStep.still (s : Site) (now : Nat) (still : a.move? = none)
    (unfinished : ∀ name kind, a = .completePoll name kind →
      ∀ p ∈ s.port.polls, p.isOver name kind = false)
    (unheard : a = .handle → s.port.inbox = []) :
    s.PollStep now a s.port.polls s.port.polling s.port.inbox := by
  have idle := PollStep.idle s now [] still (List.forall_mem_nil _) unfinished unheard
  rwa [List.append_nil] at idle

def Paces (s : Site) (now : Nat) (a : Action) (s' : Site) : Prop :=
  s.PollStep now a s'.port.polls s'.port.polling s'.port.inbox

theorem move_paces (running : s.port.running = true) (now : Nat) {id : Nat} {m : Session.Move}
    (move : a.move? = some (id, m)) : s.Paces now a (s.withSession id (·.turn now m)) := by
  have unfinished : ∀ name kind, a = .completePoll name kind →
      ∀ p ∈ s.port.polls, p.isOver name kind = false := by
    rintro name kind rfl
    cases move
  have unheard : a = .handle → s.port.inbox = [] := by
    rintro rfl
    cases move
  unfold Paces
  cases present : s.port.session? id with
  | none =>
    have kept : s.PollStep now a _ _ _ := .kept (List.forall_mem_nil _) unfinished unheard
    rw [settles_absent now move present] at kept
    simpa [withSession, present] using kept
  | some c =>
    simp only [withSession, present, take_eq, running, if_true, ← settles_move now move present]
    apply PollStep.kept _ unfinished unheard
    intro e told
    cases notice : (c.turn now m).notice <;> simp [notice] at told
    rw [told]
    rfl

theorem completePoll_paces (running : s.port.running = true) (now : Nat) (name : String)
    (kind : PollKind) : s.Paces now (.completePoll name kind) (s.completePoll name kind) := by
  unfold Paces completePoll
  split
  case h_1 none_over =>
    apply PollStep.still s now rfl
    · intro _ _ same p mem
      cases same
      simpa using List.find?_eq_none.mp none_over p mem
    · intro handling
      cases handling
  case h_2 p found =>
    obtain ⟨before, after, split, -, fits, rest⟩ := split_of_find? found
    obtain ⟨rfl, rfl, complete⟩ := Poll.isOver_iff.mp fits
    simp only [Port.notify_eq, running, if_true, rest]
    exact .completed rfl split complete

theorem handle_paces (s : Site) (now : Nat) : s.Paces now .handle (s.act now .handle) := by
  unfold Paces
  cases next : s.port.inbox with
  | nil =>
    have same : s.act now .handle = s := by simp only [act, handle, next]
    rw [same]
    apply PollStep.still s now rfl _ (fun _ => next)
    intro _ _ completing
    cases completing
  | cons e inbox =>
    let left : Site := { s with port := { s.port with inbox } }
    have done : s.act now .handle = left.respond now e := by simp only [act, handle, next, left]
    have response := left.respond_response now e
    rw [← done] at response
    generalize after : s.act now .handle = s' at response ⊢
    cases response with
    | begun idle found active present going made =>
      subst made
      refine .begun rfl next idle ?_
      rw [after]
      exact begins_of_due next found active present rfl
    | discarded | unchanged | forwarded => exact .reported rfl next
    | _ => exact .heard rfl next rfl

theorem Step.paces (step : s.Step now a s') (running : s.port.running = true) (going : a ≠ .stop)
    (still : a.move? = none) (unheard : a ≠ .handle)
    (unended : ∀ name kind, a ≠ .completePoll name kind) : s.Paces now a s' := by
  have unfinished : ∀ name kind, a = .completePoll name kind →
      ∀ p ∈ s.port.polls, p.isOver name kind = false :=
    fun name kind same => absurd same (unended name kind)
  have quiet : ∀ news : List Event, (∀ e ∈ news, e.completion? = none) →
      s.PollStep now a s.port.polls s.port.polling (s.port.inbox ++ news) := by
    intro news uncompleted
    exact .idle s now news still uncompleted unfinished (absurd · unheard)
  have alone : s.PollStep now a s.port.polls s.port.polling s.port.inbox :=
    .still s now still unfinished (absurd · unheard)
  unfold Paces
  cases step with
  | moved move =>
    rw [still] at move
    cases move
  | accepted => exact quiet _ (by simp [Event.completion?])
  | fired => exact quiet _ (by simp [running, Event.completion?])
  | handled => exact absurd rfl unheard
  | completed => exact absurd rfl (unended _ _)
  | stopped => exact absurd rfl going
  | _ => exact alone

theorem act_paces (running : s.port.running = true) (now : Nat) (going : a ≠ .stop) :
    s.Paces now a (s.act now a) := by
  cases a with
  | arrive id arrival => exact move_paces running now (m := .arrive arrival) rfl
  | read id => exact move_paces running now (m := .read) rfl
  | obey id => exact move_paces running now (m := .obey) rfl
  | heed id => exact move_paces running now (m := .heed) rfl
  | expire id => exact move_paces running now (m := .expire) rfl
  | handle => exact s.handle_paces now
  | completePoll name kind => exact completePoll_paces running now name kind
  | _ => exact (s.act_step now _).paces running going rfl nofun nofun

/-! ### The table of polls under way -/

theorem PollStep.paced {polls : List Poll} {polling : List String} {inbox : List Event}
    (step : s.PollStep now a polls polling inbox) (paced : Paced s.port.rounds s.port.polling) :
    Paced (rounds polls inbox) polling := by
  rw [Port.rounds] at paced
  cases step with
  | kept silent =>
    rw [rounds_news _ _ silent, rounds_settle]
    exact paced
  | heard _ next silent =>
    rw [next, rounds_heard _ _ silent] at paced
    exact paced
  | @begun name kind r inbox _ next idle begins =>
    have named : r.name = name := by simpa using List.find?_some begins.record
    have round : (s.opening r kind).round = (name, kind) := by
      rw [← named]
      rfl
    rw [next, rounds_heard _ _ rfl] at paced
    have more := rounds_begun s.port.polls (s.opening r kind) inbox
    rw [round] at more
    refine ⟨?_, List.nodup_append.mpr ⟨paced.distinct, List.nodup_singleton _, ?_⟩⟩
    · refine (List.perm_append_singleton _ _).trans (.trans ?_ (more.symm.map jobOf))
      exact paced.jobs.cons (jobId name kind)
    · intro job held other new
      rw [List.mem_singleton.mp new]
      rintro rfl
      exact idle held
  | @completed before p after _ split =>
    rw [split] at paced
    exact paced.perm (rounds_completed before after p s.port.inbox)
  | @reported name kind report inbox _ next =>
    rw [next] at paced
    have own := paced.perm (rounds_reported s.port.polls inbox name kind report).symm
    have finished := (List.nodup_cons.mp (own.jobs.nodup_iff.mp own.distinct)).1
    have others : ((rounds s.port.polls inbox).map jobOf).filter (· ≠ jobId name kind) =
        (rounds s.port.polls inbox).map jobOf := by
      rw [List.filter_eq_self]
      intro job held
      apply decide_eq_true
      rintro rfl
      exact finished held
    have left := own.jobs.filter (· ≠ jobId name kind)
    rw [List.map_cons, List.filter_cons_of_neg (by simp [jobOf]), others] at left
    exact ⟨left, own.distinct.filter _⟩

end Site

/-! ### In turn -/

def Happening.endsPoll (device : String) (kind : PollKind) : Happening → Bool
  | .act _ (.completePoll name own) => name = device && own = kind
  | _ => false

def Happening.handles : Happening → Bool
  | .act _ .handle => true
  | _ => false

theorem Poll.settle_of_complete {p : Poll} (complete : p.isComplete = true)
    (settled : List (Nat × Outcome)) : p.settle settled = p := by
  have same : p.reads.map (·.settle settled) = p.reads.map id := by
    apply List.map_congr_left
    intro r read
    obtain ⟨outcome, own⟩ := Option.isSome_iff_exists.mp (List.all_eq_true.mp complete r read)
    rw [PointRead.settle, own]
    exact congrArg (PointRead.mk _ _) own.symm
  rw [Poll.settle, same, List.map_id]

namespace Site

variable {s s' : Site} {now : Nat} {a : Action}

def Reaches (s : Site) (course : List Happening) (P : Site → Prop) : Prop :=
  ∃ first rest, course = first ++ rest ∧ P (s.later first)

/-- What waits in a line of which each action of a kind takes one off has its turn when as many have
been taken off as were ahead of it and one more. -/
theorem reaches_turn {P : Site → Prop} (ahead : Site → Nat → Prop) {takes : Happening → Bool}
    (act : ∀ s now a n, s.port.running = true → a ≠ .stop → ahead s n →
      P (s.act now a) ∨ ∃ m, ahead (s.act now a) m ∧ m + (if takes (.act now a) then 1 else 0) ≤ n)
    (elsewhere : ∀ s headEnd n, ahead s n →
      ahead { s with headEnd } n ∧ takes (.elsewhere headEnd) = false)
    {n : Nat} (running : s.port.running = true) (waits : ahead s n) {course : List Happening}
    (going : ∀ now, .act now .stop ∉ course) (enough : n < course.countP takes) :
    s.Reaches course P := by
  induction course generalizing s n with
  | nil => cases enough
  | cons x course ih =>
    have later : (s.happen x).Reaches course P → s.Reaches (x :: course) P := by
      rintro ⟨first, rest, rfl, holds⟩
      exact ⟨x :: first, rest, rfl, holds⟩
    have on : ∀ now, .act now .stop ∉ course := fun now mem => going now (List.mem_cons_of_mem _ mem)
    rw [List.countP_cons] at enough
    cases x with
    | elsewhere headEnd =>
      obtain ⟨still, uncounted⟩ := elsewhere s headEnd n waits
      rw [uncounted] at enough
      exact later (ih (s := { s with headEnd }) running still on enough)
    | act now a =>
      have goes_on : a ≠ .stop := by
        rintro rfl
        exact going now List.mem_cons_self
      obtain turn | ⟨m, still, less⟩ := act s now a n running goes_on waits
      · exact ⟨[.act now a], course, rfl, turn⟩
      · exact later (ih (((s.act_step now a).running_eq goes_on).trans running) still on (by omega))

section Turn

variable {polls : List Poll} {polling : List String} {inbox : List Event}

theorem PollStep.poll_kept (step : s.PollStep now a polls polling inbox)
    (paced : Paced s.port.rounds s.port.polling) {p : Poll} (held : p ∈ s.port.polls)
    (complete : p.isComplete = true) :
    .pollCompleted p.device.deviceName p.kind p.report ∈ inbox ∨
      p ∈ polls ∧ (Happening.act now a).endsPoll p.device.deviceName p.kind = false := by
  have other : (∀ name kind, a ≠ .completePoll name kind) →
      (Happening.act now a).endsPoll p.device.deviceName p.kind = false := by
    intro unended
    cases a with
    | completePoll name kind => exact absurd rfl (unended name kind)
    | _ => rfl
  cases step with
  | kept _ unfinished =>
    refine .inr ⟨List.mem_map.mpr ⟨p, held, Poll.settle_of_complete complete _⟩, ?_⟩
    rw [Bool.eq_false_iff]
    intro ends
    cases a with
    | completePoll name kind =>
      obtain ⟨rfl, rfl⟩ : name = p.device.deviceName ∧ kind = p.kind := by
        simpa [Happening.endsPoll] using ends
      have going := unfinished _ _ rfl p held
      rw [Poll.isOver_iff.mpr ⟨rfl, rfl, complete⟩] at going
      cases going
    | _ => cases ends
  | heard handling | reported handling => exact .inr ⟨held, other (by rw [handling]; nofun)⟩
  | begun handling =>
    exact .inr ⟨List.mem_append_left _ held, other (by rw [handling]; nofun)⟩
  | @completed before q after completing split =>
    rw [split, List.mem_append, List.mem_cons] at held
    by_cases same : p = q
    · rw [same]
      exact .inl (List.mem_append_right _ List.mem_cons_self)
    refine .inr ⟨by simpa [same] using held, ?_⟩
    -- two polls that are under way are not of one round
    have distinct : (s.port.polls.map Poll.round).Nodup :=
      paced.nodup.sublist (List.sublist_append_left _ _)
    have rounds := List.inj_on_of_nodup_map distinct (x := p) (y := q)
      (by rw [split]; simpa using held) (by rw [split]; simp)
    rw [completing, Bool.eq_false_iff]
    intro ends
    obtain ⟨name, kind⟩ : q.device.deviceName = p.device.deviceName ∧ q.kind = p.kind := by
      simpa [Happening.endsPoll] using ends
    exact same (rounds (Prod.ext name.symm kind.symm))

theorem PollStep.completion_ahead (step : s.PollStep now a polls polling inbox) {front back : List Event}
    {name : String} {kind : PollKind} {report : Report}
    (held : s.port.inbox = front ++ .pollCompleted name kind report :: back) :
    jobId name kind ∉ polling ∨
      ∃ front' back', inbox = front' ++ .pollCompleted name kind report :: back' ∧
        front'.length + (if (Happening.act now a).handles then 1 else 0) ≤ front.length := by
  have behind : ∀ {news}, inbox = s.port.inbox ++ news → a ≠ .handle →
      ∃ front' back', inbox = front' ++ .pollCompleted name kind report :: back' ∧
        front'.length + (if (Happening.act now a).handles then 1 else 0) ≤ front.length := by
    intro news more other
    have uncounted : (Happening.act now a).handles = false := by
      cases a with
      | handle => exact absurd rfl other
      | _ => rfl
    refine ⟨front, back ++ news, ?_, by simp [uncounted]⟩
    rw [more, held, List.append_assoc]
    rfl
  have dealt : ∀ {e}, s.port.inbox = e :: inbox → a = .handle → e = .pollCompleted name kind report ∨
      ∃ front' back', inbox = front' ++ .pollCompleted name kind report :: back' ∧
        front'.length + (if (Happening.act now a).handles then 1 else 0) ≤ front.length := by
    intro e next handling
    rw [next] at held
    cases front with
    | nil => exact .inl (List.cons.inj held).1
    | cons first front =>
      refine .inr ⟨front, back, (List.cons.inj held).2, ?_⟩
      rw [handling]
      exact Nat.le_refl _
  cases step with
  | kept _ _ unheard =>
    refine .inr (behind rfl ?_)
    intro handling
    rw [unheard handling] at held
    exact absurd held (by simp)
  | heard handling next silent =>
    obtain rfl | ahead := dealt next handling
    · cases silent
    · exact .inr ahead
  | begun handling next =>
    obtain same | ahead := dealt next handling
    · cases same
    · exact .inr ahead
  | completed completing => exact .inr (behind rfl (by rw [completing]; nofun))
  | reported handling next =>
    obtain same | ahead := dealt next handling
    · cases same
      left
      simp
    · exact .inr ahead

end Turn

theorem completion_told (running : s.port.running = true) (paced : Paced s.port.rounds s.port.polling)
    {p : Poll} (held : p ∈ s.port.polls) (complete : p.isComplete = true) {course : List Happening}
    (going : ∀ now, .act now .stop ∉ course) {time : Nat}
    (ends : .act time (.completePoll p.device.deviceName p.kind) ∈ course) :
    s.Reaches course fun s => .pollCompleted p.device.deviceName p.kind p.report ∈ s.port.inbox := by
  let ahead (s : Site) (_ : Nat) : Prop := p ∈ s.port.polls ∧ Paced s.port.rounds s.port.polling
  have enough : 0 < course.countP (Happening.endsPoll p.device.deviceName p.kind) :=
    List.countP_pos_iff.mpr ⟨_, ends, by simp [Happening.endsPoll]⟩
  apply reaches_turn ahead _ _ running ⟨held, paced⟩ going enough
  · rintro s now a n running goes_on ⟨held, paced⟩
    have paces : s.PollStep now a _ _ _ := act_paces running now goes_on
    obtain told | ⟨still, unended⟩ := paces.poll_kept paced held complete
    · exact .inl told
    · exact .inr ⟨n, ⟨still, paces.paced paced⟩, by rw [unended]; exact Nat.le_refl n⟩
  · rintro s headEnd n waits
    exact ⟨waits, rfl⟩

theorem freed_in_turn (running : s.port.running = true) {front back : List Event} {name : String}
    {kind : PollKind} {report : Report}
    (held : s.port.inbox = front ++ .pollCompleted name kind report :: back)
    {course : List Happening} (going : ∀ now, .act now .stop ∉ course)
    (enough : front.length < course.countP Happening.handles) :
    s.Reaches course fun s => jobId name kind ∉ s.port.polling := by
  let ahead (s : Site) (n : Nat) : Prop :=
    ∃ front back, s.port.inbox = front ++ .pollCompleted name kind report :: back ∧ front.length = n
  apply reaches_turn ahead _ _ running ⟨front, back, held, rfl⟩ going enough
  · rintro s now a n running goes_on ⟨front, back, held, rfl⟩
    obtain free | ⟨front', back', still, less⟩ := (act_paces running now goes_on).completion_ahead held
    · exact .inl free
    · exact .inr ⟨_, ⟨front', back', still, rfl⟩, less⟩
  · rintro s headEnd n ⟨front, back, held, rfl⟩
    exact ⟨⟨front, back, held, rfl⟩, rfl⟩

end Site

end MeterGateway
