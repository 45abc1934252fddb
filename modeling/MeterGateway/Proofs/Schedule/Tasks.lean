import Mathlib.Data.List.Induction
import MeterGateway.Proofs.Schedule.Timetable

namespace MeterGateway

namespace Schedule

inductive Call
  | start (device : String) (kind : PollKind) (period now : Nat)
  | cancel (device : String) (kind : PollKind)
  | cancelDevice (device : String)
  | cancelAll

namespace Call

def Names (slot : String × PollKind) : Call → Prop
  | .start device kind _ _ | .cancel device kind => slot = (device, kind)
  | .cancelDevice device => slot.1 = device
  | .cancelAll => True

instance (slot : String × PollKind) : (c : Call) → Decidable (c.Names slot)
  | .start device kind _ _ | .cancel device kind => inferInstanceAs (Decidable (slot = (device, kind)))
  | .cancelDevice device => inferInstanceAs (Decidable (slot.1 = device))
  | .cancelAll => isTrue trivial

def Starts (slot : String × PollKind) : Call → Prop
  | .start device kind _ _ => slot = (device, kind)
  | .cancel _ _ | .cancelDevice _ | .cancelAll => False

def Begins (slot : String × PollKind) : Call → Prop
  | .start device kind period _ => slot = (device, kind) ∧ period ≠ 0
  | .cancel _ _ | .cancelDevice _ | .cancelAll => False

def task? (key : Nat) : Call → Option PollTask
  | .start device kind period now =>
    if period = 0 then none else some ⟨key, device, kind, period, now + period⟩
  | .cancel _ _ | .cancelDevice _ | .cancelAll => none

theorem key_of_task? {c : Call} {key : Nat} {t : PollTask} (begun : c.task? key = some t) :
    t.key = key := by
  cases c with
  | start device kind period now =>
    rw [task?] at begun
    split at begun
    · cases begun
    · exact (Option.some.inj begun) ▸ rfl
  | cancel | cancelDevice | cancelAll => cases begun

theorem Starts.names {c : Call} {slot : String × PollKind} (starts : c.Starts slot) : c.Names slot := by
  cases c with
  | start => exact starts
  | cancel | cancelDevice | cancelAll => exact starts.elim

theorem Begins.names {c : Call} {slot : String × PollKind} (begins : c.Begins slot) : c.Names slot := by
  cases c with
  | start => exact begins.1
  | cancel | cancelDevice | cancelAll => exact begins.elim

end Call

def call (s : Schedule) : Call → Schedule
  | .start device kind period now => s.start device kind period now
  | .cancel device kind => s.cancel device kind
  | .cancelDevice device => s.cancelDevice device
  | .cancelAll => s.cancelAll

/-- A start in another order: the task joins before its entry is made, and only then the task that had
the entry is stopped. -/
def startFirst (s : Schedule) (device : String) (kind : PollKind) (period now : Nat) : Schedule :=
  let entered : Schedule := {
    nextKey := s.nextKey + 1
    tasks := s.tasks ++ ((Call.start device kind period now).task? s.nextKey).toList
    jobs := s.jobs.filter (·.1 ≠ jobId device kind) ++ [(jobId device kind, s.nextKey)] }
  match s.jobs.lookup (jobId device kind) with
  | some previous => entered.stopTask previous
  | none => entered

inductive Event
  | call : Call → Event
  | fired (key now : Nat) (goesOn : Bool)

namespace Event

def isStart : Event → Bool
  | .call (.start _ _ _ _) => true
  | .call _ | .fired _ _ _ => false

def Aborts (slot : String × PollKind) : Event → Prop
  | .call c => c.Names slot
  | .fired _ _ _ => False

def Ends (key : Nat) : Event → Prop
  | .call _ => False
  | .fired key' _ goesOn => key = key' ∧ goesOn = false

end Event

def happen (s : Schedule) : Event → Schedule
  | .call c => s.call c
  | .fired key now true => s.rearm key now
  | .fired key _ false => s.stopTask key

def after (events : List Event) : Schedule := events.foldl happen {}

def starts (events : List Event) : Nat := events.countP Event.isStart

/-- The call that was the start of this number was of this kind, and all that has happened since has
spared what it began. -/
def Since (events : List Event) (key : Nat) (begun : Call → Prop) (spared : Event → Prop) : Prop :=
  ∃ before c later, events = before ++ .call c :: later ∧ begun c ∧ key = starts before ∧
    ∀ e ∈ later, spared e

def Lives (events : List Event) (key : Nat) (slot : String × PollKind) : Prop :=
  Since events key (·.Begins slot) fun e => ¬ e.Aborts slot ∧ ¬ e.Ends key

def Entered (events : List Event) (key : Nat) (slot : String × PollKind) : Prop :=
  Since events key (·.Starts slot) fun e => ¬ e.Aborts slot

theorem since_snoc {events : List Event} {e : Event} {key : Nat} {begun : Call → Prop}
    {spared : Event → Prop} : Since (events ++ [e]) key begun spared ↔
      (Since events key begun spared ∧ spared e) ∨ ∃ c, e = .call c ∧ begun c ∧ key = starts events := by
  constructor
  · rintro ⟨before, c, later, split, begins, number, spares⟩
    -- the start is itself the last event, or there is a last one among those it has outlived
    obtain rfl | ⟨later, last, rfl⟩ := List.eq_nil_or_concat later
    · obtain ⟨rfl, same⟩ := List.append_inj' split rfl
      exact .inr ⟨c, List.singleton_inj.mp same, begins, number⟩
    · rw [List.concat_eq_append, ← List.cons_append, ← List.append_assoc] at split
      obtain ⟨rfl, same⟩ := List.append_inj' split rfl
      obtain rfl := List.singleton_inj.mp same
      rw [List.concat_eq_append] at spares
      refine .inl ⟨⟨before, c, later, rfl, begins, number, ?_⟩, spares e (by simp)⟩
      exact fun x mem => spares x (List.mem_append_left _ mem)
  · rintro (⟨⟨before, c, later, rfl, begins, number, spares⟩, spared⟩ | ⟨c, rfl, begins, number⟩)
    · refine ⟨before, c, later ++ [e], by simp, begins, number, ?_⟩
      intro x mem
      obtain earlier | last := List.mem_append.mp mem
      · exact spares x earlier
      · rw [List.mem_singleton.mp last]
        exact spared
    · exact ⟨events, c, [], rfl, begins, number, fun _ mem => absurd mem List.not_mem_nil⟩

theorem Lives.latest {events before later : List Event} {key period now : Nat} {device : String}
    {kind : PollKind} (lives : Lives events key (device, kind))
    (started : events = before ++ .call (.start device kind period now) :: later) :
    starts before ≤ key := by
  obtain ⟨own, c, since, split, -, rfl, spares⟩ := lives
  obtain ⟨more, rfl, -⟩ | ⟨more, rfl, rest⟩ := List.append_eq_append_iff.mp (started.symm.trans split)
  · rw [starts, starts, List.countP_append]
    exact Nat.le_add_right _ _
  · cases more with
    | nil => exact Nat.le_of_eq (congrArg starts (List.append_nil own))
    | cons x more =>
      -- a start after its own names the slot, so the task would not have outlived it
      obtain ⟨-, rfl⟩ := List.cons.inj rest
      have spared := spares (.call (.start device kind period now))
        (List.mem_append_right more List.mem_cons_self)
      exact absurd rfl spared.1

namespace Orderly

variable {s : Schedule}

theorem new : ({} : Schedule).Orderly := Sound.new.orderly

theorem of_sublist (orderly : s.Orderly) {tasks : List PollTask} {jobs : List (String × Nat)}
    (fewer : tasks.Sublist s.tasks) (fewer' : jobs.Sublist s.jobs)
    (listed : ∀ t ∈ tasks, t.job ∈ jobs) : ({ s with tasks, jobs } : Schedule).Orderly where
  listed := listed
  ids := orderly.ids.sublist (fewer'.map _)
  entries := orderly.entries.sublist (fewer'.map _)
  keys := orderly.keys.sublist (fewer.map _)
  fresh := fun job mem => orderly.fresh job (fewer'.subset mem)

theorem stopTask (orderly : s.Orderly) (key : Nat) : (s.stopTask key).Orderly :=
  orderly.of_sublist List.filter_sublist (List.Sublist.refl _) fun t mem =>
    orderly.listed t (List.mem_of_mem_filter mem)

theorem cancel (orderly : s.Orderly) (device : String) (kind : PollKind) :
    (s.cancel device kind).Orderly := by
  rw [orderly.cancel_eq]
  refine orderly.of_sublist List.filter_sublist List.filter_sublist ?_
  intro t mem
  obtain ⟨held, other⟩ := List.mem_filter.mp mem
  refine List.mem_filter.mpr ⟨orderly.listed t held, ?_⟩
  simpa [PollTask.job, PollTask.slot, jobId_inj] using other

theorem cancelAll (orderly : s.Orderly) : s.cancelAll.Orderly := by
  rw [orderly.cancelAll_eq]
  exact orderly.of_sublist (List.nil_sublist _) (List.nil_sublist _) fun _ mem =>
    absurd mem List.not_mem_nil

theorem enter (orderly : s.Orderly) {id : String} (free : ∀ job ∈ s.jobs, job.1 ≠ id) :
    ({ s with nextKey := s.nextKey + 1, jobs := s.jobs ++ [(id, s.nextKey)] } : Schedule).Orderly where
  listed := fun t mem => List.mem_append_left _ (orderly.listed t mem)
  ids := by
    rw [List.map_append, List.nodup_append]
    refine ⟨orderly.ids, List.nodup_singleton _, ?_⟩
    simpa using free
  entries := by
    rw [List.map_append, List.nodup_append]
    refine ⟨orderly.entries, List.nodup_singleton _, ?_⟩
    intro key old next new
    obtain ⟨job, mem, rfl⟩ := List.mem_map.mp old
    rw [List.mem_singleton.mp new]
    exact Nat.ne_of_lt (orderly.fresh job mem)
  keys := orderly.keys
  fresh := by
    intro job mem
    obtain old | new := List.mem_append.mp mem
    · exact Nat.lt_succ_of_lt (orderly.fresh job old)
    · rw [List.mem_singleton.mp new]
      exact Nat.lt_succ_self _

theorem spawn (orderly : s.Orderly) {task : PollTask} (entered : task.job ∈ s.jobs)
    (new : ∀ t ∈ s.tasks, t.key ≠ task.key) :
    ({ s with tasks := s.tasks ++ [task] } : Schedule).Orderly where
  listed := by
    intro t mem
    obtain old | new := List.mem_append.mp mem
    · exact orderly.listed t old
    · rw [List.mem_singleton.mp new]
      exact entered
  ids := orderly.ids
  entries := orderly.entries
  keys := by
    rw [List.map_append, List.nodup_append]
    refine ⟨orderly.keys, List.nodup_singleton _, ?_⟩
    simpa using new
  fresh := orderly.fresh

theorem rearm (orderly : s.Orderly) (key now : Nat) : (s.rearm key now).Orderly := by
  refine ⟨?_, orderly.ids, orderly.entries, ?_, orderly.fresh⟩
  · intro t mem
    obtain ⟨u, held, rfl⟩ := List.mem_map.mp mem
    exact (u.rearmed_job key now).symm ▸ orderly.listed u held
  · have keys : (s.tasks.map (·.rearmed key now)).map PollTask.key = s.tasks.map PollTask.key := by
      rw [List.map_map]
      exact List.map_congr_left fun t _ => t.rearmed_key key now
    exact keys ▸ orderly.keys

theorem start (orderly : s.Orderly) (device : String) (kind : PollKind) (period now : Nat) :
    (s.start device kind period now).Orderly := by
  have free : ∀ job ∈ (s.cancel device kind).jobs, job.1 ≠ jobId device kind := by
    rw [orderly.cancel_eq]
    intro job mem
    simpa using (List.mem_filter.mp mem).2
  have left := orderly.cancel device kind
  have entered := left.enter free
  by_cases silent : period = 0
  · rw [Schedule.start, if_pos silent]
    exact entered
  · rw [Schedule.start, if_neg silent]
    refine entered.spawn (List.mem_append_right _ List.mem_cons_self) ?_
    intro t mem
    exact Nat.ne_of_lt (left.fresh t.job (left.listed t mem))

theorem slots (orderly : s.Orderly) : (s.tasks.map PollTask.slot).Nodup := by
  refine List.Nodup.map_on ?_ (List.Nodup.of_map _ orderly.keys)
  intro t mem u mem' same
  rw [PollTask.slot, PollTask.slot, Prod.mk.injEq] at same
  have own := orderly.lookup mem
  rw [same.1, same.2, orderly.lookup mem'] at own
  exact List.inj_on_of_nodup_map orderly.keys mem mem' (Option.some.inj own).symm

theorem call (orderly : s.Orderly) (c : Call) : (s.call c).Orderly := by
  cases c with
  | start device kind period now => exact orderly.start device kind period now
  | cancel device kind => exact orderly.cancel device kind
  | cancelDevice device => exact (orderly.cancel device .attributes).cancel device .timeseries
  | cancelAll => exact orderly.cancelAll

theorem happen (orderly : s.Orderly) (e : Event) : (s.happen e).Orderly := by
  match e with
  | .call c => exact orderly.call c
  | .fired key now true => exact orderly.rearm key now
  | .fired key _ false => exact orderly.stopTask key

theorem start_eq (orderly : s.Orderly) (device : String) (kind : PollKind) (period now : Nat) :
    s.start device kind period now =
      { nextKey := s.nextKey + 1
        tasks := s.tasks.filter (·.slot ≠ (device, kind)) ++
          ((Call.start device kind period now).task? s.nextKey).toList
        jobs := s.jobs.filter (·.1 ≠ jobId device kind) ++ [(jobId device kind, s.nextKey)] } := by
  have left : s.cancelJob (jobId device kind) = _ := orderly.cancel_eq device kind
  rw [Schedule.start, left]
  by_cases silent : period = 0 <;> simp [Call.task?, silent]

theorem startFirst_eq (orderly : s.Orderly) (device : String) (kind : PollKind) (period now : Nat) :
    s.startFirst device kind period now = s.start device kind period now := by
  rw [orderly.start_eq]
  unfold startFirst
  cases found : s.jobs.lookup (jobId device kind) with
  | none =>
    have others := orderly.slot_ne found
    have kept : s.tasks.filter (·.slot ≠ (device, kind)) = s.tasks :=
      List.filter_eq_self.mpr (by simpa using others)
    rw [kept]
  | some previous =>
    let begun := ((Call.start device kind period now).task? s.nextKey).toList
    have older : previous < s.nextKey := orderly.fresh _ ((lookup_iff_mem orderly.ids).mp found)
    have new : ∀ t ∈ begun, t.key ≠ previous := by
      intro t mem
      rw [Call.key_of_task? (Option.mem_toList.mp mem)]
      exact (Nat.ne_of_lt older).symm
    have kept : begun.filter (·.key ≠ previous) = begun :=
      List.filter_eq_self.mpr fun t mem => decide_eq_true (new t mem)
    simp only [Schedule.stopTask]
    rw [List.filter_append, orderly.filter_key found, kept]

theorem cancelDevice_eq (orderly : s.Orderly) (device : String) :
    s.cancelDevice device =
      { s with
        tasks := s.tasks.filter (·.slot.1 ≠ device)
        jobs := s.jobs.filter fun job =>
          job.1 ≠ jobId device .timeseries ∧ job.1 ≠ jobId device .attributes } := by
  have tasks : ∀ t : PollTask, (t.slot ≠ (device, .timeseries) ∧ t.slot ≠ (device, .attributes)) ↔
      t.slot.1 ≠ device := by
    intro t
    cases kind : t.kind <;> simp [PollTask.slot, kind]
  rw [Schedule.cancelDevice, (orderly.cancel _ _).cancel_eq, orderly.cancel_eq]
  simp only [List.filter_filter, ← Bool.decide_and, tasks]

theorem call_tasks (orderly : s.Orderly) (c : Call) :
    (s.call c).tasks = s.tasks.filter (fun t => ¬ c.Names t.slot) ++ (c.task? s.nextKey).toList := by
  cases c with
  | start device kind period now =>
    rw [Schedule.call, orderly.start_eq]
    rfl
  | cancel device kind =>
    rw [Schedule.call, orderly.cancel_eq]
    exact (List.append_nil _).symm
  | cancelDevice device =>
    rw [Schedule.call, orderly.cancelDevice_eq]
    exact (List.append_nil _).symm
  | cancelAll =>
    rw [Schedule.call, orderly.cancelAll_eq]
    simp [Call.Names, Call.task?]

theorem call_jobs (orderly : s.Orderly) (c : Call) (slot : String × PollKind) (key : Nat) :
    (jobId slot.1 slot.2, key) ∈ (s.call c).jobs ↔
      (jobId slot.1 slot.2, key) ∈ s.jobs ∧ ¬ c.Names slot ∨ c.Starts slot ∧ key = s.nextKey := by
  obtain ⟨device, kind⟩ := slot
  cases c with
  | start device' kind' period now =>
    rw [Schedule.call, orderly.start_eq]
    simp [Call.Names, Call.Starts, jobId_inj, -not_and, not_and_or]
  | cancel device' kind' =>
    rw [Schedule.call, orderly.cancel_eq]
    simp [Call.Names, Call.Starts, jobId_inj, -not_and, not_and_or]
  | cancelDevice device' =>
    rw [Schedule.call, orderly.cancelDevice_eq]
    cases kind <;> simp [Call.Names, Call.Starts, jobId_inj]
  | cancelAll =>
    rw [Schedule.call, orderly.cancelAll_eq]
    simp [Call.Names, Call.Starts]

theorem happen_nextKey (orderly : s.Orderly) (e : Event) :
    (s.happen e).nextKey = s.nextKey + if e.isStart then 1 else 0 := by
  match e with
  | .call (.start device kind period now) =>
    rw [Schedule.happen, Schedule.call, orderly.start_eq]
    rfl
  | .call (.cancel device kind) =>
    rw [Schedule.happen, Schedule.call, orderly.cancel_eq]
    rfl
  | .call (.cancelDevice device) =>
    rw [Schedule.happen, Schedule.call, orderly.cancelDevice_eq]
    rfl
  | .call .cancelAll =>
    rw [Schedule.happen, Schedule.call, orderly.cancelAll_eq]
    rfl
  | .fired key now true | .fired key now false => rfl

end Orderly

def Runs (s : Schedule) (key : Nat) (slot : String × PollKind) : Prop :=
  ∃ t ∈ s.tasks, t.key = key ∧ t.slot = slot

theorem Call.begins_iff (c : Call) (key next : Nat) (slot : String × PollKind) :
    (∃ t, c.task? next = some t ∧ t.key = key ∧ t.slot = slot) ↔ c.Begins slot ∧ key = next := by
  cases c with
  | start device kind period now =>
    by_cases silent : period = 0
    · simp [Begins, task?, silent]
    · simp [Begins, task?, silent, PollTask.slot, eq_comm, and_comm]
  | cancel | cancelDevice | cancelAll => simp [Begins, task?]

variable {s : Schedule} {key : Nat} {slot : String × PollKind}

theorem Orderly.call_runs (orderly : s.Orderly) (c : Call) :
    (s.call c).Runs key slot ↔
      s.Runs key slot ∧ ¬ c.Names slot ∨ c.Begins slot ∧ key = s.nextKey := by
  rw [Runs, orderly.call_tasks, ← c.begins_iff]
  constructor
  · rintro ⟨t, mem, rfl, rfl⟩
    obtain left | begun := List.mem_append.mp mem
    · obtain ⟨held, spared⟩ := List.mem_filter.mp left
      exact .inl ⟨⟨t, held, rfl, rfl⟩, of_decide_eq_true spared⟩
    · exact .inr ⟨t, Option.mem_toList.mp begun, rfl, rfl⟩
  · rintro (⟨⟨t, held, rfl, rfl⟩, spared⟩ | ⟨t, begun, rfl, rfl⟩)
    · exact ⟨t, List.mem_append_left _ (List.mem_filter.mpr ⟨held, decide_eq_true spared⟩), rfl, rfl⟩
    · exact ⟨t, List.mem_append_right _ (Option.mem_toList.mpr begun), rfl, rfl⟩

theorem Orderly.call_spares (orderly : s.Orderly) {c : Call} (other : ¬ c.Names slot) :
    (s.call c).tasks.filter (·.slot = slot) = s.tasks.filter (·.slot = slot) ∧
      (s.call c).jobs.lookup (jobId slot.1 slot.2) = s.jobs.lookup (jobId slot.1 slot.2) := by
  constructor
  · have begun : (c.task? s.nextKey).toList.filter (·.slot = slot) = [] := by
      rw [List.filter_eq_nil_iff]
      intro t mem mine
      have begins := (c.begins_iff t.key s.nextKey slot).mp
        ⟨t, Option.mem_toList.mp mem, rfl, of_decide_eq_true mine⟩
      exact other begins.1.names
    rw [orderly.call_tasks, List.filter_append, begun, List.append_nil, List.filter_filter]
    apply List.filter_congr
    intro t _
    by_cases mine : t.slot = slot <;> simp [mine, other]
  · have same : ∀ key, (jobId slot.1 slot.2, key) ∈ (s.call c).jobs ↔
        (jobId slot.1 slot.2, key) ∈ s.jobs := by
      intro key
      have unnamed : ¬ c.Starts slot := fun starts => other starts.names
      simp [orderly.call_jobs, other, unnamed]
    apply Option.ext
    intro key
    exact (lookup_iff_mem (orderly.call c).ids).trans
      ((same key).trans (lookup_iff_mem orderly.ids).symm)

theorem rearm_runs (s : Schedule) (fired now : Nat) :
    (s.rearm fired now).Runs key slot ↔ s.Runs key slot := by
  constructor
  · rintro ⟨t, mem, rfl, rfl⟩
    obtain ⟨u, held, rfl⟩ := List.mem_map.mp mem
    exact ⟨u, held, (u.rearmed_key fired now).symm, (u.rearmed_slot fired now).symm⟩
  · rintro ⟨t, held, rfl, rfl⟩
    exact ⟨t.rearmed fired now, List.mem_map_of_mem held, t.rearmed_key fired now,
      t.rearmed_slot fired now⟩

theorem stopTask_runs (s : Schedule) (ended : Nat) :
    (s.stopTask ended).Runs key slot ↔ s.Runs key slot ∧ key ≠ ended := by
  constructor
  · rintro ⟨t, mem, rfl, rfl⟩
    obtain ⟨held, other⟩ := List.mem_filter.mp mem
    exact ⟨⟨t, held, rfl, rfl⟩, of_decide_eq_true other⟩
  · rintro ⟨⟨t, held, rfl, rfl⟩, other⟩
    exact ⟨t, List.mem_filter.mpr ⟨held, decide_eq_true other⟩, rfl, rfl⟩

theorem Orderly.happen_runs (orderly : s.Orderly) (e : Event) :
    (s.happen e).Runs key slot ↔ s.Runs key slot ∧ (¬ e.Aborts slot ∧ ¬ e.Ends key) ∨
      ∃ c, e = .call c ∧ c.Begins slot ∧ key = s.nextKey := by
  match e with
  | .call c => simpa [Schedule.happen, Event.Aborts, Event.Ends] using orderly.call_runs c
  | .fired fired now true =>
    simpa [Schedule.happen, Event.Aborts, Event.Ends] using s.rearm_runs fired now
  | .fired fired now false =>
    simpa [Schedule.happen, Event.Aborts, Event.Ends] using s.stopTask_runs fired

theorem Orderly.happen_jobs (orderly : s.Orderly) (e : Event) :
    (jobId slot.1 slot.2, key) ∈ (s.happen e).jobs ↔
      (jobId slot.1 slot.2, key) ∈ s.jobs ∧ ¬ e.Aborts slot ∨
        ∃ c, e = .call c ∧ c.Starts slot ∧ key = s.nextKey := by
  match e with
  | .call c => simpa [Schedule.happen, Event.Aborts] using orderly.call_jobs c slot key
  | .fired fired now true => simp [Schedule.happen, Event.Aborts, Schedule.rearm]
  | .fired fired now false => simp [Schedule.happen, Event.Aborts, Schedule.stopTask]

structure Told (events : List Event) (s : Schedule) : Prop where
  orderly : s.Orderly
  nextKey : s.nextKey = starts events
  runs : ∀ key slot, s.Runs key slot ↔ Lives events key slot
  jobs : ∀ key slot, (jobId slot.1 slot.2, key) ∈ s.jobs ↔ Entered events key slot

theorem Told.snoc {events : List Event} (told : Told events s) (e : Event) :
    Told (events ++ [e]) (s.happen e) where
  orderly := told.orderly.happen e
  nextKey := by
    rw [told.orderly.happen_nextKey, told.nextKey, starts, starts, List.countP_append,
      List.countP_singleton]
  runs := by
    intro key slot
    rw [told.orderly.happen_runs, told.runs, told.nextKey]
    exact since_snoc.symm
  jobs := by
    intro key slot
    rw [told.orderly.happen_jobs, told.jobs, told.nextKey]
    exact since_snoc.symm

theorem after_snoc (events : List Event) (e : Event) : after (events ++ [e]) = (after events).happen e :=
  List.foldl_concat _ _ _ _

theorem not_since_nil {begun : Call → Prop} {spared : Event → Prop} : ¬ Since [] key begun spared := by
  rintro ⟨before, c, later, split, -⟩
  exact List.append_ne_nil_of_right_ne_nil before (List.cons_ne_nil _ _) split.symm

theorem after_told (events : List Event) : Told events (after events) := by
  induction events using List.reverseRecOn with
  | nil =>
    refine ⟨Orderly.new, rfl, fun key slot => ?_, fun key slot => ?_⟩
    · exact iff_of_false (fun ⟨_, mem, _⟩ => List.not_mem_nil mem) not_since_nil
    · exact iff_of_false List.not_mem_nil not_since_nil
  | append_singleton events e ih =>
    rw [after_snoc]
    exact ih.snoc e

/-- Tasks fire that are due, one after another, and each goes on or ends as its callback says. -/
inductive Fires {σ : Type} (fire : σ → PollTask → σ × Bool) (now : Nat) :
    Schedule → σ → List Event → Schedule → σ → Prop
  | rest (s : Schedule) (state : σ) : Fires fire now s state [] s state
  | fire {s last : Schedule} {state final : σ} {task : PollTask} {clock : Nat} {firings : List Event}
      (runs : task ∈ s.tasks) (due : task.due ≤ now)
      (on : Fires fire now (s.happen (.fired task.key clock (fire state task).2)) (fire state task).1
        firings last final) :
      Fires fire now s state (.fired task.key clock (fire state task).2 :: firings) last final

variable {σ : Type} {fire : σ → PollTask → σ × Bool} {now : Nat}

theorem Fires.foldl_eq {last : Schedule} {state final : σ} {firings : List Event}
    (fires : Fires fire now s state firings last final) : firings.foldl happen s = last := by
  induction fires with
  | rest => rfl
  | fire _ _ _ ih => exact ih

theorem firstDue?_eq_some {task : PollTask} (first : s.firstDue? now = some task) :
    task ∈ s.tasks ∧ task.due ≤ now := by
  have among : ∀ t, s.firstDue? now = some t → t ∈ s.tasks.filter (·.due ≤ now) := by
    unfold firstDue?
    refine List.foldlRecOn (motive := fun best => ∀ t, best = some t → t ∈ s.tasks.filter (·.due ≤ now))
      _ _ ?_ ?_
    · intro t chosen
      cases chosen
    · intro best ih t mem u chosen
      split at chosen
      · split at chosen
        · exact Option.some.inj chosen ▸ mem
        · exact ih u chosen
      · exact Option.some.inj chosen ▸ mem
  simpa using among task first

theorem happen_fired (s : Schedule) (key now : Nat) (goesOn : Bool) :
    s.happen (.fired key now goesOn) = if goesOn then s.rearm key now else s.stopTask key := by
  cases goesOn <;> rfl

theorem run_fires (s : Schedule) (now : Nat) (leap : Bool) (fire : σ → PollTask → σ × Bool) (state : σ) :
    ∃ firings, Fires fire now s state firings (s.run now leap fire state).1
      (s.run now leap fire state).2 := by
  unfold run
  -- how much fuel there is only bounds the number of firings
  generalize s.backlog now = fuel
  induction fuel generalizing s state with
  | zero => exact ⟨[], .rest s state⟩
  | succ fuel ih =>
    rw [run.go]
    cases first : s.firstDue? now with
    | none => exact ⟨[], .rest s state⟩
    | some task =>
      obtain ⟨runs, due⟩ := firstDue?_eq_some first
      let clock := if leap then now else task.due
      let fired : Event := .fired task.key clock (fire state task).2
      obtain ⟨firings, on⟩ := ih (s.happen fired) (fire state task).1
      refine ⟨fired :: firings, .fire runs due ?_⟩
      simp only [← happen_fired]
      exact on

/-- The tasks that run are those that were started and have neither been aborted nor have ended by
themselves.  They are all in the table, one at most for a device and kind and then the latest; a call
leaves all others as they are, and none runs after all are cancelled.  Time that passes is so many
firings. -/
theorem tasks_follow_calls (events : List Event) :
    (∀ t ∈ (after events).tasks, (after events).jobs.lookup (jobId t.device t.kind) = some t.key) ∧
    ((after events).tasks.map PollTask.slot).Nodup ∧
    (∀ key slot, (after events).Runs key slot ↔ Lives events key slot) ∧
    (∀ key device kind, (after events).Runs key (device, kind) → ∀ before period now later,
      events = before ++ .call (.start device kind period now) :: later → starts before ≤ key) ∧
    (∀ key device kind, (after events).jobs.lookup (jobId device kind) = some key ↔
      Entered events key (device, kind)) ∧
    (∀ device kind device' kind', jobId device kind = jobId device' kind' ↔
      device = device' ∧ kind = kind') ∧
    (∀ device kind period now, (after events).startFirst device kind period now =
      (after events).start device kind period now) ∧
    (∀ (c : Call) device kind, ¬ c.Names (device, kind) →
      ((after events).call c).tasks.filter (·.slot = (device, kind)) =
        (after events).tasks.filter (·.slot = (device, kind)) ∧
      ((after events).call c).jobs.lookup (jobId device kind) =
        (after events).jobs.lookup (jobId device kind)) ∧
    ((after events).cancelAll.tasks = [] ∧ (after events).cancelAll.jobs = []) ∧
    ∀ (σ : Type) (fire : σ → PollTask → σ × Bool) (state : σ) (now : Nat) (leap : Bool), ∃ firings,
      Fires fire now (after events) state firings ((after events).run now leap fire state).1
        ((after events).run now leap fire state).2 ∧
      ((after events).run now leap fire state).1 = after (events ++ firings) := by
  have told := after_told events
  have orderly := told.orderly
  refine ⟨fun t mem => orderly.lookup mem, orderly.slots, told.runs, ?_, ?_, ?_, ?_, ?_, ?_, ?_⟩
  · intro key device kind runs before period now later started
    exact ((told.runs key (device, kind)).mp runs).latest started
  · intro key device kind
    exact (lookup_iff_mem orderly.ids).trans (told.jobs key (device, kind))
  · intro device kind device' kind'
    exact jobId_inj
  · intro device kind period now
    exact orderly.startFirst_eq device kind period now
  · intro c device kind other
    exact orderly.call_spares other
  · rw [orderly.cancelAll_eq]
    exact ⟨rfl, rfl⟩
  · intro σ fire state now leap
    obtain ⟨firings, fires⟩ := run_fires (after events) now leap fire state
    have joined : after (events ++ firings) = firings.foldl happen (after events) := List.foldl_append
    exact ⟨firings, fires, fires.foldl_eq.symm.trans joined.symm⟩

theorem tasks_follow_calls_colons :
    let events : List Event := [.call (.start "m:attributes" .timeseries 1000 0),
      .call (.start "m" .attributes 2000 0), .call (.start "m:attributes" .timeseries 500 10),
      .fired 1 2000 false]
    (after events).Runs 2 ("m:attributes", .timeseries) ∧
    (after events).jobs.lookup (jobId "m:attributes" .timeseries) = some 2 ∧
    ¬ (after events).Runs 0 ("m:attributes", .timeseries) ∧
    ¬ (Call.cancelDevice "m").Names ("m:attributes", .timeseries) ∧
    ((after events).call (.cancelDevice "m")).jobs.lookup (jobId "m:attributes" .timeseries) =
      some 2 := by
  intro events
  obtain ⟨listed, -, -, latest, -, -, -, spares, -⟩ := tasks_follow_calls events
  let task : PollTask := ⟨2, "m:attributes", .timeseries, 500, 510⟩
  have mem : task ∈ (after events).tasks := by decide +kernel
  have found := listed task mem
  have other : ¬ (Call.cancelDevice "m").Names ("m:attributes", .timeseries) := by decide +kernel
  refine ⟨⟨task, mem, rfl, rfl⟩, found, ?_, other, (spares _ _ _ other).2.trans found⟩
  intro old
  have last := latest 0 _ _ old (events.take 2) 500 10 (events.drop 3) rfl
  exact absurd last (by decide)

end Schedule

end MeterGateway
