import MeterGateway.Port
import MeterGateway.Proofs.Keyed
import MeterGateway.Proofs.Registry.Devices

/-!
What a schedule shows: the period in which each device is polled, for each kind of poll.  The tasks
and the table of jobs agree on it, and each operation on a schedule changes it in one plain way.
-/

namespace MeterGateway

theorem jobId_inj {device device' : String} {kind kind' : PollKind} :
    jobId device kind = jobId device' kind' ↔ device = device' ∧ kind = kind' := by
  -- the names of both kinds are of one length, so what stands before them is as well
  have width : ∀ kind : PollKind, (":" ++ kind.name).toList.length = 11 := by
    intro kind
    cases kind <;> decide
  constructor
  · intro same
    rw [jobId, jobId, String.append_assoc, String.append_assoc] at same
    have letters : device.toList ++ (":" ++ kind.name).toList =
        device'.toList ++ (":" ++ kind'.name).toList := by
      rw [← String.toList_append, ← String.toList_append, same]
    obtain ⟨devices, kinds⟩ := List.append_inj' letters ((width kind).trans (width kind').symm)
    refine ⟨String.toList_injective devices, ?_⟩
    revert kinds
    cases kind <;> cases kind' <;> decide
  · rintro ⟨rfl, rfl⟩
    rfl

theorem DeviceConfig.pollPeriod_ne_zero {device : DeviceConfig} {kind : PollKind} {period : Nat}
    (polled : device.pollPeriod kind = some period) : period ≠ 0 := by
  unfold pollPeriod at polled
  split at polled
  · cases polled
  · obtain ⟨ms, -, rfl⟩ := Option.map_eq_some_iff.mp polled
    rw [effectivePeriod]
    omega

def PollTask.slot (t : PollTask) : String × PollKind := (t.device, t.kind)

def PollTask.job (t : PollTask) : String × Nat := (jobId t.device t.kind, t.key)

namespace PollTask

def rearmed (t : PollTask) (key now : Nat) : PollTask :=
  if t.key = key then { t with due := t.nextDue now } else t

variable (t : PollTask) (key now : Nat)

@[simp] theorem rearmed_slot : (t.rearmed key now).slot = t.slot := by
  unfold rearmed
  split <;> rfl

@[simp] theorem rearmed_key : (t.rearmed key now).key = t.key := by
  unfold rearmed
  split <;> rfl

@[simp] theorem rearmed_period : (t.rearmed key now).period = t.period := by
  unfold rearmed
  split <;> rfl

@[simp] theorem rearmed_job : (t.rearmed key now).job = t.job := by
  unfold rearmed
  split <;> rfl

end PollTask

namespace Schedule

/-- Each running task has its entry in the table of jobs, and no two entries have an identifier or a
task in common.  An entry may outlive its task. -/
structure Orderly (s : Schedule) : Prop where
  listed : ∀ t ∈ s.tasks, t.job ∈ s.jobs
  ids : (s.jobs.map Prod.fst).Nodup
  entries : (s.jobs.map Prod.snd).Nodup
  keys : (s.tasks.map PollTask.key).Nodup
  fresh : ∀ job ∈ s.jobs, job.2 < s.nextKey

namespace Orderly

variable {s : Schedule}

theorem lookup (orderly : s.Orderly) {t : PollTask} (mem : t ∈ s.tasks) :
    s.jobs.lookup (jobId t.device t.kind) = some t.key :=
  (lookup_iff_mem orderly.ids).mpr (orderly.listed t mem)

theorem key_eq_iff (orderly : s.Orderly) {t : PollTask} (mem : t ∈ s.tasks) {device : String}
    {kind : PollKind} {key : Nat} (found : s.jobs.lookup (jobId device kind) = some key) :
    t.key = key ↔ t.slot = (device, kind) := by
  have entry := (lookup_iff_mem orderly.ids).mp found
  constructor
  · rintro rfl
    have same := List.inj_on_of_nodup_map orderly.entries (orderly.listed t mem) entry rfl
    obtain ⟨device, kind⟩ := jobId_inj.mp (congrArg Prod.fst same)
    rw [PollTask.slot, device, kind]
  · intro mine
    rw [PollTask.slot, Prod.mk.injEq] at mine
    have own := orderly.lookup mem
    rw [mine.1, mine.2, found] at own
    exact (Option.some.inj own).symm

theorem filter_key (orderly : s.Orderly) {device : String} {kind : PollKind} {key : Nat}
    (found : s.jobs.lookup (jobId device kind) = some key) :
    s.tasks.filter (·.key ≠ key) = s.tasks.filter (·.slot ≠ (device, kind)) := by
  apply List.filter_congr
  intro t mem
  exact decide_eq_decide.mpr (not_congr (orderly.key_eq_iff mem found))

theorem slot_ne (orderly : s.Orderly) {device : String} {kind : PollKind}
    (absent : s.jobs.lookup (jobId device kind) = none) : ∀ t ∈ s.tasks, t.slot ≠ (device, kind) := by
  intro t mem mine
  rw [PollTask.slot, Prod.mk.injEq] at mine
  have own := orderly.lookup mem
  rw [mine.1, mine.2, absent] at own
  cases own

theorem cancel_eq (orderly : s.Orderly) (device : String) (kind : PollKind) :
    s.cancel device kind =
      { s with tasks := s.tasks.filter (·.slot ≠ (device, kind))
               jobs := s.jobs.filter (·.1 ≠ jobId device kind) } := by
  unfold cancel cancelJob
  cases found : s.jobs.lookup (jobId device kind) with
  | none =>
    have absent : ∀ job ∈ s.jobs, job.1 ≠ jobId device kind := by
      rintro job mem same
      rw [← same, (lookup_iff_mem orderly.ids).mpr mem] at found
      cases found
    have others := orderly.slot_ne found
    rw [List.filter_eq_self.mpr (by simpa using absent), List.filter_eq_self.mpr (by simpa using others)]
  | some key => simp only [stopTask, orderly.filter_key found]

theorem cancelAll_eq (orderly : s.Orderly) : s.cancelAll = { nextKey := s.nextKey } := by
  have stopped : ∀ (keys : List Nat) (s : Schedule),
      keys.foldl stopTask s = { s with tasks := s.tasks.filter (·.key ∉ keys) } := by
    intro keys
    induction keys with
    | nil => simp
    | cons key keys ih =>
      intro s
      rw [List.foldl_cons, ih, stopTask]
      simp [List.filter_filter, Bool.and_comm]
  have all : s.tasks.filter (·.key ∉ s.jobs.map Prod.snd) = [] := by
    rw [List.filter_eq_nil_iff]
    intro t mem
    simpa using ⟨_, orderly.listed t mem⟩
  rw [Schedule.cancelAll, ← List.foldl_map, stopped, all]

end Orderly

def period? (s : Schedule) (device : String) (kind : PollKind) : Option Nat :=
  (s.jobs.lookup (jobId device kind)).bind fun key =>
    (s.tasks.find? (·.key = key)).map PollTask.period

structure Sound (s : Schedule) : Prop where
  jobs : s.jobs = s.tasks.map PollTask.job
  slots : (s.tasks.map PollTask.slot).Nodup
  keys : (s.tasks.map PollTask.key).Nodup
  fresh : ∀ t ∈ s.tasks, t.key < s.nextKey

namespace Sound

variable {s : Schedule}

theorem new : ({} : Schedule).Sound := ⟨rfl, List.nodup_nil, List.nodup_nil, nofun⟩

theorem lookup (sound : s.Sound) (device : String) (kind : PollKind) :
    s.jobs.lookup (jobId device kind) = (s.tasks.find? (·.slot = (device, kind))).map PollTask.key := by
  rw [sound.jobs]
  induction s.tasks with
  | nil => rfl
  | cons t tasks ih =>
    rw [List.map_cons, PollTask.job, List.lookup_cons, ih, List.find?_cons]
    by_cases mine : t.slot = (device, kind)
    · have same : jobId device kind = jobId t.device t.kind := jobId_inj.mpr (by
        rw [PollTask.slot, Prod.mk.injEq] at mine
        exact ⟨mine.1.symm, mine.2.symm⟩)
      simp [mine, same]
    · have other : jobId device kind ≠ jobId t.device t.kind := by
        intro same
        obtain ⟨rfl, rfl⟩ := jobId_inj.mp same
        exact mine rfl
      rw [beq_eq_false_iff_ne.mpr other]
      simp [mine]

theorem period?_eq (sound : s.Sound) (device : String) (kind : PollKind) :
    s.period? device kind = (s.tasks.find? (·.slot = (device, kind))).map PollTask.period := by
  rw [period?, sound.lookup]
  cases found : s.tasks.find? (·.slot = (device, kind)) with
  | none => rfl
  | some t =>
    have own : s.tasks.find? (·.key = t.key) = some t :=
      (find?_key_iff sound.keys).mpr ⟨List.mem_of_find?_eq_some found, rfl⟩
    simp [own]

theorem isScheduled_iff (sound : s.Sound) (device : String) (kind : PollKind) :
    s.isScheduled device kind = (s.period? device kind).isSome := by
  rw [isScheduled, sound.lookup, sound.period?_eq, Option.isSome_map, Option.isSome_map]

theorem filter (sound : s.Sound) (p : PollTask → Bool) :
    ({ s with tasks := s.tasks.filter p, jobs := (s.tasks.filter p).map PollTask.job } :
      Schedule).Sound where
  jobs := rfl
  slots := sound.slots.sublist (List.filter_sublist.map _)
  keys := sound.keys.sublist (List.filter_sublist.map _)
  fresh := fun t mem => sound.fresh t (List.mem_of_mem_filter mem)

theorem map (sound : s.Sound) {f : PollTask → PollTask} (slot : ∀ t, (f t).slot = t.slot)
    (key : ∀ t, (f t).key = t.key) : ({ s with tasks := s.tasks.map f } : Schedule).Sound := by
  have job : ∀ t, (f t).job = t.job := by
    intro t
    have same := slot t
    rw [PollTask.slot, PollTask.slot, Prod.mk.injEq] at same
    rw [PollTask.job, PollTask.job, same.1, same.2, key]
  refine ⟨?_, ?_, ?_, ?_⟩
  · simpa only [List.map_map, Function.comp_def, job] using sound.jobs
  · simpa only [List.map_map, Function.comp_def, slot] using sound.slots
  · simpa only [List.map_map, Function.comp_def, key] using sound.keys
  · intro t mem
    obtain ⟨u, held, rfl⟩ := List.mem_map.mp mem
    rw [key]
    exact sound.fresh u held

theorem orderly (sound : s.Sound) : s.Orderly where
  listed := by
    intro t mem
    rw [sound.jobs]
    exact List.mem_map_of_mem mem
  ids := by
    rw [sound.jobs, List.map_map]
    refine List.Nodup.map_on ?_ (List.Nodup.of_map _ sound.slots)
    intro t mem u mem' same
    obtain ⟨device, kind⟩ := jobId_inj.mp same
    exact List.inj_on_of_nodup_map sound.slots mem mem' (Prod.ext device kind)
  entries := by
    rw [sound.jobs, List.map_map]
    exact sound.keys
  keys := sound.keys
  fresh := by
    intro job mem
    rw [sound.jobs] at mem
    obtain ⟨t, running, rfl⟩ := List.mem_map.mp mem
    exact sound.fresh t running

theorem cancel_eq (sound : s.Sound) (device : String) (kind : PollKind) :
    let left := s.tasks.filter (·.slot ≠ (device, kind))
    s.cancel device kind = { s with tasks := left, jobs := left.map PollTask.job } := by
  intro left
  have jobs : s.jobs.filter (·.1 ≠ jobId device kind) = left.map PollTask.job := by
    rw [sound.jobs, List.filter_map]
    congr 1
    apply List.filter_congr
    intro u _
    simp [PollTask.job, PollTask.slot, jobId_inj]
  rw [sound.orderly.cancel_eq, jobs]

theorem add (sound : s.Sound) {task : PollTask} (next : task.key = s.nextKey)
    (free : ∀ t ∈ s.tasks, t.slot ≠ task.slot) :
    ({ nextKey := s.nextKey + 1, tasks := s.tasks ++ [task], jobs := s.jobs ++ [task.job] } :
      Schedule).Sound where
  jobs := by simp [sound.jobs]
  slots := by
    rw [List.map_append, List.nodup_append]
    refine ⟨sound.slots, List.nodup_singleton _, ?_⟩
    simpa using free
  keys := by
    rw [List.map_append, List.nodup_append]
    refine ⟨sound.keys, List.nodup_singleton _, ?_⟩
    have unused : ∀ t ∈ s.tasks, t.key ≠ task.key := by
      intro t mem
      have older := sound.fresh t mem
      omega
    simpa using unused
  fresh := by
    intro t mem
    obtain old | new := List.mem_append.mp mem
    · exact Nat.lt_succ_of_lt (sound.fresh t old)
    · rw [List.mem_singleton.mp new, next]
      exact Nat.lt_succ_self _

end Sound

def Shows (s : Schedule) (periods : String → PollKind → Option Nat) : Prop :=
  s.Sound ∧ ∀ device kind, s.period? device kind = periods device kind

namespace Shows

variable {s : Schedule} {periods : String → PollKind → Option Nat}

theorem congr (shows : s.Shows periods) {periods' : String → PollKind → Option Nat}
    (same : ∀ device kind, periods device kind = periods' device kind) : s.Shows periods' :=
  ⟨shows.1, fun device kind => (shows.2 device kind).trans (same device kind)⟩

theorem cancel (shows : s.Shows periods) (device : String) (kind : PollKind) :
    (s.cancel device kind).Shows fun d k => if d = device ∧ k = kind then none else periods d k := by
  obtain ⟨sound, same⟩ := shows
  have left := sound.filter (·.slot ≠ (device, kind))
  rw [sound.cancel_eq]
  refine ⟨left, ?_⟩
  intro d k
  refine (left.period?_eq d k).trans ?_
  simp only [find?_filter_key, ← same, sound.period?_eq, Prod.mk.injEq]
  split <;> rfl

theorem add (shows : s.Shows periods) {t : PollTask} (next : t.key = s.nextKey)
    (free : periods t.device t.kind = none) :
    ({ nextKey := s.nextKey + 1, tasks := s.tasks ++ [t], jobs := s.jobs ++ [t.job] } :
      Schedule).Shows fun d k =>
        if d = t.device ∧ k = t.kind then some t.period else periods d k := by
  obtain ⟨sound, same⟩ := shows
  have none : s.tasks.find? (·.slot = t.slot) = none := by
    rw [← same, sound.period?_eq, Option.map_eq_none_iff] at free
    exact free
  have added := sound.add next (by simpa using none)
  refine ⟨added, ?_⟩
  intro d k
  refine (added.period?_eq d k).trans ?_
  simp only [List.find?_append, ← same, sound.period?_eq]
  by_cases mine : d = t.device ∧ k = t.kind
  · have slot : t.slot = (d, k) := by rw [PollTask.slot, mine.1, mine.2]
    rw [if_pos mine, ← slot, none]
    simp
  · have slot : t.slot ≠ (d, k) := by
      intro same
      rw [PollTask.slot, Prod.mk.injEq] at same
      exact mine ⟨same.1.symm, same.2.symm⟩
    rw [if_neg mine, List.find?_cons_of_neg (by simpa using slot), List.find?_nil, Option.or_none]

theorem start (shows : s.Shows periods) (device : String) (kind : PollKind) {period : Nat}
    (positive : period ≠ 0) (now : Nat) : (s.start device kind period now).Shows fun d k =>
      if d = device ∧ k = kind then some period else periods d k := by
  have left := shows.cancel device kind
  let task : PollTask := ⟨(s.cancel device kind).nextKey, device, kind, period, now + period⟩
  have started : s.start device kind period now =
      { nextKey := (s.cancel device kind).nextKey + 1
        tasks := (s.cancel device kind).tasks ++ [task]
        jobs := (s.cancel device kind).jobs ++ [task.job] } := by
    rw [Schedule.start, if_neg positive]
    rfl
  rw [started]
  refine (left.add (t := task) rfl (if_pos ⟨rfl, rfl⟩)).congr ?_
  intro d k
  by_cases mine : d = device ∧ k = kind <;> simp [task, mine]

theorem cancelDevice (shows : s.Shows periods) (device : String) :
    (s.cancelDevice device).Shows fun d k => if d = device then none else periods d k := by
  refine ((shows.cancel device .attributes).cancel device .timeseries).congr ?_
  intro d k
  cases k <;> by_cases mine : d = device <;> simp [mine]

theorem cancelDevices (shows : s.Shows periods) (names : List String) :
    (names.foldl Schedule.cancelDevice s).Shows fun d k => if d ∈ names then none else periods d k := by
  induction names generalizing s periods with
  | nil => exact shows.congr fun d k => by simp
  | cons name names ih =>
    refine (ih (shows.cancelDevice name)).congr ?_
    intro d k
    by_cases mine : d = name <;> by_cases other : d ∈ names <;> simp [mine, other]

theorem cancelAll (shows : s.Shows periods) : s.cancelAll.Shows fun _ _ => none := by
  rw [shows.1.orderly.cancelAll_eq]
  exact ⟨⟨rfl, List.nodup_nil, List.nodup_nil, nofun⟩, fun _ _ => rfl⟩

theorem rearm (shows : s.Shows periods) (key now : Nat) : (s.rearm key now).Shows periods := by
  obtain ⟨sound, same⟩ := shows
  have rearmed := sound.map (·.rearmed_slot key now) (·.rearmed_key key now)
  refine ⟨rearmed, ?_⟩
  intro device kind
  refine (rearmed.period?_eq device kind).trans ?_
  rw [← same, sound.period?_eq, List.find?_map, Option.map_map]
  simp only [Function.comp_def, PollTask.rearmed_slot, PollTask.rearmed_period]

theorem startKind (shows : s.Shows periods) (device : DeviceConfig) (kind : PollKind)
    (idle : periods device.deviceName kind = none) (now : Nat) :
    ((device.pollPeriod kind).elim s fun period => s.start device.deviceName kind period now).Shows
      fun d k => if d = device.deviceName ∧ k = kind then device.pollPeriod kind else periods d k := by
  cases polled : device.pollPeriod kind with
  | none =>
    refine shows.congr ?_
    intro d k
    split
    · rename_i mine
      rw [mine.1, mine.2, idle]
    · rfl
  | some period => exact shows.start device.deviceName kind (DeviceConfig.pollPeriod_ne_zero polled) now

theorem startPolls (shows : s.Shows periods) (device : DeviceConfig)
    (idle : ∀ kind, periods device.deviceName kind = none) (now : Nat) :
    (Port.startPolls s device now).Shows fun d k =>
      if d = device.deviceName then device.pollPeriod k else periods d k := by
  have kinds : Port.startPolls s device now = PollKind.all.foldl (fun s kind =>
      (device.pollPeriod kind).elim s fun period => s.start device.deviceName kind period now) s := by
    rw [Port.startPolls]
    congr 1
    funext s kind
    cases device.pollPeriod kind <;> rfl
  have attributes := shows.startKind device .attributes (idle _) now
  have both := attributes.startKind device .timeseries (by simp [idle]) now
  rw [kinds]
  refine both.congr ?_
  intro d k
  cases k <;> by_cases mine : d = device.deviceName <;> simp [mine]

theorem startAll (shows : s.Shows periods) (records : List Record)
    (distinct : (records.map Record.name).Nodup)
    (idle : ∀ r ∈ records, ∀ kind, periods r.name kind = none) (now : Nat) :
    (records.foldl (fun s r => Port.startPolls s r.config now) s).Shows fun d k =>
      match records.find? (·.name = d) with
      | some r => r.config.pollPeriod k
      | none => periods d k := by
  induction records generalizing s periods with
  | nil => exact shows
  | cons r rest ih =>
    rw [List.map_cons, List.nodup_cons] at distinct
    have others : ∀ r' ∈ rest, r'.name ≠ r.name := by
      intro r' mem same
      exact distinct.1 (same ▸ List.mem_map_of_mem mem)
    refine (ih (shows.startPolls r.config (idle r List.mem_cons_self) now) distinct.2 ?_).congr ?_
    · intro r' mem kind
      exact (if_neg (others r' mem)).trans (idle r' (List.mem_cons_of_mem _ mem) kind)
    · intro d k
      by_cases mine : r.name = d
      · have absent : rest.find? (·.name = d) = none := by
          rw [List.find?_eq_none, ← mine]
          simpa using others
        rw [absent, List.find?_cons_of_pos (by simpa using mine)]
        exact if_pos mine.symm
      · rw [List.find?_cons_of_neg (by simpa using mine)]
        cases rest.find? (·.name = d) with
        | some => rfl
        | none => exact if_neg (Ne.symm mine)

end Shows

end Schedule

theorem Registry.find?_withToken {r : Registry} (distinct : r.names.Nodup) {token name : String}
    (listed : name ∈ r.namesWithToken token) :
    (r.withToken token).find? (·.name = name) = r.get? name := by
  obtain ⟨d, mem, rfl⟩ := List.mem_map.mp listed
  have distinct' : (r.namesWithToken token).Nodup := distinct.sublist (List.filter_sublist.map _)
  rw [(find?_key_iff distinct').mpr ⟨mem, rfl⟩, get?]
  exact ((find?_key_iff distinct).mpr ⟨List.mem_of_mem_filter mem, rfl⟩).symm

namespace Port

variable (p : Port) {periods : String → PollKind → Option Nat}

/-- The periods once the devices of a token are polled if there is a connection, and not if there is
none. -/
def renewed (token : String) (periods : String → PollKind → Option Nat) (device : String)
    (kind : PollKind) : Option Nat :=
  if device ∈ p.registry.namesWithToken token then
    if (p.activeSession? token).isSome then (p.registry.get? device).bind (·.config.pollPeriod kind)
    else none
  else periods device kind

variable {p} {r : Record} {kind : PollKind}

theorem renewed_own (distinct : p.registry.names.Nodup) (mem : r ∈ p.registry.devices) :
    p.renewed r.token periods r.name kind =
      if (p.activeSession? r.token).isSome then r.config.pollPeriod kind else none := by
  have held : p.registry.get? r.name = some r := (find?_key_iff distinct).mpr ⟨mem, rfl⟩
  rw [renewed, if_pos ((Registry.mem_namesWithToken_iff distinct mem _).mpr rfl), held]
  rfl

theorem renewed_other (distinct : p.registry.names.Nodup) (mem : r ∈ p.registry.devices)
    {token : String} (other : r.token ≠ token) :
    p.renewed token periods r.name kind = periods r.name kind :=
  if_neg (mt (Registry.mem_namesWithToken_iff distinct mem token).mp other)

theorem renewed_absent {device : String} (absent : p.registry.get? device = none) (token : String) :
    p.renewed token periods device kind = periods device kind := by
  have free := Registry.get?_eq_none_iff.mp absent
  exact if_neg fun listed => free ((List.filter_sublist.map _).subset listed)

theorem renewed_congr {q : Port} {token device : String} (registry : q.registry = p.registry)
    (active : q.activeSession? token = p.activeSession? token) :
    q.renewed token periods device kind = p.renewed token periods device kind := by
  rw [renewed, renewed, registry, active]

/-- The devices of the token are polled if there is a connection, and no others begin or end. -/
theorem reschedule_shows (p : Port) (distinct : p.registry.names.Nodup)
    (shows : p.schedule.Shows periods) (token : String) (now : Nat) :
    (p.reschedule token now).schedule.Shows (p.renewed token periods) := by
  have left := shows.cancelDevices (p.registry.namesWithToken token)
  unfold reschedule
  simp only
  split
  case isTrue active =>
    have active : (p.activeSession? token).isSome = true := active
    have names : (p.registry.namesWithToken token).Nodup := distinct.sublist (List.filter_sublist.map _)
    refine (left.startAll (p.registry.withToken token) names ?_ now).congr ?_
    · intro r mem kind
      exact if_pos (List.mem_map_of_mem mem)
    · intro d k
      rw [renewed, if_pos active]
      by_cases listed : d ∈ p.registry.namesWithToken token
      · rw [Registry.find?_withToken distinct listed, if_pos listed, if_pos listed]
        cases p.registry.get? d <;> rfl
      · have absent : (p.registry.withToken token).find? (·.name = d) = none := by
          rw [List.find?_eq_none]
          intro r mem same
          exact listed (List.mem_map.mpr ⟨r, mem, of_decide_eq_true same⟩)
        rw [absent, if_neg listed, if_neg listed]
  case isFalse silent =>
    have silent : ¬ (p.activeSession? token).isSome = true := silent
    refine left.congr ?_
    intro d k
    rw [renewed, if_neg silent]

end Port

end MeterGateway
