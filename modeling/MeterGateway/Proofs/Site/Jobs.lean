import MeterGateway.Proofs.Schedule.Timetable
import MeterGateway.Proofs.Site.Admission
import MeterGateway.Proofs.Site.Devices

namespace MeterGateway

open Registry

namespace Port

def serves (p : Port) (token : String) : Bool := p.clients.any (·.token = some token)

def Agrees (p q : Port) (token : String) : Prop :=
  ∀ client : Client, client.token = some token → (client ∈ q.clients ↔ client ∈ p.clients)

variable {p q : Port} {token : String}

theorem Agrees.of_eq (same : q.clients = p.clients) (token : String) : p.Agrees q token := by
  intro client _
  rw [same]

theorem Agrees.serves (agrees : p.Agrees q token) : q.serves token = p.serves token := by
  rw [Bool.eq_iff_iff]
  simp only [Port.serves, List.any_eq_true, decide_eq_true_iff]
  constructor
  · rintro ⟨client, mem, own⟩
    exact ⟨client, (agrees client own).mp mem, own⟩
  · rintro ⟨client, mem, own⟩
    exact ⟨client, (agrees client own).mpr mem, own⟩

def Live (p : Port) (token : String) : Prop :=
  ∀ client ∈ p.clients, client.token = some token → p.isOpen client.session = true

theorem Live.active (live : p.Live token) : (p.activeSession? token).isSome = p.serves token := by
  rw [Bool.eq_iff_iff, activeSession?_isSome]
  simp only [Port.serves, List.any_eq_true, decide_eq_true_iff]
  constructor
  · rintro ⟨client, mem, own, -⟩
    exact ⟨client, mem, own⟩
  · rintro ⟨client, mem, own⟩
    exact ⟨client, mem, own, live client mem own⟩

def due? (p : Port) (r : Record) (kind : PollKind) : Option Nat :=
  if p.serves r.token then r.config.pollPeriod kind else none

end Port

namespace Site

inductive JobStep (s : Site) (a : Action) (s' : Site) : Prop
  | kept : s'.port.registry.lasting = s.port.registry.lasting → (∀ token, s.port.Agrees s'.port token) →
      s'.port.schedule.Shows s.port.schedule.period? → JobStep s a s'
  | cancelled {device kind} : s.port.registry.get? device = none → s'.port.registry = s.port.registry →
      s'.port.clients = s.port.clients →
      (s'.port.schedule.Shows fun d k =>
        if d = device ∧ k = kind then none else s.port.schedule.period? d k) → JobStep s a s'
  | renewed {t} : s'.port.registry = s.port.registry →
      (∀ other, other ≠ t → s.port.Agrees s'.port other) →
      s'.port.schedule.Shows (s'.port.renewed t s.port.schedule.period?) → JobStep s a s'
  | edited {x done} : a.edit? = some x → s.port.registry.edit s.headEnd x = .ok done →
      s'.port.registry = done.registry → s'.port.clients = s.port.clients →
      s'.port.schedule.Shows (s'.port.renewed x.config.accessToken fun d k =>
        if d ∈ x.purged s.port.registry ∧ d ∈ s.port.registry.namesWithToken x.config.accessToken then none
        else s.port.schedule.period? d k) → JobStep s a s'
  | stopped : s'.port.registry = s.port.registry → s'.port.clients = [] →
      (s'.port.schedule.Shows fun _ _ => none) → JobStep s a s'

variable {s s' : Site} {now : Nat} {a : Action}

theorem JobStep.of_same (sound : s.port.schedule.Sound)
    (registry : s'.port.registry.lasting = s.port.registry.lasting)
    (clients : s'.port.clients = s.port.clients) (schedule : s'.port.schedule = s.port.schedule) : s.JobStep a s' := by
  refine .kept registry (Port.Agrees.of_eq clients) ?_
  rw [schedule]
  exact ⟨sound, fun _ _ => rfl⟩

theorem JobStep.of_reschedule {p : Port} {t : String} (sound : s.port.schedule.Sound)
    (distinct : s.port.registry.names.Nodup) (registry : p.registry = s.port.registry)
    (schedule : p.schedule = s.port.schedule) (agrees : ∀ other, other ≠ t → s.port.Agrees p other)
    (registry' : s'.port.registry = p.registry) (clients' : s'.port.clients = p.clients)
    (schedule' : s'.port.schedule = (p.reschedule t now).schedule)
    (active : s'.port.activeSession? t = p.activeSession? t) : s.JobStep a s' := by
  refine .renewed (t := t) (registry'.trans registry) ?_ ?_
  · intro other differs client own
    rw [clients']
    exact agrees other differs client own
  · rw [schedule']
    have shows : p.schedule.Shows s.port.schedule.period? := by
      rw [schedule]
      exact ⟨sound, fun _ _ => rfl⟩
    refine (p.reschedule_shows (registry ▸ distinct) shows t now).congr ?_
    intro d k
    exact (Port.renewed_congr registry' active).symm

theorem token_of_contact {id : Nat} {token : Option String} (tokens : (s.contact id).tokens = [token])
    {client : Client} (known : client ∈ s.port.clients) (own : client.session = id) :
    client.token = token := by
  have mem := own ▸ token_mem known
  rw [tokens] at mem
  exact List.mem_singleton.mp mem

theorem agrees_of_left {id : Nat} {token : Option String} (tokens : (s.contact id).tokens = [token])
    {q : Port} (clients : q.clients = s.port.clients.filter (·.session ≠ id)) {other : String}
    (differs : token ≠ some other) : s.port.Agrees q other := by
  intro client own
  rw [clients, List.mem_filter, and_iff_left_iff_imp]
  intro known
  rw [decide_eq_true_iff]
  intro mine
  exact differs ((token_of_contact tokens known mine).symm.trans own)

theorem agrees_of_grant {id : Nat} (tokens : (s.contact id).tokens = [none]) {q : Port} {token : String}
    (clients : q.clients = s.port.clients.map (Client.grant id token)) {other : String}
    (differs : other ≠ token) : s.port.Agrees q other := by
  intro client own
  rw [clients, List.mem_map]
  constructor
  · rintro ⟨c, held, rfl⟩
    unfold Client.grant at own ⊢
    split
    · rename_i mine
      rw [if_pos mine] at own
      exact absurd (Option.some.inj own).symm differs
    · exact held
  · intro mem
    refine ⟨client, mem, if_neg ?_⟩
    intro mine
    rw [token_of_contact tokens mem mine] at own
    cases own

theorem tokens_of_leaving (inStep : s.InStep) {id : Nat} {inbox : List Event}
    (next : s.port.inbox = .notice id .disconnected :: inbox) {client : Client}
    (found : s.port.clients.find? (·.session = id) = some client) :
    (s.contact id).tokens = [client.token] := by
  obtain ⟨allowed, contact⟩ := inStep id
  obtain ⟨t, tokens⟩ := (standing_of_notice contact next).leaving
  have own : client.session = id := by simpa using List.find?_some found
  rw [tokens, token_of_contact tokens (List.mem_of_find?_eq_some found) own]

theorem Response.jobs {e : Event} {inbox : List Event} (next : s.port.inbox = e :: inbox)
    (response : Response { s with port := { s.port with inbox } } now e s')
    (sound : s.port.schedule.Sound) (distinct : s.port.registry.names.Nodup) (inStep : s.InStep) :
    s.JobStep .handle s' := by
  have shows : s.port.schedule.Shows s.port.schedule.period? := ⟨sound, fun _ _ => rfl⟩
  cases response with
  | @connected id =>
    refine .kept rfl ?_ shows
    intro token client own
    constructor
    · intro mem
      obtain old | new := List.mem_append.mp mem
      · exact old
      · rw [List.mem_singleton.mp new] at own
        cases own
    · exact List.mem_append_left _
  | @admitted id token known client =>
    obtain ⟨allowed, contact⟩ := inStep id
    obtain ⟨_, _, _, -, tokens⟩ := (standing_of_notice contact next).judged
    let left : Port := { s.port with inbox }
    refine .of_reschedule (p := { left with clients := left.clients.map (Client.grant id token) })
      (t := token) sound distinct rfl rfl ?_ rfl rfl rfl ?_
    · exact fun other differs => agrees_of_grant tokens rfl differs
    · apply Port.activeSession?_congr
      · rfl
      · exact left.isOpen_tell id true
  | @left id client found fresh =>
    have tokens := tokens_of_leaving inStep next found
    rw [fresh] at tokens
    exact .kept rfl (fun other => agrees_of_left tokens rfl nofun) shows
  | @lost id client token found mine =>
    have tokens := tokens_of_leaving inStep next found
    rw [mine] at tokens
    let left : Port := { s.port with inbox }
    refine .of_reschedule (p := { left with clients := left.clients.filter (·.session ≠ id) })
      (t := token) sound distinct rfl rfl ?_ rfl rfl rfl rfl
    intro other differs
    refine agrees_of_left tokens rfl ?_
    exact fun same => differs (Option.some.inj same).symm
  | @orphaned device kind gone => exact .cancelled gone rfl rfl (shows.cancel device kind)
  | unchanged found =>
    exact .of_same sound (lasting_update distinct found (Record.filterChanges_lasting _ _ _)) rfl rfl
  | forwarded found =>
    exact .of_same sound (lasting_update distinct found (Record.filterChanges_lasting _ _ _)) rfl rfl
  | rejected | unknown | underWay | unreachable | pointless | discarded | begun =>
    exact .of_same sound rfl rfl rfl

theorem Step.jobs (step : s.Step now a s') (sound : s.port.schedule.Sound)
    (distinct : s.port.registry.names.Nodup) (inStep : s.InStep) : s.JobStep a s' := by
  have shows : s.port.schedule.Shows s.port.schedule.period? := ⟨sound, fun _ _ => rfl⟩
  cases step with
  | moved =>
    rw [take_eq]
    exact .of_same sound rfl rfl rfl
  | @fired task =>
    exact .kept rfl (Port.Agrees.of_eq rfl) (shows.rearm task.key now)
  | handled next response => exact response.jobs next sound distinct inStep
  | @added config done running ok =>
    have distinct' := (edited_of_edit (x := .add config) ok).names_nodup distinct
    refine .edited (x := .add config) rfl ok rfl rfl ?_
    let p : Port := { s.port with registry := done.registry }
    refine (p.reschedule_shows distinct' shows config.accessToken now).congr ?_
    intro d k
    simp only [Edit.purged, List.not_mem_nil, false_and, if_false]
    rfl
  | @updated config done running ok =>
    have distinct' := (edited_of_edit (x := .update config) ok).names_nodup distinct
    refine .edited (x := .update config) rfl ok rfl rfl ?_
    let stale := s.port.registry.namesWithToken config.accessToken
    let p : Port := ({ s.port with registry := done.registry } : Port).cancelDevices stale
    refine (p.reschedule_shows distinct' (shows.cancelDevices stale) config.accessToken now).congr ?_
    intro d k
    simp only [Edit.purged, Edit.config,
      and_iff_right_of_imp fun own => s.port.registry.namesWithToken_subset_stale config own]
    rfl
  | @removed config running =>
    refine .edited (x := .remove config) rfl rfl rfl rfl ?_
    refine (shows.cancelDevices (s.port.registry.namesWithToken config.accessToken)).congr ?_
    intro d k
    simp only [Edit.purged, Edit.config, Port.renewed, namesWithToken_removeDevices, and_self,
      List.not_mem_nil, if_false]
  | stopped => exact .stopped rfl rfl shows.cancelAll
  | idle | accepted | completed | answered | declined | called => exact .of_same sound rfl rfl rfl

/-- A connection that the port knew before a step, and that is open after it, was open before. -/
theorem Step.isOpen_of (step : s.Step now a s') (inStep : s.InStep) {client : Client}
    (known : client ∈ s.port.clients) (opened : s'.port.isOpen client.session = true) :
    s.port.isOpen client.session = true := by
  obtain ⟨allowed, sound⟩ := inStep client.session
  obtain ⟨c, present⟩ := inStep.session known
  obtain ⟨d, after, going⟩ := Port.isOpen_iff.mp opened
  exact Port.isOpen_iff.mpr
    ⟨c, present, (step.contact client.session).still_open sound present after going⟩

theorem Step.live_of (step : s.Step now a s') (inStep : s.InStep) {token : String}
    (agrees : s.port.Agrees s'.port token) (live : s'.port.Live token) : s.port.Live token := by
  intro client known own
  exact step.isOpen_of inStep known (live client ((agrees client own).mpr known) own)

def Heard (s : Site) : Prop :=
  ∀ id c, s.port.session? id = some c → c.hasEnded = true → .notice id .disconnected ∉ s.port.inbox

theorem heard_of_idle (idle : s.port.inbox = []) : s.Heard := by
  intro id c _ _ mem
  rw [idle] at mem
  cases mem

/-- Each device is polled as it is to be, unless a connection of its token has ended unheard. -/
structure Timely (s : Site) : Prop where
  sound : s.port.schedule.Sound
  polled : ∀ r ∈ s.port.registry.devices, s.port.Live r.token →
    ∀ kind, s.port.schedule.period? r.name kind = s.port.due? r kind

theorem Step.timely (step : s.Step now a s') (timely : s.Timely)
    (distinct : s.port.registry.names.Nodup) (inStep : s.InStep) : s'.Timely := by
  have distinct' := step.names_nodup distinct
  have renewed : ∀ {r : Record} {periods kind}, r ∈ s'.port.registry.devices → s'.port.Live r.token →
      s'.port.renewed r.token periods r.name kind = s'.port.due? r kind := by
    intro r periods kind mem live
    rw [Port.renewed_own distinct' mem, live.active]
    rfl
  have untouched : ∀ {r : Record} {kind : PollKind}, r ∈ s.port.registry.devices →
      s.port.Agrees s'.port r.token → s'.port.Live r.token →
      s.port.schedule.period? r.name kind = s'.port.due? r kind := by
    intro r kind mem agrees live
    rw [timely.polled r mem (step.live_of inStep agrees live) kind, Port.due?, Port.due?, agrees.serves]
  cases step.jobs timely.sound distinct inStep with
  | kept lasting agrees shows =>
    refine ⟨shows.1, ?_⟩
    intro r mem live kind
    have same : r.lasting ∈ s.port.registry.lasting.devices := lasting ▸ List.mem_map_of_mem mem
    obtain ⟨d, held, alike⟩ := List.mem_map.mp same
    obtain ⟨config, token⟩ : d.config = r.config ∧ d.token = r.token := by
      rw [Record.lasting, Record.lasting, Record.mk.injEq] at alike
      exact ⟨alike.1, alike.2.1⟩
    have name : d.name = r.name := by rw [Record.name, config, Record.name]
    rw [shows.2, ← name, untouched held (agrees _) (token ▸ live), Port.due?, token, config, Port.due?]
  | cancelled gone registry clients shows =>
    refine ⟨shows.1, ?_⟩
    intro r mem live kind
    rw [registry] at mem
    have agrees := Port.Agrees.of_eq clients r.token
    refine (shows.2 r.name kind).trans ((if_neg ?_).trans (untouched mem agrees live))
    rintro ⟨rfl, -⟩
    rw [Registry.get?, (find?_key_iff distinct).mpr ⟨mem, rfl⟩] at gone
    cases gone
  | @renewed t registry agrees shows =>
    refine ⟨shows.1, ?_⟩
    intro r mem live kind
    refine (shows.2 r.name kind).trans ?_
    by_cases mine : r.token = t
    · exact mine ▸ renewed mem live
    · exact (Port.renewed_other distinct' mem mine).trans (untouched (registry ▸ mem) (agrees _ mine) live)
  | @edited x done edits ok registry clients shows =>
    refine ⟨shows.1, ?_⟩
    intro r mem live kind
    refine (shows.2 r.name kind).trans ?_
    by_cases mine : r.token = x.config.accessToken
    · exact mine ▸ renewed mem live
    refine (Port.renewed_other distinct' mem mine).trans ?_
    obtain ⟨made, split⟩ := (edited_of_edit ok).split
    rw [registry, split.devices] at mem
    obtain old | new := List.mem_append.mp mem
    · obtain ⟨held, left⟩ := List.mem_filter.mp old
      have kept : r.name ∉ x.purged s.port.registry := of_decide_eq_true left
      exact (if_neg (kept ·.1)).trans (untouched held (Port.Agrees.of_eq clients _) live)
    · exact absurd (split.fresh r new).1 mine
  | stopped registry clients shows =>
    refine ⟨shows.1, ?_⟩
    intro r mem live kind
    rw [shows.2, Port.due?, Port.serves, clients]
    rfl

theorem Step.outlived (step : s.Step now a s') (sound : s.port.schedule.Sound)
    (distinct : s.port.registry.names.Nodup) (inStep : s.InStep) {name : String} {kind : PollKind}
    (gone : s'.port.registry.get? name = none)
    (polled : (s'.port.schedule.period? name kind).isSome = true) :
    (s.port.schedule.period? name kind).isSome = true ∧ (s.port.registry.get? name = none ∨
      ∃ config r, a = .updateDevices config ∧ s.port.registry.get? name = some r ∧
        r.connector = config.connectorName ∧ r.token ≠ config.accessToken) := by
  cases step.jobs sound distinct inStep with
  | kept lasting agrees shows =>
    rw [shows.2] at polled
    refine ⟨polled, .inl ?_⟩
    have names : s'.port.registry.names = s.port.registry.names := by
      rw [← lasting_names, lasting, lasting_names]
    rw [get?_eq_none_iff] at gone ⊢
    rwa [← names]
  | cancelled absent registry clients shows =>
    rw [shows.2] at polled
    simp only at polled
    split at polled
    · cases polled
    · exact ⟨polled, .inl (registry ▸ gone)⟩
  | renewed registry agrees shows =>
    rw [shows.2, Port.renewed_absent gone] at polled
    exact ⟨polled, .inl (registry ▸ gone)⟩
  | @edited x done edits ok registry clients shows =>
    rw [shows.2, Port.renewed_absent gone] at polled
    split at polled
    · cases polled
    rename_i spared
    refine ⟨polled, ?_⟩
    cases held : s.port.registry.get? name with
    | none => exact .inl rfl
    | some r =>
      have purged : name ∈ x.purged s.port.registry := by
        by_contra kept
        rw [registry, (edited_of_edit ok).get?_kept kept held] at gone
        cases gone
      obtain ⟨mem, rfl⟩ := (find?_key_iff distinct).mp held
      have token : r.token ≠ x.config.accessToken := by
        intro mine
        exact spared ⟨purged, (mem_namesWithToken_iff distinct mem _).mpr mine⟩
      obtain ⟨config, rfl, connector⟩ := purged_other distinct mem purged token
      exact .inr ⟨config, r, Action.eq_update edits, rfl, connector, token⟩
  | stopped registry clients shows =>
    rw [shows.2] at polled
    cases polled

end Site

namespace Opening

variable {o : Opening} {course : List Happening} {name : String}

/-- The device of this name was dropped for the sake of its connector, by an update that came with
another token, and the name has not been taken since. -/
def Orphaned (o : Opening) (course : List Happening) (name : String) : Prop :=
  ∃ before now config after r, course = before ++ .act now (.updateDevices config) :: after ∧
    (o.after before).port.registry.get? name = some r ∧
    r.connector = config.connectorName ∧ r.token ≠ config.accessToken ∧
    ∀ mid, mid <+: after →
      (o.after (before ++ .act now (.updateDevices config) :: mid)).port.registry.get? name = none

theorem Orphaned.snoc (orphaned : o.Orphaned course name) {x : Happening}
    (gone : (o.after (course ++ [x])).port.registry.get? name = none) :
    o.Orphaned (course ++ [x]) name := by
  obtain ⟨before, now, config, after, r, rfl, held, connector, token, since⟩ := orphaned
  refine ⟨before, now, config, after ++ [x], r, by simp, held, connector, token, ?_⟩
  intro mid begun
  obtain rfl | earlier := List.prefix_concat_iff.mp begun
  · simpa using gone
  · exact since mid earlier

theorem after_timely (o : Opening) (course : List Happening) : (o.after course).Timely := by
  induction course using List.reverseRecOn with
  | nil => exact ⟨.new, nofun⟩
  | append_singleton course x ih =>
    rw [after_snoc]
    cases x with
    | act now a =>
      exact (Site.act_step _ now a).timely ih (o.after_distinct course) (o.after_inStep course)
    | elsewhere headEnd => exact ⟨ih.sound, ih.polled⟩

theorem outlived_orphaned (o : Opening) (course : List Happening) {kind : PollKind}
    (gone : (o.after course).port.registry.get? name = none)
    (polled : ((o.after course).port.schedule.period? name kind).isSome = true) :
    o.Orphaned course name := by
  induction course using List.reverseRecOn with
  | nil => cases polled
  | append_singleton course x ih =>
    cases x with
    | elsewhere headEnd =>
      have same : (o.after (course ++ [.elsewhere headEnd])).port = (o.after course).port := by
        rw [after_snoc]
        rfl
      exact (ih (same ▸ gone) (same ▸ polled)).snoc gone
    | act now a =>
      have step := Site.act_step (o.after course) now a
      have gone' := gone
      rw [after_snoc] at gone' polled
      obtain ⟨polled', absent | ⟨config, r, rfl, held, connector, token⟩⟩ :=
        step.outlived (o.after_timely course).sound (o.after_distinct course)
          (o.after_inStep course) gone' polled
      · exact (ih absent polled').snoc gone
      · refine ⟨course, now, config, [], r, rfl, held, connector, token, ?_⟩
        intro mid begun
        rw [List.prefix_nil.mp begun]
        exact gone

theorem after_live (o : Opening) (course : List Happening) (heard : (o.after course).Heard)
    (token : String) : (o.after course).port.Live token := by
  intro client known _
  have sound := o.after_sound course client.session
  have entry := List.ne_nil_of_mem (Site.token_mem known)
  obtain ⟨c, present⟩ := sound.session_of_token entry
  refine Port.isOpen_iff.mpr ⟨c, present, ?_⟩
  by_contra ended
  have ended : c.hasEnded = true := by simpa using ended
  have standing := sound.standing (sound.running (.inr entry))
  rw [present] at standing
  exact heard _ c present ended (Site.mem_notices.mp (standing.unheard entry ended))

/-- Once the end of every connection has been heard, the jobs of a port are those of the devices
that have a connection, each in its device's period.  Other jobs are of devices that an update
dropped for the sake of their connector while it came with another token. -/
theorem jobs_follow_connections (o : Opening) (course : List Happening)
    (heard : (o.after course).Heard) :
    let p := (o.after course).port
    (∀ job ∈ p.schedule.jobs, ∃ device kind, job.1 = jobId device kind) ∧
    (∀ device kind, p.schedule.isScheduled device kind = (p.schedule.period? device kind).isSome) ∧
    (∀ r ∈ p.registry.devices, ∀ kind, p.schedule.period? r.name kind =
      if p.serves r.token then r.config.pollPeriod kind else none) ∧
    ∀ device kind, p.registry.get? device = none → p.schedule.isScheduled device kind = true →
      o.Orphaned course device := by
  intro p
  have timely := o.after_timely course
  refine ⟨?_, timely.sound.isScheduled_iff, ?_, ?_⟩
  · intro job mem
    rw [timely.sound.jobs] at mem
    obtain ⟨task, -, rfl⟩ := List.mem_map.mp mem
    exact ⟨task.device, task.kind, rfl⟩
  · intro r mem kind
    exact timely.polled r mem (o.after_live course heard r.token) kind
  · intro device kind gone scheduled
    rw [timely.sound.isScheduled_iff] at scheduled
    exact o.outlived_orphaned course gone scheduled

theorem jobs_follow_connections_greeting :
    let p := (trial.after greeting).port
    (trial.after greeting).Heard ∧ p.schedule.period? "meter-1" .timeseries = some 1000 ∧
      p.schedule.period? "meter-1" .attributes = none := by
  intro p
  have heard : (trial.after greeting).Heard :=
    Site.heard_of_idle (List.isEmpty_iff.mp (by decide +kernel))
  obtain ⟨-, -, polled, -⟩ := jobs_follow_connections trial greeting heard
  obtain ⟨r, mem, name, token, period, silent⟩ : ∃ r ∈ p.registry.devices, r.name = "meter-1" ∧
      r.token = "k" ∧ r.config.pollPeriod .timeseries = some 1000 ∧
      r.config.pollPeriod .attributes = none :=
    ⟨_, List.mem_cons_self, rfl, rfl, rfl, rfl⟩
  have served : p.serves r.token = true := by
    rw [token]
    decide +kernel
  have both := polled r mem
  rw [name] at both
  refine ⟨heard, ?_, ?_⟩
  · rw [both, if_pos served, period]
  · rw [both, if_pos served, silent]

/-- An update of the connector that comes with another token drops its device, and not the job. -/
theorem job_outlives_device :
    let course := greeting ++ [.act 100 (.updateDevices { stand "quay" "new" with devices := [] })]
    (trial.after course).Heard ∧ (trial.after course).port.registry.get? "meter-1" = none ∧
      (trial.after course).port.schedule.isScheduled "meter-1" .timeseries = true := by
  intro course
  refine ⟨?_, ?_, by decide +kernel⟩
  · exact Site.heard_of_idle (List.isEmpty_iff.mp (by decide +kernel))
  · exact Registry.get?_eq_none_iff.mpr (by decide +kernel)

end Opening

end MeterGateway
