import MeterGateway.Proofs.Site.Steps
import MeterGateway.Proofs.Site.Traffic

namespace MeterGateway

open Registry

def Action.edit? : Action → Option Edit
  | addDevices config => some (.add config)
  | updateDevices config => some (.update config)
  | removeDevices config => some (.remove config)
  | _ => none

theorem Action.eq_update {a : Action} {config : ListenConfig} (edits : a.edit? = some (.update config)) :
    a = .updateDevices config := by
  cases a with
  | updateDevices =>
    cases edits
    rfl
  | _ => cases edits

@[simp] theorem HeadEnd.unregisterAll_stored (h : HeadEnd) (names : List String) :
    (h.unregisterAll names).stored = h.stored := by
  rw [unregisterAll_eq]

@[simp] theorem HeadEnd.unregisterAll_replies (h : HeadEnd) (names : List String) :
    (h.unregisterAll names).replies = h.replies := by
  rw [unregisterAll_eq]

namespace Registry

variable {r : Registry} {h : HeadEnd} {x : Edit} {done : Installed} {name : String} {d : Record}

theorem Edited.stored (edited : Edited r h x done) : done.headEnd.stored = h.stored := by
  cases edited with
  | added => rfl
  | updated | removed => exact h.unregisterAll_stored _

theorem Edited.replies (edited : Edited r h x done) : done.headEnd.replies = h.replies := by
  cases edited with
  | added => rfl
  | updated | removed => exact h.unregisterAll_replies _

theorem get?_drop {names : List String} (kept : name ∉ names) :
    (r.drop names).get? name = r.get? name := by
  simp only [get?, drop, List.find?_filter]
  congr 1
  funext d
  by_cases named : d.name = name
  · simp [named, kept]
  · simp [named]

theorem Edited.get?_kept (edited : Edited r h x done) (kept : name ∉ x.purged r)
    (held : r.get? name = some d) : done.registry.get? name = some d := by
  obtain ⟨made, split⟩ := edited.split
  rw [get?, split.devices, List.find?_append, ← get?, get?_drop kept, held]
  rfl

theorem namesWithToken_subset_stale (r : Registry) (config : ListenConfig) :
    r.namesWithToken config.accessToken ⊆ r.stale config := by
  apply List.map_subset
  intro d mem
  obtain ⟨held, own⟩ := List.mem_filter.mp mem
  rw [decide_eq_true_iff] at own
  exact List.mem_filter.mpr ⟨held, by simp [own]⟩

/-- A device that an edit drops, though it has another token, is dropped for its connector. -/
theorem purged_other (distinct : r.names.Nodup) (mem : d ∈ r.devices) (purged : d.name ∈ x.purged r)
    (other : d.token ≠ x.config.accessToken) :
    ∃ config, x = .update config ∧ d.connector = config.connectorName := by
  cases x with
  | add => cases purged
  | update config =>
    have fits := (mem_map_filter_iff distinct _ mem).mp purged
    rw [Bool.or_eq_true, decide_eq_true_iff, decide_eq_true_iff] at fits
    exact ⟨config, rfl, fits.resolve_right other⟩
  | remove config => exact absurd ((mem_namesWithToken_iff distinct mem _).mp purged) other

theorem namesWithToken_removeDevices (r : Registry) (config : ListenConfig) (h : HeadEnd) :
    (r.removeDevices config h).registry.namesWithToken config.accessToken = [] := by
  rw [namesWithToken, List.map_eq_nil_iff, withToken, List.filter_eq_nil_iff]
  intro d mem own
  obtain ⟨held, left⟩ := List.mem_filter.mp mem
  exact of_decide_eq_true left (List.mem_map_of_mem (List.mem_filter.mpr ⟨held, own⟩))

theorem Edited.names_nodup (edited : Edited r h x done) (distinct : r.names.Nodup) :
    done.registry.names.Nodup := by
  cases edited with
  | added => exact install_names_nodup distinct _ _ _
  | updated => exact install_names_nodup (drop_names_nodup distinct _) _ _ _
  | removed => exact drop_names_nodup distinct _

theorem get?_update {record : Record} : (r.update record).get? name =
    if record.name = name then (r.get? name).map fun _ => record else r.get? name := by
  have names : ∀ d : Record, (if d.name = record.name then record else d).name = d.name := by
    intro d
    split
    · rename_i same
      exact same.symm
    · rfl
  simp only [get?, update, List.find?_map, Function.comp_def, names]
  cases found : r.devices.find? (·.name = name) with
  | none => simp
  | some d =>
    have named : d.name = name := by simpa using List.find?_some found
    simp only [Option.map_some, named, eq_comm]
    split <;> rfl

end Registry

namespace Site

variable {s s' : Site} {now : Nat} {a : Action} {e : Event} {name : String} {r : Record}

inductive DeviceStep (s : Site) (now : Nat) (a : Action) : Registry → List (String × Report) → Prop
  | kept : DeviceStep s now a s.port.registry s.headEnd.stored
  | edited {x done} : a.edit? = some x → s.port.running = true →
      s.port.registry.edit s.headEnd x = .ok done → DeviceStep s now a done.registry s.headEnd.stored
  | reported {device kind report inbox r} : a = .handle →
      s.port.inbox = .pollCompleted device kind report :: inbox →
      s.port.registry.get? device = some r →
      DeviceStep s now a (s.port.registry.update (r.filterChanges report now).2)
        (s.headEnd.stored ++ if (r.filterChanges report now).1.isEmpty then []
          else [(r.connector, (r.filterChanges report now).1)])

theorem Step.devices (step : s.Step now a s') :
    s.DeviceStep now a s'.port.registry s'.headEnd.stored := by
  have edited : ∀ {x done}, a.edit? = some x → s.port.running = true →
      s.port.registry.edit s.headEnd x = .ok done →
      s.DeviceStep now a done.registry done.headEnd.stored := by
    intro x done edits running ok
    rw [(edited_of_edit ok).stored]
    exact .edited edits running ok
  cases step with
  | moved =>
    rw [take_eq]
    exact .kept
  | handled next response =>
    cases response with
    | unchanged found nothing =>
      have reported : s.DeviceStep now .handle _ _ := .reported rfl next found
      rw [if_pos nothing, List.append_nil] at reported
      exact reported
    | forwarded found news =>
      have reported : s.DeviceStep now .handle _ _ := .reported rfl next found
      rw [if_neg (by simp [news])] at reported
      exact reported
    | _ => exact .kept
  | added running ok => exact edited (x := .add _) rfl running ok
  | updated running ok => exact edited (x := .update _) rfl running ok
  | removed running => exact edited (x := .remove _) rfl running rfl
  | _ => exact .kept

def dropped (s : Site) (a : Action) : List String :=
  match a.edit? with
  | some x =>
    if s.port.running ∧ (s.port.registry.edit s.headEnd x).isOk then x.purged s.port.registry else []
  | none => []

theorem Step.device_kept (step : s.Step now a s') (kept : name ∉ s.dropped a)
    (held : s.port.registry.get? name = some r) :
    ∃ r', s'.port.registry.get? name = some r' ∧ r'.lasting = r.lasting := by
  have view := step.devices
  generalize s'.port.registry = after, s'.headEnd.stored = stored at view ⊢
  cases view with
  | kept => exact ⟨r, held, rfl⟩
  | @edited x done edits running ok =>
    refine ⟨r, (edited_of_edit ok).get?_kept ?_ held, rfl⟩
    rw [dropped, edits] at kept
    simpa [running, ok, Except.isOk, Except.toBool] using kept
  | @reported device kind report inbox d _ _ found =>
    rw [get?_update, held]
    split
    · rename_i same
      have named : d.name = device := by simpa using List.find?_some found
      have mine : device = name := named.symm.trans same
      rw [mine, held] at found
      cases found
      exact ⟨_, rfl, r.filterChanges_lasting report now⟩
    · exact ⟨r, rfl, rfl⟩

theorem Step.names_nodup (step : s.Step now a s') (distinct : s.port.registry.names.Nodup) :
    s'.port.registry.names.Nodup := by
  have view := step.devices
  generalize s'.port.registry = after, s'.headEnd.stored = stored at view ⊢
  cases view with
  | kept => exact distinct
  | edited _ _ ok => exact (edited_of_edit ok).names_nodup distinct
  | @reported _ _ report _ d _ _ found =>
    have alike := congrArg Registry.names
      (lasting_update distinct found (d.filterChanges_lasting report now))
    rw [lasting_names, lasting_names] at alike
    rw [alike]
    exact distinct

end Site

theorem Opening.after_distinct (o : Opening) (course : List Happening) :
    (o.after course).port.registry.names.Nodup := by
  apply o.after_invariant (P := fun s => s.port.registry.names.Nodup)
  · exact List.nodup_nil
  · intro s now a s' ih step
    exact step.names_nodup ih
  · exact fun _ _ ih => ih

end MeterGateway
