import MeterGateway.Proofs.Keyed
import MeterGateway.Registry

namespace MeterGateway

namespace Record

/-- A record as it was before its device reported anything. -/
def lasting (r : Record) : Record := { r with attributes := {}, timeseries := {} }

def item (r : Record) : InventoryItem := ⟨r.name, r.connector, r.config.deviceType⟩

@[simp] theorem lasting_name (r : Record) : r.lasting.name = r.name := rfl

@[simp] theorem lasting_item (r : Record) : r.lasting.item = r.item := rfl

@[simp] theorem item_name (r : Record) : r.item.name = r.name := rfl

theorem filterChanges_lasting (r : Record) (report : Report) (now : Nat) :
    (r.filterChanges report now).2.lasting = r.lasting := rfl

end Record

namespace HeadEnd

def names (h : HeadEnd) : List String := h.inventory.map InventoryItem.name

def lasting (h : HeadEnd) : HeadEnd := { inventory := h.inventory }

variable (h : HeadEnd)

@[simp] theorem lasting_inventory : h.lasting.inventory = h.inventory := rfl

@[simp] theorem lasting_names : h.lasting.names = h.names := rfl

theorem isRegistered_iff (name : String) : h.isRegistered name = true ↔ name ∈ h.names := by
  simp [isRegistered, item?, names]

theorem unregisterAll_eq (names : List String) :
    h.unregisterAll names = { h with inventory := h.inventory.filter (·.name ∉ names) } := by
  unfold unregisterAll
  induction names generalizing h with
  | nil => simp
  | cons name names ih =>
    rw [List.foldl_cons, ih, unregister]
    simp [List.filter_filter, Bool.and_comm]

theorem mem_unregisterAll_names (names : List String) (name : String) :
    name ∈ (h.unregisterAll names).names ↔ name ∈ h.names ∧ name ∉ names := by
  rw [unregisterAll_eq]
  constructor
  · intro listed
    obtain ⟨item, mem, rfl⟩ := List.mem_map.mp listed
    obtain ⟨mem, kept⟩ := List.mem_filter.mp mem
    exact ⟨List.mem_map_of_mem mem, of_decide_eq_true kept⟩
  · rintro ⟨listed, kept⟩
    obtain ⟨item, mem, rfl⟩ := List.mem_map.mp listed
    exact List.mem_map_of_mem (List.mem_filter.mpr ⟨mem, decide_eq_true kept⟩)

@[simp] theorem unregisterAll_nil : h.unregisterAll [] = h := rfl

@[simp] theorem unregisterAll_lasting (names : List String) :
    (h.unregisterAll names).lasting = h.lasting.unregisterAll names := by
  simp [unregisterAll_eq, lasting]

end HeadEnd

def firsts : List DeviceConfig → List DeviceConfig
  | [] => []
  | d :: ds => d :: (firsts ds).filter (·.deviceName ≠ d.deviceName)

theorem mem_firsts_iff {d : DeviceConfig} {ds : List DeviceConfig} :
    d ∈ firsts ds ↔ ds.find? (·.deviceName = d.deviceName) = some d := by
  induction ds with
  | nil => simp [firsts]
  | cons e ds ih =>
    by_cases same : e.deviceName = d.deviceName
    · simp [firsts, same, eq_comm]
    · have other : d ≠ e := by
        rintro rfl
        exact same rfl
      simp [firsts, same, other, ih, Ne.symm same]

theorem firsts_names_nodup (ds : List DeviceConfig) :
    ((firsts ds).map DeviceConfig.deviceName).Nodup := by
  induction ds with
  | nil => exact List.nodup_nil
  | cons d ds ih =>
    rw [firsts, List.map_cons, List.nodup_cons]
    refine ⟨?_, ih.sublist (List.filter_sublist.map _)⟩
    simp

theorem firsts_subset (ds : List DeviceConfig) : firsts ds ⊆ ds := by
  intro d first
  exact List.mem_of_find?_eq_some (mem_firsts_iff.mp first)

theorem exists_first {d : DeviceConfig} {ds : List DeviceConfig} (h : d ∈ ds) :
    ∃ e ∈ firsts ds, e.deviceName = d.deviceName := by
  have found : (ds.find? (·.deviceName = d.deviceName)).isSome := by
    rw [List.find?_isSome]
    exact ⟨d, h, decide_eq_true rfl⟩
  obtain ⟨e, first⟩ := Option.isSome_iff_exists.mp found
  have name : e.deviceName = d.deviceName := by simpa using List.find?_some first
  refine ⟨e, mem_firsts_iff.mpr ?_, name⟩
  rw [name]
  exact first

def newcomers (taken : List String) (ds : List DeviceConfig) : List DeviceConfig :=
  (firsts ds).filter (·.deviceName ∉ taken)

theorem mem_newcomers_iff {taken : List String} {d : DeviceConfig} {ds : List DeviceConfig} :
    d ∈ newcomers taken ds ↔ ds.find? (·.deviceName = d.deviceName) = some d ∧ d.deviceName ∉ taken := by
  rw [newcomers, List.mem_filter, mem_firsts_iff, decide_eq_true_iff]

theorem newcomers_names_nodup (taken : List String) (ds : List DeviceConfig) :
    ((newcomers taken ds).map DeviceConfig.deviceName).Nodup :=
  (firsts_names_nodup ds).sublist (List.filter_sublist.map _)

theorem newcomers_congr {taken taken' : List String} (h : ∀ n, n ∈ taken ↔ n ∈ taken')
    (ds : List DeviceConfig) : newcomers taken ds = newcomers taken' ds := by
  simp only [newcomers, h]

theorem newcomers_cons_of_mem {taken : List String} {d : DeviceConfig} (h : d.deviceName ∈ taken)
    (ds : List DeviceConfig) : newcomers taken (d :: ds) = newcomers taken ds := by
  rw [newcomers, newcomers, firsts, List.filter_cons_of_neg (by simpa using h), List.filter_filter]
  apply List.filter_congr
  intro e _
  by_cases mine : e.deviceName = d.deviceName <;> simp [mine, h]

theorem newcomers_cons_of_not_mem {taken : List String} {d : DeviceConfig}
    (h : d.deviceName ∉ taken) (ds : List DeviceConfig) :
    newcomers taken (d :: ds) = d :: newcomers (d.deviceName :: taken) ds := by
  rw [newcomers, newcomers, firsts, List.filter_cons_of_pos (by simpa using h), List.filter_filter]
  congr 1
  apply List.filter_congr
  intro e _
  by_cases mine : e.deviceName = d.deviceName <;> simp [mine]

def Converters.select (c : Converters) (config : ListenConfig) :
    Except GatewayError (Uplink × Downlink) := do
  return (← c.uplink config.converter, ← c.downlink config.downlinkConverter)

def ListenConfig.record (config : ListenConfig) (converters : Uplink × Downlink) (d : DeviceConfig) :
    Record where
  config := d
  token := config.accessToken
  connector := config.connectorName
  uplink := converters.1
  downlink := converters.2

@[simp] theorem ListenConfig.record_name (config : ListenConfig) (converters : Uplink × Downlink)
    (d : DeviceConfig) : (config.record converters d).name = d.deviceName := rfl

namespace Registry

def names (r : Registry) : List String := r.devices.map Record.name

def lasting (r : Registry) : Registry := { r with devices := r.devices.map Record.lasting }

def Installed.lasting (i : Installed) : Installed := ⟨i.names, i.registry.lasting, i.headEnd.lasting⟩

variable (r : Registry) (config : ListenConfig) (h : HeadEnd)

theorem isHeld_iff (name : String) : r.isHeld name = true ↔ name ∈ r.names := by
  simp [isHeld, get?, names]

theorem get?_eq_none_iff {r : Registry} {name : String} : r.get? name = none ↔ name ∉ r.names := by
  simp [get?, names]

theorem mem_namesWithToken_iff {r : Registry} (distinct : r.names.Nodup) {d : Record}
    (held : d ∈ r.devices) (token : String) : d.name ∈ r.namesWithToken token ↔ d.token = token := by
  rw [namesWithToken, withToken, mem_map_filter_iff distinct _ held, decide_eq_true_iff]

theorem isKnownToken_iff (token : String) :
    r.isKnownToken token = true ↔ token ∈ r.tokens.map Prod.fst := by
  simp [isKnownToken, List.lookup_isSome_iff]

theorem isKnownToken_learn (token connector t : String) :
    (r.learnToken token connector).isKnownToken t = true ↔ t = token ∨ r.isKnownToken t = true := by
  by_cases same : t = token <;> simp [isKnownToken_iff, learnToken, same]

theorem isKnownToken_forget (token t : String) :
    (r.forgetToken token).isKnownToken t = true ↔ t ≠ token ∧ r.isKnownToken t = true := by
  by_cases same : t = token <;> simp [isKnownToken_iff, forgetToken, same]

@[simp] theorem drop_nil : r.drop [] = r := by
  simp [drop]

theorem enter_eq {fresh : DeviceConfig → Record} (own : ∀ d, (fresh d).config = d)
    (ds : List DeviceConfig) :
    enter fresh ds r h =
      let entered := newcomers (h.names ++ r.names) ds
      { names := entered.map DeviceConfig.deviceName
        registry := { r with devices := r.devices ++ entered.map fresh }
        headEnd := { h with inventory := h.inventory ++ (entered.map fresh).map Record.item } } := by
  induction ds generalizing r h with
  | nil => simp [enter, newcomers, firsts]
  | cons d ds ih =>
    have taken_iff : (h.isRegistered d.deviceName || r.isHeld d.deviceName) = true ↔
        d.deviceName ∈ h.names ++ r.names := by
      rw [Bool.or_eq_true, h.isRegistered_iff, r.isHeld_iff, List.mem_append]
    by_cases taken : d.deviceName ∈ h.names ++ r.names
    · rw [enter, if_pos (taken_iff.mpr taken), ih, newcomers_cons_of_mem taken]
    · have free : ¬ h.isRegistered d.deviceName = true := by
        rw [h.isRegistered_iff]
        exact fun registered => taken (List.mem_append_left _ registered)
      have item : (fresh d).item = ⟨d.deviceName, (fresh d).connector, d.deviceType⟩ := by
        simp [Record.item, Record.name, own]
      have now_taken : ∀ n,
          n ∈ (h.register (fresh d).item).names ++
            names { r with devices := r.devices ++ [fresh d] } ↔
          n ∈ d.deviceName :: (h.names ++ r.names) := by
        intro n
        simp only [HeadEnd.register, item, if_neg free, HeadEnd.names, names, Record.name, own,
          List.map_append, List.mem_append, List.mem_cons, List.map_cons, List.map_nil,
          List.not_mem_nil, or_false]
        tauto
      simp only [enter, if_neg (mt taken_iff.mp taken), ← item, ih, newcomers_congr now_taken,
        newcomers_cons_of_not_mem taken]
      simp [HeadEnd.register, item, free]

def install (converters : Uplink × Downlink) : Installed :=
  let entered := newcomers (h.names ++ r.names) config.devices
  let records := entered.map (config.record converters)
  { names := entered.map DeviceConfig.deviceName
    registry := { r with devices := r.devices ++ records }.learnToken config.accessToken
      config.connectorName
    headEnd := { h with inventory := h.inventory ++ records.map Record.item } }

theorem isKnownToken_install (converters : Uplink × Downlink) (token : String) :
    (r.install config h converters).registry.isKnownToken token = true ↔
      token = config.accessToken ∨ r.isKnownToken token = true :=
  isKnownToken_learn { r with devices := _ } config.accessToken config.connectorName token

theorem install_names (converters : Uplink × Downlink) :
    (r.install config h converters).registry.names =
      r.names ++ (newcomers (h.names ++ r.names) config.devices).map DeviceConfig.deviceName := by
  simp [names, install, learnToken]

theorem install_names_nodup {r : Registry} (distinct : r.names.Nodup) (config : ListenConfig)
    (h : HeadEnd) (converters : Uplink × Downlink) :
    (r.install config h converters).registry.names.Nodup := by
  rw [install_names, List.nodup_append]
  refine ⟨distinct, newcomers_names_nodup _ _, ?_⟩
  intro name held other entered
  obtain ⟨d, newcomer, rfl⟩ := List.mem_map.mp entered
  rintro rfl
  exact (mem_newcomers_iff.mp newcomer).2 (List.mem_append_right _ held)

theorem drop_names_nodup {r : Registry} (distinct : r.names.Nodup) (names : List String) :
    (r.drop names).names.Nodup :=
  distinct.sublist (List.filter_sublist.map _)

theorem mem_install_names (converters : Uplink × Downlink) (name : String) :
    name ∈ (r.install config h converters).registry.names ↔
      name ∈ r.names ∨ name ∉ h.names ∧ name ∈ config.devices.map DeviceConfig.deviceName := by
  have entered : name ∈ (newcomers (h.names ++ r.names) config.devices).map DeviceConfig.deviceName ↔
      name ∉ h.names ++ r.names ∧ name ∈ config.devices.map DeviceConfig.deviceName := by
    constructor
    · intro new
      obtain ⟨d, mem, rfl⟩ := List.mem_map.mp new
      obtain ⟨first, free⟩ := List.mem_filter.mp mem
      exact ⟨of_decide_eq_true free, List.mem_map_of_mem (firsts_subset _ first)⟩
    · rintro ⟨free, listed⟩
      obtain ⟨d, mem, rfl⟩ := List.mem_map.mp listed
      obtain ⟨e, first, same⟩ := exists_first mem
      rw [← same] at free ⊢
      exact List.mem_map_of_mem (List.mem_filter.mpr ⟨first, decide_eq_true free⟩)
  rw [install_names, List.mem_append, entered, List.mem_append, not_or]
  tauto

theorem addDevices_eq :
    r.addDevices config h = (r.converters.select config).map (r.install config h) := by
  unfold addDevices Converters.select
  cases r.converters.uplink config.converter with
  | error e => rfl
  | ok uplink =>
    cases r.converters.downlink config.downlinkConverter with
    | error e => rfl
    | ok downlink =>
      have own : ∀ d, (config.record (uplink, downlink) d).config = d := fun _ => rfl
      have entered := r.enter_eq h own config.devices
      change Except.ok (⟨(enter (config.record (uplink, downlink)) config.devices r h).names,
        (enter (config.record (uplink, downlink)) config.devices r h).registry.learnToken
          config.accessToken config.connectorName,
        (enter (config.record (uplink, downlink)) config.devices r h).headEnd⟩ : Installed) = _
      rw [entered]
      rfl

theorem updateDevices_eq :
    r.updateDevices config h =
      (r.converters.select config).map
        ((r.drop (r.stale config)).install config (h.unregisterAll (r.stale config))) := by
  have same : (r.drop (r.stale config)).converters = r.converters := rfl
  unfold updateDevices
  rw [addDevices_eq, same]
  unfold Converters.select
  cases r.converters.uplink config.converter with
  | error e => rfl
  | ok uplink =>
    cases r.converters.downlink config.downlinkConverter with
    | error e => rfl
    | ok downlink => rfl

/-! ### Forgetting what devices reported -/

@[simp] theorem lasting_names : r.lasting.names = r.names := by
  simp [names, lasting]

@[simp] theorem lasting_namesWithToken (token : String) :
    r.lasting.namesWithToken token = r.namesWithToken token := by
  rw [namesWithToken, withToken, lasting, List.filter_map, List.map_map]
  rfl

@[simp] theorem lasting_stale : r.lasting.stale config = r.stale config := by
  rw [stale, lasting, List.filter_map, List.map_map]
  rfl

theorem lasting_drop (names : List String) : (r.drop names).lasting = r.lasting.drop names := by
  simp only [drop, lasting, List.filter_map]
  rfl

theorem lasting_install (converters : Uplink × Downlink) :
    (r.install config h converters).lasting = r.lasting.install config h.lasting converters := by
  simp only [install, Installed.lasting, lasting_names, HeadEnd.lasting_names]
  congr 1
  simp [lasting, learnToken, ListenConfig.record, Record.lasting]

theorem lasting_reinstall (converters : Uplink × Downlink) :
    ((r.drop (r.stale config)).install config (h.unregisterAll (r.stale config)) converters).lasting =
      (r.lasting.drop (r.lasting.stale config)).install config
        (h.lasting.unregisterAll (r.lasting.stale config)) converters := by
  rw [lasting_install, lasting_drop, HeadEnd.unregisterAll_lasting, lasting_stale]

theorem lasting_removeDevices :
    (r.removeDevices config h).lasting = r.lasting.removeDevices config h.lasting := by
  simp only [removeDevices, Installed.lasting, lasting_namesWithToken, HeadEnd.unregisterAll_lasting]
  congr 1
  rw [← lasting_drop]
  rfl

end Registry

end MeterGateway
