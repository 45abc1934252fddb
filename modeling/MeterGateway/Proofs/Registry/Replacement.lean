import MeterGateway.Proofs.Outcome
import MeterGateway.Proofs.Registry.Estate

/-!
Replacing the devices of a configuration.  A record belongs to a configuration by its connector or by
its token; those that do are purged and made anew, and the others stay as they are.  Doing it twice
comes to the same as doing it once.
-/

namespace MeterGateway

def ListenConfig.owns (config : ListenConfig) (d : Record) : Bool :=
  d.connector = config.connectorName || d.token = config.accessToken

@[simp] theorem ListenConfig.owns_record (config : ListenConfig) (converters : Uplink × Downlink)
    (d : DeviceConfig) : config.owns (config.record converters d) = true := by
  simp [owns, record]

theorem HeadEnd.unregisterAll_entered {h : HeadEnd} {items : List InventoryItem}
    (new : ∀ item ∈ items, item.name ∉ h.names) :
    HeadEnd.unregisterAll { h with inventory := h.inventory ++ items } (items.map InventoryItem.name) =
      h := by
  have left : h.inventory.filter (·.name ∉ items.map InventoryItem.name) = h.inventory := by
    rw [List.filter_eq_self]
    intro listed mem
    apply decide_eq_true
    intro entered
    obtain ⟨item, here, same⟩ := List.mem_map.mp entered
    apply new item here
    rw [same]
    exact List.mem_map_of_mem mem
  have gone : items.filter (·.name ∉ items.map InventoryItem.name) = [] := by
    rw [List.filter_eq_nil_iff]
    intro item mem
    simpa using ⟨item, mem, rfl⟩
  rw [unregisterAll_eq]
  simp only [List.filter_append, left, gone, List.append_nil]

namespace Registry

def own (r : Registry) (config : ListenConfig) : List Record := r.devices.filter config.owns

def others (r : Registry) (config : ListenConfig) : List Record :=
  r.devices.filter fun d => !config.owns d

section

variable (r : Registry) (config : ListenConfig)

theorem stale_eq : r.stale config = (r.own config).map Record.name := rfl

theorem own_others : own { r with devices := r.others config } config = [] := by
  rw [own, others, List.filter_filter]
  simp

variable {r} in
theorem mem_stale_iff (distinct : r.names.Nodup) {d : Record} (held : d ∈ r.devices) :
    d.name ∈ r.stale config ↔ config.owns d = true :=
  mem_map_filter_iff distinct _ held

variable {r} in
theorem drop_stale (distinct : r.names.Nodup) :
    r.drop (r.stale config) = { r with devices := r.others config } := by
  rw [drop, others]
  congr 1
  apply List.filter_congr
  intro d held
  cases owned : config.owns d <;> simp [mem_stale_iff config distinct held, owned]

theorem learnToken_learnToken (token connector : String) :
    (r.learnToken token connector).learnToken token connector = r.learnToken token connector := by
  simp [learnToken, List.filter_filter]

theorem lookup_learnToken (learned connector token : String) :
    (r.learnToken learned connector).tokens.lookup token =
      if token = learned then some connector else r.tokens.lookup token := by
  rw [learnToken, lookup_cons_eq]
  split
  case isTrue => rfl
  case isFalse other => exact lookup_filter_of_ne _ other

end

section Install

variable (r : Registry) (h : HeadEnd) (config : ListenConfig) (converters : Uplink × Downlink)

theorem install_records :
    (r.install config h converters).registry.devices =
      r.devices ++ (newcomers (h.names ++ r.names) config.devices).map (config.record converters) :=
  rfl

theorem install_headEnd_names :
    (r.install config h converters).headEnd.names = h.names ++ (r.install config h converters).names := by
  simp only [HeadEnd.names, install, List.map_append, List.map_map]
  rfl

variable {r h} in
theorem install_listed (listed : r.names ⊆ h.names) :
    (r.install config h converters).registry.names ⊆ (r.install config h converters).headEnd.names := by
  rw [install_names, install_headEnd_names]
  exact List.append_subset.mpr
    ⟨List.Subset.trans listed (List.subset_append_left _ _), List.subset_append_right _ _⟩

theorem learnToken_install :
    (r.learnToken config.accessToken config.connectorName).install config h converters =
      r.install config h converters := by
  simp only [install]
  rw [show names (r.learnToken config.accessToken config.connectorName) = r.names from rfl]
  congr 1
  exact learnToken_learnToken { r with devices := _ } config.accessToken config.connectorName

variable (foreign : r.own config = [])

include foreign

theorem install_own :
    (r.install config h converters).registry.own config =
      (newcomers (h.names ++ r.names) config.devices).map (config.record converters) := by
  rw [own, install_records, List.filter_append, ← own, foreign, List.nil_append, List.filter_map]
  simp [Function.comp_def]

theorem install_others : (r.install config h converters).registry.others config = r.devices := by
  have kept : r.devices.filter (fun d => !config.owns d) = r.devices := by
    rw [List.filter_eq_self]
    intro d held
    simpa using List.filter_eq_nil_iff.mp foreign d held
  rw [others, install_records, List.filter_append, kept, List.filter_map]
  simp [Function.comp_def]

/-- Whatever was entered is purged again, and there is room for the same newcomers. -/
theorem install_install (distinct : r.names.Nodup) :
    let once := r.install config h converters
    (once.registry.drop (once.registry.stale config)).install config
      (once.headEnd.unregisterAll (once.registry.stale config)) converters = once := by
  intro once
  have dropped : once.registry.drop (once.registry.stale config) =
      r.learnToken config.accessToken config.connectorName := by
    rw [drop_stale config (install_names_nodup distinct config h converters),
      r.install_others h config converters foreign]
    rfl
  have unlisted : once.headEnd.unregisterAll (once.registry.stale config) = h := by
    have purged : once.registry.stale config = (((newcomers (h.names ++ r.names) config.devices).map
        (config.record converters)).map Record.item).map InventoryItem.name := by
      rw [stale_eq, r.install_own h config converters foreign, List.map_map]
      simp only [List.map_map]
      rfl
    rw [purged]
    apply HeadEnd.unregisterAll_entered
    intro item entered
    obtain ⟨d, made, rfl⟩ := List.mem_map.mp entered
    obtain ⟨device, newcomer, rfl⟩ := List.mem_map.mp made
    intro listed
    exact (mem_newcomers_iff.mp newcomer).2 (List.mem_append_left _ listed)
  rw [dropped, unlisted, learnToken_install]

end Install

def remaining (r : Registry) (config : ListenConfig) (h : HeadEnd) : List InventoryItem :=
  h.inventory.filter (·.name ∉ (r.own config).map Record.name)

/-- The first device of its name in a configuration, and nobody else holds the name. -/
structure Enters (r : Registry) (config : ListenConfig) (h : HeadEnd) (d : DeviceConfig) : Prop where
  first : config.devices.find? (·.deviceName = d.deviceName) = some d
  unheld : d.deviceName ∉ (r.others config).map Record.name
  unlisted : d.deviceName ∉ (r.remaining config h).map InventoryItem.name

structure Replaced (r : Registry) (config : ListenConfig) (h : HeadEnd) (done : Installed) : Prop where
  own : ∃ converters, r.converters.select config = .ok converters ∧
    ∀ record, record ∈ done.registry.own config ↔
      ∃ d, r.Enters config h d ∧ record = config.record converters d
  order : ((done.registry.own config).map Record.config).Sublist config.devices
  others : done.registry.others config = r.others config
  converters : done.registry.converters = r.converters
  tokens : ∀ token, done.registry.tokens.lookup token =
    if token = config.accessToken then some config.connectorName else r.tokens.lookup token
  names : done.names = (done.registry.own config).map Record.name
  purged : ∀ record ∈ r.own config, record.name ∈ h.names
  entered : ∀ name ∈ done.names, name ∉ (r.remaining config h).map InventoryItem.name
  headEnd : done.headEnd =
    { h with inventory := r.remaining config h ++ (done.registry.own config).map Record.item }
  distinct : done.registry.names.Nodup
  listed : done.registry.names ⊆ done.headEnd.names
  again : done.registry.updateDevices config done.headEnd = .ok done

theorem others_listed {r : Registry} {h : HeadEnd} (config : ListenConfig) (distinct : r.names.Nodup)
    (listed : r.names ⊆ h.names) :
    (r.others config).map Record.name ⊆ (r.remaining config h).map InventoryItem.name := by
  intro name other
  obtain ⟨d, mem, rfl⟩ := List.mem_map.mp other
  obtain ⟨held, foreign⟩ := List.mem_filter.mp mem
  obtain ⟨item, entered, named⟩ := List.mem_map.mp (listed (List.mem_map_of_mem held))
  refine List.mem_map.mpr ⟨item, List.mem_filter.mpr ⟨entered, ?_⟩, named⟩
  rw [decide_eq_true_iff, named, ← stale_eq, mem_stale_iff config distinct held]
  simpa using foreign

/-- Records are kept by their names, so `distinct` holds of any registry, and `listed` of any whose
devices nobody else took out of the inventory. -/
theorem update_replaces (r : Registry) (config : ListenConfig) (h : HeadEnd)
    (distinct : r.names.Nodup) (listed : r.names ⊆ h.names) (done : Installed)
    (ok : r.updateDevices config h = .ok done) : r.Replaced config h done := by
  let base : Registry := { r with devices := r.others config }
  let purged : HeadEnd := { h with inventory := r.remaining config h }
  rw [updateDevices_eq, drop_stale config distinct,
    show h.unregisterAll (r.stale config) = purged from h.unregisterAll_eq _] at ok
  obtain ⟨converters, selected, installed⟩ := Except.exists_of_map_eq_ok ok
  change base.install config purged converters = done at installed
  subst installed
  have foreign : base.own config = [] := r.own_others config
  have base_distinct : base.names.Nodup := distinct.sublist (List.filter_sublist.map _)
  have base_listed : base.names ⊆ purged.names := others_listed config distinct listed
  have own := base.install_own purged config converters foreign
  constructor
  case own =>
    refine ⟨converters, selected, ?_⟩
    intro record
    rw [own, List.mem_map]
    constructor
    · rintro ⟨d, newcomer, rfl⟩
      obtain ⟨first, free⟩ := mem_newcomers_iff.mp newcomer
      rw [List.mem_append, not_or] at free
      exact ⟨d, ⟨first, free.2, free.1⟩, rfl⟩
    · rintro ⟨d, enters, rfl⟩
      refine ⟨d, mem_newcomers_iff.mpr ⟨enters.first, ?_⟩, rfl⟩
      rw [List.mem_append, not_or]
      exact ⟨enters.unlisted, enters.unheld⟩
  case order =>
    have config_eq : Record.config ∘ config.record converters = id := rfl
    rw [own, List.map_map, config_eq, List.map_id]
    exact newcomers_sublist _ _
  case others => exact base.install_others purged config converters foreign
  case converters => rfl
  case tokens => exact lookup_learnToken { r with devices := _ } config.accessToken config.connectorName
  case names =>
    rw [own, List.map_map]
    rfl
  case purged =>
    intro record mine
    exact listed (List.mem_map_of_mem (List.mem_of_mem_filter mine))
  case entered =>
    intro name entered
    obtain ⟨d, newcomer, rfl⟩ := List.mem_map.mp entered
    exact fun listed => (mem_newcomers_iff.mp newcomer).2 (List.mem_append_left _ listed)
  case headEnd =>
    rw [own]
    rfl
  case distinct => exact install_names_nodup base_distinct config purged converters
  case listed => exact install_listed config converters base_listed
  case again =>
    -- nothing belongs to the configuration but what was just entered, so this is `install_install`
    have same : (base.install config purged converters).registry.converters = r.converters := rfl
    rw [updateDevices_eq, same, selected, Except.map,
      base.install_install purged config converters foreign base_distinct]

def neighbours : Registry × HeadEnd :=
  let meter (name token connector : String) : Record :=
    { config := { deviceName := name }, token, connector, uplink := .bytes, downlink := .bytes }
  let left := meter "left" "key" "hall"
  let right := meter "right" "other" "yard"
  ({ converters := .default, devices := [left, right], tokens := [("other", "yard"), ("key", "hall")] },
    { inventory := [left.item, right.item, ⟨"heater", "roof", "default"⟩] })

def renewal : ListenConfig where
  name := some "hall"
  port := 0
  accessToken := "new"
  devices := ["lamp", "right", "heater", "lamp"].map fun name => { deviceName := name }

theorem update_replaces_neighbours :
    let r := neighbours.1
    let h := neighbours.2
    r.names.Nodup ∧ r.names ⊆ h.names ∧
    ∃ done, r.updateDevices renewal h = .ok done ∧ done.names = ["lamp"] ∧
      done.registry.names = ["right", "lamp"] ∧ done.headEnd.names = ["right", "heater", "lamp"] ∧
      r.Replaced renewal h done := by
  have distinct : neighbours.1.names.Nodup := by decide
  have listed : neighbours.1.names ⊆ neighbours.2.names := by decide
  have replaced : ∃ done, neighbours.1.updateDevices renewal neighbours.2 = .ok done ∧
      done.names = ["lamp"] ∧ done.registry.names = ["right", "lamp"] ∧
      done.headEnd.names = ["right", "heater", "lamp"] :=
    ⟨_, rfl, by decide, by decide, by decide⟩
  obtain ⟨done, ok, names, held, inventory⟩ := replaced
  exact ⟨distinct, listed, done, ok, names, held, inventory,
    update_replaces _ renewal _ distinct listed done ok⟩

end Registry

end MeterGateway
