import Mathlib.Data.List.Perm.Basic
import MeterGateway.Proofs.Registry.Devices

namespace MeterGateway

def Registry.items (r : Registry) : List InventoryItem := r.devices.map Record.item

@[simp] theorem Registry.items_names (r : Registry) : r.items.map InventoryItem.name = r.names := by
  simp [items, names]

@[simp] theorem Registry.lasting_items (r : Registry) : r.lasting.items = r.items := by
  simp [items, lasting]

structure Accounted (registries : List Registry) (h : HeadEnd) : Prop where
  inventory : h.inventory.Perm (registries.flatMap Registry.items)
  names : h.names.Nodup

namespace Accounted

variable {registries others : List Registry} {r : Registry} {h : HeadEnd}

theorem new : Accounted [] {} := ⟨.nil, List.nodup_nil⟩

theorem perm (a : Accounted registries h) {registries' : List Registry}
    (same : registries.Perm registries') : Accounted registries' h :=
  ⟨a.inventory.trans (same.flatMap_right _), a.names⟩

theorem cons_empty (a : Accounted others h) (empty : r.devices = []) : Accounted (r :: others) h := by
  refine ⟨?_, a.names⟩
  rw [List.flatMap_cons, Registry.items, empty]
  exact a.inventory

theorem all_names (a : Accounted registries h) :
    h.names.Perm (registries.flatMap Registry.names) := by
  have names := a.inventory.map InventoryItem.name
  simp only [List.map_flatMap, Registry.items_names] at names
  exact names

theorem all_distinct (a : Accounted registries h) : (registries.flatMap Registry.names).Nodup :=
  a.all_names.nodup_iff.mp a.names

theorem distinct (a : Accounted registries h) (mem : r ∈ registries) : r.names.Nodup :=
  (List.nodup_flatMap.mp a.all_distinct).1 r mem

theorem names_subset (a : Accounted registries h) (mem : r ∈ registries) : r.names ⊆ h.names := by
  intro n held
  exact a.all_names.mem_iff.mpr (List.mem_flatMap.mpr ⟨r, mem, held⟩)

theorem apart (a : Accounted (r :: others) h) :
    ∀ n ∈ r.names, ∀ item ∈ others.flatMap Registry.items, item.name ≠ n := by
  intro n held item listed same
  have both := a.all_distinct
  rw [List.flatMap_cons, List.nodup_append] at both
  obtain ⟨other, mem, in_other⟩ := List.mem_flatMap.mp listed
  refine both.2.2 n held item.name ?_ same.symm
  refine List.mem_flatMap.mpr ⟨other, mem, ?_⟩
  rw [← other.items_names]
  exact List.mem_map_of_mem in_other

theorem drop (a : Accounted (r :: others) h) {names : List String} (own : names ⊆ r.names) :
    Accounted (r.drop names :: others) (h.unregisterAll names) := by
  rw [h.unregisterAll_eq]
  refine ⟨?_, ?_⟩
  · have left := a.inventory.filter (·.name ∉ names)
    have kept : (others.flatMap Registry.items).filter (·.name ∉ names) =
        others.flatMap Registry.items := by
      apply List.filter_eq_self.mpr
      intro item listed
      apply decide_eq_true
      intro given_up
      exact a.apart item.name (own given_up) item listed rfl
    have mine : r.items.filter (·.name ∉ names) = (r.drop names).items := by
      simp only [Registry.items, Registry.drop, List.filter_map]
      rfl
    rw [List.flatMap_cons, List.filter_append, kept, mine] at left
    exact left
  · exact a.names.sublist (List.filter_sublist.map _)

theorem install (a : Accounted (r :: others) h) (config : ListenConfig)
    (converters : Uplink × Downlink) :
    Accounted ((r.install config h converters).registry :: others)
      (r.install config h converters).headEnd := by
  have shape : (r.install config h converters).registry.items =
      r.items ++ ((newcomers (h.names ++ r.names) config.devices).map (config.record converters)).map
        Record.item := by
    simp only [Registry.install, Registry.items, Registry.learnToken, List.map_append]
  refine ⟨?_, ?_⟩
  · rw [List.flatMap_cons, shape, List.append_assoc]
    have entered := (a.inventory.append_right
      (((newcomers (h.names ++ r.names) config.devices).map (config.record converters)).map Record.item))
    rw [List.flatMap_cons, List.append_assoc] at entered
    exact entered.trans ((List.perm_append_comm).append_left _)
  · have fresh : (newcomers (h.names ++ r.names) config.devices).map DeviceConfig.deviceName =
        (((newcomers (h.names ++ r.names) config.devices).map (config.record converters)).map
          Record.item).map InventoryItem.name := by
      simp
    rw [HeadEnd.names, Registry.install, List.map_append, ← fresh]
    refine List.nodup_append.mpr ⟨a.names, ?_, ?_⟩
    · exact newcomers_names_nodup _ _
    · intro n registered m entered
      obtain ⟨d, newcomer, rfl⟩ := List.mem_map.mp entered
      rintro rfl
      exact (mem_newcomers_iff.mp newcomer).2 (List.mem_append_left _ registered)

theorem update (a : Accounted (r :: others) h) (config : ListenConfig)
    (converters : Uplink × Downlink) :
    let installed := (r.drop (r.stale config)).install config (h.unregisterAll (r.stale config)) converters
    Accounted (installed.registry :: others) installed.headEnd := by
  apply install
  apply a.drop
  exact List.map_subset _ List.filter_sublist.subset

theorem remove (a : Accounted (r :: others) h) (config : ListenConfig) :
    Accounted ((r.removeDevices config h).registry :: others) (r.removeDevices config h).headEnd := by
  have own : r.namesWithToken config.accessToken ⊆ r.names :=
    List.map_subset _ List.filter_sublist.subset
  exact ⟨(a.drop own).inventory, (a.drop own).names⟩

end Accounted

end MeterGateway
