import Mathlib.Data.List.Induction
import MeterGateway.Proofs.Registry.Inventory

namespace MeterGateway

namespace Registry

inductive Edit
  | add : ListenConfig → Edit
  | update : ListenConfig → Edit
  | remove : ListenConfig → Edit

def edit (r : Registry) (h : HeadEnd) : Edit → Except GatewayError Installed
  | .add config => r.addDevices config h
  | .update config => r.updateDevices config h
  | .remove config => .ok (r.removeDevices config h)

namespace Edit

def config : Edit → ListenConfig
  | add config | update config | remove config => config

def devices : Edit → List DeviceConfig
  | add config | update config => config.devices
  | remove _ => []

def purged (r : Registry) : Edit → List String
  | add _ => []
  | update config => r.stale config
  | remove config => r.namesWithToken config.accessToken

end Edit

def Vouched (r : Registry) : Prop := ∀ d ∈ r.devices, r.isKnownToken d.token = true

variable {r : Registry} {h : HeadEnd} {x : Edit} {done : Installed}

inductive Edited (r : Registry) (h : HeadEnd) : Edit → Installed → Prop
  | added {config converters} : r.converters.select config = .ok converters →
      Edited r h (.add config) (r.install config h converters)
  | updated {config converters} : r.converters.select config = .ok converters →
      Edited r h (.update config)
        ((r.drop (r.stale config)).install config (h.unregisterAll (r.stale config)) converters)
  | removed {config} : Edited r h (.remove config) (r.removeDevices config h)

theorem edited_of_edit (ok : r.edit h x = .ok done) : Edited r h x done := by
  cases x with
  | add config =>
    rw [edit, addDevices_eq] at ok
    cases known : r.converters.select config with
    | error e => rw [known] at ok; cases ok
    | ok converters => rw [known] at ok; cases ok; exact .added known
  | update config =>
    rw [edit, updateDevices_eq] at ok
    cases known : r.converters.select config with
    | error e => rw [known] at ok; cases ok
    | ok converters => rw [known] at ok; cases ok; exact .updated known
  | remove config => cases ok; exact .removed

theorem Edited.accounted (edited : Edited r h x done) {others : List Registry}
    (a : Accounted (r :: others) h) : Accounted (done.registry :: others) done.headEnd := by
  cases edited with
  | added => exact a.install _ _
  | updated => exact a.update _ _
  | removed => exact a.remove _

theorem Vouched.drop (v : r.Vouched) (names : List String) : (r.drop names).Vouched := by
  intro d mem
  exact v d (List.mem_of_mem_filter mem)

theorem Vouched.install (v : r.Vouched) (config : ListenConfig) (h : HeadEnd)
    (converters : Uplink × Downlink) : (r.install config h converters).registry.Vouched := by
  intro d mem
  rw [isKnownToken_install]
  cases List.mem_append.mp mem with
  | inl kept => exact .inr (v d kept)
  | inr created =>
    obtain ⟨_, _, rfl⟩ := List.mem_map.mp created
    exact .inl rfl

theorem Vouched.remove (v : r.Vouched) (config : ListenConfig) (h : HeadEnd) :
    (r.removeDevices config h).registry.Vouched := by
  intro d mem
  obtain ⟨held, left⟩ := List.mem_filter.mp mem
  -- a device of the token that is forgotten would have been dropped with it
  have other : d.token ≠ config.accessToken := by
    intro same
    apply of_decide_eq_true left
    exact List.mem_map_of_mem (List.mem_filter.mpr ⟨held, decide_eq_true same⟩)
  exact (isKnownToken_forget _ config.accessToken d.token).mpr ⟨other, v d held⟩

theorem Edited.vouched (edited : Edited r h x done) (v : r.Vouched) : done.registry.Vouched := by
  cases edited with
  | added => exact v.install _ _ _
  | updated => exact (v.drop _).install _ _ _
  | removed => exact v.remove _ _

theorem newcomers_sublist (taken : List String) (ds : List DeviceConfig) :
    (newcomers taken ds).Sublist ds := by
  have firsts : ∀ ds, (firsts ds).Sublist ds := by
    intro ds
    induction ds with
    | nil => exact .slnil
    | cons d ds ih => exact (List.filter_sublist.trans ih).cons_cons d
  exact List.filter_sublist.trans (firsts ds)

/-- The records after an edit are those that it left alone, and after them those that it made. -/
structure Edited.Split (r : Registry) (x : Edit) (done : Installed) (made : List Record) : Prop where
  devices : done.registry.devices = (r.drop (x.purged r)).devices ++ made
  sublist : (made.map Record.config).Sublist x.devices
  fresh : ∀ d ∈ made, d.token = x.config.accessToken ∧ d.connector = x.config.connectorName ∧ d.lasting = d
  names : (∀ config, x ≠ .remove config) → done.names = made.map Record.name

theorem install_split (config : ListenConfig) (converters : Uplink × Downlink)
    (devices : x.devices = config.devices) (own : x.config = config) :
    Edited.Split r x ((r.drop (x.purged r)).install config h converters)
      ((newcomers (h.names ++ (r.drop (x.purged r)).names) config.devices).map
        (config.record converters)) where
  devices := rfl
  sublist := by
    have config_eq : Record.config ∘ config.record converters = id := rfl
    rw [List.map_map, config_eq, List.map_id, devices]
    exact newcomers_sublist _ _
  fresh := by
    intro d made
    obtain ⟨_, _, rfl⟩ := List.mem_map.mp made
    rw [own]
    exact ⟨rfl, rfl, rfl⟩
  names := by
    intro _
    rw [List.map_map]
    rfl

theorem Edited.split (edited : Edited r h x done) : ∃ made, Edited.Split r x done made := by
  cases edited with
  | @added config converters =>
    have kept : r.drop (Edit.purged r (.add config)) = r := r.drop_nil
    have split := install_split (r := r) (h := h) (x := .add config) config converters rfl rfl
    rw [kept] at split
    exact ⟨_, split⟩
  | updated => exact ⟨_, install_split _ _ rfl rfl⟩
  | removed =>
    refine ⟨[], ⟨(List.append_nil _).symm, List.nil_sublist _, nofun, ?_⟩⟩
    intro other
    exact absurd rfl (other _)

end Registry

open Registry

structure Estate where
  registries : List Registry
  headEnd : HeadEnd := {}

namespace Estate

def edit (e : Estate) (i : Nat) (x : Edit) : Estate :=
  match e.registries[i]? with
  | none => e
  | some r =>
    match r.edit e.headEnd x with
    | .ok done => { registries := e.registries.set i done.registry, headEnd := done.headEnd }
    | .error _ => e

def after (converters : List Converters) (edits : List (Nat × Edit)) : Estate :=
  edits.foldl (fun e (i, x) => e.edit i x) { registries := converters.map fun c => { converters := c } }

structure Settled (e : Estate) : Prop where
  accounted : Accounted e.registries e.headEnd
  vouched : ∀ r ∈ e.registries, r.Vouched

theorem Settled.edit {e : Estate} (s : e.Settled) (i : Nat) (x : Edit) : (e.edit i x).Settled := by
  unfold Estate.edit
  cases found : e.registries[i]? with
  | none => exact s
  | some r =>
    simp only
    split
    · rename_i done ok
      have edited := edited_of_edit ok
      obtain ⟨before, after, split, length⟩ : ∃ before after,
          e.registries = before ++ r :: after ∧ before.length = i := by
        obtain ⟨inside, here⟩ := List.getElem?_eq_some_iff.mp found
        refine ⟨e.registries.take i, e.registries.drop (i + 1), ?_, ?_⟩
        · rw [← here, List.getElem_cons_drop, List.take_append_drop]
        · rw [List.length_take]
          omega
      have set : e.registries.set i done.registry = before ++ done.registry :: after := by
        rw [split, ← length, List.set_append_right _ _ (Nat.le_refl _), Nat.sub_self, List.set_cons_zero]
      rw [set]
      have front : Accounted (r :: (before ++ after)) e.headEnd := by
        apply s.accounted.perm
        rw [split]
        exact List.perm_middle
      refine ⟨(edited.accounted front).perm List.perm_middle.symm, ?_⟩
      intro q mem
      cases List.perm_middle.mem_iff.mp mem with
      | head => exact edited.vouched (s.vouched r (List.mem_of_getElem? found))
      | tail _ other =>
        apply s.vouched q
        rw [split]
        exact List.perm_middle.mem_iff.mpr (.tail _ other)
    · exact s

theorem after_settled (converters : List Converters) (edits : List (Nat × Edit)) :
    (after converters edits).Settled := by
  induction edits using List.reverseRecOn with
  | nil =>
    refine ⟨⟨?_, List.nodup_nil⟩, ?_⟩
    · rw [after, List.foldl_nil, List.flatMap_map]
      simp [items]
    · intro r mem
      obtain ⟨_, _, rfl⟩ := List.mem_map.mp mem
      exact List.forall_mem_nil _
  | append_singleton edits x ih =>
    rw [after, List.foldl_append]
    exact ih.edit x.1 x.2

/-- A name that two registries held would be twice in the inventory. -/
theorem Settled.same_holder {e : Estate} (s : e.Settled) {i j : Nat} {r q : Registry} {name : String}
    (mine : e.registries[i]? = some r) (theirs : e.registries[j]? = some q)
    (held : r.isHeld name = true) (held' : q.isHeld name = true) : i = j := by
  have distinct := s.accounted.all_distinct
  rw [List.flatMap_def, List.nodup_flatten] at distinct
  have apart := List.pairwise_iff_getElem.mp distinct.2
  rw [isHeld_iff] at held held'
  obtain ⟨inside, rfl⟩ := List.getElem?_eq_some_iff.mp mine
  obtain ⟨inside', rfl⟩ := List.getElem?_eq_some_iff.mp theirs
  rcases Nat.lt_trichotomy i j with before | same | after
  · have disjoint := apart i j (by simpa using inside) (by simpa using inside') before
    simp only [List.getElem_map] at disjoint
    exact absurd held' (disjoint held)
  · exact same
  · have disjoint := apart j i (by simpa using inside') (by simpa using inside) after
    simp only [List.getElem_map] at disjoint
    exact absurd held (disjoint held')

theorem Settled.item?_iff {e : Estate} (s : e.Settled) (name : String) (item : InventoryItem) :
    e.headEnd.item? name = some item ↔ ∃ r ∈ e.registries, ∃ d, r.get? name = some d ∧ d.item = item := by
  have listed : item ∈ e.headEnd.inventory ↔ ∃ r ∈ e.registries, ∃ d ∈ r.devices, d.item = item := by
    rw [s.accounted.inventory.mem_iff, List.mem_flatMap]
    simp only [Registry.items, List.mem_map]
  rw [HeadEnd.item?, find?_key_iff s.accounted.names, listed]
  constructor
  · rintro ⟨⟨r, mem, d, held, rfl⟩, rfl⟩
    exact ⟨r, mem, d, (find?_key_iff (s.accounted.distinct mem)).mpr ⟨held, rfl⟩, rfl⟩
  · rintro ⟨r, mem, d, found, rfl⟩
    obtain ⟨held, named⟩ := (find?_key_iff (s.accounted.distinct mem)).mp found
    exact ⟨⟨r, mem, d, held, rfl⟩, named⟩

theorem records_are_inventory (converters : List Converters) (edits : List (Nat × Edit)) :
    let e := after converters edits
    (∀ (i j : Nat) (r q : Registry) name, e.registries[i]? = some r → e.registries[j]? = some q →
      r.isHeld name = true → q.isHeld name = true → i = j) ∧
    (∀ r ∈ e.registries, r.names.Nodup) ∧
    e.headEnd.names.Nodup ∧
    (∀ name item, e.headEnd.item? name = some item ↔
      ∃ r ∈ e.registries, ∃ d, r.get? name = some d ∧ d.item = item) ∧
    (∀ r ∈ e.registries, ∀ d ∈ r.devices, r.isKnownToken d.token = true) ∧
    ∀ r ∈ e.registries, ∀ x done, r.edit e.headEnd x = .ok done →
      ∃ made, done.registry.devices = (r.drop (x.purged r)).devices ++ made ∧
        (made.map Record.config).Sublist x.devices ∧
        (∀ d ∈ made, d.token = x.config.accessToken ∧ d.connector = x.config.connectorName ∧
          d.lasting = d) ∧
        ((∀ config, x ≠ .remove config) → done.names = made.map Record.name) := by
  intro e
  have settled := after_settled converters edits
  refine ⟨fun _ _ _ _ _ => settled.same_holder, fun _ => settled.accounted.distinct,
    settled.accounted.names, settled.item?_iff, settled.vouched, ?_⟩
  intro r _ x done ok
  obtain ⟨made, split⟩ := (edited_of_edit ok).split
  exact ⟨made, split.devices, split.sublist, split.fresh, split.names⟩

end Estate

end MeterGateway
