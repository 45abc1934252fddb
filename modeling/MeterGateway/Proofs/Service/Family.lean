import Mathlib.Data.List.Nodup
import MeterGateway.Proofs.Service.Turns

/-!
Connectors that have nothing but ports in common.  While some of them are open a port holds what
those who share it brought, in the order in which they came, and the inventory what all of them
brought; opening one adds its part and closing it takes just that part away.
-/

namespace MeterGateway

/-- Connectors whose configurations are in order, and none of which has the name, the token or a
device of another. -/
structure Family (ι : Type*) where
  converters : Converters
  config : ι → ListenConfig
  method : ι → FrameMethod
  equipment : ι → Uplink × Downlink
  readable : ∀ i, (config i).frameMethod = .ok (method i)
  equipped : ∀ i, converters.select (config i) = .ok (equipment i)
  connectors : ∀ i j, (config i).connectorName = (config j).connectorName → i = j
  tokens : ∀ i j, (config i).accessToken = (config j).accessToken → i = j
  devices : ∀ i, ∀ d ∈ (config i).devices, ∀ j, ∀ e ∈ (config j).devices,
    d.deviceName = e.deviceName → i = j

namespace Family

variable {ι : Type*} (f : Family ι)

def records (i : ι) : List Record :=
  (firsts (f.config i).devices).map ((f.config i).record (f.equipment i))

def token (i : ι) : String × String := ((f.config i).accessToken, (f.config i).connectorName)

def sharing (number : Nat) (opened : List ι) : List ι :=
  opened.filter fun i => (f.config i).port = number

variable {f} {i j : ι} {here opened : List ι}

theorem records_token {r : Record} (mem : r ∈ f.records i) : r.token = (f.config i).accessToken := by
  obtain ⟨d, _, rfl⟩ := List.mem_map.mp mem
  rfl

theorem records_connector {r : Record} (mem : r ∈ f.records i) :
    r.connector = (f.config i).connectorName := by
  obtain ⟨d, _, rfl⟩ := List.mem_map.mp mem
  rfl

theorem records_name {r : Record} (mem : r ∈ f.records i) :
    ∃ d ∈ (f.config i).devices, d.deviceName = r.name := by
  obtain ⟨d, first, rfl⟩ := List.mem_map.mp mem
  exact ⟨d, firsts_subset _ first, rfl⟩

theorem name_not_mem (closed : i ∉ opened) {d : DeviceConfig} (mem : d ∈ (f.config i).devices) :
    d.deviceName ∉ (opened.flatMap f.records).map Record.name := by
  intro taken
  obtain ⟨r, held, same⟩ := List.mem_map.mp taken
  obtain ⟨j, there, theirs⟩ := List.mem_flatMap.mp held
  obtain ⟨e, inside, name⟩ := records_name theirs
  have : i = j := f.devices i d mem j e inside (same.symm.trans name.symm)
  exact closed (this ▸ there)

theorem inventory_names {h : HeadEnd}
    (inventory : h.inventory = (opened.flatMap f.records).map Record.item) :
    h.names = (opened.flatMap f.records).map Record.name := by
  rw [HeadEnd.names, inventory, List.map_map]
  rfl

theorem filter_flatMap_ne [DecidableEq ι] {α : Type*} {part : ι → List α} {p : α → Bool}
    (own : ∀ j ∈ opened, ∀ a ∈ part j, p a = decide (j ≠ i)) :
    (opened.flatMap part).filter p = (opened.filter (· ≠ i)).flatMap part := by
  induction opened with
  | nil => rfl
  | cons j opened ih =>
    rw [List.flatMap_cons, List.filter_append, ih fun k mem => own k (.tail _ mem)]
    have mine := own j (.head _)
    by_cases same : j = i
    · rw [List.filter_cons_of_neg (by simp [same]), List.filter_eq_nil_iff.mpr, List.nil_append]
      intro a mem
      simp [mine a mem, same]
    · rw [List.filter_cons_of_pos (by simp [same]), List.flatMap_cons, List.filter_eq_self.mpr]
      intro a mem
      simp [mine a mem, same]

theorem length_filter_ne [DecidableEq ι] (distinct : opened.Nodup) (there : i ∈ opened) :
    (opened.filter (· ≠ i)).length = opened.length - 1 := by
  rw [← List.length_erase_of_mem there, distinct.erase_eq_filter]
  congr 2
  funext j
  rw [bne, beq_eq_decide, decide_not]

/-! ### One port -/

structure Shares (f : Family ι) (here : List ι) (h : Holding) : Prop where
  references : h.references = here.length
  method : ∀ i ∈ here, f.method i = h.method
  devices : h.registry.devices = here.flatMap f.records
  tokens : h.registry.tokens = (here.map f.token).reverse

theorem Shares.stale_eq_nil {h : Holding} (shares : f.Shares here h) (closed : i ∉ here) :
    h.registry.stale (f.config i) = [] := by
  rw [Registry.stale, List.map_eq_nil_iff, List.filter_eq_nil_iff, shares.devices]
  intro r mem
  obtain ⟨j, there, theirs⟩ := List.mem_flatMap.mp mem
  rw [records_connector theirs, records_token theirs]
  have apart : j ≠ i := fun same => closed (same ▸ there)
  simpa using ⟨mt (f.connectors j i) apart, mt (f.tokens j i) apart⟩

section Installing

variable {r : Registry} {h : HeadEnd} (closed : i ∉ opened) (inside : here ⊆ opened)
  (devices : r.devices = here.flatMap f.records)
  (inventory : h.inventory = (opened.flatMap f.records).map Record.item)

include closed inside devices inventory

theorem newcomers_eq : newcomers (h.names ++ r.names) (f.config i).devices =
    firsts (f.config i).devices := by
  apply List.filter_eq_self.mpr
  intro d first
  have mine := firsts_subset _ first
  rw [inventory_names inventory, Registry.names, devices]
  apply decide_eq_true
  intro taken
  cases List.mem_append.mp taken with
  | inl listed => exact name_not_mem closed mine listed
  | inr held => exact name_not_mem (fun there => closed (inside there)) mine held

theorem install_devices :
    (r.install (f.config i) h (f.equipment i)).registry.devices = (here ++ [i]).flatMap f.records := by
  rw [Registry.install, Registry.learnToken]
  simp only [newcomers_eq closed inside devices inventory]
  rw [devices, List.flatMap_append, List.flatMap_singleton]
  rfl

theorem install_inventory :
    (r.install (f.config i) h (f.equipment i)).headEnd.inventory =
      ((opened ++ [i]).flatMap f.records).map Record.item := by
  rw [Registry.install]
  simp only [newcomers_eq closed inside devices inventory]
  rw [inventory, List.flatMap_append, List.map_append, List.flatMap_singleton]
  rfl

end Installing

theorem install_tokens {r : Registry} (closed : i ∉ here) (tokens : r.tokens = (here.map f.token).reverse)
    (h : HeadEnd) :
    (r.install (f.config i) h (f.equipment i)).registry.tokens = ((here ++ [i]).map f.token).reverse := by
  have others : (here.map f.token).reverse.filter (·.1 ≠ (f.config i).accessToken) =
      (here.map f.token).reverse := by
    apply List.filter_eq_self.mpr
    intro entry mem
    obtain ⟨j, there, rfl⟩ := List.mem_map.mp (List.mem_reverse.mp mem)
    exact decide_eq_true (mt (f.tokens j i) fun same => closed (same ▸ there))
  rw [Registry.install, Registry.learnToken]
  simp only [tokens, others]
  simp [token]

theorem Shares.joined {h : Holding} (shares : f.Shares here h) (closed : i ∉ opened)
    (inside : here ⊆ opened) (method : f.method i = h.method) {headEnd : HeadEnd}
    (inventory : headEnd.inventory = (opened.flatMap f.records).map Record.item) :
    let installed := (h.registry.drop (h.registry.stale (f.config i))).install (f.config i)
      (headEnd.unregisterAll (h.registry.stale (f.config i))) (f.equipment i)
    f.Shares (here ++ [i])
        { h with references := h.references + 1, registry := installed.registry } ∧
      installed.headEnd.inventory = ((opened ++ [i]).flatMap f.records).map Record.item := by
  have apart : i ∉ here := fun there => closed (inside there)
  -- nothing at the port is of this connector, so sharing it replaces nothing
  rw [shares.stale_eq_nil apart, Registry.drop_nil, HeadEnd.unregisterAll_nil]
  refine ⟨⟨?_, ?_, ?_, ?_⟩, ?_⟩
  · simp [shares.references]
  · intro j mem
    cases List.mem_append.mp mem with
    | inl there => exact shares.method j there
    | inr new =>
      rw [List.mem_singleton] at new
      rw [new]
      exact method
  · exact install_devices closed inside shares.devices inventory
  · exact install_tokens apart shares.tokens headEnd
  · exact install_inventory closed inside shares.devices inventory

theorem mem_namesWithToken_iff {r : Registry} (devices : r.devices = here.flatMap f.records)
    (there : i ∈ here) {q : Record} (mem : q ∈ f.records j) :
    q.name ∈ r.namesWithToken (f.config i).accessToken ↔ j = i := by
  rw [Registry.namesWithToken, Registry.withToken, devices]
  constructor
  · intro named
    obtain ⟨q', held, same⟩ := List.mem_map.mp named
    obtain ⟨held, token⟩ := List.mem_filter.mp held
    obtain ⟨k, _, theirs⟩ := List.mem_flatMap.mp held
    have : k = i := by
      apply f.tokens
      rw [← records_token theirs]
      exact of_decide_eq_true token
    subst this
    obtain ⟨d, inside, name⟩ := records_name mem
    obtain ⟨e, inside', name'⟩ := records_name theirs
    exact f.devices j d inside k e inside' (name.trans (same.symm.trans name'.symm))
  · rintro rfl
    refine List.mem_map_of_mem (List.mem_filter.mpr ⟨?_, decide_eq_true (records_token mem)⟩)
    exact List.mem_flatMap.mpr ⟨j, there, mem⟩

variable [DecidableEq ι]

theorem remove_devices {r : Registry} (devices : r.devices = here.flatMap f.records) (there : i ∈ here)
    (h : HeadEnd) :
    (r.removeDevices (f.config i) h).registry.devices = (here.filter (· ≠ i)).flatMap f.records := by
  rw [← filter_flatMap_ne (p := fun q => q.name ∉ r.namesWithToken (f.config i).accessToken), ← devices]
  · rfl
  · intro j _ q mem
    rw [decide_eq_decide, not_iff_not]
    exact mem_namesWithToken_iff devices there mem

theorem remove_inventory {r : Registry} (devices : r.devices = here.flatMap f.records) (there : i ∈ here)
    {h : HeadEnd} (inventory : h.inventory = (opened.flatMap f.records).map Record.item) :
    (r.removeDevices (f.config i) h).headEnd.inventory =
      ((opened.filter (· ≠ i)).flatMap f.records).map Record.item := by
  rw [← filter_flatMap_ne (p := fun q => q.name ∉ r.namesWithToken (f.config i).accessToken)]
  · rw [Registry.removeDevices, HeadEnd.unregisterAll_eq, inventory, List.filter_map]
    rfl
  · intro j _ q mem
    rw [decide_eq_decide, not_iff_not]
    exact mem_namesWithToken_iff devices there mem

theorem remove_tokens {r : Registry} (tokens : r.tokens = (here.map f.token).reverse) (h : HeadEnd) :
    (r.removeDevices (f.config i) h).registry.tokens = ((here.filter (· ≠ i)).map f.token).reverse := by
  simp only [Registry.removeDevices, Registry.forgetToken, Registry.drop, tokens]
  rw [List.filter_reverse, List.filter_map]
  congr 2
  apply List.filter_congr
  intro j _
  rw [Function.comp_apply, decide_eq_decide, not_iff_not]
  exact ⟨f.tokens j i, fun same => same ▸ rfl⟩

theorem Shares.left {h : Holding} (shares : f.Shares here h) (distinct : here.Nodup) (there : i ∈ here)
    (headEnd : HeadEnd) :
    f.Shares (here.filter (· ≠ i))
      { h with
        references := h.references - 1
        registry := (h.registry.removeDevices (f.config i) headEnd).registry } where
  references := by
    rw [length_filter_ne distinct there, ← shares.references]
  method j mem := shares.method j (List.mem_of_mem_filter mem)
  devices := remove_devices shares.devices there headEnd
  tokens := remove_tokens shares.tokens headEnd

/-! ### All ports -/

structure Holds (f : Family ι) (opened : List ι) (o : Overview) : Prop where
  running : o.running = true
  converters : o.converters = f.converters
  distinct : opened.Nodup
  inventory : o.headEnd.inventory = (opened.flatMap f.records).map Record.item
  numbers : ∀ n, n ∈ o.numbers ↔ f.sharing n opened ≠ []
  holdings : ∀ h ∈ o.bound, f.Shares (f.sharing h.number opened) h

def Agrees (f : Family ι) (opened : List ι) (i : ι) : Prop :=
  ∀ j ∈ opened, (f.config j).port = (f.config i).port → f.method j = f.method i

section Opening

omit [DecidableEq ι]

variable {o o' : Overview} {opened' : List ι} {number : Nat} {before after : List Holding} {h : Holding}

theorem mem_sharing_iff : i ∈ f.sharing number opened ↔ i ∈ opened ∧ (f.config i).port = number := by
  simp [sharing]

theorem sharing_snoc_self (opened : List ι) (i : ι) :
    f.sharing (f.config i).port (opened ++ [i]) = f.sharing (f.config i).port opened ++ [i] := by
  simp [sharing]

theorem sharing_snoc_other (opened : List ι) (i : ι) :
    ∀ n ≠ (f.config i).port, f.sharing n (opened ++ [i]) = f.sharing n opened := by
  intro n other
  simp [sharing, other.symm]

theorem Holds.numbers_of (holds : f.Holds opened o) (numbers : List Nat)
    (elsewhere : ∀ n ≠ number, f.sharing n opened' = f.sharing n opened)
    (others : ∀ n ≠ number, (n ∈ numbers ↔ n ∈ o.numbers))
    (here : number ∈ numbers ↔ f.sharing number opened' ≠ []) (n : Nat) :
    n ∈ numbers ↔ f.sharing n opened' ≠ [] := by
  by_cases same : n = number
  · rw [same]
    exact here
  · rw [others n same, elsewhere n same]
    exact holds.numbers n

theorem Holds.elsewhere (holds : f.Holds opened o) (at_port : h.number = number)
    (elsewhere : ∀ n ≠ number, f.sharing n opened' = f.sharing n opened) :
    ∀ q ∈ o.bound, q.number ≠ h.number → f.Shares (f.sharing q.number opened') q := by
  intro q mem other
  rw [elsewhere q.number (at_port ▸ other)]
  exact holds.holdings q mem

theorem Holds.shares (holds : f.Holds opened o) (held : o.bound = before ++ h :: after)
    (at_port : h.number = number) : f.Shares (f.sharing number opened) h := by
  rw [← at_port]
  apply holds.holdings
  rw [held]
  exact List.mem_append_cons_self

/-- Only a port with another method refuses a connector of the family. -/
theorem Holds.refusal {e : GatewayError} {now : Nat} (holds : f.Holds opened o)
    (why : Service.Refusal o (.add (f.config i) true now) e) : ¬ f.Agrees opened i := by
  have readable := f.readable i
  cases why with
  | closed stopped =>
    rw [holds.running] at stopped
    cases stopped
  | unreadable unreadable =>
    rw [readable] at unreadable
    cases unreadable
  | unequipped unequipped =>
    rw [holds.converters, f.equipped] at unequipped
    cases unequipped
  | @clash _ _ _ method h mem at_port format other =>
    rw [readable] at format
    cases format
    intro agrees
    have listed := (holds.numbers h.number).mp (List.mem_map_of_mem mem)
    obtain ⟨j, sharing⟩ := List.exists_mem_of_ne_nil _ listed
    obtain ⟨there, same⟩ := mem_sharing_iff.mp sharing
    have shared := (holds.holdings h mem).method j sharing
    exact other (shared.symm.trans (agrees j there (same.trans at_port)))

theorem Holds.agrees_of_free (holds : f.Holds opened o) (free : (f.config i).port ∉ o.numbers) :
    f.Agrees opened i := by
  intro j there same
  have sharing : j ∈ f.sharing (f.config i).port opened := mem_sharing_iff.mpr ⟨there, same⟩
  exact absurd ((holds.numbers _).mpr (List.ne_nil_of_mem sharing)) free

theorem Holds.opens {result : Except GatewayError Unit} {now : Nat} (holds : f.Holds opened o)
    (sound : Service.Sound o) (closed : i ∉ opened)
    (step : Service.Step o (.add (f.config i) true now) result o') :
    (result = .ok () ∧ f.Agrees opened i ∧ f.Holds (opened ++ [i]) o') ∨
      (∃ e, result = .error e) ∧ ¬ f.Agrees opened i ∧ o' = o := by
  have readable := f.readable i
  have equipped := f.equipped i
  rw [← holds.converters] at equipped
  have distinct : (opened ++ [i]).Nodup := by
    rw [← List.concat_eq_append, List.nodup_concat]
    exact ⟨closed, holds.distinct⟩
  have elsewhere := f.sharing_snoc_other opened i
  have here := f.sharing_snoc_self opened i
  cases step with
  | refused why => exact .inr ⟨⟨_, rfl⟩, holds.refusal why, rfl⟩
  | @bound _ _ method c _ running format free known installs =>
    rw [readable] at format
    rw [equipped] at known
    cases format
    cases known
    subst installs
    have alone : f.sharing (f.config i).port opened = [] := by
      rwa [holds.numbers, ne_eq, Decidable.not_not] at free
    refine .inl ⟨rfl, holds.agrees_of_free free, running, holds.converters, distinct, ?_, ?_, ?_⟩
    · exact install_inventory closed (List.nil_subset _) rfl holds.inventory
    · apply holds.numbers_of _ elsewhere
      · intro n other
        simp [Overview.numbers, other]
      · simp [Overview.numbers, here]
    · intro h mem
      cases List.mem_append.mp mem with
      | inl before =>
        have other : h.number ≠ (f.config i).port := fun same => free (same ▸ List.mem_map_of_mem before)
        rw [elsewhere h.number other]
        exact holds.holdings h before
      | inr new =>
        rw [List.mem_singleton.mp new, here, alone]
        refine ⟨rfl, ?_, ?_, ?_⟩
        · simp
        · exact install_devices closed (List.nil_subset _) rfl holds.inventory
        · exact install_tokens List.not_mem_nil rfl o.headEnd
  | @joined _ _ _ before h after c _ running held at_port format known installs =>
    rw [readable] at format
    rw [equipped] at known
    cases known
    subst installs
    have method : f.method i = h.method := Except.ok.inj format
    have shares := holds.shares held at_port
    have inside : f.sharing (f.config i).port opened ⊆ opened := List.filter_sublist.subset
    obtain ⟨joined, inventory⟩ := shares.joined closed inside method holds.inventory
    rw [← here] at joined
    refine .inl ⟨rfl, ?_, running, holds.converters, distinct, inventory, ?_, ?_⟩
    · intro j there same
      exact (shares.method j (mem_sharing_iff.mpr ⟨there, same⟩)).trans method.symm
    · apply holds.numbers_of _ elsewhere
      · simp [Overview.numbers, held]
      · simp [Overview.numbers, here, at_port]
    · rw [← at_port] at joined
      exact sound.forall_replaced held joined (holds.elsewhere at_port elsewhere)

end Opening

theorem sharing_filter_self (opened : List ι) (i : ι) :
    f.sharing (f.config i).port (opened.filter (· ≠ i)) =
      (f.sharing (f.config i).port opened).filter (· ≠ i) := by
  rw [sharing, sharing, List.filter_comm]

theorem sharing_filter_other (opened : List ι) (i : ι) :
    ∀ n ≠ (f.config i).port, f.sharing n (opened.filter (· ≠ i)) = f.sharing n opened := by
  intro n other
  rw [sharing, sharing, List.filter_comm, List.filter_eq_self]
  intro j mem
  apply decide_eq_true
  rintro rfl
  exact other (of_decide_eq_true (List.mem_filter.mp mem).2).symm

theorem Holds.closes {o o' : Overview} {result : Except GatewayError Unit} (holds : f.Holds opened o)
    (sound : Service.Sound o) (there : i ∈ opened)
    (step : Service.Step o (.remove (f.config i).port (f.config i)) result o') :
    result = .ok () ∧ f.Holds (opened.filter (· ≠ i)) o' := by
  have distinct := holds.distinct.filter (· ≠ i)
  have mine : i ∈ f.sharing (f.config i).port opened := mem_sharing_iff.mpr ⟨there, rfl⟩
  have sharing_distinct := holds.distinct.filter fun j => (f.config j).port = (f.config i).port
  have elsewhere := f.sharing_filter_other opened i
  have here := f.sharing_filter_self opened i
  cases step with
  | refused why =>
    cases why with
    | closed stopped =>
      rw [holds.running] at stopped
      cases stopped
    | unbound unbound => exact absurd ((holds.numbers _).mpr (List.ne_nil_of_mem mine)) unbound
  | @released _ _ before h after _ running held at_port more removes =>
    subst removes
    have shares := holds.shares held at_port
    have left := shares.left sharing_distinct mine o.headEnd
    rw [← here] at left
    refine ⟨rfl, running, holds.converters, distinct, ?_, ?_, ?_⟩
    · exact remove_inventory shares.devices mine holds.inventory
    · apply holds.numbers_of _ elsewhere
      · simp [Overview.numbers, held]
      · rw [← List.length_pos_iff, ← left.references]
        simp [Overview.numbers, at_port, Nat.pos_iff_ne_zero.mpr more]
    · rw [← at_port] at left
      exact sound.forall_replaced held left (holds.elsewhere at_port elsewhere)
  | @stopped _ _ before h after _ running held at_port last removes =>
    subst removes
    have shares := holds.shares held at_port
    have left := shares.left sharing_distinct mine o.headEnd
    rw [← here] at left
    refine ⟨rfl, running, holds.converters, distinct, ?_, ?_, ?_⟩
    · exact remove_inventory shares.devices mine holds.inventory
    · apply holds.numbers_of _ elsewhere
      · intro n other
        have apart : n ≠ h.number := at_port ▸ other
        simp [Overview.numbers, held, apart]
      · have nobody : f.sharing (f.config i).port (opened.filter (· ≠ i)) = [] :=
          List.eq_nil_of_length_eq_zero (left.references.symm.trans last)
        have gone : (f.config i).port ∉ (before ++ after).map Holding.number := by
          intro listed
          obtain ⟨q, mem, same⟩ := List.mem_map.mp listed
          exact sound.others_number held q mem (same.trans at_port.symm)
        simp only [nobody, ne_eq, not_true_eq_false, iff_false]
        exact gone
    · exact sound.forall_others held (holds.elsewhere at_port elsewhere)

end Family

end MeterGateway
