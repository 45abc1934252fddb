import Mathlib.Data.List.Induction
import MeterGateway.Proofs.Service.Overview

namespace MeterGateway

namespace Service

variable {s : Service} {number : Nat} {b : Binding} {config : ListenConfig}

theorem overview_numbers (s : Service) : s.overview.numbers = s.bindings.map Binding.number := by
  simp only [Overview.numbers, overview, List.map_map]
  rfl

theorem overview_serials (s : Service) :
    s.overview.ports.map Holding.serial = s.ports.map Binding.serial := by
  rw [Overview.ports, overview, ← List.map_append, List.map_map]
  rfl

theorem ports_serials (sound : Sound s.overview) : (s.ports.map Binding.serial).Nodup := by
  rw [← overview_serials]
  exact sound.filed.serials

theorem binding?_eq_none_iff : s.binding? number = none ↔ number ∉ s.overview.numbers := by
  simp [overview_numbers, binding?]

theorem isListening_iff : s.isListening number = true ↔ number ∈ s.overview.numbers := by
  rw [isListening, Option.isSome_iff_ne_none, ne_eq, binding?_eq_none_iff, not_not]

theorem binding?_eq_some (found : s.binding? number = some b) : b ∈ s.bindings ∧ b.number = number :=
  ⟨List.mem_of_find?_eq_some found, by simpa using List.find?_some found⟩

theorem binding?_split (distinct : s.overview.numbers.Nodup) (found : s.binding? number = some b) :
    b.number = number ∧ ∃ before after, s.bindings = before ++ b :: after ∧
      ∀ other ∈ before ++ after, other.number ≠ number := by
  obtain ⟨-, before, after, split, -⟩ := List.find?_eq_some_iff_append.mp found
  have named := (binding?_eq_some found).2
  refine ⟨named, before, after, split, ?_⟩
  rw [overview_numbers, split, List.map_append, List.map_cons] at distinct
  have apart := (List.nodup_middle.mp distinct)
  rw [← List.map_append, List.nodup_cons, named] at apart
  intro other mem same
  exact apart.1 (List.mem_map.mpr ⟨other, mem, same⟩)

theorem overview_split {before after : List Binding} (split : s.bindings = before ++ b :: after) :
    s.overview.bound = before.map Binding.holding ++ b.holding :: after.map Binding.holding := by
  rw [overview, split, List.map_append, List.map_cons]

theorem overview_putBinding {before after : List Binding} (split : s.bindings = before ++ b :: after)
    (others : ∀ other ∈ before ++ after, other.number ≠ b.number) (port : Port) (references : Nat)
    (headEnd : HeadEnd) :
    ({ s with headEnd }.putBinding { b with port, references }).overview =
      { s.overview with
        bound := before.map Binding.holding ++
          { b with port, references : Binding }.holding :: after.map Binding.holding
        headEnd := headEnd.lasting } := by
  have kept : ∀ bs : List Binding, (∀ other ∈ bs, other.number ≠ b.number) →
      bs.map (fun other =>
        if other.number = b.number then { b with port, references } else other) = bs := by
    intro bs apart
    rw [List.map_congr_left (g := id), List.map_id]
    intro other mem
    rw [if_neg (apart other mem)]
    rfl
  simp only [overview, putBinding, split, List.map_append, List.map_cons, if_true,
    kept before fun other mem => others other (List.mem_append_left _ mem),
    kept after fun other mem => others other (List.mem_append_right _ mem)]

theorem overview_retire {before after : List Binding} (split : s.bindings = before ++ b :: after)
    (others : ∀ other ∈ before ++ after, other.number ≠ b.number) (port : Port) (references : Nat)
    (headEnd : HeadEnd) :
    ({ s with headEnd }.retire { b with port, references }).overview =
      { s.overview with
        bound := before.map Binding.holding ++ after.map Binding.holding
        stopped := s.overview.stopped ++ [{ b with port, references : Binding }.holding]
        headEnd := headEnd.lasting } := by
  have kept : s.bindings.filter (·.number ≠ b.number) = before ++ after := by
    rw [split, List.filter_append, List.filter_cons_of_neg (by simp), ← List.filter_append]
    apply List.filter_eq_self.mpr
    intro other mem
    exact decide_eq_true (others other mem)
  simp only [overview, retire, kept, List.map_append]
  rfl

theorem holding_converters (sound : Sound s.overview) (mem : b ∈ s.bindings) :
    b.port.registry.converters = s.converters :=
  sound.filed.converters b.holding (List.mem_append_left _ (List.mem_map_of_mem mem))

theorem holding_eq {method : FrameMethod} {registry : Registry}
    (stock : b.port.stock = (method, registry)) :
    b.holding = ⟨b.number, b.serial, b.references, method, registry⟩ := by
  obtain ⟨method_eq, registry_eq⟩ := Prod.mk.inj stock
  rw [Binding.holding, method_eq, registry_eq]

theorem bind_step (running : s.running = true) {method : FrameMethod}
    (format : config.frameMethod = .ok method) (free : config.port ∉ s.overview.numbers)
    (bindable : Bool) (now : Nat) :
    Step s.overview (.add config bindable now) (s.bind method config bindable now).1
      (s.bind method config bindable now).2.overview := by
  unfold bind
  cases bindable with
  | false => exact .refused (.busy free)
  | true =>
    simp only [Bool.not_true, Bool.false_eq_true, if_false]
    cases known : s.converters.select config with
    | error e =>
      rw [Port.addDevices_error _ _ known]
      exact .refused (.unequipped known)
    | ok c =>
      obtain ⟨port, added, stock⟩ := Port.addDevices_ok s.headEnd now known
        (p := { method, timeout := s.timeout, registry := { converters := s.converters } })
      simp only [added]
      have installs := Registry.lasting_install { converters := s.converters } config s.headEnd c
      have holding := holding_eq (b := ⟨s.nextSerial, config.port, port, 1⟩) stock
      simp only [overview, List.map_append, List.map_cons, List.map_nil, holding]
      exact .bound (o := s.overview) running format free known installs.symm

theorem join_step (sound : Sound s.overview) (running : s.running = true) {method : FrameMethod}
    (format : config.frameMethod = .ok method) (found : s.binding? config.port = some b)
    (bindable : Bool) (now : Nat) :
    Step s.overview (.add config bindable now) (s.join b method config now).1
      (s.join b method config now).2.overview := by
  obtain ⟨named, before, after, split, others⟩ := binding?_split sound.numbers found
  have mem := (binding?_eq_some found).1
  have equipped := holding_converters sound mem
  unfold join
  split
  · rename_i clash
    rw [named]
    exact .refused (.clash (h := b.holding) (List.mem_map_of_mem mem) named format clash)
  · rename_i same
    rw [Decidable.not_not] at same
    cases known : b.port.registry.converters.select config with
    | error e =>
      rw [Port.updateDevices_error _ _ known]
      rw [equipped] at known
      exact .refused (.unequipped known)
    | ok c =>
      obtain ⟨port, updated, stock⟩ := Port.updateDevices_ok s.headEnd now known
      simp only [updated]
      have installs := b.port.registry.lasting_reinstall config s.headEnd c
      have holding := holding_eq (b := { b with port, references := b.references + 1 }) stock
      rw [overview_putBinding split (named.symm ▸ others), holding]
      rw [← same] at format
      rw [equipped] at known
      exact .joined running (overview_split split) named format known installs.symm

theorem addListen_step (sound : Sound s.overview) (config : ListenConfig) (bindable : Bool)
    (now : Nat) :
    Step s.overview (.add config bindable now) (s.addListen config bindable now).1
      (s.addListen config bindable now).2.overview := by
  unfold addListen
  cases running : s.running with
  | false => exact .refused (.closed running)
  | true =>
    simp only [Bool.not_true, Bool.false_eq_true, if_false]
    cases format : config.frameMethod with
    | error e => exact .refused (.unreadable format)
    | ok method =>
      cases found : s.binding? config.port with
      | none => exact bind_step running format (binding?_eq_none_iff.mp found) bindable now
      | some b => exact join_step sound running format found bindable now

theorem removeListen_step (sound : Sound s.overview) (number : Nat) (config : ListenConfig) :
    Step s.overview (.remove number config) (s.removeListen number config).1
      (s.removeListen number config).2.overview := by
  unfold removeListen
  split
  · rename_i closed
    rw [Bool.not_eq_true'] at closed
    exact .refused (.closed closed)
  rename_i opened
  rw [Bool.not_eq_true', Bool.not_eq_false] at opened
  cases found : s.binding? number with
  | none => exact .refused (.unbound (binding?_eq_none_iff.mp found))
  | some b =>
    obtain ⟨named, before, after, split, others⟩ := binding?_split sound.numbers found
    have removes := b.port.registry.lasting_removeDevices config s.headEnd
    have holding := holding_eq (b := { b with
      port := (b.port.removeDevices config s.headEnd).1
      references := b.references - 1 }) rfl
    simp only
    split
    · rename_i last
      rw [overview_retire split (named.symm ▸ others), holding]
      exact .stopped opened (overview_split split) named last removes.symm
    · rename_i more
      rw [overview_putBinding split (named.symm ▸ others), holding]
      exact .released opened (overview_split split) named more removes.symm

theorem overview_retireAll (s : Service) :
    s.retireAll.overview =
      { s.overview with bound := [], stopped := s.overview.stopped ++ s.overview.bound } := by
  -- each port is stopped in turn, whichever ports are left by then
  have each : ∀ (bs : List Binding) (s : Service),
      (bs.foldl retire s).overview =
        { s.overview with
          bound := (s.bindings.filter (·.number ∉ bs.map Binding.number)).map Binding.holding
          stopped := s.overview.stopped ++ bs.map Binding.holding } := by
    intro bs
    induction bs with
    | nil => simp [overview]
    | cons b bs ih =>
      intro s
      have left : (s.bindings.filter (·.number ≠ b.number)).filter (·.number ∉ bs.map Binding.number) =
          s.bindings.filter (·.number ∉ (b :: bs).map Binding.number) := by
        rw [List.filter_filter, List.map_cons]
        apply List.filter_congr
        intro other _
        simp [not_or, Bool.and_comm]
      rw [List.foldl_cons, ih]
      simp only [overview, retire, left, List.map_append, List.append_assoc]
      rfl
  rw [retireAll, each]
  have none_left : s.bindings.filter (·.number ∉ s.bindings.map Binding.number) = [] := by
    apply List.filter_eq_nil_iff.mpr
    intro b mem
    simpa using ⟨b, mem, rfl⟩
  rw [none_left]
  rfl

theorem clear_step (s : Service) : Step s.overview .clear s.clear.1 s.clear.2.overview := by
  unfold clear
  cases running : s.running with
  | false => exact .refused (.closed running)
  | true =>
    simp only [Bool.not_true, Bool.false_eq_true, if_false, overview_retireAll]
    exact .cleared running

theorem shutDown_step (s : Service) : Step s.overview .shutDown s.shutDown.1 s.shutDown.2.overview := by
  unfold shutDown
  cases running : s.running with
  | false => exact .refused (.closed running)
  | true =>
    have given_up := congrArg (fun o => ({ o with running := false } : Overview)) (overview_retireAll s)
    have shut := Step.shut (o := s.overview) running
    rw [← given_up] at shut
    exact shut

/-- What goes on at one port shows at no other, since no other has its serial number. -/
theorem act_overview (sound : Sound s.overview) (serial now : Nat) {a : Action}
    (traffic : a.isTraffic = true) : (s.act serial now a).1.overview = s.overview := by
  unfold act
  cases found : s.ports.find? (·.serial = serial) with
  | none => rfl
  | some b =>
    have mem : b ∈ s.ports := List.mem_of_find?_eq_some found
    have named : b.serial = serial := by simpa using List.find?_some found
    have filed : b.holding ∈ s.overview.ports := by
      rw [Overview.ports, overview, ← List.map_append]
      exact List.mem_map_of_mem mem
    have distinct : b.port.registry.names.Nodup := by
      rw [← Registry.lasting_names]
      exact sound.filed.accounted.distinct (List.mem_map_of_mem filed)
    have stock := Site.traffic_stock (s := s.site b) distinct now traffic
    -- bound and stopped ports alike: only the one that acted is put back
    have kept : ∀ bs ⊆ s.ports,
        (bs.map fun other =>
          if other.serial = serial then { other with port := ((s.site b).act now a).port }
          else other).map Binding.holding = bs.map Binding.holding := by
      intro bs inside
      rw [List.map_map]
      apply List.map_congr_left
      intro other there
      by_cases same : other.serial = serial
      · have only : other = b :=
          List.inj_on_of_nodup_map (ports_serials sound) (inside there) mem (same.trans named.symm)
        have here : ((s.site b).act now a).port.stock = b.port.stock := congrArg Prod.fst stock
        rw [Function.comp_apply, if_pos same, only]
        exact holding_eq (b := { b with port := ((s.site b).act now a).port }) here
      · simp only [Function.comp_apply, if_neg same]
    simp only [overview, kept _ (List.subset_append_left _ _), kept _ (List.subset_append_right _ _)]
    exact congrArg (fun h => ({ s.overview with headEnd := h } : Overview)) (congrArg Prod.snd stock)

theorem traffic_overview (sound : Sound s.overview) (serial now : Nat) (a : Action) :
    (s.turn (.traffic serial now a)).2.overview = s.overview := by
  unfold turn
  simp only
  split
  · rename_i traffic
    exact act_overview sound serial now traffic
  · rfl

theorem turn_step (sound : Sound s.overview) (c : Call) :
    Step s.overview c (s.turn c).1 (s.turn c).2.overview := by
  cases c with
  | add config bindable now => exact addListen_step sound config bindable now
  | remove number config => exact removeListen_step sound number config
  | clear => exact clear_step s
  | shutDown => exact shutDown_step s
  | traffic serial now a =>
    rw [traffic_overview sound]
    exact .traffic

/-! ### Runs -/

def run (timeout : Nat) (converters : Converters) (calls : List Call) : Service :=
  calls.foldl (fun s c => (s.turn c).2) { timeout, converters }

@[simp] theorem run_snoc (timeout : Nat) (converters : Converters) (calls : List Call) (c : Call) :
    run timeout converters (calls ++ [c]) = ((run timeout converters calls).turn c).2 := by
  simp [run]

theorem run_sound (timeout : Nat) (converters : Converters) (calls : List Call) :
    Sound (run timeout converters calls).overview := by
  induction calls using List.reverseRecOn with
  | nil => exact ⟨List.nodup_nil, ⟨List.nodup_nil, nofun, nofun, .new⟩⟩
  | append_singleton calls c ih =>
    rw [run_snoc]
    exact (turn_step ih c).sound ih

end Service

end MeterGateway
