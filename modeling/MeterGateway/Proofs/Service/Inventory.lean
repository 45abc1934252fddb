import MeterGateway.Proofs.Service.Turns

/-!
What becomes of the inventory when ports are stopped.  Ports that are bound and ports that were
stopped account for all of it.  A stop by itself takes nothing out: of the devices of a port that is
stopped only those of the connector that was closed with it go, and a device that is left keeps its
name taken, so a port that is bound later cannot have it.
-/

namespace MeterGateway

namespace Service

def Call.stops (s : Service) : Call → List Binding
  | .remove number _ =>
    if s.running then s.bindings.filter fun b => b.number = number && b.references ≤ 1 else []
  | .clear | .shutDown => if s.running then s.bindings else []
  | .add .. | .traffic .. => []

def Call.releases (r : Record) : Call → Bool
  | .remove _ config => r.token = config.accessToken
  | _ => false

variable {s : Service} {b : Binding}

theorem accounted (sound : Sound s.overview) :
    Accounted (s.ports.map fun b => b.port.registry) s.headEnd := by
  obtain ⟨inventory, names⟩ := sound.filed.accounted
  refine ⟨?_, names⟩
  rw [Overview.ports, overview, ← List.map_append, List.map_map, List.flatMap_map] at inventory
  rw [List.flatMap_map]
  simpa [Binding.holding, ports] using inventory

theorem mem_stops_iff {number : Nat} {config : ListenConfig} :
    b ∈ (Call.remove number config).stops s ↔
      s.running = true ∧ b ∈ s.bindings ∧ b.number = number ∧ b.references ≤ 1 := by
  unfold Call.stops
  split <;> simp_all

theorem binding?_eq_some_of_mem (sound : Sound s.overview) (mem : b ∈ s.bindings) :
    s.binding? b.number = some b := by
  have distinct := sound.numbers
  rw [overview_numbers] at distinct
  cases found : s.binding? b.number with
  | none =>
    have unbound := binding?_eq_none_iff.mp found
    rw [overview_numbers] at unbound
    exact absurd (List.mem_map_of_mem mem) unbound
  | some other =>
    obtain ⟨there, named⟩ := binding?_eq_some found
    rw [List.inj_on_of_nodup_map distinct there mem named]

theorem removeListen_last {number : Nat} (running : s.running = true)
    (found : s.binding? number = some b) (last : b.references ≤ 1) (config : ListenConfig) :
    (s.removeListen number config).2 =
      { s with headEnd := (b.port.removeDevices config s.headEnd).2 }.retire
        { b with port := (b.port.removeDevices config s.headEnd).1, references := b.references - 1 } := by
  have none_left : b.references - 1 = 0 := by omega
  simp only [removeListen, running, found, none_left, Bool.not_true, Bool.false_eq_true, if_false,
    if_true]

theorem retireAll_names (s : Service) : s.retireAll.headEnd.names = s.headEnd.names :=
  congrArg (fun o => o.headEnd.names) (overview_retireAll s)

theorem retireAll_bindings (s : Service) : s.retireAll.bindings = [] :=
  List.map_eq_nil_iff.mp (congrArg Overview.bound (overview_retireAll s))

theorem mem_stops_of_clear (stops : b ∈ Call.clear.stops s) : s.running = true ∧ b ∈ s.bindings := by
  unfold Call.stops at stops
  simp only at stops
  split at stops
  · exact ⟨‹_›, stops⟩
  · cases stops

theorem stopped_isListening (sound : Sound s.overview) {c : Call} (stops : b ∈ c.stops s) :
    (s.turn c).2.isListening b.number = false := by
  cases c with
  | remove number config =>
    obtain ⟨running, mem, rfl, last⟩ := mem_stops_iff.mp stops
    rw [turn, removeListen_last running (binding?_eq_some_of_mem sound mem) last config]
    simp [isListening, binding?, retire]
  | clear =>
    obtain ⟨running, _⟩ := mem_stops_of_clear stops
    simp [turn, clear, running, isListening, binding?, retireAll_bindings]
  | shutDown =>
    obtain ⟨running, _⟩ := mem_stops_of_clear stops
    simp [turn, shutDown, running, isListening, binding?, retireAll_bindings]
  | add | traffic => cases stops

/-- A device stays registered when its port is stopped, unless the call releases it. -/
theorem stopped_isRegistered (sound : Sound s.overview) {c : Call} (stops : b ∈ c.stops s) {r : Record}
    (held : r ∈ b.port.registry.devices) :
    (s.turn c).2.headEnd.isRegistered r.name = !c.releases r := by
  have registered : b ∈ s.bindings → r.name ∈ s.headEnd.names := by
    intro mem
    have filed : b.port.registry ∈ s.ports.map fun b => b.port.registry :=
      List.mem_map_of_mem (List.mem_append_left _ mem)
    exact (accounted sound).names_subset filed (List.mem_map_of_mem held)
  rw [Bool.eq_iff_iff, HeadEnd.isRegistered_iff, Bool.not_eq_true']
  cases c with
  | remove number config =>
    obtain ⟨running, mem, rfl, last⟩ := mem_stops_iff.mp stops
    have distinct : b.port.registry.names.Nodup :=
      (accounted sound).distinct (List.mem_map_of_mem (List.mem_append_left _ mem))
    have token := Registry.mem_namesWithToken_iff distinct held config.accessToken
    rw [turn, removeListen_last running (binding?_eq_some_of_mem sound mem) last config]
    -- stopping the port adds nothing to what the removal did to the inventory
    change r.name ∈ (s.headEnd.unregisterAll _).names ↔ _
    rw [HeadEnd.mem_unregisterAll_names, token]
    simp [Call.releases, registered mem]
  | clear =>
    obtain ⟨running, mem⟩ := mem_stops_of_clear stops
    simp [turn, clear, running, retireAll_names, Call.releases, registered mem]
  | shutDown =>
    obtain ⟨running, mem⟩ := mem_stops_of_clear stops
    have names : (s.turn .shutDown).2.headEnd.names = s.headEnd.names := by
      simp only [turn, shutDown, running, Bool.not_true, Bool.false_eq_true, if_false]
      exact s.retireAll_names
    simp [names, Call.releases, registered mem]
  | add | traffic => cases stops

theorem bound_isHeld {config : ListenConfig} {method : FrameMethod} {c : Uplink × Downlink}
    (running : s.running = true) (format : config.frameMethod = .ok method)
    (free : s.isListening config.port = false) (known : s.converters.select config = .ok c) (now : Nat) :
    (s.addListen config true now).1 = .ok () ∧
      ∃ b, (s.addListen config true now).2.binding? config.port = some b ∧
        ∀ d ∈ config.devices,
          b.port.registry.isHeld d.deviceName = !s.headEnd.isRegistered d.deviceName := by
  have unbound : s.binding? config.port = none := by
    simpa [isListening] using free
  obtain ⟨port, added, stock⟩ := Port.addDevices_ok s.headEnd now known
    (p := { method, timeout := s.timeout, registry := { converters := s.converters } })
  have bound : s.addListen config true now =
      (.ok (), { s with
        headEnd := (Registry.install { converters := s.converters } config s.headEnd c).headEnd
        bindings := s.bindings ++ [{ serial := s.nextSerial, number := config.port, port }]
        nextSerial := s.nextSerial + 1 }) := by
    simp [addListen, running, format, unbound, bind, added]
  rw [bound]
  refine ⟨rfl, { serial := s.nextSerial, number := config.port, port }, ?_, ?_⟩
  · have nobody : s.bindings.find? (·.number = config.port) = none := unbound
    simp [binding?, nobody]
  · intro d mem
    have names := congrArg (fun m => m.2.names) stock
    simp only [Port.stock, Registry.lasting_names] at names
    rw [Bool.eq_iff_iff, Registry.isHeld_iff, Bool.not_eq_true', names, Registry.mem_install_names,
      ← Bool.not_eq_true, HeadEnd.isRegistered_iff]
    simp [Registry.names, List.mem_map_of_mem mem]

theorem inventory_perm_bound_iff (sound : Sound s.overview) :
    s.headEnd.inventory.Perm (s.bindings.flatMap fun b => b.port.registry.items) ↔
      ∀ b ∈ s.retired, b.port.registry.devices = [] := by
  have all := (accounted sound).inventory
  rw [List.flatMap_map, ports, List.flatMap_append] at all
  have nothing_left : (s.retired.flatMap fun b => b.port.registry.items) = [] ↔
      ∀ b ∈ s.retired, b.port.registry.devices = [] := by
    simp [List.flatMap_eq_nil_iff, Registry.items]
  rw [← nothing_left]
  constructor
  · intro bound
    have lengths := (bound.symm.trans all).length_eq
    rw [List.length_append] at lengths
    exact List.eq_nil_of_length_eq_zero (by omega)
  · intro none_left
    rw [none_left, List.append_nil] at all
    exact all

theorem ports_account_for_inventory (timeout : Nat) (converters : Converters) (calls : List Call) :
    let s := run timeout converters calls
    s.headEnd.inventory.Perm (s.ports.flatMap fun b => b.port.registry.items) ∧
    s.headEnd.names.Nodup ∧
    (s.headEnd.inventory.Perm (s.bindings.flatMap fun b => b.port.registry.items) ↔
      ∀ b ∈ s.retired, b.port.registry.devices = []) ∧
    (∀ c, ∀ b ∈ Call.stops s c, (s.turn c).2.isListening b.number = false ∧
      ∀ r ∈ b.port.registry.devices,
        (s.turn c).2.headEnd.isRegistered r.name = !c.releases r) ∧
    (∀ config method equipment now, s.running = true → config.frameMethod = .ok method →
      s.isListening config.port = false → s.converters.select config = .ok equipment →
      (s.addListen config true now).1 = .ok () ∧
        ∃ b, (s.addListen config true now).2.binding? config.port = some b ∧
          ∀ d ∈ config.devices,
            b.port.registry.isHeld d.deviceName = !s.headEnd.isRegistered d.deviceName) := by
  intro s
  have sound := run_sound timeout converters calls
  have all := accounted sound
  refine ⟨?_, all.names, inventory_perm_bound_iff sound, ?_, ?_⟩
  · have inventory := all.inventory
    rwa [List.flatMap_map] at inventory
  · intro c b stops
    exact ⟨stopped_isListening sound stops, fun r held => stopped_isRegistered sound stops held⟩
  · intro config method equipment now running format free known
    exact bound_isHeld running format free known now

def kiosk : ListenConfig where
  port := 5000
  name := some "kiosk"
  accessToken := "k"
  devices := [{ deviceName := "meter", deviceType := "water" }, { deviceName := "valve" }]

theorem ports_account_for_inventory_kiosk :
    let s := run 100 .default [.add kiosk true 0]
    let t := (s.turn (.remove 5000 kiosk)).2
    (∃ b ∈ Call.stops s (.remove 5000 kiosk), ∃ r ∈ b.port.registry.devices, r.name = "valve") ∧
    t.isListening 5000 = false ∧ t.headEnd.isRegistered "valve" = false ∧
    ∃ b, (t.addListen kiosk true 1).2.binding? 5000 = some b ∧ b.port.registry.isHeld "valve" = true := by
  intro s t
  obtain ⟨_, _, _, stopped, _⟩ := ports_account_for_inventory 100 .default [.add kiosk true 0]
  obtain ⟨_, _, _, _, bound⟩ :=
    ports_account_for_inventory 100 .default [.add kiosk true 0, .remove 5000 kiosk]
  have found : ∃ b ∈ Call.stops s (.remove 5000 kiosk),
      ∃ r ∈ b.port.registry.devices, r.name = "valve" ∧ r.token = "k" := by
    refine ⟨_, .head _, _, .tail _ (.head _), rfl, rfl⟩
  obtain ⟨b, stops, r, held, name, token⟩ := found
  have gone : t.headEnd.isRegistered "valve" = false := by
    rw [← name, (stopped _ b stops).2 r held]
    simp [Call.releases, kiosk, token]
  obtain ⟨_, b', again, names⟩ := bound kiosk .meter (Uplink.bytes, Downlink.bytes) 1 rfl rfl rfl rfl
  refine ⟨⟨b, stops, r, held, name⟩, rfl, gone, b', again, ?_⟩
  rw [names { deviceName := "valve" } (.tail _ (.head _))]
  exact congrArg not gone

/-- Cleared, it leaves them in the inventory and cannot get them again. -/
theorem cleared_devices_are_lost :
    let s := run 100 .default [.add kiosk true 0, .clear]
    let t := (s.turn (.add kiosk true 1)).2
    s.bindings.length = 0 ∧ s.headEnd.names = ["meter", "valve"] ∧
    (s.turn (.add kiosk true 1)).1 = .ok () ∧ t.headEnd.names = ["meter", "valve"] ∧
    (t.binding? 5000).map (fun b => b.port.registry.names) = some [] ∧
    (t.binding? 5000).map (fun b => b.port.prepare ⟨"meter", 1, "open", .null⟩) =
      some (.error (.deviceNotFound "meter")) := by
  refine ⟨rfl, ?_, rfl, ?_, rfl, rfl⟩ <;> decide

end Service

end MeterGateway
