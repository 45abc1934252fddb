import MeterGateway.Proofs.Registry.Inventory
import MeterGateway.Proofs.Site.Traffic
import MeterGateway.Service

/-!
A listen service as its connectors see it: the ports, who holds them, their devices and tokens, and
the inventory.  `Step` says once what a call can do to this overview; traffic at the ports does
nothing to it.  What every step keeps is `Sound`.
-/

namespace MeterGateway

structure Holding where
  number : Nat
  serial : Nat
  references : Nat
  method : FrameMethod
  registry : Registry

def Binding.holding (b : Binding) : Holding where
  number := b.number
  serial := b.serial
  references := b.references
  method := b.port.method
  registry := b.port.registry.lasting

/-- Ports that were stopped are listed with the devices they still held. -/
structure Overview where
  running : Bool
  converters : Converters
  nextSerial : Nat
  bound : List Holding
  stopped : List Holding
  headEnd : HeadEnd

namespace Overview

def ports (o : Overview) : List Holding := o.bound ++ o.stopped

def numbers (o : Overview) : List Nat := o.bound.map Holding.number

end Overview

namespace Port

variable {p : Port} {config : ListenConfig} (h : HeadEnd) (now : Nat)

theorem addDevices_error {e : GatewayError} (missing : p.registry.converters.select config = .error e) :
    p.addDevices config h now = .error e := by
  rw [addDevices, Registry.addDevices_eq, missing]
  rfl

theorem addDevices_ok {c : Uplink × Downlink} (known : p.registry.converters.select config = .ok c) :
    ∃ p', p.addDevices config h now = .ok (p', (p.registry.install config h c).headEnd) ∧
      p'.stock = (p.method, (p.registry.install config h c).registry.lasting) := by
  refine ⟨({ p with registry := (p.registry.install config h c).registry } : Port).reschedule
    config.accessToken now, ?_, reschedule_stock _ _ _⟩
  rw [addDevices, Registry.addDevices_eq, known]
  rfl

theorem updateDevices_error {e : GatewayError}
    (missing : p.registry.converters.select config = .error e) :
    p.updateDevices config h now = .error e := by
  rw [updateDevices, Registry.updateDevices_eq, missing]
  rfl

theorem updateDevices_ok {c : Uplink × Downlink}
    (known : p.registry.converters.select config = .ok c) :
    let installed := (p.registry.drop (p.registry.stale config)).install config
      (h.unregisterAll (p.registry.stale config)) c
    ∃ p', p.updateDevices config h now = .ok (p', installed.headEnd) ∧
      p'.stock = (p.method, installed.registry.lasting) := by
  intro installed
  refine ⟨(({ p with registry := installed.registry } : Port).cancelDevices
    (p.registry.namesWithToken config.accessToken)).reschedule config.accessToken now, ?_,
    reschedule_stock _ _ _⟩
  rw [updateDevices, Registry.updateDevices_eq, known]
  rfl

end Port

namespace Service

inductive Call
  | add : ListenConfig → (free : Bool) → (now : Nat) → Call
  | remove : (number : Nat) → ListenConfig → Call
  | clear : Call
  | shutDown : Call
  | traffic : (serial now : Nat) → Action → Call

def turn (s : Service) : Call → Except GatewayError Unit × Service
  | .add config free now => s.addListen config free now
  | .remove number config => s.removeListen number config
  | .clear => s.clear
  | .shutDown => s.shutDown
  | .traffic serial now a => (.ok (), if a.isTraffic then (s.act serial now a).1 else s)

def overview (s : Service) : Overview where
  running := s.running
  converters := s.converters
  nextSerial := s.nextSerial
  bound := s.bindings.map Binding.holding
  stopped := s.retired.map Binding.holding
  headEnd := s.headEnd.lasting

inductive Refusal (o : Overview) : Call → GatewayError → Prop
  | closed {c} : o.running = false → Refusal o c .channelClosed
  | unreadable {config free now e} : config.frameMethod = .error e → Refusal o (.add config free now) e
  | clash {config free now method h} : h ∈ o.bound → h.number = config.port →
      config.frameMethod = .ok method → h.method ≠ method →
      Refusal o (.add config free now) (.config (.methodClash config.port h.method method))
  | busy {config now} : config.port ∉ o.numbers → Refusal o (.add config false now) .io
  | unequipped {config free now e} : o.converters.select config = .error e →
      Refusal o (.add config free now) e
  | unbound {number config} : number ∉ o.numbers → Refusal o (.remove number config) (.noListener number)

inductive Step (o : Overview) : Call → Except GatewayError Unit → Overview → Prop
  | refused {c e} : Refusal o c e → Step o c (.error e) o
  | bound {config now method c i} : o.running = true → config.frameMethod = .ok method →
      config.port ∉ o.numbers → o.converters.select config = .ok c →
      Registry.install { converters := o.converters } config o.headEnd c = i →
      Step o (.add config true now) (.ok ())
        { o with
          nextSerial := o.nextSerial + 1
          bound := o.bound ++ [⟨config.port, o.nextSerial, 1, method, i.registry⟩]
          headEnd := i.headEnd }
  | joined {config free now before h after c i} : o.running = true →
      o.bound = before ++ h :: after → h.number = config.port →
      config.frameMethod = .ok h.method → o.converters.select config = .ok c →
      (h.registry.drop (h.registry.stale config)).install config
        (o.headEnd.unregisterAll (h.registry.stale config)) c = i →
      Step o (.add config free now) (.ok ())
        { o with
          bound := before ++ { h with references := h.references + 1, registry := i.registry } :: after
          headEnd := i.headEnd }
  | released {number config before h after i} : o.running = true →
      o.bound = before ++ h :: after → h.number = number → h.references - 1 ≠ 0 →
      h.registry.removeDevices config o.headEnd = i →
      Step o (.remove number config) (.ok ())
        { o with
          bound := before ++ { h with references := h.references - 1, registry := i.registry } :: after
          headEnd := i.headEnd }
  | stopped {number config before h after i} : o.running = true →
      o.bound = before ++ h :: after → h.number = number → h.references - 1 = 0 →
      h.registry.removeDevices config o.headEnd = i →
      Step o (.remove number config) (.ok ())
        { o with
          bound := before ++ after
          stopped := o.stopped ++ [{ h with references := h.references - 1, registry := i.registry }]
          headEnd := i.headEnd }
  | cleared : o.running = true →
      Step o .clear (.ok ()) { o with bound := [], stopped := o.stopped ++ o.bound }
  | shut : o.running = true →
      Step o .shutDown (.ok ())
        { o with running := false, bound := [], stopped := o.stopped ++ o.bound }
  | traffic {serial now a} : Step o (.traffic serial now a) (.ok ()) o

/-- Ports are told apart by their serial numbers, also the ones that were stopped. -/
structure Filed (ports : List Holding) (nextSerial : Nat) (converters : Converters) (h : HeadEnd) :
    Prop where
  serials : (ports.map Holding.serial).Nodup
  fresh : ∀ p ∈ ports, p.serial < nextSerial
  converters : ∀ p ∈ ports, p.registry.converters = converters
  accounted : Accounted (ports.map Holding.registry) h

namespace Filed

variable {ports others : List Holding} {p p' : Holding} {nextSerial : Nat} {converters : Converters}
  {h h' : HeadEnd}

theorem perm (f : Filed ports nextSerial converters h) {ports' : List Holding}
    (same : ports.Perm ports') : Filed ports' nextSerial converters h where
  serials := (same.map Holding.serial).nodup_iff.mp f.serials
  fresh p mem := f.fresh p (same.mem_iff.mpr mem)
  converters p mem := f.converters p (same.mem_iff.mpr mem)
  accounted := f.accounted.perm (same.map Holding.registry)

theorem add (f : Filed ports nextSerial converters h) (serial : p.serial = nextSerial)
    (equipped : p.registry.converters = converters)
    (accounted : Accounted (p.registry :: ports.map Holding.registry) h') :
    Filed (p :: ports) (nextSerial + 1) converters h' where
  serials := by
    rw [List.map_cons, List.nodup_cons]
    refine ⟨?_, f.serials⟩
    intro taken
    obtain ⟨q, mem, same⟩ := List.mem_map.mp taken
    have := f.fresh q mem
    omega
  fresh q mem := by
    cases mem with
    | head => omega
    | tail _ mem => exact Nat.lt_succ_of_lt (f.fresh q mem)
  converters q mem := by
    cases mem with
    | head => exact equipped
    | tail _ mem => exact f.converters q mem
  accounted := accounted

theorem replace (f : Filed (p :: others) nextSerial converters h) (serial : p'.serial = p.serial)
    (equipped : p'.registry.converters = p.registry.converters)
    (accounted : Accounted (p'.registry :: others.map Holding.registry) h') :
    Filed (p' :: others) nextSerial converters h' where
  serials := by
    rw [List.map_cons, serial]
    exact f.serials
  fresh q mem := by
    cases mem with
    | head => rw [serial]; exact f.fresh p (.head _)
    | tail _ mem => exact f.fresh q (.tail _ mem)
  converters q mem := by
    cases mem with
    | head => rw [equipped]; exact f.converters p (.head _)
    | tail _ mem => exact f.converters q (.tail _ mem)
  accounted := accounted

end Filed

structure Sound (o : Overview) : Prop where
  numbers : o.numbers.Nodup
  filed : Filed o.ports o.nextSerial o.converters o.headEnd

theorem Sound.front {o : Overview} (sound : Sound o) {before after : List Holding} {h : Holding}
    (held : o.bound = before ++ h :: after) :
    Filed (h :: (before ++ (after ++ o.stopped))) o.nextSerial o.converters o.headEnd := by
  have filed := sound.filed
  rw [Overview.ports, held, List.append_assoc, List.cons_append] at filed
  exact filed.perm List.perm_middle

section Split

variable {o : Overview} {before after : List Holding} {h h' : Holding} {P : Holding → Prop}

theorem Sound.others_number (sound : Sound o) (held : o.bound = before ++ h :: after) :
    ∀ q ∈ before ++ after, q.number ≠ h.number := by
  have numbers := sound.numbers
  rw [Overview.numbers, held, List.map_append, List.map_cons, List.nodup_middle, ← List.map_append,
    List.nodup_cons] at numbers
  intro q mem same
  exact numbers.1 (List.mem_map.mpr ⟨q, mem, same⟩)

theorem Sound.forall_others (sound : Sound o) (held : o.bound = before ++ h :: after)
    (others : ∀ q ∈ o.bound, q.number ≠ h.number → P q) : ∀ q ∈ before ++ after, P q := by
  intro q mem
  apply others q _ (sound.others_number held q mem)
  rw [held]
  exact List.perm_middle.mem_iff.mpr (.tail _ mem)

theorem Sound.forall_replaced (sound : Sound o) (held : o.bound = before ++ h :: after) (here : P h')
    (others : ∀ q ∈ o.bound, q.number ≠ h.number → P q) : ∀ q ∈ before ++ h' :: after, P q := by
  intro q mem
  cases List.perm_middle.mem_iff.mp mem with
  | head => exact here
  | tail _ other => exact sound.forall_others held others q other

end Split

theorem Sound.replace {o : Overview} (sound : Sound o) {before after : List Holding} {h h' : Holding}
    (held : o.bound = before ++ h :: after) {headEnd : HeadEnd} (number : h'.number = h.number)
    (serial : h'.serial = h.serial) (equipped : h'.registry.converters = h.registry.converters)
    (accounted : ∀ others, Accounted (h.registry :: others) o.headEnd →
      Accounted (h'.registry :: others) headEnd) :
    Sound { o with bound := before ++ h' :: after, headEnd } := by
  have front := sound.front held
  refine ⟨?_, ?_⟩
  · have numbers := sound.numbers
    rw [Overview.numbers, held] at numbers
    simpa [Overview.numbers, number] using numbers
  · rw [Overview.ports, List.append_assoc, List.cons_append]
    refine Filed.perm ?_ List.perm_middle.symm
    exact front.replace serial equipped (accounted _ front.accounted)

theorem Step.sound {o o' : Overview} {c : Call} {result : Except GatewayError Unit}
    (step : Step o c result o') (sound : Sound o) : Sound o' := by
  cases step with
  | refused | traffic => exact sound
  | @bound config _ method c i running format free equipped installs =>
    subst installs
    refine ⟨?_, ?_⟩
    · rw [Overview.numbers, List.map_append]
      refine List.nodup_append.mpr ⟨sound.numbers, List.nodup_singleton _, ?_⟩
      intro n held m new
      rw [List.map_singleton, List.mem_singleton] at new
      rintro rfl
      rw [new] at held
      exact free held
    · have empty := sound.filed.accounted.cons_empty (r := { converters := o.converters }) rfl
      have filed := sound.filed.add (p := ⟨config.port, o.nextSerial, 1, method, _⟩) rfl rfl
        (empty.install config c)
      refine filed.perm ?_
      simp only [Overview.ports, List.append_assoc, List.singleton_append]
      exact List.perm_middle.symm
  | @joined config _ _ before h after c i running held at_port format equipped installs =>
    subst installs
    exact sound.replace held rfl rfl rfl fun others accounted => accounted.update config c
  | @released number config before h after i running held at_port left removes =>
    subst removes
    exact sound.replace held rfl rfl rfl fun others accounted => accounted.remove config
  | @stopped number config before h after i running held at_port left removes =>
    subst removes
    refine ⟨?_, ?_⟩
    · have numbers := sound.numbers
      rw [Overview.numbers, held] at numbers
      refine numbers.sublist (List.Sublist.map _ ?_)
      exact (List.sublist_cons_self h after).append_left before
    · have front := sound.front held
      have filed : Filed ({ h with
          references := h.references - 1
          registry := (h.registry.removeDevices config o.headEnd).registry } ::
            (before ++ (after ++ o.stopped)))
          o.nextSerial o.converters (h.registry.removeDevices config o.headEnd).headEnd :=
        front.replace rfl rfl (front.accounted.remove config)
      refine filed.perm ?_
      rw [← List.append_assoc, Overview.ports, ← List.append_assoc]
      exact (List.perm_append_singleton _ _).symm
  | cleared | shut => exact ⟨List.nodup_nil, sound.filed.perm List.perm_append_comm⟩

end Service

end MeterGateway
