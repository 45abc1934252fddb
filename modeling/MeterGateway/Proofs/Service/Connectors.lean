import Mathlib.Data.Multiset.Bind
import Mathlib.Data.Finset.Card
import MeterGateway.Proofs.Service.Family

namespace MeterGateway

/-- What is to be seen of a port: devices without the values they last reported, and the tokens with
the connectors they belong to. -/
structure PortView where
  references : Nat
  devices : Multiset Record
  tokens : Multiset (String × String)

structure ServiceView where
  port : Nat → Option PortView
  inventory : Multiset InventoryItem

def Service.view (s : Service) : ServiceView where
  port number := (s.binding? number).map fun b =>
    { references := b.references
      devices := b.port.registry.lasting.devices
      tokens := b.port.registry.tokens }
  inventory := s.headEnd.inventory

namespace Family

variable {ι : Type*} [DecidableEq ι] {f : Family ι} {i : ι}

def view (f : Family ι) (opened : Finset ι) : ServiceView where
  port number :=
    let here := opened.filter fun i => (f.config i).port = number
    if here = ∅ then none
    else
      some
        { references := here.card
          devices := here.val.bind fun i => (f.records i : Multiset Record)
          tokens := here.val.map f.token }
  inventory := opened.val.bind fun i => ((f.records i).map Record.item : Multiset InventoryItem)

structure Operation (ι : Type*) where
  service : Service
  opened : List ι := []

inductive Move (ι : Type*)
  | opens : ι → (now : Nat) → Move ι
  | closes : ι → Move ι
  | traffic : (serial now : Nat) → Action → Move ι

def turn (f : Family ι) (s : Operation ι) : Move ι → Operation ι
  | .opens i now =>
    if i ∈ s.opened then s
    else
      match s.service.addListen (f.config i) true now with
      | (.ok (), service) => ⟨service, s.opened ++ [i]⟩
      | (.error _, service) => ⟨service, s.opened⟩
  | .closes i =>
    if i ∈ s.opened then
      ⟨(s.service.removeListen (f.config i).port (f.config i)).2, s.opened.filter (· ≠ i)⟩
    else s
  | .traffic serial now a => ⟨(s.service.turn (.traffic serial now a)).2, s.opened⟩

def run (f : Family ι) (timeout : Nat) (moves : List (Move ι)) : Operation ι :=
  moves.foldl f.turn { service := { timeout, converters := f.converters } }

structure Kept (f : Family ι) (s : Operation ι) : Prop where
  sound : Service.Sound s.service.overview
  holds : f.Holds s.opened s.service.overview

omit [DecidableEq ι] in
theorem Kept.opening {s : Operation ι} (kept : f.Kept s) (closed : i ∉ s.opened) (now : Nat) :
    ((s.service.addListen (f.config i) true now).1 = .ok () ∧ f.Agrees s.opened i ∧
        f.Holds (s.opened ++ [i]) (s.service.addListen (f.config i) true now).2.overview) ∨
      (∃ e, (s.service.addListen (f.config i) true now).1 = .error e) ∧ ¬ f.Agrees s.opened i ∧
        (s.service.addListen (f.config i) true now).2.overview = s.service.overview :=
  kept.holds.opens kept.sound closed (Service.addListen_step kept.sound (f.config i) true now)

theorem Kept.closing {s : Operation ι} (kept : f.Kept s) (there : i ∈ s.opened) :
    (s.service.removeListen (f.config i).port (f.config i)).1 = .ok () ∧
      f.Holds (s.opened.filter (· ≠ i))
        (s.service.removeListen (f.config i).port (f.config i)).2.overview :=
  kept.holds.closes kept.sound there (Service.removeListen_step kept.sound _ (f.config i))

theorem turn_kept {s : Operation ι} (kept : f.Kept s) (m : Move ι) : f.Kept (f.turn s m) := by
  cases m with
  | opens i now =>
    have step := Service.addListen_step kept.sound (f.config i) true now
    unfold turn
    simp only
    split
    · exact kept
    rename_i closed
    have opening := kept.opening closed now
    generalize s.service.addListen (f.config i) true now = answer at step opening
    obtain ⟨result, service⟩ := answer
    cases result with
    | ok _ =>
      obtain ⟨_, _, holds⟩ | ⟨⟨e, refused⟩, _⟩ := opening
      · exact ⟨step.sound kept.sound, holds⟩
      · cases refused
    | error e =>
      obtain ⟨accepted, _⟩ | ⟨_, _, same⟩ := opening
      · cases accepted
      · exact ⟨step.sound kept.sound, same.symm ▸ kept.holds⟩
  | closes i =>
    have step := Service.removeListen_step kept.sound (f.config i).port (f.config i)
    unfold turn
    simp only
    split
    · rename_i there
      exact ⟨step.sound kept.sound, (kept.closing there).2⟩
    · exact kept
  | traffic serial now a =>
    have step := Service.turn_step kept.sound (.traffic serial now a)
    unfold turn
    simp only
    exact ⟨step.sound kept.sound, (Service.traffic_overview kept.sound serial now a).symm ▸ kept.holds⟩

theorem run_kept (f : Family ι) (timeout : Nat) (moves : List (Move ι)) :
    f.Kept (f.run timeout moves) := by
  induction moves using List.reverseRecOn with
  | nil =>
    refine ⟨Service.run_sound timeout f.converters [], rfl, rfl, List.nodup_nil, rfl, ?_, nofun⟩
    simp [run, Overview.numbers, Service.overview, sharing]
  | append_singleton moves m ih =>
    rw [run, List.foldl_append]
    exact turn_kept ih m

theorem view_port (f : Family ι) {opened : List ι} (distinct : opened.Nodup) (number : Nat) :
    (f.view opened.toFinset).port number =
      if f.sharing number opened = [] then none
      else
        some
          { references := (f.sharing number opened).length
            devices := (f.sharing number opened).flatMap f.records
            tokens := (f.sharing number opened).map f.token } := by
  have here : (opened.toFinset.filter fun i => (f.config i).port = number).val =
      (f.sharing number opened : Multiset ι) := by
    rw [Finset.filter_val, List.toFinset_val, distinct.dedup, Multiset.filter_coe]
    rfl
  simp only [view, ← Finset.val_eq_zero, Finset.card_def, here, Multiset.coe_eq_zero,
    Multiset.coe_card, Multiset.coe_bind, Multiset.map_coe]

theorem Holds.port_eq {s : Service} {opened : List ι} (holds : f.Holds opened s.overview)
    (number : Nat) : s.view.port number = (f.view opened.toFinset).port number := by
  have listed := holds.numbers number
  rw [f.view_port holds.distinct]
  cases found : s.binding? number with
  | none =>
    have unbound := Service.binding?_eq_none_iff.mp found
    rw [listed, ne_eq, Decidable.not_not] at unbound
    rw [if_pos unbound]
    simp only [Service.view, found, Option.map_none]
  | some b =>
    obtain ⟨mem, named⟩ := Service.binding?_eq_some found
    have shares := holds.holdings b.holding (List.mem_map_of_mem mem)
    have bound : number ∈ s.overview.numbers := named ▸ List.mem_map_of_mem (List.mem_map_of_mem mem)
    rw [show b.holding.number = number from named] at shares
    rw [if_neg (listed.mp bound), ← shares.references, ← shares.devices,
      ← Multiset.coe_reverse ((f.sharing number opened).map f.token), ← shares.tokens]
    simp only [Service.view, found, Option.map_some]
    rfl

theorem Holds.view_eq {s : Service} {opened : List ι} (holds : f.Holds opened s.overview) :
    s.view = f.view opened.toFinset := by
  have inventory : (s.headEnd.inventory : Multiset InventoryItem) =
      (f.view opened.toFinset).inventory := by
    rw [view, List.toFinset_val, holds.distinct.dedup, Multiset.coe_bind, ← List.map_flatMap]
    exact congrArg _ holds.inventory
  calc
    s.view = ⟨(f.view opened.toFinset).port, s.headEnd.inventory⟩ := by
      rw [← funext holds.port_eq]
      rfl
    _ = f.view opened.toFinset := by rw [inventory]

theorem open_connectors_decide (f : Family ι) (timeout : Nat) (moves : List (Move ι)) :
    let s := f.run timeout moves
    s.service.view = f.view s.opened.toFinset ∧
    (∀ i ∉ s.opened, ∀ now, (s.service.addListen (f.config i) true now).1 = .ok () ↔
      f.Agrees s.opened i) ∧
    (∀ i ∈ s.opened, (s.service.removeListen (f.config i).port (f.config i)).1 = .ok ()) := by
  intro s
  have kept := f.run_kept timeout moves
  refine ⟨kept.holds.view_eq, ?_, ?_⟩
  · intro i closed now
    obtain ⟨accepted, agrees, _⟩ | ⟨⟨e, refused⟩, clash, _⟩ := kept.opening closed now
    · exact iff_of_true accepted agrees
    · apply iff_of_false _ clash
      rw [refused]
      nofun
  · intro i there
    exact (kept.closing there).1

def neighbours : Family (Fin 3) where
  converters := .default
  config
    | 0 => { port := 5000, name := some "north", accessToken := "n", devices := [
        { deviceName := "a" }, { deviceName := "a", deviceType := "spare" }, { deviceName := "b" }] }
    | 1 => { port := 5000, name := some "south", accessToken := "s", devices := [{ deviceName := "c" }] }
    | 2 => { port := 5000, accessToken := "e", method := "rtu", devices := [{ deviceName := "d" }] }
  method
    | 0 | 1 => .meter
    | 2 => .rtu
  equipment _ := (Uplink.bytes, Downlink.bytes)
  readable
    | 0 | 1 | 2 => rfl
  equipped
    | 0 | 1 | 2 => rfl
  connectors := by decide
  tokens := by decide
  devices := by decide

def visits : List (Move (Fin 3)) := [.opens 0 0, .opens 1 0, .opens 2 0, .closes 0, .closes 2]

theorem open_connectors_decide_neighbours :
    let s := neighbours.run 100 visits
    s.opened = [1] ∧ s.service.view = neighbours.view {1} ∧
    (0 ∉ s.opened ∧ (s.service.addListen (neighbours.config 0) true 7).1 = .ok ()) ∧
    (2 ∉ s.opened ∧ (s.service.addListen (neighbours.config 2) true 7).1 ≠ .ok ()) ∧
    (1 ∈ s.opened ∧ (s.service.removeListen 5000 (neighbours.config 1)).1 = .ok ()) := by
  intro s
  have opened : s.opened = [1] := by decide
  obtain ⟨view, opens, closes⟩ := open_connectors_decide neighbours 100 visits
  have agrees : neighbours.Agrees s.opened 0 := by
    rw [opened]
    intro j mem _
    rw [List.mem_singleton.mp mem]
    rfl
  have clash : ¬ neighbours.Agrees s.opened 2 := by
    rw [opened]
    intro agrees
    cases agrees 1 (List.mem_singleton.mpr rfl) rfl
  have no_0 : 0 ∉ s.opened := by rw [opened]; decide
  have no_2 : 2 ∉ s.opened := by rw [opened]; decide
  have is_1 : 1 ∈ s.opened := by rw [opened]; decide
  refine ⟨opened, ?_, ⟨no_0, (opens 0 no_0 7).mpr agrees⟩, ⟨no_2, mt (opens 2 no_2 7).mp clash⟩,
    is_1, closes 1 is_1⟩
  calc
    s.service.view = neighbours.view s.opened.toFinset := view
    _ = neighbours.view {1} := by rw [opened]; rfl

end Family

end MeterGateway
