import MeterGateway.Proofs.Service.Tokens

/-!
How long a port is listened on.  A bound port is held as often as the changes made to it since it
was bound amount to, so it is given up with the last connector that holds it, or when all ports
are.  Every port that was ever bound is either bound and at work, or it was stopped, once.
-/

namespace MeterGateway

def Change.isAddition : Change → Bool
  | .added _ => true
  | .removed _ => false

def balance (changes : List Change) : Int :=
  (changes.countP Change.isAddition : Int) - changes.countP fun x => !x.isAddition

@[simp] theorem balance_nil : balance [] = 0 := rfl

@[simp] theorem balance_added (config : ListenConfig) (changes : List Change) :
    balance (.added config :: changes) = balance changes + 1 := by
  simp only [balance, Change.isAddition, List.countP_cons]
  simp
  omega

@[simp] theorem balance_removed (config : ListenConfig) (changes : List Change) :
    balance (.removed config :: changes) = balance changes - 1 := by
  simp only [balance, Change.isAddition, List.countP_cons]
  simp
  omega

namespace Port

variable {p p' : Port} {config : ListenConfig} {h h' : HeadEnd} {now : Nat}

theorem addDevices_running (ok : p.addDevices config h now = .ok (p', h')) :
    p'.running = p.running := by
  unfold addDevices at ok
  cases installed : p.registry.addDevices config h with
  | error e =>
    rw [installed] at ok
    cases ok
  | ok i =>
    rw [installed] at ok
    cases ok
    rw [reschedule_eq]

theorem updateDevices_running (ok : p.updateDevices config h now = .ok (p', h')) :
    p'.running = p.running := by
  unfold updateDevices at ok
  cases installed : p.registry.updateDevices config h with
  | error e =>
    rw [installed] at ok
    cases ok
  | ok i =>
    rw [installed] at ok
    cases ok
    rw [reschedule_eq]
    rfl

end Port

namespace Service

structure Counted (o : Overview) (changes : Nat → List Change) : Prop where
  closed : o.running = false → o.bound = []
  references : ∀ h ∈ o.bound, 1 ≤ h.references ∧ (h.references : Int) = balance (changes h.number)

variable {o o' : Overview} {c : Call} {result : Except GatewayError Unit}
  {listening : Nat → Bool} {changes : Nat → List Change}

theorem Step.running_eq (step : Step o c result o') (going : c ≠ .shutDown) :
    o'.running = o.running := by
  cases step with
  | shut => exact absurd rfl going
  | _ => rfl

theorem Step.closed (step : Step o c result o') (closed : o.running = false → o.bound = []) :
    o'.running = false → o'.bound = [] := by
  cases step with
  | refused | traffic => exact closed
  | cleared | shut => exact fun _ => rfl
  | bound running | joined running | released running | stopped running =>
    intro stopped
    rw [running] at stopped
    cases stopped

theorem Step.counted (step : Step o c result o') (sound : Sound o)
    (agrees : ∀ n, listening n = true ↔ n ∈ o.numbers) (counted : Counted o changes) :
    Counted o' (enter listening changes c result) := by
  refine ⟨step.closed counted.closed, ?_⟩
  refine step.forall_bound sound agrees
    (P := fun h changes => 1 ≤ h.references ∧ (h.references : Int) = balance changes)
    ?_ ?_ ?_ counted.references
  · intro config method c
    exact ⟨Nat.le_refl 1, rfl⟩
  · intro h mem config c ⟨held, counts⟩
    refine ⟨Nat.le_succ_of_le held, ?_⟩
    rw [balance_added, ← counts]
    exact Int.natCast_succ _
  · intro h mem config left ⟨held, counts⟩
    refine ⟨Nat.pos_of_ne_zero left, ?_⟩
    rw [balance_removed, ← counts]
    exact Int.natCast_sub held

theorem ledger_counted (timeout : Nat) (converters : Converters) (calls : List Call) :
    Counted (run timeout converters calls).overview (ledger timeout converters calls).changes := by
  induction calls using List.reverseRecOn with
  | nil => exact ⟨fun _ => rfl, nofun⟩
  | append_singleton calls c ih =>
    have sound := run_sound timeout converters calls
    rw [run_snoc, ledger_snoc, Ledger.turn, ledger_service]
    exact (turn_step sound c).counted sound (fun n => isListening_iff) ih

/-! ### Stops -/

section Stops

variable {before after : List Holding} {h k : Holding} {config : ListenConfig}

theorem Sound.eq_of_number (sound : Sound o) (mem : h ∈ o.bound) (other : k ∈ o.bound)
    (same : h.number = k.number) : h = k :=
  List.inj_on_of_nodup_map sound.numbers mem other same

theorem numbers_replaced (held : o.bound = before ++ k :: after) (references : Nat)
    (registry : Registry) :
    (before ++ { k with references, registry } :: after).map Holding.number = o.numbers := by
  rw [Overview.numbers, held]
  simp

theorem Step.number_mem (step : Step o c result o') (mem : h ∈ o.bound) (spared : c ≠ .clear)
    (going : c ≠ .shutDown) (others : ∀ config, c ≠ .remove h.number config) :
    h.number ∈ o'.numbers := by
  have bound : h.number ∈ o.numbers := List.mem_map_of_mem mem
  cases step with
  | refused | traffic => exact bound
  | cleared => exact absurd rfl spared
  | shut => exact absurd rfl going
  | bound => exact List.mem_map_of_mem (List.mem_append_left _ mem)
  | joined _ held | released _ held =>
    rw [Overview.numbers, numbers_replaced held]
    exact bound
  | @stopped number config before k after i _ held at_port =>
    rw [held] at mem
    cases List.perm_middle.mem_iff.mp mem with
    | head => exact absurd (at_port ▸ rfl) (others config)
    | tail _ left => exact List.mem_map_of_mem left

theorem Step.bound_eq_nil (step : Step o c result o') (running : o.running = true)
    (all : c = .clear ∨ c = .shutDown) : o'.bound = [] := by
  cases step with
  | cleared | shut => rfl
  | refused refusal =>
    cases refusal with
    | closed stopped =>
      rw [running] at stopped
      cases stopped
    | _ => simp at all
  | _ => simp at all

/-- Of those that give a port up, the one that brings its balance to zero stops it. -/
theorem Step.removed_number_iff (listening : Nat → Bool)
    (step : Step o (.remove h.number config) result o') (sound : Sound o)
    (running : o.running = true) (mem : h ∈ o.bound) (held : 1 ≤ h.references)
    (counts : (h.references : Int) = balance (changes h.number)) :
    h.number ∉ o'.numbers ↔
      balance (enter listening changes (.remove h.number config) result h.number) = 0 := by
  have bound : h.number ∈ o.numbers := List.mem_map_of_mem mem
  cases step with
  | refused refusal =>
    cases refusal with
    | closed stopped =>
      rw [running] at stopped
      cases stopped
    | unbound free => exact absurd bound free
  | @released _ _ before k after i _ split same left =>
    have here : k ∈ o.bound := split ▸ List.mem_append_cons_self
    rw [sound.eq_of_number here mem same] at left
    rw [Overview.numbers, numbers_replaced split]
    simp only [enter, Function.update_self, balance_removed, ← counts]
    refine iff_of_false (not_not_intro bound) ?_
    omega
  | @stopped _ _ before k after i _ split same last =>
    have here : k ∈ o.bound := split ▸ List.mem_append_cons_self
    rw [sound.eq_of_number here mem same] at last
    simp only [enter, Function.update_self, balance_removed, ← counts]
    refine iff_of_true ?_ (by omega)
    intro listed
    obtain ⟨q, other, named⟩ := List.mem_map.mp listed
    exact sound.others_number split q other (named.trans same.symm)

theorem Step.number_not_mem_iff (step : Step o c result o') (sound : Sound o)
    (counted : Counted o changes) (mem : h ∈ o.bound) :
    h.number ∉ o'.numbers ↔ c = .clear ∨ c = .shutDown ∨ ∃ config, c = .remove h.number config ∧
      balance (enter listening changes c result h.number) = 0 := by
  have running : o.running = true := by
    by_contra closed
    rw [counted.closed (by simpa using closed)] at mem
    cases mem
  obtain ⟨held, counts⟩ := counted.references h mem
  by_cases all : c = .clear ∨ c = .shutDown
  · have gone : h.number ∉ o'.numbers := by
      rw [Overview.numbers, step.bound_eq_nil running all]
      exact List.not_mem_nil
    rw [← or_assoc]
    exact iff_of_true gone (.inl all)
  rw [← or_assoc, or_iff_right all]
  rw [not_or] at all
  by_cases mine : ∃ config, c = .remove h.number config
  · obtain ⟨config, rfl⟩ := mine
    rw [step.removed_number_iff listening sound running mem held counts]
    simp
  · rw [not_exists] at mine
    refine iff_of_false (not_not_intro (step.number_mem mem all.1 all.2 mine)) ?_
    rintro ⟨config, same, -⟩
    exact mine config same

theorem filter_number_eq_nil {numbers : List Nat} {ports : List Holding}
    (kept : ∀ h ∈ ports, h.number ∈ numbers) : ports.filter (fun h => h.number ∉ numbers) = [] := by
  apply List.filter_eq_nil_iff.mpr
  intro h mem
  rw [decide_eq_true_iff, not_not]
  exact kept h mem

theorem Step.stopped_serials (step : Step o c result o') (sound : Sound o) :
    o'.stopped.map Holding.serial = o.stopped.map Holding.serial ++
      (o.bound.filter fun h => h.number ∉ o'.numbers).map Holding.serial := by
  have numbers : ∀ h ∈ o.bound, h.number ∈ o.numbers := fun h mem => List.mem_map_of_mem mem
  cases step with
  | refused | traffic => rw [filter_number_eq_nil numbers, List.map_nil, List.append_nil]
  | bound =>
    rw [filter_number_eq_nil, List.map_nil, List.append_nil]
    intro h mem
    exact List.mem_map_of_mem (List.mem_append_left _ mem)
  | joined _ held | released _ held =>
    rw [filter_number_eq_nil, List.map_nil, List.append_nil]
    intro h mem
    rw [Overview.numbers, numbers_replaced held]
    exact numbers h mem
  | @stopped _ _ before k after i _ held =>
    have here : k.number ∉ (before ++ after).map Holding.number := by
      intro listed
      obtain ⟨q, other, same⟩ := List.mem_map.mp listed
      exact sound.others_number held q other same
    have others : ∀ q ∈ before ++ after, q.number ∈ (before ++ after).map Holding.number :=
      fun q mem => List.mem_map_of_mem mem
    have gone : o.bound.filter (fun h => h.number ∉ (before ++ after).map Holding.number) = [k] := by
      rw [held, List.filter_append, List.filter_cons, if_pos (decide_eq_true here),
        filter_number_eq_nil fun q mem => others q (List.mem_append_left _ mem),
        filter_number_eq_nil fun q mem => others q (List.mem_append_right _ mem)]
      rfl
    rw [Overview.numbers, gone, List.map_append]
    rfl
  | cleared | shut => simp [Overview.numbers]

theorem Step.serials_perm (step : Step o c result o')
    (serials : (o.ports.map Holding.serial).Perm (List.range o.nextSerial)) :
    (o'.ports.map Holding.serial).Perm (List.range o'.nextSerial) := by
  cases step with
  | refused | traffic => exact serials
  | bound =>
    rw [List.range_succ]
    refine (List.Perm.trans ?_ (serials.cons o.nextSerial)).trans (List.perm_append_singleton _ _).symm
    simp only [Overview.ports, List.append_assoc, List.singleton_append]
    exact List.perm_middle.map Holding.serial
  | joined _ held | released _ held => simpa [Overview.ports, held] using serials
  | @stopped _ _ before k after _ _ held =>
    refine List.Perm.trans ?_ serials
    simp only [Overview.ports, held, List.map_append, List.map_cons, List.map_nil, List.append_assoc,
      List.cons_append]
    refine List.Perm.append_left _ ?_
    rw [← List.append_assoc]
    exact List.perm_append_singleton _ _
  | cleared | shut =>
    have swapped : (o.stopped ++ o.bound).Perm (o.bound ++ o.stopped) := List.perm_append_comm
    exact (swapped.map Holding.serial).trans serials

end Stops

/-! ### Ports at work -/

structure Live (s : Service) : Prop where
  bound : ∀ b ∈ s.bindings, b.port.running = true
  retired : ∀ b ∈ s.retired, b.port.running = false

section Live

variable {s : Service} {b : Binding} {config : ListenConfig}

theorem Live.putBinding (live : Live s) (running : b.port.running = true) (headEnd : HeadEnd) :
    Live ({ s with headEnd }.putBinding b) where
  bound := by
    intro x mem
    obtain ⟨other, there, rfl⟩ := List.mem_map.mp mem
    split
    · exact running
    · exact live.bound other there
  retired := live.retired

theorem Live.retire (live : Live s) (b : Binding) (headEnd : HeadEnd) :
    Live ({ s with headEnd }.retire b) where
  bound x mem := live.bound x (List.mem_of_mem_filter mem)
  retired := by
    intro x mem
    cases List.mem_append.mp mem with
    | inl before => exact live.retired x before
    | inr new =>
      rw [List.mem_singleton.mp new]
      rfl

theorem Live.retireAll (live : Live s) : Live s.retireAll := by
  have each : ∀ (bs : List Binding) (s : Service), Live s → Live (bs.foldl Service.retire s) := by
    intro bs
    induction bs with
    | nil => exact fun s live => live
    | cons b bs ih => exact fun s live => ih _ (live.retire b s.headEnd)
  exact each s.bindings s live

theorem addListen_live (live : Live s) (config : ListenConfig) (free : Bool) (now : Nat) :
    Live (s.addListen config free now).2 := by
  unfold addListen
  split
  · exact live
  split
  · exact live
  split
  · rename_i b found
    unfold join
    split
    · exact live
    split
    · exact live
    · rename_i port headEnd updated
      have running := live.bound b (binding?_eq_some found).1
      rw [← Port.updateDevices_running updated] at running
      exact live.putBinding running headEnd
  · unfold bind
    split
    · exact live
    simp only
    split
    · exact live
    · rename_i port headEnd added
      refine ⟨?_, live.retired⟩
      intro x mem
      cases List.mem_append.mp mem with
      | inl before => exact live.bound x before
      | inr new =>
        rw [List.mem_singleton.mp new]
        exact Port.addDevices_running added

theorem removeListen_live (live : Live s) (number : Nat) (config : ListenConfig) :
    Live (s.removeListen number config).2 := by
  unfold removeListen
  split
  · exact live
  split
  · exact live
  · rename_i b found
    simp only
    split
    · exact live.retire _ _
    · let left : Binding := { b with
        port := (b.port.removeDevices config s.headEnd).1
        references := b.references - 1 }
      have running : left.port.running = true := live.bound b (binding?_eq_some found).1
      exact live.putBinding running _

theorem act_live (sound : Sound s.overview) (live : Live s) (serial now : Nat) {a : Action}
    (traffic : a.isTraffic = true) : Live (s.act serial now a).1 := by
  unfold act
  split
  · exact live
  · rename_i b found
    have mem : b ∈ s.ports := List.mem_of_find?_eq_some found
    have named : b.serial = serial := by simpa using List.find?_some found
    have going : a ≠ .stop := by
      rintro rfl
      cases traffic
    have same : ((s.site b).act now a).port.running = b.port.running :=
      ((s.site b).act_step now a).running_eq going
    -- no other port is put back with what this one has become
    have only : ∀ other ∈ s.ports, other.serial = serial → other = b := fun other there mine =>
      List.inj_on_of_nodup_map (ports_serials sound) there mem (mine.trans named.symm)
    constructor <;> intro x listed <;> obtain ⟨other, there, rfl⟩ := List.mem_map.mp listed <;> split
    · rename_i mine
      rw [only other (List.mem_append_left _ there) mine] at there
      exact same.trans (live.bound b there)
    · exact live.bound other there
    · rename_i mine
      rw [only other (List.mem_append_right _ there) mine] at there
      exact same.trans (live.retired b there)
    · exact live.retired other there

theorem turn_live (sound : Sound s.overview) (live : Live s) (c : Call) : Live (s.turn c).2 := by
  cases c with
  | add config free now => exact addListen_live live config free now
  | remove number config => exact removeListen_live live number config
  | clear =>
    rw [turn, clear]
    split
    · exact live
    · exact live.retireAll
  | shutDown =>
    rw [turn, shutDown]
    split
    · exact live
    · exact ⟨live.retireAll.bound, live.retireAll.retired⟩
  | traffic serial now a =>
    simp only [turn]
    split
    · exact act_live sound live serial now ‹_›
    · exact live

theorem run_live (timeout : Nat) (converters : Converters) (calls : List Call) :
    Live (run timeout converters calls) := by
  induction calls using List.reverseRecOn with
  | nil => exact ⟨nofun, nofun⟩
  | append_singleton calls c ih =>
    rw [run_snoc]
    exact turn_live (run_sound timeout converters calls) ih c

end Live

/-! ### Runs -/

theorem run_serials_perm (timeout : Nat) (converters : Converters) (calls : List Call) :
    let s := run timeout converters calls
    (s.ports.map Binding.serial).Perm (List.range s.nextSerial) := by
  intro s
  rw [← overview_serials]
  induction calls using List.reverseRecOn with
  | nil => exact .nil
  | append_singleton calls c ih =>
    simp only [s, run_snoc]
    exact (turn_step (run_sound timeout converters calls) c).serials_perm ih

theorem run_running (timeout : Nat) (converters : Converters) {calls : List Call}
    (going : .shutDown ∉ calls) : (run timeout converters calls).running = true := by
  induction calls using List.reverseRecOn with
  | nil => rfl
  | append_singleton calls c ih =>
    rw [List.mem_append, not_or, List.mem_singleton] at going
    rw [run_snoc]
    have step := turn_step (run_sound timeout converters calls) c
    exact (step.running_eq (Ne.symm going.2)).trans (ih going.1)

theorem removeListen_result {s : Service} (running : s.running = true) (number : Nat)
    (config : ListenConfig) :
    (s.removeListen number config).1 =
      if s.isListening number then .ok () else .error (.noListener number) := by
  unfold removeListen isListening
  rw [running]
  cases s.binding? number <;> rfl

theorem references_balance (timeout : Nat) (converters : Converters) (calls : List Call) :
    let s := run timeout converters calls
    let changes := (ledger timeout converters calls).changes
    (∀ b ∈ s.bindings, 1 ≤ b.references ∧ (b.references : Int) = balance (changes b.number)) ∧
    (∀ c, ∀ b ∈ s.bindings, (s.turn c).2.isListening b.number = false ↔
      c = .clear ∨ c = .shutDown ∨ ∃ config, c = .remove b.number config ∧
        balance ((ledger timeout converters (calls ++ [c])).changes b.number) = 0) ∧
    (∀ c, (s.turn c).2.retired.map Binding.serial = s.retired.map Binding.serial ++
      (s.bindings.filter fun b => !(s.turn c).2.isListening b.number).map Binding.serial) ∧
    (s.ports.map Binding.serial).Perm (List.range s.nextSerial) ∧
    (∀ b ∈ s.bindings, b.port.running = true) ∧ (∀ b ∈ s.retired, b.port.running = false) ∧
    (.shutDown ∉ calls → ∀ number config, (s.removeListen number config).1 =
      if s.isListening number then .ok () else .error (.noListener number)) := by
  intro s changes
  have sound := run_sound timeout converters calls
  have counted := ledger_counted timeout converters calls
  have live := run_live timeout converters calls
  refine ⟨?_, ?_, ?_, run_serials_perm timeout converters calls, live.bound, live.retired, ?_⟩
  · intro b mem
    exact counted.references b.holding (List.mem_map_of_mem mem)
  · intro c b mem
    have step := turn_step sound c
    rw [← Bool.not_eq_true, isListening_iff, ledger_snoc, Ledger.turn, ledger_service]
    exact step.number_not_mem_iff sound counted (List.mem_map_of_mem mem)
  · intro c
    have stopped := (turn_step sound c).stopped_serials sound
    have given_up : (fun b : Binding => decide (b.holding.number ∉ (s.turn c).2.overview.numbers)) =
        fun b => !(s.turn c).2.isListening b.number := by
      funext b
      rw [Bool.eq_iff_iff, decide_eq_true_iff, Bool.not_eq_true', ← Bool.not_eq_true, isListening_iff]
      rfl
    have serials : Holding.serial ∘ Binding.holding = Binding.serial := rfl
    rw [← given_up]
    simpa only [overview, List.map_map, List.filter_map, serials, Function.comp_def] using stopped
  · intro going number config
    exact removeListen_result (run_running timeout converters going) number config

theorem references_balance_stranger :
    let calls := [.add (booth "a") true 0, .add (booth "b") true 0, .remove 5000 (booth "c")]
    let s := run 100 .default calls
    (∃ b ∈ s.bindings, b.number = 5000 ∧ b.references = 1 ∧
      (s.turn (.remove 5000 (booth "c"))).2.isListening b.number = false) ∧
    (s.removeListen 5001 (booth "a")).1 = .error (.noListener 5001) := by
  intro calls s
  obtain ⟨-, gone_iff, -, -, -, -, answers⟩ := references_balance 100 .default calls
  have bound : ∃ b ∈ s.bindings, b.number = 5000 ∧ b.references = 1 := ⟨_, .head _, rfl, rfl⟩
  obtain ⟨b, mem, number, one⟩ := bound
  refine ⟨⟨b, mem, number, one, ?_⟩, ?_⟩
  · rw [gone_iff (.remove 5000 (booth "c")) b mem, number]
    exact .inr (.inr ⟨booth "c", rfl, rfl⟩)
  · rw [answers (by simp [calls]) 5001 (booth "a")]
    rfl

end Service

end MeterGateway
