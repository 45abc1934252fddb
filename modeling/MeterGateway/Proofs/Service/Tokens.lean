import Mathlib.Data.List.Find
import Mathlib.Logic.Function.Basic
import MeterGateway.Proofs.Service.Turns
import MeterGateway.Proofs.Site.Steps

/-!
Which tokens a port accepts.  The changes made to a port since it was bound decide it: a token is
accepted when the latest change that names it added it.  A connector that comes back with another
token does not name its former one, which is therefore still accepted; where connectors keep their
tokens to themselves the rule is that the latest configuration of each connector counts.
-/

namespace MeterGateway

inductive Change
  | added : ListenConfig → Change
  | removed : ListenConfig → Change
  deriving DecidableEq

def Change.config : Change → ListenConfig
  | added config | removed config => config

/-- The latest change that names the token added it; changes are listed from the latest on. -/
def Granted (changes : List Change) (token : String) : Prop :=
  ∃ config, changes.find? (·.config.accessToken = token) = some (.added config)

/-- The token is that of the latest configuration of a connector that was not removed since. -/
def Entitled (changes : List Change) (token : String) : Prop :=
  ∃ config, config.accessToken = token ∧
    changes.find? (·.config.connectorName = config.connectorName) = some (.added config)

section Changes

variable {changes : List Change} {token : String}

theorem granted_added (config : ListenConfig) :
    Granted (.added config :: changes) token ↔ token = config.accessToken ∨ Granted changes token := by
  by_cases same : config.accessToken = token
  · simp [Granted, Change.config, same]
  · simp [Granted, Change.config, same, Ne.symm same]

theorem granted_removed (config : ListenConfig) :
    Granted (.removed config :: changes) token ↔
      token ≠ config.accessToken ∧ Granted changes token := by
  by_cases same : config.accessToken = token
  · simp [Granted, Change.config, same]
  · simp [Granted, Change.config, same, Ne.symm same]

def Apart (changes : List Change) (token : String) : Prop :=
  ∀ x ∈ changes, x.config.accessToken = token → ∀ y ∈ changes,
    (y.config.accessToken = token ↔ y.config.connectorName = x.config.connectorName)

theorem granted_iff_entitled (apart : Apart changes token) :
    Granted changes token ↔ Entitled changes token := by
  have same : ∀ config, .added config ∈ changes → config.accessToken = token →
      changes.find? (·.config.accessToken = token) =
        changes.find? (·.config.connectorName = config.connectorName) := by
    intro config mem named
    apply List.find?_congr
    intro y listed
    rw [decide_eq_decide]
    exact apart _ mem named y listed
  constructor
  · rintro ⟨config, latest⟩
    have mem := List.mem_of_find?_eq_some latest
    have named := List.find?_some latest
    have named : config.accessToken = token := of_decide_eq_true named
    exact ⟨config, named, (same config mem named).symm.trans latest⟩
  · rintro ⟨config, named, latest⟩
    have mem := List.mem_of_find?_eq_some latest
    exact ⟨config, (same config mem named).trans latest⟩

end Changes

namespace Service

structure Ledger where
  service : Service
  changes : Nat → List Change := fun _ => []

def enter (listening : Nat → Bool) (changes : Nat → List Change) :
    Call → Except GatewayError Unit → Nat → List Change
  | .add config _ _, .ok _ =>
    let before := if listening config.port then changes config.port else []
    Function.update changes config.port (.added config :: before)
  | .remove number config, .ok _ =>
    Function.update changes number (.removed config :: changes number)
  | _, _ => changes

def Ledger.turn (l : Ledger) (c : Call) : Ledger where
  service := (l.service.turn c).2
  changes := enter l.service.isListening l.changes c (l.service.turn c).1

def ledger (timeout : Nat) (converters : Converters) (calls : List Call) : Ledger :=
  calls.foldl Ledger.turn { service := { timeout, converters } }

theorem ledger_snoc (timeout : Nat) (converters : Converters) (calls : List Call) (c : Call) :
    ledger timeout converters (calls ++ [c]) = (ledger timeout converters calls).turn c := by
  simp [ledger]

theorem ledger_service (timeout : Nat) (converters : Converters) (calls : List Call) :
    (ledger timeout converters calls).service = run timeout converters calls := by
  induction calls using List.reverseRecOn with
  | nil => rfl
  | append_singleton calls c ih => rw [ledger_snoc, run_snoc, Ledger.turn, ih]

variable {o o' : Overview} {changes : Nat → List Change}

theorem Step.forall_bound {P : Holding → List Change → Prop} {c : Call}
    {result : Except GatewayError Unit} (step : Step o c result o') (sound : Sound o)
    {listening : Nat → Bool} (agrees : ∀ n, listening n = true ↔ n ∈ o.numbers)
    (binds : ∀ config method c, P ⟨config.port, o.nextSerial, 1, method,
      (Registry.install { converters := o.converters } config o.headEnd c).registry⟩ [.added config])
    (joins : ∀ h ∈ o.bound, ∀ config c, P h (changes h.number) →
      P { h with
          references := h.references + 1
          registry := ((h.registry.drop (h.registry.stale config)).install config
            (o.headEnd.unregisterAll (h.registry.stale config)) c).registry }
        (.added config :: changes h.number))
    (leaves : ∀ h ∈ o.bound, ∀ config, h.references - 1 ≠ 0 → P h (changes h.number) →
      P { h with
          references := h.references - 1
          registry := (h.registry.removeDevices config o.headEnd).registry }
        (.removed config :: changes h.number))
    (before : ∀ h ∈ o.bound, P h (changes h.number)) :
    ∀ h ∈ o'.bound, P h (enter listening changes c result h.number) := by
  -- what is entered for one port leaves the others as they were
  have elsewhere : ∀ number now, ∀ q ∈ o.bound, q.number ≠ number →
      P q (Function.update changes number now q.number) := by
    intro number now q mem other
    rw [Function.update_of_ne other]
    exact before q mem
  cases step with
  | refused => cases c <;> exact before
  | traffic => exact before
  | cleared | shut => nofun
  | @bound config _ method c i running format free equipped installs =>
    subst installs
    have silent : listening config.port = false := by
      rw [← Bool.not_eq_true, agrees]
      exact free
    intro q mem
    cases List.mem_append.mp mem with
    | inl held =>
      have other : q.number ≠ config.port := fun same => free (same ▸ List.mem_map_of_mem held)
      exact elsewhere config.port _ q held other
    | inr new =>
      rw [List.mem_singleton.mp new]
      simp only [enter, silent, Function.update_self]
      exact binds config method c
  | @joined config _ _ earlier h later c i running held at_port format equipped installs =>
    subst installs
    have mem : h ∈ o.bound := held ▸ List.mem_append_cons_self
    have heard : listening h.number = true := (agrees _).mpr (List.mem_map_of_mem mem)
    simp only [enter, ← at_port, heard, if_true]
    apply sound.forall_replaced held _ (elsewhere h.number _)
    rw [Function.update_self]
    exact joins h mem config c (before h mem)
  | @released number config earlier h later i running held at_port left removes =>
    subst removes
    have mem : h ∈ o.bound := held ▸ List.mem_append_cons_self
    rw [enter, ← at_port]
    apply sound.forall_replaced held _ (elsewhere h.number _)
    rw [Function.update_self]
    exact leaves h mem config left (before h mem)
  | @stopped number config earlier h later i running held at_port left removes =>
    rw [enter, ← at_port]
    exact sound.forall_others held (elsewhere h.number _)

def Accurate (o : Overview) (changes : Nat → List Change) : Prop :=
  ∀ h ∈ o.bound, ∀ token, h.registry.isKnownToken token = true ↔ Granted (changes h.number) token

theorem Step.accurate {c : Call} {result : Except GatewayError Unit} (step : Step o c result o')
    (sound : Sound o) {listening : Nat → Bool} (agrees : ∀ n, listening n = true ↔ n ∈ o.numbers)
    (accurate : Accurate o changes) : Accurate o' (enter listening changes c result) := by
  refine step.forall_bound sound agrees
    (P := fun h changes => ∀ token, h.registry.isKnownToken token = true ↔ Granted changes token)
    ?_ ?_ ?_ accurate
  · intro config method c token
    rw [granted_added, Registry.isKnownToken_install]
    simp [Granted, Registry.isKnownToken]
  · intro h mem config c known token
    rw [granted_added, Registry.isKnownToken_install, ← known token]
    rfl
  · intro h mem config left known token
    rw [granted_removed, ← known token]
    exact Registry.isKnownToken_forget _ config.accessToken token

theorem ledger_accurate (timeout : Nat) (converters : Converters) (calls : List Call) :
    Accurate (run timeout converters calls).overview (ledger timeout converters calls).changes := by
  induction calls using List.reverseRecOn with
  | nil => nofun
  | append_singleton calls c ih =>
    have sound := run_sound timeout converters calls
    rw [run_snoc, ledger_snoc, Ledger.turn, ledger_service]
    exact (turn_step sound c).accurate sound (fun n => isListening_iff) ih

theorem token_granted (timeout : Nat) (converters : Converters) (calls : List Call) {number : Nat}
    {b : Binding} (found : (run timeout converters calls).binding? number = some b) :
    let changes := (ledger timeout converters calls).changes number
    (∀ id s token now, b.port.session? id = some s → s.phase = .asking token →
      b.port.clients.any (·.session = id) = true →
      ∃ told, (b.port.authenticate id token now).session? id = some told ∧
        (told.heed.session.hasEnded = false ↔ Granted changes token)) ∧
    (∀ token, Apart changes token → (Granted changes token ↔ Entitled changes token)) := by
  intro changes
  obtain ⟨mem, named⟩ := binding?_eq_some found
  have accurate := ledger_accurate timeout converters calls b.holding (List.mem_map_of_mem mem)
  rw [show b.holding.number = number from named] at accurate
  refine ⟨?_, fun token apart => granted_iff_entitled apart⟩
  intro id s token now present asking client
  refine ⟨_, Port.authenticate_session? present client now, ?_⟩
  rw [Session.tell_heed asking, Bool.not_eq_false']
  exact accurate token

def booth (token : String) : ListenConfig := { port := 5000, name := some "booth", accessToken := token }

def visit : List Call :=
  [.accept, .handle, .arrive 0 (.bytes [0x6F, 0x6C, 0x64]), .read 0, .read 0].map (.traffic 0 0)

theorem token_granted_visit :
    let calls := .add (booth "old") true 0 :: visit
    ∃ b told, (run 100 .default calls).binding? 5000 = some b ∧
      (b.port.authenticate 0 "old" 0).session? 0 = some told ∧ told.heed.session.hasEnded = false ∧
      Apart ((ledger 100 .default calls).changes 5000) "old" ∧
      Entitled ((ledger 100 .default calls).changes 5000) "old" := by
  intro calls
  have changes : (ledger 100 .default calls).changes 5000 = [.added (booth "old")] := rfl
  have found : ∃ b, (run 100 .default calls).binding? 5000 = some b ∧
      ∃ s, b.port.session? 0 = some s ∧ s.phase = .asking "old" ∧
        b.port.clients.any (·.session = 0) = true := ⟨_, rfl, _, rfl, rfl, rfl⟩
  obtain ⟨b, found, s, present, asking, client⟩ := found
  obtain ⟨verdict, entitled⟩ := token_granted 100 .default calls found
  obtain ⟨told, tells, goes_on⟩ := verdict 0 s "old" 0 present asking client
  have granted : Granted ((ledger 100 .default calls).changes 5000) "old" := by
    rw [changes]
    exact ⟨booth "old", rfl⟩
  have apart : Apart ((ledger 100 .default calls).changes 5000) "old" := by
    rw [changes]
    simp [Apart, Change.config, booth]
  exact ⟨b, told, found, tells, goes_on.mpr granted, apart, (entitled "old" apart).mp granted⟩

/-- A connector that comes back with another token leaves its former one valid. -/
theorem former_token_is_accepted :
    let calls := .add (booth "old") true 0 :: .add (booth "new") true 0 :: visit
    ¬ Entitled ((ledger 100 .default calls).changes 5000) "old" ∧
    ∃ b s told, (run 100 .default calls).binding? 5000 = some b ∧ b.port.session? 0 = some s ∧
      s.phase = .asking "old" ∧ (b.port.authenticate 0 "old" 0).session? 0 = some told ∧
      told.heed.session.hasEnded = false := by
  intro calls
  refine ⟨?_, _, _, _, rfl, rfl, rfl, rfl, rfl⟩
  have changes : (ledger 100 .default calls).changes 5000 =
      [.added (booth "new"), .added (booth "old")] := rfl
  rw [changes]
  rintro ⟨config, token, latest⟩
  have mem := List.mem_of_find?_eq_some latest
  rw [List.mem_cons, List.mem_singleton, Change.added.injEq, Change.added.injEq] at mem
  obtain rfl | rfl := mem
  · revert token
    decide
  · revert latest
    decide

end Service

end MeterGateway
