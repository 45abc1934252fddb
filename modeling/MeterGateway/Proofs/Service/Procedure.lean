import MeterGateway.Proofs.Service.Turns

/-!
The calls of connectors carried out step by step.  A procedure that is given up half way leaves
done what it has done by then.  Carried out in this way the calls come to what they come to as a
whole, so all that a call checks is checked before it changes anything, and a call that is refused
leaves no trace.
-/

namespace MeterGateway

/-- Steps on a state that they share; whatever was done before a failure stays done. -/
abbrev Procedure (σ : Type) := ExceptT GatewayError (StateM σ)

namespace Procedure

section Steps

variable {σ α β : Type}

def on (p : Procedure σ α) (s : σ) : Except GatewayError α × σ := p.run.run s

def ask (question : σ → Except GatewayError α) : Procedure σ α := do
  match question (← get) with
  | .ok a => return a
  | .error e => throw e

def check (condition : σ → Bool) (otherwise : GatewayError) : Procedure σ Unit :=
  ask fun s => if condition s then .ok () else .error otherwise

theorem on_modify (f : σ → σ) (s : σ) : (modify f : Procedure σ Unit).on s = (.ok (), f s) := rfl

theorem on_bind (p : Procedure σ α) (f : α → Procedure σ β) (s : σ) :
    (p >>= f).on s =
      match p.on s with
      | (.ok a, t) => (f a).on t
      | (.error e, t) => (.error e, t) := by
  have steps : (p >>= f).on s = (ExceptT.bindCont f (p.on s).1 : StateM σ _).run (p.on s).2 := rfl
  rw [steps]
  obtain ⟨e | a, t⟩ := p.on s <;> rfl

theorem on_get_bind (f : σ → Procedure σ β) (s : σ) : (get >>= f).on s = (f s).on s := rfl

theorem on_modify_bind (f : σ → σ) (p : Procedure σ β) (s : σ) :
    (modify f >>= fun _ => p).on s = p.on (f s) := rfl

theorem on_ask (question : σ → Except GatewayError α) (s : σ) :
    (ask question).on s = (question s, s) := by
  rw [ask, on_get_bind]
  split <;> rename_i answer <;> rw [answer] <;> rfl

theorem on_ask_bind (question : σ → Except GatewayError α) (f : α → Procedure σ β) (s : σ) :
    (ask question >>= f).on s =
      match question s with
      | .ok a => (f a).on s
      | .error e => (.error e, s) := by
  rw [on_bind, on_ask]
  cases question s <;> rfl

theorem on_check_bind (condition : σ → Bool) (otherwise : GatewayError) (p : Procedure σ β) (s : σ) :
    (check condition otherwise >>= fun _ => p).on s =
      if condition s then p.on s else (.error otherwise, s) := by
  rw [check, on_ask_bind]
  cases condition s <;> rfl

theorem on_forM_modify (xs : List α) (f : σ → α → σ) (s : σ) :
    (xs.forM fun x => (modify (f · x) : Procedure σ Unit)).on s = (.ok (), xs.foldl f s) := by
  induction xs generalizing s with
  | nil => rfl
  | cons x xs ih =>
    rw [List.forM, on_modify_bind]
    exact ih (f s x)

end Steps

end Procedure

namespace Site

def discard (s : Site) (name : String) : Site :=
  { s with
    port := { s.port with registry := s.port.registry.drop [name] }
    headEnd := s.headEnd.unregister name }

def enrol (s : Site) (record : Record) : Site :=
  if s.headEnd.isRegistered record.name || s.port.registry.isHeld record.name then s
  else
    { s with
      port := { s.port with
        registry := { s.port.registry with devices := s.port.registry.devices ++ [record] } }
      headEnd := s.headEnd.register record.item }

def hold (s : Site) (i : Registry.Installed) : Site :=
  { s with port := { s.port with registry := i.registry }, headEnd := i.headEnd }

theorem foldl_discard (s : Site) (names : List String) :
    names.foldl discard s =
      s.hold ⟨names, s.port.registry.drop names, s.headEnd.unregisterAll names⟩ := by
  induction names generalizing s with
  | nil => simp [hold]
  | cons name names ih =>
    rw [List.foldl_cons, ih]
    simp [hold, discard, Registry.drop, HeadEnd.unregisterAll, List.filter_filter, not_or, Bool.and_comm]

theorem foldl_enrol {fresh : DeviceConfig → Record} (own : ∀ d, (fresh d).config = d) (s : Site)
    (ds : List DeviceConfig) :
    (ds.foldl (fun s d => s.enrol (fresh d)) s) =
      s.hold (Registry.enter fresh ds s.port.registry s.headEnd) := by
  induction ds generalizing s with
  | nil => rfl
  | cons d ds ih =>
    have name : (fresh d).name = d.deviceName := by rw [Record.name, own]
    have item : (fresh d).item = ⟨d.deviceName, (fresh d).connector, d.deviceType⟩ := by
      rw [Record.item, name, own]
    rw [List.foldl_cons, ih, Registry.enter, enrol, name, item]
    split <;> rfl

end Site

namespace Service

variable {s : Service} {b : Binding}

theorem number_put (b other : Binding) :
    (if other.number = b.number then b else other).number = other.number := by
  split <;> simp [*]

theorem putBinding_self (sound : Sound s.overview) (mem : b ∈ s.bindings) : s.putBinding b = s := by
  have distinct := sound.numbers
  rw [overview_numbers] at distinct
  have kept : s.bindings.map (fun other => if other.number = b.number then b else other) =
      s.bindings := by
    rw [List.map_congr_left (g := id), List.map_id]
    intro other there
    split
    · rename_i same
      exact (List.inj_on_of_nodup_map distinct there mem same).symm
    · rfl
  rw [putBinding, kept]

theorem retire_putBinding (b : Binding) (s : Service) : (s.putBinding b).retire b = s.retire b := by
  have others : (s.bindings.map fun other => if other.number = b.number then b else other).filter
      (·.number ≠ b.number) = s.bindings.filter (·.number ≠ b.number) := by
    simp only [List.filter_map, Function.comp_def, number_put]
    rw [List.map_congr_left (g := id), List.map_id]
    intro other left
    exact if_neg (by simpa using (List.mem_filter.mp left).2)
  simp only [retire, putBinding, others]

theorem binding?_putBinding {held : Binding} (found : s.binding? b.number = some held) :
    (s.putBinding b).binding? b.number = some b := by
  have named := (binding?_eq_some found).2
  rw [binding?] at found
  simp only [binding?, putBinding, List.find?_map, Function.comp_def, number_put, found,
    Option.map_some, named, if_true]

end Service

namespace Procedure

/-! ### At a port -/

def install (config : ListenConfig) : Procedure Site Unit := do
  let converters ← ask fun s => s.port.registry.converters.select config
  config.devices.forM fun d => modify (·.enrol (config.record converters d))
  modify fun s => { s with port := { s.port with
    registry := s.port.registry.learnToken config.accessToken config.connectorName } }

def addDevices (config : ListenConfig) (now : Nat) : Procedure Site Unit := do
  install config
  modify fun s => { s with port := s.port.reschedule config.accessToken now }

def updateDevices (config : ListenConfig) (now : Nat) : Procedure Site Unit := do
  let polled := (← get).port.registry.namesWithToken config.accessToken
  let _ ← ask fun s => s.port.registry.converters.select config
  let stale := (← get).port.registry.stale config
  stale.forM fun name => modify (·.discard name)
  install config
  modify fun s => { s with
    port := (s.port.cancelDevices polled).reschedule config.accessToken now }

def removeDevices (config : ListenConfig) : Procedure Site Unit := do
  let names := (← get).port.registry.namesWithToken config.accessToken
  names.forM fun name => modify (·.discard name)
  modify fun s => { s with port := { s.port with
    registry := s.port.registry.forgetToken config.accessToken } }
  modify fun s => { s with port := s.port.cancelDevices names }

theorem install_on (config : ListenConfig) (s : Site) :
    (install config).on s =
      match s.port.registry.addDevices config s.headEnd with
      | .ok i => (.ok (), s.hold i)
      | .error e => (.error e, s) := by
  rw [install, on_ask_bind, Registry.addDevices_eq]
  cases s.port.registry.converters.select config with
  | error e => rfl
  | ok converters =>
    have own : ∀ d, (config.record converters d).config = d := fun _ => rfl
    simp only [on_bind, on_forM_modify, on_modify, Site.foldl_enrol own, Registry.enter_eq _ _ own]
    rfl

theorem addDevices_on (config : ListenConfig) (now : Nat) (s : Site) :
    (addDevices config now).on s =
      ((s.port.addDevices config s.headEnd now).map fun _ => (),
        s.install (s.port.addDevices config s.headEnd now)) := by
  rw [addDevices, on_bind, install_on, Port.addDevices]
  cases s.port.registry.addDevices config s.headEnd with
  | error e => rfl
  | ok i => rfl

theorem updateDevices_on (config : ListenConfig) (now : Nat) (s : Site) :
    (updateDevices config now).on s =
      ((s.port.updateDevices config s.headEnd now).map fun _ => (),
        s.install (s.port.updateDevices config s.headEnd now)) := by
  rw [updateDevices, on_get_bind, on_ask_bind, Port.updateDevices, Registry.updateDevices_eq]
  cases known : s.port.registry.converters.select config with
  | error e => rfl
  | ok converters =>
    -- the converters that were looked up first are found again
    have again : (s.port.registry.drop (s.port.registry.stale config)).converters.select config =
        .ok converters := known
    simp only [on_get_bind]
    simp only [on_bind, on_forM_modify, Site.foldl_discard, install_on, Registry.addDevices_eq, Site.hold,
      again]
    rfl

theorem removeDevices_on (config : ListenConfig) (s : Site) :
    (removeDevices config).on s =
      (.ok (), s.install (.ok (s.port.removeDevices config s.headEnd))) := by
  rw [removeDevices, on_get_bind, on_bind, on_forM_modify, Site.foldl_discard]
  rfl

/-! ### At the service -/

def atPort (b : Binding) (p : Procedure Site Unit) : Procedure Service Unit := do
  let done := p.on ((← get).site b)
  modify fun s => { s with headEnd := done.2.headEnd }.putBinding { b with port := done.2.port }
  ask fun _ => done.1

def recount (number : Nat) (count : Nat → Nat) (s : Service) : Service :=
  { s with bindings := s.bindings.map fun b =>
      if b.number = number then { b with references := count b.references } else b }

/-- The new port is at work before it has its devices; one that does not get them is stopped before
anybody has heard of it. -/
def openPort (method : FrameMethod) (config : ListenConfig) (now : Nat) : Procedure Service Unit := do
  let s ← get
  let port : Port := { method, timeout := s.timeout, registry := { converters := s.converters } }
  let done := (addDevices config now).on { port, headEnd := s.headEnd }
  modify ({ · with headEnd := done.2.headEnd })
  ask fun _ => done.1
  modify fun s => { s with
    bindings := s.bindings ++ [{ serial := s.nextSerial, number := config.port, port := done.2.port }]
    nextSerial := s.nextSerial + 1 }

def addListen (config : ListenConfig) (free : Bool) (now : Nat) : Procedure Service Unit := do
  check Service.running .channelClosed
  let method ← ask fun _ => config.frameMethod
  match (← get).binding? config.port with
  | some b =>
    check (fun _ => b.port.method = method)
      (.config (.methodClash b.number b.port.method method))
    atPort b (updateDevices config now)
    modify (recount b.number (· + 1))
  | none =>
    check (fun _ => free) .io
    openPort method config now

def closePort (number : Nat) : Procedure Service Unit := do
  match (← get).binding? number with
  | some b => if b.references = 0 then modify (·.retire b)
  | none => return

def removeListen (number : Nat) (config : ListenConfig) : Procedure Service Unit := do
  check Service.running .channelClosed
  match (← get).binding? number with
  | none => throw (.noListener number)
  | some b =>
    modify (recount number (· - 1))
    atPort { b with references := b.references - 1 } (removeDevices config)
    closePort number

section Service

variable {s : Service} {b : Binding}

theorem openPort_on (method : FrameMethod) (config : ListenConfig) (now : Nat) (s : Service) :
    (openPort method config now).on s = s.bind method config true now := by
  rw [openPort, on_get_bind]
  simp only [addDevices_on, on_modify_bind, on_ask_bind, Service.bind]
  generalize Port.addDevices _ config s.headEnd now = added
  cases added with
  | error e => rfl
  | ok added => rfl

theorem atPort_on (b : Binding) (p : Procedure Site Unit) (s : Service) :
    (atPort b p).on s = ((p.on (s.site b)).1,
      { s with headEnd := (p.on (s.site b)).2.headEnd }.putBinding
        { b with port := (p.on (s.site b)).2.port }) := by
  rw [atPort, on_get_bind, on_modify_bind, on_ask]

theorem recount_putBinding (b : Binding) (count : Nat → Nat) (s : Service) :
    recount b.number count (s.putBinding b) =
      s.putBinding { b with references := count b.references } := by
  simp only [recount, Service.putBinding, List.map_map]
  congr 2
  funext other
  by_cases same : other.number = b.number <;> simp [same]

theorem putBinding_recount (b : Binding) (count : Nat → Nat) (headEnd : HeadEnd) (s : Service) :
    { recount b.number count s with headEnd }.putBinding b = { s with headEnd }.putBinding b := by
  simp only [recount, Service.putBinding, List.map_map]
  congr 2
  funext other
  by_cases same : other.number = b.number <;> simp [same]

theorem join_on (sound : Service.Sound s.overview) (mem : b ∈ s.bindings) (config : ListenConfig)
    (now : Nat) :
    (atPort b (updateDevices config now) >>= fun _ => modify (recount b.number (· + 1))).on s =
      s.join b b.port.method config now := by
  rw [on_bind, atPort_on, updateDevices_on, Service.join, if_neg (not_not.mpr rfl)]
  simp only [Service.site]
  generalize b.port.updateDevices config s.headEnd now = updated
  cases updated with
  | error e =>
    have kept := Service.putBinding_self sound mem
    simp only [Except.map, Site.install, kept]
  | ok updated =>
    simp only [Except.map, Site.install, on_modify]
    exact congrArg _ (recount_putBinding { b with port := updated.1 } _ _)

theorem addListen_on (sound : Service.Sound s.overview) (config : ListenConfig) (free : Bool) (now : Nat) :
    (addListen config free now).on s = s.addListen config free now := by
  rw [addListen, on_check_bind, Service.addListen]
  cases s.running with
  | false => rfl
  | true =>
    simp only [if_true, Bool.not_true, Bool.false_eq_true, if_false, on_ask_bind]
    cases config.frameMethod with
    | error e => rfl
    | ok method =>
      simp only [on_get_bind]
      cases found : s.binding? config.port with
      | none =>
        simp only [on_check_bind, openPort_on]
        cases free <;> rfl
      | some b =>
        have mem := (Service.binding?_eq_some found).1
        simp only [on_check_bind]
        by_cases same : b.port.method = method
        · subst same
          rw [if_pos (decide_eq_true rfl)]
          exact join_on sound mem config now
        · rw [if_neg (by simpa using same), Service.join, if_pos same]

theorem closePort_on (number : Nat) (s : Service) :
    (closePort number).on s = (.ok (), match s.binding? number with
      | some b => if b.references = 0 then s.retire b else s
      | none => s) := by
  rw [closePort, on_get_bind]
  split
  · split <;> rfl
  · rfl

theorem removeListen_on (number : Nat) (config : ListenConfig) (s : Service) :
    (removeListen number config).on s = s.removeListen number config := by
  rw [removeListen, on_check_bind, Service.removeListen]
  by_cases running : s.running = true
  · rw [if_pos running, if_neg (by simp [running]), on_get_bind]
    cases found : s.binding? number with
    | none => rfl
    | some b =>
      obtain ⟨-, rfl⟩ := Service.binding?_eq_some found
      let removed := b.port.removeDevices config s.headEnd
      let left : Binding := { b with port := removed.1, references := b.references - 1 }
      have released : (atPort { b with references := b.references - 1 } (removeDevices config)).on
          (recount b.number (· - 1) s) = (.ok (), { s with headEnd := removed.2 }.putBinding left) := by
        rw [atPort_on, removeDevices_on]
        exact congrArg _ (putBinding_recount left _ removed.2 s)
      have there : ({ s with headEnd := removed.2 }.putBinding left).binding? b.number = some left :=
        Service.binding?_putBinding (b := left) found
      simp only [on_modify_bind]
      rw [on_bind, released]
      simp only [closePort_on, there, Service.retire_putBinding]
      split <;> rfl
  · rw [if_neg running, if_pos (by simp [running])]

end Service

end Procedure

namespace Service

section Refused

variable {s : Service} {b : Binding} {method : FrameMethod} {config : ListenConfig} {free : Bool}
  {now number : Nat} {e : GatewayError}

theorem bind_refused (refused : (s.bind method config free now).1 = .error e) :
    (s.bind method config free now).2 = s := by
  rw [bind] at refused ⊢
  cases free with
  | false => rfl
  | true =>
    simp only [Bool.not_true, Bool.false_eq_true, if_false] at refused ⊢
    generalize Port.addDevices _ config s.headEnd now = added at refused ⊢
    cases added with
    | error e => rfl
    | ok done => cases refused

theorem join_refused (refused : (s.join b method config now).1 = .error e) :
    (s.join b method config now).2 = s := by
  rw [join] at refused ⊢
  by_cases clash : b.port.method ≠ method
  · rw [if_pos clash]
  · rw [if_neg clash] at refused ⊢
    cases updated : b.port.updateDevices config s.headEnd now with
    | error e => rfl
    | ok done =>
      rw [updated] at refused
      cases refused

theorem addListen_refused (refused : (s.addListen config free now).1 = .error e) :
    (s.addListen config free now).2 = s := by
  rw [addListen] at refused ⊢
  cases running : s.running with
  | false => rfl
  | true =>
    simp only [running, Bool.not_true, Bool.false_eq_true, if_false] at refused ⊢
    cases known : config.frameMethod with
    | error e => rfl
    | ok method =>
      simp only [known] at refused ⊢
      cases found : s.binding? config.port with
      | none =>
        simp only [found] at refused
        exact bind_refused refused
      | some b =>
        simp only [found] at refused
        exact join_refused refused

theorem removeListen_refused (refused : (s.removeListen number config).1 = .error e) :
    (s.removeListen number config).2 = s := by
  rw [removeListen] at refused ⊢
  cases running : s.running with
  | false => rfl
  | true =>
    simp only [running, Bool.not_true, Bool.false_eq_true, if_false] at refused ⊢
    cases found : s.binding? number with
    | none => rfl
    | some b =>
      rw [found] at refused
      cases refused

end Refused

theorem refusal_of_on {s : Service} {p : Procedure Service Unit} {c : Call} {o : Overview}
    {r : Except GatewayError Unit × Service} (whole : p.on s = r) (step : Step s.overview c r.1 o)
    (kept : ∀ e, r.1 = .error e → r.2 = s) (e : GatewayError) (t : Service)
    (given_up : p.on s = (.error e, t)) : t = s ∧ Refusal s.overview c e := by
  obtain rfl : r = (.error e, t) := whole.symm.trans given_up
  refine ⟨kept e rfl, ?_⟩
  cases step with
  | refused why => exact why

theorem refused_calls_leave_no_trace (timeout : Nat) (converters : Converters) (calls : List Call) :
    let s := run timeout converters calls
    (∀ config free now,
      (Procedure.addListen config free now).on s = s.addListen config free now ∧
      ∀ e t, (Procedure.addListen config free now).on s = (.error e, t) →
        t = s ∧ Refusal s.overview (.add config free now) e) ∧
    ∀ number config,
      (Procedure.removeListen number config).on s = s.removeListen number config ∧
      ∀ e t, (Procedure.removeListen number config).on s = (.error e, t) →
        t = s ∧ Refusal s.overview (.remove number config) e := by
  intro s
  have sound := run_sound timeout converters calls
  constructor
  · intro config free now
    have whole := Procedure.addListen_on sound config free now
    exact ⟨whole, refusal_of_on whole (addListen_step sound config free now) fun _ => addListen_refused⟩
  · intro number config
    have whole := Procedure.removeListen_on number config s
    exact ⟨whole, refusal_of_on whole (removeListen_step sound number config) fun _ => removeListen_refused⟩

def pump (converter : Option String) (method : String) : ListenConfig where
  port := 5000
  method
  accessToken := "p"
  converter
  devices := [{ deviceName := "meter" }]

theorem refused_calls_leave_no_trace_pump :
    let s := run 100 .default [.add (pump none "meter") true 0]
    (Procedure.addListen (pump (some "text") "meter") true 1).on s =
      (.error (.converterNotFound "text"), s) ∧
    (Procedure.addListen (pump none "rtu") true 1).on s =
      (.error (.config (.methodClash 5000 .meter .rtu)), s) ∧
    (Procedure.removeListen 5001 (pump none "meter")).on s = (.error (.noListener 5001), s) ∧
    s.headEnd.isRegistered "meter" = true := by
  intro s
  obtain ⟨adding, removing⟩ := refused_calls_leave_no_trace 100 .default [.add (pump none "meter") true 0]
  have unknown : (Procedure.addListen (pump (some "text") "meter") true 1).on s =
      (.error (.converterNotFound "text"), _) := Prod.ext rfl rfl
  have clash : (Procedure.addListen (pump none "rtu") true 1).on s =
      (.error (.config (.methodClash 5000 .meter .rtu)), _) := Prod.ext rfl rfl
  have unbound : (Procedure.removeListen 5001 (pump none "meter")).on s =
      (.error (.noListener 5001), _) := Prod.ext rfl rfl
  refine ⟨?_, ?_, ?_, rfl⟩
  · rw [unknown, ((adding _ _ _).2 _ _ unknown).1]
  · rw [clash, ((adding _ _ _).2 _ _ clash).1]
  · rw [unbound, ((removing _ _).2 _ _ unbound).1]

end Service

end MeterGateway
