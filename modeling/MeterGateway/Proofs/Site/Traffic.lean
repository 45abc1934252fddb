import MeterGateway.Proofs.Registry.Devices
import MeterGateway.Site

namespace MeterGateway

/-- Whether an action comes from the connections, the clock or a caller, and not from the service. -/
def Action.isTraffic : Action → Bool
  | .addDevices _ | .updateDevices _ | .removeDevices _ | .stop => false
  | _ => true

theorem Registry.lasting_update {r : Registry} {name : String} {record record' : Record}
    (distinct : r.names.Nodup) (held : r.get? name = some record)
    (same : record'.lasting = record.lasting) : (r.update record').lasting = r.lasting := by
  have mine : record ∈ r.devices := List.mem_of_find?_eq_some held
  have name_eq : record'.name = record.name := congrArg (·.config.deviceName) same
  simp only [update, lasting, List.map_map]
  congr 1
  apply List.map_congr_left
  intro d inside
  by_cases named : d.name = record'.name
  · have only : d = record := List.inj_on_of_nodup_map distinct inside mine (named.trans name_eq)
    simp only [Function.comp_apply, if_pos named]
    rw [same, only]
  · simp only [Function.comp_apply, if_neg named]

namespace Port

def stock (p : Port) : FrameMethod × Registry := (p.method, p.registry.lasting)

variable (p : Port)

@[simp] theorem putSession_stock (s : Session) : (p.putSession s).stock = p.stock := rfl

@[simp] theorem settle_stock (settled : List (Nat × Outcome)) : (p.settle settled).stock = p.stock := rfl

@[simp] theorem notify_stock (e : Event) : (p.notify e).stock = p.stock := by
  unfold notify
  split <;> rfl

@[simp] theorem tell_stock (session : Nat) (accepted : Bool) :
    (p.tell session accepted).stock = p.stock := by
  unfold tell
  split <;> rfl

@[simp] theorem hear_stock (session : Nat) (notice : Notice) :
    (p.hear session notice).stock = p.stock := by
  unfold hear
  split <;> simp

@[simp] theorem reschedule_stock (token : String) (now : Nat) :
    (p.reschedule token now).stock = p.stock := by
  unfold reschedule
  simp only
  split <;> rfl

@[simp] theorem authenticate_stock (session : Nat) (token : String) (now : Nat) :
    (p.authenticate session token now).stock = p.stock := by
  unfold authenticate
  split <;> simp
  rfl

@[simp] theorem disconnect_stock (session now : Nat) : (p.disconnect session now).stock = p.stock := by
  unfold disconnect
  split
  · rfl
  · simp only
    split
    · rw [reschedule_stock]
      rfl
    · rfl

end Port

namespace Site

def stock (s : Site) : (FrameMethod × Registry) × HeadEnd := (s.port.stock, s.headEnd.lasting)

variable (s : Site)

@[simp] theorem take_stock (t : Session.Turn) : (s.take t).stock = s.stock := by
  unfold take stock
  cases t.notice <;> simp

@[simp] theorem withSession_stock (id : Nat) (turn : Session → Session.Turn) :
    (s.withSession id turn).stock = s.stock := by
  unfold withSession
  split <;> simp

@[simp] theorem accept_stock : s.accept.stock = s.stock := by
  unfold accept
  split
  · rw [take_stock]
    rfl
  · rfl

@[simp] theorem post_stock (session : Nat) (requests : List WireRequest) :
    (s.post session requests).stock = s.stock := by
  induction requests generalizing s with
  | nil => rfl
  | cons request rest ih =>
    rw [post, ih, withSession_stock]
    rfl

@[simp] theorem poll_stock (device : String) (kind : PollKind) :
    (s.poll device kind).stock = s.stock := by
  unfold poll
  split
  · rfl
  split
  · rfl
  split
  · rfl
  simp only
  split
  · rfl
  · rw [post_stock]
    rfl

@[simp] theorem completePoll_stock (device : String) (kind : PollKind) :
    (s.completePoll device kind).stock = s.stock := by
  unfold completePoll stock
  split
  · rfl
  · simp only [Port.notify_stock]
    rfl

@[simp] theorem reply_stock (call : Nat) (r : RpcReply) : (s.reply call r).stock = s.stock := rfl

@[simp] theorem call_stock (number : Nat) (request : RpcRequest) :
    (s.call number request).stock = s.stock := by
  unfold call
  split
  · rw [reply_stock]
  · rw [post_stock]
    rfl

@[simp] theorem completeCall_stock (number : Nat) : (s.completeCall number).stock = s.stock := by
  unfold completeCall
  split
  · rfl
  · simp only
    split <;> rfl

variable {s}

theorem forward_stock (distinct : s.port.registry.names.Nodup) (device : String) (kind : PollKind)
    (report : Report) (now : Nat) : (s.forward device kind report now).stock = s.stock := by
  unfold forward
  simp only
  split
  · rfl
  · rename_i record held
    have kept := Registry.lasting_update distinct held (record.filterChanges_lasting report now)
    split
    · simp only [stock, Port.stock, kept]
    · simp only [stock, Port.stock, count, kept]
      rfl

theorem respond_stock (distinct : s.port.registry.names.Nodup) (now : Nat) (e : Event) :
    (s.respond now e).stock = s.stock := by
  cases e with
  | notice session notice =>
    cases notice with
    | connected => rfl
    | authenticate token => simp [respond, stock]
    | disconnected => simp [respond, stock]
  | pollDue device kind => exact s.poll_stock device kind
  | pollCompleted device kind report => exact forward_stock distinct device kind report now

theorem handle_stock (distinct : s.port.registry.names.Nodup) (now : Nat) :
    (s.handle now).stock = s.stock := by
  unfold handle
  split
  · rfl
  · rename_i e inbox _
    exact respond_stock (s := { s with port := { s.port with inbox } }) distinct now e

@[simp] theorem fire_stock (task now : Nat) : (s.fire task now).stock = s.stock := by
  unfold fire
  split
  · rfl
  · simp only [stock, Port.notify_stock]
    rfl

theorem traffic_stock (distinct : s.port.registry.names.Nodup) (now : Nat) {a : Action}
    (traffic : a.isTraffic = true) : (s.act now a).stock = s.stock := by
  cases a with
  | accept => exact s.accept_stock
  | arrive | read | obey | heed | expire => exact s.withSession_stock _ _
  | fire task => exact fire_stock task now
  | handle => exact handle_stock distinct now
  | completePoll device kind => exact s.completePoll_stock device kind
  | completeCall number => exact s.completeCall_stock number
  | call number request =>
    simp only [act, whileRunning]
    split
    · exact s.call_stock number request
    · rfl
  | addDevices | updateDevices | removeDevices | stop => cases traffic

end Site

end MeterGateway
