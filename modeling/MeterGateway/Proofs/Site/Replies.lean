import MeterGateway.Proofs.Json
import MeterGateway.Proofs.Site.Calls

/-!
What replies tell of the calls that have come to an end.  A call that was resolved is replied to with
its method and the acknowledgement, any other with an error and its text, so that the results of the
two are never equal.  What counts as an error is told from the name of the only member, though, and a
method can have that name.
-/

namespace MeterGateway

inductive Ending
  | refused : GatewayError → Ending
  | settled : WireRequest → Outcome → Ending

namespace Ending

def acknowledged? : Ending → Option Bool
  | settled wire (.resolved response) => some (wire.acknowledgedBy response)
  | _ => none

def describe : Ending → String
  | refused e => e.message
  | settled _ outcome => outcome.describe

end Ending

structure Ended where
  call : Nat
  request : RpcRequest
  ending : Ending

namespace Ended

def reply (e : Ended) : RpcReply :=
  match e.ending.acknowledged? with
  | some acknowledged => .success e.request acknowledged
  | none => .failure e.request e.ending.describe

def answer (e : Ended) : Nat × RpcReply := (e.call, e.reply)

/-- The method has the name under which errors are reported. -/
def isAmbiguous (e : Ended) : Bool := e.request.method = RpcReply.errorKey

variable {e : Ended}

theorem reply_of_resolved {acknowledged : Bool} (resolved : e.ending.acknowledged? = some acknowledged) :
    e.reply = .success e.request acknowledged := by
  rw [reply, resolved]

theorem reply_of_unresolved (unresolved : e.ending.acknowledged? = none) :
    e.reply = .failure e.request e.ending.describe := by
  rw [reply, unresolved]

theorem isError_reply (e : Ended) :
    e.reply.isError = (e.ending.acknowledged?.isNone || e.isAmbiguous) := by
  cases ending : e.ending.acknowledged? with
  | some acknowledged =>
    rw [reply_of_resolved ending, RpcReply.isError, RpcReply.success, Json.member?, isAmbiguous]
    by_cases same : e.request.method = RpcReply.errorKey
    · simp [same]
    · simp [same, Ne.symm same, List.lookup_cons, beq_false_of_ne]
  | none =>
    rw [reply_of_unresolved ending]
    simp [RpcReply.isError, RpcReply.failure, Json.member?]

end Ended

namespace Ended

structure Tells (e : Ended) : Prop where
  echoes : e.reply.device = e.request.device ∧ e.reply.id = e.request.id ∧
    e.reply.method = e.request.method
  resolved : ∀ acknowledged, e.ending.acknowledged? = some acknowledged →
    e.reply.result = .obj [(e.request.method, .bool acknowledged)]
  unresolved : e.ending.acknowledged? = none →
    e.reply.result = .obj [("error", .str e.ending.describe)]
  isError : e.reply.isError = true ↔
    e.ending.acknowledged? = none ∨ e.request.method = "error"

theorem tells (e : Ended) : e.Tells where
  echoes := by
    rw [reply]
    split <;> exact ⟨rfl, rfl, rfl⟩
  resolved _ resolved := congrArg RpcReply.result (reply_of_resolved resolved)
  unresolved unresolved := congrArg RpcReply.result (reply_of_unresolved unresolved)
  isError := by
    rw [isError_reply, Bool.or_eq_true, Option.isNone_iff_eq_none, isAmbiguous, decide_eq_true_iff]
    rfl

theorem results_differ (e e' : Ended) (resolved : e.ending.acknowledged?.isSome)
    (unresolved : e'.ending.acknowledged? = none) : e.reply.result.same e'.reply.result = false := by
  obtain ⟨acknowledged, own⟩ := Option.isSome_iff_exists.mp resolved
  rw [e.tells.resolved _ own, e'.tells.unresolved unresolved, Bool.eq_false_iff, Ne, Json.same_iff]
  simp [Json.plain, Json.plainMembers]

end Ended

namespace Exchange

def ended? (e : Exchange) : Option Ended :=
  e.outcome.map fun outcome => ⟨e.call, e.request, .settled e.wire outcome⟩

theorem ended?_of_reply {e : Exchange} {reply : RpcReply} (replied : e.reply? = some reply) :
    ∃ ending, e.ended? = some ending ∧ ending.answer = (e.call, reply) := by
  obtain ⟨outcome, own, rfl⟩ := Option.map_eq_some_iff.mp replied
  refine ⟨⟨e.call, e.request, .settled e.wire outcome⟩, by rw [ended?, own]; rfl, ?_⟩
  cases outcome <;> rfl

end Exchange

/-! ### What is counted -/

def Metric.ofReplies : Metric → Bool
  | rpcSuccess | rpcFailure => true
  | _ => false

def RpcReply.metric (r : RpcReply) : Metric := if r.isError then .rpcFailure else .rpcSuccess

theorem Ended.metric_reply (e : Ended) : e.reply.metric =
    if e.ending.acknowledged?.isNone || e.isAmbiguous then .rpcFailure else .rpcSuccess := by
  rw [RpcReply.metric, e.isError_reply]

def Silent (metrics : List Metric) : Prop := ∀ m ∈ metrics, m.ofReplies = false

theorem Silent.append {xs ys : List Metric} (first : Silent xs) (second : Silent ys) : Silent (xs ++ ys) := by
  intro m mem
  exact (List.mem_append.mp mem).elim (first m) (second m)

theorem Silent.count {metrics : List Metric} (silent : Silent metrics) {m : Metric}
    (replies : m.ofReplies = true) : metrics.count m = 0 := by
  rw [List.count_eq_zero]
  intro mem
  rw [silent m mem] at replies
  cases replies

theorem Line.Step.metrics_silent {l : Line} {ticket : Nat} {c : Line.Call} {t : Line.Turn}
    (step : Line.Step l ticket c t) : Silent t.metrics := by
  have judged : ∀ request frame, (judge request frame).2.ofReplies = false := by
    intro request frame
    unfold judge
    split
    · split <;> rfl
    · rfl
  cases step with
  | closed => simp [Silent, close, Metric.ofReplies]
  | answered => simp [Silent, judged]
  | _ => simp [Silent, Metric.ofReplies]

namespace Session

theorem finish_silent (s : Session) : Silent s.finish.metrics := by
  have step : s.line.Step 0 .close s.line.close := .closed
  exact step.metrics_silent.append (by simp [Silent, Metric.ofReplies])

theorem follow_silent (s : Session) {t : Line.Turn} (silent : Silent t.metrics) :
    Silent (s.follow t).metrics := by
  simp only [follow]
  split
  · exact silent
  · split
    · exact silent.append (by simp [Silent, Metric.ofReplies])
    · exact silent.append (finish_silent _)

theorem Step.metrics_silent {s : Session} {now : Nat} {m : Move} {t : Turn} (step : Step s now m t) :
    Silent t.metrics := by
  have rejected : ∀ c : Session, Silent (.authRejected :: c.finish.metrics) := by
    intro c
    have verdict : Silent [.authRejected] := by simp [Silent, Metric.ofReplies]
    exact verdict.append c.finish_silent
  cases step with
  | received => exact follow_silent _ (Line.receive_step _ 0 _ _).metrics_silent
  | submitted => exact follow_silent _ (Line.submit_step _ _ _ _).metrics_silent
  | expired => exact follow_silent _ (Line.expire_step _ 0 _).metrics_silent
  | hungUp | closed => exact finish_silent _
  | illegible | dismissed => exact rejected _
  | _ => simp [Silent, Metric.ofReplies]

end Session

namespace Site

variable {s s' : Site} {now : Nat} {a : Action}

/-- These replies were given between the two, and each was counted once, as what it is. -/
def Counts (s s' : Site) (answers : List (Nat × RpcReply)) : Prop :=
  s'.journal.answers = s.journal.answers ++ answers ∧
    ∀ m : Metric, m.ofReplies = true → s'.journal.metrics.count m =
      s.journal.metrics.count m + answers.countP fun answer => answer.2.metric = m

theorem Counts.silent (metrics : List Metric) (silent : Silent metrics)
    (same : s'.journal.answers = s.journal.answers)
    (counted : s'.journal.metrics = s.journal.metrics ++ metrics) : s.Counts s' [] := by
  refine ⟨by rw [same, List.append_nil], ?_⟩
  intro m replies
  rw [counted, List.count_append, silent.count replies, List.countP_nil]

theorem Counts.unchanged (same : s'.journal = s.journal) : s.Counts s' [] := by
  refine .silent [] ?_ (by rw [same]) (by rw [same, List.append_nil])
  simp [Silent]

theorem reply_counts (s : Site) (call : Nat) (reply : RpcReply) :
    s.Counts (s.reply call reply) [(call, reply)] := by
  refine ⟨rfl, ?_⟩
  intro m _
  rw [List.countP_singleton]
  exact (List.count_append ..).trans (congrArg _ (List.count_singleton ..))

theorem Step.counts (step : s.Step now a s') : ∃ answers, s.Counts s' answers := by
  cases step with
  | accepted => exact ⟨[], .silent [.sessionsOpened] (by simp [Silent, Metric.ofReplies]) rfl rfl⟩
  | moved _ _ turn =>
    rw [take_eq]
    exact ⟨[], .silent _ turn.metrics_silent rfl rfl⟩
  | handled _ response =>
    cases response with
    | unreachable =>
      exact ⟨[], .silent [.pollsSkipped] (by simp [Silent, Metric.ofReplies]) rfl rfl⟩
    | forwarded =>
      exact ⟨[], .silent [.payloadsForwarded] (by simp [Silent, Metric.ofReplies]) rfl rfl⟩
    | _ => exact ⟨[], .unchanged rfl⟩
  | answered => exact ⟨_, reply_counts _ _ _⟩
  | declined => exact ⟨_, reply_counts _ _ _⟩
  | _ => exact ⟨[], .unchanged rfl⟩

/-! ### The calls that end -/

/-- The calls that end in a happening: the one that comes in, if a check refuses it, or the one that
is completed, if it has its outcome. -/
def ended (s : Site) : Happening → List Ended
  | .act _ (.call number request) =>
    if s.port.running then
      match s.port.prepare request with
      | .error e => [⟨number, request, .refused e⟩]
      | .ok _ => []
    else []
  | .act _ (.completeCall number) =>
    ((s.port.exchanges.find? (·.isOver number)).bind Exchange.ended?).toList
  | _ => []

def endings (s : Site) : List Happening → List Ended
  | [] => []
  | x :: course => s.ended x ++ (s.happen x).endings course

theorem ended_call (s : Site) (now number : Nat) (request : RpcRequest)
    (running : s.port.running = true) :
    s.ended (.act now (.call number request)) =
      match s.port.prepare request with
      | .error e => [⟨number, request, .refused e⟩]
      | .ok _ => [] := by
  rw [ended, if_pos running]

theorem ended_still (s : Site) (now : Nat) (other : a.isCall = false) : s.ended (.act now a) = [] := by
  cases a with
  | call | completeCall => cases other
  | _ => rfl

theorem CallStep.replies {exchanges : List Exchange} {answers : List (Nat × RpcReply)}
    (step : s.CallStep now a exchanges answers) :
    answers = (s.ended (.act now a)).map Ended.answer := by
  cases step with
  | kept unsettled untaken =>
    cases a with
    | call number request => simp [ended, untaken number request rfl]
    | completeCall number =>
      have nothing : s.port.exchanges.find? (·.isOver number) = none :=
        List.find?_eq_none.mpr fun e mem => by simp [unsettled number rfl e mem]
      rw [ended, nothing]
      rfl
    | _ => rw [ended_still s now rfl, List.map_nil]
  | @completed before e after reply done split unsettled replied =>
    subst done
    obtain ⟨ending, own, told⟩ := Exchange.ended?_of_reply replied
    have found : s.port.exchanges.find? (·.isOver e.call) = some e :=
      List.find?_eq_some_iff_append.mpr
        ⟨Exchange.isOver_of_reply replied, before, after, split, by simpa using unsettled⟩
    rw [ended, found, Option.bind_some, own]
    exact congrArg ([·]) told.symm
  | refused called running prepared =>
    subst called
    rw [ended_call s now _ _ running, prepared]
    rfl
  | accepted called running prepared =>
    subst called
    rw [ended_call s now _ _ running, prepared]
    rfl

structure Accounts (s s' : Site) (endings : List Ended) : Prop where
  replied : s'.journal.answers = s.journal.answers ++ endings.map Ended.answer
  succeeded : s'.journal.metrics.count .rpcSuccess = s.journal.metrics.count .rpcSuccess +
    endings.countP fun e => e.ending.acknowledged?.isSome && !e.isAmbiguous
  failed : s'.journal.metrics.count .rpcFailure = s.journal.metrics.count .rpcFailure +
    endings.countP fun e => e.ending.acknowledged?.isNone || e.isAmbiguous

theorem Accounts.trans {s₁ s₂ s₃ : Site} {first second : List Ended} (before : s₁.Accounts s₂ first)
    (after : s₂.Accounts s₃ second) : s₁.Accounts s₃ (first ++ second) where
  replied := by rw [after.replied, before.replied, List.map_append, List.append_assoc]
  succeeded := by rw [after.succeeded, before.succeeded, List.countP_append, Nat.add_assoc]
  failed := by rw [after.failed, before.failed, List.countP_append, Nat.add_assoc]

theorem Step.accounts (step : s.Step now a s') {endings : List Ended}
    (replied : s'.journal.answers = s.journal.answers ++ endings.map Ended.answer) :
    s.Accounts s' endings := by
  obtain ⟨answers, told, counted⟩ := step.counts
  obtain rfl : answers = endings.map Ended.answer := List.append_cancel_left (told.symm.trans replied)
  have success : ∀ e : Ended, (decide (e.answer.2.metric = .rpcSuccess)) =
      (e.ending.acknowledged?.isSome && !e.isAmbiguous) := by
    intro e
    rw [Ended.answer, e.metric_reply]
    cases e.ending.acknowledged? <;> cases e.isAmbiguous <;> rfl
  have failure : ∀ e : Ended, (decide (e.answer.2.metric = .rpcFailure)) =
      (e.ending.acknowledged?.isNone || e.isAmbiguous) := by
    intro e
    rw [Ended.answer, e.metric_reply]
    cases e.ending.acknowledged? <;> cases e.isAmbiguous <;> rfl
  refine ⟨replied, (counted .rpcSuccess rfl).trans ?_, (counted .rpcFailure rfl).trans ?_⟩
  · rw [List.countP_map, ← funext success]
    rfl
  · rw [List.countP_map, ← funext failure]
    rfl

theorem happen_accounts (s : Site) (x : Happening) : s.Accounts (s.happen x) (s.ended x) := by
  cases x with
  | elsewhere headEnd => exact ⟨(List.append_nil _).symm, rfl, rfl⟩
  | act now a =>
    obtain ⟨answers, step, told, -⟩ := s.act_calls now a
    exact (s.act_step now a).accounts (step.replies ▸ told)

theorem later_accounts (s : Site) (course : List Happening) :
    s.Accounts (s.later course) (s.endings course) := by
  induction course generalizing s with
  | nil => exact ⟨(List.append_nil _).symm, rfl, rfl⟩
  | cons x course ih => exact (s.happen_accounts x).trans (ih (s.happen x))

theorem replies_tell_endings (s : Site) (course : List Happening) :
    s.Accounts (s.later course) (s.endings course) ∧
      (∀ e : Ended, e.Tells) ∧
      ∀ e e' : Ended, e.ending.acknowledged?.isSome → e'.ending.acknowledged? = none →
        e.reply.result.same e'.reply.result = false :=
  ⟨s.later_accounts course, Ended.tells, Ended.results_differ⟩

end Site

namespace Opening

theorem replies_tell_endings_switchOn :
    let s := trial.after relay
    let course := .act 10 (.call 7 switchOn) :: switched
    let refused : Ended := ⟨8, switchOn, .refused (.noActiveConnection "relay-1")⟩
    ((s.endings course).map fun e => (e.call, e.ending.acknowledged?)) = [(7, some true)] ∧
      refused.ending.acknowledged? = none ∧
      (∀ e ∈ s.endings course, e.reply.result.same refused.reply.result = false) ∧
      (s.later course).journal.metrics.count .rpcSuccess = 1 := by
  intro s course refused
  have acknowledged : ((s.endings course).map fun e => (e.call, e.ending.acknowledged?)) =
      [(7, some true)] := by decide +kernel
  obtain ⟨accounts, -, differ⟩ := s.replies_tell_endings course
  refine ⟨acknowledged, rfl, ?_, ?_⟩
  · intro e ended
    have own := List.mem_map_of_mem (f := fun e => (e.call, e.ending.acknowledged?)) ended
    rw [acknowledged, List.mem_singleton, Prod.mk.injEq] at own
    exact differ e refused (by rw [own.2]; rfl) rfl
  · rw [accounts.succeeded]
    decide +kernel

def siren : List Happening :=
  .act 0 (.addDevices { stand "quay" "k" with
    devices := [{ deviceName := "relay-1", rpc := [{ tag := "error" }] }] }) :: greeting.tail

def soundError : RpcRequest := ⟨"relay-1", 5, "error", .obj [("value", .ofNat 1)]⟩

/-- The device acknowledges a call, and this counts as a failure. -/
theorem acknowledged_call_counts_as_failure :
    let course := .act 10 (.call 7 soundError) :: switched
    (((trial.after siren).endings course).map fun e => (e.call, e.ending.acknowledged?)) =
        [(7, some true)] ∧
      (((trial.after siren).later course).answersTo 7).map RpcReply.isError = [true] ∧
      ((trial.after siren).later course).journal.metrics.count .rpcSuccess = 0 ∧
      ((trial.after siren).later course).journal.metrics.count .rpcFailure = 1 := by
  decide +kernel

end Opening

end MeterGateway
