import MeterGateway.Proofs.Site.Devices
import MeterGateway.Proofs.Site.Postings

/-!
Remote calls.  The first check that fails decides the error of a call; one that passes them all posts
one request to one session.  Either way it is replied to once, at once or after its ticket is settled,
and nothing that happens at the port in the meantime can prevent that or add to it.
-/

namespace MeterGateway

open Registry

namespace Port

def Serves (p : Port) (token : String) (id : Nat) : Prop :=
  ∃ client ∈ p.clients, client.session = id ∧ client.token = some token ∧ p.isOpen id = true

inductive Ruling (p : Port) (request : RpcRequest) : Except GatewayError (Nat × WireRequest) → Prop
  | unknown : (∀ r ∈ p.registry.devices, r.name ≠ request.device) →
      Ruling p request (.error (.deviceNotFound request.device))
  | unreachable {r} : p.registry.get? request.device = some r → (∀ id, ¬ p.Serves r.token id) →
      Ruling p request (.error (.noActiveConnection request.device))
  | unconfigured {r id} : p.registry.get? request.device = some r → p.Serves r.token id →
      (∀ command ∈ r.config.rpc, command.tag ≠ request.method) →
      Ruling p request (.error (.unknownMethod request.method))
  | unconverted {r id command e} : p.registry.get? request.device = some r → p.Serves r.token id →
      r.config.rpcCommand? request.method = some command →
      (r.downlink command request.params).result = .error e →
      Ruling p request (.error (.converter e))
  | unwritten {r id command payload e} : p.registry.get? request.device = some r →
      p.Serves r.token id → r.config.rpcCommand? request.method = some command →
      (r.downlink command request.params).result = .ok payload →
      WireRequest.write p.method r.config command payload = .error e → Ruling p request (.error e)
  | accepted {r id command payload wire} : p.registry.get? request.device = some r →
      p.Serves r.token id → r.config.rpcCommand? request.method = some command →
      (r.downlink command request.params).result = .ok payload →
      WireRequest.write p.method r.config command payload = .ok wire →
      Ruling p request (.ok (id, wire))

theorem not_serves {p : Port} {token : String} (silent : p.activeSession? token = none) (id : Nat) :
    ¬ p.Serves token id := by
  rintro ⟨client, known, rfl, owned, opened⟩
  have active := activeSession?_isSome.mpr ⟨client, known, owned, opened⟩
  rw [silent] at active
  cases active

theorem prepare_ruling (p : Port) (request : RpcRequest) : p.Ruling request (p.prepare request) := by
  unfold prepare
  split
  case h_1 gone =>
    apply Ruling.unknown
    simpa [Registry.get?] using gone
  case h_2 r found =>
    split
    case h_1 silent => exact .unreachable found (not_serves silent)
    case h_2 id active =>
      have serves : p.Serves r.token id := activeSession?_eq_some active
      split
      case h_1 missing =>
        apply Ruling.unconfigured found serves
        simpa [DeviceConfig.rpcCommand?] using missing
      case h_2 command configured =>
        split
        case h_1 e failed => exact .unconverted found serves configured failed
        case h_2 payload converted =>
          cases written : WireRequest.write p.method r.config command payload with
          | error e => exact .unwritten found serves configured converted written
          | ok wire => exact .accepted found serves configured converted written

end Port

namespace Exchange

theorem settle_settle (e : Exchange) (settled more : List (Nat × Outcome)) :
    (e.settle settled).settle more = e.settle (settled ++ more) := by
  simp only [settle, List.lookup_append]
  cases e.outcome <;> simp

theorem settle_of_reply {e : Exchange} {reply : RpcReply} (replied : e.reply? = some reply)
    (settled : List (Nat × Outcome)) : e.settle settled = e := by
  obtain ⟨outcome, own, -⟩ := Option.map_eq_some_iff.mp replied
  have kept : (e.outcome <|> settled.lookup e.ticket) = e.outcome := by
    rw [own]
    rfl
  rw [settle, kept]

theorem reply?_isSome {e : Exchange} : e.reply?.isSome = e.outcome.isSome := by
  simp [reply?]

theorem isOver_of_reply {e : Exchange} {reply : RpcReply} (replied : e.reply? = some reply) :
    e.isOver e.call = true := by
  have settled : e.reply?.isSome = true := Option.isSome_of_mem replied
  exact isOver_iff.mpr ⟨rfl, e.reply?_isSome.symm.trans settled⟩

theorem reply?_echoes {e : Exchange} {reply : RpcReply} (replied : e.reply? = some reply) :
    reply.device = e.request.device ∧ reply.id = e.request.id ∧ reply.method = e.request.method := by
  obtain ⟨outcome, -, rfl⟩ := Option.map_eq_some_iff.mp replied
  cases outcome <;> exact ⟨rfl, rfl, rfl⟩

end Exchange

def Action.isCall : Action → Bool
  | .call _ _ | .completeCall _ => true
  | _ => false

def Happening.Calls (x : Happening) (number : Nat) : Prop :=
  ∃ now request, x = .act now (.call number request)

namespace Site

def settles (s : Site) : Happening → List (Nat × Outcome)
  | .act now a =>
    match a.move? with
    | some (id, m) => ((s.port.session? id).map fun c => (c.turn now m).settled).getD []
    | none => []
  | .elsewhere _ => []

def settlements (s : Site) : List Happening → List (Nat × Outcome)
  | [] => []
  | x :: course => s.settles x ++ (s.happen x).settlements course

def later (s : Site) (course : List Happening) : Site := course.foldl happen s

def exchange (s : Site) (number : Nat) (request : RpcRequest) (wire : WireRequest) : Exchange where
  call := number
  request := request
  wire := wire
  ticket := s.port.nextTicket

@[simp] theorem exchange_call (s : Site) (number : Nat) (request : RpcRequest) (wire : WireRequest) :
    (s.exchange number request wire).call = number := rfl

inductive CallStep (s : Site) (now : Nat) (a : Action) :
    List Exchange → List (Nat × RpcReply) → Prop
  | kept : (∀ number, a = .completeCall number → ∀ e ∈ s.port.exchanges, e.isOver number = false) →
      (∀ number request, a = .call number request → s.port.running = false) →
      CallStep s now a (s.port.exchanges.map (·.settle (s.settles (.act now a)))) []
  | completed {before e after reply} : a = .completeCall e.call →
      s.port.exchanges = before ++ e :: after → (∀ x ∈ before, x.isOver e.call = false) →
      e.reply? = some reply → CallStep s now a (before ++ after) [(e.call, reply)]
  | refused {number request e} : a = .call number request → s.port.running = true →
      s.port.prepare request = .error e →
      CallStep s now a s.port.exchanges [(number, .failure request e.message)]
  | accepted {number request id wire} : a = .call number request → s.port.running = true →
      s.port.prepare request = .ok (id, wire) →
      CallStep s now a (s.port.exchanges ++ [s.exchange number request wire]) []

/-- Callers and the head end are told the same. -/
def Tells (s s' : Site) (answers : List (Nat × RpcReply)) : Prop :=
  s'.journal.answers = s.journal.answers ++ answers ∧
    s'.headEnd.replies = s.headEnd.replies ++ answers.map Prod.snd

theorem Tells.silent {s s' : Site} (answers : s'.journal.answers = s.journal.answers)
    (replies : s'.headEnd.replies = s.headEnd.replies) : s.Tells s' [] :=
  ⟨answers.trans (List.append_nil _).symm, replies.trans (List.append_nil _).symm⟩

def Replies (s : Site) (now : Nat) (a : Action) (s' : Site) (answers : List (Nat × RpcReply)) : Prop :=
  s.CallStep now a s'.port.exchanges answers ∧ s.Tells s' answers

variable {s s' : Site} {now : Nat} {a : Action} {number : Nat} {request : RpcRequest}

theorem settles_idle (s : Site) (now : Nat) (still : a.move? = none) :
    s.settles (.act now a) = [] := by
  simp only [settles, still]

theorem settles_absent (now : Nat) {id : Nat} {m : Session.Move} (move : a.move? = some (id, m))
    (absent : s.port.session? id = none) : s.settles (.act now a) = [] := by
  simp only [settles, move, absent]
  rfl

theorem settles_move (now : Nat) {id : Nat} {m : Session.Move} {c : Session}
    (move : a.move? = some (id, m)) (present : s.port.session? id = some c) :
    s.settles (.act now a) = (c.turn now m).settled := by
  simp only [settles, move, present]
  rfl

theorem CallStep.idle (s : Site) (now : Nat) (still : a.move? = none)
    (unsettled : ∀ number, a = .completeCall number → ∀ e ∈ s.port.exchanges, e.isOver number = false)
    (untaken : ∀ number request, a = .call number request → s.port.running = false) :
    s.CallStep now a s.port.exchanges [] := by
  have kept : s.CallStep now a _ [] := .kept unsettled untaken
  rw [s.settles_idle now still] at kept
  simpa using kept

theorem split_of_find? {α : Type} {p : α → Bool} {l : List α} {x : α} (found : l.find? p = some x) :
    ∃ before after, l = before ++ x :: after ∧ (∀ y ∈ before, p y = false) ∧ p x = true ∧
      l.eraseP p = before ++ after := by
  obtain ⟨fits, before, after, split, others⟩ := List.find?_eq_some_iff_append.mp found
  refine ⟨before, after, split, by simpa using others, fits, ?_⟩
  rw [split, List.eraseP_append_right _ (by simpa using others)]
  exact congrArg (before ++ ·) (List.eraseP_cons_of_pos fits)

theorem completeCall_calls (s : Site) (now number : Nat) :
    ∃ answers, s.Replies now (.completeCall number) (s.completeCall number) answers := by
  cases found : s.port.exchanges.find? (·.isOver number) with
  | none =>
    refine ⟨[], ?_⟩
    simp only [completeCall, found]
    refine ⟨.idle s now rfl ?_ nofun, .silent rfl rfl⟩
    intro other same e mem
    cases same
    simpa using List.find?_eq_none.mp found e mem
  | some e =>
    obtain ⟨before, after, split, unsettled, fits, rest⟩ := split_of_find? found
    obtain ⟨rfl, settled⟩ := Exchange.isOver_iff.mp fits
    obtain ⟨reply, replied⟩ := Option.isSome_iff_exists.mp (e.reply?_isSome.trans settled)
    refine ⟨[(e.call, reply)], ?_⟩
    simp only [completeCall, found, replied, rest]
    exact ⟨.completed rfl split unsettled replied, rfl, rfl⟩

theorem call_calls (s : Site) (now : Nat) (running : s.port.running = true) (number : Nat)
    (request : RpcRequest) :
    ∃ answers, s.Replies now (.call number request) (s.call number request) answers := by
  cases prepared : s.port.prepare request with
  | error e =>
    refine ⟨[(number, .failure request e.message)], ?_⟩
    simp only [call, prepared]
    exact ⟨.refused rfl running prepared, rfl, rfl⟩
  | ok target =>
    obtain ⟨id, wire⟩ := target
    obtain ⟨c, -, -, called⟩ := s.call_accepted number prepared
    rw [called]
    exact ⟨[], .accepted rfl running prepared, .silent rfl rfl⟩

theorem move_calls (s : Site) (now : Nat) {id : Nat} {m : Session.Move} (move : a.move? = some (id, m)) :
    s.Replies now a (s.withSession id (·.turn now m)) [] := by
  have kept : s.CallStep now a (s.port.exchanges.map (·.settle (s.settles (.act now a)))) [] := by
    apply CallStep.kept
    all_goals
      intros
      subst a
      cases move
  cases present : s.port.session? id with
  | none =>
    rw [settles_absent now move present] at kept
    simp only [withSession, present]
    exact ⟨by simpa using kept, .silent rfl rfl⟩
  | some c =>
    rw [settles_move now move present] at kept
    simp only [withSession, present, take_eq]
    exact ⟨kept, .silent rfl rfl⟩

theorem Step.calls_kept (step : s.Step now a s') (still : a.move? = none) (other : a.isCall = false) :
    s.Replies now a s' [] := by
  have kept : s.CallStep now a s.port.exchanges [] := by
    apply CallStep.idle s now still
    all_goals
      intros
      subst a
      cases other
  have unanswered : ∀ s'' : Site, s''.port.exchanges = s.port.exchanges →
      s''.journal.answers = s.journal.answers → s''.headEnd.replies = s.headEnd.replies →
      s.Replies now a s'' [] := by
    intro s'' same answers replies
    exact ⟨same ▸ kept, .silent answers replies⟩
  cases step with
  | moved move =>
    rw [still] at move
    cases move
  | handled _ response => cases response <;> exact unanswered _ rfl rfl rfl
  | answered | declined | called => cases other
  | added _ ok => exact unanswered _ rfl rfl (edited_of_edit (x := .add _) ok).replies
  | updated _ ok => exact unanswered _ rfl rfl (edited_of_edit (x := .update _) ok).replies
  | removed => exact unanswered _ rfl rfl (HeadEnd.unregisterAll_replies _ _)
  | _ => exact unanswered _ rfl rfl rfl

theorem act_calls (s : Site) (now : Nat) (a : Action) :
    ∃ answers, s.Replies now a (s.act now a) answers := by
  cases a with
  | arrive id arrival =>
    exact ⟨[], s.move_calls now (a := .arrive id arrival) (m := .arrive arrival) rfl⟩
  | read id => exact ⟨[], s.move_calls now (a := .read id) (m := .read) rfl⟩
  | obey id => exact ⟨[], s.move_calls now (a := .obey id) (m := .obey) rfl⟩
  | heed id => exact ⟨[], s.move_calls now (a := .heed id) (m := .heed) rfl⟩
  | expire id => exact ⟨[], s.move_calls now (a := .expire id) (m := .expire) rfl⟩
  | completeCall number => exact s.completeCall_calls now number
  | call number request =>
    simp only [act, whileRunning]
    split
    case isTrue running => exact s.call_calls now running number request
    case isFalse stopped =>
      have closed : s.port.running = false := by simpa using stopped
      refine ⟨[], .idle s now rfl ?_ fun _ _ _ => closed, .silent rfl rfl⟩
      intro _ done
      cases done
  | _ => exact ⟨[], (s.act_step now _).calls_kept rfl rfl⟩

theorem act_tells (s : Site) (now : Nat) (a : Action) : ∃ answers, s.Tells (s.act now a) answers := by
  obtain ⟨answers, -, told⟩ := s.act_calls now a
  exact ⟨answers, told⟩

/-! ### One call -/

def underWay (s : Site) (number : Nat) : List Exchange := s.port.exchanges.filter (·.call = number)

def answersTo (s : Site) (number : Nat) : List RpcReply :=
  (s.journal.answers.filter (·.1 = number)).map Prod.snd

variable {x : Happening} {e : Exchange}

theorem underWay_settle (exchanges : List Exchange) (settled : List (Nat × Outcome)) (number : Nat) :
    (exchanges.map (·.settle settled)).filter (·.call = number) =
      (exchanges.filter (·.call = number)).map (·.settle settled) := by
  rw [List.filter_map]
  rfl

/-- A call goes on until it is replied to, whatever other calls do. -/
theorem happen_call (s : Site) (other : ¬ x.Calls number) :
    ((s.happen x).underWay number = (s.underWay number).map (·.settle (s.settles x)) ∧
      (s.happen x).answersTo number = s.answersTo number) ∨
    ∃ before e after reply, s.underWay number = before ++ e :: after ∧ e.reply? = some reply ∧
      (s.happen x).underWay number = before ++ after ∧
      (s.happen x).answersTo number = s.answersTo number ++ [reply] := by
  cases x with
  | elsewhere headEnd =>
    left
    simp only [settles, Exchange.settle_nil, List.map_id']
    exact ⟨rfl, rfl⟩
  | act now a =>
    obtain ⟨answers, step, told, -⟩ := s.act_calls now a
    have quiet : ∀ n request, a = .call n request → n ≠ number := by
      rintro n request rfl rfl
      exact other ⟨now, request, rfl⟩
    simp only [underWay, answersTo, happen, told, List.filter_append, List.map_append]
    generalize (s.act now a).port.exchanges = exchanges at step
    cases step with
    | kept => exact .inl ⟨underWay_settle _ _ _, List.append_nil _⟩
    | @completed before e after reply done split unsettled replied =>
      subst done
      rw [split, s.settles_idle now rfl]
      by_cases mine : e.call = number
      · right
        refine ⟨_, e, _, reply, ?_, replied, List.filter_append .., ?_⟩
        · rw [List.filter_append, List.filter_cons_of_pos (by simpa using mine)]
        · simp [mine]
      · left
        simp [mine]
    | @refused n _ _ called =>
      subst called
      rw [s.settles_idle now rfl]
      left
      simp [quiet n _ rfl]
    | @accepted n _ _ _ called =>
      subst called
      rw [s.settles_idle now rfl]
      left
      simp [quiet n _ rfl]

theorem happen_over (s : Site) (other : ¬ x.Calls number) (nothing : s.underWay number = []) :
    (s.happen x).underWay number = [] ∧ (s.happen x).answersTo number = s.answersTo number := by
  obtain ⟨same, unanswered⟩ | ⟨before, e, after, _, held, -⟩ := s.happen_call other
  · rw [nothing] at same
    exact ⟨same, unanswered⟩
  · rw [nothing] at held
    exact absurd held (by simp)

theorem later_over (s : Site) {course : List Happening} (others : ∀ x ∈ course, ¬ x.Calls number)
    (nothing : s.underWay number = []) :
    (s.later course).underWay number = [] ∧ (s.later course).answersTo number = s.answersTo number := by
  induction course generalizing s with
  | nil => exact ⟨nothing, rfl⟩
  | cons x course ih =>
    obtain ⟨other, others⟩ := List.forall_mem_cons.mp others
    obtain ⟨still, same⟩ := s.happen_over other nothing
    obtain ⟨last, all⟩ := ih (s.happen x) others still
    exact ⟨last, all.trans same⟩

/-- A call is owed its reply as long as its exchange is under way, and then has it. -/
inductive Owes (s : Site) (number : Nat) (e : Exchange) : Prop
  | still : s.underWay number = [e] → s.answersTo number = [] → Owes s number e
  | paid {reply} : e.reply? = some reply → s.underWay number = [] → s.answersTo number = [reply] →
      Owes s number e

theorem Owes.happen {s : Site} (owes : s.Owes number e) (other : ¬ x.Calls number) :
    (s.happen x).Owes number (e.settle (s.settles x)) := by
  cases owes with
  | still held unanswered =>
    obtain ⟨same, silent⟩ | ⟨before, e', after, reply, split, replied, rest, told⟩ := s.happen_call other
    · rw [held] at same
      exact .still same (silent.trans unanswered)
    · obtain ⟨rfl, rfl, rfl⟩ : before = [] ∧ e' = e ∧ after = [] := by
        simpa [List.singleton_eq_append_iff] using held.symm.trans split
      rw [Exchange.settle_of_reply replied]
      rw [unanswered] at told
      exact .paid replied rest told
  | paid replied nothing told =>
    obtain ⟨still, same⟩ := s.happen_over other nothing
    rw [Exchange.settle_of_reply replied]
    exact .paid replied still (same.trans told)

theorem Owes.later {s : Site} (owes : s.Owes number e) {course : List Happening}
    (others : ∀ x ∈ course, ¬ x.Calls number) :
    (s.later course).Owes number (e.settle (s.settlements course)) := by
  induction course generalizing s e with
  | nil =>
    rw [settlements, Exchange.settle_nil]
    exact owes
  | cons x course ih =>
    obtain ⟨other, others⟩ := List.forall_mem_cons.mp others
    have rest := ih (owes.happen other) others
    rw [Exchange.settle_settle] at rest
    exact rest

theorem Owes.completed {s : Site} (owes : s.Owes number e) (own : e.call = number) {reply : RpcReply}
    (replied : e.reply? = some reply) (now : Nat) :
    (s.act now (.completeCall number)).underWay number = [] ∧
      (s.act now (.completeCall number)).answersTo number = [reply] := by
  cases owes with
  | still held unanswered =>
    have mem : e ∈ s.port.exchanges := (List.mem_filter.mp (held ▸ List.mem_singleton_self e)).1
    have fits : e.isOver number = true := own ▸ Exchange.isOver_of_reply replied
    obtain ⟨answers, step, told, -⟩ := s.act_calls now (.completeCall number)
    rw [underWay] at held ⊢
    rw [answersTo] at unanswered ⊢
    generalize (s.act now (.completeCall number)).port.exchanges = exchanges at step
    cases step with
    | kept idle =>
      rw [idle number rfl e mem] at fits
      cases fits
    | @completed before e' after reply' done split _ other =>
      cases done
      rw [split, List.filter_append, List.filter_cons_of_pos (by simp)] at held
      obtain ⟨first, rfl, last⟩ : before.filter (·.call = e'.call) = [] ∧ e' = e ∧
          after.filter (·.call = e'.call) = [] := by
        simpa [List.append_eq_singleton_iff] using held
      obtain rfl := Option.some.inj (replied.symm.trans other)
      refine ⟨by rw [List.filter_append, first, last]; rfl, ?_⟩
      rw [told, List.filter_append, List.map_append, unanswered]
      simp
    | refused called | accepted called => cases called
  | paid same nothing told =>
    have other : ¬ Happening.Calls (.act now (.completeCall number)) number := by simp [Happening.Calls]
    obtain ⟨still, unchanged⟩ := s.happen_over other nothing
    rw [replied] at same
    cases same
    exact ⟨still, unchanged.trans told⟩

theorem Owes.replied {s : Site} (owes : s.Owes number e) (own : e.call = number) {reply : RpcReply}
    (replied : e.reply? = some reply) {course : List Happening}
    (others : ∀ x ∈ course, ¬ x.Calls number) {time : Nat}
    (completes : .act time (.completeCall number) ∈ course) :
    (s.later course).answersTo number = [reply] := by
  obtain ⟨before, after, rfl⟩ := List.append_of_mem completes
  have first := owes.later fun x mem => others x (List.mem_append_left _ mem)
  rw [Exchange.settle_of_reply replied] at first
  obtain ⟨nothing, told⟩ := first.completed own replied time
  have rest := later_over _
    (fun x mem => others x (List.mem_append_right _ (List.mem_cons_of_mem _ mem))) nothing
  have split : s.later (before ++ .act time (.completeCall number) :: after) =
      ((s.later before).act time (.completeCall number)).later after := List.foldl_append
  rw [split, rest.2, told]

theorem later_nextTicket_le (s : Site) (course : List Happening) :
    s.port.nextTicket ≤ (s.later course).port.nextTicket := by
  induction course generalizing s with
  | nil => exact Nat.le_refl _
  | cons x course ih =>
    refine Nat.le_trans ?_ (ih (s.happen x))
    cases x with
    | act now a => exact (s.act_step now a).nextTicket_le
    | elsewhere headEnd => exact Nat.le_refl _

structure Refused (s s' : Site) (number : Nat) (request : RpcRequest) (course : List Happening)
    (e : GatewayError) : Prop where
  port : s'.port = s.port
  replied : s'.answersTo number = [.failure request e.message]
  only : (s'.later course).answersTo number = [.failure request e.message]

structure Accepted (s s' : Site) (number : Nat) (course : List Happening) (id : Nat) (e : Exchange) :
    Prop where
  /-- One request is posted, and to this session. -/
  posted : ∀ other, s'.waitingAt other =
    s.waitingAt other ++ if other = id then [(e.ticket, e.wire)] else []
  /-- What is posted after it is for polls and other calls, under other tickets. -/
  unrepeated : ∀ before time a after other, course = before ++ .act time a :: after →
    let here := s'.later before
    here.PostStep a other ((here.act time a).waitingAt other) ∧
      ((here.act time a).waitingAt other).countP (·.1 = e.ticket) ≤
        (here.waitingAt other).countP (·.1 = e.ticket)
  /-- It is replied to with the first outcome that its ticket is settled with. -/
  owes : (s'.later course).Owes number (e.settle (s'.settlements course))
  /-- Once there is an outcome the call only has to be completed, whatever else happens and in whatever
  order other calls are. -/
  replied : ∀ reply, (e.settle (s'.settlements course)).reply? = some reply → ∀ more time,
    (∀ x ∈ more, ¬ x.Calls number) → .act time (.completeCall number) ∈ more →
    ((s'.later course).later more).answersTo number = [reply]

structure Served (s s' : Site) (number : Nat) (request : RpcRequest) (course : List Happening) :
    Prop where
  ruled : s.port.Ruling request (s.port.prepare request)
  refused : ∀ e, s.port.prepare request = .error e → s.Refused s' number request course e
  accepted : ∀ id wire, s.port.prepare request = .ok (id, wire) →
    s.Accepted s' number course id (s.exchange number request wire)
  once : (s'.later course).answersTo number = [] ∨ ∃ reply,
    (s'.later course).answersTo number = [reply] ∧
      reply.device = request.device ∧ reply.id = request.id ∧ reply.method = request.method
  told : (∃ answers, s.Tells s' answers) ∧ ∀ before time a after,
    course = before ++ .act time a :: after →
      ∃ answers, (s'.later before).Tells ((s'.later before).act time a) answers

theorem act_refused (s : Site) (now number : Nat) (course : List Happening) {e : GatewayError}
    (running : s.port.running = true) (new : s.underWay number = [] ∧ s.answersTo number = [])
    (others : ∀ x ∈ course, ¬ x.Calls number) (error : s.port.prepare request = .error e) :
    s.Refused (s.act now (.call number request)) number request course e := by
  have replied : s.act now (.call number request) = s.reply number (.failure request e.message) := by
    rw [s.act_call now running]
    simp only [call, error]
  have first : (s.act now (.call number request)).answersTo number = [.failure request e.message] := by
    have before := new.2
    rw [answersTo] at before
    rw [replied, answersTo, reply, Journal.answer]
    simp [Journal.count, before]
  have same : (s.act now (.call number request)).port = s.port := by
    rw [replied]
    rfl
  have ended : (s.act now (.call number request)).underWay number = [] := by
    rw [underWay, same]
    exact new.1
  exact ⟨same, first, (later_over _ others ended).2.trans first⟩

theorem act_accepted (s : Site) (now number : Nat) (course : List Happening) {id : Nat}
    {wire : WireRequest} (running : s.port.running = true)
    (new : s.underWay number = [] ∧ s.answersTo number = [])
    (others : ∀ x ∈ course, ¬ x.Calls number) (ok : s.port.prepare request = .ok (id, wire)) :
    s.Accepted (s.act now (.call number request)) number course id
      (s.exchange number request wire) := by
  obtain ⟨c, present, -, called⟩ := s.call_accepted number ok
  have owes : (s.call number request).Owes number (s.exchange number request wire) := by
    rw [called]
    have before := new.1
    rw [underWay] at before
    exact .still (by simp [underWay, before, exchange]) new.2
  have next : s.port.nextTicket < (s.call number request).port.nextTicket := by
    rw [called]
    exact Nat.lt_succ_self _
  have queued : (s.call number request).port.sessions =
      (s.port.putSession (c.queue s.port.nextTicket [wire])).sessions := by
    rw [called]
  rw [s.act_call now running]
  refine ⟨waitingAt_queue present queued, ?_, owes.later others, ?_⟩
  · intro before time a after other _ here
    have step := (here.act_step time a).postStep other
    exact ⟨step, step.unrepeated (Nat.lt_of_lt_of_le next (later_nextTicket_le _ before))⟩
  · intro reply replied more time others' completes
    exact (owes.later others).replied rfl replied others' completes

theorem each_call_is_replied_to_once (s : Site) (now number : Nat) (request : RpcRequest)
    (course : List Happening) (running : s.port.running = true)
    (new : s.underWay number = [] ∧ s.answersTo number = [])
    (others : ∀ x ∈ course, ¬ x.Calls number) :
    s.Served (s.act now (.call number request)) number request course := by
  have refused : ∀ e, s.port.prepare request = .error e →
      s.Refused (s.act now (.call number request)) number request course e :=
    fun e => s.act_refused now number course running new others
  have accepted : ∀ id wire, s.port.prepare request = .ok (id, wire) →
      s.Accepted (s.act now (.call number request)) number course id
        (s.exchange number request wire) :=
    fun id wire => s.act_accepted now number course running new others
  refine ⟨s.port.prepare_ruling request, refused, accepted, ?_, s.act_tells now _, ?_⟩
  · cases prepared : s.port.prepare request with
    | error e => exact .inr ⟨_, (refused e prepared).only, rfl, rfl, rfl⟩
    | ok target =>
      obtain ⟨id, wire⟩ := target
      cases (accepted id wire prepared).owes with
      | still _ none => exact .inl none
      | paid replied _ only => exact .inr ⟨_, only, Exchange.reply?_echoes replied⟩
  · intro before time a _ _
    exact act_tells _ time a

end Site

namespace Opening

def relay : List Happening :=
  .act 0 (.addDevices { stand "quay" "k" with
    devices := [{ deviceName := "relay-1", rpc := [{ tag := "switch" }] }] }) :: greeting.tail

def switchOn : RpcRequest := ⟨"relay-1", 5, "switch", .obj [("value", .ofNat 1)]⟩

def switched : List Happening :=
  [.act 10 (.obey 0), .act 20 (.arrive 0 (.bytes [1, 6, 0, 0, 0, 1, 0x48, 0x0A])), .act 20 (.read 0),
    .act 20 (.read 0), .act 20 (.completeCall 7)]

theorem each_call_is_replied_to_once_switchOn :
    let s := trial.after relay
    let s' := s.act 10 (.call 7 switchOn)
    s.port.running = true ∧ (s.underWay 7 = [] ∧ s.answersTo 7 = []) ∧
      (∀ x ∈ switched, ¬ x.Calls 7) ∧ s.Served s' 7 switchOn switched ∧
      s'.waitingAt 0 = [(0, .rtu ⟨1, .writeSingleRegister, 0, 1, [0, 1]⟩)] ∧
      ((s'.later switched).answersTo 7).map RpcReply.isError = [false] := by
  have running : (trial.after relay).port.running = true := rfl
  have new : (trial.after relay).underWay 7 = [] ∧ (trial.after relay).answersTo 7 = [] := ⟨rfl, rfl⟩
  have others : ∀ x ∈ switched, ¬ x.Calls 7 := by simp [switched, Happening.Calls]
  exact ⟨running, new, others, Site.each_call_is_replied_to_once _ _ _ _ _ running new others,
    by decide +kernel, by decide +kernel⟩

end Opening

end MeterGateway
