import Mathlib.Data.List.Induction
import MeterGateway.Line

/-!
Runs of a line.  The history of a line after any calls at any times holds what was handed in, what
was put on the wire and how it was settled.  `turn_step` says once what a call can do to a line;
statements about all histories follow from it by `history_invariant`.
-/

namespace MeterGateway.Line

inductive Call
  | submit : WireRequest → (now : Nat) → Call
  | receive : Bytes → (now : Nat) → Call
  | expire : (now : Nat) → Call
  | close : Call
  deriving DecidableEq

def turn (l : Line) (ticket : Nat) : Call → Turn
  | .submit request now => l.submit ticket request now
  | .receive frame now => l.receive frame now
  | .expire now => l.expire now
  | .close => l.close

namespace Call

def now? : Call → Option Nat
  | submit _ now | receive _ now | expire now => some now
  | close => none

def request? : Call → Option WireRequest
  | submit request _ => some request
  | _ => none

def tid? (l : Line) : Call → Option UInt8
  | submit _ _ => if l.connected then some l.nextTid else none
  | _ => none

def accepted? (l : Line) (ticket : Nat) : Call → Option Pending
  | submit request _ =>
    if l.connected then
      match request.encode l.nextTid with
      | .ok frame => some ⟨ticket, l.nextTid, request, frame⟩
      | .error _ => none
    else none
  | _ => none

end Call

def Turn.started (t : Turn) : Option Pending :=
  match t.sent with
  | some _ => t.line.inFlight.map InFlight.pending
  | none => none

def Turn.settledTickets (t : Turn) : List Nat := t.settled.map Prod.fst

/-- A line with its past.  The ticket of a request is its place among those handed in. -/
structure History where
  line : Line
  requests : List WireRequest := []
  numbered : List (Nat × UInt8) := []
  accepted : List Pending := []
  started : List Pending := []
  sent : List Bytes := []
  settled : List (Nat × Outcome) := []
  metrics : List Metric := []

namespace History

def ticket (h : History) : Nat := h.requests.length

def turn (h : History) (c : Call) : Turn := h.line.turn h.ticket c

def record (h : History) (c : Call) : History where
  line := (h.turn c).line
  requests := h.requests ++ c.request?.toList
  numbered := h.numbered ++ ((c.tid? h.line).map (h.ticket, ·)).toList
  accepted := h.accepted ++ (c.accepted? h.line h.ticket).toList
  started := h.started ++ (h.turn c).started.toList
  sent := h.sent ++ (h.turn c).sent.toList
  settled := h.settled ++ (h.turn c).settled
  metrics := h.metrics ++ (h.turn c).metrics

def settledTickets (h : History) : List Nat := h.settled.map Prod.fst

def acceptedTickets (h : History) : List Nat := h.accepted.map Pending.ticket

@[simp] theorem record_settledTickets (h : History) (c : Call) :
    (h.record c).settledTickets = h.settledTickets ++ (h.turn c).settledTickets :=
  List.map_append

end History

def history (timeout : Nat) (calls : List Call) : History :=
  calls.foldl History.record { line := { timeout } }

@[simp] theorem history_nil (timeout : Nat) : history timeout [] = { line := { timeout } } := rfl

theorem history_concat (timeout : Nat) (calls : List Call) (c : Call) :
    history timeout (calls ++ [c]) = (history timeout calls).record c := by
  simp [history]

theorem history_invariant {P : History → Prop} (timeout : Nat) (new : P { line := { timeout } })
    (keep : ∀ h c, P h → P (h.record c)) (calls : List Call) : P (history timeout calls) := by
  induction calls using List.reverseRecOn with
  | nil => exact new
  | append_singleton calls c ih =>
    rw [history_concat]
    exact keep _ c ih

inductive Step (l : Line) (ticket : Nat) : Call → Turn → Prop
  | disconnected {request now} : l.connected = false →
      Step l ticket (.submit request now)
        { line := l, settled := [(ticket, .failed .notConnected)], metrics := [.requestsFailed] }
  | unencodable {request now e} : l.connected = true → request.encode l.nextTid = .error e →
      Step l ticket (.submit request now)
        { line := { l with nextTid := l.nextTid + 1 }
          settled := [(ticket, .failed (.codec e))]
          metrics := [.requestsFailed] }
  | queued {request now frame f} : l.connected = true → request.encode l.nextTid = .ok frame →
      l.inFlight = some f →
      Step l ticket (.submit request now)
        { line := { l with
            nextTid := l.nextTid + 1
            queue := l.queue ++ [⟨ticket, l.nextTid, request, frame⟩] } }
  | started {request now frame} : l.connected = true → request.encode l.nextTid = .ok frame →
      l.inFlight = none →
      Step l ticket (.submit request now)
        { line := { l with
            nextTid := l.nextTid + 1
            inFlight := some ⟨⟨ticket, l.nextTid, request, frame⟩, now + l.timeout⟩ }
          sent := some frame }
  | unmatched {frame now} :
      (∀ f, l.inFlight = some f → f.pending.request.correlates f.pending.tid frame = false) →
      Step l ticket (.receive frame now) { line := l, metrics := [.responsesUnmatched] }
  | answered {frame now f} : l.inFlight = some f →
      f.pending.request.correlates f.pending.tid frame = true →
      Step l ticket (.receive frame now)
        (l.advance now [(f.pending.ticket, (judge f.pending.request frame).1)]
          [(judge f.pending.request frame).2])
  | early {now} : (∀ f, l.inFlight = some f → now < f.deadline) →
      Step l ticket (.expire now) { line := l }
  | late {now f} : l.inFlight = some f → f.deadline ≤ now →
      Step l ticket (.expire now)
        (l.advance now [(f.pending.ticket, .timedOut)] [.requestsTimedOut])
  | closed : Step l ticket .close l.close

theorem submit_step (l : Line) (ticket : Nat) (request : WireRequest) (now : Nat) :
    Step l ticket (.submit request now) (l.submit ticket request now) := by
  unfold submit
  split
  case isTrue connected =>
    cases encoded : request.encode l.nextTid with
    | error e =>
      simp only [encoded]
      exact .unencodable connected encoded
    | ok frame =>
      simp only [encoded]
      split
      · rename_i f flying
        exact .queued connected encoded flying
      · rename_i free
        exact .started connected encoded free
  case isFalse disconnected => exact .disconnected (by simpa using disconnected)

theorem receive_step (l : Line) (ticket : Nat) (frame : Bytes) (now : Nat) :
    Step l ticket (.receive frame now) (l.receive frame now) := by
  unfold receive
  cases flying : l.inFlight with
  | none => exact .unmatched (by simp [flying])
  | some f =>
    simp only
    split
    case isTrue correlates => exact .answered flying correlates
    case isFalse other =>
      apply Step.unmatched
      intro g hg
      rw [flying] at hg
      cases hg
      simpa using other

theorem expire_step (l : Line) (ticket : Nat) (now : Nat) :
    Step l ticket (.expire now) (l.expire now) := by
  unfold expire
  cases flying : l.inFlight with
  | none => exact .early (by simp [flying])
  | some f =>
    simp only
    split
    case isTrue due => exact .late flying due
    case isFalse early =>
      apply Step.early
      intro g hg
      rw [flying] at hg
      cases hg
      exact Nat.lt_of_not_le early

theorem turn_step (l : Line) (ticket : Nat) (c : Call) : Step l ticket c (l.turn ticket c) := by
  cases c with
  | submit request now => exact submit_step l ticket request now
  | receive frame now => exact receive_step l ticket frame now
  | expire now => exact expire_step l ticket now
  | close => exact .closed

structure Orderly (l : Line) : Prop where
  free : l.inFlight = none → l.queue = []
  closed : l.connected = false → l.inFlight = none

theorem Orderly.connected {l : Line} (o : l.Orderly) {f : InFlight} (flying : l.inFlight = some f) :
    l.connected = true := by
  cases on : l.connected with
  | true => rfl
  | false =>
    have free := o.closed on
    rw [flying] at free
    cases free

theorem Step.orderly {l : Line} {ticket : Nat} {c : Call} {t : Turn} (step : Step l ticket c t)
    (o : l.Orderly) : t.line.Orderly := by
  cases step with
  | disconnected | unmatched | early => exact o
  | unencodable => exact ⟨o.free, o.closed⟩
  | queued connected _ flying => constructor <;> simp [connected, flying]
  | started connected => constructor <;> simp [connected]
  | answered flying | late flying =>
    constructor
    · simp +contextual [List.head?_eq_none_iff]
    · simp [o.connected flying]
  | closed => constructor <;> simp [close]

theorem Step.connected {l : Line} {ticket : Nat} {c : Call} {t : Turn} (step : Step l ticket c t)
    (on : t.line.connected = true) :
    l.connected = true ∧ c ≠ .close := by
  cases step with
  | disconnected | unencodable | queued | started | unmatched | early =>
    exact ⟨on, Call.noConfusion⟩
  | answered | late => exact ⟨by simpa using on, Call.noConfusion⟩
  | closed => cases on

theorem Step.timeout_eq {l : Line} {ticket : Nat} {c : Call} {t : Turn} (step : Step l ticket c t) :
    t.line.timeout = l.timeout := by
  cases step <;> simp [close]

theorem history_orderly (timeout : Nat) (calls : List Call) :
    (history timeout calls).line.Orderly := by
  refine history_invariant (P := fun h => h.line.Orderly) timeout ?_ ?_ calls
  · exact ⟨fun _ => rfl, fun _ => rfl⟩
  · intro h c o
    exact (turn_step h.line h.ticket c).orderly o

@[simp] theorem history_timeout (timeout : Nat) (calls : List Call) :
    (history timeout calls).line.timeout = timeout := by
  refine history_invariant (P := fun h => h.line.timeout = timeout) timeout ?_ ?_ calls
  · rfl
  · intro h c ih
    exact (turn_step h.line h.ticket c).timeout_eq.trans ih

end MeterGateway.Line
