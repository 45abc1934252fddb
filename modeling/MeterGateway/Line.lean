import MeterGateway.Metric
import MeterGateway.Wire

/-!
The half-duplex line of one connection.  At most one request is in flight; others wait in the order
in which they were submitted.  A request is settled once, by a frame that answers it, by its
deadline, by the end of the connection, or at once when it cannot be sent.  Each submission is
known by the ticket that its submitter gave it.
-/

namespace MeterGateway

inductive FailureReason
  | notConnected : FailureReason
  | checksumMismatch : FailureReason
  | codec : CodecError → FailureReason
  deriving DecidableEq

inductive Outcome
  | resolved : WireResponse → Outcome
  | failed : FailureReason → Outcome
  | timedOut : Outcome
  deriving DecidableEq

def Outcome.describe : Outcome → String
  | resolved _ => "resolved"
  | failed .notConnected => "not connected"
  | failed .checksumMismatch => "checksum mismatch"
  | failed (.codec e) => "codec error: " ++ e.message
  | timedOut => "request timed out"

structure Pending where
  ticket : Nat
  tid : UInt8
  request : WireRequest
  frame : Bytes
  deriving DecidableEq

structure InFlight where
  pending : Pending
  deadline : Nat
  deriving DecidableEq

structure Line where
  timeout : Nat
  nextTid : UInt8 := 0
  inFlight : Option InFlight := none
  queue : List Pending := []
  connected : Bool := true
  deriving DecidableEq

namespace Line

/-- What an operation leaves behind: the line, the frame to send now, the tickets it settles, and
what it counts. -/
structure Turn where
  line : Line
  sent : Option Bytes := none
  settled : List (Nat × Outcome) := []
  metrics : List Metric := []

def start (l : Line) (p : Pending) (now : Nat) : Line :=
  { l with inFlight := some ⟨p, now + l.timeout⟩ }

def advance (l : Line) (now : Nat) (settled : List (Nat × Outcome)) (metrics : List Metric) : Turn :=
  match l.queue with
  | [] => { line := { l with inFlight := none }, settled, metrics }
  | p :: queue =>
    { line := { l with queue }.start p now, sent := some p.frame, settled, metrics }

/-- A number is spent on every request of a live connection, also on one that cannot be encoded. -/
def submit (l : Line) (ticket : Nat) (request : WireRequest) (now : Nat) : Turn :=
  if l.connected then
    let tid := l.nextTid
    let l := { l with nextTid := tid + 1 }
    match request.encode tid with
    | .error e =>
      { line := l, settled := [(ticket, .failed (.codec e))], metrics := [.requestsFailed] }
    | .ok frame =>
      let p : Pending := ⟨ticket, tid, request, frame⟩
      match l.inFlight with
      | some _ => { line := { l with queue := l.queue ++ [p] } }
      | none => { line := l.start p now, sent := some frame }
  else
    { line := l, settled := [(ticket, .failed .notConnected)], metrics := [.requestsFailed] }

def judge (request : WireRequest) (frame : Bytes) : Outcome × Metric :=
  match request.decodeResponse frame with
  | .ok response =>
    if response.checksumOk then (.resolved response, .responsesMatched)
    else (.failed .checksumMismatch, .checksumMismatches)
  | .error e => (.failed (.codec e), .requestsFailed)

def receive (l : Line) (frame : Bytes) (now : Nat) : Turn :=
  match l.inFlight with
  | none => { line := l, metrics := [.responsesUnmatched] }
  | some current =>
    let p := current.pending
    if p.request.correlates p.tid frame then
      let (outcome, metric) := judge p.request frame
      l.advance now [(p.ticket, outcome)] [metric]
    else { line := l, metrics := [.responsesUnmatched] }

def expire (l : Line) (now : Nat) : Turn :=
  match l.inFlight with
  | none => { line := l }
  | some current =>
    if current.deadline ≤ now then
      l.advance now [(current.pending.ticket, .timedOut)] [.requestsTimedOut]
    else { line := l }

def outstanding (l : Line) : List Pending := (l.inFlight.map InFlight.pending).toList ++ l.queue

theorem outstanding_of_inFlight {l : Line} {f : InFlight} (h : l.inFlight = some f) :
    l.outstanding = f.pending :: l.queue := by
  simp [outstanding, h]

theorem outstanding_of_free {l : Line} (h : l.inFlight = none) : l.outstanding = l.queue := by
  simp [outstanding, h]

def close (l : Line) : Turn where
  line := { l with inFlight := none, queue := [], connected := false }
  settled := l.outstanding.map fun p => (p.ticket, .failed .notConnected)
  metrics := l.outstanding.map fun _ => .requestsFailed

@[simp] theorem close_outstanding (l : Line) : l.close.line.outstanding = [] := rfl

def deadline (l : Line) : Option Nat := l.inFlight.map InFlight.deadline

section Advance

variable (l : Line) (now : Nat) (settled : List (Nat × Outcome)) (metrics : List Metric)

@[simp] theorem advance_settled : (l.advance now settled metrics).settled = settled := by
  cases h : l.queue <;> simp [advance, h]

@[simp] theorem advance_metrics : (l.advance now settled metrics).metrics = metrics := by
  cases h : l.queue <;> simp [advance, h]

@[simp] theorem advance_sent :
    (l.advance now settled metrics).sent = l.queue.head?.map Pending.frame := by
  cases h : l.queue <;> simp [advance, h]

@[simp] theorem advance_inFlight :
    (l.advance now settled metrics).line.inFlight =
      l.queue.head?.map fun p => ⟨p, now + l.timeout⟩ := by
  cases h : l.queue <;> simp [advance, start, h]

@[simp] theorem advance_queue : (l.advance now settled metrics).line.queue = l.queue.tail := by
  cases h : l.queue <;> simp [advance, start, h]

@[simp] theorem advance_connected :
    (l.advance now settled metrics).line.connected = l.connected := by
  cases h : l.queue <;> simp [advance, start, h]

@[simp] theorem advance_timeout : (l.advance now settled metrics).line.timeout = l.timeout := by
  cases h : l.queue <;> simp [advance, start, h]

@[simp] theorem advance_nextTid : (l.advance now settled metrics).line.nextTid = l.nextTid := by
  cases h : l.queue <;> simp [advance, start, h]

@[simp] theorem advance_outstanding :
    (l.advance now settled metrics).line.outstanding = l.queue := by
  cases h : l.queue <;> simp [outstanding, h]

end Advance

theorem judge_of_resolved {request : WireRequest} {frame : Bytes} {response : WireResponse}
    (h : (judge request frame).1 = .resolved response) :
    request.decodeResponse frame = .ok response ∧ response.checksumOk = true := by
  unfold judge at h
  split at h
  · rename_i r decoded
    split at h
    · rename_i ok
      injection h with h
      exact h ▸ ⟨decoded, ok⟩
    · cases h
  · cases h

end Line

end MeterGateway
