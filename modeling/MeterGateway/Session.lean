import MeterGateway.Bytes.Utf8
import MeterGateway.Framer
import MeterGateway.Line

/-!
One connection of a device.  The first bytes that arrive on it are its token; once that is accepted
the rest are frames.  Everyone else reaches a session only through the commands posted to it.
-/

namespace MeterGateway

inductive SessionCommand
  | execute : (ticket : Nat) → WireRequest → SessionCommand
  | close : SessionCommand
  deriving DecidableEq

def SessionCommand.refusal : SessionCommand → List (Nat × Outcome)
  | execute ticket _ => [(ticket, .failed .notConnected)]
  | close => []

/-- What comes in on a connection.  After a reset nothing can be written to it. -/
inductive Arrival
  | bytes : Bytes → Arrival
  | ended : Arrival
  | reset : Arrival
  deriving DecidableEq

/-- A session that has asked about its token does nothing else before it is told the verdict. -/
inductive Phase
  | reading : Phase
  | asking : (token : String) → Phase
  | told : (token : String) → (accepted : Bool) → Phase
  | ended : Phase
  deriving DecidableEq

inductive Notice
  | connected : Notice
  | authenticate : (token : String) → Notice
  | disconnected : Notice
  deriving DecidableEq

structure Session where
  id : Nat
  framer : Framer
  line : Line
  token : Option String := none
  phase : Phase := .reading
  commands : List SessionCommand := []
  arrivals : List Arrival := []
  writable : Bool := true
  deriving DecidableEq

namespace Session

structure Turn where
  session : Session
  sent : Option Bytes := none
  settled : List (Nat × Outcome) := []
  metrics : List Metric := []
  notice : Option Notice := none

def start (id : Nat) (method : FrameMethod) (timeout : Nat) : Turn where
  session := { id, framer := { method }, line := { timeout } }
  metrics := [.sessionsOpened]
  notice := some .connected

def hasEnded (s : Session) : Bool := s.phase = .ended

/-- Every request of the session is settled at its end, also one it has not come to yet. -/
def finish (s : Session) : Turn :=
  let closing := s.line.close
  { session := { s with line := closing.line, phase := .ended, commands := [], arrivals := [] }
    settled := closing.settled ++ s.commands.flatMap SessionCommand.refusal
    metrics := closing.metrics ++ [.sessionsClosed]
    notice := some .disconnected }

/-- Carries out a turn of the line.  A frame that cannot be written ends the session. -/
def follow (s : Session) (t : Line.Turn) : Turn :=
  let s := { s with line := t.line }
  match t.sent with
  | none => { session := s, settled := t.settled, metrics := t.metrics }
  | some frame =>
    if s.writable then
      { session := s, sent := some frame, settled := t.settled, metrics := t.metrics ++ [.framesSent] }
    else
      let last := s.finish
      { last with settled := t.settled ++ last.settled, metrics := t.metrics ++ last.metrics }

def post (s : Session) (command : SessionCommand) : Turn :=
  if s.hasEnded then { session := s, settled := command.refusal }
  else { session := { s with commands := s.commands ++ [command] } }

def arrive (s : Session) (a : Arrival) : Session :=
  if s.hasEnded then s
  else { s with arrivals := s.arrivals ++ [a], writable := s.writable && a ≠ .reset }

def ask (s : Session) (token : Bytes) : Turn :=
  match Utf8.decode? token with
  | some token => { session := { s with phase := .asking token }, notice := some (.authenticate token) }
  | none =>
    let last := s.finish
    { last with metrics := .authRejected :: last.metrics }

def read (s : Session) (now : Nat) : Turn :=
  match s.phase with
  | .reading =>
    match s.framer.next with
    | (some (.token token), framer) => { s with framer }.ask token
    | (some (.frame frame), framer) => { s with framer }.follow (s.line.receive frame now)
    | (none, framer) =>
      match s.arrivals with
      | [] => { session := { s with framer } }
      | .bytes bytes :: arrivals => { session := { s with framer := framer.push bytes, arrivals } }
      | .ended :: _ | .reset :: _ => { s with framer }.finish
  | _ => { session := s }

def obey (s : Session) (now : Nat) : Turn :=
  match s.phase, s.commands with
  | .reading, .execute ticket request :: commands =>
    { s with commands }.follow (s.line.submit ticket request now)
  | .reading, .close :: commands => { s with commands }.finish
  | _, _ => { session := s }

def expire (s : Session) (now : Nat) : Turn :=
  match s.phase with
  | .reading => s.follow (s.line.expire now)
  | _ => { session := s }

def tell (s : Session) (accepted : Bool) : Session :=
  match s.phase with
  | .asking token => { s with phase := .told token accepted }
  | _ => s

def heed (s : Session) : Turn :=
  match s.phase with
  | .told token true =>
    { session := { s with phase := .reading, token := some token, framer := s.framer.authenticate }
      metrics := [.authAccepted] }
  | .told _ false =>
    let last := s.finish
    { last with metrics := .authRejected :: last.metrics }
  | _ => { session := s }

def canRead (s : Session) : Bool :=
  s.phase = .reading && (!s.arrivals.isEmpty || s.framer.next.1.isSome)

def canObey (s : Session) : Bool := s.phase = .reading && !s.commands.isEmpty

def canHeed (s : Session) : Bool :=
  match s.phase with
  | .told _ _ => true
  | _ => false

def deadline (s : Session) : Option Nat := if s.phase = .reading then s.line.deadline else none

end Session

end MeterGateway
