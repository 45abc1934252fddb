import MeterGateway.Report

/-!
Periodic jobs, one for each device and kind of poll.  A running task is told apart from the entry in
the table of jobs: starting a job under an identifier in use stops the task that was there, and a
job that ended by itself stays in the table.
-/

namespace MeterGateway

def jobId (device : String) (kind : PollKind) : String := device ++ ":" ++ kind.name

structure PollTask where
  key : Nat
  device : String
  kind : PollKind
  period : Nat
  due : Nat
  deriving DecidableEq

namespace PollTask

def tolerance : Nat := 5

/-- The next time on the task's own grid.  A late task goes on at the first one that is still to
come. -/
def nextDue (t : PollTask) (now : Nat) : Nat :=
  if t.due + tolerance < now then now + t.period - (now - t.due) % t.period else t.due + t.period

end PollTask

structure Schedule where
  nextKey : Nat := 0
  tasks : List PollTask := []
  jobs : List (String × Nat) := []
  deriving DecidableEq

namespace Schedule

def stopTask (s : Schedule) (key : Nat) : Schedule :=
  { s with tasks := s.tasks.filter (·.key ≠ key) }

def cancelJob (s : Schedule) (id : String) : Schedule :=
  match s.jobs.lookup id with
  | some key => { s.stopTask key with jobs := s.jobs.filter (·.1 ≠ id) }
  | none => s

def start (s : Schedule) (device : String) (kind : PollKind) (period now : Nat) : Schedule :=
  let s := s.cancelJob (jobId device kind)
  let task : PollTask := ⟨s.nextKey, device, kind, period, now + period⟩
  { nextKey := s.nextKey + 1
    tasks := if period = 0 then s.tasks else s.tasks ++ [task]
    jobs := s.jobs ++ [(jobId device kind, s.nextKey)] }

def isScheduled (s : Schedule) (device : String) (kind : PollKind) : Bool :=
  (s.jobs.lookup (jobId device kind)).isSome

def cancel (s : Schedule) (device : String) (kind : PollKind) : Schedule := s.cancelJob (jobId device kind)

def cancelDevice (s : Schedule) (device : String) : Schedule :=
  (s.cancel device .attributes).cancel device .timeseries

def cancelAll (s : Schedule) : Schedule :=
  { (s.jobs.foldl (fun s job => s.stopTask job.2) s) with jobs := [] }

def size (s : Schedule) : Nat := s.jobs.length

def firstDue? (s : Schedule) (now : Nat) : Option PollTask :=
  (s.tasks.filter (·.due ≤ now)).foldl (fun best t =>
    match best with
    | some b => if t.due < b.due then some t else some b
    | none => some t) none

def rearm (s : Schedule) (key now : Nat) : Schedule :=
  { s with tasks := s.tasks.map fun t => if t.key = key then { t with due := t.nextDue now } else t }

def backlog (s : Schedule) (now : Nat) : Nat := (s.tasks.map fun t => now + 1 - t.due).foldr (· + ·) 0

/-- Lets the tasks due by `now` fire in the order of their times.  With `leap` the clock stands at
`now` for all of them, and otherwise at the time each is due.  A firing that returns false ends the
task. -/
def run (s : Schedule) (now : Nat) (leap : Bool) (fire : σ → PollTask → σ × Bool) (state : σ) :
    Schedule × σ :=
  go (s.backlog now) s state
where
  go : Nat → Schedule → σ → Schedule × σ
    | 0, s, state => (s, state)
    | fuel + 1, s, state =>
      match s.firstDue? now with
      | none => (s, state)
      | some task =>
        let (state, goesOn) := fire state task
        let clock := if leap then now else task.due
        go fuel (if goesOn then s.rearm task.key clock else s.stopTask task.key) state

end Schedule

end MeterGateway
