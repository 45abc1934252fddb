import MeterGateway.Config
import MeterGateway.Meter.Stream
import MeterGateway.Modbus.Response

namespace MeterGateway

def FrameMethod.scan : FrameMethod → Bytes → Scan
  | .meter => Meter.scan
  | .rtu => Modbus.scan

theorem FrameMethod.scan_fits (method : FrameMethod) (bytes : Bytes) :
    (method.scan bytes).Fits bytes.length := by
  cases method with
  | meter => exact Meter.scan_fits bytes
  | rtu => exact Modbus.scan_fits bytes

inductive Inbound
  | token : Bytes → Inbound
  | frame : Bytes → Inbound
  deriving DecidableEq

structure Framer where
  method : FrameMethod
  authenticated : Bool := false
  buffer : Bytes := []
  deriving DecidableEq

namespace Framer

/-- A buffer that grows beyond this without holding a frame is given up. -/
def maxBuffer : Nat := 8192

def cut (method : FrameMethod) (buffer : Bytes) : Option Bytes × Bytes :=
  match _h : method.scan buffer with
  | .incomplete => (none, if maxBuffer < buffer.length then [] else buffer)
  | .discard n => cut method (buffer.drop n)
  | .frame n => (some (buffer.take n), buffer.drop n)
termination_by buffer.length
decreasing_by
  have fits := method.scan_fits buffer
  rw [_h] at fits
  simp only [Scan.Fits] at fits
  simp only [List.length_drop]
  omega

def push (f : Framer) (bytes : Bytes) : Framer := { f with buffer := f.buffer ++ bytes }

def authenticate (f : Framer) : Framer := { f with authenticated := true }

def next (f : Framer) : Option Inbound × Framer :=
  if f.buffer = [] then (none, f)
  else if f.authenticated then
    let (frame, rest) := cut f.method f.buffer
    (frame.map .frame, { f with buffer := rest })
  else (some (.token f.buffer), { f with buffer := [] })

theorem cut_length_lt {method : FrameMethod} {buffer frame rest : Bytes}
    (h : cut method buffer = (some frame, rest)) : rest.length < buffer.length := by
  fun_induction cut method buffer with
  | case1 buffer hs => simp at h
  | case2 buffer n hs ih =>
    have shorter := ih h
    rw [List.length_drop] at shorter
    omega
  | case3 buffer n hs =>
    have := method.scan_fits buffer
    rw [hs] at this
    simp only [Scan.Fits] at this
    simp only [Prod.mk.injEq, Option.some.injEq] at h
    rw [← h.2, List.length_drop]
    omega

theorem next_length_lt {f g : Framer} {item : Inbound} (h : f.next = (some item, g)) :
    g.buffer.length < f.buffer.length := by
  simp only [next] at h
  split at h
  · simp at h
  · rename_i hne
    split at h
    · cases hc : cut f.method f.buffer with
      | mk frame rest =>
        rw [hc] at h
        cases frame with
        | none => simp at h
        | some frame =>
          simp only [Option.map_some, Prod.mk.injEq] at h
          rw [← h.2]
          exact cut_length_lt hc
    · simp only [Prod.mk.injEq] at h
      rw [← h.2]
      exact List.length_pos_iff.mpr hne

def drain (f : Framer) : List Inbound × Framer :=
  match h : f.next with
  | (none, g) => ([], g)
  | (some item, g) =>
    have := next_length_lt h
    let (items, rest) := drain g
    (item :: items, rest)
termination_by f.buffer.length

inductive Ending
  | item : Inbound → Ending
  | clean : Ending
  | bytesRemaining : Ending

def finish (f : Framer) : Ending × Framer :=
  match f.next with
  | (some item, g) => (.item item, g)
  | (none, g) => (if g.buffer = [] then .clean else .bytesRemaining, g)

end Framer

end MeterGateway
