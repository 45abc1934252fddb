import MeterGateway.Proofs.Framer.Readable
import MeterGateway.Proofs.Line.Damage
import MeterGateway.Proofs.Meter.Requests

/-!
Frames with a wrong checksum that answer the request in flight.  A scanner does not look at the
checksum, so such frames reach the line, and each settles its request as failed.  A frame is cut into
fields before its checksum is compared: where the data is too short for the layout of the command,
the failure is told as one of the codec.
-/

namespace MeterGateway

namespace FrameMethod

def Cuts (method : FrameMethod) (frame : Bytes) : Prop :=
  ∃ stream n, method.scan stream = .frame n ∧ frame = stream.take n

def Mismatched (method : FrameMethod) (frame : Bytes) : Prop :=
  let covered := frame.take (frame.length - 2)
  match method with
  | .meter => frame[frame.length - 2]? ≠ some (Checksum.byteSum covered)
  | .rtu => frame.drop (frame.length - 2) ≠ Checksum.crcTrailer covered

instance (method : FrameMethod) (frame : Bytes) : Decidable (method.Mismatched frame) := by
  cases method <;> exact inferInstanceAs (Decidable (_ ≠ _))

end FrameMethod

namespace WireRequest

variable {request : WireRequest} {frame : Bytes}

def method : WireRequest → FrameMethod
  | meter _ => .meter
  | rtu _ => .rtu

/-- The data area of an answer is as long as the layout of the command asks.  What answers a register
request has a length of its own. -/
def HasRoom (request : WireRequest) (frame : Bytes) : Prop :=
  match request with
  | meter r => r.kind.responseLayout.width ≤ frame.length - 13
  | rtu _ => True

end WireRequest

theorem Meter.Frame.checksumOk_of_mismatched {layout : Layout} {bytes : Bytes} {d : Decoded}
    (read : decode layout bytes = .ok d) (line : bytes = d.frame.body ++ [d.checksum, tail])
    (wrong : FrameMethod.meter.Mismatched bytes) : d.checksumOk = false := by
  obtain ⟨more, read⟩ := exists_read read
  have place : bytes.length - 2 = d.frame.body.length := by
    rw [line, List.length_append]
    rfl
  have stands : bytes[d.frame.body.length]? = some d.checksum := by
    rw [line, List.getElem?_append_right (Nat.le_refl _), Nat.sub_self]
    rfl
  have covered : bytes.take d.frame.body.length = d.frame.body := by rw [line, List.take_left]
  rw [FrameMethod.Mismatched, place, stands, covered, ← read.summed] at wrong
  exact decide_eq_false fun same => wrong (congrArg some same)

theorem Modbus.Response.crcOk_of_mismatched {bytes : Bytes} {r : Response}
    (read : decode bytes = .ok r)
    (wrong : FrameMethod.rtu.Mismatched bytes) : r.crcOk = false := by
  unfold decode at read
  split at read
  · cases read
  · split at read
    · cases read
      exact decide_eq_false wrong
    · cases read

namespace WireRequest

variable {request : WireRequest} {frame : Bytes}

theorem decodeResponse_mismatched (cut : request.method.Cuts frame)
    (wrong : request.method.Mismatched frame) :
    (request.HasRoom frame →
      ∃ response, request.decodeResponse frame = .ok response ∧ response.checksumOk = false) ∧
    (¬ request.HasRoom frame → ∃ needed, frame.length - 13 < needed ∧
      request.decodeResponse frame = .error (.truncated needed (frame.length - 13))) := by
  obtain ⟨stream, n, cut, rfl⟩ := cut
  rw [FrameMethod.length_of_frame cut]
  cases request with
  | meter r =>
    obtain ⟨room, short⟩ := Meter.decode_scanned cut r.kind.responseLayout
    simp only [HasRoom, FrameMethod.length_of_frame cut, Nat.not_le]
    constructor
    · intro fits
      obtain ⟨d, decoded, -, line⟩ := room fits
      obtain ⟨answer, read, same, -⟩ := Meter.Response.decode_eq decoded
      refine ⟨.meter answer, ?_, same.trans (Meter.Frame.checksumOk_of_mismatched decoded line wrong)⟩
      rw [decodeResponse, read]
      rfl
    · intro lacks
      obtain ⟨needed, beyond, -, refused⟩ := short lacks
      refine ⟨needed, beyond, ?_⟩
      rw [decodeResponse, Meter.Response.decode, refused]
      rfl
  | rtu r =>
    obtain ⟨answer, decoded, -⟩ := (Modbus.isResponse_of_scan cut).told
    constructor
    · intro _
      refine ⟨.rtu answer, ?_, Modbus.Response.crcOk_of_mismatched decoded wrong⟩
      rw [decodeResponse, decoded]
      rfl
    · intro none
      exact absurd trivial none

end WireRequest

namespace Line

variable {l : Line} {f : InFlight} {request : WireRequest} {frame : Bytes}

theorem judge_of_wrong {response : WireResponse}
    (decoded : request.decodeResponse frame = .ok response)
    (wrong : response.checksumOk = false) :
    judge request frame = (.failed .checksumMismatch, .checksumMismatches) := by
  simp only [judge, decoded, wrong, Bool.false_eq_true, if_false]

theorem judge_of_refused {e : CodecError} (refused : request.decodeResponse frame = .error e) :
    judge request frame = (.failed (.codec e), .requestsFailed) := by
  simp only [judge, refused]

theorem receive_correlated (flying : l.inFlight = some f)
    (correlates : f.pending.request.correlates f.pending.tid frame = true) (now : Nat) :
    l.receive frame now =
      l.advance now [(f.pending.ticket, (judge f.pending.request frame).1)]
        [(judge f.pending.request frame).2] := by
  simp only [receive, flying, correlates, if_true]

theorem mismatched_frame_settles (flying : l.inFlight = some f)
    (cut : f.pending.request.method.Cuts frame)
    (correlates : f.pending.request.correlates f.pending.tid frame = true)
    (wrong : f.pending.request.method.Mismatched frame) (now : Nat) :
    let t := l.receive frame now
    let area := frame.length - 13
    (f.pending.request.HasRoom frame →
      t.settled = [(f.pending.ticket, .failed .checksumMismatch)] ∧
      t.metrics = [.checksumMismatches]) ∧
    (¬ f.pending.request.HasRoom frame → ∃ needed, area < needed ∧
      t.settled = [(f.pending.ticket, .failed (.codec (.truncated needed area)))] ∧
      t.metrics = [.requestsFailed]) ∧
    t.sent = l.queue.head?.map Pending.frame ∧ t.line.queue = l.queue.tail ∧
    t.line.inFlight = l.queue.head?.map fun p => ⟨p, now + l.timeout⟩ := by
  intro t area
  have turned : t = _ := receive_correlated flying correlates now
  obtain ⟨room, short⟩ := WireRequest.decodeResponse_mismatched cut wrong
  rw [turned, advance_settled, advance_metrics, advance_sent, advance_queue, advance_inFlight]
  refine ⟨?_, ?_, rfl, rfl, rfl⟩
  · intro fits
    obtain ⟨response, decoded, unsound⟩ := room fits
    rw [judge_of_wrong decoded unsound]
    exact ⟨rfl, rfl⟩
  · intro lacks
    obtain ⟨needed, beyond, refused⟩ := short lacks
    rw [judge_of_refused refused]
    exact ⟨needed, beyond, rfl, rfl⟩

def waitingReadings : Line :=
  let asked : WireRequest := .meter ⟨0x10, none, .readData⟩
  ((({ timeout := 1000 } : Line).submit 0 asked 0).line.submit 1 asked 0).line

theorem mismatched_frame_settles_reading :
    let asked : WireRequest := .meter ⟨0x10, none, .readData⟩
    let damaged := (readingAnswer 0).set 20 0x55
    let t := waitingReadings.receive damaged 7
    FrameMethod.meter.Cuts damaged ∧ asked.correlates 0 damaged = true ∧
    FrameMethod.meter.Mismatched damaged ∧ asked.HasRoom damaged ∧
    t.settled = [(0, .failed .checksumMismatch)] ∧ t.metrics = [.checksumMismatches] ∧
    t.line.deadline = some 1007 := by
  intro asked damaged t
  have cut : FrameMethod.meter.Cuts damaged := ⟨damaged, 31, by decide, by decide⟩
  have correlates : asked.correlates 0 damaged = true := by decide
  have wrong : FrameMethod.meter.Mismatched damaged := by decide
  have room : asked.HasRoom damaged := Nat.le_refl 18
  obtain ⟨settled, -, -, -, next⟩ :=
    mismatched_frame_settles (l := waitingReadings) rfl cut correlates wrong 7
  refine ⟨cut, correlates, wrong, room, (settled room).1, (settled room).2, ?_⟩
  rw [deadline, next]
  rfl

def briefAnswer : Bytes :=
  let frame : Meter.Frame :=
    ⟨0x10, List.replicate 7 0xAA, 0x81, [⟨.dataId, [0x1F, 0x90]⟩, ⟨.seq, [0]⟩]⟩
  frame.body ++ [0, Meter.Frame.tail]

theorem brief_frame_counts_as_failure :
    let asked : WireRequest := .meter ⟨0x10, none, .readData⟩
    let t := waitingReadings.receive briefAnswer 7
    FrameMethod.meter.Cuts briefAnswer ∧ asked.correlates 0 briefAnswer = true ∧
    FrameMethod.meter.Mismatched briefAnswer ∧
    t.settled = [(0, .failed (.codec (.truncated 7 3)))] ∧ t.metrics = [.requestsFailed] := by
  exact ⟨⟨briefAnswer, 16, by decide, by decide⟩, by decide, by decide, by decide, by decide⟩

end Line

end MeterGateway
