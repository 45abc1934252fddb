import MeterGateway.Proofs.Checksum
import MeterGateway.Proofs.Line.Correlation
import MeterGateway.Proofs.Meter.RoundTrip

/-!
Frames of which a single byte was altered on the line.  Both formats seal a frame, so an altered
one that still reads as a frame of its length shows a wrong checksum, and no request of that format
takes it for its answer.  The length byte of a meter frame is left out: with another length the
checksum is looked for in another place.
-/

namespace MeterGateway

structure Altered (sent : Bytes) (i : Nat) (b : UInt8) : Prop where
  inside : i < sent.length
  other : sent[i]? ≠ some b

namespace Meter

def sumSeal : Seal where
  close body := [Checksum.byteSum body, Frame.tail]
  width := 2
  length_close _ := rfl
  tells same := Checksum.byteSum_tells (List.cons.inj same).1

namespace Frame

variable {f : Frame} {layout : Layout} {bytes more : Bytes} {d : Decoded} {i : Nat} {b : UInt8}

theorem Encodable.announced (h : f.Encodable) :
    f.wire[10]? = some (UInt8.ofNat f.dataArea.length) := by
  obtain ⟨a0, a1, a2, a3, a4, a5, a6, -, front⟩ := h.wire_append_eq []
  rw [List.append_nil] at front
  rw [front]
  rfl

theorem Read.sealed (read : Read layout bytes d more) (right : d.checksumOk = true)
    (whole : bytes.length = leastLength + d.length.toNat) : bytes = sumSeal.line d.frame.body := by
  have summed : d.checksum = Checksum.byteSum d.frame.body := by
    rw [← read.summed]
    exact of_decide_eq_true right
  have total := read.take_total
  rw [List.take_of_length_le (Nat.le_of_eq whole), summed] at total
  exact total

theorem decode_altered (h : f.Encodable) (altered : Altered f.wire i b) (elsewhere : i ≠ 10)
    (decoded : decode layout (f.wire.set i b) = .ok d) : d.checksumOk = false := by
  obtain ⟨more, read⟩ := exists_read decoded
  have length : d.length = UInt8.ofNat f.dataArea.length := by
    have announced := read.announced
    rw [List.getElem?_set_ne elsewhere, h.announced] at announced
    exact (Option.some.inj announced).symm
  -- the length byte stands, so the frame is still read to the end of the line
  have whole : (f.wire.set i b).length = leastLength + d.length.toNat := by
    rw [List.length_set, length_wire h, length, h.toNat_length]
  rw [← Bool.not_eq_true]
  intro right
  exact altered.other (sumSeal.getElem?_of_set altered.inside (read.sealed right whole))

end Frame

theorem Response.exists_decoded {kind : CommandKind} {bytes : Bytes} {r : Response}
    (read : Response.decode kind bytes = .ok r) :
    ∃ d, Frame.decode kind.responseLayout bytes = .ok d ∧ r.checksumOk = d.checksumOk := by
  unfold Response.decode at read
  cases decoded : Frame.decode kind.responseLayout bytes with
  | error e =>
    rw [decoded] at read
    cases read
  | ok d =>
    simp only [decoded] at read
    refine ⟨d, rfl, ?_⟩
    split at read
    · cases read
      rfl
    · cases read
      rfl

end Meter

namespace Modbus.Response

variable {body bytes : Bytes} {i : Nat} {b : UInt8}

theorem exists_decoded (long : leastLength ≤ bytes.length) :
    ∃ r, decode bytes = .ok r ∧
      (r.crcOk = true → bytes = Seal.crc.line (bytes.take (bytes.length - 2))) := by
  match bytes, long with
  | unit :: functionCode :: rest, long =>
    rw [decode, if_neg (Nat.not_lt.mpr long)]
    refine ⟨_, rfl, ?_⟩
    intro right
    have closed := of_decide_eq_true right
    rw [Seal.line, show Seal.crc.close = Checksum.crcTrailer from rfl, ← closed,
      List.take_append_drop]

theorem decode_altered (long : 2 ≤ body.length) (altered : Altered (Seal.crc.line body) i b) :
    ∃ r, decode ((Seal.crc.line body).set i b) = .ok r ∧ r.crcOk = false := by
  have enough : leastLength ≤ ((Seal.crc.line body).set i b).length := by
    rw [List.length_set, Seal.length_line]
    exact Nat.add_le_add_right long 2
  obtain ⟨r, decoded, sealed⟩ := exists_decoded enough
  refine ⟨r, decoded, ?_⟩
  rw [← Bool.not_eq_true]
  intro right
  exact altered.other (Seal.crc.getElem?_of_set altered.inside (sealed right))

end Modbus.Response

theorem WireRequest.decodeResponse_rtu {r : Modbus.Request} {frame : Bytes} {response : WireResponse}
    (h : (WireRequest.rtu r).decodeResponse frame = .ok response) :
    ∃ answer, Modbus.Response.decode frame = .ok answer ∧ response = .rtu answer := by
  obtain ⟨answer, decoded, rfl⟩ := Except.exists_of_map_eq_ok h
  exact ⟨answer, decoded, rfl⟩

namespace Line

def awaited? (l : Line) : Option WireRequest := l.inFlight.map (·.pending.request)

theorem resolved_of_receive {l : Line} {frame : Bytes} {now n : Nat} {response : WireResponse}
    (settled : (n, .resolved response) ∈ (l.receive frame now).settled) :
    ∃ request, l.awaited? = some request ∧ request.decodeResponse frame = .ok response ∧
      response.checksumOk = true := by
  obtain ⟨f, flying, -, -, judged⟩ := (receive_step l n frame now).receives settled
  obtain ⟨decoded, right⟩ := judge_of_resolved judged.symm
  refine ⟨f.pending.request, ?_, decoded, right⟩
  rw [awaited?, flying]
  rfl

theorem not_resolved {l : Line} {request : WireRequest} {frame : Bytes}
    (awaited : l.awaited? = some request)
    (damaged : ∀ response, request.decodeResponse frame = .ok response →
      response.checksumOk = false) (now n : Nat) (response : WireResponse) :
    (n, .resolved response) ∉ (l.receive frame now).settled := by
  intro settled
  obtain ⟨awaiting, same, decoded, right⟩ := resolved_of_receive settled
  rw [awaited] at same
  cases same
  rw [damaged response decoded] at right
  cases right

theorem altered_byte_is_noticed :
    (∀ (f : Meter.Frame) (line : Bytes), f.encode = .ok line →
      ∀ (i : Nat) (b : UInt8), Altered line i b → i ≠ 10 →
        (∀ layout d, Meter.Frame.decode layout (line.set i b) = .ok d → d.checksumOk = false) ∧
        ∀ (l : Line) (r : Meter.Request), l.awaited? = some (.meter r) →
          ∀ now n response, (n, .resolved response) ∉ (l.receive (line.set i b) now).settled) ∧
    ∀ body : Bytes, 2 ≤ body.length →
      ∀ (i : Nat) (b : UInt8), Altered (body ++ Checksum.crcTrailer body) i b →
        (∃ r, Modbus.Response.decode ((body ++ Checksum.crcTrailer body).set i b) = .ok r ∧
          r.crcOk = false) ∧
        ∀ (l : Line) (r : Modbus.Request), l.awaited? = some (.rtu r) →
          ∀ now n response,
            (n, .resolved response) ∉
              (l.receive ((body ++ Checksum.crcTrailer body).set i b) now).settled := by
  refine ⟨?_, ?_⟩
  · intro f line written i b altered elsewhere
    obtain ⟨encodable, rfl⟩ := Meter.Frame.encode_eq_ok_iff.mp written
    refine ⟨fun _ _ => Meter.Frame.decode_altered encodable altered elsewhere, ?_⟩
    intro l r awaited
    apply not_resolved awaited
    intro response decoded
    obtain ⟨answer, read, rfl⟩ := WireRequest.decodeResponse_meter decoded
    obtain ⟨d, found, same⟩ := Meter.Response.exists_decoded read
    exact same.trans (Meter.Frame.decode_altered encodable altered elsewhere found)
  · intro body long i b altered
    obtain ⟨answer, decoded, wrong⟩ := Modbus.Response.decode_altered long altered
    refine ⟨⟨answer, decoded, wrong⟩, ?_⟩
    intro l r awaited
    apply not_resolved awaited
    intro response read
    obtain ⟨again, found, rfl⟩ := WireRequest.decodeResponse_rtu read
    have same : again = answer := Except.ok.inj (found.symm.trans decoded)
    rw [same]
    exact wrong

theorem altered_byte_is_noticed_reading :
    let line := Meter.Frame.reading.wire
    let asked : Meter.Request := ⟨0x10, none, .readData⟩
    let waiting := (({ timeout := 1000, nextTid := 5 } : Line).submit 0 (.meter asked) 0).line
    let body : Bytes := [0x01, 0x83, 0x02]
    Meter.Frame.reading.encode = .ok line ∧ Altered line 3 0x23 ∧
    waiting.awaited? = some (.meter asked) ∧
    (∀ d, Meter.Frame.decode [(.dataId, 2), (.seq, 1)] (line.set 3 0x23) = .ok d →
      d.checksumOk = false) ∧
    (∀ n response, (n, .resolved response) ∉ (waiting.receive (line.set 3 0x23) 1).settled) ∧
    Altered (body ++ Checksum.crcTrailer body) 2 0x03 ∧
    ∃ r, Modbus.Response.decode ((body ++ Checksum.crcTrailer body).set 2 0x03) = .ok r ∧
      r.crcOk = false := by
  intro line asked waiting body
  have written : Meter.Frame.reading.encode = .ok line := rfl
  have in_line : Altered line 3 0x23 := ⟨by decide, by decide⟩
  have awaited : waiting.awaited? = some (.meter asked) := rfl
  have in_body : Altered (body ++ Checksum.crcTrailer body) 2 0x03 := ⟨by decide, by decide⟩
  obtain ⟨meters, responses⟩ := altered_byte_is_noticed
  obtain ⟨wrong, unresolved⟩ := meters _ line written 3 0x23 in_line (by decide)
  obtain ⟨answer, -⟩ := responses body (by decide) 2 0x03 in_body
  exact ⟨written, in_line, awaited, wrong _, unresolved waiting asked awaited 1, in_body, answer⟩

/-- A meter frame without data whose first address byte counts the eight bytes after it. -/
def disguise : Meter.Frame where
  deviceType := 0x03
  address := [0x08, 0x11, 0x22, 0x33, 0x44, 0x55, 0x34]
  controlCode := 0x81
  fields := []

def registers : Modbus.Request := ⟨0x68, .readHoldingRegisters, 0, 4, []⟩

/-- By itself a line does not tell the formats apart.  The altered frame is a whole answer to the
request for registers. -/
theorem altered_frame_of_other_format_is_taken :
    let waiting := (({ timeout := 1000 } : Line).submit 0 (.rtu registers) 0).line
    disguise.encode = .ok disguise.wire ∧ Altered disguise.wire 11 0x42 ∧
    (0, .resolved (.rtu
        ⟨0x68, 0x03, [0x08, 0x11, 0x22, 0x33, 0x44, 0x55, 0x34, 0x81, 0x00], true⟩)) ∈
      (waiting.receive (disguise.wire.set 11 0x42) 1).settled := by
  exact ⟨rfl, ⟨by decide, by decide⟩, by decide +kernel⟩

end Line

end MeterGateway
