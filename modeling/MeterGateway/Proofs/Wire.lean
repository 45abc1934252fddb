import MeterGateway.Proofs.Line.Damage
import MeterGateway.Proofs.Meter.Requests

namespace MeterGateway

namespace Meter

namespace Frame

variable {f : Frame} {layout : Layout} {bytes more : Bytes} {d : Decoded} {name other : FieldName}

theorem field?_setField_of_ne (different : other ≠ name) (data : Bytes) :
    (f.setField name data).field? other = f.field? other := by
  have within (fields : List Field) :
      (setField.set name data fields).find? (·.name = other) = fields.find? (·.name = other) := by
    induction fields with
    | nil => rfl
    | cons g fields ih =>
      rw [setField.set]
      split
      case isTrue named =>
        subst named
        have passed : ¬ g.name = other := different.symm
        rw [List.find?_cons_of_neg (by simpa using passed),
          List.find?_cons_of_neg (by simpa using passed)]
      case isFalse =>
        rw [List.find?_cons, List.find?_cons, ih]
  exact within f.fields

theorem field?_decryptPurchase (f : Frame) (notTimes : name ≠ .times) (notPurchases : name ≠ .purchases) :
    f.decryptPurchase.field? name = f.field? name := by
  unfold decryptPurchase
  split
  · rw [field?_setField_of_ne notPurchases, field?_setField_of_ne notTimes]
  · rfl

theorem Read.peekSeq (read : Read layout bytes d more) : peekSeq bytes = d.frame.dataArea[2]? := by
  obtain ⟨a0, a1, a2, a3, a4, a5, a6, -, front⟩ := read.encodable.body_append_eq d.checksum more
  have counted := read.encodable.toNat_length
  rw [read.line, front]
  simp only [Meter.peekSeq, List.getElem?_cons_succ, List.getElem?_cons_zero, counted]
  split
  case isTrue short => rw [List.getElem?_eq_none (Nat.le_of_lt_succ short)]
  case isFalse long => rw [List.getElem?_append_left (Nat.not_lt.mp long)]

theorem Read.seq {kind : CommandKind} (read : Read kind.responseLayout bytes d more) :
    ∃ identifier seq others, identifier.length = 2 ∧
      d.frame.fields = ⟨.dataId, identifier⟩ :: ⟨.seq, [seq]⟩ :: others := by
  obtain ⟨identifier, _, _, two, -, cut, fields⟩ := cut_cons_iff.mp read.cut
  obtain ⟨number, _, others, one, -, -, rfl⟩ := cut_cons_iff.mp cut
  obtain ⟨seq, rfl⟩ := List.length_eq_one_iff.mp one
  exact ⟨identifier, seq, others, two, fields⟩

end Frame

namespace Response

variable {kind : CommandKind} {frame : Bytes} {answer : Response}

theorem seq?_of_frame {identifier : Bytes} {seq : UInt8} {others : List Field} {f : Frame}
    (fields : f.fields = ⟨.dataId, identifier⟩ :: ⟨.seq, [seq]⟩ :: others)
    (own : answer.frame = if kind = .writePurchase then f.decryptPurchase else f) :
    answer.seq? = some seq := by
  have field : f.field? .seq = some ⟨.seq, [seq]⟩ := by
    rw [Frame.field?, fields]
    rfl
  have same : answer.frame.field? .seq = f.field? .seq := by
    rw [own]
    split
    · exact f.field?_decryptPurchase (by decide) (by decide)
    · rfl
  rw [seq?, same, field]
  rfl

theorem seq_of_decode (read : decode kind frame = .ok answer) :
    ∃ seq, answer.seq? = some seq ∧ peekSeq frame = some seq := by
  obtain ⟨d, decoded, -⟩ := exists_decoded read
  obtain ⟨again, read', -, own⟩ := decode_eq decoded
  rw [read, Except.ok.injEq] at read'
  subst read'
  obtain ⟨more, line⟩ := Frame.exists_read decoded
  obtain ⟨identifier, seq, others, two, fields⟩ := line.seq
  have area : d.frame.dataArea = identifier ++ seq :: others.flatMap Field.data := by
    rw [Frame.dataArea, fields]
    rfl
  refine ⟨seq, seq?_of_frame fields own, ?_⟩
  rw [line.peekSeq, area, List.getElem?_append_right (Nat.le_of_eq two), two]
  rfl

end Response

end Meter

theorem Modbus.Response.head_of_decode {frame : Bytes} {answer : Modbus.Response}
    (read : decode frame = .ok answer) :
    ∃ rest, frame = answer.unit :: answer.functionCode :: rest := by
  unfold decode at read
  split at read
  · cases read
  · split at read
    · rename_i rest _
      cases read
      exact ⟨rest, rfl⟩
    · cases read

namespace WireRequest

theorem correlates_rtu (r : Modbus.Request) {frame : Bytes} {answer : Modbus.Response}
    (read : Modbus.Response.decode frame = .ok answer) (tid : UInt8) :
    (WireRequest.rtu r).correlates tid frame = answer.answers r := by
  obtain ⟨rest, rfl⟩ := Modbus.Response.head_of_decode read
  rfl

theorem correlation_agrees_with_reading :
    (∀ kind frame answer, Meter.Response.decode kind frame = .ok answer →
      ∃ seq, answer.seq? = some seq ∧ Meter.peekSeq frame = some seq ∧
        ∀ r tid, (meter r).correlates tid frame = true ↔ answer.seq? = some tid) ∧
    (∀ r frame response, (meter r).decodeResponse frame = .ok response →
      ∃ answer, Meter.Response.decode r.kind frame = .ok answer ∧ response = .meter answer) ∧
    (∀ frame, Meter.peekSeq frame = none →
      ∀ kind, ∃ e, Meter.Response.decode kind frame = .error e) ∧
    ∀ r frame response, (rtu r).decodeResponse frame = .ok response →
      ∃ answer, Modbus.Response.decode frame = .ok answer ∧ response = .rtu answer ∧
        ∀ tid, (rtu r).correlates tid frame = true ↔ answer.answers r = true := by
  refine ⟨?_, fun r frame response => decodeResponse_meter, ?_, ?_⟩
  · intro kind frame answer read
    obtain ⟨seq, own, seen⟩ := Meter.Response.seq_of_decode read
    refine ⟨seq, own, seen, ?_⟩
    intro r tid
    rw [own, correlates, seen, decide_eq_true_iff]
  · intro frame unseen kind
    cases read : Meter.Response.decode kind frame with
    | error e => exact ⟨e, rfl⟩
    | ok answer =>
      obtain ⟨seq, -, seen⟩ := Meter.Response.seq_of_decode read
      rw [unseen] at seen
      cases seen
  · intro r frame response decoded
    obtain ⟨answer, read, rfl⟩ := decodeResponse_rtu decoded
    refine ⟨answer, read, rfl, ?_⟩
    intro tid
    rw [correlates_rtu r read]

/-- A reading with a byte too many answers the request of its number; so short a frame that no number
stands in it is read for no command; a refusal answers by its unit and function. -/
theorem correlation_agrees_with_reading_examples :
    let reading := Line.readingAnswer 5 ++ [0xFE]
    let bare : Meter.Frame := ⟨0x10, List.replicate 7 0xAA, 0x81, [⟨.dataId, [0x1F, 0x90]⟩]⟩
    let refusal : Bytes := [0x01, 0x83, 0x02] ++ Checksum.crcTrailer [0x01, 0x83, 0x02]
    let asked : Meter.Request := ⟨0x10, none, .readData⟩
    let registers : Modbus.Request := ⟨1, .readHoldingRegisters, 0, 4, []⟩
    (∃ answer, Meter.Response.decode .readData reading = .ok answer ∧ answer.seq? = some 5 ∧
      ((meter asked).correlates 6 reading = true ↔ answer.seq? = some 6)) ∧
    (∃ e, Meter.Response.decode .writeReset bare.wire = .error e) ∧
    ∃ answer, Modbus.Response.decode refusal = .ok answer ∧
      ((rtu registers).correlates 9 refusal = true ↔ answer.answers registers = true) := by
  intro reading bare refusal asked registers
  obtain ⟨read, -, unseen, registered⟩ := correlation_agrees_with_reading
  have taken : ∃ answer, Meter.Response.decode .readData reading = .ok answer := ⟨_, rfl⟩
  have taken_rtu : ∃ response, (rtu registers).decodeResponse refusal = .ok response := ⟨_, rfl⟩
  refine ⟨?_, unseen bare.wire rfl .writeReset, ?_⟩
  · obtain ⟨answer, decoded⟩ := taken
    obtain ⟨seq, own, seen, told⟩ := read _ _ _ decoded
    have five : Meter.peekSeq reading = some 5 := rfl
    rw [five] at seen
    rw [← seen] at own
    exact ⟨answer, decoded, own, told asked 6⟩
  · obtain ⟨response, decoded⟩ := taken_rtu
    obtain ⟨answer, plain, -, told⟩ := registered _ _ _ decoded
    exact ⟨answer, plain, told 9⟩

end WireRequest

end MeterGateway
