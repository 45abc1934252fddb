import MeterGateway.Proofs.Framer.Greedy
import MeterGateway.Proofs.Wire

/-!
What is acknowledged by a response.  Of a meter frame the control code and the data identifier
decide, and both stand before anything that layouts cut differently, so a frame acknowledges the same
kind of command however it is read; a request comes back without the flag of a response and
acknowledges nothing.  Of a register frame unit and function decide.
-/

namespace MeterGateway

namespace Meter

variable {kind other : CommandKind} {bytes : Bytes} {answer : Response}

namespace CommandKind

theorem find?_dataId (kind : CommandKind) : all.find? (·.dataId = kind.dataId) = some kind := by
  cases kind <;> rfl

theorem dataId_injective : Function.Injective dataId := by
  intro kind other same
  have found := kind.find?_dataId
  rw [same, find?_dataId, Option.some.injEq] at found
  exact found.symm

theorem toNat_controlCode_lt (kind : CommandKind) : kind.controlCode.toNat < 128 := by
  cases kind <;> decide

theorem le_toNat_flagged (kind : CommandKind) :
    128 ≤ (kind.controlCode ||| Response.responseFlag).toNat := by
  cases kind <;> decide

theorem controlCode_ne_flagged (kind other : CommandKind) :
    kind.controlCode ≠ other.controlCode ||| Response.responseFlag := by
  intro same
  have low := kind.toNat_controlCode_lt
  have high := other.le_toNat_flagged
  rw [same] at low
  omega

end CommandKind

/-- The bytes by which a frame tells the command that it confirms. -/
structure Confirms (bytes : Bytes) (kind : CommandKind) : Prop where
  control : bytes[9]? = some (kind.controlCode ||| Response.responseFlag)
  identifier : (bytes.drop 11).take 2 = kind.dataId

theorem Confirms.unique (first : Confirms bytes kind) (second : Confirms bytes other) :
    kind = other :=
  CommandKind.dataId_injective (first.identifier.symm.trans second.identifier)

namespace Frame

variable {layout : Layout} {d : Decoded} {more : Bytes}

theorem Read.control (read : Read layout bytes d more) : bytes[9]? = some d.frame.controlCode := by
  obtain ⟨a0, a1, a2, a3, a4, a5, a6, -, front⟩ := read.encodable.body_append_eq d.checksum more
  rw [read.line, front]
  rfl

theorem Read.drop_header (read : Read layout bytes d more) :
    bytes.drop 11 = d.frame.dataArea ++ d.checksum :: tail :: more := by
  obtain ⟨a0, a1, a2, a3, a4, a5, a6, -, front⟩ := read.encodable.body_append_eq d.checksum more
  rw [read.line, front]
  rfl

end Frame

namespace Response

theorem dataId?_of_field {identifier : Bytes} {r : Response} (two : identifier.length = 2)
    (field : r.frame.field? .dataId = some ⟨.dataId, identifier⟩) :
    r.dataId? = some identifier := by
  simp only [dataId?, field, Option.bind_some, two, if_true]

theorem controlCode_decryptPurchase (f : Frame) :
    f.decryptPurchase.controlCode = f.controlCode := by
  unfold Frame.decryptPurchase
  split <;> rfl

theorem acknowledges_iff (read : decode kind bytes = .ok answer) (other : CommandKind) :
    answer.acknowledges other = true ↔ Confirms bytes other := by
  obtain ⟨d, decoded, -⟩ := exists_decoded read
  obtain ⟨again, read', -, own⟩ := decode_eq decoded
  rw [read, Except.ok.injEq] at read'
  subst read'
  obtain ⟨more, line⟩ := Frame.exists_read decoded
  obtain ⟨identifier, seq, others, two, fields⟩ := line.seq
  have control : answer.frame.controlCode = d.frame.controlCode := by
    rw [own]
    split
    · exact controlCode_decryptPurchase d.frame
    · rfl
  have field : d.frame.field? .dataId = some ⟨.dataId, identifier⟩ := by
    rw [Frame.field?, fields]
    rfl
  have identified : answer.dataId? = some identifier := by
    apply dataId?_of_field two
    rw [own, ← field]
    split
    · exact d.frame.field?_decryptPurchase (by decide) (by decide)
    · rfl
  have stands : (bytes.drop 11).take 2 = identifier := by
    rw [line.drop_header, Frame.dataArea, fields, List.flatMap_cons, List.append_assoc, ← two,
      List.take_left]
  rw [acknowledges, Bool.and_eq_true, decide_eq_true_iff, decide_eq_true_iff, control, identified,
    Option.some.injEq]
  constructor
  · rintro ⟨code, same⟩
    exact ⟨line.control.trans (congrArg some code), stands.trans same⟩
  · intro confirms
    exact ⟨Option.some.inj (line.control.symm.trans confirms.control),
      stands.symm.trans confirms.identifier⟩

end Response

theorem getElem?_framed_control (deviceType controlCode : UInt8) (address : Address)
    (area : Bytes) :
    (framed deviceType address controlCode area)[9]? = some controlCode := by
  have seven : address.bytes.length = 7 := address.length_eq
  simp [framed, seven]

theorem Request.not_confirms (r : Request) (seq : UInt8) (kind : CommandKind) :
    ¬ Confirms (framed r.deviceType r.frameAddress r.kind.controlCode (r.area seq)) kind := by
  intro confirms
  have control := confirms.control
  rw [getElem?_framed_control, Option.some.injEq] at control
  exact r.kind.controlCode_ne_flagged kind control

end Meter

namespace Modbus

theorem Function.ofCode_code (f : Function) : Function.ofCode f.code = .ok f := by
  cases f <;> rfl

theorem Function.code_injective : Function.Injective Function.code := by
  intro f g same
  have read := f.ofCode_code
  rw [same, ofCode_code, Except.ok.injEq] at read
  exact read.symm

theorem Function.code_plain (f : Function) : f.code &&& exceptionFlag = 0 := by
  cases f <;> rfl

theorem base_eq_of_plain (code : UInt8) : code &&& exceptionFlag = 0 → code &&& 0x7F = code := by
  revert code
  apply forall_byte
  decide +kernel

namespace Response

theorem answers_iff (s : Response) (r : Request) :
    s.answers r = true ↔ s.unit = r.unit ∧ s.baseFunction = r.function.code := by
  rw [answers, Bool.and_eq_true, decide_eq_true_iff, decide_eq_true_iff]

theorem plain_iff (s : Response) :
    (!s.isException) = true ↔ s.functionCode &&& exceptionFlag = 0 := by
  rw [Bool.not_eq_true', isException, decide_eq_false_iff_not, not_not]

end Response

end Modbus

namespace WireRequest

theorem acknowledgedBy_meter (r : Meter.Request) (s : Meter.Response) :
    (meter r).acknowledgedBy (.meter s) = s.acknowledges r.kind := rfl

theorem acknowledgedBy_rtu_iff (r : Modbus.Request) (s : Modbus.Response) :
    (rtu r).acknowledgedBy (.rtu s) = true ↔
      s.unit = r.unit ∧ s.functionCode = r.function.code := by
  rw [acknowledgedBy, Bool.and_eq_true, Modbus.Response.answers_iff, Modbus.Response.plain_iff]
  constructor
  · rintro ⟨⟨unit, base⟩, plain⟩
    exact ⟨unit, (Modbus.base_eq_of_plain _ plain).symm.trans base⟩
  · rintro ⟨unit, code⟩
    have plain : s.functionCode &&& Modbus.exceptionFlag = 0 := code ▸ r.function.code_plain
    exact ⟨⟨unit, (Modbus.base_eq_of_plain _ plain).trans code⟩, plain⟩

/-- Requests that the same responses acknowledge: whatever a meter command writes and to which
address, and whichever registers a function is for. -/
inductive Alike : WireRequest → WireRequest → Prop
  | meter {r s : Meter.Request} : r.kind = s.kind → Alike (.meter r) (.meter s)
  | rtu {r s : Modbus.Request} : r.unit = s.unit → r.function = s.function → Alike (.rtu r) (.rtu s)

theorem alike_iff {request via : WireRequest} {bytes : Bytes} {response : WireResponse}
    (read : via.decodeResponse bytes = .ok response)
    (acknowledged : request.acknowledgedBy response = true) (other : WireRequest) :
    other.acknowledgedBy response = true ↔ Alike request other := by
  cases via with
  | meter asked =>
    obtain ⟨answer, decoded, rfl⟩ := decodeResponse_meter read
    cases request with
    | rtu r => cases acknowledged
    | meter r =>
      rw [acknowledgedBy_meter, Meter.Response.acknowledges_iff decoded] at acknowledged
      cases other with
      | rtu s => constructor <;> intro h <;> cases h
      | meter s =>
        rw [acknowledgedBy_meter, Meter.Response.acknowledges_iff decoded]
        constructor
        · intro also
          exact .meter (acknowledged.unique also)
        · intro alike
          cases alike with
          | meter same => exact same ▸ acknowledged
  | rtu asked =>
    obtain ⟨answer, decoded, rfl⟩ := decodeResponse_rtu read
    cases request with
    | meter r => cases acknowledged
    | rtu r =>
      rw [acknowledgedBy_rtu_iff] at acknowledged
      cases other with
      | meter s => constructor <;> intro h <;> cases h
      | rtu s =>
        rw [acknowledgedBy_rtu_iff]
        constructor
        · rintro ⟨unit, code⟩
          exact .rtu (acknowledged.1.symm.trans unit)
            (Modbus.Function.code_injective (acknowledged.2.symm.trans code))
        · intro alike
          cases alike with
          | rtu unit function => exact ⟨unit ▸ acknowledged.1, function ▸ acknowledged.2⟩

theorem acknowledgement_is_unambiguous :
    (∀ bytes kind kind' answer answer', Meter.Response.decode kind bytes = .ok answer →
      Meter.Response.decode kind' bytes = .ok answer' → ∀ k,
        (answer.acknowledges k = true ↔ answer'.acknowledges k = true) ∧
        ∀ k', answer.acknowledges k = true → answer.acknowledges k' = true → k = k') ∧
    (∀ (r : Meter.Request) (seq : UInt8), ∃ line, r.encode seq = .ok line ∧
      (meter r).correlates seq line = true ∧
      (∀ kind answer, Meter.Response.decode kind line = .ok answer →
        ∀ k, answer.acknowledges k = false) ∧
      ∀ via response, (meter via).decodeResponse line = .ok response →
        ∀ request, acknowledgedBy request response = false) ∧
    (∀ (r : Modbus.Request) (s : Modbus.Response),
      s.isException = true ∨ s.unit ≠ r.unit ∨ s.baseFunction ≠ r.function.code →
        (rtu r).acknowledgedBy (.rtu s) = false) ∧
    ∀ via bytes response request, decodeResponse via bytes = .ok response →
      acknowledgedBy request response = true →
        ∀ other, acknowledgedBy other response = true ↔ Alike request other := by
  refine ⟨?_, ?_, ?_, ?_⟩
  · intro bytes kind kind' answer answer' read read' k
    rw [Meter.Response.acknowledges_iff read, Meter.Response.acknowledges_iff read']
    refine ⟨Iff.rfl, ?_⟩
    intro k' first second
    exact first.unique ((Meter.Response.acknowledges_iff read k').mp second)
  · intro r seq
    have silent : ∀ kind answer, Meter.Response.decode kind
        (Meter.framed r.deviceType r.frameAddress r.kind.controlCode (r.area seq)) = .ok answer →
          ∀ k, answer.acknowledges k = false := by
      intro kind answer read k
      rw [← Bool.not_eq_true, Meter.Response.acknowledges_iff read]
      exact r.not_confirms seq k
    refine ⟨_, r.encode_eq_framed seq, ?_, silent, ?_⟩
    · rw [correlates, r.peekSeq_encoded seq]
      exact decide_eq_true rfl
    · intro via response read request
      obtain ⟨answer, decoded, rfl⟩ := decodeResponse_meter read
      cases request with
      | meter s => exact silent via.kind answer decoded s.kind
      | rtu s => rfl
  · intro r s stranger
    rw [← Bool.not_eq_true, acknowledgedBy, Bool.and_eq_true, Modbus.Response.answers_iff,
      Bool.not_eq_true']
    rintro ⟨⟨unit, base⟩, plain⟩
    obtain flagged | other | other := stranger
    · rw [plain] at flagged
      cases flagged
    · exact other unit
    · exact other base
  · intro via bytes response request read acknowledged other
    exact alike_iff read acknowledged other

section Examples

def openValve : Meter.Request where
  deviceType := 0x10
  address := some ⟨[0x11, 0x22, 0x33, 0x44, 0x55, 0x66, 0x77], rfl⟩
  command := .writeValve .opened

def closeOtherValve : Meter.Request where
  deviceType := 0x10
  address := some ⟨[0x21, 0x22, 0x33, 0x44, 0x55, 0x66, 0x77], rfl⟩
  command := .writeValve .closed

def valveAnswer : Bytes := Meter.framed 0x10 openValve.frameAddress 0x84 [0x17, 0xA0, 4, 0, 0]

def firstRegister : Modbus.Request := ⟨1, .writeSingleRegister, 1, 1, [0, 3]⟩

def secondRegister : Modbus.Request := ⟨1, .writeSingleRegister, 2, 1, [0, 3]⟩

def registerAnswer : Bytes := [0x01, 0x06, 0x00, 0x01, 0x00, 0x03, 0x98, 0x0B]

theorem acknowledgement_is_unambiguous_valve :
    (∃ answer answer', Meter.Response.decode .writeValve valveAnswer = .ok answer ∧
      Meter.Response.decode .writeReset valveAnswer = .ok answer' ∧
      ∀ k, answer.acknowledges k = true ↔ answer'.acknowledges k = true) ∧
    (rtu firstRegister).acknowledgedBy (.rtu ⟨1, 0x86, [2], true⟩) = false ∧
    ∃ response, (meter openValve).decodeResponse valveAnswer = .ok response ∧
      (meter openValve).acknowledgedBy response = true ∧
      ((meter ⟨0x10, none, .writeReset .vendor⟩).acknowledgedBy response = true ↔
        Alike (meter openValve) (meter ⟨0x10, none, .writeReset .vendor⟩)) := by
  obtain ⟨kinds, -, strangers, alike⟩ := acknowledgement_is_unambiguous
  have reads : (∃ answer, Meter.Response.decode .writeValve valveAnswer = .ok answer) ∧
      ∃ answer, Meter.Response.decode .writeReset valveAnswer = .ok answer := ⟨⟨_, rfl⟩, ⟨_, rfl⟩⟩
  have taken : ∃ response, (meter openValve).decodeResponse valveAnswer = .ok response ∧
      (meter openValve).acknowledgedBy response = true := ⟨_, rfl, rfl⟩
  obtain ⟨⟨answer, read⟩, answer', read'⟩ := reads
  obtain ⟨response, decoded, acknowledged⟩ := taken
  exact ⟨⟨answer, answer', read, read', fun k => (kinds _ _ _ _ _ read read' k).1⟩,
    strangers _ _ (.inl rfl), response, decoded, acknowledged,
    alike _ _ _ _ decoded acknowledged _⟩

/-- The answer to one write confirms another: of another register, or of the valve of another
meter. -/
theorem answer_confirms_sibling :
    (∃ response, (rtu firstRegister).decodeResponse registerAnswer = .ok response ∧
      response.checksumOk = true ∧ (rtu firstRegister).acknowledgedBy response = true ∧
      (rtu secondRegister).acknowledgedBy response = true) ∧
    firstRegister.address ≠ secondRegister.address ∧
    (∃ response, (meter openValve).decodeResponse valveAnswer = .ok response ∧
      response.checksumOk = true ∧ (meter openValve).acknowledgedBy response = true ∧
      (meter closeOtherValve).acknowledgedBy response = true) ∧
    openValve.address ≠ closeOtherValve.address ∧ openValve.command ≠ closeOtherValve.command := by
  exact ⟨⟨_, rfl, by decide +kernel, rfl, rfl⟩, by decide, ⟨_, rfl, by decide +kernel, rfl, rfl⟩,
    by decide, by decide⟩

end Examples

end WireRequest

end MeterGateway
