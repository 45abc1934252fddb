import MeterGateway.Proofs.Framer.Greedy
import MeterGateway.Proofs.Meter.Wire

namespace MeterGateway

namespace Meter

def stream : List (Bytes × Frame) → (last : Bytes) → Bytes
  | [], last => last
  | (gap, f) :: rest, last => gap ++ f.wire ++ stream rest last

theorem noise_of_gap {gap : Bytes} (h : Frame.head ∉ gap) : noise gap = gap := by
  apply List.takeWhile_eq_self_iff.mpr
  intro b inside
  apply decide_eq_true
  rintro rfl
  exact h inside

theorem noise_gap_append {gap : Bytes} (h : Frame.head ∉ gap) (bytes : Bytes) :
    noise (gap ++ bytes) = gap ++ noise bytes := by
  have all := noise_of_gap h
  rw [noise_append_of_noise (by rw [all])]

end Meter

namespace Modbus

/-- The shapes of responses.  The two bytes of the CRC are not looked at when a stream is cut. -/
inductive IsResponse : Bytes → Prop
  | read {unit code : UInt8} {data crc : Bytes} :
      1 ≤ code.toNat → code.toNat ≤ 4 → data.length ≤ 255 → crc.length = 2 →
      IsResponse (unit :: code :: UInt8.ofNat data.length :: (data ++ crc))
  | write {unit code : UInt8} {echo crc : Bytes} :
      code.toNat ∈ [5, 6, 15, 16] → echo.length = 4 → crc.length = 2 →
      IsResponse (unit :: code :: (echo ++ crc))
  | exception {unit code reason : UInt8} {crc : Bytes} :
      code.toNat.testBit 7 = true → crc.length = 2 →
      IsResponse (unit :: code :: reason :: crc)

theorem testBit_of_lt {code : UInt8} (h : code.toNat < 128) : ¬ code.toNat.testBit 7 = true := by
  rw [Nat.testBit_lt_two_pow h]
  exact Bool.noConfusion

theorem IsResponse.announced {unit code : UInt8} {rest : Bytes}
    (h : IsResponse (unit :: code :: rest)) : announcedLength code rest = .known (rest.length + 2) := by
  cases h with
  | read least most short crc =>
    rename_i data crc'
    have plain : ¬ code.toNat.testBit 7 = true := testBit_of_lt (by omega)
    have count : (UInt8.ofNat data.length).toNat = data.length := by
      rw [UInt8.toNat_ofNat']
      exact Nat.mod_eq_of_lt (Nat.lt_succ_of_le short)
    simp only [announcedLength, if_neg (mt (isException_iff code).mp plain),
      if_pos ((isReadCode_iff code).mpr ⟨least, most⟩), count, List.length_cons, List.length_append,
      crc]
    congr 1
    omega
  | write writes echo crc =>
    have plain : ¬ code.toNat.testBit 7 = true := by
      apply testBit_of_lt
      simp only [List.mem_cons, List.not_mem_nil, or_false] at writes
      omega
    have no_read : ¬ (1 ≤ code.toNat ∧ code.toNat ≤ 4) := by
      simp only [List.mem_cons, List.not_mem_nil, or_false] at writes
      omega
    simp only [announcedLength, if_neg (mt (isException_iff code).mp plain),
      if_neg (mt (isReadCode_iff code).mp no_read), if_pos ((isWriteCode_iff code).mpr writes),
      List.length_append, echo, crc]
  | exception flagged crc =>
    simp only [announcedLength, if_pos ((isException_iff code).mpr flagged), List.length_cons, crc]

theorem scan_response {response : Bytes} (h : IsResponse response) :
    scan response = .frame response.length := by
  match response, h with
  | unit :: code :: rest, h =>
    simp only [scan, h.announced, List.length_cons]
    rw [if_neg (by omega)]

end Modbus

namespace Framer

variable {method : FrameMethod}

theorem drain_scanned {frame : Bytes} (h : method.scan frame = .frame frame.length) (more : Bytes) :
    (reading method (frame ++ more)).drain =
      (.frame frame :: (reading method more).drain.1, (reading method more).drain.2) := by
  rw [drain_frame (method.scan_frame_append h more), List.take_left, List.drop_left]

theorem drain_gap {gap : Bytes} (h : Meter.Frame.head ∉ gap) (more : Bytes) :
    (reading .meter (gap ++ more)).drain = (reading .meter more).drain := by
  rw [← drain_noise (gap ++ more), Meter.noise_gap_append h, List.length_append,
    List.drop_length_add_append, drain_noise]

theorem drain_nil (method : FrameMethod) :
    (reading method []).drain = ([], reading method []) := by
  apply drain_incomplete
  cases method <;> rfl

theorem drain_stream (parts : List (Bytes × Meter.Frame)) {last : Bytes}
    (gaps : ∀ part ∈ parts, Meter.Frame.head ∉ part.1) (quiet : Meter.Frame.head ∉ last)
    (encodable : ∀ part ∈ parts, part.2.Encodable) :
    (reading .meter (Meter.stream parts last)).drain =
      (parts.map fun part => .frame part.2.wire, reading .meter []) := by
  induction parts with
  | nil =>
    rw [Meter.stream, ← List.append_nil last, drain_gap quiet, drain_nil]
    rfl
  | cons part parts ih =>
    obtain ⟨gap, f⟩ := part
    have rest := ih (fun p m => gaps p (.tail _ m)) (fun p m => encodable p (.tail _ m))
    have whole : FrameMethod.meter.scan f.wire = .frame f.wire.length :=
      Meter.scan_wire (encodable _ (.head _))
    rw [Meter.stream, List.append_assoc, drain_gap (gaps _ (.head _)), drain_scanned whole, rest]
    rfl

theorem drain_responses (responses : List Bytes) (h : ∀ r ∈ responses, Modbus.IsResponse r) :
    (reading .rtu responses.flatten).drain = (responses.map .frame, reading .rtu []) := by
  induction responses with
  | nil => exact drain_nil .rtu
  | cons response responses ih =>
    have whole : FrameMethod.rtu.scan response = .frame response.length :=
      Modbus.scan_response (h _ (.head _))
    rw [List.flatten_cons, drain_scanned whole, ih fun r m => h r (.tail _ m)]
    rfl

theorem feed_chunks (method : FrameMethod) (chunks : List Bytes) :
    (authenticate { method }).feed chunks = (reading method chunks.flatten).drain :=
  feed_eq_drain (drain_nil method) chunks

theorem sent_is_delivered :
    (∀ (parts : List (Bytes × Meter.Frame)) (last : Bytes) (chunks : List Bytes),
      (∀ part ∈ parts, 0x68 ∉ part.1) → 0x68 ∉ last →
      (∀ part ∈ parts, part.2.address.length = 7 ∧ part.2.dataArea.length ≤ 255) →
      chunks.flatten = Meter.stream parts last →
      (authenticate { method := .meter }).feed chunks =
        (parts.map fun part => .frame part.2.wire,
          { method := .meter, authenticated := true, buffer := [] }) ∧
      ∀ part ∈ parts, part.2.encode = .ok part.2.wire ∧
        ∃ d, Meter.Frame.decode part.2.layout part.2.wire = .ok d ∧ d.frame = part.2 ∧
          d.checksumOk = true) ∧
    (∀ responses chunks : List Bytes, (∀ r ∈ responses, Modbus.IsResponse r) →
      chunks.flatten = responses.flatten →
      (authenticate { method := .rtu }).feed chunks =
        (responses.map .frame, { method := .rtu, authenticated := true, buffer := [] })) := by
  refine ⟨?_, ?_⟩
  · intro parts last chunks gaps quiet sizes cut
    have encodable : ∀ part ∈ parts, part.2.Encodable := by
      intro part m
      exact ⟨(sizes part m).1, (sizes part m).2⟩
    refine ⟨?_, ?_⟩
    · rw [feed_chunks, cut, drain_stream parts gaps quiet encodable]
      rfl
    · intro part m
      refine ⟨Meter.Frame.encode_eq_wire (encodable part m), _, Meter.Frame.decode_wire (encodable part m),
        rfl, ?_⟩
      simp [Meter.Decoded.checksumOk]
  · intro responses chunks shapes cut
    rw [feed_chunks, cut, drain_responses responses shapes]
    rfl

def disguised : List (Bytes × Meter.Frame) :=
  [([0xFE, 0xFE], ⟨0x10, [0x68, 0x16, 0x68, 0x16, 0x68, 0x16, 0x68], 0x68, [⟨.dataId, [0x68, 0x16]⟩]⟩),
    ([], ⟨0x16, List.replicate 7 0x16, 0x81, []⟩),
    ([0x16, 0x00], ⟨0x68, List.replicate 7 0x68, 0x16, [⟨.seq, []⟩, ⟨.empty, List.replicate 9 0x68⟩]⟩)]

def plainResponses : List Bytes :=
  [[1, 3, 0, 7, 7], [0x83, 16, 0x83, 1, 2, 3, 9, 9], [255, 0x80, 2, 0, 0]]

theorem sent_is_delivered_disguised :
    (∀ part ∈ disguised, 0x68 ∉ part.1) ∧ 0x68 ∉ ([0xFE] : Bytes) ∧
    (∀ part ∈ disguised, part.2.address.length = 7 ∧ part.2.dataArea.length ≤ 255) ∧
    (authenticate { method := .meter }).feed ((Meter.stream disguised [0xFE]).map ([·])) =
      (disguised.map fun part => .frame part.2.wire,
        { method := .meter, authenticated := true, buffer := [] }) ∧
    (∀ r ∈ plainResponses, Modbus.IsResponse r) ∧
    (authenticate { method := .rtu }).feed [[], plainResponses.flatten.take 7, plainResponses.flatten.drop 7] =
      (plainResponses.map .frame, { method := .rtu, authenticated := true, buffer := [] }) := by
  have gaps : ∀ part ∈ disguised, 0x68 ∉ part.1 := by decide
  have quiet : 0x68 ∉ ([0xFE] : Bytes) := by decide
  have sizes : ∀ part ∈ disguised, part.2.address.length = 7 ∧ part.2.dataArea.length ≤ 255 := by
    decide
  have shapes : ∀ r ∈ plainResponses, Modbus.IsResponse r := by
    simp only [plainResponses, List.forall_mem_cons, List.not_mem_nil, false_imp_iff, implies_true,
      and_true]
    refine ⟨?_, ?_, ?_⟩
    · exact @Modbus.IsResponse.read 1 3 [] [7, 7] (by decide) (by decide) (by decide) rfl
    · exact @Modbus.IsResponse.write 0x83 16 [0x83, 1, 2, 3] [9, 9] (by decide) rfl rfl
    · exact .exception (by decide) rfl
  refine ⟨gaps, quiet, sizes, ?_, shapes, ?_⟩
  · exact (sent_is_delivered.1 disguised [0xFE] _ gaps quiet sizes (by decide)).1
  · exact sent_is_delivered.2 plainResponses _ shapes (by decide)

end Framer

end MeterGateway
