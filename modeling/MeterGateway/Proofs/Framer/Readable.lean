import MeterGateway.Converter.Uplink
import MeterGateway.Proofs.Framer.Streams
import MeterGateway.Proofs.Meter.RoundTrip

/-!
What a scanner cuts, a reader reads.  Scanner and reader find the length of a frame each on its own;
they agree, so that a frame cut from a stream is refused only by a layout that asks for more data
than there is, and the report of an exception never becomes a value.
-/

namespace MeterGateway

namespace Meter

variable {bytes area : Bytes} {n : Nat} {layout : Layout}

theorem cutFields_error {offset : Nat} {e : CodecError}
    (refused : cutFields offset layout area = .error e) :
    ∃ needed, e = .truncated needed (offset + area.length) ∧ offset + area.length < needed ∧
      needed ≤ offset + layout.width := by
  induction layout generalizing offset area with
  | nil => cases refused
  | cons entry layout ih =>
    obtain ⟨name, width⟩ := entry
    rw [cutFields] at refused
    rw [Layout.width]
    split at refused
    case isTrue short =>
      cases refused
      exact ⟨offset + width, rfl, by omega, by omega⟩
    case isFalse fits =>
      cases cut : cutFields (offset + width) layout (area.drop width) with
      | ok fields =>
        rw [cut] at refused
        cases refused
      | error e' =>
        rw [cut] at refused
        cases refused
        obtain ⟨needed, rfl, beyond, inside⟩ := ih cut
        have whole : offset + width + (area.drop width).length = offset + area.length := by
          rw [List.length_drop]
          omega
        rw [whole] at beyond ⊢
        exact ⟨needed, rfl, beyond, by omega⟩

theorem of_scan_frame (cut : scan bytes = .frame n) :
    bytes.head? = some Frame.head ∧ bytes[n - 1]? = some Frame.tail ∧
      ∃ length, bytes[10]? = some length ∧ n = Frame.leastLength + length.toNat := by
  have quiet : noise bytes = [] := noise_of_scan (by simp [cut])
  rw [scan_of_head quiet] at cut
  cases announced : bytes[10]? with
  | none => simp [announcedLength?, announced] at cut
  | some length =>
    have first : bytes.head? = some Frame.head := by
      cases bytes with
      | nil => cases announced
      | cons b bytes => simpa [noise] using quiet
    simp only [announcedLength?, announced, Option.map_some] at cut
    split at cut
    case h_1 => cases cut
    case h_2 last ends =>
      split at cut
      case isFalse => cases cut
      case isTrue closes =>
        injection cut with total
        subst closes total
        exact ⟨first, ends, length, rfl, rfl⟩

theorem exists_line_of_scan (cut : scan bytes = .frame n) :
    ∃ (f : Frame) (checksum : UInt8), f.Encodable ∧
      bytes.take n = f.body ++ [checksum, Frame.tail] ∧ n = Frame.leastLength + f.dataArea.length := by
  obtain ⟨first, ends, length, announced, rfl⟩ := of_scan_frame cut
  match bytes, first, ends, announced with
  | h :: deviceType :: a0 :: a1 :: a2 :: a3 :: a4 :: a5 :: a6 :: control :: l :: rest, first, ends,
      announced =>
    obtain rfl : h = Frame.head := Option.some.inj first
    obtain rfl : l = length := Option.some.inj announced
    have last : rest[l.toNat + 1]? = some Frame.tail := by
      have place : Frame.leastLength + l.toNat - 1 = l.toNat + 1 + 11 := by
        simp only [Frame.leastLength, Frame.headerLength]
        omega
      rw [place] at ends
      exact ends
    obtain ⟨inside, last⟩ := List.getElem?_eq_some_iff.mp last
    have area : (rest.take l.toNat).length = l.toNat := by
      rw [List.length_take]
      omega
    have line : rest.take (l.toNat + 2) = rest.take l.toNat ++ [rest[l.toNat], Frame.tail] := by
      rw [List.take_succ_eq_append_getElem inside, List.take_succ_eq_append_getElem, last,
        List.append_assoc]
      rfl
    let f : Frame :=
      ⟨deviceType, [a0, a1, a2, a3, a4, a5, a6], control, [⟨.empty, rest.take l.toNat⟩]⟩
    have own : f.dataArea = rest.take l.toNat := by simp [f, Frame.dataArea]
    refine ⟨f, rest[l.toNat], ⟨rfl, ?_⟩, ?_, ?_⟩
    · rw [own, area]
      exact Nat.le_of_lt_succ l.toNat_lt
    · rw [Frame.body, own, area, UInt8.ofNat_toNat]
      have total : Frame.leastLength + l.toNat = l.toNat + 2 + 11 := by
        simp only [Frame.leastLength, Frame.headerLength]
        omega
      simp [total, f, line]
    · rw [own, area]

/-- A frame that was cut from a stream is read to its last byte, unless the layout asks for more data
than it has. -/
theorem decode_scanned (cut : scan bytes = .frame n) (layout : Layout) :
    (layout.width ≤ n - 13 → ∃ d, Frame.decode layout (bytes.take n) = .ok d ∧
      n = 13 + d.length.toNat ∧ bytes.take n = d.frame.body ++ [d.checksum, Frame.tail]) ∧
    (n - 13 < layout.width → ∃ needed, n - 13 < needed ∧ needed ≤ layout.width ∧
      Frame.decode layout (bytes.take n) = .error (.truncated needed (n - 13))) := by
  obtain ⟨f, checksum, encodable, line, total⟩ := exists_line_of_scan cut
  have area : n - 13 = f.dataArea.length := by
    rw [total, Frame.leastLength, Frame.headerLength]
    omega
  have decoded := Frame.decode_body_append encodable layout checksum []
  rw [← line] at decoded
  rw [area]
  constructor
  · intro fits
    obtain ⟨fields, cut⟩ := exists_cut_iff.mpr fits
    rw [(cutFields_eq_ok_iff 0).mpr cut] at decoded
    refine ⟨_, decoded, ?_, ?_⟩
    · rw [total, encodable.toNat_length]
      rfl
    · rw [line]
      simp only [Frame.body, Frame.dataArea, cut.dataArea]
  · intro short
    cases cut : cutFields 0 layout f.dataArea with
    | ok fields =>
      have fits := exists_cut_iff.mp ⟨fields, (cutFields_eq_ok_iff 0).mp cut⟩
      omega
    | error e =>
      obtain ⟨needed, rfl, beyond, inside⟩ := cutFields_error cut
      rw [cut] at decoded
      rw [Nat.zero_add] at beyond inside decoded
      exact ⟨needed, beyond, inside, decoded⟩

end Meter

theorem Uplink.convert_exception {r : Modbus.Response} {reason : UInt8}
    (told : r.exceptionCode? = some reason) (device : DeviceConfig) (kind : PollKind)
    (point : PointConfig) :
    (bytes device kind point (.rtu r)).result = .error (.exception reason) := by
  simp only [bytes, Conversion.result, convert, decodeRegisters, told]
  rfl

namespace Modbus

variable {bytes line : Bytes} {n : Nat}

theorem announcedLength_eq_known {code : UInt8} {rest : Bytes} {total : Nat}
    (h : announcedLength code rest = .known total) :
    code.toNat.testBit 7 = true ∧ total = 5 ∨
    (1 ≤ code.toNat ∧ code.toNat ≤ 4) ∧
      (∃ count more, rest = count :: more ∧ total = 5 + count.toNat) ∨
    code.toNat ∈ [5, 6, 15, 16] ∧ total = 8 := by
  unfold announcedLength at h
  split at h
  case isTrue flagged =>
    injection h with total
    exact .inl ⟨(isException_iff code).mp flagged, total.symm⟩
  case isFalse =>
    split at h
    case isTrue reads =>
      cases rest with
      | nil => cases h
      | cons count more =>
        injection h with total
        exact .inr (.inl ⟨(isReadCode_iff code).mp reads, count, more, rfl, total.symm⟩)
    case isFalse =>
      split at h
      case isTrue writes =>
        injection h with total
        exact .inr (.inr ⟨(isWriteCode_iff code).mp writes, total.symm⟩)
      case isFalse => cases h

theorem exists_take_payload {rest : Bytes} {k : Nat} (enough : k + 2 ≤ rest.length) :
    ∃ payload crc, rest.take (k + 2) = payload ++ crc ∧ payload.length = k ∧ crc.length = 2 := by
  refine ⟨rest.take k, (rest.drop k).take 2, List.take_add, ?_, ?_⟩
  · rw [List.length_take]
    omega
  · rw [List.length_take, List.length_drop]
    omega

theorem isResponse_of_scan (cut : scan bytes = .frame n) : IsResponse (bytes.take n) := by
  match bytes with
  | [] | [_] => cases cut
  | unit :: code :: rest =>
    simp only [scan] at cut
    cases extent : announcedLength code rest with
    | unknown | none =>
      rw [extent] at cut
      cases cut
    | known total =>
      simp only [extent, List.length_cons] at cut
      split at cut
      case isTrue => cases cut
      case isFalse enough =>
        injection cut with same
        subst same
        obtain ⟨flagged, rfl⟩ | ⟨⟨least, most⟩, count, more, rfl, rfl⟩ | ⟨writes, rfl⟩ :=
          announcedLength_eq_known extent
        · obtain ⟨payload, crc, line, one, two⟩ : ∃ payload crc, rest.take (1 + 2) = payload ++ crc ∧
            payload.length = 1 ∧ crc.length = 2 := exists_take_payload (by omega)
          obtain ⟨reason, rfl⟩ := List.length_eq_one_iff.mp one
          have shape : IsResponse (unit :: code :: reason :: crc) := .exception flagged two
          rw [show reason :: crc = rest.take (1 + 2) from line.symm] at shape
          exact shape
        · rw [List.length_cons] at enough
          obtain ⟨data, crc, line, length, two⟩ : ∃ data crc, more.take (count.toNat + 2) = data ++ crc ∧
              data.length = count.toNat ∧ crc.length = 2 := exists_take_payload (by omega)
          have short : data.length ≤ 255 := length.trans_le (Nat.le_of_lt_succ count.toNat_lt)
          have shape : IsResponse (unit :: code :: _) := .read least most short two
          rw [length, UInt8.ofNat_toNat, ← line] at shape
          rw [Nat.add_comm 5]
          exact shape
        · obtain ⟨echo, crc, line, four, two⟩ : ∃ echo crc, rest.take (4 + 2) = echo ++ crc ∧
            echo.length = 4 ∧ crc.length = 2 := exists_take_payload (by omega)
          have shape : IsResponse (unit :: code :: _) := .write writes four two
          rw [← line] at shape
          exact shape

namespace Response

structure Told (told : Bytes) (r : Response) : Prop where
  unit : told[0]? = some r.unit
  functionCode : told[1]? = some r.functionCode
  known : r.functionCode ∈ ([1, 2, 3, 4, 5, 6, 15, 16] : List UInt8) ∨ r.functionCode &&& 0x80 ≠ 0
  read : r.functionCode ∈ ([1, 2, 3, 4] : List UInt8) → ∃ count, told[2]? = some count ∧
    r.values = (told.drop 3).take count.toNat ∧ r.values.length = count.toNat
  write : r.functionCode ∈ ([5, 6, 15, 16] : List UInt8) →
    r.values = (told.drop 2).take 4 ∧ r.values.length = 4
  exception : r.functionCode &&& 0x80 ≠ 0 → ∃ reason, told[2]? = some reason ∧
    r.exceptionCode? = some reason ∧ r.values = []

theorem decode_payload (unit code : UInt8) (payload : Bytes) {crc : Bytes} (two : crc.length = 2) :
    ∃ crcOk, decode (unit :: code :: (payload ++ crc)) = .ok ⟨unit, code, payload, crcOk⟩ := by
  have long : ¬ (unit :: code :: (payload ++ crc)).length < leastLength := by
    simp only [List.length_cons, List.length_append, two, leastLength]
    omega
  have own : (payload ++ crc).take ((payload ++ crc).length - 2) = payload := by
    rw [List.length_append, two, Nat.add_sub_cancel, List.take_left]
  simp only [decode, if_neg long, own]
  exact ⟨_, rfl⟩

theorem isException_eq (r : Response) : r.isException = r.functionCode.toNat.testBit 7 := by
  rw [Bool.eq_iff_iff, ← isException_iff, isException, decide_eq_true_iff]

theorem values_plain (unit : UInt8) {code : UInt8} (plain : ¬ code.toNat.testBit 7 = true)
    (payload : Bytes) (crcOk : Bool) : (⟨unit, code, payload, crcOk⟩ : Response).values =
      if isReadCode code then payload.drop 1 else payload := by
  rw [values, isException_eq, if_neg plain]

end Response

theorem mem_reads_iff (code : UInt8) :
    code ∈ ([1, 2, 3, 4] : List UInt8) ↔ 1 ≤ code.toNat ∧ code.toNat ≤ 4 := by
  revert code
  apply forall_byte
  decide +kernel

theorem mem_writes_iff (code : UInt8) :
    code ∈ ([5, 6, 15, 16] : List UInt8) ↔ code.toNat ∈ [5, 6, 15, 16] := by
  revert code
  apply forall_byte
  decide +kernel

section Told

variable {unit code : UInt8}

theorem Response.told_read {data rest : Bytes} (crcOk : Bool) (least : 1 ≤ code.toNat)
    (most : code.toNat ≤ 4) (short : data.length ≤ 255) :
    (⟨unit, code, UInt8.ofNat data.length :: data, crcOk⟩ : Response).Told
      (unit :: code :: UInt8.ofNat data.length :: (data ++ rest)) := by
  have plain : ¬ code.toNat.testBit 7 = true := testBit_of_lt (by omega)
  have reads : isReadCode code = true := (isReadCode_iff code).mpr ⟨least, most⟩
  have count : (UInt8.ofNat data.length).toNat = data.length := by
    rw [UInt8.toNat_ofNat']
    exact Nat.mod_eq_of_lt (Nat.lt_succ_of_le short)
  have values : (⟨unit, code, UInt8.ofNat data.length :: data, crcOk⟩ : Response).values = data := by
    rw [values_plain unit plain, if_pos reads]
    rfl
  refine ⟨rfl, rfl, .inl ?_, fun _ => ⟨_, rfl, ?_, ?_⟩, fun mem => ?_, fun flagged => ?_⟩
  · exact List.mem_append_left [5, 6, 15, 16] ((mem_reads_iff code).mpr ⟨least, most⟩)
  · rw [values, count]
    exact List.take_left.symm
  · rw [values, count]
  · have writes := (mem_writes_iff code).mp mem
    simp only [List.mem_cons, List.not_mem_nil, or_false] at writes
    omega
  · exact absurd ((isException_iff code).mp flagged) plain

theorem Response.told_write {echo rest : Bytes} (crcOk : Bool) (writes : code.toNat ∈ [5, 6, 15, 16])
    (four : echo.length = 4) :
    (⟨unit, code, echo, crcOk⟩ : Response).Told (unit :: code :: (echo ++ rest)) := by
  have range : 5 ≤ code.toNat ∧ code.toNat < 128 := by
    simp only [List.mem_cons, List.not_mem_nil, or_false] at writes
    omega
  have plain : ¬ code.toNat.testBit 7 = true := testBit_of_lt range.2
  have no_read : ¬ (1 ≤ code.toNat ∧ code.toNat ≤ 4) := by omega
  have values : (⟨unit, code, echo, crcOk⟩ : Response).values = echo := by
    rw [values_plain unit plain, if_neg (mt (isReadCode_iff code).mp no_read)]
  refine ⟨rfl, rfl, .inl ?_, fun mem => ?_, fun _ => ⟨?_, ?_⟩, fun flagged => ?_⟩
  · exact List.mem_append_right [1, 2, 3, 4] ((mem_writes_iff code).mpr writes)
  · exact absurd ((mem_reads_iff code).mp mem) no_read
  · rw [values, ← four]
    exact List.take_left.symm
  · rw [values, four]
  · exact absurd ((isException_iff code).mp flagged) plain

theorem Response.told_exception {reason : UInt8} {rest : Bytes} (crcOk : Bool)
    (flagged : code.toNat.testBit 7 = true) :
    (⟨unit, code, [reason], crcOk⟩ : Response).Told (unit :: code :: reason :: rest) := by
  have large : ¬ code.toNat < 128 := fun small => testBit_of_lt small flagged
  have exception : (⟨unit, code, [reason], crcOk⟩ : Response).isException = true :=
    (isException_eq _).trans flagged
  refine ⟨rfl, rfl, .inr ?_, fun mem => ?_, fun mem => ?_, fun _ => ⟨reason, rfl, ?_, ?_⟩⟩
  · exact (isException_iff code).mpr flagged
  · have reads := (mem_reads_iff code).mp mem
    omega
  · have writes := (mem_writes_iff code).mp mem
    simp only [List.mem_cons, List.not_mem_nil, or_false] at writes
    omega
  · rw [exceptionCode?, if_pos exception]
    rfl
  · rw [Response.values, if_pos exception]

theorem IsResponse.told (h : IsResponse line) : ∃ r, Response.decode line = .ok r ∧ r.Told line := by
  cases h with
  | @read unit code data crc least most short two =>
    obtain ⟨crcOk, decoded⟩ := Response.decode_payload unit code (UInt8.ofNat data.length :: data) two
    exact ⟨_, decoded, Response.told_read crcOk least most short⟩
  | @write unit code echo crc writes four two =>
    obtain ⟨crcOk, decoded⟩ := Response.decode_payload unit code echo two
    exact ⟨_, decoded, Response.told_write crcOk writes four⟩
  | @exception unit code reason crc flagged two =>
    obtain ⟨crcOk, decoded⟩ := Response.decode_payload unit code [reason] two
    exact ⟨_, decoded, Response.told_exception crcOk flagged⟩

end Told

end Modbus

/-- Frames that scanners cut are read: a meter frame by every layout that its data has room for, and a
response by its function code.  An exception is reported as such for every point. -/
theorem scanned_frames_are_read :
    (∀ (bytes : Bytes) (n : Nat), Meter.scan bytes = .frame n → ∀ layout : Meter.Layout,
      (layout.width ≤ n - 13 → ∃ d, Meter.Frame.decode layout (bytes.take n) = .ok d ∧
        n = 13 + d.length.toNat ∧
        bytes.take n = d.frame.body ++ [d.checksum, Meter.Frame.tail]) ∧
      (n - 13 < layout.width → ∃ needed, n - 13 < needed ∧ needed ≤ layout.width ∧
        Meter.Frame.decode layout (bytes.take n) = .error (.truncated needed (n - 13)))) ∧
    ∀ (bytes : Bytes) (n : Nat), Modbus.scan bytes = .frame n →
      ∃ r, Modbus.Response.decode (bytes.take n) = .ok r ∧ r.Told (bytes.take n) ∧
        ∀ reason, r.exceptionCode? = some reason → ∀ device kind point,
          (Uplink.bytes device kind point (.rtu r)).result = .error (.exception reason) := by
  refine ⟨fun bytes n cut layout => Meter.decode_scanned cut layout, ?_⟩
  intro bytes n cut
  obtain ⟨r, decoded, told⟩ := (Modbus.isResponse_of_scan cut).told
  exact ⟨r, decoded, told, fun reason exception => Uplink.convert_exception exception⟩

theorem scanned_frames_are_read_brief :
    let stream : Bytes := [0x68, 0x10, 1, 2, 3, 4, 5, 6, 7, 0x81, 2, 0x1F, 0x90, 0, 0x16, 0x68, 0x68]
    let responses : Bytes := [1, 0xC3, 2, 0, 0, 1]
    Meter.scan stream = .frame 15 ∧
    (∃ d, Meter.Frame.decode [(.dataId, 2)] (stream.take 15) = .ok d ∧ 15 = 13 + d.length.toNat) ∧
    (∃ needed, 2 < needed ∧
      Meter.Frame.decode [(.dataId, 2), (.seq, 1)] (stream.take 15) = .error (.truncated needed 2)) ∧
    Modbus.scan responses = .frame 5 ∧
    ∃ r, Modbus.Response.decode (responses.take 5) = .ok r ∧ r.exceptionCode? = some 2 ∧
      ∀ device kind point,
        (Uplink.bytes device kind point (.rtu r)).result = .error (.exception 2) := by
  intro stream responses
  have frame : Meter.scan stream = .frame 15 := by decide
  have exception : Modbus.scan responses = .frame 5 := by decide
  obtain ⟨fits, -⟩ := scanned_frames_are_read.1 stream 15 frame [(.dataId, 2)]
  obtain ⟨d, decoded, total, -⟩ := fits (by decide)
  obtain ⟨-, short⟩ := scanned_frames_are_read.1 stream 15 frame [(.dataId, 2), (.seq, 1)]
  obtain ⟨needed, beyond, -, refused⟩ := short (by decide)
  obtain ⟨r, read, told, converted⟩ := scanned_frames_are_read.2 responses 5 exception
  have flagged : r.functionCode &&& 0x80 ≠ 0 := by
    rw [Option.some.inj told.functionCode.symm]
    decide
  obtain ⟨reason, third, reported, -⟩ := told.exception flagged
  obtain rfl : 2 = reason := Option.some.inj third
  exact ⟨frame, ⟨d, decoded, total⟩, ⟨needed, beyond, refused⟩, exception, r, read, reported,
    converted 2 reported⟩

end MeterGateway
