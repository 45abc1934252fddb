import MeterGateway.Proofs.Meter.Wire

/-!
Meter frames read and written again.  A layout cuts a data area into fields of its widths whenever
these fit, and what is left over becomes one more field, so nothing is lost: whatever was read is
written as it stood on the line, but for a checksum that was wrong.
-/

namespace MeterGateway.Meter

def Layout.width : Layout → Nat
  | [] => 0
  | (_, width) :: rest => width + Layout.width rest

def surplus (rest : Bytes) : List Field := if rest = [] then [] else [⟨.empty, rest⟩]

/-- The fields of a data area: those of the layout in its order, with its widths, and one more if
bytes are left over. -/
def Cut (layout : Layout) (area : Bytes) (fields : List Field) : Prop :=
  ∃ own rest, own.map (fun g => (g.name, g.width)) = layout ∧
    own.flatMap Field.data ++ rest = area ∧ fields = own ++ surplus rest

section Cut

variable {layout : Layout} {area rest : Bytes} {fields : List Field} {name : FieldName} {width : Nat}

@[simp] theorem surplus_data (rest : Bytes) : (surplus rest).flatMap Field.data = rest := by
  unfold surplus
  split
  · rename_i empty
    exact empty.symm
  · simp

theorem Cut.dataArea (cut : Cut layout area fields) : fields.flatMap Field.data = area := by
  obtain ⟨own, rest, -, whole, rfl⟩ := cut
  rw [List.flatMap_append, surplus_data]
  exact whole

theorem cut_nil_iff : Cut [] area fields ↔ fields = surplus area := by
  constructor
  · rintro ⟨own, rest, none_own, whole, rfl⟩
    rw [List.map_eq_nil_iff] at none_own
    subst none_own
    rw [← whole]
    rfl
  · rintro rfl
    exact ⟨[], area, rfl, rfl, rfl⟩

theorem cut_cons_iff : Cut ((name, width) :: layout) area fields ↔
    ∃ data more others, data.length = width ∧ data ++ more = area ∧ Cut layout more others ∧
      fields = ⟨name, data⟩ :: others := by
  constructor
  · rintro ⟨own, rest, named, whole, rfl⟩
    obtain ⟨g, own, rfl, first, others_named⟩ := List.map_eq_cons_iff.mp named
    obtain ⟨rfl, rfl⟩ := Prod.mk.inj first
    rw [List.flatMap_cons, List.append_assoc] at whole
    exact ⟨g.data, _, _, rfl, whole, ⟨own, rest, others_named, rfl, rfl⟩, rfl⟩
  · rintro ⟨data, more, others, rfl, rfl, ⟨own, rest, rfl, rfl, rfl⟩, rfl⟩
    exact ⟨⟨name, data⟩ :: own, rest, rfl, by simp, rfl⟩

theorem cutFields_eq_ok_iff (offset : Nat) :
    cutFields offset layout area = .ok fields ↔ Cut layout area fields := by
  induction layout generalizing offset area fields with
  | nil =>
    rw [cut_nil_iff, cutFields, Except.ok.injEq]
    exact eq_comm
  | cons entry layout ih =>
    obtain ⟨name, width⟩ := entry
    rw [cut_cons_iff, cutFields]
    split
    · rename_i short
      constructor
      · intro refused
        cases refused
      · rintro ⟨data, more, _, rfl, rfl, -⟩
        rw [List.length_append] at short
        omega
    · rename_i fits
      constructor
      · intro read
        cases cut : cutFields (offset + width) layout (area.drop width) with
        | error e =>
          rw [cut] at read
          cases read
        | ok others =>
          rw [cut] at read
          cases read
          refine ⟨area.take width, area.drop width, others, ?_, List.take_append_drop _ _,
            (ih _).mp cut, rfl⟩
          rw [List.length_take]
          omega
      · rintro ⟨data, more, others, rfl, rfl, cut, rfl⟩
        rw [List.drop_left, List.take_left, (ih _).mpr cut]

theorem exists_cut_iff : (∃ fields, Cut layout area fields) ↔ layout.width ≤ area.length := by
  induction layout generalizing area with
  | nil => simp [cut_nil_iff, Layout.width]
  | cons entry layout ih =>
    obtain ⟨name, width⟩ := entry
    rw [Layout.width]
    constructor
    · rintro ⟨fields, cut⟩
      obtain ⟨data, more, others, rfl, rfl, cut, -⟩ := cut_cons_iff.mp cut
      have left := ih.mp ⟨others, cut⟩
      rw [List.length_append]
      omega
    · intro fits
      have left : Layout.width layout ≤ (area.drop width).length := by
        rw [List.length_drop]
        omega
      obtain ⟨others, cut⟩ := ih.mpr left
      refine ⟨⟨name, area.take width⟩ :: others, cut_cons_iff.mpr
        ⟨_, _, others, ?_, List.take_append_drop _ _, cut, rfl⟩⟩
      rw [List.length_take]
      omega

end Cut

namespace Frame

variable {f : Frame} {layout : Layout} {bytes more : Bytes} {d : Decoded}

theorem encode_eq_ok_iff : f.encode = .ok bytes ↔ f.Encodable ∧ f.wire = bytes := by
  constructor
  · intro written
    unfold encode at written
    split at written
    · cases written
    · rename_i seven
      split at written
      · cases written
      · rename_i fits
        cases written
        exact ⟨⟨not_not.mp seven, Nat.not_lt.mp fits⟩, rfl⟩
  · rintro ⟨encodable, rfl⟩
    exact encode_eq_wire encodable

theorem decode_wire_eq_ok_iff (h : f.Encodable) :
    decode layout (f.wire ++ more) = .ok d ↔
      ∃ fields, Cut layout f.dataArea fields ∧
        d = ⟨{ f with fields }, UInt8.ofNat f.dataArea.length, Checksum.byteSum f.body,
          Checksum.byteSum f.body⟩ := by
  rw [decode_wire_append h]
  constructor
  · intro read
    cases cut : cutFields 0 layout f.dataArea with
    | error e =>
      rw [cut] at read
      cases read
    | ok fields =>
      rw [cut] at read
      cases read
      exact ⟨fields, (cutFields_eq_ok_iff 0).mp cut, rfl⟩
  · rintro ⟨fields, cut, rfl⟩
    rw [(cutFields_eq_ok_iff 0).mpr cut]

/-- What stood on the line when a frame was read, and what the reader made of it. -/
structure Read (layout : Layout) (bytes : Bytes) (d : Decoded) (more : Bytes) : Prop where
  encodable : d.frame.Encodable
  line : bytes = d.frame.body ++ d.checksum :: tail :: more
  length : d.length.toNat = d.frame.dataArea.length
  summed : d.computedChecksum = Checksum.byteSum d.frame.body
  cut : Cut layout d.frame.dataArea d.frame.fields

theorem exists_read (read : decode layout bytes = .ok d) : ∃ more, Read layout bytes d more := by
  unfold decode at read
  split at read
  case h_2 => cases read
  case h_1 h deviceType a0 a1 a2 a3 a4 a5 a6 controlCode length rest =>
    split at read
    · cases read
    split at read
    · cases read
    rename_i head_byte
    rw [not_not] at head_byte
    split at read
    case h_2 => cases read
    case h_1 checksum last more after =>
      split at read
      · cases read
      rename_i tail_byte
      rw [not_not] at tail_byte
      subst head_byte tail_byte
      cases cut : cutFields 0 layout (rest.take length.toNat) with
      | error e =>
        rw [cut] at read
        cases read
      | ok fields =>
        rw [cut] at read
        cases read
        rw [cutFields_eq_ok_iff] at cut
        have area : fields.flatMap Field.data = rest.take length.toNat := cut.dataArea
        have long : length.toNat < rest.length := by
          by_contra short
          rw [List.drop_eq_nil_of_le (Nat.not_lt.mp short)] at after
          cases after
        have counted : (rest.take length.toNat).length = length.toNat := by
          rw [List.length_take]
          omega
        have body : Frame.body ⟨deviceType, [a0, a1, a2, a3, a4, a5, a6], controlCode, fields⟩ =
            head :: deviceType :: a0 :: a1 :: a2 :: a3 :: a4 :: a5 :: a6 :: controlCode :: length ::
              rest.take length.toNat := by
          rw [Frame.body, dataArea, area, counted, UInt8.ofNat_toNat]
          rfl
        refine ⟨more, ⟨rfl, ?_⟩, ?_, ?_, ?_, ?_⟩
        · rw [dataArea, area, counted]
          exact Nat.le_of_lt_succ length.toNat_lt
        · rw [body, ← after]
          simp
        · rw [dataArea, area, counted]
        · rw [body]
          simp [headerLength, Nat.add_comm 11]
        · rw [dataArea, area]
          exact cut

namespace Read

variable (read : Read layout bytes d more)

include read

theorem length_body : d.frame.body.length = headerLength + d.length.toNat := by
  rw [read.length]
  exact Frame.length_body read.encodable

theorem announced : bytes[10]? = some d.length := by
  obtain ⟨a0, a1, a2, a3, a4, a5, a6, address, -⟩ := read.encodable.wire_append_eq []
  have length : UInt8.ofNat d.frame.dataArea.length = d.length := by
    rw [← read.length, UInt8.ofNat_toNat]
  rw [read.line, body, address, length]
  rfl

theorem total_le : leastLength + d.length.toNat ≤ bytes.length := by
  rw [read.line, List.length_append, read.length_body, leastLength]
  simp only [List.length_cons]
  omega

theorem take_body : bytes.take (headerLength + d.length.toNat) = d.frame.body := by
  rw [read.line, ← read.length_body, List.take_left]

theorem take_total :
    bytes.take (leastLength + d.length.toNat) = d.frame.body ++ [d.checksum, tail] := by
  have total : leastLength + d.length.toNat = (d.frame.body ++ [d.checksum, tail]).length := by
    rw [List.length_append, read.length_body, leastLength]
    simp only [List.length_cons, List.length_nil]
    omega
  have line : bytes = (d.frame.body ++ [d.checksum, tail]) ++ more := by
    rw [read.line]
    simp
  rw [line, total, List.take_left]

theorem wire_eq : d.frame.wire = d.frame.body ++ [d.computedChecksum, tail] := by
  rw [wire, read.summed]

theorem wire_eq_set :
    d.frame.wire =
      (bytes.take (leastLength + d.length.toNat)).set (headerLength + d.length.toNat)
        d.computedChecksum := by
  rw [read.wire_eq, read.take_total, ← read.length_body, List.set_append_right _ _ (Nat.le_refl _),
    Nat.sub_self, List.set_cons_zero]

end Read

theorem decode_encode_append (f : Frame) :
    ((∃ bytes, f.encode = .ok bytes) ↔ f.address.length = 7 ∧ f.dataArea.length ≤ 255) ∧
    ∀ bytes, f.encode = .ok bytes → ∀ more,
      (∀ layout, (∃ d, decode layout (bytes ++ more) = .ok d) ↔
        Layout.width layout ≤ f.dataArea.length) ∧
      (∀ layout d, decode layout (bytes ++ more) = .ok d →
        d.frame.deviceType = f.deviceType ∧ d.frame.address = f.address ∧
        d.frame.controlCode = f.controlCode ∧ d.checksumOk = true ∧
        Cut layout f.dataArea d.frame.fields) ∧
      ∃ d, decode f.layout (bytes ++ more) = .ok d ∧ d.frame = f := by
  refine ⟨?_, ?_⟩
  · constructor
    · rintro ⟨bytes, written⟩
      obtain ⟨encodable, -⟩ := encode_eq_ok_iff.mp written
      exact ⟨encodable.address, encodable.dataArea⟩
    · rintro ⟨seven, fits⟩
      exact ⟨f.wire, encode_eq_wire ⟨seven, fits⟩⟩
  · intro bytes written more
    obtain ⟨encodable, rfl⟩ := encode_eq_ok_iff.mp written
    refine ⟨?_, ?_, ?_⟩
    · intro layout
      rw [← exists_cut_iff]
      constructor
      · rintro ⟨d, read⟩
        obtain ⟨fields, cut, -⟩ := (decode_wire_eq_ok_iff encodable).mp read
        exact ⟨fields, cut⟩
      · rintro ⟨fields, cut⟩
        exact ⟨_, (decode_wire_eq_ok_iff encodable).mpr ⟨fields, cut, rfl⟩⟩
    · intro layout d read
      obtain ⟨fields, cut, rfl⟩ := (decode_wire_eq_ok_iff encodable).mp read
      exact ⟨rfl, rfl, rfl, decide_eq_true rfl, cut⟩
    · have own : Cut f.layout f.dataArea f.fields := (cutFields_eq_ok_iff 0).mp (cutFields_own 0 _)
      exact ⟨_, (decode_wire_eq_ok_iff encodable).mpr ⟨f.fields, own, rfl⟩, rfl⟩

def reading : Frame where
  deviceType := 0x10
  address := [0x11, 0x22, 0x33, 0x44, 0x55, 0x66, 0x77]
  controlCode := 0x81
  fields := [⟨.dataId, [0x1F, 0x90]⟩, ⟨.seq, [5]⟩, ⟨.status0, [0xAB, 0xCD]⟩]

theorem decode_encode_append_surplus :
    reading.encode = .ok reading.wire ∧
    (∃ d, decode [(.dataId, 2), (.seq, 1)] (reading.wire ++ [0x68, 0x16]) = .ok d ∧
      d.checksumOk = true ∧
      Cut [(.dataId, 2), (.seq, 1)] reading.dataArea d.frame.fields) ∧
    ¬ ∃ d, decode [(.dataId, 2), (.totalUsed, 4)] (reading.wire ++ [0x68, 0x16]) = .ok d := by
  have written : reading.encode = .ok reading.wire := rfl
  obtain ⟨fits, cuts, -⟩ := (decode_encode_append reading).2 _ written [0x68, 0x16]
  obtain ⟨d, read⟩ := (fits [(.dataId, 2), (.seq, 1)]).mpr (by decide)
  obtain ⟨-, -, -, checksum, cut⟩ := cuts _ d read
  refine ⟨written, ⟨d, read, checksum, cut⟩, ?_⟩
  rw [fits]
  decide

theorem encode_decoded (read : decode layout bytes = .ok d) :
    let place := headerLength + d.length.toNat
    let total := leastLength + d.length.toNat
    bytes[10]? = some d.length ∧ bytes[place]? = some d.checksum ∧ total ≤ bytes.length ∧
    d.computedChecksum = Checksum.byteSum (bytes.take place) ∧
    ∃ again, d.frame.encode = .ok again ∧ again.length = total ∧
      (∀ i < total, i ≠ place → again[i]? = bytes[i]?) ∧
      again[place]? = some d.computedChecksum ∧
      (again = bytes.take total ↔ d.checksumOk = true) := by
  intro place total
  obtain ⟨more, read⟩ := exists_read read
  have there : place = d.frame.body.length := read.length_body.symm
  refine ⟨?_, ?_, read.total_le, ?_, d.frame.wire, encode_eq_wire read.encodable, ?_, ?_, ?_, ?_⟩
  · exact read.announced
  · rw [read.line, there, List.getElem?_append_right (Nat.le_refl _), Nat.sub_self]
    rfl
  · rw [read.take_body, read.summed]
  · rw [length_wire read.encodable, ← read.length]
  · intro i inside other
    rw [read.wire_eq_set, List.getElem?_set_ne (Ne.symm other), List.getElem?_take_of_lt inside]
  · rw [read.wire_eq, there, List.getElem?_append_right (Nat.le_refl _), Nat.sub_self]
    rfl
  · rw [read.take_total, read.wire_eq, List.append_cancel_left_eq, List.cons.injEq, Decoded.checksumOk,
      decide_eq_true_iff]
    simp [eq_comm]

theorem encode_decoded_damaged :
    let line := reading.body ++ [0, tail, 0xFE]
    ∃ d, decode [(.dataId, 2), (.seq, 1)] line = .ok d ∧ d.checksumOk = false ∧
      ∃ again, d.frame.encode = .ok again ∧ again.length = 18 ∧ again ≠ line.take 18 := by
  intro line
  have read : ∃ d, decode [(.dataId, 2), (.seq, 1)] line = .ok d ∧ d.checksumOk = false ∧
      d.length = 5 := ⟨_, rfl, rfl, rfl⟩
  obtain ⟨d, read, wrong, five⟩ := read
  obtain ⟨-, -, -, -, again, written, length, -, -, same_iff⟩ := encode_decoded read
  rw [five] at length same_iff
  refine ⟨d, read, wrong, again, written, length, ?_⟩
  intro same
  have right := same_iff.mp same
  rw [wrong] at right
  cases right

end Frame

end MeterGateway.Meter
