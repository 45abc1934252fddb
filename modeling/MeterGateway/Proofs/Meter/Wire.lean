import MeterGateway.Proofs.Framer.Chunks

namespace MeterGateway.Meter

namespace Frame

structure Encodable (f : Frame) : Prop where
  address : f.address.length = addressLength
  dataArea : f.dataArea.length ≤ 255

def wire (f : Frame) : Bytes := f.body ++ [Checksum.byteSum f.body, tail]

def layout (f : Frame) : Layout := f.fields.map fun g => (g.name, g.width)

variable {f : Frame}

theorem encode_eq_wire (h : f.Encodable) : f.encode = .ok f.wire := by
  rw [encode, if_neg (not_not_intro h.address), if_neg (Nat.not_lt.mpr h.dataArea)]
  rfl

theorem Encodable.toNat_length (h : f.Encodable) :
    (UInt8.ofNat f.dataArea.length).toNat = f.dataArea.length := by
  rw [UInt8.toNat_ofNat']
  exact Nat.mod_eq_of_lt (Nat.lt_succ_of_le h.dataArea)

theorem length_body (h : f.Encodable) : f.body.length = headerLength + f.dataArea.length := by
  have seven : f.address.length = 7 := h.address
  simp only [body, List.length_append, List.length_cons, List.length_nil, seven]
  rfl

theorem length_wire (h : f.Encodable) : f.wire.length = leastLength + f.dataArea.length := by
  rw [wire, List.length_append, length_body h, leastLength]
  simp only [List.length_cons, List.length_nil]
  omega

theorem Encodable.body_append_eq (h : f.Encodable) (checksum : UInt8) (more : Bytes) :
    ∃ a0 a1 a2 a3 a4 a5 a6, f.address = [a0, a1, a2, a3, a4, a5, a6] ∧
      f.body ++ checksum :: tail :: more =
        head :: f.deviceType :: a0 :: a1 :: a2 :: a3 :: a4 :: a5 :: a6 :: f.controlCode ::
          UInt8.ofNat f.dataArea.length :: (f.dataArea ++ checksum :: tail :: more) := by
  have seven : f.address.length = 7 := h.address
  match address : f.address, seven with
  | [a0, a1, a2, a3, a4, a5, a6], _ =>
    refine ⟨a0, a1, a2, a3, a4, a5, a6, rfl, ?_⟩
    simp [body, address]

theorem wire_append (f : Frame) (more : Bytes) :
    f.wire ++ more = f.body ++ Checksum.byteSum f.body :: tail :: more := by
  simp [wire]

theorem Encodable.wire_append_eq (h : f.Encodable) (more : Bytes) :
    ∃ a0 a1 a2 a3 a4 a5 a6, f.address = [a0, a1, a2, a3, a4, a5, a6] ∧
      f.wire ++ more =
        head :: f.deviceType :: a0 :: a1 :: a2 :: a3 :: a4 :: a5 :: a6 :: f.controlCode ::
          UInt8.ofNat f.dataArea.length ::
            (f.dataArea ++ Checksum.byteSum f.body :: tail :: more) := by
  rw [wire_append]
  exact h.body_append_eq _ more

/-- Whatever stands in the place of the checksum, a layout decides whether a frame is read. -/
theorem decode_body_append (h : f.Encodable) (layout : Layout) (checksum : UInt8) (more : Bytes) :
    decode layout (f.body ++ checksum :: tail :: more) =
      match cutFields 0 layout f.dataArea with
      | .ok fields =>
        .ok {
          frame := { f with fields }
          length := UInt8.ofNat f.dataArea.length
          checksum
          computedChecksum := Checksum.byteSum f.body }
      | .error e => .error e := by
  have summed : (f.body ++ checksum :: tail :: more).take (headerLength + f.dataArea.length) = f.body := by
    rw [← length_body h, List.take_left]
  obtain ⟨a0, a1, a2, a3, a4, a5, a6, address, front⟩ := h.body_append_eq checksum more
  rw [front] at summed ⊢
  have long : ¬ (f.dataArea ++ checksum :: tail :: more).length < 2 := by
    simp only [List.length_append, List.length_cons]
    omega
  cases cut : cutFields 0 layout f.dataArea with
  | ok | error =>
    simp only [decode, if_neg long, h.toNat_length, summed, List.drop_left, List.take_left, ne_eq,
      not_true_eq_false, if_false, ← address, cut]

theorem decode_wire_append (h : f.Encodable) (layout : Layout) (more : Bytes) :
    decode layout (f.wire ++ more) =
      match cutFields 0 layout f.dataArea with
      | .ok fields =>
        .ok {
          frame := { f with fields }
          length := UInt8.ofNat f.dataArea.length
          checksum := Checksum.byteSum f.body
          computedChecksum := Checksum.byteSum f.body }
      | .error e => .error e := by
  rw [wire_append]
  exact decode_body_append h layout _ more

end Frame

theorem scan_wire {f : Frame} (h : f.Encodable) : scan f.wire = .frame f.wire.length := by
  have last : f.wire[Frame.leastLength + f.dataArea.length - 1]? = some Frame.tail := by
    rw [← Frame.length_wire h, Frame.wire, ← List.getLast?_eq_getElem?]
    simp
  obtain ⟨a0, a1, a2, a3, a4, a5, a6, -, front⟩ := h.wire_append_eq []
  rw [List.append_nil] at front
  have announced : announcedLength? f.wire = some (Frame.leastLength + f.dataArea.length) := by
    simp [front, announcedLength?, h.toNat_length]
  have quiet : noise f.wire = [] := by
    rw [front]
    rfl
  simp only [scan_of_head quiet, announced, last, Frame.length_wire h, if_true]

theorem cutFields_own (offset : Nat) (fields : List Field) :
    cutFields offset (fields.map fun g => (g.name, g.width)) (fields.flatMap Field.data) =
      .ok fields := by
  induction fields generalizing offset with
  | nil => rfl
  | cons g fields ih =>
    have fits : ¬ (g.data ++ fields.flatMap Field.data).length < g.width := by
      rw [List.length_append, Field.width]
      omega
    simp only [List.map_cons, List.flatMap_cons, cutFields, if_neg fits]
    rw [Field.width, List.drop_left, List.take_left, ih]

theorem Frame.decode_wire {f : Frame} (h : f.Encodable) :
    Frame.decode f.layout f.wire = .ok {
      frame := f
      length := UInt8.ofNat f.dataArea.length
      checksum := Checksum.byteSum f.body
      computedChecksum := Checksum.byteSum f.body } := by
  have read := Frame.decode_wire_append h f.layout []
  rw [List.append_nil, show cutFields 0 f.layout f.dataArea = .ok f.fields from cutFields_own 0 _]
    at read
  exact read

end MeterGateway.Meter
