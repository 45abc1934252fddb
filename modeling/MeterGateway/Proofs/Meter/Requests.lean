import MeterGateway.Meter.Response
import MeterGateway.Proofs.Meter.Purchase
import MeterGateway.Proofs.Meter.Wire

namespace MeterGateway.Meter

def framed (deviceType : UInt8) (address : Address) (controlCode : UInt8) (area : Bytes) : Bytes :=
  let body :=
    [0x68, deviceType] ++ address.bytes ++ [controlCode, UInt8.ofNat area.length] ++ area
  body ++ [Checksum.byteSum body, 0x16]

theorem peekSeq_framed {deviceType controlCode : UInt8} {address : Address} {area : Bytes}
    (fits : area.length ≤ 255) : peekSeq (framed deviceType address controlCode area) = area[2]? := by
  have seven : address.bytes.length = 7 := address.length_eq
  have counted : (UInt8.ofNat area.length).toNat = area.length := by
    rw [UInt8.toNat_ofNat']
    exact Nat.mod_eq_of_lt (Nat.lt_succ_of_le fits)
  have length : (framed deviceType address controlCode area)[10]? = some (UInt8.ofNat area.length) := by
    simp [framed, List.getElem?_append, seven]
  simp only [peekSeq, length, counted]
  split
  · rename_i short
    rw [List.getElem?_eq_none]
    omega
  · rename_i long
    have third : 2 < area.length := by omega
    simp [framed, List.getElem?_append, seven, third]

theorem CommandKind.length_dataId (kind : CommandKind) : kind.dataId.length = 2 := by
  cases kind <;> rfl

theorem Command.length_fields_le (address : Bytes) (c : Command) :
    ((c.fields address).flatMap Field.data).length ≤ 7 := by
  cases c with
  | readData | readAddress | readUser1 | readUser2 => simp [fields]
  | writeAddress a =>
    have seven : a.bytes.length = 7 := a.length_eq
    simp [fields, seven]
  | writePurchase => simp [fields, Purchase.length_encrypt]
  | writeValve | writeReset | writeUser1 | writeUser2 => simp [fields]

namespace Request

variable (r : Request) (seq : UInt8)

def area : Bytes :=
  r.kind.dataId ++ seq :: (r.command.fields r.frameAddress.bytes).flatMap Field.data

theorem dataArea_toFrame : (r.toFrame seq).dataArea = r.area seq := by
  simp [Frame.dataArea, toFrame, area]

theorem length_area_le : (r.area seq).length ≤ 255 := by
  have short := r.command.length_fields_le r.frameAddress.bytes
  rw [area, List.length_append, List.length_cons, r.kind.length_dataId]
  omega

theorem encodable : (r.toFrame seq).Encodable where
  address := r.frameAddress.length_eq
  dataArea := by
    rw [dataArea_toFrame]
    exact r.length_area_le seq

theorem wire_eq_framed :
    (r.toFrame seq).wire = framed r.deviceType r.frameAddress r.kind.controlCode (r.area seq) := by
  rw [Frame.wire, Frame.body, dataArea_toFrame]
  rfl

theorem encode_eq_framed :
    r.encode seq = .ok (framed r.deviceType r.frameAddress r.kind.controlCode (r.area seq)) := by
  rw [← wire_eq_framed]
  exact Frame.encode_eq_wire (r.encodable seq)

theorem peekSeq_encoded :
    peekSeq (framed r.deviceType r.frameAddress r.kind.controlCode (r.area seq)) = some seq := by
  rw [peekSeq_framed (r.length_area_le seq), area,
    List.getElem?_append_right (Nat.le_of_eq r.kind.length_dataId), r.kind.length_dataId]
  rfl

theorem frameAddress_of_write {r : Request} (write : r.kind.isWrite = true) :
    r.frameAddress = r.address.getD .broadcast := by
  obtain ⟨deviceType, address, command⟩ := r
  cases command with
  | readData | readAddress | readUser1 | readUser2 => cases write
  | _ => cases address <;> rfl

end Request

theorem Response.decode_eq {kind : CommandKind} {bytes : Bytes} {decoded : Decoded}
    (read : Frame.decode kind.responseLayout bytes = .ok decoded) :
    ∃ r, Response.decode kind bytes = .ok r ∧ r.checksumOk = decoded.checksumOk ∧
      r.frame = if kind = .writePurchase then decoded.frame.decryptPurchase else decoded.frame := by
  rw [Response.decode, read]
  by_cases purchase : kind = .writePurchase
  · simp only [if_pos purchase]
    exact ⟨_, rfl, rfl, rfl⟩
  · simp only [if_neg purchase]
    exact ⟨_, rfl, rfl, rfl⟩

theorem Response.decode_wire {kind : CommandKind} {f : Frame} (h : f.Encodable)
    (fields : f.layout = kind.responseLayout) :
    ∃ r, Response.decode kind f.wire = .ok r ∧ r.checksumOk = true ∧
      r.frame = if kind = .writePurchase then f.decryptPurchase else f := by
  have decoded := Frame.decode_wire h
  rw [fields] at decoded
  obtain ⟨r, read, right, frame⟩ := Response.decode_eq decoded
  exact ⟨r, read, right.trans (decide_eq_true rfl), frame⟩

/-! ### Purchases -/

section Purchase

variable (deviceType seq count : UInt8) (address : Address) (amount : Bytes)

end Purchase

end MeterGateway.Meter
