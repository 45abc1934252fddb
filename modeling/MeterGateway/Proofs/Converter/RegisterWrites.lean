import Mathlib.Control.Monad.Basic
import MeterGateway.Converter.Downlink
import MeterGateway.Proofs.Checksum
import MeterGateway.Proofs.Outcome
import MeterGateway.Wire

/-!
From the parameters of a call to the frame that writes coils or registers.  The type and the value
decide how long the data is, and the configuration decides what quantity is announced; nothing
compares the two.  The frame is one that a device can follow exactly when they agree: a single
register keeps the first two bytes of longer data, and several are announced as configured.
-/

namespace MeterGateway

namespace Modbus

variable {payload data line : Bytes} {unit code a1 a0 q1 q0 count : UInt8} {r : Request}

/-- A request that writes the whole of a payload, with a count and a quantity that fit it. -/
inductive Carries (payload : Bytes) : Bytes → Prop
  | register (unit a1 a0 : UInt8) :
    payload.length = 2 →
      Carries payload (Seal.crc.line ([unit, 6, a1, a0] ++ payload))
  | coils (unit a1 a0 q1 q0 count : UInt8) :
    count.toNat = payload.length → (Bytes.toNatBE [q1, q0] + 7) / 8 = payload.length →
      Carries payload (Seal.crc.line ([unit, 15, a1, a0, q1, q0, count] ++ payload))
  | registers (unit a1 a0 q1 q0 count : UInt8) :
    count.toNat = payload.length → 2 * Bytes.toNatBE [q1, q0] = payload.length →
      Carries payload (Seal.crc.line ([unit, 16, a1, a0, q1, q0, count] ++ payload))

def dataLength (code : UInt8) (quantity : Nat) : Nat :=
  if code = 6 then 2
  else if code = 15 then (quantity + 7) / 8
  else 2 * quantity

theorem carries_register (carried : Carries payload (Seal.crc.line ([unit, 6, a1, a0] ++ data))) :
    payload.length = 2 := by
  generalize same : Seal.crc.line ([unit, 6, a1, a0] ++ data) = line at carried
  cases carried with
  | register _ _ _ two => exact two
  | coils | registers => simpa using Seal.crc.line_injective same

theorem carries_several (others : code ≠ 6)
    (carried : Carries payload (Seal.crc.line ([unit, code, a1, a0, q1, q0, count] ++ payload))) :
    payload.length = dataLength code (Bytes.toNatBE [q1, q0]) := by
  -- the line is generalized, so that the cases give equal lines and from them equal bodies
  generalize same : Seal.crc.line ([unit, code, a1, a0, q1, q0, count] ++ payload) = line at carried
  cases carried with
  | register =>
    have bodies := Seal.crc.line_injective same
    simp only [List.cons_append, List.cons.injEq] at bodies
    exact absurd bodies.2.1 others
  | coils _ _ _ _ _ _ _ fits | registers _ _ _ _ _ _ _ fits =>
    have bodies := Seal.crc.line_injective same
    simp only [List.cons_append, List.cons.injEq] at bodies
    obtain ⟨-, rfl, -, -, rfl, rfl, -⟩ := bodies
    exact fits.symm

namespace Request

theorem encode_writeSingleRegister (function : r.function = .writeSingleRegister)
    (encoded : r.encode = .ok line) :
    2 ≤ r.data.length ∧
      line = Seal.crc.line ([r.unit, 6] ++ Bytes.ofNatBE 2 r.address.toNat ++ r.data.take 2) := by
  rw [encode, tail, function] at encoded
  simp only at encoded
  split at encoded
  · cases encoded
  · rename_i enough
    cases encoded
    exact ⟨Nat.not_lt.mp enough, rfl⟩

theorem encode_several
    (several : r.function = .writeMultipleCoils ∨ r.function = .writeMultipleRegisters)
    (encoded : r.encode = .ok line) :
    r.data.length ≤ 255 ∧
      line = Seal.crc.line ([r.unit, r.function.code] ++ Bytes.ofNatBE 2 r.address.toNat ++
        (Bytes.ofNatBE 2 r.quantity.toNat ++ [UInt8.ofNat r.data.length] ++ r.data)) := by
  have written : r.tail = if 255 < r.data.length then .error (.dataAreaTooLong r.data.length)
      else .ok (Bytes.ofNatBE 2 r.quantity.toNat ++ [UInt8.ofNat r.data.length] ++ r.data) := by
    obtain function | function := several <;> rw [tail, function]
  rw [encode, written] at encoded
  split at encoded
  · cases encoded
  · rename_i fits
    cases encoded
    exact ⟨Nat.not_lt.mp fits, rfl⟩

theorem toNatBE_quantity (r : Request) :
    Bytes.toNatBE (Bytes.ofNatBE 2 r.quantity.toNat) = r.quantity.toNat := by
  rw [Bytes.toNatBE_ofNatBE]
  exact Nat.mod_eq_of_lt r.quantity.toNat_lt

theorem code_several
    (several : r.function = .writeMultipleCoils ∨ r.function = .writeMultipleRegisters) :
    r.function.code ≠ 6 := by
  obtain function | function := several <;> rw [function] <;> decide

theorem encode_write
    (writes : r.function = .writeSingleRegister ∨ r.function = .writeMultipleCoils ∨
      r.function = .writeMultipleRegisters)
    (encoded : r.encode = .ok line) :
    (if r.function.code = 6 then 2 ≤ r.data.length else r.data.length ≤ 255) ∧
      line = Seal.crc.line ([r.unit, r.function.code] ++ Bytes.ofNatBE 2 r.address.toNat ++
        if r.function.code = 6 then r.data.take 2
        else Bytes.ofNatBE 2 r.quantity.toNat ++ [UInt8.ofNat r.data.length] ++ r.data) := by
  obtain function | several := writes
  · rw [function]
    exact encode_writeSingleRegister function encoded
  · rw [if_neg (code_several several), if_neg (code_several several)]
    exact encode_several several encoded

/-- The quantity of one register is not written, that of several is written as it was given. -/
theorem carries_iff
    (writes : r.function = .writeSingleRegister ∨ r.function = .writeMultipleCoils ∨
      r.function = .writeMultipleRegisters)
    (encoded : r.encode = .ok line) :
    Carries r.data line ↔ r.data.length = dataLength r.function.code r.quantity.toNat := by
  obtain function | several := writes
  · obtain ⟨-, rfl⟩ := encode_writeSingleRegister function encoded
    rw [show dataLength r.function.code r.quantity.toNat = 2 by rw [function]; rfl]
    constructor
    · exact carries_register
    · intro two
      rw [List.take_of_length_le (Nat.le_of_eq two)]
      exact .register _ _ _ two
  · obtain ⟨bound, rfl⟩ := encode_several several encoded
    have count : (UInt8.ofNat r.data.length).toNat = r.data.length :=
      UInt8.toNat_ofNat_of_lt (Nat.lt_succ_of_le bound)
    have announced : dataLength r.function.code r.quantity.toNat =
        dataLength r.function.code (Bytes.toNatBE (Bytes.ofNatBE 2 r.quantity.toNat)) := by
      rw [toNatBE_quantity]
    rw [announced]
    constructor
    · exact carries_several (code_several several)
    · intro fits
      obtain function | function := several
      · rw [function] at fits ⊢
        exact .coils _ _ _ _ _ _ count fits.symm
      · rw [function] at fits ⊢
        exact .registers _ _ _ _ _ _ count fits.symm

end Request

end Modbus

def ValueType.encodedLength (type : ValueType) (value : Json) : Nat :=
  match type with
  | .bits | .uint8 => 1
  | .int16 | .uint16 => 2
  | .int32 | .uint32 | .float32 => 4
  | .float64 => 8
  | .string =>
    let length := (Utf8.encode (value.str?.getD "").toList).length
    length + length % 2

namespace Downlink

variable {command : CommandConfig} {params value : Json} {type : ValueType} {payload : Bytes}

def payloadLength (command : CommandConfig) (value : Json) : Nat :=
  if command.functionCode = 15 then
    match value with
    | .arr items => (items.length + 7) / 8
    | _ => 1
  else ((ValueType.ofName? command.valueType).map (·.encodedLength value)).getD 0

theorem length_packBits : ∀ bits, (packBits bits).length = (bits.length + 7) / 8
  | [] | [_] | [_, _] | [_, _, _] | [_, _, _, _] | [_, _, _, _, _] | [_, _, _, _, _, _]
  | [_, _, _, _, _, _, _] => by simp [packBits]
  | _ :: _ :: _ :: _ :: _ :: _ :: _ :: _ :: rest => by
    simp only [packBits, List.length_cons, length_packBits rest]
    omega

theorem length_encodeInt {width : Nat} {low high : Int} {i : Option Int}
    (encoded : encodeInt value type width low high i = .ok payload) : payload.length = width := by
  unfold encodeInt at encoded
  split at encoded
  · split at encoded
    · cases encoded
      exact Bytes.length_ofIntBE _ _
    · cases encoded
  · cases encoded

theorem length_evened (bytes : Bytes) :
    (if bytes.length % 2 = 1 then bytes ++ [0] else bytes).length =
      bytes.length + bytes.length % 2 := by
  split
  · rename_i odd
    rw [List.length_append, odd]
    rfl
  · rename_i even
    rw [Nat.mod_two_ne_one.mp even, Nat.add_zero]

theorem length_encodeValue (encoded : encodeValue type value = .ok payload) :
    payload.length = type.encodedLength value := by
  cases type with
  | bits =>
    obtain ⟨b, -, rfl⟩ := Except.exists_of_map_eq_ok encoded
    rfl
  | uint8 | int16 | uint16 | int32 | uint32 => exact length_encodeInt encoded
  | float32 | float64 =>
    simp only [encodeValue] at encoded
    split at encoded
    · cases encoded
      exact Bytes.length_ofNatBE _ _
    · cases encoded
  | string =>
    simp only [encodeValue] at encoded
    split at encoded
    · rename_i text found
      cases encoded
      rw [length_evened, ValueType.encodedLength, found]
      rfl
    · cases encoded

theorem length_coils (coils : command.functionCode = 15)
    (converted : registerPayload command params = .ok payload) :
    payload.length = payloadLength command (memberOrWhole params "value") := by
  have no_coil : command.functionCode ≠ 5 := by simp [coils]
  simp only [registerPayload, if_neg no_coil, if_pos coils] at converted
  simp only [payloadLength, if_pos coils]
  cases value : memberOrWhole params "value" with
  | arr items =>
    rw [value] at converted
    obtain ⟨bits, each, rfl⟩ := Except.exists_of_map_eq_ok converted
    exact (length_packBits bits).trans (by rw [Except.length_of_mapM_eq_ok each])
  | null | bool | num | str | obj =>
    rw [value] at converted
    obtain ⟨bit, -, rfl⟩ := Except.exists_of_map_eq_ok converted
    rfl

theorem length_registers (no_coil : command.functionCode ≠ 5) (registers : command.functionCode ≠ 15)
    (converted : registerPayload command params = .ok payload) :
    payload.length = payloadLength command (memberOrWhole params "value") := by
  simp only [registerPayload, if_neg no_coil, if_neg registers] at converted
  simp only [payloadLength, if_neg registers]
  cases named : ValueType.ofName? command.valueType with
  | none =>
    rw [named] at converted
    cases converted
  | some type =>
    rw [named] at converted
    exact length_encodeValue converted

theorem length_registerPayload
    (several : command.functionCode = 6 ∨ command.functionCode = 15 ∨ command.functionCode = 16)
    (converted : registerPayload command params = .ok payload) :
    payload.length = payloadLength command (memberOrWhole params "value") := by
  obtain code | code | code := several
  · exact length_registers (by simp [code]) (by simp [code]) converted
  · exact length_coils code converted
  · exact length_registers (by simp [code]) (by simp [code]) converted

end Downlink

theorem WireRequest.write_rtu {device : DeviceConfig} {command : CommandConfig} {payload : Bytes}
    {request : WireRequest}
    (several : command.functionCode = 6 ∨ command.functionCode = 15 ∨ command.functionCode = 16)
    (written : write .rtu device command payload = .ok request) :
    ∃ function, function.code = command.functionCode ∧
      (function = .writeSingleRegister ∨ function = .writeMultipleCoils ∨
        function = .writeMultipleRegisters) ∧
      request = .rtu ⟨device.unitId, function, command.address, command.objectsCount, payload⟩ := by
  simp only [write] at written
  obtain code | code | code := several
  all_goals
    rw [code] at written ⊢
    cases written
    exact ⟨_, rfl, by simp, rfl⟩

theorem register_write_carries_payload {device : DeviceConfig} {command : CommandConfig}
    {params : Json} {payload line : Bytes} {request : WireRequest} {tid : UInt8}
    (several : command.functionCode = 6 ∨ command.functionCode = 15 ∨ command.functionCode = 16)
    (converted : Downlink.convert command params = .ok payload)
    (written : WireRequest.write .rtu device command payload = .ok request)
    (encoded : request.encode tid = .ok line) :
    (if command.functionCode = 6 then 2 ≤ payload.length else payload.length ≤ 255) ∧
      line = Seal.crc.line ([device.unitId, command.functionCode] ++
        Bytes.ofNatBE 2 command.address.toNat ++
        if command.functionCode = 6 then payload.take 2
        else Bytes.ofNatBE 2 command.objectsCount.toNat ++ [UInt8.ofNat payload.length] ++ payload) ∧
      (Modbus.Carries payload line ↔
        payload.length = Modbus.dataLength command.functionCode command.objectsCount.toNat) ∧
      (command.command = none →
        payload.length = Downlink.payloadLength command (Downlink.memberOrWhole params "value")) := by
  obtain ⟨function, code, writes, rfl⟩ := WireRequest.write_rtu several written
  rw [WireRequest.encode] at encoded
  obtain ⟨bounded, shown⟩ := Modbus.Request.encode_write writes encoded
  rw [code] at bounded shown
  refine ⟨bounded, shown, ?_, ?_⟩
  · have carries := Modbus.Request.carries_iff writes encoded
    rwa [code] at carries
  · intro register
    rw [Downlink.convert, register] at converted
    exact Downlink.length_registerPayload several converted

theorem register_write_carries_payload_pair :
    let device : DeviceConfig := { deviceName := "pump-1" }
    let command : CommandConfig :=
      { tag := "set", valueType := "32int", functionCode := 16, objectsCount := 2 }
    let params : Json := .obj [("value", .num (.int (-2)))]
    let payload : Bytes := [0xFF, 0xFF, 0xFF, 0xFE]
    let request : WireRequest := .rtu ⟨1, .writeMultipleRegisters, 0, 2, payload⟩
    let line := Seal.crc.line [1, 16, 0, 0, 0, 2, 4, 0xFF, 0xFF, 0xFF, 0xFE]
    Downlink.convert command params = .ok payload ∧
    WireRequest.write .rtu device command payload = .ok request ∧
    request.encode 0 = .ok line ∧
    Modbus.Carries payload line := by
  have encoded : Modbus.Request.encode ⟨1, .writeMultipleRegisters, 0, 2, [0xFF, 0xFF, 0xFF, 0xFE]⟩ =
      .ok (Seal.crc.line [1, 16, 0, 0, 0, 2, 4, 0xFF, 0xFF, 0xFF, 0xFE]) := by decide +kernel
  intro device command params payload request line
  have converted : Downlink.convert command params = .ok payload := rfl
  have written : WireRequest.write .rtu device command payload = .ok request := rfl
  have sent : request.encode 0 = .ok line := encoded
  have write := register_write_carries_payload (by decide) converted written sent
  exact ⟨converted, written, sent, write.2.2.1.mpr rfl⟩

/-- A number of two registers loses one to a function that writes one, and is announced as one
register where no quantity is configured. -/
theorem longer_value_is_misannounced :
    let device : DeviceConfig := { deviceName := "pump-1" }
    let single : CommandConfig := { tag := "set", valueType := "32uint", functionCode := 6 }
    let several : CommandConfig := { tag := "set", valueType := "32uint", functionCode := 16 }
    let params : Json := .obj [("value", .ofNat 0x10002)]
    let payload : Bytes := [0, 1, 0, 2]
    let cut := Seal.crc.line [1, 6, 0, 0, 0, 1]
    let mixed := Seal.crc.line [1, 16, 0, 0, 0, 1, 4, 0, 1, 0, 2]
    (Downlink.convert single params = .ok payload ∧
      (WireRequest.write .rtu device single payload).toOption.map (·.encode 0) = some (.ok cut) ∧
      ¬ Modbus.Carries payload cut) ∧
    (Downlink.convert several params = .ok payload ∧
      (WireRequest.write .rtu device several payload).toOption.map (·.encode 0) = some (.ok mixed) ∧
      ¬ Modbus.Carries payload mixed) := by
  refine ⟨⟨rfl, by decide +kernel, ?_⟩, rfl, by decide +kernel, ?_⟩
  · intro carried
    exact absurd (@Modbus.carries_register _ [0, 1] 1 0 0 carried) (by decide)
  · intro carried
    exact absurd (Modbus.carries_several (by decide) carried) (by decide)

end MeterGateway
