import Mathlib.Data.List.DropRight
import Mathlib.Data.Nat.Bitwise
import MeterGateway.Proofs.Converter.RegisterWrites
import MeterGateway.Proofs.Framer.Greedy
import MeterGateway.Proofs.Utf8

namespace MeterGateway

/-! ### Responses to reads -/

def ReadBack (device : DeviceConfig) (kind : PollKind) (point : PointConfig) (unit code : UInt8)
    (data : Bytes) (value : Json) : Prop :=
  data.length ≤ 255 ∧
    ∃ r report,
      Modbus.Response.decode (Seal.crc.line ([unit, code, UInt8.ofNat data.length] ++ data)) =
        .ok r ∧
      r.crcOk = true ∧
      (Uplink.bytes device kind point (.rtu r)).result = .ok report ∧
      report.entries kind = [⟨point.tag, value⟩] ∧
      ∀ other, other ≠ kind → report.entries other = []

namespace Modbus.Response

variable {unit code count : UInt8} {data : Bytes}

theorem decode_line :
    decode (Seal.crc.line ([unit, code, count] ++ data)) =
      .ok ⟨unit, code, count :: data, true⟩ := by
  have two (body : Bytes) : (Checksum.crcTrailer body).length = 2 := Checksum.length_crcTrailer body
  simp [decode, Seal.line, Seal.crc, leastLength, two]

theorem values_read (reads : isReadCode code = true) :
    (⟨unit, code, count :: data, true⟩ : Response).exceptionCode? = none ∧
      (⟨unit, code, count :: data, true⟩ : Response).values = data := by
  have plain : isReadCode code = true → code &&& exceptionFlag = 0 := by
    revert code
    apply forall_byte
    decide +kernel
  simp [exceptionCode?, values, isException, plain reads, reads]

end Modbus.Response

theorem Uplink.convert_rtu (device : DeviceConfig) (kind : PollKind) (point : PointConfig)
    {r : Modbus.Response} {value : Json} (decoded : decodeRegisters point r = .ok value) :
    ∃ report, (bytes device kind point (.rtu r)).result = .ok report ∧
      report.entries kind = [⟨point.tag, value⟩] ∧
      ∀ other, other ≠ kind → report.entries other = [] := by
  refine ⟨_, ?_,
    Report.entries_pushed device.deviceName device.deviceType kind [⟨point.tag, value⟩]⟩
  rw [bytes, Conversion.result, convert, decoded]
  rfl

theorem ReadBack.of_decodeValue {device : DeviceConfig} {kind : PollKind} {point : PointConfig}
    {unit code : UInt8} {data : Bytes} {value : Json} {type : ValueType}
    (reads : Modbus.isReadCode code = true) (named : ValueType.ofName? point.valueType = some type)
    (fits : data.length ≤ 255) (decoded : Uplink.decodeValue type point data = .ok value) :
    ReadBack device kind point unit code data value := by
  let r : Modbus.Response := ⟨unit, code, UInt8.ofNat data.length :: data, true⟩
  obtain ⟨plain, values⟩ : r.exceptionCode? = none ∧ r.values = data :=
    Modbus.Response.values_read reads
  have read : Uplink.decodeRegisters point r = .ok value := by
    simp only [Uplink.decodeRegisters, plain, named, values, decoded]
  obtain ⟨report, converted, listed⟩ := Uplink.convert_rtu device kind point read
  exact ⟨fits, r, report, Modbus.Response.decode_line, rfl, converted, listed⟩

/-! ### Integers -/

/-- The integers of a type, from the first to below the second. -/
def ValueType.range? : ValueType → Option (Int × Int)
  | .uint8 => some (0, 0x100)
  | .int16 => some (-0x8000, 0x8000)
  | .uint16 => some (0, 0x10000)
  | .int32 => some (-0x80000000, 0x80000000)
  | .uint32 => some (0, 0x100000000)
  | .bits | .float32 | .float64 | .string => none

section Integers

variable {type : ValueType} {low high : Int}

theorem Downlink.encodeInt_eq_ok_iff {value : Json} {width : Nat} {i? : Option Int}
    {bytes : Bytes} :
    encodeInt value type width low high i? = .ok bytes ↔
      ∃ i, i? = some i ∧ (low ≤ i ∧ i < high) ∧ bytes = Bytes.ofIntBE width i := by
  cases i? with
  | none => simp [encodeInt]
  | some i => by_cases inside : low ≤ i ∧ i < high <;> simp [encodeInt, inside, eq_comm]

theorem Downlink.encodeValue_integer (integers : type.range? = some (low, high)) (i : Int)
    {bytes : Bytes} :
    encodeValue type (.num (.int i)) = .ok bytes ↔
      (low ≤ i ∧ i < high) ∧ bytes = Bytes.ofIntBE (type.encodedLength (.num (.int i))) i := by
  have natural (k : Int) :
      (Json.nat? (.num (.int i))).map Int.ofNat = some k ↔ 0 ≤ i ∧ i = k := by
    by_cases positive : 0 ≤ i
    · have same : Int.ofNat i.toNat = i := Int.toNat_of_nonneg positive
      rw [Json.nat?, Number.nat?, if_pos positive, Option.map_some, same]
      simp [positive]
    · simp [Json.nat?, Number.nat?, positive]
  have integer (k : Int) :
      Json.int? (.num (.int i)) = some k ↔ i < 0x8000000000000000 ∧ i = k := by
    simp [Json.int?, Number.int?]
  cases type with
  | uint8 | uint16 | uint32 =>
    cases integers
    simp only [encodeValue, encodeInt_eq_ok_iff, natural]
    constructor
    · rintro ⟨_, ⟨-, rfl⟩, inside, written⟩
      exact ⟨inside, written⟩
    · rintro ⟨inside, written⟩
      exact ⟨i, ⟨inside.1, rfl⟩, inside, written⟩
  | int16 | int32 =>
    cases integers
    simp only [encodeValue, encodeInt_eq_ok_iff, integer]
    constructor
    · rintro ⟨_, ⟨-, rfl⟩, inside, written⟩
      exact ⟨inside, written⟩
    · rintro ⟨inside, written⟩
      exact ⟨i, ⟨by omega, rfl⟩, inside, written⟩
  | bits | float32 | float64 | string => cases integers

theorem Uplink.decodeValue_integer (integers : type.range? = some (low, high)) {i : Int}
    (inside : low ≤ i ∧ i < high) (point : PointConfig) :
    decodeValue type point (Bytes.ofIntBE (type.encodedLength (.num (.int i))) i) =
      .ok (.num (.int i)) := by
  have enough (width : Nat) : need (Bytes.ofIntBE width i) width point.tag =
      .ok (Bytes.ofIntBE width i) := by
    have length := Bytes.length_ofIntBE width i
    rw [need, if_neg (by omega), List.take_of_length_le (by omega)]
  cases type with
  | uint8 | uint16 | uint32 =>
    cases integers
    simp only [decodeValue, ValueType.encodedLength, enough, Except.map, Json.ofNat,
      Bytes.toNatBE_ofIntBE]
    rw [Int.emod_eq_of_lt inside.1 (by exact inside.2)]
  | int16 | int32 =>
    cases integers
    simp only [decodeValue, ValueType.encodedLength, enough, Except.map, Json.ofInt]
    rw [Bytes.toIntBE_ofIntBE (by exact inside.1) (by exact inside.2)]
  | bits | float32 | float64 | string => cases integers

end Integers

/-! ### Texts -/

/-- The byte that fills a text up is not read as part of it. -/
theorem Uplink.decodeValue_text {text : String} (last : text.toList.getLast? ≠ some (Char.ofNat 0))
    (point : PointConfig) :
    ∃ bytes, Downlink.encodeValue .string (.str text) = .ok bytes ∧
      decodeValue .string point bytes = .ok (.str text) := by
  have whole : text.toList.rdropWhile (fun c => c = Char.ofNat 0) = text.toList := by
    rw [List.rdropWhile_eq_self_iff]
    intro some_left
    rw [List.getLast?_eq_some_getLast some_left] at last
    simpa using last
  refine ⟨_, rfl, ?_⟩
  simp only [decodeValue]
  split
  · have filled : Utf8.encode text.toList ++ [0] = Utf8.encode (text.toList ++ [Char.ofNat 0]) := by
      rw [Utf8.encode, Utf8.encode, List.flatMap_append]
      rfl
    have stripped := List.rdropWhile_concat_pos (fun c => c = Char.ofNat 0) text.toList
      (Char.ofNat 0) (by simp)
    rw [filled, Utf8.decodeLossy_encode, ← List.rdropWhile, stripped, whole, String.ofList_toList]
  · rw [Utf8.decodeLossy_encode, ← List.rdropWhile, whole, String.ofList_toList]

/-! ### Booleans -/

namespace Downlink

theorem testBit_foldr (bits : List Bool) (k : Nat) :
    (bits.foldr (fun (b : Bool) n => b.toNat + 2 * n) 0).testBit k = bits.getD k false := by
  induction bits generalizing k with
  | nil => simp
  | cons b bits ih =>
    rw [List.foldr_cons, Nat.add_comm, ← Nat.bit_val]
    cases k with
    | zero => exact Nat.testBit_bit_zero b _
    | succ k => exact (Nat.testBit_bit_succ k b _).trans (ih k)

theorem testBit_packByte (bits : List Bool) {k : Nat} (inside : k < 8) :
    (packBits.packByte bits).toNat.testBit k = bits.getD k false := by
  rw [packBits.packByte, UInt8.toNat_ofNat', Nat.testBit_mod_two_pow, testBit_foldr]
  simp [inside]

theorem packBits_eq : ∀ {bits : List Bool}, bits ≠ [] →
    packBits bits = packBits.packByte (bits.take 8) :: packBits (bits.drop 8)
  | [_], _ | [_, _], _ | [_, _, _], _ | [_, _, _, _], _ | [_, _, _, _, _], _
  | [_, _, _, _, _, _], _ | [_, _, _, _, _, _, _], _
  | _ :: _ :: _ :: _ :: _ :: _ :: _ :: _ :: _, _ => rfl

theorem testBit_packBits (bits : List Bool) (i : Nat) :
    ((packBits bits).getD (i / 8) 0).toNat.testBit (i % 8) = bits.getD i false := by
  induction i using Nat.strongRecOn generalizing bits with
  | _ i ih =>
    by_cases left : bits = []
    · subst left
      simp [packBits]
    rw [packBits_eq left]
    by_cases first : i < 8
    · rw [Nat.div_eq_of_lt first, Nat.mod_eq_of_lt first]
      refine (testBit_packByte _ first).trans ?_
      simp [List.getD_eq_getElem?_getD, first]
    · have next : i / 8 = (i - 8) / 8 + 1 := by omega
      have rest := ih (i - 8) (by omega) (bits.drop 8)
      rw [next, List.getD_cons_succ, Nat.mod_eq_sub_mod (Nat.not_lt.mp first), rest]
      simp [List.getD_eq_getElem?_getD, Nat.add_sub_cancel' (Nat.not_lt.mp first)]

end Downlink

theorem Uplink.unpackBits_packBits (bits : List Bool) :
    unpackBits (Downlink.packBits bits) bits.length = bits := by
  apply List.ext_getElem
  · simp [unpackBits]
  · intro i _ inside
    have bit := Downlink.testBit_packBits bits i
    rw [Nat.testBit_eq_decide_div_mod_eq, List.getD_eq_getElem bits false inside] at bit
    simp only [unpackBits, List.getElem_map, List.getElem_range, Nat.shiftRight_eq_div_pow]
    exact bit

def Json.ofCoils : List Bool → Json
  | [bit] => .bool bit
  | bits => .arr (bits.map .bool)

theorem Downlink.registerPayload_coils {command : CommandConfig} {params : Json} {bits : List Bool}
    (coils : command.functionCode = 15)
    (value : memberOrWhole params "value" = .arr (bits.map .bool)) :
    registerPayload command params = .ok (packBits bits) := by
  have each : (bits.map Json.bool).mapM asBool = .ok bits := by
    clear value
    induction bits with
    | nil => rfl
    | cons bit bits ih =>
      rw [List.map_cons, List.mapM_cons, asBool, ih]
      rfl
  have other : command.functionCode ≠ 5 := by
    rw [coils]
    decide
  simp only [registerPayload, if_neg other, if_pos coils, value, each]
  rfl

theorem Uplink.decodeValue_coils {bits : List Bool} (any : bits ≠ []) {point : PointConfig}
    (count : point.objectsCount.toNat = bits.length) :
    decodeValue .bits point (Downlink.packBits bits) = .ok (.ofCoils bits) := by
  have length := Downlink.length_packBits bits
  have positive : 1 ≤ bits.length := List.length_pos_iff.mpr any
  have enough : need (Downlink.packBits bits) ((bits.length + 7) / 8) point.tag =
      .ok (Downlink.packBits bits) := by
    rw [need, if_neg (by omega), List.take_of_length_le (by omega)]
  simp only [decodeValue, count, Nat.max_eq_left positive, enough, bind, Except.bind,
    unpackBits_packBits]
  match bits with
  | [_] | _ :: _ :: _ => rfl

/-- An integer is written when it lies in the range of its type, and reads as itself; so do a text
that does not end in a zero, and packed booleans of as many coils. -/
theorem written_value_is_read_back (device : DeviceConfig) (kind : PollKind) (unit : UInt8)
    {code : UInt8} (reads : Modbus.isReadCode code = true) :
    (∀ point type low high, ValueType.ofName? point.valueType = some type →
      type.range? = some (low, high) → ∀ i : Int,
        ((∃ bytes, Downlink.encodeValue type (.num (.int i)) = .ok bytes) ↔ low ≤ i ∧ i < high) ∧
        ∀ bytes, Downlink.encodeValue type (.num (.int i)) = .ok bytes →
          ReadBack device kind point unit code bytes (.num (.int i))) ∧
    (∀ point, ValueType.ofName? point.valueType = some .string → ∀ text : String,
      text.toList.getLast? ≠ some (Char.ofNat 0) → (Utf8.encode text.toList).length ≤ 254 →
        ∃ bytes, Downlink.encodeValue .string (.str text) = .ok bytes ∧
          ReadBack device kind point unit code bytes (.str text)) ∧
    ∀ point, ValueType.ofName? point.valueType = some .bits → ∀ bits : List Bool,
      bits ≠ [] → bits.length ≤ 2040 → point.objectsCount.toNat = bits.length →
        ∀ command params, command.functionCode = 15 →
          Downlink.memberOrWhole params "value" = .arr (bits.map .bool) →
            ∃ bytes, Downlink.registerPayload command params = .ok bytes ∧
              ReadBack device kind point unit code bytes (.ofCoils bits) := by
  refine ⟨?_, ?_, ?_⟩
  · intro point type low high named integers i
    refine ⟨?_, ?_⟩
    · simp only [Downlink.encodeValue_integer integers, exists_and_left, exists_eq, and_true]
    · intro bytes written
      have fits : bytes.length ≤ 255 := by
        rw [Downlink.length_encodeValue written]
        cases type with
        | uint8 | int16 | uint16 | int32 | uint32 => simp [ValueType.encodedLength]
        | bits | float32 | float64 | string => cases integers
      obtain ⟨inside, rfl⟩ := (Downlink.encodeValue_integer integers i).mp written
      exact .of_decodeValue reads named fits (Uplink.decodeValue_integer integers inside point)
  · intro point named text last short
    obtain ⟨bytes, written, read⟩ := Uplink.decodeValue_text last point
    refine ⟨bytes, written, .of_decodeValue reads named ?_ read⟩
    have length : bytes.length = _ := Downlink.length_encodeValue written
    simp only [ValueType.encodedLength, Json.str?, Option.getD_some] at length
    omega
  · intro point named bits any short count command params coils value
    refine ⟨_, Downlink.registerPayload_coils coils value,
      .of_decodeValue reads named ?_ (Uplink.decodeValue_coils any count)⟩
    rw [Downlink.length_packBits]
    omega

theorem written_value_is_read_back_nine :
    let device : DeviceConfig := { deviceName := "pump-1" }
    let number : PointConfig := { tag := "level", valueType := "32int" }
    let name : PointConfig := { tag := "name", valueType := "string" }
    let nine : PointConfig := { tag := "alarms", valueType := "bits", objectsCount := 9 }
    let alarms := [true, false, true, true, false, false, false, true, true]
    let command : CommandConfig := { tag := "set", functionCode := 15 }
    let params : Json := .obj [("value", .arr (alarms.map .bool))]
    Modbus.isReadCode 3 = true ∧
    Downlink.encodeValue .int32 (.num (.int (-2))) = .ok [0xFF, 0xFF, 0xFF, 0xFE] ∧
    ReadBack device .timeseries number 1 3 [0xFF, 0xFF, 0xFF, 0xFE] (.num (.int (-2))) ∧
    Downlink.encodeValue .string (.str "né") = .ok [0x6E, 0xC3, 0xA9, 0x00] ∧
    ReadBack device .timeseries name 1 3 [0x6E, 0xC3, 0xA9, 0x00] (.str "né") ∧
    Downlink.registerPayload command params = .ok [0x8D, 0x01] ∧
    ReadBack device .timeseries nine 1 3 [0x8D, 0x01] (.arr (alarms.map .bool)) := by
  intro device number name nine alarms command params
  obtain ⟨integers, texts, coils⟩ :=
    @written_value_is_read_back device .timeseries 1 3 (by decide)
  obtain ⟨bytes, text, named⟩ := texts name rfl "né" (by decide) (by decide)
  obtain ⟨packed, written, listed⟩ :=
    coils nine rfl alarms (by decide) (by decide) rfl command params rfl rfl
  have level := (integers number .int32 _ _ rfl rfl (-2)).2 _ rfl
  cases text
  cases written
  exact ⟨rfl, rfl, level, rfl, named, rfl, listed⟩

end MeterGateway
