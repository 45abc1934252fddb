import MeterGateway.Wire

namespace MeterGateway

inductive Conversion (α : Type)
  | answer : Except ConvertError α → Conversion α
  | brokeOff : Option String → Conversion α

namespace Conversion

/-- A converter that breaks off is a failed conversion like any other. -/
def result : Conversion α → Except ConvertError α
  | answer r => r
  | brokeOff text => .error (.panicked (text.getD "unknown panic payload"))

end Conversion

abbrev Uplink := DeviceConfig → PollKind → PointConfig → WireResponse → Conversion Report

namespace Uplink

def need (bytes : Bytes) (needed : Nat) (tag : String) : Except ConvertError Bytes :=
  if bytes.length < needed then .error (.notEnoughData tag needed bytes.length)
  else .ok (bytes.take needed)

def unpackBits (bytes : Bytes) (count : Nat) : List Bool :=
  (List.range count).map fun i => ((bytes.getD (i / 8) 0).toNat >>> (i % 8)) % 2 = 1

/-- A single bit is a boolean and several are a list; numbers have their most significant byte
first; a text ends before its trailing zero bytes. -/
def decodeValue (type : ValueType) (point : PointConfig) (bytes : Bytes) : Except ConvertError Json :=
  match type with
  | .bits => do
    let count := max point.objectsCount.toNat 1
    let packed ← need bytes ((count + 7) / 8) point.tag
    match unpackBits packed count with
    | [bit] => return .bool bit
    | bits => return .arr (bits.map .bool)
  | .uint8 => (need bytes 1 point.tag).map fun b => .ofNat (Bytes.toNatBE b)
  | .int16 => (need bytes 2 point.tag).map fun b => .ofInt (Bytes.toIntBE b)
  | .uint16 => (need bytes 2 point.tag).map fun b => .ofNat (Bytes.toNatBE b)
  | .int32 => (need bytes 4 point.tag).map fun b => .ofInt (Bytes.toIntBE b)
  | .uint32 => (need bytes 4 point.tag).map fun b => .ofNat (Bytes.toNatBE b)
  | .float32 => (need bytes 4 point.tag).map fun b => .ofDouble (Binary64.ofSingle (Bytes.toNatBE b))
  | .float64 => (need bytes 8 point.tag).map fun b => .ofDouble ⟨UInt64.ofNat (Bytes.toNatBE b)⟩
  | .string =>
    let text := Utf8.decodeLossy bytes
    .ok (.str (String.ofList (text.reverse.dropWhile (· = Char.ofNat 0)).reverse))

def decodeRegisters (point : PointConfig) (response : Modbus.Response) : Except ConvertError Json :=
  match response.exceptionCode? with
  | some code => .error (.exception code)
  | none =>
    match ValueType.ofName? point.valueType with
    | none => .error (.unsupportedType point.valueType)
    | some type => decodeValue type point response.values

def fieldValue (field : Meter.Field) : Json :=
  if field.name = .address then .str (Hex.upper field.data) else .ofNat field.value

def convert (device : DeviceConfig) (kind : PollKind) (point : PointConfig) (response : WireResponse) :
    Except ConvertError Report :=
  let report : Report := { deviceName := device.deviceName, deviceType := device.deviceType }
  match response with
  | .meter r => .ok (r.fields.foldl (fun report f => report.push kind ⟨f.name.key, fieldValue f⟩) report)
  | .rtu r => (decodeRegisters point r).map fun value => report.push kind ⟨point.tag, value⟩

def bytes : Uplink := fun device kind point response => .answer (convert device kind point response)

end Uplink

end MeterGateway
