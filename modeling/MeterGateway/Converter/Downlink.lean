import MeterGateway.Converter.Uplink

namespace MeterGateway

abbrev Downlink := CommandConfig → Json → Conversion Bytes

namespace Downlink

def intParam (params : Json) (key : String) (bits : Nat) : Except ConvertError Nat :=
  match (params.member? key).bind Json.nat? with
  | none => .error (.invalidParams (.required key))
  | some n => if n < Nat.pow 2 bits then .ok n else .error (.invalidParams (.outOfRange key))

def memberOrWhole (params : Json) (key : String) : Json := (params.member? key).getD params

def meterPayload (kind : Meter.CommandKind) (params : Json) : Except ConvertError Bytes :=
  match kind with
  | .readData | .readAddress | .readUser1 | .readUser2 => .ok []
  | .writeAddress =>
    match (memberOrWhole params "address").str? with
    | none => .error (.invalidParams (.required "address"))
    | some text =>
      match Meter.Address.parse text with
      | .ok address => .ok address.bytes
      | .error e => .error (.invalidParams (.codec e))
  | .writePurchase => do
    let times ← intParam params "times" 16
    let purchases ← intParam params "purchases" 32
    return Bytes.ofNatLE 2 times ++ Bytes.ofNatLE 4 purchases
  | .writeValve =>
    match (memberOrWhole params "open").bool? with
    | none => .error (.invalidParams (.required "open"))
    | some opened => .ok [(if opened then Meter.ValveState.opened else Meter.ValveState.closed).code]
  | .writeReset =>
    -- anything but a text counts as absent
    match ((params.member? "reset").bind Json.str?).getD "vendor" with
    | "vendor" => .ok [Meter.ResetKind.vendor.code]
    | "unit" => .ok [Meter.ResetKind.unit.code]
    | word => .error (.invalidParams (.resetWord word))
  | .writeUser1 => do
    let unitCode ← intParam params "unitCode" 16
    let userNo ← intParam params "userNo" 16
    let meterNo ← intParam params "meterNo" 8
    return Bytes.ofNatLE 2 unitCode ++ Bytes.ofNatLE 2 userNo ++ Bytes.ofNatLE 1 meterNo
  | .writeUser2 => do
    let alarmValue ← intParam params "alarmValue" 8
    let overdraft ← intParam params "overdraft" 8
    let exceed ← intParam params "exceed" 8
    return Bytes.ofNatLE 1 alarmValue ++ Bytes.ofNatLE 1 overdraft ++ Bytes.ofNatLE 1 exceed

def asBool : Json → Except ConvertError Bool
  | .bool b => .ok b
  | .num n => .ok (!n.isZero)
  | j => .error (.invalidParams (.notBool j))

def packBits : List Bool → Bytes
  | b0 :: b1 :: b2 :: b3 :: b4 :: b5 :: b6 :: b7 :: rest =>
    packByte [b0, b1, b2, b3, b4, b5, b6, b7] :: packBits rest
  | [] => []
  | bits => [packByte bits]
where
  packByte (bits : List Bool) : UInt8 := UInt8.ofNat (bits.foldr (fun b n => b.toNat + 2 * n) 0)

def encodeInt (value : Json) (type : ValueType) (width : Nat) (low high : Int) (i : Option Int) :
    Except ConvertError Bytes :=
  match i with
  | some i =>
    if low ≤ i ∧ i < high then .ok (Bytes.ofIntBE width i)
    else .error (.invalidParams (.notEncodable value type))
  | none => .error (.invalidParams (.notEncodable value type))

/-- The bytes of a value in registers; a text is filled up to an even number of bytes. -/
def encodeValue (type : ValueType) (value : Json) : Except ConvertError Bytes :=
  let invalid : Except ConvertError Bytes := .error (.invalidParams (.notEncodable value type))
  let double? : Option Binary64 :=
    match value with
    | .num n => some n.toDouble
    | _ => none
  match type with
  | .bits => (asBool value).map fun b => [if b then 1 else 0]
  | .uint8 => encodeInt value type 1 0 0x100 (value.nat?.map Int.ofNat)
  | .int16 => encodeInt value type 2 (-0x8000) 0x8000 value.int?
  | .uint16 => encodeInt value type 2 0 0x10000 (value.nat?.map Int.ofNat)
  | .int32 => encodeInt value type 4 (-0x80000000) 0x80000000 value.int?
  | .uint32 => encodeInt value type 4 0 0x100000000 (value.nat?.map Int.ofNat)
  | .float32 =>
    match double? with
    | some x => .ok (Bytes.ofNatBE 4 x.toSingle)
    | none => invalid
  | .float64 =>
    match double? with
    | some x => .ok (Bytes.ofNatBE 8 x.bits.toNat)
    | none => invalid
  | .string =>
    match value.str? with
    | some s =>
      let bytes := Utf8.encode s.toList
      .ok (if bytes.length % 2 = 1 then bytes ++ [0] else bytes)
    | none => invalid

def registerPayload (command : CommandConfig) (params : Json) : Except ConvertError Bytes :=
  let value := memberOrWhole params "value"
  if command.functionCode = 5 then (asBool value).map fun b => [if b then 1 else 0]
  else if command.functionCode = 15 then
    match value with
    | .arr items => (items.mapM asBool).map packBits
    | j => (asBool j).map fun b => packBits [b]
  else
    match ValueType.ofName? command.valueType with
    | some type => encodeValue type value
    | none => .error (.unsupportedType command.valueType)

def convert (command : CommandConfig) (params : Json) : Except ConvertError Bytes :=
  match command.command with
  | none => registerPayload command params
  | some name =>
    match Meter.CommandKind.ofName name with
    | .ok kind => meterPayload kind params
    | .error e => .error (.invalidParams (.codec e))

def bytes : Downlink := fun command params => .answer (convert command params)

end Downlink

/-- Converters by name, the latest of a name first. -/
structure Converters where
  uplinks : List (String × Uplink)
  downlinks : List (String × Downlink)

namespace Converters

def defaultName : String := "bytes"

def default : Converters := ⟨[(defaultName, Uplink.bytes)], [(defaultName, Downlink.bytes)]⟩

def addUplink (c : Converters) (name : String) (converter : Uplink) : Converters :=
  { c with uplinks := (name, converter) :: c.uplinks }

def addDownlink (c : Converters) (name : String) (converter : Downlink) : Converters :=
  { c with downlinks := (name, converter) :: c.downlinks }

def uplink (c : Converters) (name : Option String) : Except GatewayError Uplink :=
  let name := name.getD defaultName
  match c.uplinks.lookup name with
  | some converter => .ok converter
  | none => .error (.converterNotFound name)

def downlink (c : Converters) (name : Option String) : Except GatewayError Downlink :=
  let name := name.getD defaultName
  match c.downlinks.lookup name with
  | some converter => .ok converter
  | none => .error (.converterNotFound name)

end Converters

end MeterGateway
