namespace MeterGateway

inductive ValueType
  | bits : ValueType
  | uint8 : ValueType
  | int16 : ValueType
  | uint16 : ValueType
  | int32 : ValueType
  | uint32 : ValueType
  | float32 : ValueType
  | float64 : ValueType
  | string : ValueType
  deriving DecidableEq

namespace ValueType

def ofName? : String → Option ValueType
  | "bits" => some bits
  | "8uint" => some uint8
  | "16int" => some int16
  | "16uint" => some uint16
  | "32int" => some int32
  | "32uint" => some uint32
  | "32float" => some float32
  | "64float" => some float64
  | "string" => some string
  | _ => none

def shown : ValueType → String
  | bits => "Bits"
  | uint8 => "Uint8"
  | int16 => "Int16"
  | uint16 => "Uint16"
  | int32 => "Int32"
  | uint32 => "Uint32"
  | float32 => "Float32"
  | float64 => "Float64"
  | string => "String"

end ValueType

end MeterGateway
