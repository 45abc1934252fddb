import MeterGateway.Codec

namespace MeterGateway.Modbus

inductive Function
  | readCoils : Function
  | readDiscreteInputs : Function
  | readHoldingRegisters : Function
  | readInputRegisters : Function
  | writeSingleCoil : Function
  | writeSingleRegister : Function
  | writeMultipleCoils : Function
  | writeMultipleRegisters : Function
  deriving DecidableEq

namespace Function

def all : List Function :=
  [readCoils, readDiscreteInputs, readHoldingRegisters, readInputRegisters, writeSingleCoil,
    writeSingleRegister, writeMultipleCoils, writeMultipleRegisters]

def code : Function → UInt8
  | readCoils => 1
  | readDiscreteInputs => 2
  | readHoldingRegisters => 3
  | readInputRegisters => 4
  | writeSingleCoil => 5
  | writeSingleRegister => 6
  | writeMultipleCoils => 15
  | writeMultipleRegisters => 16

def ofCode (code : UInt8) : Except CodecError Function :=
  match all.find? (·.code = code) with
  | some f => .ok f
  | none => .error (.unsupportedFunction code)

def isWrite : Function → Bool
  | writeSingleCoil | writeSingleRegister | writeMultipleCoils | writeMultipleRegisters => true
  | _ => false

def isBitAccess : Function → Bool
  | readCoils | readDiscreteInputs | writeSingleCoil | writeMultipleCoils => true
  | _ => false

end Function

def exceptionFlag : UInt8 := 0x80

def isReadCode (code : UInt8) : Bool := 1 ≤ code && code ≤ 4

def isWriteCode (code : UInt8) : Bool := code = 5 || code = 6 || code = 15 || code = 16

end MeterGateway.Modbus
