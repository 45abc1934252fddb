import MeterGateway.Codec
import MeterGateway.Checksum
import MeterGateway.Meter.Address

/-!
Meter frames after CJ/T 188:

    68 | device type | address (7) | control code | length | data area | checksum | 16

The checksum is the sum of all bytes before it.  The data area is a sequence of named fields; which
names and widths a reader expects is a layout.
-/

namespace MeterGateway.Meter

inductive FieldName
  | dataId : FieldName
  | seq : FieldName
  | totalUsed : FieldName
  | remaining : FieldName
  | totalPurchases : FieldName
  | times : FieldName
  | status0 : FieldName
  | status1 : FieldName
  | unitCode : FieldName
  | userNo : FieldName
  | meterNo : FieldName
  | alarmValue : FieldName
  | overdraft : FieldName
  | exceed : FieldName
  | address : FieldName
  | purchases : FieldName
  | valveStatus : FieldName
  | reset : FieldName
  | empty : FieldName
  deriving DecidableEq

namespace FieldName

def all : List FieldName :=
  [dataId, seq, totalUsed, remaining, totalPurchases, times, status0, status1, unitCode, userNo,
    meterNo, alarmValue, overdraft, exceed, address, purchases, valveStatus, reset, empty]

def key : FieldName → String
  | dataId => "dataId"
  | seq => "seq"
  | totalUsed => "totalUsed"
  | remaining => "remaining"
  | totalPurchases => "totalPurchases"
  | times => "times"
  | status0 => "status0"
  | status1 => "status1"
  | unitCode => "unitCode"
  | userNo => "userNo"
  | meterNo => "meterNo"
  | alarmValue => "alarmValue"
  | overdraft => "overdraft"
  | exceed => "exceed"
  | address => "address"
  | purchases => "purchases"
  | valveStatus => "valveStatus"
  | reset => "reset"
  | empty => "empty"

def ofKey? (key : String) : Option FieldName := all.find? (·.key = key)

end FieldName

abbrev Layout := List (FieldName × Nat)

structure Field where
  name : FieldName
  data : Bytes
  deriving DecidableEq

namespace Field

def width (f : Field) : Nat := f.data.length

def value (f : Field) : Nat := Bytes.toNatLE (f.data.take 8)

end Field

/-- The fields of a layout cut from a data area one after another; what remains is one more field.
A field that does not fit is reported by the place where it would end. -/
def cutFields (offset : Nat) : Layout → Bytes → Except CodecError (List Field)
  | [], rest => .ok (if rest = [] then [] else [⟨.empty, rest⟩])
  | (name, width) :: layout, rest =>
    if rest.length < width then .error (.truncated (offset + width) (offset + rest.length))
    else
      match cutFields (offset + width) layout (rest.drop width) with
      | .ok fields => .ok (⟨name, rest.take width⟩ :: fields)
      | .error e => .error e

structure Frame where
  deviceType : UInt8
  address : Bytes
  controlCode : UInt8
  fields : List Field
  deriving DecidableEq

structure Decoded where
  frame : Frame
  length : UInt8
  checksum : UInt8
  computedChecksum : UInt8
  deriving DecidableEq

def Decoded.checksumOk (d : Decoded) : Bool := d.checksum = d.computedChecksum

namespace Frame

def head : UInt8 := 0x68

def tail : UInt8 := 0x16

def headerLength : Nat := 11

def leastLength : Nat := headerLength + 2

def field? (f : Frame) (name : FieldName) : Option Field := f.fields.find? (·.name = name)

def setField (f : Frame) (name : FieldName) (data : Bytes) : Frame :=
  { f with fields := set f.fields }
where
  set : List Field → List Field
    | [] => []
    | g :: rest => if g.name = name then { g with data } :: rest else g :: set rest

def addField (f : Frame) (name : FieldName) (data : Bytes) : Frame :=
  { f with fields := f.fields ++ [⟨name, data⟩] }

def dataArea (f : Frame) : Bytes := f.fields.flatMap Field.data

def body (f : Frame) : Bytes :=
  [head, f.deviceType] ++ f.address ++ [f.controlCode, UInt8.ofNat f.dataArea.length] ++ f.dataArea

def encode (f : Frame) : Except CodecError Bytes :=
  if f.address.length ≠ addressLength then .error (.addressLength f.address.length)
  else if 255 < f.dataArea.length then .error (.dataAreaTooLong f.dataArea.length)
  else .ok (f.body ++ [Checksum.byteSum f.body, tail])

/-- Reads a frame by a layout.  A wrong checksum is not an error but shown in the result; bytes after
the frame are ignored. -/
def decode (layout : Layout) (bytes : Bytes) : Except CodecError Decoded :=
  match bytes with
  | h :: deviceType :: a0 :: a1 :: a2 :: a3 :: a4 :: a5 :: a6 :: controlCode :: length :: rest =>
    if rest.length < 2 then .error (.truncated leastLength bytes.length)
    else if h ≠ head then .error (.invalidFrame (.head h))
    else
      match rest.drop length.toNat with
      | checksum :: last :: _ =>
        if last ≠ tail then .error (.invalidFrame (.tail last))
        else
          match cutFields 0 layout (rest.take length.toNat) with
          | .ok fields =>
            .ok {
              frame := ⟨deviceType, [a0, a1, a2, a3, a4, a5, a6], controlCode, fields⟩
              length, checksum
              computedChecksum := Checksum.byteSum (bytes.take (headerLength + length.toNat)) }
          | .error e => .error e
      | _ => .error (.truncated (leastLength + length.toNat) bytes.length)
  | _ => .error (.truncated leastLength bytes.length)

end Frame

end MeterGateway.Meter
