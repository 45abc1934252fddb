import MeterGateway.Modbus.Function
import MeterGateway.Checksum

/-!
Modbus RTU requests:

    unit | function | address (2) | quantity, value or counted data | CRC (2, low byte first)
-/

namespace MeterGateway.Modbus

/-- Data goes with a write: registers most significant byte first, coils packed into bits. -/
structure Request where
  unit : UInt8
  function : Function
  address : UInt16
  quantity : UInt16
  data : Bytes
  deriving DecidableEq

namespace Request

/-- What follows the address.  A single coil is on when any byte of the data is not zero. -/
def tail (r : Request) : Except CodecError Bytes :=
  match r.function with
  | .readCoils | .readDiscreteInputs | .readHoldingRegisters | .readInputRegisters =>
    .ok (Bytes.ofNatBE 2 r.quantity.toNat)
  | .writeSingleCoil => .ok (if r.data.any (· ≠ 0) then [0xFF, 0x00] else [0x00, 0x00])
  | .writeSingleRegister =>
    if r.data.length < 2 then .error (.truncated 2 r.data.length) else .ok (r.data.take 2)
  | .writeMultipleCoils | .writeMultipleRegisters =>
    if 255 < r.data.length then .error (.dataAreaTooLong r.data.length)
    else .ok (Bytes.ofNatBE 2 r.quantity.toNat ++ [UInt8.ofNat r.data.length] ++ r.data)

def encode (r : Request) : Except CodecError Bytes :=
  r.tail.map fun tail =>
    let body := [r.unit, r.function.code] ++ Bytes.ofNatBE 2 r.address.toNat ++ tail
    body ++ Checksum.crcTrailer body

end Request

end MeterGateway.Modbus
