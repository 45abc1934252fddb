import MeterGateway.Checksum

/-!
The cipher of purchases.  Its key is one byte, the sum of the meter address.  The count of purchases
is combined with the key by exclusive or, and the amount byte by byte; then the amount is turned
left by the enciphered count modulo four.
-/

namespace MeterGateway.Meter.Purchase

def key (address : Bytes) : UInt8 := Checksum.byteSum address

def turn (times : UInt8) : Nat := times.toNat % 4

def encrypt (address : Bytes) (times : UInt8) (amount : Bytes) : UInt8 × Bytes :=
  let x := key address
  let y := times ^^^ x
  (y, (amount.map (· ^^^ x)).rotateLeft (turn y))

def decrypt (address : Bytes) (times : UInt8) (amount : Bytes) : UInt8 × Bytes :=
  let x := key address
  (times ^^^ x, (amount.rotateRight (turn times)).map (· ^^^ x))

/-- Purchases are counted from one outside the meter and from zero inside, modulo 256. -/
def countInside (times : UInt16) : UInt8 := (times - 1).toUInt8

end MeterGateway.Meter.Purchase
