import MeterGateway.Bytes

namespace MeterGateway.Hex

inductive Fault
  | oddLength : Fault
  | badDigit : (byte : UInt8) → (position : Nat) → Fault
  deriving DecidableEq

def lowerDigit (n : Nat) : Char := if n < 10 then Char.ofNat (48 + n) else Char.ofNat (87 + n)

def upperDigit (n : Nat) : Char := if n < 10 then Char.ofNat (48 + n) else Char.ofNat (55 + n)

def lowerPair (b : UInt8) : List Char := [lowerDigit (b.toNat / 16), lowerDigit (b.toNat % 16)]

def upperPair (b : UInt8) : List Char := [upperDigit (b.toNat / 16), upperDigit (b.toNat % 16)]

def lower (bs : Bytes) : String := String.ofList (bs.flatMap lowerPair)

def upper (bs : Bytes) : String := String.ofList (bs.flatMap upperPair)

def digit? (b : UInt8) : Option Nat :=
  let n := b.toNat
  if 48 ≤ n ∧ n ≤ 57 then some (n - 48)
  else if 65 ≤ n ∧ n ≤ 70 then some (n - 55)
  else if 97 ≤ n ∧ n ≤ 102 then some (n - 87)
  else none

def digit (b : UInt8) (position : Nat) : Except Fault Nat :=
  match digit? b with
  | some n => .ok n
  | none => .error (.badDigit b position)

def decodeFrom (position : Nat) : Bytes → Except Fault Bytes
  | a :: b :: rest => do
    let high ← digit a position
    let low ← digit b (position + 1)
    let bytes ← decodeFrom (position + 2) rest
    return UInt8.ofNat (16 * high + low) :: bytes
  | _ => .ok []

/-- An odd number of digits is noticed before any digit is looked at. -/
def decode (text : Bytes) : Except Fault Bytes :=
  if text.length % 2 = 1 then .error .oddLength else decodeFrom 0 text

end MeterGateway.Hex
