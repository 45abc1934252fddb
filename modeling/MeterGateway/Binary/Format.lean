/-!
Binary floating point in exact arithmetic.  In a format every finite magnitude is a whole number of
units, a unit being the least positive magnitude, and magnitudes are ordered as their bits are.
Rounding goes to the nearest magnitude and, half way, to the one with even bits.
-/

namespace MeterGateway

def roundDiv (num den : Nat) : Nat :=
  let q := num / den
  let twice := 2 * (num % den)
  if twice < den then q
  else if den < twice then q + 1
  else q + q % 2

/-- A format is given by the length of its significands, the number `k` for which `2 ^ -k` is the
unit, and the bits of infinity. -/
structure BinaryFormat where
  precision : Nat
  unitExponent : Nat
  infinity : Nat

namespace BinaryFormat

def double : BinaryFormat := ⟨53, 1074, 0x7FF0000000000000⟩

def single : BinaryFormat := ⟨24, 149, 0x7F800000⟩

def units (f : BinaryFormat) (magnitude : Nat) : Nat :=
  let half := Nat.pow 2 (f.precision - 1)
  let scale := magnitude / half
  if scale = 0 then magnitude else (magnitude % half + half) * Nat.pow 2 (scale - 1)

def round (f : BinaryFormat) (num den : Nat) : Nat :=
  let num := num * Nat.pow 2 f.unitExponent
  let scale := (num / den).log2 + 1 - f.precision
  min (scale * Nat.pow 2 (f.precision - 1) + roundDiv num (den * Nat.pow 2 scale)) f.infinity

end BinaryFormat

structure Binary64 where
  bits : UInt64
  deriving DecidableEq, Inhabited

namespace Binary64

def signBit : Nat := 0x8000000000000000

def singleSignBit : Nat := 0x80000000

def magnitude (x : Binary64) : Nat := x.bits.toNat % signBit

def isNegative (x : Binary64) : Bool := signBit ≤ x.bits.toNat

def isZero (x : Binary64) : Bool := x.magnitude = 0

def isFinite (x : Binary64) : Bool := x.magnitude < BinaryFormat.double.infinity

def ofMagnitude (negative : Bool) (magnitude : Nat) : Binary64 :=
  ⟨UInt64.ofNat (if negative then signBit + magnitude else magnitude)⟩

/-- The magnitude as a number of units of `2 ^ -1074`. -/
def units (x : Binary64) : Nat := BinaryFormat.double.units x.magnitude

def ofInt (i : Int) : Binary64 := ofMagnitude (i < 0) (BinaryFormat.double.round i.natAbs 1)

def ofSingle (bits : Nat) : Binary64 :=
  let magnitude := bits % singleSignBit
  let negative := singleSignBit ≤ bits
  if magnitude < BinaryFormat.single.infinity then
    ofMagnitude negative (BinaryFormat.double.round (BinaryFormat.single.units magnitude) (Nat.pow 2 149))
  else ofMagnitude negative (BinaryFormat.double.infinity + (magnitude - BinaryFormat.single.infinity) * 0x20000000)

def toSingle (x : Binary64) : Nat :=
  let magnitude :=
    if x.isFinite then BinaryFormat.single.round x.units (Nat.pow 2 1074) else BinaryFormat.single.infinity
  if x.isNegative then singleSignBit + magnitude else magnitude

end Binary64

end MeterGateway
