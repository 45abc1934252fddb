import MeterGateway.Binary.Format

/-!
Decimal text of doubles.  Reading rounds the significand first and then scales it by a power of
ten, rounding again.  Writing takes the fewest digits that lie within the interval of reals which
round to the number, and of those the nearest.
-/

namespace MeterGateway.Binary64

def divide (magnitude power : Nat) : Nat :=
  BinaryFormat.double.round (BinaryFormat.double.units magnitude)
    (BinaryFormat.double.units (BinaryFormat.double.round (Nat.pow 10 power) 1))

def scaleDown (magnitude power : Nat) : (times : Nat) → Nat
  | 0 => divide magnitude power
  | n + 1 => if magnitude = 0 then 0 else scaleDown (divide magnitude 308) power n

def scaleUp (magnitude exponent : Nat) : Nat :=
  if magnitude = 0 then 0
  else if 308 < exponent then BinaryFormat.double.infinity
  else
    let power := BinaryFormat.double.units (BinaryFormat.double.round (Nat.pow 10 exponent) 1)
    BinaryFormat.double.round (BinaryFormat.double.units magnitude * power) (Nat.pow 2 2148)

def ofDecimal (negative : Bool) (significand : Nat) (exponent : Int) : Binary64 :=
  let magnitude := BinaryFormat.double.round significand 1
  ofMagnitude negative
    (if 0 ≤ exponent then scaleUp magnitude exponent.toNat
    else
      let times := (exponent.natAbs - 1) / 308
      scaleDown magnitude (exponent.natAbs - 308 * times) times)

structure Decimal where
  digits : Nat
  exponent : Int
  deriving DecidableEq, Inhabited

def decimalLength (n : Nat) : Nat := (Nat.toDigits 10 n).length

/-- The `d` with `10 ^ (d - 1) ≤ num / den < 10 ^ d`, for a positive quotient. -/
def leadingPlace (num den : Nat) : Int :=
  if den ≤ num then decimalLength (num / den)
  else if num * Nat.pow 10 400 < den then -400
  else
    let c := (den - 1) / num
    1 - decimalLength c

/-- The nearer of the two points of the grid of `length` digits around the magnitude that lies
within its interval; of two equally near the even one. -/
def gridPoint? (magnitude : Nat) (place : Int) (length : Nat) : Option Decimal :=
  let exponent := place - length
  -- in half units: the value, and the ends of the interval that rounds to it
  let value := 2 * BinaryFormat.double.units magnitude
  let low := BinaryFormat.double.units (magnitude - 1) + BinaryFormat.double.units magnitude
  let high := BinaryFormat.double.units magnitude + BinaryFormat.double.units (magnitude + 1)
  let unit := Nat.pow 2 1075
  -- a point m of the grid is m * step / scale in half units
  let step := unit * Nat.pow 10 exponent.toNat
  let scale := Nat.pow 10 (-exponent).toNat
  let below := value * scale / step
  let inside (m : Nat) : Bool :=
    if magnitude % 2 = 0 then low * scale ≤ m * step && m * step ≤ high * scale
    else low * scale < m * step && m * step < high * scale
  let toBelow := value * scale - below * step
  let toAbove := (below + 1) * step - value * scale
  let nearer := if toBelow < toAbove then below else if toAbove < toBelow then below + 1 else below + below % 2
  if inside nearer then some ⟨nearer, exponent⟩
  else if inside below then some ⟨below, exponent⟩
  else if inside (below + 1) then some ⟨below + 1, exponent⟩
  else none

def Decimal.strip (d : Decimal) : (fuel : Nat) → Decimal
  | 0 => d
  | fuel + 1 =>
    if d.digits % 10 = 0 ∧ d.digits ≠ 0 then Decimal.strip ⟨d.digits / 10, d.exponent + 1⟩ fuel else d

/-- The fewest digits that read back as the magnitude; seventeen always do. -/
def shortest (magnitude : Nat) : Decimal :=
  let place := leadingPlace (BinaryFormat.double.units magnitude) (Nat.pow 2 1074)
  let found := (List.range 17).findSome? fun n => gridPoint? magnitude place (n + 1)
  (found.getD ⟨0, 0⟩).strip 20

/-- Where positional notation ends: below `10 ^ -5` and from `10 ^ 16` on a number is written with
an exponent. -/
structure Layout where
  leastPlace : Int := -5
  greatestPlace : Int := 16

def text (x : Binary64) : String :=
  let sign := if x.isNegative then "-" else ""
  if x.isZero then sign ++ "0.0"
  else
    let layout : Layout := {}
    let d := shortest x.magnitude
    let digits := toString d.digits
    let length : Int := digits.length
    let place := d.exponent + length
    let zeros (n : Int) : String := String.ofList (List.replicate n.toNat '0')
    let front (n : Int) : String := String.ofList (digits.toList.take n.toNat)
    let back (n : Int) : String := String.ofList (digits.toList.drop n.toNat)
    sign ++
      if 0 ≤ d.exponent ∧ place ≤ layout.greatestPlace then digits ++ zeros d.exponent ++ ".0"
      else if 0 < place ∧ place ≤ layout.greatestPlace then front place ++ "." ++ back place
      else if layout.leastPlace < place ∧ place ≤ 0 then "0." ++ zeros (-place) ++ digits
      else if length = 1 then digits ++ "e" ++ toString (place - 1)
      else front 1 ++ "." ++ back 1 ++ "e" ++ toString (place - 1)

end MeterGateway.Binary64
