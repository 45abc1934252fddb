import MeterGateway.Bytes

/-!
UTF-8, one byte at a time.  A byte string is cut into pieces, each a character or a longest run
that begins a character and breaks off; it is valid when every piece is a character.
-/

namespace MeterGateway.Utf8

def encodeChar (c : Char) : Bytes :=
  let n := c.toNat
  if n < 0x80 then [UInt8.ofNat n]
  else if n < 0x800 then [UInt8.ofNat (0xC0 + n / 64), UInt8.ofNat (0x80 + n % 64)]
  else if n < 0x10000 then
    [UInt8.ofNat (0xE0 + n / 4096), UInt8.ofNat (0x80 + n / 64 % 64), UInt8.ofNat (0x80 + n % 64)]
  else
    [UInt8.ofNat (0xF0 + n / 262144), UInt8.ofNat (0x80 + n / 4096 % 64),
      UInt8.ofNat (0x80 + n / 64 % 64), UInt8.ofNat (0x80 + n % 64)]

def encode (cs : List Char) : Bytes := cs.flatMap encodeChar

/-- Between characters, or inside one: how many bytes are owed, the value so far, and the bounds
of the next byte. -/
inductive State
  | start : State
  | within : (owed value low high : Nat) → State
  deriving DecidableEq

/-- The first byte of a character fixes its length and narrows its second byte, so that no
character has two spellings and no surrogate has one. -/
def first (b : UInt8) : List (Option Char) × State :=
  let n := b.toNat
  if n < 0x80 then ([some (Char.ofNat n)], .start)
  else if n < 0xC2 then ([none], .start)
  else if n < 0xE0 then ([], .within 1 (n - 0xC0) 0x80 0xBF)
  else if n < 0xF0 then
    ([], .within 2 (n - 0xE0) (if n = 0xE0 then 0xA0 else 0x80) (if n = 0xED then 0x9F else 0xBF))
  else if n < 0xF5 then
    ([], .within 3 (n - 0xF0) (if n = 0xF0 then 0x90 else 0x80) (if n = 0xF4 then 0x8F else 0xBF))
  else ([none], .start)

def feed : State → UInt8 → List (Option Char) × State
  | .start, b => first b
  | .within owed value low high, b =>
    if low ≤ b.toNat ∧ b.toNat ≤ high then
      let value := 64 * value + (b.toNat - 0x80)
      if owed ≤ 1 then ([some (Char.ofNat value)], .start)
      else ([], .within (owed - 1) value 0x80 0xBF)
    else
      let (pieces, state) := first b
      (none :: pieces, state)

def piecesFrom : State → Bytes → List (Option Char)
  | .start, [] => []
  | .within .., [] => [none]
  | state, b :: bs =>
    let (pieces, state) := feed state b
    pieces ++ piecesFrom state bs

def pieces (bs : Bytes) : List (Option Char) := piecesFrom .start bs

def decode? (bs : Bytes) : Option String := ((pieces bs).mapM id).map String.ofList

def decodeLossy (bs : Bytes) : List Char := (pieces bs).map (·.getD (Char.ofNat 0xFFFD))

end MeterGateway.Utf8
