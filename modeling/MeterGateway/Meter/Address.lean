import MeterGateway.Codec
import MeterGateway.Bytes.Utf8
import MeterGateway.Text.Blank

namespace MeterGateway.Meter

def addressLength : Nat := 7

structure Address where
  bytes : Bytes
  length_eq : bytes.length = addressLength := by rfl
  deriving DecidableEq

namespace Address

def broadcast : Address where
  bytes := [0xFE, 0xFE, 0xFE, 0xFE, 0xFE, 0xFE, 0xFE]

def wildcard : Address where
  bytes := [0xAA, 0xAA, 0xAA, 0xAA, 0xAA, 0xAA, 0xAA]

instance : Inhabited Address := ⟨wildcard⟩

def ofBytes (bytes : Bytes) : Except CodecError Address :=
  if h : bytes.length = addressLength then .ok ⟨bytes, h⟩ else .error (.addressLength bytes.length)

/-- Blanks around the digits are ignored.  Digits are judged before their number is. -/
def parse (text : String) : Except CodecError Address :=
  match Hex.decode (Utf8.encode (Text.trim text.toList)) with
  | .ok bytes => ofBytes bytes
  | .error fault => .error (.invalidValue (.hex fault))

def format (a : Address) : String := Hex.upper a.bytes

end Address

end MeterGateway.Meter
