import MeterGateway.Bytes.Hex
import MeterGateway.Text.Printable

namespace MeterGateway.Text

def hexDigits (n : Nat) : List Char := (Nat.toDigits 16 n)

def apostrophe : Char := Char.ofNat 39

def quotationMark : Char := Char.ofNat 34

def escapeIn (mark c : Char) : List Char :=
  if c = Char.ofNat 0 then ['\\', '0']
  else if c = '\t' then ['\\', 't']
  else if c = '\r' then ['\\', 'r']
  else if c = '\n' then ['\\', 'n']
  else if c = '\\' ∨ c = mark then ['\\', c]
  else if isPrintable c then [c]
  else ['\\', 'u', '\x7b'] ++ hexDigits c.toNat ++ ['\x7d']

def quoted (s : String) : String :=
  String.ofList (quotationMark :: s.toList.flatMap (escapeIn quotationMark) ++ [quotationMark])

def quotedChar (c : Char) : String :=
  String.ofList (apostrophe :: escapeIn apostrophe c ++ [apostrophe])

end MeterGateway.Text
