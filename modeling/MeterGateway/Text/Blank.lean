namespace MeterGateway.Text

/-- The twenty-five characters with the property `White_Space`; zero-width space and the byte
order mark are not among them. -/
def isBlank (c : Char) : Bool :=
  let n := c.toNat
  (9 ≤ n && n ≤ 13) || n = 32 || n = 0x85 || n = 0xA0 || n = 0x1680 || (0x2000 ≤ n && n ≤ 0x200A) ||
    n = 0x2028 || n = 0x2029 || n = 0x202F || n = 0x205F || n = 0x3000

def trim (cs : List Char) : List Char :=
  ((cs.dropWhile isBlank).reverse.dropWhile isBlank).reverse

example : isBlank ' ' ∧ isBlank '\n' ∧ ¬ isBlank (Char.ofNat 0x200B) ∧ ¬ isBlank (Char.ofNat 0xFEFF) := by
  decide

end MeterGateway.Text
