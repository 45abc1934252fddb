namespace MeterGateway

abbrev Bytes := List UInt8

namespace Bytes

def toNatLE : Bytes → Nat
  | [] => 0
  | b :: bs => b.toNat + 256 * toNatLE bs

def ofNatLE : (width : Nat) → Nat → Bytes
  | 0, _ => []
  | w + 1, n => UInt8.ofNat (n % 256) :: ofNatLE w (n / 256)

def toNatBE (bs : Bytes) : Nat := toNatLE bs.reverse

def ofNatBE (width n : Nat) : Bytes := (ofNatLE width n).reverse

def toIntBE (bs : Bytes) : Int := (toNatBE bs : Int).bmod (Nat.pow 256 bs.length)

def ofIntBE (width : Nat) (i : Int) : Bytes := ofNatBE width (i % Nat.pow 256 width).toNat

@[simp] theorem length_ofNatLE (w n : Nat) : (ofNatLE w n).length = w := by
  induction w generalizing n with
  | zero => rfl
  | succ w ih => simp [ofNatLE, ih]

@[simp] theorem length_ofNatBE (w n : Nat) : (ofNatBE w n).length = w := by
  simp [ofNatBE]

@[simp] theorem length_ofIntBE (w : Nat) (i : Int) : (ofIntBE w i).length = w := by
  simp [ofIntBE]

theorem toNatLE_ofNatLE (w n : Nat) : toNatLE (ofNatLE w n) = n % Nat.pow 256 w := by
  rw [Nat.pow_eq]
  induction w generalizing n with
  | zero => simp [ofNatLE, toNatLE, Nat.mod_one]
  | succ w ih =>
    simp only [ofNatLE, toNatLE, ih]
    rw [Nat.pow_succ', Nat.mod_mul]
    simp

theorem toNatBE_ofNatBE (w n : Nat) : toNatBE (ofNatBE w n) = n % Nat.pow 256 w := by
  simp [toNatBE, ofNatBE, toNatLE_ofNatLE]

theorem toNatBE_ofIntBE (w : Nat) (i : Int) :
    (toNatBE (ofIntBE w i) : Int) = i % Nat.pow 256 w := by
  have positive : 0 < Nat.pow 256 w := Nat.pow_pos (by decide)
  have least : 0 ≤ i % Nat.pow 256 w := Int.emod_nonneg i (by omega)
  have below : i % Nat.pow 256 w < Nat.pow 256 w := Int.emod_lt_of_pos i (by omega)
  rw [ofIntBE, toNatBE_ofNatBE, Nat.mod_eq_of_lt (by omega), Int.toNat_of_nonneg least]

theorem toIntBE_ofIntBE {w : Nat} {i : Int} (low : -(Nat.pow 256 w / 2 : Int) ≤ i)
    (high : i < (Nat.pow 256 w + 1) / 2) : toIntBE (ofIntBE w i) = i := by
  rw [toIntBE, toNatBE_ofIntBE, length_ofIntBE, Int.emod_bmod, Int.bmod_eq_of_le low high]

end Bytes

end MeterGateway
