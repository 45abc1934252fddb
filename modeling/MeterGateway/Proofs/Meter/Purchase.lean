import MeterGateway.Meter.Purchase
import MeterGateway.Proofs.Checksum

namespace MeterGateway.Meter

section Rotation

variable {α : Type} (xs : List α) (n : Nat)

theorem rotateLeft_eq :
    xs.rotateLeft n = xs.drop (n % xs.length) ++ xs.take (n % xs.length) := by
  match xs with
  | [] => simp
  | [_] => simp [List.rotateLeft, Nat.mod_one]
  | _ :: _ :: _ => simp [List.rotateLeft]

theorem length_drop_append_take (i : Nat) : (xs.drop i ++ xs.take i).length = xs.length := by
  rw [List.length_append, Nat.add_comm, ← List.length_append, List.take_append_drop]

end Rotation

namespace Purchase

variable (address : Bytes) (times : UInt8) (amount : Bytes)

theorem key_eq : key address = UInt8.ofNat (address.foldr (fun b sum => b.toNat + sum) 0) :=
  Checksum.byteSum_eq_ofNat address

theorem encrypt_of_length {x count : UInt8} (bytes : amount.length = 4) (sum : key address = x)
    (hidden : times ^^^ x = count) :
    encrypt address times amount =
      (count, (amount.map (· ^^^ x)).drop (count.toNat % 4) ++
        (amount.map (· ^^^ x)).take (count.toNat % 4)) := by
  have length : (amount.map (· ^^^ x)).length = 4 := by rw [List.length_map, bytes]
  simp only [encrypt, turn, sum, hidden, rotateLeft_eq, length, Nat.mod_mod]

theorem length_encrypt : (encrypt address times amount).2.length = amount.length := by
  simp only [encrypt, rotateLeft_eq, length_drop_append_take, List.length_map]

theorem countInside_ofNat (n : Nat) : countInside (UInt16.ofNat n) = UInt8.ofNat n - 1 := by
  rw [countInside, UInt16.toUInt8_sub, UInt16.toUInt8_ofNat']
  rfl

end Purchase

end MeterGateway.Meter
