import MeterGateway.Checksum

/-!
What the checksums notice.  Either of them tells any single byte apart when the others stay: a sum
because the other summands cancel, and a CRC because a step of it can be undone, in the register as
in the byte.  A body closed by such a checksum is therefore never one altered byte away from
another body closed by its own.
-/

namespace MeterGateway.Checksum

/-! ### The sum -/

theorem foldl_add (bs : Bytes) (start : UInt8) : bs.foldl (· + ·) start = start + byteSum bs := by
  induction bs generalizing start with
  | nil => simp [byteSum]
  | cons b bs ih =>
    rw [byteSum, List.foldl_cons, List.foldl_cons, ih, ih (0 + b), UInt8.zero_add, UInt8.add_assoc]

theorem byteSum_cons (b : UInt8) (bs : Bytes) : byteSum (b :: bs) = b + byteSum bs := by
  rw [byteSum, List.foldl_cons, foldl_add, UInt8.zero_add]

theorem byteSum_append (as bs : Bytes) : byteSum (as ++ bs) = byteSum as + byteSum bs := by
  rw [byteSum, List.foldl_append, foldl_add]
  rfl

theorem byteSum_eq_ofNat (bs : Bytes) :
    byteSum bs = UInt8.ofNat (bs.foldr (fun b sum => b.toNat + sum) 0) := by
  induction bs with
  | nil => rfl
  | cons b bs ih => rw [byteSum_cons, ih, List.foldr_cons, UInt8.ofNat_add, UInt8.ofNat_toNat]

theorem byteSum_tells {front back : Bytes} {x y : UInt8}
    (same : byteSum (front ++ x :: back) = byteSum (front ++ y :: back)) : x = y := by
  simp only [byteSum_append, byteSum_cons] at same
  rwa [UInt8.add_right_inj, UInt8.add_left_inj] at same

/-! ### The CRC -/

theorem getLsbD_crcShift (crc : BitVec 16) (i : Nat) :
    (crcShift crc).getLsbD i =
      (crc.getLsbD (i + 1) ^^ (crc.getLsbD 0 && (0xA001#16).getLsbD i)) := by
  unfold crcShift
  split
  · rename_i low
    rw [low, BitVec.getLsbD_xor, BitVec.getLsbD_ushiftRight, Bool.true_and, Nat.add_comm]
  · rename_i low
    rw [Bool.not_eq_true] at low
    rw [low, BitVec.getLsbD_ushiftRight, Bool.false_and, Bool.xor_false, Nat.add_comm]

/-- The bit shifted out is the one that the polynomial sets at the top. -/
theorem crcShift_injective : Function.Injective crcShift := by
  intro a b same
  have bit (i : Nat) : (a.getLsbD (i + 1) ^^ (a.getLsbD 0 && (0xA001#16).getLsbD i)) =
      (b.getLsbD (i + 1) ^^ (b.getLsbD 0 && (0xA001#16).getLsbD i)) := by
    rw [← getLsbD_crcShift, ← getLsbD_crcShift, same]
  have low : a.getLsbD 0 = b.getLsbD 0 := by simpa using bit 15
  apply BitVec.eq_of_getLsbD_eq
  intro i _
  cases i with
  | zero => exact low
  | succ i =>
    have next := bit i
    rwa [low, Bool.xor_left_inj] at next

theorem crcShifts_injective : Function.Injective crcShifts := by
  intro a b same
  iterate 8 replace same := crcShift_injective same
  exact same

theorem crcStep_injective (b : UInt8) : Function.Injective (crcStep · b) := by
  intro crc crc' same
  exact (BitVec.xor_left_inj _).mp (crcShifts_injective same)

theorem crcStep_tells (crc : BitVec 16) : Function.Injective (crcStep crc) := by
  intro x y same
  have widened : x.toBitVec.setWidth 16 = y.toBitVec.setWidth 16 :=
    (BitVec.xor_right_inj _).mp (crcShifts_injective same)
  apply UInt8.toBitVec_inj.mp
  simpa using congrArg (BitVec.setWidth 8) widened

theorem crcFold_injective (bs : Bytes) : Function.Injective (bs.foldl crcStep ·) := by
  induction bs with
  | nil => exact fun _ _ same => same
  | cons b bs ih => exact fun _ _ same => crcStep_injective b (ih same)

theorem crcTrailer_inj {as bs : Bytes} (same : crcTrailer as = crcTrailer bs) :
    as.foldl crcStep 0xFFFF#16 = bs.foldl crcStep 0xFFFF#16 := by
  have values : crc16 as % Nat.pow 256 2 = crc16 bs % Nat.pow 256 2 := by
    rw [← Bytes.toNatLE_ofNatLE, ← Bytes.toNatLE_ofNatLE]
    exact congrArg Bytes.toNatLE same
  rw [Nat.mod_eq_of_lt (crc16_lt as), Nat.mod_eq_of_lt (crc16_lt bs)] at values
  exact BitVec.eq_of_toNat_eq values

theorem crcTrailer_tells {front back : Bytes} {x y : UInt8}
    (same : crcTrailer (front ++ x :: back) = crcTrailer (front ++ y :: back)) : x = y := by
  have registers := crcTrailer_inj same
  simp only [List.foldl_append, List.foldl_cons] at registers
  exact crcStep_tells _ (crcFold_injective back registers)

end Checksum

/-- What a body is closed with: always the same number of bytes, and other ones for a body that
differs in a single byte. -/
structure Seal where
  close : Bytes → Bytes
  width : Nat
  length_close : ∀ body, (close body).length = width
  tells : ∀ {front back x y}, close (front ++ x :: back) = close (front ++ y :: back) → x = y

namespace Seal

variable (s : Seal) {body other : Bytes} {i : Nat} {b : UInt8}

def line (body : Bytes) : Bytes := body ++ s.close body

theorem length_line (body : Bytes) : (s.line body).length = body.length + s.width := by
  rw [line, List.length_append, s.length_close]

theorem length_inj (same : (s.line body).length = (s.line other).length) :
    body.length = other.length := by
  rw [s.length_line, s.length_line] at same
  exact Nat.add_right_cancel same

theorem line_injective : Function.Injective s.line := by
  intro body other same
  exact (List.append_inj same (s.length_inj (congrArg List.length same))).1

theorem getElem?_of_set (inside : i < (s.line body).length)
    (sealed : (s.line body).set i b = s.line other) : (s.line body)[i]? = some b := by
  have lengths : body.length = other.length := by
    apply s.length_inj
    rw [← sealed, List.length_set]
  rw [line, line] at sealed
  rw [length_line] at inside
  rw [line]
  by_cases at_body : i < body.length
  -- the seal was left as it was, and it tells the byte of the one body from that of the other
  · rw [List.set_append_left _ _ at_body] at sealed
    obtain ⟨changed, closed⟩ := List.append_inj sealed (by rw [List.length_set, lengths])
    have split : body = body.take i ++ body[i] :: body.drop (i + 1) := by
      rw [List.getElem_cons_drop, List.take_append_drop]
    rw [← changed, List.set_eq_take_append_cons_drop, if_pos at_body] at closed
    have same : s.close (body.take i ++ body[i] :: body.drop (i + 1)) =
        s.close (body.take i ++ b :: body.drop (i + 1)) := by
      rw [← split]
      exact closed
    rw [List.getElem?_append_left at_body, List.getElem?_eq_getElem at_body, s.tells same]
  -- the bodies are the same, and so are their seals
  · rw [Nat.not_lt] at at_body
    rw [List.set_append_right _ _ at_body] at sealed
    obtain ⟨rfl, closed⟩ := List.append_inj sealed lengths
    have at_seal : i - body.length < (s.close body).length := by
      rw [s.length_close]
      omega
    rw [List.getElem?_append_right at_body, ← closed, List.getElem?_set_self at_seal]

def crc : Seal where
  close := Checksum.crcTrailer
  width := 2
  length_close := Checksum.length_crcTrailer
  tells := Checksum.crcTrailer_tells

end Seal

end MeterGateway
