import MeterGateway.Bytes.Hex
import MeterGateway.Proofs.Outcome
import MeterGateway.Proofs.Utf8
import Mathlib.Data.List.Basic

/-!
What hexadecimal text spells.  Digits are told apart as characters, two of them a byte, while the
decoder looks at the bytes of a text; the two agree on every text, since no character outside ASCII
has a byte that is a digit.
-/

namespace MeterGateway.Hex

def lowerDigits : List Char := "0123456789abcdef".toList

def upperDigits : List Char := "0123456789ABCDEF".toList

def Digit (c : Char) (n : Nat) : Prop := lowerDigits[n]? = some c ∨ upperDigits[n]? = some c

def IsDigit (c : Char) : Prop := c ∈ lowerDigits ∨ c ∈ upperDigits

instance (c : Char) : Decidable (IsDigit c) := inferInstanceAs (Decidable (_ ∨ _))

/-- A text of digits in either case, two for each byte, the higher one first. -/
inductive Spells : List Char → Bytes → Prop
  | nil : Spells [] []
  | cons {a b : Char} {high low : Nat} {rest : List Char} {bytes : Bytes} :
    Digit a high → Digit b low → Spells rest bytes →
      Spells (a :: b :: rest) (UInt8.ofNat (16 * high + low) :: bytes)

variable {c : Char} {n m : Nat} {cs : List Char} {bs : Bytes}

/-! ### Digits -/

theorem lowerDigits_eq : lowerDigits = (List.range 16).map lowerDigit := by decide

theorem upperDigits_eq : upperDigits = (List.range 16).map upperDigit := by decide

theorem digit_iff : Digit c n ↔ n < 16 ∧ (lowerDigit n = c ∨ upperDigit n = c) := by
  simp only [Digit, lowerDigits_eq, upperDigits_eq, List.getElem?_map, Option.map_eq_some_iff,
    List.getElem?_eq_some_iff, List.getElem_range, List.length_range]
  constructor
  · rintro (⟨_, ⟨lt, rfl⟩, same⟩ | ⟨_, ⟨lt, rfl⟩, same⟩)
    · exact ⟨lt, .inl same⟩
    · exact ⟨lt, .inr same⟩
  · rintro ⟨lt, same | same⟩
    · exact .inl ⟨n, ⟨lt, rfl⟩, same⟩
    · exact .inr ⟨n, ⟨lt, rfl⟩, same⟩

theorem isDigit_iff : IsDigit c ↔ ∃ n, Digit c n := by
  simp only [IsDigit, Digit, List.mem_iff_getElem?, exists_or]

example : IsDigit 'F' ∧ ¬IsDigit 'g' := by decide

theorem toNat_lowerDigit : ∀ n < 16, (lowerDigit n).toNat = if n < 10 then 48 + n else 87 + n := by
  decide

theorem toNat_upperDigit : ∀ n < 16, (upperDigit n).toNat = if n < 10 then 48 + n else 55 + n := by
  decide

theorem toUpper_lowerDigit : ∀ n < 16, (lowerDigit n).toUpper = upperDigit n := by decide

theorem toUpper_upperDigit : ∀ n < 16, (upperDigit n).toUpper = upperDigit n := by decide

theorem Digit.lt (digit : Digit c n) : n < 16 := (digit_iff.mp digit).1

theorem digit_upperDigit (lt : n < 16) : Digit (upperDigit n) n := digit_iff.mpr ⟨lt, .inr rfl⟩

theorem Digit.toUpper (digit : Digit c n) : c.toUpper = upperDigit n := by
  obtain ⟨lt, rfl | rfl⟩ := digit_iff.mp digit
  · exact toUpper_lowerDigit n lt
  · exact toUpper_upperDigit n lt

theorem digit_iff_toNat : Digit c n ↔
    n < 10 ∧ c.toNat = 48 + n ∨ 10 ≤ n ∧ n < 16 ∧ (c.toNat = 87 + n ∨ c.toNat = 55 + n) := by
  rw [digit_iff, ← Char.toNat_inj, ← Char.toNat_inj]
  by_cases lt : n < 16
  · rw [toNat_lowerDigit n lt, toNat_upperDigit n lt]
    split <;> omega
  · omega

theorem Digit.ascii (digit : Digit c n) : c.toNat < 0x80 := by
  have := digit_iff_toNat.mp digit
  omega

/-! ### Bytes of a text -/

theorem digit?_ofNat_iff (byte : m < 256) : digit? (UInt8.ofNat m) = some n ↔
    n < 10 ∧ m = 48 + n ∨ 10 ≤ n ∧ n < 16 ∧ (m = 87 + n ∨ m = 55 + n) := by
  rw [digit?, UInt8.toNat_ofNat_of_lt' byte]
  split
  · simp only [Option.some.injEq]; omega
  · split
    · simp only [Option.some.injEq]; omega
    · split
      · simp only [Option.some.injEq]; omega
      · simp only [reduceCtorEq, false_iff]; omega

theorem digit_ofNat_iff {position : Nat} (ascii : c.toNat < 0x80) :
    digit (UInt8.ofNat c.toNat) position = .ok n ↔ Digit c n := by
  rw [digit_iff_toNat, ← digit?_ofNat_iff (show c.toNat < 256 by omega), digit]
  cases digit? (UInt8.ofNat c.toNat) <;> simp

theorem lt_of_digit? {b : UInt8} (digit : digit? b = some n) : b.toNat < 0x80 := by
  rw [← UInt8.ofNat_toNat (x := b), digit?_ofNat_iff b.toNat_lt] at digit
  omega

theorem lt_of_digit {b : UInt8} {position : Nat} (read : digit b position = .ok n) :
    b.toNat < 0x80 := by
  unfold digit at read
  split at read
  · rename_i found
    exact lt_of_digit? found
  · cases read

theorem decodeFrom_cons_iff {position : Nat} {a b : UInt8} {rest : Bytes} :
    decodeFrom position (a :: b :: rest) = .ok bs ↔
      ∃ high low bytes, digit a position = .ok high ∧ digit b (position + 1) = .ok low ∧
        decodeFrom (position + 2) rest = .ok bytes ∧
        UInt8.ofNat (16 * high + low) :: bytes = bs := by
  rw [decodeFrom]
  constructor
  · intro decoded
    obtain ⟨high, read_high, decoded⟩ := Except.exists_of_bind_eq_ok decoded
    obtain ⟨low, read_low, decoded⟩ := Except.exists_of_bind_eq_ok decoded
    obtain ⟨bytes, read_rest, decoded⟩ := Except.exists_of_bind_eq_ok decoded
    exact ⟨high, low, bytes, read_high, read_low, read_rest, Except.ok.inj decoded⟩
  · rintro ⟨high, low, bytes, read_high, read_low, read_rest, rfl⟩
    rw [read_high, read_low, read_rest]
    rfl

theorem lt_of_decodeFrom : ∀ {position : Nat} {text bs : Bytes}, text.length % 2 = 0 →
    decodeFrom position text = .ok bs → ∀ b ∈ text, b.toNat < 0x80
  | _, [], _, _, _ => by simp
  | _, [_], _, odd, _ => by cases odd
  | position, a :: b :: rest, bs, even, decoded => by
    obtain ⟨high, low, bytes, read_high, read_low, read_rest, -⟩ := decodeFrom_cons_iff.mp decoded
    simp only [List.length_cons] at even
    have small := lt_of_decodeFrom (by omega) read_rest
    simp only [List.mem_cons, forall_eq_or_imp]
    exact ⟨lt_of_digit read_high, lt_of_digit read_low, small⟩

/-! ### Characters of a text -/

theorem spells_cons_iff {a b : Char} {rest : List Char} :
    Spells (a :: b :: rest) bs ↔
      ∃ high low bytes, Digit a high ∧ Digit b low ∧ Spells rest bytes ∧
        UInt8.ofNat (16 * high + low) :: bytes = bs := by
  constructor
  · intro spelled
    cases spelled with
    | cons first second spelled => exact ⟨_, _, _, first, second, spelled, rfl⟩
  · rintro ⟨high, low, bytes, first, second, spelled, rfl⟩
    exact .cons first second spelled

/-- By two characters at a time, as the decoder goes by two bytes. -/
theorem decodeFrom_encode_iff : ∀ {position : Nat} {cs : List Char} {bs : Bytes},
    (∀ c ∈ cs, c.toNat < 0x80) → cs.length % 2 = 0 →
      (decodeFrom position (Utf8.encode cs) = .ok bs ↔ Spells cs bs)
  | _, [], bs, _, _ => by
    constructor
    · intro decoded
      cases decoded
      exact .nil
    · intro spelled
      cases spelled
      rfl
  | _, [_], _, _, odd => by cases odd
  | position, a :: b :: rest, bs, ascii, even => by
    obtain ⟨ascii_a, ascii⟩ := List.forall_mem_cons.mp ascii
    obtain ⟨ascii_b, ascii⟩ := List.forall_mem_cons.mp ascii
    simp only [List.length_cons] at even
    have ih {bytes : Bytes} :
        decodeFrom (position + 2) (Utf8.encode rest) = .ok bytes ↔ Spells rest bytes :=
      decodeFrom_encode_iff ascii (by omega)
    have cut : Utf8.encode (a :: b :: rest) =
        UInt8.ofNat a.toNat :: UInt8.ofNat b.toNat :: Utf8.encode rest := by
      simp only [Utf8.encode, List.flatMap_cons, Utf8.encodeChar_of_ascii ascii_a,
        Utf8.encodeChar_of_ascii ascii_b, List.singleton_append]
    simp only [cut, decodeFrom_cons_iff, digit_ofNat_iff ascii_a, digit_ofNat_iff ascii_b, ih,
      spells_cons_iff]

/-! ### What a text spells -/

theorem Spells.isDigit (spelled : Spells cs bs) : ∀ c ∈ cs, IsDigit c := by
  induction spelled with
  | nil => simp
  | cons first second _ ih =>
    simp only [List.mem_cons, forall_eq_or_imp]
    exact ⟨isDigit_iff.mpr ⟨_, first⟩, isDigit_iff.mpr ⟨_, second⟩, ih⟩

theorem Spells.ascii (spelled : Spells cs bs) : ∀ c ∈ cs, c.toNat < 0x80 := by
  intro c member
  obtain ⟨n, digit⟩ := isDigit_iff.mp (spelled.isDigit c member)
  exact digit.ascii

theorem Spells.length (spelled : Spells cs bs) : cs.length = 2 * bs.length := by
  induction spelled with
  | nil => rfl
  | cons _ _ _ ih =>
    simp only [List.length_cons]
    omega

theorem decode_encode_iff : decode (Utf8.encode cs) = .ok bs ↔ Spells cs bs := by
  unfold decode
  constructor
  · intro decoded
    split at decoded
    · cases decoded
    · rename_i even
      have ascii := Utf8.ascii_of_encode (lt_of_decodeFrom (by omega) decoded)
      rw [Utf8.length_encode_of_ascii ascii] at even
      exact (decodeFrom_encode_iff ascii (by omega)).mp decoded
  · intro spelled
    have length := spelled.length
    rw [Utf8.length_encode_of_ascii spelled.ascii, if_neg (by omega)]
    exact (decodeFrom_encode_iff spelled.ascii (by omega)).mpr spelled

theorem exists_spells : ∀ {cs : List Char}, cs.length % 2 = 0 → (∀ c ∈ cs, IsDigit c) →
    ∃ bs, Spells cs bs
  | [], _, _ => ⟨[], .nil⟩
  | [_], odd, _ => by cases odd
  | a :: b :: rest, even, digits => by
    obtain ⟨digit_a, digits⟩ := List.forall_mem_cons.mp digits
    obtain ⟨digit_b, digits⟩ := List.forall_mem_cons.mp digits
    simp only [List.length_cons] at even
    obtain ⟨high, first⟩ := isDigit_iff.mp digit_a
    obtain ⟨low, second⟩ := isDigit_iff.mp digit_b
    obtain ⟨bytes, spelled⟩ := exists_spells (by omega) digits
    exact ⟨_, .cons first second spelled⟩

theorem exists_spells_iff (n : Nat) : (∃ bs, Spells cs bs ∧ bs.length = n) ↔
    cs.length = 2 * n ∧ ∀ c ∈ cs, IsDigit c := by
  constructor
  · rintro ⟨bs, spelled, rfl⟩
    exact ⟨spelled.length, spelled.isDigit⟩
  · rintro ⟨length, digits⟩
    obtain ⟨bs, spelled⟩ := exists_spells (by omega) digits
    have := spelled.length
    exact ⟨bs, spelled, by omega⟩

theorem spells_upper (bs : Bytes) : Spells (bs.flatMap upperPair) bs := by
  induction bs with
  | nil => exact .nil
  | cons b bs ih =>
    have lt := b.toNat_lt
    have spelled := Spells.cons (digit_upperDigit (n := b.toNat / 16) (by omega))
      (digit_upperDigit (n := b.toNat % 16) (by omega)) ih
    rwa [Nat.div_add_mod, UInt8.ofNat_toNat] at spelled

theorem Spells.upper (spelled : Spells cs bs) : bs.flatMap upperPair = cs.map Char.toUpper := by
  induction spelled with
  | nil => rfl
  | @cons a b high low rest bytes first second _ ih =>
    have high_lt := first.lt
    have low_lt := second.lt
    have pair : upperPair (UInt8.ofNat (16 * high + low)) = [upperDigit high, upperDigit low] := by
      rw [upperPair, UInt8.toNat_ofNat_of_lt' (show _ < 256 by omega),
        show (16 * high + low) / 16 = high by omega, show (16 * high + low) % 16 = low by omega]
    rw [List.flatMap_cons, pair, ih, List.map_cons, List.map_cons, first.toUpper, second.toUpper]
    rfl

end MeterGateway.Hex
