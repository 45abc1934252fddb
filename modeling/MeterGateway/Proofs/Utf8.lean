import MeterGateway.Bytes.Utf8

namespace MeterGateway.Utf8

theorem piecesFrom_cons (state : State) (b : UInt8) (bs : Bytes) :
    piecesFrom state (b :: bs) = (feed state b).1 ++ piecesFrom (feed state b).2 bs := by
  cases state <;> rfl

theorem first_one {n : Nat} (ascii : n < 0x80) :
    first (UInt8.ofNat n) = ([some (Char.ofNat n)], .start) := by
  rw [first, UInt8.toNat_ofNat_of_lt' (show _ < 256 by omega)]
  exact if_pos ascii

theorem first_two {n : Nat} (two : 2 ≤ n) (short : n < 32) :
    first (UInt8.ofNat (0xC0 + n)) = ([], .within 1 n 0x80 0xBF) := by
  rw [first, UInt8.toNat_ofNat_of_lt' (show _ < 256 by omega)]
  simp only [if_neg (show ¬0xC0 + n < 0x80 by omega), if_neg (show ¬0xC0 + n < 0xC2 by omega),
    if_pos (show 0xC0 + n < 0xE0 by omega), Nat.add_sub_cancel_left]

theorem first_three {n : Nat} (short : n < 16) :
    first (UInt8.ofNat (0xE0 + n)) =
      ([], .within 2 n (if n = 0 then 0xA0 else 0x80) (if n = 13 then 0x9F else 0xBF)) := by
  have low : 0xE0 + n = 0xE0 ↔ n = 0 := by omega
  have high : 0xE0 + n = 0xED ↔ n = 13 := by omega
  rw [first, UInt8.toNat_ofNat_of_lt' (show _ < 256 by omega)]
  simp only [if_neg (show ¬0xE0 + n < 0x80 by omega), if_neg (show ¬0xE0 + n < 0xC2 by omega),
    if_neg (show ¬0xE0 + n < 0xE0 by omega), if_pos (show 0xE0 + n < 0xF0 by omega),
    Nat.add_sub_cancel_left, low, high]

theorem first_four {n : Nat} (short : n < 5) :
    first (UInt8.ofNat (0xF0 + n)) =
      ([], .within 3 n (if n = 0 then 0x90 else 0x80) (if n = 4 then 0x8F else 0xBF)) := by
  have low : 0xF0 + n = 0xF0 ↔ n = 0 := by omega
  have high : 0xF0 + n = 0xF4 ↔ n = 4 := by omega
  rw [first, UInt8.toNat_ofNat_of_lt' (show _ < 256 by omega)]
  simp only [if_neg (show ¬0xF0 + n < 0x80 by omega), if_neg (show ¬0xF0 + n < 0xC2 by omega),
    if_neg (show ¬0xF0 + n < 0xE0 by omega), if_neg (show ¬0xF0 + n < 0xF0 by omega),
    if_pos (show 0xF0 + n < 0xF5 by omega), Nat.add_sub_cancel_left, low, high]

theorem feed_within {owed value low high n : Nat} (six : n < 64) (above : low ≤ 0x80 + n)
    (below : 0x80 + n ≤ high) :
    feed (.within owed value low high) (UInt8.ofNat (0x80 + n)) =
      if owed ≤ 1 then ([some (Char.ofNat (64 * value + n))], .start)
      else ([], .within (owed - 1) (64 * value + n) 0x80 0xBF) := by
  rw [feed, UInt8.toNat_ofNat_of_lt' (show _ < 256 by omega), if_pos ⟨above, below⟩,
    Nat.add_sub_cancel_left]

/-- Six bits more of a character of which others are still owed. -/
theorem piecesFrom_within {owed value low high n : Nat} (six : n < 64) (above : low ≤ 0x80 + n)
    (below : 0x80 + n ≤ high) (bs : Bytes) :
    piecesFrom (.within (owed + 2) value low high) (UInt8.ofNat (0x80 + n) :: bs) =
      piecesFrom (.within (owed + 1) (64 * value + n) 0x80 0xBF) bs := by
  rw [piecesFrom_cons, feed_within six above below, if_neg (by omega)]
  rfl

theorem piecesFrom_last {value low high n : Nat} (six : n < 64) (above : low ≤ 0x80 + n)
    (below : 0x80 + n ≤ high) (bs : Bytes) :
    piecesFrom (.within 1 value low high) (UInt8.ofNat (0x80 + n) :: bs) =
      some (Char.ofNat (64 * value + n)) :: piecesFrom .start bs := by
  rw [piecesFrom_cons, feed_within six above below, if_pos (Nat.le_refl 1)]
  rfl

theorem piecesFrom_encodeChar (c : Char) (bs : Bytes) :
    piecesFrom .start (encodeChar c ++ bs) = some c :: piecesFrom .start bs := by
  have valid : c.toNat < 0xD800 ∨ 0xDFFF < c.toNat ∧ c.toNat < 0x110000 := c.valid
  have same : ∀ n, n = c.toNat → Char.ofNat n = c := by
    rintro n rfl
    exact Char.ofNat_toNat c
  unfold encodeChar
  generalize c.toNat = n at valid same
  by_cases one : n < 0x80
  · rw [if_pos one, List.singleton_append, piecesFrom_cons, feed, first_one one, same n rfl]
    rfl
  by_cases two : n < 0x800
  · rw [if_neg one, if_pos two, List.cons_append, List.singleton_append, piecesFrom_cons, feed,
      first_two (by omega) (by omega), List.nil_append,
      piecesFrom_last (by omega) (by omega) (by omega), same _ (by omega)]
  by_cases three : n < 0x10000
  -- no character of three bytes is one of two bytes spelled longer, nor a surrogate
  · have low : (if n / 4096 = 0 then 0xA0 else 0x80) ≤ 0x80 + n / 64 % 64 := by split <;> omega
    have high : 0x80 + n / 64 % 64 ≤ if n / 4096 = 13 then 0x9F else 0xBF := by split <;> omega
    rw [if_neg one, if_neg two, if_pos three, List.cons_append, List.cons_append,
      List.singleton_append, piecesFrom_cons, feed, first_three (by omega), List.nil_append,
      piecesFrom_within (by omega) low high, piecesFrom_last (by omega) (by omega) (by omega),
      same _ (by omega)]
  -- nor one of four bytes a shorter one, or past the last character
  · have low : (if n / 262144 = 0 then 0x90 else 0x80) ≤ 0x80 + n / 4096 % 64 := by
      split <;> omega
    have high : 0x80 + n / 4096 % 64 ≤ if n / 262144 = 4 then 0x8F else 0xBF := by split <;> omega
    rw [if_neg one, if_neg two, if_neg three, List.cons_append, List.cons_append,
      List.cons_append, List.singleton_append, piecesFrom_cons, feed, first_four (by omega),
      List.nil_append, piecesFrom_within (by omega) low high,
      piecesFrom_within (by omega) (by omega) (by omega),
      piecesFrom_last (by omega) (by omega) (by omega), same _ (by omega)]

theorem pieces_encode (cs : List Char) : pieces (encode cs) = cs.map some := by
  induction cs with
  | nil => rfl
  | cons c cs ih =>
    rw [pieces, encode, List.flatMap_cons, piecesFrom_encodeChar, List.map_cons]
    exact congrArg _ ih

theorem decodeLossy_encode (cs : List Char) : decodeLossy (encode cs) = cs := by
  rw [decodeLossy, pieces_encode, List.map_map]
  exact List.map_id cs

/-! ### Characters of one byte -/

section Ascii

variable {c : Char} {cs : List Char}

theorem encodeChar_of_ascii (ascii : c.toNat < 0x80) : encodeChar c = [UInt8.ofNat c.toNat] :=
  if_pos ascii

theorem exists_large_of_not_ascii (large : ¬c.toNat < 0x80) :
    ∃ b ∈ encodeChar c, ¬b.toNat < 0x80 := by
  have below : c.toNat < 0x110000 := by
    have := c.valid
    unfold UInt32.isValidChar Nat.isValidChar at this
    have : c.toNat = c.val.toNat := rfl
    omega
  unfold encodeChar
  rw [if_neg large]
  split
  · refine ⟨_, List.mem_cons_self, ?_⟩
    rw [UInt8.toNat_ofNat_of_lt' (show _ < 256 by omega)]
    omega
  · split
    · refine ⟨_, List.mem_cons_self, ?_⟩
      rw [UInt8.toNat_ofNat_of_lt' (show _ < 256 by omega)]
      omega
    · refine ⟨_, List.mem_cons_self, ?_⟩
      rw [UInt8.toNat_ofNat_of_lt' (show _ < 256 by omega)]
      omega

theorem ascii_of_encode (small : ∀ b ∈ encode cs, b.toNat < 0x80) :
    ∀ c ∈ cs, c.toNat < 0x80 := by
  intro c member
  refine Decidable.byContradiction fun large => ?_
  obtain ⟨b, found, above⟩ := exists_large_of_not_ascii large
  exact above (small b (List.mem_flatMap.mpr ⟨c, member, found⟩))

theorem length_encode_of_ascii (ascii : ∀ c ∈ cs, c.toNat < 0x80) :
    (encode cs).length = cs.length := by
  induction cs with
  | nil => rfl
  | cons c cs ih =>
    obtain ⟨first, rest⟩ := List.forall_mem_cons.mp ascii
    rw [encode, List.flatMap_cons, encodeChar_of_ascii first, List.singleton_append,
      List.length_cons, List.length_cons]
    exact congrArg (· + 1) (ih rest)

end Ascii

end MeterGateway.Utf8
