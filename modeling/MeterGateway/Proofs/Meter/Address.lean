import MeterGateway.Meter.Address
import MeterGateway.Proofs.Hex
import Mathlib.Data.List.TakeWhile

/-!
Which texts are the address of a meter.  What is left of a text between its blanks is one list of
characters, and it is read as bytes exactly when it is digits of which there is an even number.
-/

namespace MeterGateway.Text

structure Trimmed (cs core : List Char) : Prop where
  between : ∃ front back, cs = front ++ core ++ back ∧
    (∀ c ∈ front, isBlank c = true) ∧ ∀ c ∈ back, isBlank c = true
  first : ∀ c, core.head? = some c → isBlank c = false
  last : ∀ c, core.getLast? = some c → isBlank c = false

variable {cs core : List Char}

theorem not_blank_head (cs : List Char) {c : Char}
    (head : (cs.dropWhile isBlank).head? = some c) : isBlank c = false := by
  have := List.head?_dropWhile_not isBlank cs
  rw [head] at this
  exact this

theorem trimmed_trim (cs : List Char) : Trimmed cs (trim cs) := by
  let rest := cs.dropWhile isBlank
  have cut : trim cs ++ (rest.reverse.takeWhile isBlank).reverse = rest := by
    rw [trim, ← List.reverse_append, List.takeWhile_append_dropWhile, List.reverse_reverse]
  constructor
  · refine ⟨cs.takeWhile isBlank, (rest.reverse.takeWhile isBlank).reverse, ?_, ?_, ?_⟩
    · rw [List.append_assoc, cut, List.takeWhile_append_dropWhile]
    · exact fun c member => List.mem_takeWhile_imp member
    · exact fun c member => List.mem_takeWhile_imp (List.mem_reverse.mp member)
  · intro c head
    refine not_blank_head cs ?_
    change rest.head? = some c
    rw [← cut, List.head?_append, head, Option.some_or]
  · intro c last
    rw [trim, List.getLast?_reverse] at last
    exact not_blank_head _ last

theorem dropWhile_blanks {front rest : List Char} (blank : ∀ c ∈ front, isBlank c = true)
    (first : ∀ c, rest.head? = some c → isBlank c = false) :
    (front ++ rest).dropWhile isBlank = rest := by
  rw [List.dropWhile_append_of_pos blank]
  cases rest with
  | nil => rfl
  | cons c rest => rw [List.dropWhile_cons_of_neg (by simp [first c rfl])]

theorem Trimmed.eq_trim (trimmed : Trimmed cs core) : core = trim cs := by
  obtain ⟨⟨front, back, rfl, blank_front, blank_back⟩, first, last⟩ := trimmed
  -- with nothing between the blanks those at the back are dropped from the front already
  rcases eq_or_ne core [] with rfl | inhabited
  · have blank : ∀ c ∈ front ++ [] ++ back, isBlank c = true := by
      simpa [or_imp, forall_and] using ⟨blank_front, blank_back⟩
    rw [trim, List.dropWhile_eq_nil_iff.mpr blank]
    rfl
  · have first_of_rest : ∀ c, (core ++ back).head? = some c → isBlank c = false := by
      intro c head
      rw [List.head?_append_of_ne_nil _ inhabited] at head
      exact first c head
    have last_of_core : ∀ c, core.reverse.head? = some c → isBlank c = false := by
      intro c head
      rw [List.head?_reverse] at head
      exact last c head
    have blank_reverse : ∀ c ∈ back.reverse, isBlank c = true :=
      fun c member => blank_back c (List.mem_reverse.mp member)
    rw [trim, List.append_assoc, dropWhile_blanks blank_front first_of_rest, List.reverse_append,
      dropWhile_blanks blank_reverse last_of_core, List.reverse_reverse]

theorem trimmed_iff : Trimmed cs core ↔ core = trim cs := by
  constructor
  · exact Trimmed.eq_trim
  · rintro rfl
    exact trimmed_trim cs

theorem trim_eq_self (plain : ∀ c ∈ cs, isBlank c = false) : trim cs = cs := by
  refine (Trimmed.eq_trim ⟨⟨[], [], by simp, by simp, by simp⟩, ?_, ?_⟩).symm
  · exact fun c head => plain c (List.mem_of_head? head)
  · exact fun c last => plain c (List.mem_of_getLast? last)

end MeterGateway.Text

namespace MeterGateway.Meter.Address

open Text Hex

variable {text : String} {core : List Char} {a : Address}

theorem not_blank_of_isDigit {c : Char} (digit : IsDigit c) : isBlank c = false := by
  obtain ⟨n, digit⟩ := isDigit_iff.mp digit
  have code := digit_iff_toNat.mp digit
  simp only [isBlank, Bool.or_eq_false_iff, Bool.and_eq_false_iff, decide_eq_false_iff_not]
  omega

theorem ofBytes_eq_ok_iff {bytes : Bytes} : ofBytes bytes = .ok a ↔ bytes = a.bytes := by
  unfold ofBytes
  split
  · rename_i length
    rw [Except.ok.injEq]
    constructor
    · rintro rfl
      rfl
    · rintro rfl
      rfl
  · rename_i length
    simp only [reduceCtorEq, false_iff]
    rintro rfl
    exact length a.length_eq

theorem ofBytes_eq_error_iff {bytes : Bytes} {e : CodecError} : ofBytes bytes = .error e ↔
    bytes.length ≠ addressLength ∧ e = .addressLength bytes.length := by
  unfold ofBytes
  split
  · rename_i length
    simp [length]
  · rename_i length
    simp [length, eq_comm]

section Trimmed

variable (trimmed : Trimmed text.toList core)
include trimmed

theorem parse_of_spells {bytes : Bytes} (spelled : Spells core bytes) :
    parse text = ofBytes bytes := by
  rw [parse, ← trimmed.eq_trim, decode_encode_iff.mpr spelled]

theorem parse_of_not_spells (other : ∀ bytes, ¬Spells core bytes) :
    ∃ fault, parse text = .error (.invalidValue fault) := by
  rw [parse, ← trimmed.eq_trim]
  cases decoded : decode (Utf8.encode core) with
  | error fault => exact ⟨.hex fault, rfl⟩
  | ok bytes => exact absurd (decode_encode_iff.mp decoded) (other bytes)

theorem parse_eq_ok_iff : parse text = .ok a ↔ Spells core a.bytes := by
  constructor
  · intro parsed
    by_cases spells : ∃ bytes, Spells core bytes
    · obtain ⟨bytes, spelled⟩ := spells
      rw [parse_of_spells trimmed spelled, ofBytes_eq_ok_iff] at parsed
      rwa [← parsed]
    · obtain ⟨fault, refused⟩ := parse_of_not_spells trimmed (not_exists.mp spells)
      rw [refused] at parsed
      cases parsed
  · intro spelled
    rw [parse_of_spells trimmed spelled, ofBytes_eq_ok_iff]

theorem parse_eq_addressLength_iff {n : Nat} : parse text = .error (.addressLength n) ↔
    n ≠ addressLength ∧ ∃ bytes, Spells core bytes ∧ bytes.length = n := by
  constructor
  · intro parsed
    by_cases spells : ∃ bytes, Spells core bytes
    · obtain ⟨bytes, spelled⟩ := spells
      rw [parse_of_spells trimmed spelled, ofBytes_eq_error_iff] at parsed
      obtain ⟨length, same⟩ := parsed
      cases same
      exact ⟨length, bytes, spelled, rfl⟩
    · obtain ⟨fault, refused⟩ := parse_of_not_spells trimmed (not_exists.mp spells)
      rw [refused] at parsed
      cases parsed
  · rintro ⟨length, bytes, spelled, rfl⟩
    rw [parse_of_spells trimmed spelled, ofBytes_eq_error_iff]
    exact ⟨length, rfl⟩

theorem parse_eq_invalidValue_iff :
    (∃ fault, parse text = .error (.invalidValue fault)) ↔ ∀ bytes, ¬Spells core bytes := by
  constructor
  · rintro ⟨fault, parsed⟩ bytes spelled
    rw [parse_of_spells trimmed spelled, ofBytes_eq_error_iff] at parsed
    cases parsed.2
  · exact parse_of_not_spells trimmed

end Trimmed

theorem parse_format (a : Address) : parse a.format = .ok a := by
  have spelled := spells_upper a.bytes
  have plain : ∀ c ∈ a.bytes.flatMap upperPair, isBlank c = false :=
    fun c member => not_blank_of_isDigit (spelled.isDigit c member)
  have trimmed : Trimmed a.format.toList (a.bytes.flatMap upperPair) := by
    rw [format, upper, String.toList_ofList, trimmed_iff, trim_eq_self plain]
  exact (parse_eq_ok_iff trimmed).mpr spelled

theorem parse_reads_spelling :
    (∀ text : String, ∃! core, Trimmed text.toList core) ∧
    (∀ (text : String) (core : List Char), Trimmed text.toList core →
      (∀ a, parse text = .ok a ↔ Spells core a.bytes) ∧
      ((∃ a, parse text = .ok a) ↔ core.length = 14 ∧ ∀ c ∈ core, IsDigit c) ∧
      (∀ n, parse text = .error (.addressLength n) ↔
        n ≠ 7 ∧ core.length = 2 * n ∧ ∀ c ∈ core, IsDigit c) ∧
      ((∃ fault, parse text = .error (.invalidValue fault)) ↔
        ¬∃ n, core.length = 2 * n ∧ ∀ c ∈ core, IsDigit c) ∧
      ∀ a, parse text = .ok a → a.format = String.ofList (core.map Char.toUpper)) ∧
    ∀ a, parse a.format = .ok a := by
  refine ⟨?_, ?_, parse_format⟩
  · intro text
    exact ⟨_, trimmed_trim _, fun other trimmed => trimmed.eq_trim⟩
  · intro text core trimmed
    refine ⟨fun a => parse_eq_ok_iff trimmed, ?_, ?_, ?_, ?_⟩
    · simp only [parse_eq_ok_iff trimmed]
      rw [← exists_spells_iff 7]
      constructor
      · rintro ⟨a, spelled⟩
        exact ⟨a.bytes, spelled, a.length_eq⟩
      · rintro ⟨bytes, spelled, length⟩
        exact ⟨⟨bytes, length⟩, spelled⟩
    · intro n
      rw [parse_eq_addressLength_iff trimmed, exists_spells_iff n]
      rfl
    · rw [parse_eq_invalidValue_iff trimmed]
      simp only [← exists_spells_iff, not_exists, not_and]
      constructor
      · intro other n bytes spelled
        exact absurd spelled (other bytes)
      · intro other bytes spelled
        exact other _ bytes spelled rfl
    · intro a parsed
      rw [format, upper, ((parse_eq_ok_iff trimmed).mp parsed).upper]

theorem parse_reads_spelling_padded :
    let a : Address := { bytes := [0x11, 0x22, 0x33, 0x44, 0x55, 0x66, 0x7F] }
    Trimmed " 1122334455667f\n".toList "1122334455667f".toList ∧
      parse " 1122334455667f\n" = .ok a ∧ Spells "1122334455667f".toList a.bytes ∧
      a.format = "1122334455667F" ∧ parse a.format = .ok a := by
  intro a
  have trimmed : Trimmed " 1122334455667f\n".toList "1122334455667f".toList := trimmed_iff.mpr rfl
  obtain ⟨-, reads, formatted⟩ := parse_reads_spelling
  obtain ⟨spelled, -, -, -, upper⟩ := reads _ _ trimmed
  have parsed : parse " 1122334455667f\n" = .ok a := rfl
  exact ⟨trimmed, parsed, (spelled a).mp parsed, upper a parsed, formatted a⟩

end MeterGateway.Meter.Address
