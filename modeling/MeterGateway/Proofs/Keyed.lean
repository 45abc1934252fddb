import Mathlib.Data.List.Nodup

namespace MeterGateway

variable {α β : Type} [DecidableEq β] {key : α → β} {l : List α}

theorem find?_key_iff (distinct : (l.map key).Nodup) {k : β} {a : α} :
    l.find? (key · = k) = some a ↔ a ∈ l ∧ key a = k := by
  constructor
  · intro found
    exact ⟨List.mem_of_find?_eq_some found, by simpa using List.find?_some found⟩
  · rintro ⟨mem, rfl⟩
    cases found : l.find? (key · = key a) with
    | none => exact absurd (decide_eq_true rfl) (List.find?_eq_none.mp found a mem)
    | some b =>
      have same : key b = key a := by simpa using List.find?_some found
      rw [List.inj_on_of_nodup_map distinct (List.mem_of_find?_eq_some found) mem same]

theorem find?_filter_key (l : List α) (k k' : β) :
    (l.filter (key · ≠ k)).find? (key · = k') = if k' = k then none else l.find? (key · = k') := by
  rw [List.find?_filter]
  split
  case isTrue same =>
    rw [List.find?_eq_none]
    simp [same]
  case isFalse other =>
    congr 1
    funext a
    by_cases mine : key a = k' <;> simp [mine, other]

omit [DecidableEq β] in
theorem mem_map_filter_iff (distinct : (l.map key).Nodup) (p : α → Bool) {a : α} (mem : a ∈ l) :
    key a ∈ (l.filter p).map key ↔ p a = true := by
  constructor
  · intro kept
    obtain ⟨b, left, same⟩ := List.mem_map.mp kept
    obtain ⟨there, holds⟩ := List.mem_filter.mp left
    rw [← List.inj_on_of_nodup_map distinct there mem same]
    exact holds
  · intro holds
    exact List.mem_map_of_mem (List.mem_filter.mpr ⟨mem, holds⟩)

theorem lookup_cons_eq (entry : β × α) (l : List (β × α)) (k : β) :
    (entry :: l).lookup k = if k = entry.1 then some entry.2 else l.lookup k := by
  rw [List.lookup_cons]
  by_cases same : k = entry.1
  · simp [same]
  · simp [same, beq_false_of_ne same]

theorem lookup_filter_of_ne (l : List (β × α)) {k k' : β} (other : k' ≠ k) :
    (l.filter (·.1 ≠ k)).lookup k' = l.lookup k' := by
  induction l with
  | nil => rfl
  | cons entry l ih =>
    by_cases gone : entry.1 = k
    · have passed : k' ≠ entry.1 := fun same => other (same.trans gone)
      rw [List.filter_cons_of_neg (by simpa using gone), lookup_cons_eq, if_neg passed, ih]
    · rw [List.filter_cons_of_pos (by simpa using gone), lookup_cons_eq, lookup_cons_eq, ih]

theorem lookup_iff_mem {l : List (β × α)} (distinct : (l.map Prod.fst).Nodup) {k : β} {a : α} :
    l.lookup k = some a ↔ (k, a) ∈ l := by
  induction l with
  | nil => simp
  | cons entry l ih =>
    obtain ⟨absent, rest⟩ := List.nodup_cons.mp distinct
    rw [lookup_cons_eq, List.mem_cons, Prod.ext_iff]
    by_cases same : k = entry.1
    · subst same
      have other : (entry.1, a) ∉ l := fun mem => absent (List.mem_map.mpr ⟨_, mem, rfl⟩)
      simp [other, eq_comm]
    · simp [same, ih rest]

end MeterGateway
