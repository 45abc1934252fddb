import MeterGateway.Json

namespace MeterGateway

def Binary64.plain (x : Binary64) : Binary64 := if x.isZero then ⟨0⟩ else x

theorem Binary64.plain_eq_iff (x y : Binary64) :
    x.plain = y.plain ↔ x = y ∨ x.isZero = true ∧ y.isZero = true := by
  have zero : (⟨0⟩ : Binary64).isZero = true := rfl
  grind [plain]

def Number.plain : Number → Number
  | .int i => .int i
  | .float x => .float x.plain

theorem Number.same_iff (m n : Number) : m.same n = true ↔ m.plain = n.plain := by
  cases m <;> cases n <;> simp [same, plain, Binary64.plain_eq_iff]

namespace Json

mutual

def plain : Json → Json
  | .num n => .num n.plain
  | .arr items => .arr (plainItems items)
  | .obj members => .obj (plainMembers members)
  | j => j

def plainItems : List Json → List Json
  | [] => []
  | j :: rest => j.plain :: plainItems rest

def plainMembers : List (String × Json) → List (String × Json)
  | [] => []
  | (k, v) :: rest => (k, v.plain) :: plainMembers rest

end

mutual

theorem same_iff (x y : Json) : x.same y = true ↔ x.plain = y.plain := by
  cases x with
  | num m =>
    cases y with
    | num n => simp [same, plain, Number.same_iff]
    | _ => simp [same, plain]
  | arr xs =>
    cases y with
    | arr ys => simp [same, plain, sameItems_iff xs ys]
    | _ => simp [same, plain]
  | obj xs =>
    cases y with
    | obj ys => simp [same, plain, sameMembers_iff xs ys]
    | _ => simp [same, plain]
  | _ => cases y <;> simp [same, plain]

theorem sameItems_iff (xs ys : List Json) :
    sameItems xs ys = true ↔ plainItems xs = plainItems ys := by
  cases xs with
  | nil => cases ys <;> simp [sameItems, plainItems]
  | cons x xs =>
    cases ys with
    | nil => simp [sameItems, plainItems]
    | cons y ys => simp [sameItems, plainItems, same_iff x y, sameItems_iff xs ys]

theorem sameMembers_iff (xs ys : List (String × Json)) :
    sameMembers xs ys = true ↔ plainMembers xs = plainMembers ys := by
  cases xs with
  | nil => cases ys <;> simp [sameMembers, plainMembers]
  | cons x xs =>
    obtain ⟨k, x⟩ := x
    cases ys with
    | nil => simp [sameMembers, plainMembers]
    | cons y ys =>
      obtain ⟨l, y⟩ := y
      simp [sameMembers, plainMembers, same_iff x y, sameMembers_iff xs ys, and_assoc]

end

theorem same_congr {x y : Json} (alike : x.plain = y.plain) (z : Json) : x.same z = y.same z := by
  rw [Bool.eq_iff_iff, same_iff, same_iff, alike]

end Json

end MeterGateway
