namespace MeterGateway.Except

variable {ε α β : Type} {b : β}

theorem exists_of_bind_eq_ok {x : Except ε α} {f : α → Except ε β} (done : x >>= f = .ok b) :
    ∃ a, x = .ok a ∧ f a = .ok b := by
  cases x with
  | error e => cases done
  | ok a => exact ⟨a, rfl, done⟩

theorem exists_of_map_eq_ok {x : Except ε α} {f : α → β} (done : x.map f = .ok b) :
    ∃ a, x = .ok a ∧ f a = b := by
  cases x with
  | error e => cases done
  | ok a => exact ⟨a, rfl, Except.ok.inj done⟩

theorem length_of_mapM_eq_ok {f : α → Except ε β} {as : List α} {bs : List β}
    (done : as.mapM f = .ok bs) : bs.length = as.length := by
  induction as generalizing bs with
  | nil =>
    cases done
    rfl
  | cons a as ih =>
    rw [List.mapM_cons] at done
    obtain ⟨b, -, done⟩ := exists_of_bind_eq_ok done
    obtain ⟨rest, all, done⟩ := exists_of_bind_eq_ok done
    cases done
    rw [List.length_cons, List.length_cons, ih all]

end MeterGateway.Except
