import MeterGateway.Proofs.Framer.Chunks

/-!
What a stream holds.  The parse of a stream goes over it once from left to right, by positions in the
whole stream and without a buffer; reading the stream in pieces delivers the same frames and keeps
the same rest.
-/

namespace MeterGateway

/-- What is done at a position of a stream: the rest from somewhere on is kept for want of bytes,
bytes are passed over, or a frame is delivered and the parse goes on at its end. -/
inductive Move
  | keep : (start : Nat) → Move
  | pass : (next : Nat) → Move
  | deliver : (start stop : Nat) → Move

namespace Meter

def nextHead (s : Bytes) (p : Nat) : Nat := p + (s.drop p).findIdx (· = 0x68)

def moveAt (s : Bytes) (p : Nat) : Move :=
  let q := nextHead s p
  match s[q + 10]? with
  | none => .keep q
  | some length =>
    let total := 13 + length.toNat
    match s[q + total - 1]? with
    | none => .keep q
    | some last => if last = 0x16 then .deliver q (q + total) else .pass (q + 1)

end Meter

namespace Modbus

def moveAt (s : Bytes) (p : Nat) : Move :=
  match s[p + 1]? with
  | none => .keep p
  | some code =>
    if code.toNat.testBit 7 then upTo (p + 5)
    else if 1 ≤ code.toNat ∧ code.toNat ≤ 4 then
      match s[p + 2]? with
      | none => .keep p
      | some count => upTo (p + (5 + count.toNat))
    else if code.toNat ∈ [5, 6, 15, 16] then upTo (p + 8)
    else .pass (p + 1)
where
  upTo (stop : Nat) : Move := if stop ≤ s.length then .deliver p stop else .keep p

end Modbus

def Scan.move (p : Nat) : Scan → Move
  | .incomplete => .keep p
  | .discard n => .pass (p + n)
  | .frame n => .deliver p (p + n)

namespace Modbus

theorem forall_byte {P : UInt8 → Prop} (h : ∀ n : Fin 256, P (UInt8.ofNat n.val)) (b : UInt8) : P b := by
  have := h ⟨b.toNat, b.toNat_lt⟩
  rwa [UInt8.ofNat_toNat] at this

theorem isException_iff (code : UInt8) :
    code &&& exceptionFlag ≠ 0 ↔ code.toNat.testBit 7 = true := by
  revert code
  apply forall_byte
  decide +kernel

theorem isReadCode_iff (code : UInt8) :
    isReadCode code = true ↔ 1 ≤ code.toNat ∧ code.toNat ≤ 4 := by
  revert code
  apply forall_byte
  decide +kernel

theorem isWriteCode_iff (code : UInt8) :
    isWriteCode code = true ↔ code.toNat ∈ [5, 6, 15, 16] := by
  revert code
  apply forall_byte
  decide +kernel

theorem moveAt_eq (s : Bytes) (p : Nat) : moveAt s p = (scan (s.drop p)).move p := by
  have second : s[p + 1]? = (s.drop p)[1]? := by simp
  have third : s[p + 2]? = (s.drop p)[2]? := by simp
  have length : (s.drop p).length = s.length - p := List.length_drop
  match front : s.drop p with
  | [] => simp [moveAt, scan, Scan.move, second, front]
  | [_] => simp [moveAt, scan, Scan.move, second, front]
  | unit :: code :: rest =>
    rw [front] at second third length
    simp only [List.length_cons] at length
    have upTo_eq : ∀ total, moveAt.upTo s p (p + total) =
        (if (unit :: code :: rest).length < total then Scan.incomplete else .frame total).move p := by
      intro total
      simp only [moveAt.upTo, List.length_cons]
      by_cases enough : p + total ≤ s.length
      · rw [if_pos enough, if_neg (by omega)]
        rfl
      · rw [if_neg enough, if_pos (by omega)]
        rfl
    simp only [moveAt, second, third, scan, announcedLength, isException_iff, ← isReadCode_iff,
      ← isWriteCode_iff, List.getElem?_cons_succ, List.getElem?_cons_zero]
    split
    · exact upTo_eq 5
    · split
      · cases rest with
        | nil => rfl
        | cons count rest => exact upTo_eq _
      · split
        · exact upTo_eq 8
        · rfl

end Modbus

namespace Meter

theorem noise_drop (bytes : Bytes) : noise (bytes.drop (noise bytes).length) = [] := by
  induction bytes with
  | nil => rfl
  | cons b bytes ih =>
    by_cases head : b = Frame.head
    · simp [noise, head]
    · have : noise (b :: bytes) = b :: noise bytes := by simp [noise, head]
      rw [this]
      exact ih

theorem nextHead_eq (s : Bytes) (p : Nat) : nextHead s p = p + (noise (s.drop p)).length := by
  have noisy : noise (s.drop p) = (s.drop p).take ((s.drop p).findIdx (· = 0x68)) := by
    rw [noise, List.takeWhile_eq_take_findIdx_not]
    congr 2
    funext b
    by_cases head : b = 0x68 <;> simp [Frame.head, head]
  rw [nextHead, noisy, List.length_take, Nat.min_eq_left List.findIdx_le_length]

theorem moveAt_noise (s : Bytes) (p : Nat) :
    moveAt s p = moveAt s (p + (noise (s.drop p)).length) := by
  have same : nextHead s (p + (noise (s.drop p)).length) = nextHead s p := by
    rw [nextHead_eq, nextHead_eq s p, ← List.drop_drop, noise_drop]
    rfl
  simp only [moveAt, same]

theorem moveAt_eq_of_head {s : Bytes} {p : Nat} (h : noise (s.drop p) = []) :
    moveAt s p = (scan (s.drop p)).move p := by
  have here : nextHead s p = p := by rw [nextHead_eq, h, List.length_nil, Nat.add_zero]
  have length : s[p + 10]? = (s.drop p)[10]? := List.getElem?_drop.symm
  have last : ∀ n : Nat, s[p + (13 + n) - 1]? = (s.drop p)[13 + n - 1]? := by
    intro n
    rw [List.getElem?_drop, Nat.add_sub_assoc (by omega)]
  rw [scan_of_head h]
  simp only [moveAt, here, length, last, announcedLength?, Frame.leastLength, Frame.headerLength]
  cases (s.drop p)[10]? with
  | none => rfl
  | some n =>
    simp only [Option.map_some]
    cases (s.drop p)[13 + n.toNat - 1]? with
    | none => rfl
    | some b => exact (apply_ite (Scan.move p) (b = 0x16) (.frame (13 + n.toNat)) (.discard 1)).symm

end Meter

def Move.Advances (m : Move) (p length : Nat) : Prop :=
  match m with
  | .keep _ => True
  | .pass next => p < next ∧ next ≤ length
  | .deliver _ stop => p < stop ∧ stop ≤ length

theorem Move.Advances.of_le {m : Move} {p q length : Nat} (h : m.Advances q length) (le : p ≤ q) :
    m.Advances p length := by
  cases m with
  | keep => trivial
  | pass | deliver => exact ⟨Nat.lt_of_le_of_lt le h.1, h.2⟩

theorem Scan.move_advances {s : Bytes} {p : Nat} {verdict : Scan}
    (fits : verdict.Fits (s.drop p).length) : (verdict.move p).Advances p s.length := by
  rw [List.length_drop] at fits
  cases verdict with
  | incomplete => trivial
  | discard n | frame n =>
    simp only [Scan.Fits] at fits
    simp only [Scan.move, Move.Advances]
    omega

namespace FrameMethod

def moveAt : FrameMethod → Bytes → Nat → Move
  | .meter => Meter.moveAt
  | .rtu => Modbus.moveAt

theorem moveAt_advances (method : FrameMethod) (s : Bytes) (p : Nat) :
    (method.moveAt s p).Advances p s.length := by
  cases method with
  | rtu =>
    rw [moveAt, Modbus.moveAt_eq]
    exact Scan.move_advances (Modbus.scan_fits _)
  | meter =>
    rw [moveAt, Meter.moveAt_noise, Meter.moveAt_eq_of_head]
    · exact (Scan.move_advances (Meter.scan_fits _)).of_le (Nat.le_add_right _ _)
    · rw [← List.drop_drop, Meter.noise_drop]

/-- The frames of a stream from a position on, and the rest in which nothing is complete. -/
def greedy (method : FrameMethod) (s : Bytes) (p : Nat) : List Bytes × Bytes :=
  match _h : method.moveAt s p with
  | .keep start => ([], s.drop start)
  | .pass next => greedy method s next
  | .deliver start stop =>
    let (frames, rest) := greedy method s stop
    ((s.drop start).take (stop - start) :: frames, rest)
termination_by s.length - p
decreasing_by
  all_goals
    have := method.moveAt_advances s p
    rw [_h] at this
    simp only [Move.Advances] at this
    omega

variable {method : FrameMethod} {s : Bytes} {p : Nat}

theorem greedy_eq (method : FrameMethod) (s : Bytes) (p : Nat) :
    method.greedy s p =
      match method.moveAt s p with
      | .keep start => ([], s.drop start)
      | .pass next => method.greedy s next
      | .deliver start stop =>
        ((s.drop start).take (stop - start) :: (method.greedy s stop).1, (method.greedy s stop).2) := by
  rw [greedy.eq_def]
  split <;> rename_i move <;> rw [move]

theorem greedy_noise (s : Bytes) (p : Nat) :
    meter.greedy s p = meter.greedy s (p + (Meter.noise (s.drop p)).length) := by
  rw [greedy_eq, greedy_eq meter s (p + _)]
  simp only [moveAt, ← Meter.moveAt_noise]

theorem moveAt_eq (quiet : method = .meter → Meter.noise (s.drop p) = []) :
    method.moveAt s p = (method.scan (s.drop p)).move p := by
  cases method with
  | meter => exact Meter.moveAt_eq_of_head (quiet rfl)
  | rtu => exact Modbus.moveAt_eq s p

theorem quiet_of_scan {bytes : Bytes} (h : ∀ n, method.scan bytes ≠ .discard n) :
    method = .meter → Meter.noise bytes = [] := by
  rintro rfl
  exact Meter.noise_of_scan h

theorem greedy_incomplete (h : method.scan (s.drop p) = .incomplete) :
    method.greedy s p = ([], s.drop p) := by
  rw [greedy_eq, moveAt_eq (quiet_of_scan (by simp [h])), h]
  rfl

theorem greedy_discard {n : Nat} (h : method.scan (s.drop p) = .discard n) :
    method.greedy s p = method.greedy s (p + n) := by
  by_cases quiet : method = .meter → Meter.noise (s.drop p) = []
  · rw [greedy_eq, moveAt_eq quiet, h]
    rfl
  · obtain ⟨rfl, noisy⟩ := Classical.not_imp.mp quiet
    rw [scan, Meter.scan_of_noise noisy] at h
    cases h
    exact greedy_noise s p

theorem greedy_frame {n : Nat} (h : method.scan (s.drop p) = .frame n) :
    method.greedy s p =
      ((s.drop p).take n :: (method.greedy s (p + n)).1, (method.greedy s (p + n)).2) := by
  rw [greedy_eq, moveAt_eq (quiet_of_scan (by simp [h])), h]
  simp only [Scan.move, Nat.add_sub_cancel_left]

end FrameMethod

namespace Framer

theorem drain_eq_greedy (method : FrameMethod) (s : Bytes) (p : Nat) :
    (reading method (s.drop p)).drain =
      ((method.greedy s p).1.map .frame, reading method (method.greedy s p).2) := by
  generalize left : s.drop p = bytes
  induction bytes using method.scan_induction generalizing p with
  | incomplete bytes said =>
    subst left
    rw [drain_incomplete said, FrameMethod.greedy_incomplete said]
    rfl
  | discard bytes n said _ ih =>
    subst left
    rw [drain_discard said, FrameMethod.greedy_discard said]
    exact ih (p + n) List.drop_drop.symm
  | frame bytes n said _ ih =>
    subst left
    rw [drain_frame said, FrameMethod.greedy_frame said, ih (p + n) List.drop_drop.symm]
    rfl

theorem drain_again {method : FrameMethod} {bytes rest : Bytes} {items : List Inbound}
    (h : (reading method bytes).drain = (items, reading method rest)) :
    (reading method rest).drain = ([], reading method rest) := by
  have again := drain_append method bytes []
  have same : (reading method rest).push [] = reading method rest := by
    rw [push, reading, List.append_nil]
  rw [List.append_nil, h, same, Prod.mk.injEq] at again
  exact Prod.ext (List.self_eq_append_right.mp again.1) again.2.symm

theorem feed_eq_drain {method : FrameMethod} {bytes : Bytes}
    (waiting : (reading method bytes).drain = ([], reading method bytes)) (chunks : List Bytes) :
    (reading method bytes).feed chunks = (reading method (bytes ++ chunks.flatten)).drain := by
  induction chunks generalizing bytes with
  | nil => rw [List.flatten_nil, List.append_nil, waiting, feed]
  | cons chunk chunks ih =>
    have drained := drain_eq_greedy method (bytes ++ chunk) 0
    rw [List.drop_zero] at drained
    rw [List.flatten_cons, ← List.append_assoc, drain_append, drained, feed,
      show (reading method bytes).push chunk = reading method (bytes ++ chunk) from rfl, drained]
    simp only [ih (drain_again drained)]
    rfl

theorem feed_eq_greedy (method : FrameMethod) (chunks : List Bytes) :
    (authenticate { method }).feed chunks =
      ((method.greedy chunks.flatten 0).1.map .frame,
        { method, authenticated := true, buffer := (method.greedy chunks.flatten 0).2 }) := by
  have empty : method.scan [] = .incomplete := by cases method <;> rfl
  have all := drain_eq_greedy method chunks.flatten 0
  rw [List.drop_zero] at all
  exact (feed_eq_drain (drain_incomplete empty) chunks).trans all

end Framer

end MeterGateway
