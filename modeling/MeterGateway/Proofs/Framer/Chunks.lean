import Mathlib.Data.List.TakeWhile
import MeterGateway.Framer

/-!
Streams in pieces.  More bytes never change what a scanner has said about the ones before them, so
what is delivered and what stays in the buffer is the same however a stream is cut.
-/

namespace MeterGateway

theorem getElem?_append_of_eq_some {α : Type} {xs : List α} {i : Nat} {x : α} (h : xs[i]? = some x)
    (ys : List α) : (xs ++ ys)[i]? = some x := by
  rw [List.getElem?_append_left (List.getElem?_eq_some_iff.mp h).1, h]

namespace Meter

def noise (bytes : Bytes) : Bytes := bytes.takeWhile (· ≠ Frame.head)

theorem scan_of_noise {bytes : Bytes} (h : noise bytes ≠ []) :
    scan bytes = .discard (noise bytes).length := by
  rw [scan]
  exact if_pos h

theorem noise_of_scan {bytes : Bytes} (h : ∀ n, scan bytes ≠ .discard n) : noise bytes = [] := by
  by_contra noisy
  exact h _ (scan_of_noise noisy)

theorem scan_of_head {bytes : Bytes} (h : noise bytes = []) :
    scan bytes =
      match announcedLength? bytes with
      | none => .incomplete
      | some total =>
        match bytes[total - 1]? with
        | none => .incomplete
        | some last => if last = Frame.tail then .frame total else .discard 1 := by
  rw [scan]
  exact if_neg (not_not.mpr h)

theorem noise_append_of_head {bytes : Bytes} (h : noise bytes = []) (some : bytes ≠ [])
    (more : Bytes) : noise (bytes ++ more) = [] := by
  cases bytes with
  | nil => exact absurd rfl some
  | cons b bytes =>
    simp only [noise, List.takeWhile_cons] at h
    split at h
    · cases h
    · rename_i head
      rw [noise, List.cons_append, List.takeWhile_cons, if_neg head]

theorem noise_append_of_noise {bytes : Bytes} (h : (noise bytes).length = bytes.length)
    (more : Bytes) : noise (bytes ++ more) = bytes ++ noise more := by
  rw [noise, List.takeWhile_append]
  exact if_pos h

theorem noise_append_of_ne {bytes : Bytes} (h : (noise bytes).length ≠ bytes.length)
    (more : Bytes) : noise (bytes ++ more) = noise bytes := by
  rw [noise, List.takeWhile_append]
  exact if_neg h

theorem scan_append_of_head {bytes : Bytes} (h : noise bytes = []) (known : scan bytes ≠ .incomplete)
    (more : Bytes) : scan (bytes ++ more) = scan bytes := by
  have some : bytes ≠ [] := by
    rintro rfl
    exact known rfl
  rw [scan_of_head h] at known ⊢
  rw [scan_of_head (noise_append_of_head h some more)]
  cases length : bytes[10]? with
  | none => simp [announcedLength?, length] at known
  | some length' =>
    have announced : announcedLength? bytes = .some (Frame.leastLength + length'.toNat) := by
      simp [announcedLength?, length]
    have announced' : announcedLength? (bytes ++ more) = .some (Frame.leastLength + length'.toNat) := by
      simp [announcedLength?, getElem?_append_of_eq_some length]
    simp only [announced, announced'] at known ⊢
    cases last : bytes[Frame.leastLength + length'.toNat - 1]? with
    | none => simp [last] at known
    | some last' => rw [getElem?_append_of_eq_some last]

theorem length_lt_of_incomplete {bytes : Bytes} (h : scan bytes = .incomplete) :
    bytes.length < 268 := by
  have head : noise bytes = [] := noise_of_scan (by simp [h])
  rw [scan_of_head head] at h
  cases length : bytes[10]? with
  | none =>
    have := List.getElem?_eq_none_iff.mp length
    omega
  | some length' =>
    have bound := length'.toNat_lt
    simp only [announcedLength?, length, Option.map_some] at h
    cases last : bytes[Frame.leastLength + length'.toNat - 1]? with
    | none =>
      have := List.getElem?_eq_none_iff.mp last
      simp only [Frame.leastLength, Frame.headerLength] at this
      omega
    | some last' =>
      simp only [last] at h
      split at h <;> cases h

end Meter

namespace Modbus

theorem announcedLength_append {code : UInt8} {rest : Bytes}
    (known : announcedLength code rest ≠ .unknown) (more : Bytes) :
    announcedLength code (rest ++ more) = announcedLength code rest := by
  cases rest with
  | nil =>
    simp only [announcedLength] at known ⊢
    split
    · rfl
    · split
      · simp_all
      · rfl
  | cons count rest => rfl

theorem scan_append {bytes : Bytes} (known : scan bytes ≠ .incomplete) (more : Bytes) :
    scan (bytes ++ more) = scan bytes := by
  match bytes with
  | [] => exact absurd rfl known
  | [_] => exact absurd rfl known
  | unit :: code :: rest =>
    simp only [scan, List.cons_append] at known ⊢
    have told : announcedLength code rest ≠ .unknown := by
      intro unknown
      simp [unknown] at known
    rw [announcedLength_append told]
    cases extent : announcedLength code rest with
    | unknown => rfl
    | none => rfl
    | known total =>
      simp only [extent, List.length_cons, List.length_append] at known ⊢
      split at known
      · simp at known
      · rw [if_neg (by omega), if_neg (by omega)]

theorem announcedLength_cons_ne_unknown (code count : UInt8) (rest : Bytes) :
    announcedLength code (count :: rest) ≠ .unknown := by
  simp only [announcedLength]
  repeat' split
  all_goals exact Extent.noConfusion

theorem announcedLength_le {code : UInt8} {rest : Bytes} {n : Nat}
    (h : announcedLength code rest = .known n) : n ≤ 260 := by
  simp only [announcedLength] at h
  split at h
  · injection h
    omega
  · split at h
    · cases rest with
      | nil => injection h
      | cons count rest =>
        have := count.toNat_lt
        injection h
        omega
    · split at h <;> injection h
      omega

theorem length_lt_of_incomplete {bytes : Bytes} (h : scan bytes = .incomplete) :
    bytes.length < 260 := by
  match bytes with
  | [] => simp
  | [_] => simp
  | unit :: code :: rest =>
    simp only [scan] at h
    cases extent : announcedLength code rest with
    | unknown =>
      cases rest with
      | nil => simp
      | cons count rest => exact absurd extent (announcedLength_cons_ne_unknown code count rest)
    | none => simp [extent] at h
    | known total =>
      have := announcedLength_le extent
      simp only [extent] at h
      split at h
      · omega
      · cases h

end Modbus

namespace FrameMethod

def longest : FrameMethod → Nat
  | .meter => 268
  | .rtu => 260

variable {method : FrameMethod} {bytes : Bytes} {n : Nat}

theorem length_lt_longest (h : method.scan bytes = .incomplete) : bytes.length < method.longest := by
  cases method with
  | meter => exact Meter.length_lt_of_incomplete h
  | rtu => exact Modbus.length_lt_of_incomplete h

/-- What is waited for is never so long that the buffer is given up. -/
theorem not_maxBuffer_lt (h : method.scan bytes = .incomplete) : ¬ Framer.maxBuffer < bytes.length := by
  have short := length_lt_longest h
  have limit : method.longest ≤ Framer.maxBuffer := by cases method <;> decide
  omega

theorem fits_of_discard (h : method.scan bytes = .discard n) : 1 ≤ n ∧ n ≤ bytes.length := by
  have fits := method.scan_fits bytes
  rwa [h] at fits

theorem fits_of_frame (h : method.scan bytes = .frame n) : 1 ≤ n ∧ n ≤ bytes.length := by
  have fits := method.scan_fits bytes
  rwa [h] at fits

theorem length_of_frame (h : method.scan bytes = .frame n) : (bytes.take n).length = n :=
  List.length_take_of_le (fits_of_frame h).2

end FrameMethod

theorem FrameMethod.scan_frame_append {method : FrameMethod} {bytes : Bytes} {n : Nat}
    (h : method.scan bytes = .frame n) (more : Bytes) : method.scan (bytes ++ more) = .frame n := by
  have known : method.scan bytes ≠ .incomplete := by
    rw [h]
    exact Scan.noConfusion
  cases method with
  | rtu => exact (Modbus.scan_append known more).trans h
  | meter =>
    rw [FrameMethod.scan] at h
    have head : Meter.noise bytes = [] := Meter.noise_of_scan (by simp [h])
    exact (Meter.scan_append_of_head head known more).trans h

theorem FrameMethod.scan_induction {P : Bytes → Prop} (method : FrameMethod)
    (incomplete : ∀ bytes, method.scan bytes = .incomplete → P bytes)
    (discard : ∀ bytes n, method.scan bytes = .discard n → n ≤ bytes.length →
      P (bytes.drop n) → P bytes)
    (frame : ∀ bytes n, method.scan bytes = .frame n → n ≤ bytes.length →
      P (bytes.drop n) → P bytes)
    (bytes : Bytes) : P bytes := by
  induction length : bytes.length using Nat.strongRecOn generalizing bytes with
  | ind k ih =>
    subst length
    have rest : ∀ n, 1 ≤ n ∧ n ≤ bytes.length → P (bytes.drop n) := by
      intro n bound
      refine ih _ ?_ _ rfl
      rw [List.length_drop]
      omega
    cases said : method.scan bytes with
    | incomplete => exact incomplete bytes said
    | discard n =>
      have fits := fits_of_discard said
      exact discard bytes n said fits.2 (rest n fits)
    | frame n =>
      have fits := fits_of_frame said
      exact frame bytes n said fits.2 (rest n fits)

namespace Framer

def reading (method : FrameMethod) (buffer : Bytes) : Framer :=
  { method, authenticated := true, buffer }

variable {method : FrameMethod} {bytes : Bytes} {n : Nat}

theorem cut_eq (method : FrameMethod) (bytes : Bytes) :
    cut method bytes =
      match method.scan bytes with
      | .incomplete => (none, if maxBuffer < bytes.length then [] else bytes)
      | .discard n => cut method (bytes.drop n)
      | .frame n => (some (bytes.take n), bytes.drop n) := by
  rw [cut.eq_def]
  split <;> rename_i said <;> rw [said]

theorem cut_incomplete (h : method.scan bytes = .incomplete) : cut method bytes = (none, bytes) := by
  rw [cut_eq, h]
  simp only [if_neg (FrameMethod.not_maxBuffer_lt h)]

theorem cut_discard (h : method.scan bytes = .discard n) :
    cut method bytes = cut method (bytes.drop n) := by
  rw [cut_eq, h]

theorem cut_frame (h : method.scan bytes = .frame n) :
    cut method bytes = (some (bytes.take n), bytes.drop n) := by
  rw [cut_eq, h]

theorem next_reading (method : FrameMethod) (bytes : Bytes) :
    (reading method bytes).next =
      ((cut method bytes).1.map .frame, reading method (cut method bytes).2) := by
  cases bytes with
  | nil =>
    have : method.scan [] = .incomplete := by cases method <;> rfl
    rw [cut_incomplete this]
    rfl
  | cons b bytes => rfl

theorem drain_reading (method : FrameMethod) (bytes : Bytes) :
    (reading method bytes).drain =
      match cut method bytes with
      | (none, rest) => ([], reading method rest)
      | (some frame, rest) =>
        (.frame frame :: (reading method rest).drain.1, (reading method rest).drain.2) := by
  have next := next_reading method bytes
  rw [drain.eq_def]
  cases found : cut method bytes with
  | mk frame rest =>
    rw [found] at next
    cases frame with
    | none =>
      split
      all_goals
        rename_i step
        rw [next] at step
        cases step
      rfl
    | some frame =>
      split
      all_goals
        rename_i step
        rw [next] at step
        cases step
      rfl

theorem drain_incomplete (h : method.scan bytes = .incomplete) :
    (reading method bytes).drain = ([], reading method bytes) := by
  rw [drain_reading, cut_incomplete h]

theorem drain_discard (h : method.scan bytes = .discard n) :
    (reading method bytes).drain = (reading method (bytes.drop n)).drain := by
  rw [drain_reading, cut_discard h, drain_reading]

theorem drain_frame (h : method.scan bytes = .frame n) :
    (reading method bytes).drain =
      (.frame (bytes.take n) :: (reading method (bytes.drop n)).drain.1,
        (reading method (bytes.drop n)).drain.2) := by
  rw [drain_reading, cut_frame h]

theorem drain_noise (bytes : Bytes) :
    (reading .meter (bytes.drop (Meter.noise bytes).length)).drain = (reading .meter bytes).drain := by
  by_cases silent : Meter.noise bytes = []
  · simp [silent]
  · have said : FrameMethod.meter.scan bytes = .discard (Meter.noise bytes).length :=
      Meter.scan_of_noise silent
    exact (drain_discard said).symm

/-- What is discarded now would be discarded later: noise may go on in the bytes that come. -/
theorem drain_discard_append (h : method.scan bytes = .discard n) (more : Bytes) :
    (reading method (bytes ++ more)).drain = (reading method (bytes.drop n ++ more)).drain := by
  have fits := FrameMethod.fits_of_discard h
  have known : method.scan bytes ≠ .incomplete := by
    rw [h]
    exact Scan.noConfusion
  have later : method.scan (bytes ++ more) = .discard n →
      (reading method (bytes ++ more)).drain = (reading method (bytes.drop n ++ more)).drain := by
    intro same
    rw [drain_discard same, List.drop_append_of_le_length fits.2]
  cases method with
  | rtu =>
    apply later
    exact (Modbus.scan_append known more).trans h
  | meter =>
    by_cases head : Meter.noise bytes = []
    · apply later
      exact (Meter.scan_append_of_head head known more).trans h
    · have said := Meter.scan_of_noise head
      rw [FrameMethod.scan, said] at h
      cases h
      by_cases whole : (Meter.noise bytes).length = bytes.length
      · rw [← drain_noise (bytes ++ more), Meter.noise_append_of_noise whole, List.length_append,
          whole, List.drop_length_add_append, List.drop_length, List.nil_append]
        exact drain_noise more
      · apply later
        rw [← Meter.noise_append_of_ne whole more] at head said ⊢
        exact Meter.scan_of_noise head

theorem drain_append (method : FrameMethod) (bytes more : Bytes) :
    (reading method (bytes ++ more)).drain =
      ((reading method bytes).drain.1 ++ ((reading method bytes).drain.2.push more).drain.1,
        ((reading method bytes).drain.2.push more).drain.2) := by
  induction bytes using method.scan_induction with
  | incomplete bytes said =>
    rw [drain_incomplete said]
    rfl
  | discard bytes n said fits ih =>
    rw [drain_discard_append said, drain_discard said]
    exact ih
  | frame bytes n said fits ih =>
    rw [drain_frame (method.scan_frame_append said more), drain_frame said,
      List.take_append_of_le_length fits, List.drop_append_of_le_length fits, ih]
    rfl

def feed (f : Framer) : List Bytes → List Inbound × Framer
  | [] => ([], f)
  | chunk :: chunks =>
    let (items, g) := (f.push chunk).drain
    let (more, last) := g.feed chunks
    (items ++ more, last)

end Framer

end MeterGateway
