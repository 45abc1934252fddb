import MeterGateway.Meter.Frame

/-!
Finding meter frames in a byte stream.  Bytes before a frame head are noise; a head whose length
does not lead to a frame end was none, for the head's value may occur inside a frame.
-/

namespace MeterGateway.Meter

def announcedLength? (bytes : Bytes) : Option Nat :=
  bytes[10]?.map fun length => Frame.leastLength + length.toNat

def scan (bytes : Bytes) : Scan :=
  let noise := bytes.takeWhile (· ≠ Frame.head)
  if noise ≠ [] then .discard noise.length
  else
    match announcedLength? bytes with
    | none => .incomplete
    | some total =>
      match bytes[total - 1]? with
      | none => .incomplete
      | some last => if last = Frame.tail then .frame total else .discard 1

/-- The sequence number of a frame, the third byte of its data area, without decoding the frame. -/
def peekSeq (bytes : Bytes) : Option UInt8 :=
  match bytes[10]? with
  | some length => if length.toNat < 3 then none else bytes[13]?
  | none => none

theorem scan_fits (bytes : Bytes) : (scan bytes).Fits bytes.length := by
  simp only [scan]
  split
  case isTrue h =>
    have : 0 < (bytes.takeWhile (· ≠ Frame.head)).length := List.length_pos_iff.mpr h
    exact ⟨this, (List.takeWhile_sublist _).length_le⟩
  case isFalse =>
    split
    · trivial
    · rename_i total ht
      split
      · trivial
      · rename_i last hl
        have hlt : total - 1 < bytes.length := (List.getElem?_eq_some_iff.mp hl).1
        have hle : Frame.leastLength ≤ total := by
          simp only [announcedLength?, Option.map_eq_some_iff] at ht
          obtain ⟨length, -, rfl⟩ := ht
          omega
        simp only [Frame.leastLength, Frame.headerLength] at hle
        split <;> simp only [Scan.Fits] <;> omega

end MeterGateway.Meter
