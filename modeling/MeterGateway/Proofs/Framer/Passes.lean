import MeterGateway.Proofs.Framer.Chunks

/-!
How a buffer is read.  Each pass of the loop takes away bytes that are there, so the loop comes to an
end: at a frame, or where too few bytes are left for the longest one.  That is far below the limit at
which a buffer is given up.  Hence all that comes in is delivered, is called noise by the scanner, or
is still there.
-/

namespace MeterGateway

namespace FrameMethod

/-- A run of the loop: what it drops in each pass, and the buffer at which it stops. -/
inductive Passes (method : FrameMethod) : Bytes → List Bytes → Bytes → Prop
  | stop {buffer : Bytes} (ends : ∀ n, method.scan buffer ≠ .discard n) : Passes method buffer [] buffer
  | drop {buffer last : Bytes} {noise : List Bytes} {n : Nat} (said : method.scan buffer = .discard n)
      (on : Passes method (buffer.drop n) noise last) :
      Passes method buffer (buffer.take n :: noise) last

variable {method : FrameMethod} {buffer last : Bytes} {noise : List Bytes} {n : Nat}

theorem exists_passes (method : FrameMethod) (buffer : Bytes) :
    ∃ noise last, method.Passes buffer noise last := by
  induction buffer using method.scan_induction with
  | incomplete buffer said => exact ⟨[], buffer, .stop (by simp [said])⟩
  | discard buffer n said _ ih =>
    obtain ⟨noise, last, on⟩ := ih
    exact ⟨buffer.take n :: noise, last, .drop said on⟩
  | frame buffer n said => exact ⟨[], buffer, .stop (by simp [said])⟩

namespace Passes

theorem ends (run : method.Passes buffer noise last) : ∀ n, method.scan last ≠ .discard n := by
  induction run with
  | stop ends => exact ends
  | drop _ _ ih => exact ih

theorem unique (run : method.Passes buffer noise last) {noise' : List Bytes} {last' : Bytes}
    (run' : method.Passes buffer noise' last') : noise' = noise ∧ last' = last := by
  induction run generalizing noise' with
  | stop ends =>
    cases run' with
    | stop => exact ⟨rfl, rfl⟩
    | drop said => exact absurd said (ends _)
  | drop said _ ih =>
    cases run' with
    | stop ends => exact absurd said (ends _)
    | drop said' on =>
      obtain rfl := Scan.discard.inj (said'.symm.trans said)
      obtain ⟨rfl, rfl⟩ := ih on
      exact ⟨rfl, rfl⟩

theorem flatten_append (run : method.Passes buffer noise last) : noise.flatten ++ last = buffer := by
  induction run with
  | stop => rfl
  | drop said _ ih => rw [List.flatten_cons, List.append_assoc, ih, List.take_append_drop]

theorem length_le (run : method.Passes buffer noise last) : noise.length ≤ buffer.length := by
  induction run with
  | stop => exact Nat.zero_le _
  | drop said _ ih =>
    have fits := fits_of_discard said
    rw [List.length_drop] at ih
    rw [List.length_cons]
    omega

theorem said (run : method.Passes buffer noise last) {piece : Bytes} (mem : piece ∈ noise) :
    piece ≠ [] ∧ ∃ behind, method.scan (piece ++ behind) = .discard piece.length := by
  induction run with
  | stop => cases mem
  | @drop buffer _ _ n said _ ih =>
    obtain rfl | later := List.mem_cons.mp mem
    · have fits := fits_of_discard said
      have length : (buffer.take n).length = n := List.length_take_of_le fits.2
      refine ⟨List.ne_nil_of_length_pos (by omega), buffer.drop n, ?_⟩
      rw [List.take_append_drop, length, said]
    · exact ih later

theorem cut_eq (run : method.Passes buffer noise last) :
    Framer.cut method buffer = Framer.cut method last := by
  induction run with
  | stop => rfl
  | drop said _ ih => rw [Framer.cut_discard said, ih]

end Passes

end FrameMethod

namespace Framer

variable {method : FrameMethod} {buffer last : Bytes} {noise : List Bytes}

theorem next_of_passes (run : method.Passes buffer noise last) :
    (method.scan last = .incomplete ∧ (reading method buffer).next = (none, reading method last)) ∨
    ∃ frame rest, frame ≠ [] ∧ last = frame ++ rest ∧ method.scan last = .frame frame.length ∧
      (reading method buffer).next = (some (.frame frame), reading method rest) := by
  rw [next_reading, run.cut_eq]
  cases said : method.scan last with
  | incomplete =>
    rw [cut_incomplete said]
    exact .inl ⟨rfl, rfl⟩
  | discard n => exact absurd said (run.ends n)
  | frame n =>
    have fits := FrameMethod.fits_of_frame said
    have length := FrameMethod.length_of_frame said
    rw [cut_frame said]
    refine .inr ⟨last.take n, last.drop n, List.ne_nil_of_length_pos (by omega), ?_, ?_, rfl⟩
    · exact (List.take_append_drop n last).symm
    · rw [length]

inductive Use
  | push : Bytes → Use
  | authenticate : Use
  | next : Use

def Use.bytes : Use → Bytes
  | .push bytes => bytes
  | .authenticate | .next => []

def use (f : Framer) : Use → List Inbound × Framer
  | .push bytes => ([], f.push bytes)
  | .authenticate => ([], f.authenticate)
  | .next => (f.next.1.toList, f.next.2)

def uses (f : Framer) : List Use → List Inbound × Framer
  | [] => ([], f)
  | u :: us => ((f.use u).1 ++ ((f.use u).2.uses us).1, ((f.use u).2.uses us).2)

inductive Part
  | item : Inbound → Part
  | noise : Bytes → Part

namespace Part

def bytes : Part → Bytes
  | .item (.token bytes) | .item (.frame bytes) | .noise bytes => bytes

def item? : Part → Option Inbound
  | .item inbound => some inbound
  | .noise _ => none

def Told (method : FrameMethod) : Part → Prop
  | .item (.token bytes) => bytes ≠ []
  | .item (.frame bytes) => bytes ≠ [] ∧ ∃ behind, method.scan (bytes ++ behind) = .frame bytes.length
  | .noise bytes => bytes ≠ [] ∧ ∃ behind, method.scan (bytes ++ behind) = .discard bytes.length

end Part

/-- Between two moments all bytes that were there or were brought have left in these parts or are
there. -/
structure Accounts (f g : Framer) (brought : Bytes) (items : List Inbound) (parts : List Part) :
    Prop where
  method : g.method = f.method
  bytes : f.buffer ++ brought = (parts.map Part.bytes).flatten ++ g.buffer
  items : parts.filterMap Part.item? = items
  told : ∀ part ∈ parts, part.Told f.method

namespace Accounts

variable {f g h : Framer} {brought brought' : Bytes} {items items' : List Inbound}
  {parts parts' : List Part}

theorem trans (first : f.Accounts g brought items parts) (second : g.Accounts h brought' items' parts') :
    f.Accounts h (brought ++ brought') (items ++ items') (parts ++ parts') where
  method := second.method.trans first.method
  bytes := by
    rw [← List.append_assoc, first.bytes, List.append_assoc, second.bytes, List.map_append,
      List.flatten_append, List.append_assoc]
  items := by rw [List.filterMap_append, first.items, second.items]
  told := by
    intro part mem
    obtain earlier | later := List.mem_append.mp mem
    · exact first.told part earlier
    · rw [← first.method]
      exact second.told part later

end Accounts

theorem noise_told (run : method.Passes buffer noise last) :
    ∀ part ∈ noise.map Part.noise, part.Told method := by
  intro part mem
  obtain ⟨piece, dropped, rfl⟩ := List.mem_map.mp mem
  exact run.said dropped

theorem noise_bytes (noise : List Bytes) :
    ((noise.map Part.noise).map Part.bytes).flatten = noise.flatten := by
  rw [List.map_map]
  exact congrArg List.flatten (List.map_id noise)

theorem noise_items (noise : List Bytes) : (noise.map Part.noise).filterMap Part.item? = [] := by
  rw [List.filterMap_map, List.filterMap_eq_nil_iff]
  intro piece _
  rfl

theorem reading_accounts (method : FrameMethod) (buffer : Bytes) :
    ∃ parts, (reading method buffer).Accounts (reading method buffer).next.2 []
      (reading method buffer).next.1.toList parts := by
  obtain ⟨noise, last, run⟩ := method.exists_passes buffer
  obtain ⟨-, next⟩ | ⟨frame, rest, filled, rfl, said, next⟩ := next_of_passes run
  · rw [next]
    refine ⟨noise.map .noise, rfl, ?_, noise_items noise, noise_told run⟩
    rw [noise_bytes]
    exact (List.append_nil buffer).trans run.flatten_append.symm
  · rw [next]
    -- first what the passes dropped, then the frame
    refine ⟨noise.map .noise ++ [.item (.frame frame)], rfl, ?_, ?_, ?_⟩
    · have bytes : (([.item (.frame frame)] : List Part).map Part.bytes).flatten = frame :=
        List.append_nil frame
      rw [List.map_append, List.flatten_append, noise_bytes, bytes, List.append_assoc]
      exact (List.append_nil buffer).trans run.flatten_append.symm
    · rw [List.filterMap_append, noise_items]
      rfl
    · intro part mem
      obtain dropped | delivered := List.mem_append.mp mem
      · exact noise_told run part dropped
      · rw [List.mem_singleton.mp delivered]
        exact ⟨filled, rest, said⟩

theorem next_accounts (f : Framer) : ∃ parts, f.Accounts f.next.2 [] f.next.1.toList parts := by
  obtain ⟨method, authenticated, buffer⟩ := f
  cases authenticated with
  | true => exact reading_accounts method buffer
  | false =>
    by_cases empty : buffer = []
    · subst empty
      exact ⟨[], rfl, rfl, rfl, by simp⟩
    · rw [show next ⟨method, false, buffer⟩ = (some (.token buffer), ⟨method, false, []⟩) from
        if_neg empty]
      refine ⟨[.item (.token buffer)], rfl, ?_, rfl, ?_⟩
      · simp [Part.bytes]
      · intro part mem
        rw [List.mem_singleton.mp mem]
        exact empty

theorem use_accounts (f : Framer) (u : Use) :
    ∃ parts, f.Accounts (f.use u).2 u.bytes (f.use u).1 parts := by
  cases u with
  | push bytes => exact ⟨[], rfl, rfl, rfl, by simp⟩
  | authenticate => exact ⟨[], rfl, List.append_nil _, rfl, by simp⟩
  | next => exact f.next_accounts

theorem uses_accounts (f : Framer) (us : List Use) :
    ∃ parts, f.Accounts (f.uses us).2 (us.flatMap Use.bytes) (f.uses us).1 parts := by
  induction us generalizing f with
  | nil => exact ⟨[], rfl, List.append_nil _, rfl, by simp⟩
  | cons u us ih =>
    obtain ⟨parts, first⟩ := f.use_accounts u
    obtain ⟨more, rest⟩ := ih (f.use u).2
    exact ⟨parts ++ more, first.trans rest⟩

theorem buffer_is_never_given_up (method : FrameMethod) :
    (∀ buffer : Bytes, (method.scan buffer).Fits buffer.length ∧
      (method.scan buffer = .incomplete → buffer.length < method.longest) ∧
      ¬ (method.scan buffer = .incomplete ∧ maxBuffer < buffer.length)) ∧
    (∀ buffer : Bytes, ∃ noise last, method.Passes buffer noise last ∧
      (∀ noise' last', method.Passes buffer noise' last' → noise' = noise ∧ last' = last) ∧
      noise.length ≤ buffer.length ∧ noise.flatten ++ last = buffer ∧
      (last.length < method.longest ∧ (reading method buffer).next = (none, reading method last) ∨
        ∃ frame rest, frame ≠ [] ∧ last = frame ++ rest ∧ method.scan last = .frame frame.length ∧
          (reading method buffer).next = (some (.frame frame), reading method rest))) ∧
    ∀ us : List Use, ∃ parts : List Part,
      us.flatMap Use.bytes =
        (parts.map Part.bytes).flatten ++ (uses { method } us).2.buffer ∧
      parts.filterMap Part.item? = (uses { method } us).1 ∧ ∀ part ∈ parts, part.Told method := by
  refine ⟨?_, ?_, ?_⟩
  · intro buffer
    exact ⟨method.scan_fits buffer, FrameMethod.length_lt_longest,
      fun both => FrameMethod.not_maxBuffer_lt both.1 both.2⟩
  · intro buffer
    obtain ⟨noise, last, run⟩ := method.exists_passes buffer
    refine ⟨noise, last, run, fun _ _ run' => run.unique run', run.length_le, run.flatten_append, ?_⟩
    exact (next_of_passes run).imp_left fun stopped =>
      ⟨FrameMethod.length_lt_longest stopped.1, stopped.2⟩
  · intro us
    obtain ⟨parts, accounts⟩ := uses_accounts { method } us
    exact ⟨parts, accounts.bytes, accounts.items, accounts.told⟩

theorem buffer_is_never_given_up_brink :
    let meter : Bytes := 0x68 :: List.replicate 9 0 ++ 0xFF :: List.replicate 256 0
    let response : Bytes := 1 :: 3 :: 0xFF :: List.replicate 256 0
    (FrameMethod.meter.scan meter = .incomplete ∧ meter.length = 267 ∧
      meter.length < FrameMethod.meter.longest) ∧
    FrameMethod.rtu.scan response = .incomplete ∧ response.length = 259 ∧
      response.length < FrameMethod.rtu.longest := by
  intro meter response
  have waits : FrameMethod.meter.scan meter = .incomplete := by decide +kernel
  have waits' : FrameMethod.rtu.scan response = .incomplete := by decide +kernel
  have length : meter.length = 267 := by decide +kernel
  have length' : response.length = 259 := by decide +kernel
  exact ⟨⟨waits, length, ((buffer_is_never_given_up .meter).1 meter).2.1 waits⟩,
    waits', length', ((buffer_is_never_given_up .rtu).1 response).2.1 waits'⟩

end Framer

end MeterGateway
