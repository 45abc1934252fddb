import MeterGateway.Proofs.Line.Conservation
import MeterGateway.Proofs.Outcome

namespace MeterGateway

theorem WireRequest.decodeResponse_meter {r : Meter.Request} {frame : Bytes} {response : WireResponse}
    (h : (WireRequest.meter r).decodeResponse frame = .ok response) :
    ∃ answer, Meter.Response.decode r.kind frame = .ok answer ∧ response = .meter answer := by
  obtain ⟨answer, decoded, rfl⟩ := Except.exists_of_map_eq_ok h
  exact ⟨answer, decoded, rfl⟩

namespace Line

theorem ofNat_wraps {i j : Nat} (same : UInt8.ofNat i = UInt8.ofNat j) (before : i < j) :
    i + 256 ≤ j := by
  have := congrArg UInt8.toNat same
  simp only [UInt8.toNat_ofNat'] at this
  omega

theorem Step.nextTid {l : Line} {ticket : Nat} {c : Call} {t : Turn} (step : Step l ticket c t) :
    t.line.nextTid = if (c.tid? l).isSome then l.nextTid + 1 else l.nextTid := by
  cases step with
  | disconnected off => simp [Call.tid?, off]
  | unencodable on | queued on | started on => simp [Call.tid?, on]
  | unmatched | early | closed => rfl
  | answered | late => simp [Call.tid?]

theorem Call.tid?_eq_some {l : Line} {c : Call} {tid : UInt8} (h : c.tid? l = some tid) :
    l.connected = true ∧ tid = l.nextTid := by
  cases c with
  | submit =>
    simp only [tid?] at h
    split at h
    · rename_i on
      injection h with h
      exact ⟨on, h.symm⟩
    · cases h
  | receive | expire | close => cases h

theorem Call.isSome_tid? {l : Line} (on : l.connected = true) (c : Call) :
    (c.tid? l).isSome = c.request?.isSome := by
  cases c <;> simp [tid?, request?, on]

namespace History

/-- A request draws the count of those before it, modulo 256, as long as the line is connected. -/
structure Numbered (h : History) : Prop where
  next : h.line.nextTid = UInt8.ofNat h.numbered.length
  full : h.line.connected = true → h.numbered.length = h.ticket
  tids : ∀ (i n : Nat) (tid : UInt8), h.numbered[i]? = some (n, tid) → n = i ∧ tid = UInt8.ofNat i
  known : ∀ p ∈ h.accepted, (p.ticket, p.tid) ∈ h.numbered

variable {h : History} {c : Call}

theorem record_numbered_of_none (nothing : c.tid? h.line = none) :
    (h.record c).numbered = h.numbered := by
  simp [record, nothing]

theorem record_numbered_of_some {tid : UInt8} (drawn : c.tid? h.line = some tid) :
    (h.record c).numbered = h.numbered ++ [(h.ticket, tid)] := by
  simp [record, drawn]

theorem record_next (b : h.Numbered) :
    (h.record c).line.nextTid = UInt8.ofNat (h.record c).numbered.length := by
  have next : (h.record c).line.nextTid =
      if (c.tid? h.line).isSome then h.line.nextTid + 1 else h.line.nextTid :=
    (turn_step h.line h.ticket c).nextTid
  cases drawn : c.tid? h.line with
  | none => simp [next, drawn, b.next, record_numbered_of_none drawn]
  | some tid =>
    apply UInt8.toNat_inj.mp
    simp [next, drawn, b.next, record_numbered_of_some drawn]

theorem record_full (b : h.Numbered) (on : (h.record c).line.connected = true) :
    (h.record c).numbered.length = (h.record c).ticket := by
  have before := ((turn_step h.line h.ticket c).connected on).1
  have asked := Call.isSome_tid? before c
  rw [record_ticket, ← asked]
  cases drawn : c.tid? h.line with
  | none => simpa [record_numbered_of_none drawn] using b.full before
  | some tid => simp [record_numbered_of_some drawn, b.full before]

theorem record_tids (b : h.Numbered) {i n : Nat} {tid : UInt8}
    (at_i : (h.record c).numbered[i]? = some (n, tid)) : n = i ∧ tid = UInt8.ofNat i := by
  cases drawn : c.tid? h.line with
  | none =>
    rw [record_numbered_of_none drawn] at at_i
    exact b.tids i n tid at_i
  | some next =>
    rw [record_numbered_of_some drawn, List.getElem?_append] at at_i
    split at at_i
    case isTrue => exact b.tids i n tid at_i
    case isFalse beyond =>
      obtain ⟨here, pair⟩ := List.getElem?_eq_some_iff.mp at_i
      obtain ⟨on, next⟩ := Call.tid?_eq_some drawn
      have last : i = h.numbered.length := by
        rw [List.length_singleton] at here
        omega
      subst last
      simp only [List.getElem_singleton, Prod.mk.injEq] at pair
      rw [← pair.1, ← pair.2, next, b.next]
      exact ⟨(b.full on).symm, rfl⟩

theorem record_drawn (b : h.Numbered) :
    ∀ p ∈ (h.record c).accepted, (p.ticket, p.tid) ∈ (h.record c).numbered := by
  intro p hp
  simp only [record, List.mem_append, Option.mem_toList] at hp ⊢
  rcases hp with old | new
  · exact .inl (b.known p old)
  · obtain ⟨-, -, ticket, drawn⟩ := Call.accepted?_eq_some new
    exact .inr (by simp [drawn, ticket])

theorem record_numbered (b : h.Numbered) : (h.record c).Numbered where
  next := record_next b
  full := record_full b
  tids _ _ _ := record_tids b
  known := record_drawn b

end History

theorem history_numbered (timeout : Nat) (calls : List Call) : (history timeout calls).Numbered := by
  refine history_invariant timeout ?_ (fun _ _ => History.record_numbered) calls
  constructor <;> simp [History.ticket]

theorem mem_requests {timeout : Nat} {calls : List Call} {request : WireRequest}
    (h : request ∈ (history timeout calls).requests) : ∃ now, .submit request now ∈ calls := by
  induction calls using List.reverseRecOn with
  | nil => cases h
  | append_singleton calls c ih =>
    rw [history_concat] at h
    rcases List.mem_append.mp h with old | new
    · obtain ⟨now, submitted⟩ := ih old
      exact ⟨now, List.mem_append_left _ submitted⟩
    · cases c with
      | submit r now =>
        simp only [Call.request?, Option.toList_some, List.mem_singleton] at new
        exact ⟨now, by simp [new]⟩
      | receive | expire | close => cases new

theorem Step.receives {l : Line} {ticket now : Nat} {frame : Bytes} {t : Turn}
    (step : Step l ticket (.receive frame now) t) {n : Nat} {outcome : Outcome}
    (settled : (n, outcome) ∈ t.settled) :
    ∃ f, l.inFlight = some f ∧ n = f.pending.ticket ∧
      f.pending.request.correlates f.pending.tid frame = true ∧
      outcome = (judge f.pending.request frame).1 := by
  cases step with
  | unmatched => cases settled
  | @answered _ _ f flying correlates =>
    simp only [advance_settled, List.mem_singleton, Prod.mk.injEq] at settled
    exact ⟨f, flying, settled.1, correlates, settled.2⟩

theorem receive_unmatched {l : Line} {frame : Bytes}
    (other : ∀ f, l.inFlight = some f → f.pending.request.correlates f.pending.tid frame = false)
    (ticket now : Nat) :
    l.turn ticket (.receive frame now) = { line := l, metrics := [.responsesUnmatched] } := by
  have step := turn_step l ticket (.receive frame now)
  generalize l.turn ticket (.receive frame now) = t at step
  cases step with
  | unmatched => rfl
  | answered flying correlates =>
    rw [other _ flying] at correlates
    cases correlates

theorem inFlight_numbered {timeout : Nat} {calls : List Call} {f : InFlight}
    (flying : (history timeout calls).line.inFlight = some f) :
    (f.pending.ticket, f.pending.tid) ∈ (history timeout calls).numbered ∧
      (history timeout calls).requests[f.pending.ticket]? = some f.pending.request := by
  have accepted : f.pending ∈ (history timeout calls).accepted := by
    apply (history_booked timeout calls).pending.subset
    simp [outstanding_of_inFlight flying]
  exact ⟨(history_numbered timeout calls).known _ accepted,
    ((history_booked timeout calls).known _ accepted).1⟩

theorem frames_answer_by_number (timeout : Nat) (calls : List Call)
    (meters : ∀ request now, .submit request now ∈ calls → ∃ r, request = .meter r)
    (frame : Bytes) (now : Nat) :
    let h := history timeout calls
    let t := h.turn (.receive frame now)
    (∀ n outcome, (n, outcome) ∈ t.settled →
      ∃ tid r, (n, tid) ∈ h.numbered ∧ h.requests[n]? = some (.meter r) ∧
        Meter.peekSeq frame = some tid ∧
        ∀ response, outcome = .resolved response →
          ∃ answer, Meter.Response.decode r.kind frame = .ok answer ∧ answer.checksumOk = true ∧
            response = .meter answer) ∧
    (∀ i j n₀ n tid₀ tid, h.numbered[i]? = some (n₀, tid₀) → h.numbered[j]? = some (n, tid) →
      i < j → Meter.peekSeq frame = some tid₀ → n ∈ t.settledTickets → i + 256 ≤ j) ∧
    ((∀ f, h.line.inFlight = some f → Meter.peekSeq frame ≠ some f.pending.tid) →
      t.line = h.line ∧ t.settled = [] ∧ t.sent = none) := by
  intro h t
  have meter : ∀ f, h.line.inFlight = some f → ∃ r, f.pending.request = .meter r := by
    intro f flying
    obtain ⟨at_, submitted⟩ := mem_requests (List.mem_of_getElem? (inFlight_numbered flying).2)
    exact meters _ at_ submitted
  have step : Step h.line h.ticket (.receive frame now) t := turn_step h.line h.ticket _
  refine ⟨?_, ?_, ?_⟩
  · intro n outcome settled
    obtain ⟨f, flying, rfl, correlates, rfl⟩ := step.receives settled
    obtain ⟨numbered, request⟩ := inFlight_numbered flying
    obtain ⟨r, is_meter⟩ := meter f flying
    rw [is_meter] at correlates request ⊢
    refine ⟨f.pending.tid, r, numbered, request, by simpa [WireRequest.correlates] using correlates, ?_⟩
    intro response resolved
    obtain ⟨decoded, ok⟩ := judge_of_resolved resolved
    obtain ⟨answer, decodes, rfl⟩ := WireRequest.decodeResponse_meter decoded
    exact ⟨answer, decodes, ok, rfl⟩
  · intro i j n₀ n tid₀ tid first second before carries settled
    obtain ⟨⟨m, outcome⟩, settles, (rfl : m = n)⟩ := List.mem_map.mp settled
    obtain ⟨f, flying, same, correlates, -⟩ := step.receives settles
    obtain ⟨r, is_meter⟩ := meter f flying
    obtain ⟨k, third⟩ := List.mem_iff_getElem?.mp (inFlight_numbered flying).1
    have tids := (history_numbered timeout calls).tids
    have number : f.pending.tid = UInt8.ofNat j := by
      rw [(tids k _ _ third).2, ← (tids k _ _ third).1, ← same, (tids j _ _ second).1]
    rw [is_meter] at correlates
    have carried : Meter.peekSeq frame = some f.pending.tid := by
      simpa [WireRequest.correlates] using correlates
    rw [carries, Option.some.injEq, (tids i _ _ first).2, number] at carried
    exact ofNat_wraps carried before
  · intro other
    have : t = { line := h.line, metrics := [.responsesUnmatched] } := by
      apply receive_unmatched
      intro f flying
      obtain ⟨r, is_meter⟩ := meter f flying
      simpa [is_meter, WireRequest.correlates] using other f flying
    simp [this]

def twoReadings : List Call :=
  [.submit (.meter ⟨0x10, none, .readData⟩) 0, .submit (.meter ⟨0x10, none, .readData⟩) 0, .expire 10]

def readingAnswer (seq : UInt8) : Bytes :=
  let frame : Meter.Frame :=
    ⟨0x10, List.replicate 7 0xAA, 0x81,
      [⟨.dataId, [0x1F, 0x90]⟩, ⟨.seq, [seq]⟩, ⟨.empty, List.replicate 15 0⟩]⟩
  frame.body ++ [Checksum.byteSum frame.body, Meter.Frame.tail]

theorem frames_answer_by_number_twoReadings :
    (∀ request now, .submit request now ∈ twoReadings → ∃ r, request = .meter r) ∧
    ((history 10 twoReadings).turn (.receive (readingAnswer 1) 12)).settledTickets = [1] ∧
    (∃ tid, (1, tid) ∈ (history 10 twoReadings).numbered ∧
      Meter.peekSeq (readingAnswer 1) = some tid) ∧
    ((history 10 twoReadings).turn (.receive (readingAnswer 0) 12)).line =
      (history 10 twoReadings).line := by
  have meters : ∀ request now, .submit request now ∈ twoReadings → ∃ r, request = .meter r := by
    intro request now submitted
    simp only [twoReadings, List.mem_cons, Call.submit.injEq, reduceCtorEq, List.not_mem_nil,
      or_false] at submitted
    rcases submitted with ⟨rfl, -⟩ | ⟨rfl, -⟩ <;> exact ⟨_, rfl⟩
  have answered := frames_answer_by_number 10 twoReadings meters (readingAnswer 1) 12
  have late := frames_answer_by_number 10 twoReadings meters (readingAnswer 0) 12
  refine ⟨meters, by decide, ?_, ?_⟩
  · have settled : 1 ∈ ((history 10 twoReadings).turn (.receive (readingAnswer 1) 12)).settledTickets := by
      decide
    obtain ⟨⟨_, outcome⟩, settles, rfl⟩ := List.mem_map.mp settled
    obtain ⟨tid, _, numbered, _, carried, _⟩ := answered.1 _ outcome settles
    exact ⟨tid, numbered, carried⟩
  · apply (late.2.2 _).1
    have flying : (history 10 twoReadings).line.inFlight.map (·.pending.tid) = some 1 := by decide
    intro f hf same
    rw [hf, Option.map_some, Option.some.injEq] at flying
    rw [flying] at same
    revert same
    decide

end Line

end MeterGateway
