import MeterGateway.Proofs.Line.Conservation

/-!
A line carries one request at a time.  A frame is sent only when the line is free or becomes free in
the same call, its time runs from then on, and nothing else is sent before the request is settled.
A request that is settled leaves the line to the one that has waited longest.
-/

namespace MeterGateway.Line

variable {l : Line} {ticket : Nat} {c : Call} {t : Turn}

theorem Step.silent (step : Step l ticket c t) (o : l.Orderly) (off : l.connected = false) :
    t.sent = none := by
  rcases step.hands_over o with ⟨on, -⟩ | ⟨-, nothing, -⟩
  · rw [off] at on
    cases on
  · rw [step.sent_eq, nothing]
    rfl

theorem Step.sends (step : Step l ticket c t) {frame : Bytes} (sent : t.sent = some frame) :
    (∀ f, l.inFlight = some f → f.pending.ticket ∈ t.settledTickets) ∧
      ∃ f now, t.line.inFlight = some f ∧ t.started = some f.pending ∧ c.now? = some now ∧
        f.deadline = now + l.timeout := by
  cases step with
  | disconnected | unencodable | queued | unmatched | early | closed => cases sent
  | started on encoded free => exact ⟨by simp [free], _, _, rfl, rfl, rfl, rfl⟩
  | answered flying | late flying =>
    cases queue : l.queue with
    | nil => simp [queue] at sent
    | cons p queue =>
      constructor
      · intro g hg
        rw [flying] at hg
        cases hg
        simp [Turn.settledTickets]
      · exact ⟨⟨p, _⟩, _, by simp [queue], by simp [Turn.started, queue], rfl, rfl⟩

theorem Step.keeps (step : Step l ticket c t) {f : InFlight} (flying : l.inFlight = some f) :
    (f.pending.ticket ∈ t.settledTickets) ∨ t.line.inFlight = some f := by
  cases step with
  | disconnected | unencodable | queued | unmatched | early => exact .inr flying
  | started _ _ free => simp [free] at flying
  | answered on | late on =>
    rw [on] at flying
    cases flying
    exact .inl (by simp [Turn.settledTickets])
  | closed => exact .inl (by simp [Turn.settledTickets, close, outstanding_of_inFlight flying])

theorem Step.expires {now : Nat} (step : Step l ticket (.expire now) t) {f : InFlight}
    (flying : l.inFlight = some f) :
    (f.pending.ticket ∈ t.settledTickets) ↔ f.deadline ≤ now := by
  cases step with
  | early waiting => simp [Turn.settledTickets, waiting f flying]
  | late on due =>
    rw [on] at flying
    cases flying
    simp [Turn.settledTickets, due]

theorem Step.hands_on (step : Step l ticket c t) {n : Nat} (older : n ≠ ticket)
    (settled : n ∈ t.settledTickets) :
    (∃ now, c.now? = some now ∧
      t.line.inFlight = l.queue.head?.map (fun p => ⟨p, now + l.timeout⟩) ∧
      t.line.queue = l.queue.tail ∧ t.sent = l.queue.head?.map Pending.frame) ∨
    c = .close ∧ t.line.inFlight = none := by
  cases step with
  | disconnected | unencodable => exact absurd (List.mem_singleton.mp settled) older
  | queued | started | unmatched | early => cases settled
  | answered | late =>
    exact .inl ⟨_, rfl, advance_inFlight .., advance_queue .., advance_sent ..⟩
  | closed => exact .inr ⟨rfl, rfl⟩

structure History.HalfDuplex (h : History) (timeout : Nat) : Prop where
  waits : h.line.queue ≠ [] → h.line.inFlight.isSome
  sends : ∀ c frame, (h.turn c).sent = some frame →
    (∀ f, h.line.inFlight = some f → f.pending.ticket ∈ (h.turn c).settledTickets) ∧
    ∃ f now, (h.turn c).line.inFlight = some f ∧
      (h.record c).requests[f.pending.ticket]? = some f.pending.request ∧
      f.pending.request.encode f.pending.tid = .ok frame ∧
      c.now? = some now ∧ f.deadline = now + timeout
  keeps : ∀ c f, h.line.inFlight = some f →
    (f.pending.ticket ∈ (h.turn c).settledTickets) ∨
      (h.turn c).line.inFlight = some f
  leaves : ∀ c f, (h.turn c).line.inFlight = some f →
    f.pending.ticket ∉ (h.turn c).settledTickets
  hands_on : ∀ c f, h.line.inFlight = some f → f.pending.ticket ∈ (h.turn c).settledTickets →
    (∃ now, c.now? = some now ∧
      (h.turn c).line.inFlight = h.line.queue.head?.map (fun p => ⟨p, now + timeout⟩) ∧
      (h.turn c).line.queue = h.line.queue.tail ∧
      (h.turn c).sent = h.line.queue.head?.map Pending.frame) ∨
    c = .close ∧ (h.turn c).line.inFlight = none
  expires : ∀ f now, h.line.inFlight = some f →
    (f.pending.ticket ∈ (h.turn (.expire now)).settledTickets ↔ f.deadline ≤ now)

theorem history_halfDuplex (timeout : Nat) (calls : List Call) :
    (history timeout calls).HalfDuplex timeout where
  waits := by
    intro waiting
    cases flying : (history timeout calls).line.inFlight with
    | none => exact absurd ((history_orderly timeout calls).free flying) waiting
    | some => rfl
  sends := by
    intro c frame sent
    have step := turn_step (history timeout calls).line (history timeout calls).ticket c
    obtain ⟨settles, f, now, flying, started, time, deadline⟩ := step.sends sent
    have frames : (some frame : Option Bytes) = some f.pending.frame :=
      sent.symm.trans (step.sent_eq.trans (by rw [started]; rfl))
    have booked := History.record_booked (history_booked timeout calls) (c := c)
    have accepted : f.pending ∈ ((history timeout calls).record c).accepted := by
      apply booked.started.subset
      refine List.mem_append_right _ ?_
      rw [show ((history timeout calls).turn c).started = some f.pending from started]
      exact List.mem_singleton_self _
    obtain ⟨request, encoded⟩ := booked.known f.pending accepted
    cases frames
    exact ⟨settles, f, now, flying, request, encoded, time, by simpa using deadline⟩
  keeps := by
    intro c f flying
    exact (turn_step _ _ c).keeps flying
  leaves := by
    intro c f flying settled
    have booked := History.record_booked (history_booked timeout calls) (c := c)
    refine booked.outstanding_unsettled f.pending.ticket ?_ ?_
    · exact List.mem_map_of_mem (by simp [outstanding, History.record, flying])
    · rw [History.record_settledTickets]
      exact List.mem_append_right _ settled
  hands_on := by
    intro c f flying settled
    have booked := history_booked timeout calls
    have older : f.pending.ticket < (history timeout calls).ticket := by
      apply booked.accepted_lt
      apply booked.outstanding_accepted
      exact List.mem_map_of_mem (by simp [outstanding, flying])
    have handed := (turn_step _ _ c).hands_on (Nat.ne_of_lt older) settled
    rwa [history_timeout] at handed
  expires := by
    intro f now flying
    exact (turn_step _ _ (.expire now)).expires flying

theorem connected_of_history {timeout : Nat} {calls : List Call}
    (on : (history timeout calls).line.connected = true) : .close ∉ calls := by
  induction calls using List.reverseRecOn with
  | nil => simp
  | append_singleton calls c ih =>
    rw [history_concat] at on
    obtain ⟨before, other⟩ := (turn_step _ _ c).connected on
    simp [ih before, other.symm]

theorem settled_or_kept {timeout : Nat} {before : List Call} {f : InFlight}
    (flying : (history timeout before).line.inFlight = some f) (between : List Call) :
    f.pending.ticket ∈ (history timeout (before ++ between)).settledTickets ∨
      (history timeout (before ++ between)).line.inFlight = some f := by
  induction between using List.reverseRecOn with
  | nil => exact .inr (by simpa using flying)
  | append_singleton between c ih =>
    rw [← List.append_assoc, history_concat, History.record_settledTickets]
    rcases ih with settled | kept
    · exact .inl (List.mem_append_left _ settled)
    · rcases (history_halfDuplex timeout _).keeps c f kept with settled | kept
      · exact .inl (List.mem_append_right _ settled)
      · exact .inr kept

theorem one_request_at_a_time (timeout : Nat) (calls : List Call) :
    (history timeout calls).HalfDuplex timeout ∧
    (.close ∈ calls →
      (history timeout calls).line.inFlight = none ∧ (history timeout calls).line.queue = [] ∧
        ∀ c, ((history timeout calls).turn c).sent = none) ∧
    ∀ before first between second frame frame', calls = before ++ first :: between ++ [second] →
      ((history timeout before).turn first).sent = some frame →
      ((history timeout (before ++ first :: between)).turn second).sent = some frame' →
      ∃ f, ((history timeout before).turn first).line.inFlight = some f ∧
        f.pending.ticket ∉ (history timeout (before ++ [first])).settledTickets ∧
        f.pending.ticket ∈ (history timeout calls).settledTickets := by
  refine ⟨history_halfDuplex timeout calls, ?_, ?_⟩
  · intro closed
    have orderly := history_orderly timeout calls
    have off : (history timeout calls).line.connected = false := by
      cases on : (history timeout calls).line.connected with
      | false => rfl
      | true => exact absurd closed (connected_of_history on)
    have free := orderly.closed off
    refine ⟨free, orderly.free free, ?_⟩
    intro c
    exact (turn_step _ _ c).silent orderly off
  · rintro before first between second frame frame' rfl sent sent'
    obtain ⟨-, f, -, flying, -⟩ := (history_halfDuplex timeout before).sends first frame sent
    have flying' : (history timeout (before ++ [first])).line.inFlight = some f := by
      rw [history_concat]
      exact flying
    refine ⟨f, flying, ?_, ?_⟩
    · apply (history_booked timeout (before ++ [first])).outstanding_unsettled
      simp [History.outstandingTickets, outstanding_of_inFlight flying']
    · rw [history_concat, History.record_settledTickets]
      have between := settled_or_kept flying' between
      rw [List.append_assoc, List.singleton_append] at between
      rcases between with settled | kept
      · exact List.mem_append_left _ settled
      · have settles := ((history_halfDuplex timeout _).sends second frame' sent').1
        exact List.mem_append_right _ (settles f kept)

end MeterGateway.Line
