import MeterGateway.Proofs.Line.History

/-!
The books of a line.  After any calls each request that was handed in is settled, in flight or
queued, and once; those that were taken over go on the wire and are settled in the order in which
they were handed in; and the counters add up to the number of requests.
-/

namespace MeterGateway.Line

theorem Call.accepted?_eq_some {l : Line} {ticket : Nat} {c : Call} {p : Pending}
    (h : c.accepted? l ticket = some p) :
    c.request? = some p.request ∧ p.request.encode p.tid = .ok p.frame ∧
      p.ticket = ticket ∧ c.tid? l = some p.tid := by
  cases c with
  | submit request now =>
    simp only [accepted?] at h
    split at h
    case isTrue connected =>
      cases encoded : request.encode l.nextTid with
      | error e => simp [encoded] at h
      | ok frame =>
        simp only [encoded, Option.some.injEq] at h
        subst h
        exact ⟨rfl, encoded, rfl, by simp [tid?, connected]⟩
    case isFalse => cases h
  | receive | expire | close => cases h

/-- A call refuses a request, and settles that one at once, or what it settles comes off the front
of what is outstanding and what it takes over goes to the end. -/
theorem Step.conserves {l : Line} {ticket : Nat} {c : Call} {t : Turn} (step : Step l ticket c t)
    (o : l.Orderly) :
    (c.request?.isSome ∧ c.accepted? l ticket = none ∧ t.settledTickets = [ticket] ∧
      t.line.outstanding = l.outstanding) ∨
    ∃ done : List Pending, t.settledTickets = done.map Pending.ticket ∧
      done ++ t.line.outstanding = l.outstanding ++ (c.accepted? l ticket).toList ∧
      c.request?.isSome = (c.accepted? l ticket).isSome := by
  cases step with
  | disconnected off =>
    left
    simp [Call.request?, Call.accepted?, Turn.settledTickets, off]
  | unencodable on failed =>
    left
    simp [Call.request?, Call.accepted?, Turn.settledTickets, on, failed, outstanding]
  | queued on encoded =>
    right
    exact ⟨[], rfl, by simp [Call.request?, Call.accepted?, on, encoded, outstanding]⟩
  | started on encoded free =>
    right
    refine ⟨[], rfl, ?_⟩
    simp [Call.request?, Call.accepted?, on, encoded, outstanding, free, o.free free]
  | unmatched | early =>
    right
    exact ⟨[], rfl, by simp [Call.request?, Call.accepted?]⟩
  | @answered _ _ f flying | @late _ f flying =>
    right
    refine ⟨[f.pending], by simp [Turn.settledTickets], ?_⟩
    simp [Call.request?, Call.accepted?, outstanding_of_inFlight flying]
  | closed =>
    right
    refine ⟨l.outstanding, ?_, ?_, rfl⟩
    · simp [close, Turn.settledTickets, Function.comp_def]
    · simp [Call.accepted?]

theorem Step.hands_over {l : Line} {ticket : Nat} {c : Call} {t : Turn} (step : Step l ticket c t)
    (o : l.Orderly) :
    (l.connected = true ∧ t.line.connected = true ∧
      t.started.toList ++ t.line.queue = l.queue ++ (c.accepted? l ticket).toList) ∨
    (t.line.connected = false ∧ t.started = none ∧ c.accepted? l ticket = none) := by
  cases step with
  | disconnected off =>
    right
    simp [Turn.started, Call.accepted?, off]
  | unencodable on failed =>
    left
    simp [Turn.started, Call.accepted?, on, failed]
  | queued on encoded =>
    left
    simp [Turn.started, Call.accepted?, on, encoded]
  | started on encoded free =>
    left
    simp [Turn.started, Call.accepted?, on, encoded, o.free free]
  | unmatched | early => cases l.connected <;> simp [Turn.started, Call.accepted?]
  | answered flying | late flying =>
    left
    have on := o.connected flying
    cases queue : l.queue <;> simp [Turn.started, Call.accepted?, on, queue]
  | closed =>
    right
    simp [Turn.started, Call.accepted?, close]

theorem Step.sent_eq {l : Line} {ticket : Nat} {c : Call} {t : Turn} (step : Step l ticket c t) :
    t.sent = t.started.map Pending.frame := by
  cases step with
  | answered | late => cases queue : l.queue <;> simp [Turn.started, queue]
  | _ => rfl

def settlements (metrics : List Metric) : Nat :=
  metrics.count .responsesMatched + metrics.count .checksumMismatches +
    metrics.count .requestsTimedOut + metrics.count .requestsFailed

@[simp] theorem settlements_append (ms ns : List Metric) :
    settlements (ms ++ ns) = settlements ms + settlements ns := by
  simp only [settlements, List.count_append]
  omega

@[simp] theorem settlements_judge (request : WireRequest) (frame : Bytes) :
    settlements [(judge request frame).2] = 1 := by
  unfold judge
  split
  · split <;> rfl
  · rfl

theorem Step.counts {l : Line} {ticket : Nat} {c : Call} {t : Turn} (step : Step l ticket c t) :
    settlements t.metrics = t.settled.length := by
  cases step with
  | answered => simp
  | late => simp [settlements]
  | closed => simp [close, settlements, List.map_const', List.count_replicate]
  | _ => rfl

namespace History

def outstandingTickets (h : History) : List Nat := h.line.outstanding.map Pending.ticket

structure Booked (h : History) : Prop where
  orderly : h.line.Orderly
  known : ∀ p ∈ h.accepted,
    h.requests[p.ticket]? = some p.request ∧ p.request.encode p.tid = .ok p.frame
  ordered : h.acceptedTickets.Pairwise (· < ·)
  pending : h.line.outstanding <:+ h.accepted
  places : (h.settledTickets ++ h.outstandingTickets).Perm (List.range h.ticket)
  settled : h.settledTickets.filter (· ∈ h.acceptedTickets) ++ h.outstandingTickets =
    h.acceptedTickets
  waiting : h.line.connected = true → h.accepted = h.started ++ h.line.queue
  started : h.started <+: h.accepted
  sent : h.sent = h.started.map Pending.frame
  counted : settlements h.metrics = h.settled.length

variable {h : History} {c : Call}

theorem Booked.accepted_lt (b : h.Booked) : ∀ n ∈ h.acceptedTickets, n < h.ticket := by
  intro n hn
  obtain ⟨p, hp, rfl⟩ := List.mem_map.mp hn
  exact (List.getElem?_eq_some_iff.mp (b.known p hp).1).1

theorem Booked.settled_lt (b : h.Booked) : ∀ n ∈ h.settledTickets, n < h.ticket := by
  intro n hn
  have := b.places.mem_iff.mp (List.mem_append_left _ hn)
  exact List.mem_range.mp this

theorem Booked.outstanding_accepted (b : h.Booked) :
    ∀ n ∈ h.outstandingTickets, n ∈ h.acceptedTickets := by
  intro n hn
  rw [← b.settled]
  exact List.mem_append_right _ hn

theorem Booked.outstanding_unsettled (b : h.Booked) :
    ∀ n ∈ h.outstandingTickets, n ∉ h.settledTickets := by
  intro n waiting done
  have once := b.places.nodup_iff.mpr List.nodup_range
  exact (List.nodup_append.mp once).2.2 n done n waiting rfl

theorem accepted?_tickets (l : Line) (ticket : Nat) (c : Call) :
    (c.accepted? l ticket).toList.map Pending.ticket =
      if (c.accepted? l ticket).isSome then [ticket] else [] := by
  cases taken : c.accepted? l ticket with
  | none => rfl
  | some p => simp [(Call.accepted?_eq_some taken).2.2.1]

theorem record_known (b : h.Booked) : ∀ p ∈ (h.record c).accepted,
    (h.record c).requests[p.ticket]? = some p.request ∧ p.request.encode p.tid = .ok p.frame := by
  intro p hp
  simp only [record, List.mem_append, Option.mem_toList] at hp ⊢
  rcases hp with old | new
  · obtain ⟨request, encoded⟩ := b.known p old
    have bound := b.accepted_lt p.ticket (List.mem_map_of_mem old)
    exact ⟨by rw [List.getElem?_append_left bound, request], encoded⟩
  · obtain ⟨request, encoded, ticket, -⟩ := Call.accepted?_eq_some new
    refine ⟨?_, encoded⟩
    rw [ticket, request]
    simp [History.ticket]

theorem record_acceptedTickets (h : History) (c : Call) : (h.record c).acceptedTickets =
    h.acceptedTickets ++ if (c.accepted? h.line h.ticket).isSome then [h.ticket] else [] := by
  rw [← accepted?_tickets]
  simp [acceptedTickets, record]

theorem record_ticket (h : History) (c : Call) :
    (h.record c).ticket = if c.request?.isSome then h.ticket + 1 else h.ticket := by
  cases requested : c.request? <;> simp [ticket, record, requested]

theorem record_ordered (b : h.Booked) : (h.record c).acceptedTickets.Pairwise (· < ·) := by
  rw [record_acceptedTickets]
  split
  · refine List.pairwise_append.mpr ⟨b.ordered, by simp, ?_⟩
    intro n hn m hm
    rw [List.mem_singleton.mp hm]
    exact b.accepted_lt n hn
  · simpa using b.ordered

theorem record_pending (b : h.Booked) : (h.record c).line.outstanding <:+ (h.record c).accepted := by
  obtain ⟨past, accepted⟩ := b.pending
  simp only [record]
  rcases (turn_step h.line h.ticket c).conserves b.orderly with
    ⟨-, refused, -, same⟩ | ⟨done, -, moved, -⟩
  · rw [refused, show (h.turn c).line.outstanding = h.line.outstanding from same]
    simpa using b.pending
  · rw [← accepted, List.append_assoc, ← moved, ← List.append_assoc]
    exact List.suffix_append _ _

theorem record_conserves (o : h.line.Orderly) :
    (c.request?.isSome ∧ c.accepted? h.line h.ticket = none ∧
      (h.record c).settledTickets = h.settledTickets ++ [h.ticket] ∧
      (h.record c).outstandingTickets = h.outstandingTickets) ∨
    ∃ done : List Nat, (h.record c).settledTickets = h.settledTickets ++ done ∧
      done ++ (h.record c).outstandingTickets =
        h.outstandingTickets ++ (if (c.accepted? h.line h.ticket).isSome then [h.ticket] else []) ∧
      c.request?.isSome = (c.accepted? h.line h.ticket).isSome := by
  have settled : (h.record c).settledTickets =
      h.settledTickets ++ (h.line.turn h.ticket c).settledTickets := record_settledTickets h c
  rcases (turn_step h.line h.ticket c).conserves o with
    ⟨asked, refused, own, same⟩ | ⟨done, tickets, moved, asked⟩
  · left
    exact ⟨asked, refused, by rw [settled, own], congrArg (List.map Pending.ticket) same⟩
  · right
    refine ⟨done.map Pending.ticket, by rw [settled, tickets], ?_, asked⟩
    rw [← accepted?_tickets]
    have := congrArg (List.map Pending.ticket) moved
    rw [List.map_append, List.map_append] at this
    exact this

theorem record_places (b : h.Booked) :
    ((h.record c).settledTickets ++ (h.record c).outstandingTickets).Perm
      (List.range (h.record c).ticket) := by
  rw [record_ticket]
  rcases record_conserves b.orderly (c := c) with
    ⟨asked, -, own, same⟩ | ⟨done, settled, moved, asked⟩
  · rw [own, same, if_pos asked, List.range_succ, List.append_assoc]
    have swap : ([h.ticket] ++ h.outstandingTickets).Perm (h.outstandingTickets ++ [h.ticket]) :=
      List.perm_append_comm
    refine (swap.append_left _).trans ?_
    rw [← List.append_assoc]
    exact b.places.append_right _
  · rw [settled, List.append_assoc, moved, asked, ← List.append_assoc]
    split
    · rw [List.range_succ]
      exact b.places.append_right _
    · simpa using b.places

theorem record_settled (b : h.Booked) :
    (h.record c).settledTickets.filter (· ∈ (h.record c).acceptedTickets) ++
      (h.record c).outstandingTickets = (h.record c).acceptedTickets := by
  rw [record_acceptedTickets]
  -- a ticket that is settled already is not the one given out now
  have past : h.settledTickets.filter (· ∈ h.acceptedTickets ++ [h.ticket]) =
      h.settledTickets.filter (· ∈ h.acceptedTickets) := by
    apply List.filter_congr
    intro n hn
    have := b.settled_lt n hn
    simp [Nat.ne_of_lt this]
  rcases record_conserves b.orderly (c := c) with
    ⟨-, refused, own, same⟩ | ⟨done, settled, moved, -⟩
  · have fresh : h.ticket ∉ h.acceptedTickets := fun old => Nat.lt_irrefl _ (b.accepted_lt _ old)
    simp [own, same, refused, fresh, b.settled]
  · have taken : ∀ n ∈ done, n ∈ h.acceptedTickets ++
        if (c.accepted? h.line h.ticket).isSome then [h.ticket] else [] := by
      intro n hn
      have : n ∈ h.outstandingTickets ++
          if (c.accepted? h.line h.ticket).isSome then [h.ticket] else [] := by
        rw [← moved]
        exact List.mem_append_left _ hn
      rcases List.mem_append.mp this with old | new
      · exact List.mem_append_left _ (b.outstanding_accepted n old)
      · exact List.mem_append_right _ new
    have kept : done.filter (· ∈ h.acceptedTickets ++
        if (c.accepted? h.line h.ticket).isSome then [h.ticket] else []) = done :=
      List.filter_eq_self.mpr (by simpa using taken)
    rw [settled, List.filter_append, kept, List.append_assoc, moved, ← List.append_assoc]
    split
    · rw [past, b.settled]
    · simp [b.settled]

theorem record_waiting (b : h.Booked) :
    ((h.record c).line.connected = true →
      (h.record c).accepted = (h.record c).started ++ (h.record c).line.queue) ∧
    (h.record c).started <+: (h.record c).accepted := by
  simp only [record]
  rcases (turn_step h.line h.ticket c).hands_over b.orderly with
    ⟨on, -, moved⟩ | ⟨off, nothing, refused⟩
  · have moved : h.accepted ++ (c.accepted? h.line h.ticket).toList =
        h.started ++ (h.turn c).started.toList ++ (h.turn c).line.queue := by
      rw [b.waiting on, List.append_assoc, List.append_assoc]
      exact congrArg (h.started ++ ·) moved.symm
    rw [moved]
    exact ⟨fun _ => rfl, List.prefix_append _ _⟩
  · constructor
    · intro on
      rw [show (h.turn c).line.connected = false from off] at on
      cases on
    · rw [show (h.turn c).started = none from nothing, refused]
      simpa using b.started

theorem record_booked (b : h.Booked) : (h.record c).Booked where
  orderly := (turn_step h.line h.ticket c).orderly b.orderly
  known := record_known b
  ordered := record_ordered b
  pending := record_pending b
  places := record_places b
  settled := record_settled b
  waiting := (record_waiting b).1
  started := (record_waiting b).2
  sent := by
    have sent : (h.turn c).sent = (h.turn c).started.map Pending.frame :=
      (turn_step h.line h.ticket c).sent_eq
    simp [record, sent, b.sent, Option.toList_map]
  counted := by
    have counts : settlements (h.turn c).metrics = (h.turn c).settled.length :=
      (turn_step h.line h.ticket c).counts
    simp [record, counts, b.counted]

end History

theorem history_booked (timeout : Nat) (calls : List Call) : (history timeout calls).Booked := by
  refine history_invariant timeout ?_ (fun _ _ => History.record_booked) calls
  constructor <;> simp [settlements, History.settledTickets, History.acceptedTickets,
    History.outstandingTickets, History.ticket, outstanding]
  exact ⟨fun _ => rfl, fun _ => rfl⟩

structure History.Accounted (h : History) : Prop where
  places : (h.settledTickets ++ (h.line.inFlight.map (·.pending.ticket)).toList ++
    h.line.queue.map Pending.ticket).Perm (List.range h.requests.length)
  ended : h.line.connected = false → h.settledTickets.Perm (List.range h.requests.length)
  accepted : ∀ p ∈ h.accepted,
    h.requests[p.ticket]? = some p.request ∧ p.request.encode p.tid = .ok p.frame
  ordered : h.acceptedTickets.Pairwise (· < ·)
  started : h.started <+: h.accepted
  sent : h.sent = h.started.map Pending.frame
  settled : h.settledTickets.filter (· ∈ h.acceptedTickets) ++
    (h.line.inFlight.map (·.pending.ticket)).toList ++ h.line.queue.map Pending.ticket =
      h.acceptedTickets
  counted : h.requests.length =
    h.metrics.count .responsesMatched + h.metrics.count .checksumMismatches +
      h.metrics.count .requestsTimedOut + h.metrics.count .requestsFailed +
      (if h.line.inFlight.isSome then 1 else 0) + h.line.queue.length

theorem History.outstandingTickets_eq (h : History) : h.outstandingTickets =
    (h.line.inFlight.map (·.pending.ticket)).toList ++ h.line.queue.map Pending.ticket := by
  cases flying : h.line.inFlight <;> simp [outstandingTickets, outstanding, flying]

theorem History.Booked.accounted {h : History} (b : h.Booked) : h.Accounted where
  places := by
    rw [List.append_assoc, ← outstandingTickets_eq]
    exact b.places
  ended := by
    intro off
    have empty : h.outstandingTickets = [] := by
      have free := b.orderly.closed off
      simp [outstandingTickets, outstanding_of_free free, b.orderly.free free]
    have places := b.places
    rwa [empty, List.append_nil] at places
  accepted := b.known
  ordered := b.ordered
  started := b.started
  sent := b.sent
  settled := by
    rw [List.append_assoc, ← outstandingTickets_eq]
    exact b.settled
  counted := by
    have total := b.places.length_eq
    rw [outstandingTickets_eq] at total
    have counted := b.counted
    simp only [settlements] at counted
    cases flying : h.line.inFlight <;>
      simp [flying, settledTickets, ticket] at total ⊢ <;> omega

theorem turn_refused {l : Line} {request : WireRequest} (ticket now : Nat)
    (refused : l.connected = false ∨ ∃ e, request.encode l.nextTid = .error e) :
    (∃ reason, (l.turn ticket (.submit request now)).settled = [(ticket, .failed reason)]) ∧
      (l.turn ticket (.submit request now)).sent = none ∧
      Call.accepted? l ticket (.submit request now) = none := by
  have step := turn_step l ticket (.submit request now)
  generalize l.turn ticket (.submit request now) = t at step
  cases step with
  | disconnected off => exact ⟨⟨_, rfl⟩, rfl, by simp [Call.accepted?, off]⟩
  | unencodable on failed => exact ⟨⟨_, rfl⟩, rfl, by simp [Call.accepted?, failed]⟩
  | queued on encoded | started on encoded => simp [on, encoded] at refused

theorem ticket_le_append (timeout : Nat) (before after : List Call) :
    (history timeout before).ticket ≤ (history timeout (before ++ after)).ticket := by
  induction after using List.reverseRecOn with
  | nil => simp
  | append_singleton after c ih =>
    rw [← List.append_assoc, history_concat, History.record_ticket]
    split <;> omega

theorem mem_acceptedTickets_append {timeout : Nat} {before after : List Call} {n : Nat}
    (given : n < (history timeout before).ticket)
    (taken : n ∈ (history timeout (before ++ after)).acceptedTickets) :
    n ∈ (history timeout before).acceptedTickets := by
  induction after using List.reverseRecOn with
  | nil => simpa using taken
  | append_singleton after c ih =>
    rw [← List.append_assoc, history_concat, History.record_acceptedTickets] at taken
    rcases List.mem_append.mp taken with old | new
    · exact ih old
    · have later := ticket_le_append timeout before after
      split at new
      · rw [List.mem_singleton] at new
        omega
      · cases new

theorem history_accounted (timeout : Nat) (calls : List Call) :
    (history timeout calls).Accounted ∧
    ∀ before request now after, calls = before ++ .submit request now :: after →
      let h := history timeout before
      h.line.connected = false ∨ (∃ e, request.encode h.line.nextTid = .error e) →
      (∃ reason, (h.turn (.submit request now)).settled = [(h.ticket, .failed reason)]) ∧
        (h.turn (.submit request now)).sent = none ∧
        ∀ p ∈ (history timeout calls).started, p.ticket ≠ h.ticket := by
  refine ⟨(history_booked timeout calls).accounted, ?_⟩
  rintro before request now after rfl h refused
  obtain ⟨own, silent, declined⟩ := turn_refused h.ticket now refused
  refine ⟨own, silent, ?_⟩
  intro p started same
  have taken : h.ticket ∈ (history timeout (before ++ .submit request now :: after)).acceptedTickets := by
    rw [← same]
    exact List.mem_map_of_mem ((history_booked timeout _).started.subset started)
  rw [List.append_cons] at taken
  have given : h.ticket < (history timeout (before ++ [.submit request now])).ticket := by
    rw [history_concat, History.record_ticket]
    exact Nat.lt_succ_self _
  have old := mem_acceptedTickets_append given taken
  rw [history_concat, History.record_acceptedTickets, declined] at old
  exact Nat.lt_irrefl _ ((history_booked timeout before).accepted_lt _ (by simpa using old))

end MeterGateway.Line
