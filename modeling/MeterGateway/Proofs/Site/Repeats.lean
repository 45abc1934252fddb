import MeterGateway.Proofs.Registry.Changes
import MeterGateway.Proofs.Site.Devices

namespace MeterGateway

namespace Entry

theorem lastValue?_eq_some {entries : List Entry} {key : String} {v : Json}
    (last : lastValue? entries key = some v) : ∃ e ∈ entries, e.key = key ∧ e.value = v := by
  obtain ⟨e, final, rfl⟩ := Option.map_eq_some_iff.mp last
  obtain ⟨mem, own⟩ := List.mem_filter.mp (List.mem_of_getLast? final)
  exact ⟨e, mem, of_decide_eq_true own, rfl⟩

theorem lastValue?_of_mem {entries : List Entry} {e : Entry} (mem : e ∈ entries) :
    ∃ v, lastValue? entries e.key = some v := by
  have own : e ∈ entries.filter (·.key = e.key) := List.mem_filter.mpr ⟨mem, decide_eq_true rfl⟩
  obtain ⟨last, final⟩ := Option.ne_none_iff_exists'.mp
    (mt List.getLast?_eq_none_iff.mp (List.ne_nil_of_mem own))
  exact ⟨last.value, by rw [lastValue?, final, Option.map_some]⟩

theorem tells_eq_false_iff {before : List Entry} {e : Entry} :
    tells before e = false ↔ (lastValue? before e.key).map Json.plain = some e.value.plain := by
  unfold tells
  cases lastValue? before e.key with
  | none => simp
  | some v => simp [Json.same_iff]

/-- Nothing is news just when all of it has been the last word before. -/
theorem news_eq_nil_iff (before entries : List Entry) : news before entries = [] ↔
    ∀ e ∈ entries, (lastValue? before e.key).map Json.plain = some e.value.plain := by
  induction entries generalizing before with
  | nil => simp [news]
  | cons e rest ih =>
    rw [news, List.forall_mem_cons, ← tells_eq_false_iff]
    cases fresh : tells before e with
    | true => simp
    | false =>
      have agree : Agree (before ++ [e]) before := by
        intro key
        rw [lastValue?_snoc]
        split
        · rename_i mine
          rw [mine, tells_eq_false_iff.mp fresh, Option.map_some]
        · rfl
      simp only [Bool.false_eq_true, if_false, true_and, ih]
      exact forall₂_congr fun f _ => by rw [agree f.key]

theorem news_append (before : List Entry) {middle entries : List Entry}
    (covered : ∀ e ∈ entries, ∃ v, lastValue? middle e.key = some v) :
    news (before ++ middle) entries = news middle entries := by
  induction entries generalizing middle with
  | nil => rfl
  | cons e rest ih =>
    obtain ⟨⟨v, last⟩, covered⟩ := List.forall_mem_cons.mp covered
    have same : tells (before ++ middle) e = tells middle e := by
      rw [tells, tells, lastValue?_append, last, Option.some_or]
    have later : ∀ f ∈ rest, ∃ v, lastValue? (middle ++ [e]) f.key = some v := by
      intro f mem
      obtain ⟨w, known⟩ := covered f mem
      rw [lastValue?_snoc]
      split
      · exact ⟨e.value, rfl⟩
      · exact ⟨w, known⟩
    rw [news, news, same, List.append_assoc, ih later]

theorem news_self_eq_nil_iff (entries : List Entry) : news entries entries = [] ↔
    ∀ e ∈ entries, ∀ f ∈ entries, e.key = f.key → e.value.same f.value = true := by
  rw [news_eq_nil_iff]
  constructor
  · intro final e mine f other same
    have alike := (final e mine).symm.trans (same ▸ final f other)
    exact (Json.same_iff _ _).mpr (Option.some.inj alike)
  · intro single e mem
    obtain ⟨v, last⟩ := lastValue?_of_mem mem
    obtain ⟨f, other, same, rfl⟩ := lastValue?_eq_some last
    rw [last, Option.map_some, (Json.same_iff _ _).mp (single f other e mem same)]

end Entry

namespace Snapshot

open Entry

theorem exists_reflects (values : List (String × Json)) : ∃ before, Reflects values before := by
  induction values with
  | nil => exact ⟨[], fun _ => rfl⟩
  | cons entry rest ih =>
    obtain ⟨before, reflects⟩ := ih
    refine ⟨before ++ [⟨entry.1, entry.2⟩], ?_⟩
    intro key
    rw [lookup_cons_eq, lastValue?_snoc]
    split
    · rfl
    · exact reflects key

theorem filter_again (s : Snapshot) (entries : List Entry) (now later : Nat) :
    ((s.filter true entries now).2.filter true entries later).1 = news entries entries := by
  obtain ⟨before, reflects⟩ := exists_reflects s.values
  rw [(filter_changes _ entries later).1, (filter_changes s entries now).2,
    changes_news (changes_reflects reflects entries)]
  exact news_append before fun e mem => lastValue?_of_mem mem

end Snapshot

def Report.IsConsistent (report : Report) : Prop :=
  ∀ kind, ∀ e ∈ report.entries kind, ∀ f ∈ report.entries kind, e.key = f.key →
    e.value.same f.value = true

theorem Report.isEmpty_iff (report : Report) :
    report.isEmpty = true ↔ ∀ kind, report.entries kind = [] := by
  rw [isEmpty, Bool.and_eq_true, List.isEmpty_iff, List.isEmpty_iff]
  constructor
  · rintro ⟨telemetry, attributes⟩ (_ | _)
    · exact attributes
    · exact telemetry
  · exact fun empty => ⟨empty .timeseries, empty .attributes⟩

theorem Site.forward_eq {s : Site} {name : String} {r : Record}
    (found : s.port.registry.get? name = some r) (kind : PollKind) (report : Report) (now : Nat) :
    (s.forward name kind report now).port.registry = s.port.registry.update (r.filterChanges report now).2 ∧
      (s.forward name kind report now).headEnd.stored = s.headEnd.stored ++
        if (r.filterChanges report now).1.isEmpty then []
        else [(r.connector, (r.filterChanges report now).1)] := by
  simp only [forward, found]
  split
  · exact ⟨rfl, (List.append_nil _).symm⟩
  · exact ⟨rfl, rfl⟩

namespace Record

open Entry

/-- A report that comes again is forwarded in those entries that differ from the ones before them in
the report itself; it is not forwarded, and nothing is stored, just when it is consistent. -/
theorem repeated_report_is_silent_iff (r : Record) (onlyOnChange : r.config.sendDataOnlyOnChange = true)
    (report : Report) (now later : Nat) :
    let again := ((r.filterChanges report now).2.filterChanges report later).1
    (∀ kind, again.entries kind = news (report.entries kind) (report.entries kind)) ∧
    (again.isEmpty = true ↔ report.IsConsistent) ∧
    ∀ (s : Site) (name : String) (kind : PollKind), s.port.registry.get? name = some r →
      let s' := s.forward name kind report now
      ((s'.forward name kind report later).headEnd.stored = s'.headEnd.stored ↔ report.IsConsistent) := by
  intro again
  have entries : ∀ kind, again.entries kind = news (report.entries kind) (report.entries kind) := by
    intro kind
    rw [filterChanges_entries, filterChanges_snapshot, filterChanges_config, onlyOnChange,
      Snapshot.filter_again]
  have silent : again.isEmpty = true ↔ report.IsConsistent := by
    rw [Report.isEmpty_iff]
    exact forall_congr' fun kind => by rw [entries, news_self_eq_nil_iff]
  refine ⟨entries, silent, ?_⟩
  intro s name kind found s'
  obtain ⟨registry, -⟩ := Site.forward_eq found kind report now
  have named : r.name = name := by simpa using List.find?_some found
  have remembered : s'.port.registry.get? name = some (r.filterChanges report now).2 := by
    rw [registry, Registry.get?_update, found]
    exact if_pos named
  rw [(Site.forward_eq remembered kind report later).2, List.append_right_eq_self, ← silent]
  simp [again]

def pair : Report := { levels 5 4 with telemetry := [⟨"level", .ofNat 5⟩, ⟨"level", .ofNat 7⟩] }

theorem repeated_report_is_silent_iff_levels :
    let again := ((gauge.filterChanges (levels 5 4) 1000).2.filterChanges (levels 5 4) 2000).1
    gauge.config.sendDataOnlyOnChange = true ∧ (levels 5 4).IsConsistent ∧ again.isEmpty = true := by
  intro again
  have onlyOnChange : gauge.config.sendDataOnlyOnChange = true := rfl
  have consistent : (levels 5 4).IsConsistent := by
    rintro (_ | _) <;> simp [levels, Report.entries, Json.ofNat, Json.same, Number.same]
  have repeated := repeated_report_is_silent_iff gauge onlyOnChange (levels 5 4) 1000 2000
  exact ⟨onlyOnChange, consistent, repeated.2.1.mpr consistent⟩

/-- A report with two values of one key is forwarded whole each time it comes. -/
theorem pair_is_forwarded_again :
    let again := ((gauge.filterChanges pair 1000).2.filterChanges pair 2000).1
    gauge.config.sendDataOnlyOnChange = true ∧ again = pair ∧ again.isEmpty = false :=
  ⟨rfl, rfl, rfl⟩

end Record

end MeterGateway
