import Mathlib.Data.List.Induction
import MeterGateway.Proofs.Json
import MeterGateway.Proofs.Keyed
import MeterGateway.Proofs.Registry.Devices

/-!
What is forwarded of the reports of a device.  Where only changes are wanted, an entry goes on just
when the last entry of its key and its kind, in all that was ever reported, had another value; who
keeps the last value under each key of what is forwarded knows as much as one who gets everything.
-/

namespace MeterGateway

namespace Entry

def lastValue? (entries : List Entry) (key : String) : Option Json :=
  (entries.filter (·.key = key)).getLast?.map Entry.value

/-- Whether the last entry of the same key before this one had another value, or there was none. -/
def tells (before : List Entry) (e : Entry) : Bool :=
  match lastValue? before e.key with
  | some v => !v.same e.value
  | none => true

def news (before : List Entry) : List Entry → List Entry
  | [] => []
  | e :: rest =>
    if tells before e then e :: news (before ++ [e]) rest else news (before ++ [e]) rest

theorem lastValue?_append (xs ys : List Entry) (key : String) :
    lastValue? (xs ++ ys) key = (lastValue? ys key).or (lastValue? xs key) := by
  rw [lastValue?, List.filter_append, List.getLast?_append, Option.map_or]
  rfl

theorem lastValue?_snoc (xs : List Entry) (e : Entry) (key : String) :
    lastValue? (xs ++ [e]) key = if key = e.key then some e.value else lastValue? xs key := by
  rw [lastValue?_append]
  by_cases same : key = e.key
  · simp [lastValue?, same]
  · simp [lastValue?, same, Ne.symm same]

def Agree (xs ys : List Entry) : Prop :=
  ∀ key, (lastValue? xs key).map Json.plain = (lastValue? ys key).map Json.plain

end Entry

namespace Snapshot

open Entry

theorem lookup_put (key : String) (value : Json) (values : List (String × Json)) (other : String) :
    (put key value values).lookup other = if other = key then some value else values.lookup other := by
  induction values with
  | nil => exact lookup_cons_eq (key, value) [] other
  | cons entry rest ih =>
    obtain ⟨k, v⟩ := entry
    by_cases mine : k = key
    · rw [put, if_pos mine, lookup_cons_eq, lookup_cons_eq, mine]
      split <;> rfl
    · rw [put, if_neg mine, lookup_cons_eq, lookup_cons_eq, ih]
      by_cases same : other = k
      · simp [same, mine]
      · simp [same]

theorem put_keys (key : String) (value : Json) (values : List (String × Json)) :
    (put key value values).map Prod.fst =
      values.map Prod.fst ++ if key ∈ values.map Prod.fst then [] else [key] := by
  induction values with
  | nil => rfl
  | cons entry rest ih =>
    obtain ⟨k, v⟩ := entry
    by_cases mine : k = key
    · simp [put, mine]
    · rw [put, if_neg mine, List.map_cons, ih, List.map_cons, List.cons_append]
      simp only [List.mem_cons, Ne.symm mine, false_or]

def keep (values : List (String × Json)) (entries : List Entry) : List (String × Json) :=
  entries.foldl (fun values e => put e.key e.value values) values

theorem keep_append (values : List (String × Json)) (xs ys : List Entry) :
    keep values (xs ++ ys) = keep (keep values xs) ys := List.foldl_append

theorem lookup_keep (values : List (String × Json)) (entries : List Entry) (key : String) :
    (keep values entries).lookup key = (lastValue? entries key).or (values.lookup key) := by
  induction entries using List.reverseRecOn with
  | nil => rfl
  | append_singleton entries e ih =>
    rw [keep, List.foldl_concat, lookup_put, lastValue?_snoc, ← keep, ih]
    split <;> rfl

theorem keep_distinct {values : List (String × Json)} (distinct : (values.map Prod.fst).Nodup)
    (entries : List Entry) : ((keep values entries).map Prod.fst).Nodup := by
  induction entries using List.reverseRecOn with
  | nil => exact distinct
  | append_singleton entries e ih =>
    rw [keep, List.foldl_concat, ← keep, put_keys]
    split
    · rwa [List.append_nil]
    · rename_i absent
      refine List.nodup_append.mpr ⟨ih, List.nodup_singleton _, ?_⟩
      rintro key mem other single rfl
      exact absent (List.mem_singleton.mp single ▸ mem)

/-- The values are the last ones of these entries. -/
def Reflects (values : List (String × Json)) (entries : List Entry) : Prop :=
  ∀ key, (values.lookup key).map Json.plain = (lastValue? entries key).map Json.plain

section Changes

variable {values : List (String × Json)} {before : List Entry}

theorem isNews_eq (reflects : Reflects values before) (e : Entry) :
    isNews values e = tells before e := by
  have same := reflects e.key
  unfold isNews tells
  cases held : values.lookup e.key with
  | none =>
    rw [held, Option.map_none, eq_comm, Option.map_eq_none_iff] at same
    rw [same]
  | some v =>
    rw [held, Option.map_some, eq_comm, Option.map_eq_some_iff] at same
    obtain ⟨w, last, alike⟩ := same
    simp only [last, Json.same_congr alike]

theorem Reflects.put (reflects : Reflects values before) (e : Entry) :
    Reflects (put e.key e.value values) (before ++ [e]) := by
  intro key
  rw [lookup_put, lastValue?_snoc]
  split
  · rfl
  · exact reflects key

theorem Reflects.pass (reflects : Reflects values before) {e : Entry} (stale : isNews values e = false) :
    Reflects values (before ++ [e]) := by
  intro key
  rw [lastValue?_snoc]
  split
  · rename_i mine
    subst mine
    unfold isNews at stale
    split at stale
    · rename_i v held
      rw [held, Option.map_some, Option.map_some, (Json.same_iff v e.value).mp (by simpa using stale)]
    · cases stale
  · exact reflects key

theorem changes_news (reflects : Reflects values before) (entries : List Entry) :
    (changes values entries).1 = news before entries := by
  induction entries generalizing values before with
  | nil => rfl
  | cons e rest ih =>
    rw [changes, news, ← isNews_eq reflects]
    cases fresh : isNews values e with
    | true => exact congrArg (e :: ·) (ih (reflects.put e))
    | false => exact ih (reflects.pass fresh)

theorem changes_reflects (reflects : Reflects values before) (entries : List Entry) :
    Reflects (changes values entries).2 (before ++ entries) := by
  induction entries generalizing values before with
  | nil => rwa [List.append_nil]
  | cons e rest ih =>
    rw [changes, List.append_cons]
    cases fresh : isNews values e with
    | true => exact ih (reflects.put e)
    | false => exact ih (reflects.pass fresh)

theorem changes_keep (values : List (String × Json)) (entries : List Entry) :
    (changes values entries).2 = keep values (changes values entries).1 := by
  induction entries generalizing values with
  | nil => rfl
  | cons e rest ih =>
    rw [changes]
    cases isNews values e with
    | true => exact ih _
    | false => exact ih _

end Changes

theorem filter_changes (s : Snapshot) (entries : List Entry) (now : Nat) :
    (s.filter true entries now).1 = (changes s.values entries).1 ∧
      (s.filter true entries now).2.values = (changes s.values entries).2 := by
  cases entries with
  | nil => exact ⟨rfl, rfl⟩
  | cons e rest => exact ⟨rfl, rfl⟩

theorem filter_all (s : Snapshot) (entries : List Entry) (now : Nat) :
    (s.filter false entries now).1 = entries ∧
      (s.filter false entries now).2.values = if entries = [] then s.values else keep [] entries := by
  cases entries with
  | nil => exact ⟨rfl, rfl⟩
  | cons e rest => exact ⟨rfl, rfl⟩

theorem listing_sorted {s : Snapshot} (distinct : (s.values.map Prod.fst).Nodup) :
    s.listing.Pairwise (·.1 < ·.1) := by
  have ordered : s.listing.Pairwise fun a b => (!decide (b.1 < a.1)) = true := by
    apply List.pairwise_mergeSort
    · intro a b c ab bc
      simp only [Bool.not_eq_true', decide_eq_false_iff_not, String.not_lt] at *
      exact String.le_trans ab bc
    · intro a b
      simp only [Bool.or_eq_true, Bool.not_eq_true', decide_eq_false_iff_not, String.not_lt]
      exact String.le_total _ _
  have perm : s.listing.Perm s.values := List.mergeSort_perm _ _
  have apart : s.listing.Pairwise (·.1 ≠ ·.1) := List.pairwise_map.mp ((perm.map Prod.fst).nodup_iff.mpr distinct)
  refine (ordered.and apart).imp ?_
  rintro a b ⟨le, ne⟩
  simp only [Bool.not_eq_true', decide_eq_false_iff_not, String.not_lt] at le
  by_contra above
  exact ne (String.le_antisymm le (String.not_lt.mp above))

theorem mem_listing {s : Snapshot} (distinct : (s.values.map Prod.fst).Nodup) (key : String)
    (value : Json) : (key, value) ∈ s.listing ↔ s.values.lookup key = some value := by
  rw [listing, List.mem_mergeSort, lookup_iff_mem distinct]

end Snapshot

namespace Report

def brought (kind : PollKind) (reports : List Report) : List Entry := reports.flatMap (·.entries kind)

def lastBrought (kind : PollKind) (reports : List Report) : List Entry :=
  ((reports.map (·.entries kind)).filter (! ·.isEmpty)).getLast?.getD []

theorem brought_snoc (kind : PollKind) (reports : List Report) (report : Report) :
    brought kind (reports ++ [report]) = brought kind reports ++ report.entries kind := by
  simp [brought]

theorem lastBrought_snoc (kind : PollKind) (reports : List Report) (report : Report) :
    lastBrought kind (reports ++ [report]) =
      if report.entries kind = [] then lastBrought kind reports else report.entries kind := by
  rw [lastBrought, List.map_append, List.filter_append]
  split
  · rename_i nothing
    simp [nothing, lastBrought]
  · rename_i some
    simp [some]

end Report

namespace Record

open Entry Report Snapshot

variable (r : Record)

theorem filterChanges_entries (report : Report) (now : Nat) (kind : PollKind) :
    (r.filterChanges report now).1.entries kind =
      ((r.snapshot kind).filter r.config.sendDataOnlyOnChange (report.entries kind) now).1 := by
  cases kind <;> rfl

theorem filterChanges_snapshot (report : Report) (now : Nat) (kind : PollKind) :
    (r.filterChanges report now).2.snapshot kind =
      ((r.snapshot kind).filter r.config.sendDataOnlyOnChange (report.entries kind) now).2 := by
  cases kind <;> rfl

@[simp] theorem filterChanges_config (report : Report) (now : Nat) :
    (r.filterChanges report now).2.config = r.config := rfl

@[simp] theorem lasting_config : r.lasting.config = r.config := rfl

theorem lasting_snapshot (kind : PollKind) : r.lasting.snapshot kind = {} := by
  cases kind <;> rfl

def after (reports : List (Report × Nat)) : Record :=
  reports.foldl (fun r (report, now) => (r.filterChanges report now).2) r

def forwards (r : Record) : List (Report × Nat) → List Report
  | [] => []
  | (report, now) :: rest =>
    (r.filterChanges report now).1 :: forwards (r.filterChanges report now).2 rest

theorem after_snoc (reports : List (Report × Nat)) (report : Report) (now : Nat) :
    r.after (reports ++ [(report, now)]) = ((r.after reports).filterChanges report now).2 :=
  List.foldl_concat ..

theorem forwards_snoc (reports : List (Report × Nat)) (report : Report) (now : Nat) :
    r.forwards (reports ++ [(report, now)]) =
      r.forwards reports ++ [((r.after reports).filterChanges report now).1] := by
  induction reports generalizing r with
  | nil => rfl
  | cons x rest ih => exact congrArg (_ :: ·) (ih _)

@[simp] theorem after_config (reports : List (Report × Nat)) : (r.after reports).config = r.config := by
  induction reports using List.reverseRecOn with
  | nil => rfl
  | append_singleton reports x ih =>
    rw [after_snoc, filterChanges_config, ih]

/-- The values that a record remembers are the last ones that were reported, and they are those that
were forwarded. -/
theorem after_reflects (onlyOnChange : r.config.sendDataOnlyOnChange = true)
    (reports : List (Report × Nat)) (kind : PollKind) :
    let values := ((r.lasting.after reports).snapshot kind).values
    Reflects values (brought kind (reports.map Prod.fst)) ∧
      values = keep [] (brought kind (r.lasting.forwards reports)) := by
  induction reports using List.reverseRecOn with
  | nil =>
    simp only [after, List.foldl_nil, lasting_snapshot]
    exact ⟨fun key => rfl, rfl⟩
  | append_singleton reports x ih =>
    obtain ⟨report, now⟩ := x
    obtain ⟨reflects, kept⟩ := ih
    simp only [after_snoc, forwards_snoc, filterChanges_snapshot, after_config, lasting_config, onlyOnChange,
      List.map_append, brought_snoc, List.map_singleton, filterChanges_entries]
    obtain ⟨forwarded, values⟩ :=
      filter_changes ((r.lasting.after reports).snapshot kind) (report.entries kind) now
    rw [values, forwarded]
    refine ⟨changes_reflects reflects _, ?_⟩
    rw [changes_keep, keep_append, ← kept]

theorem after_lastBrought (always : r.config.sendDataOnlyOnChange = false)
    (reports : List (Report × Nat)) (kind : PollKind) :
    ((r.lasting.after reports).snapshot kind).values =
      keep [] (lastBrought kind (reports.map Prod.fst)) := by
  induction reports using List.reverseRecOn with
  | nil => exact congrArg Snapshot.values (r.lasting_snapshot kind)
  | append_singleton reports x ih =>
    obtain ⟨report, now⟩ := x
    simp only [after_snoc, filterChanges_snapshot, after_config, lasting_config, always, List.map_append,
      List.map_singleton, lastBrought_snoc]
    rw [(filter_all _ _ now).2, ih]
    split <;> rfl

theorem filterChanges_apart {r q : Record} (config : r.config = q.config) {kind : PollKind}
    (same : (r.snapshot kind).values = (q.snapshot kind).values) {report other : Report}
    (entries : report.entries kind = other.entries kind) (now later : Nat) :
    (r.filterChanges report now).1.entries kind = (q.filterChanges other later).1.entries kind ∧
      ((r.filterChanges report now).2.snapshot kind).values =
        ((q.filterChanges other later).2.snapshot kind).values := by
  simp only [filterChanges_entries, filterChanges_snapshot, config, entries]
  cases q.config.sendDataOnlyOnChange with
  | true =>
    obtain ⟨news, values⟩ := filter_changes (r.snapshot kind) (other.entries kind) now
    obtain ⟨news', values'⟩ := filter_changes (q.snapshot kind) (other.entries kind) later
    rw [news, values, news', values', same]
    exact ⟨rfl, rfl⟩
  | false =>
    obtain ⟨news, values⟩ := filter_all (r.snapshot kind) (other.entries kind) now
    obtain ⟨news', values'⟩ := filter_all (q.snapshot kind) (other.entries kind) later
    rw [news, values, news', values', same]
    exact ⟨rfl, rfl⟩

theorem after_apart {reports others : List (Report × Nat)} {kind : PollKind}
    (entries : reports.map (·.1.entries kind) = others.map (·.1.entries kind)) :
    ((r.after reports).snapshot kind).values = ((r.after others).snapshot kind).values := by
  induction reports using List.reverseRecOn generalizing others with
  | nil => rw [List.map_eq_nil_iff.mp entries.symm]
  | append_singleton reports x ih =>
    rw [List.map_append] at entries
    obtain ⟨others, last, rfl, before, single⟩ := List.map_eq_append_iff.mp entries.symm
    obtain ⟨y, rfl, own⟩ := List.map_eq_singleton_iff.mp single
    rw [after_snoc, after_snoc]
    exact (filterChanges_apart (by simp) (ih before.symm) own.symm _ _).2

theorem forwarding_follows_history (reports : List (Report × Nat)) :
    let s := r.lasting.after reports
    let past := reports.map Prod.fst
    (r.config.sendDataOnlyOnChange = true →
      (∀ report now kind, (s.filterChanges report now).1.entries kind =
        news (brought kind past) (report.entries kind)) ∧
      ∀ kind, Agree (brought kind (r.lasting.forwards reports)) (brought kind past)) ∧
    (r.config.sendDataOnlyOnChange = false →
      (∀ report now, (s.filterChanges report now).1 = report) ∧
      ∀ kind, (s.snapshot kind).listing.Pairwise (·.1 < ·.1) ∧ ∀ key value,
        (key, value) ∈ (s.snapshot kind).listing ↔
          lastValue? (lastBrought kind past) key = some value) ∧
    (∀ report now, (s.filterChanges report now).1.deviceName = report.deviceName ∧
      (s.filterChanges report now).1.deviceType = report.deviceType) ∧
    ∀ others kind, reports.map (·.1.entries kind) = others.map (·.1.entries kind) →
      ∀ report other now later, report.entries kind = other.entries kind →
        (s.filterChanges report now).1.entries kind =
          ((r.lasting.after others).filterChanges other later).1.entries kind := by
  intro s past
  have config : s.config = r.config := by simp [s]
  refine ⟨?changing, ?always, fun report now => ⟨rfl, rfl⟩, ?apart⟩
  case changing =>
    intro onlyOnChange
    constructor
    · intro report now kind
      have reflects := (r.after_reflects onlyOnChange reports kind).1
      rw [filterChanges_entries, config, onlyOnChange, (filter_changes _ _ now).1]
      exact changes_news reflects _
    · intro kind key
      obtain ⟨reflects, kept⟩ := r.after_reflects onlyOnChange reports kind
      rw [← reflects key, kept, lookup_keep, List.lookup_nil, Option.or_none]
  case always =>
    intro always
    constructor
    · intro report now
      have telemetry := (filter_all s.timeseries report.telemetry now).1
      have attributes := (filter_all s.attributes report.attributes now).1
      rw [filterChanges, config, always]
      simp only [telemetry, attributes]
    · intro kind
      have values := r.after_lastBrought always reports kind
      have distinct : ((s.snapshot kind).values.map Prod.fst).Nodup := by
        rw [values]
        apply keep_distinct
        exact List.nodup_nil
      refine ⟨listing_sorted distinct, ?_⟩
      intro key value
      rw [mem_listing distinct, values, lookup_keep, List.lookup_nil, Option.or_none]
  case apart =>
    intro others kind entries report other now later same
    exact (filterChanges_apart (by simp) (r.lasting.after_apart entries) same now later).1

def gauge : Record where
  config := { deviceName := "gauge-1", sendDataOnlyOnChange := true }
  token := "k"
  connector := "quay"
  uplink := Uplink.bytes
  downlink := Downlink.bytes

def levels (level former : Nat) : Report where
  deviceName := "gauge-1"
  deviceType := "default"
  telemetry := [⟨"level", .ofNat level⟩, ⟨"former", .ofNat former⟩]

theorem forwarding_follows_history_gauge :
    let s := gauge.lasting.after [(levels 5 4, 1000), (levels 6 5, 2000)]
    gauge.config.sendDataOnlyOnChange = true ∧
      (s.filterChanges (levels 6 6) 3000).1.entries .timeseries = [⟨"former", .ofNat 6⟩] := by
  intro s
  have onlyOnChange : gauge.config.sendDataOnlyOnChange = true := rfl
  refine ⟨onlyOnChange, ?_⟩
  have follows := gauge.forwarding_follows_history [(levels 5 4, 1000), (levels 6 5, 2000)]
  rw [(follows.1 onlyOnChange).1]
  cbv

end Record

end MeterGateway
