import MeterGateway.Json.Record

namespace MeterGateway

inductive PollKind
  | attributes : PollKind
  | timeseries : PollKind
  deriving DecidableEq

namespace PollKind

def all : List PollKind := [attributes, timeseries]

def name : PollKind → String
  | attributes => "attributes"
  | timeseries => "timeseries"

def ofName? (name : String) : Option PollKind := all.find? (·.name = name)

end PollKind

structure Entry where
  key : String
  value : Json
  deriving Inhabited

/-- Entries of one device; those polled as timeseries are telemetry. -/
structure Report where
  deviceName : String
  deviceType : String
  telemetry : List Entry := []
  attributes : List Entry := []
  deriving Inhabited

namespace Report

def entries (r : Report) : PollKind → List Entry
  | .attributes => r.attributes
  | .timeseries => r.telemetry

def push (r : Report) (kind : PollKind) (entry : Entry) : Report :=
  match kind with
  | .attributes => { r with attributes := r.attributes ++ [entry] }
  | .timeseries => { r with telemetry := r.telemetry ++ [entry] }

def append (r s : Report) : Report :=
  { r with telemetry := r.telemetry ++ s.telemetry, attributes := r.attributes ++ s.attributes }

def isEmpty (r : Report) : Bool := r.telemetry.isEmpty && r.attributes.isEmpty

theorem entries_push (r : Report) (kind : PollKind) (e : Entry) (other : PollKind) :
    (r.push kind e).entries other = r.entries other ++ if other = kind then [e] else [] := by
  cases kind <;> cases other <;> simp [push, entries]

theorem entries_foldl_push (kind : PollKind) (es : List Entry) (r : Report) (other : PollKind) :
    (es.foldl (·.push kind ·) r).entries other =
      r.entries other ++ if other = kind then es else [] := by
  induction es generalizing r with
  | nil => simp
  | cons e es ih =>
    rw [List.foldl_cons, ih, entries_push]
    split <;> simp

theorem entries_pushed (deviceName deviceType : String) (kind : PollKind) (es : List Entry) :
    let r : Report := es.foldl (·.push kind ·) ({ deviceName, deviceType } : Report)
    r.entries kind = es ∧ ∀ other, other ≠ kind → r.entries other = [] := by
  have empty (k : PollKind) : ({ deviceName, deviceType } : Report).entries k = [] := by
    cases k <;> rfl
  constructor
  · rw [entries_foldl_push, if_pos rfl, empty, List.nil_append]
  · intro other apart
    rw [entries_foldl_push, if_neg apart, empty, List.nil_append]

end Report

namespace Entry

def read : Json.Reader Entry := fun j => do
  let ms ← Json.readMembers "KeyValue" [Json.member "key" Json.readString, Json.member "value" Json.readValue] j
  let key ← Json.require ms "key" Json.readString
  let value ← Json.require ms "value" Json.readValue
  return ⟨key, value⟩

def toJson (e : Entry) : Json := .obj [("key", .str e.key), ("value", e.value)]

end Entry

namespace Report

def members : List Json.Member :=
  [Json.member "deviceName" Json.readString, Json.member "deviceType" Json.readString,
    Json.optional "telemetry" (Json.readList Entry.read),
    Json.optional "attributes" (Json.readList Entry.read)]

def read : Json.Reader Report := fun j => do
  let ms ← Json.readMembers "ConvertedData" members j
  let deviceName ← Json.require ms "deviceName" Json.readString
  let deviceType ← Json.require ms "deviceType" Json.readString
  let telemetry ← Json.orElse ms "telemetry" (Json.readList Entry.read) []
  let attributes ← Json.orElse ms "attributes" (Json.readList Entry.read) []
  return { deviceName, deviceType, telemetry, attributes }

def parse (text : String) : Except Json.Fault Report := Json.readText read text

def toJson (r : Report) : Json :=
  let list (key : String) (entries : List Entry) : List (String × Json) :=
    if entries.isEmpty then [] else [(key, .arr (entries.map Entry.toJson))]
  .obj ([("deviceName", .str r.deviceName), ("deviceType", .str r.deviceType)] ++
    list "telemetry" r.telemetry ++ list "attributes" r.attributes)

end Report

end MeterGateway
