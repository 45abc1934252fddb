import MeterGateway.Report

namespace MeterGateway

structure Snapshot where
  polledAt : Option Nat := none
  values : List (String × Json) := []
  deriving Inhabited

namespace Snapshot

def put (key : String) (value : Json) : List (String × Json) → List (String × Json)
  | [] => [(key, value)]
  | (k, v) :: rest => if k = key then (k, value) :: rest else (k, v) :: put key value rest

def isNews (values : List (String × Json)) (e : Entry) : Bool :=
  match values.lookup e.key with
  | some v => !(v.same e.value)
  | none => true

def changes (values : List (String × Json)) : List Entry → List Entry × List (String × Json)
  | [] => ([], values)
  | e :: rest =>
    if isNews values e then
      let (news, values) := changes (put e.key e.value values) rest
      (e :: news, values)
    else changes values rest

def latest (entries : List Entry) : List (String × Json) :=
  entries.foldl (fun values e => put e.key e.value values) []

def filter (s : Snapshot) (onlyOnChange : Bool) (entries : List Entry) (now : Nat) :
    List Entry × Snapshot :=
  if entries.isEmpty then ([], s)
  else if onlyOnChange then
    let (news, values) := changes s.values entries
    (news, ⟨some now, values⟩)
  else (entries, ⟨some now, latest entries⟩)

def listing (s : Snapshot) : List (String × Json) :=
  s.values.mergeSort fun a b => !(b.1 < a.1)

end Snapshot

end MeterGateway
