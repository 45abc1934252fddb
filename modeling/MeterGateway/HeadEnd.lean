import MeterGateway.Report
import MeterGateway.Rpc

namespace MeterGateway

structure InventoryItem where
  name : String
  connector : String
  deviceType : String
  deriving DecidableEq

structure HeadEnd where
  inventory : List InventoryItem := []
  stored : List (String × Report) := []
  replies : List RpcReply := []

namespace HeadEnd

def item? (h : HeadEnd) (name : String) : Option InventoryItem := h.inventory.find? (·.name = name)

def isRegistered (h : HeadEnd) (name : String) : Bool := (h.item? name).isSome

/-- A name that is taken stays with its owner. -/
def register (h : HeadEnd) (item : InventoryItem) : HeadEnd :=
  if h.isRegistered item.name then h else { h with inventory := h.inventory ++ [item] }

def unregister (h : HeadEnd) (name : String) : HeadEnd :=
  { h with inventory := h.inventory.filter (·.name ≠ name) }

def unregisterAll (h : HeadEnd) (names : List String) : HeadEnd := names.foldl unregister h

def connector? (h : HeadEnd) (name : String) : Option String := (h.item? name).map (·.connector)

def store (h : HeadEnd) (connector : String) (report : Report) : HeadEnd :=
  { h with stored := h.stored ++ [(connector, report)] }

def reply (h : HeadEnd) (r : RpcReply) : HeadEnd := { h with replies := h.replies ++ [r] }

def listing (h : HeadEnd) : List InventoryItem :=
  h.inventory.mergeSort fun a b => !(b.name < a.name)

/-- Waits until so many reports are stored, but no longer than `within`, while one more report may
arrive after some time; the number is how long that took. -/
def await (h : HeadEnd) (count within : Nat) (arrival : Option (Nat × String × Report)) : HeadEnd × Nat :=
  if count ≤ h.stored.length then (h, 0)
  else
    match arrival with
    | some (after, connector, report) =>
      if after < within then
        let h := h.store connector report
        (h, if count ≤ h.stored.length then after else within)
      else (h, within)
    | none => (h, within)

end HeadEnd

end MeterGateway
