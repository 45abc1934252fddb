import MeterGateway.Json.Record

namespace MeterGateway

structure RpcRequest where
  device : String
  id : Nat
  method : String
  params : Json

/-- The result of a reply is an object of one member: the method with whether the device
acknowledged, or an error with its text. -/
structure RpcReply where
  device : String
  id : Nat
  method : String
  result : Json

namespace RpcReply

def errorKey : String := "error"

def success (request : RpcRequest) (acknowledged : Bool) : RpcReply :=
  ⟨request.device, request.id, request.method, .obj [(request.method, .bool acknowledged)]⟩

def failure (request : RpcRequest) (message : String) : RpcReply :=
  ⟨request.device, request.id, request.method, .obj [(errorKey, .str message)]⟩

def isError (r : RpcReply) : Bool := (r.result.member? errorKey).isSome

end RpcReply

namespace RpcRequest

structure Content where
  id : Nat
  method : String
  params : Json

def Content.read : Json.Reader Content := fun j => do
  let ms ← Json.readMembers "RpcData"
    [Json.member "id" (Json.readUnsigned 64), Json.member "method" Json.readString,
      Json.optional "params" Json.readValue] j
  let id ← Json.require ms "id" (Json.readUnsigned 64)
  let method ← Json.require ms "method" Json.readString
  let params ← Json.orElse ms "params" Json.readValue .null
  return ⟨id, method, params⟩

def read : Json.Reader RpcRequest := fun j => do
  let ms ← Json.readMembers "RpcRequest"
    [Json.member "device" Json.readString, Json.member "data" Content.read] j
  let device ← Json.require ms "device" Json.readString
  let content ← Json.require ms "data" Content.read
  return ⟨device, content.id, content.method, content.params⟩

def parse (text : String) : Except Json.Fault RpcRequest := Json.readText read text

def toJson (r : RpcRequest) : Json :=
  .obj [("device", .str r.device),
    ("data", .obj [("id", .ofNat r.id), ("method", .str r.method), ("params", r.params)])]

end RpcRequest

end MeterGateway
