import MeterGateway.Config

namespace MeterGateway

open Json

def readByte : Reader UInt8 := fun j => (readUnsigned 8 j).map UInt8.ofNat

def readWord : Reader UInt16 := fun j => (readUnsigned 16 j).map UInt16.ofNat

def optionJson (f : α → Json) : Option α → Json
  | some a => f a
  | none => .null

namespace PointConfig

def members : List Member :=
  [member "tag" readString, optional "type" readString, optional "functionCode" readByte,
    optional "address" readWord, optional "objectsCount" readWord,
    optional "command" (readOption readString)]

def read : Reader PointConfig := fun j => do
  let ms ← readMembers "PointConfig" members j
  let tag ← require ms "tag" readString
  let valueType ← orElse ms "type" readString "16uint"
  let functionCode ← orElse ms "functionCode" readByte 3
  let address ← orElse ms "address" readWord 0
  let objectsCount ← orElse ms "objectsCount" readWord 1
  let command ← orElse ms "command" (readOption readString) none
  return { tag, valueType, functionCode, address, objectsCount, command }

def toJson (p : PointConfig) : Json :=
  .obj [("tag", .str p.tag), ("type", .str p.valueType), ("functionCode", .ofNat p.functionCode.toNat),
    ("address", .ofNat p.address.toNat), ("objectsCount", .ofNat p.objectsCount.toNat),
    ("command", optionJson .str p.command)]

end PointConfig

namespace CommandConfig

def read : Reader CommandConfig := fun j => do
  let ms ← readMembers "RpcCommandConfig" PointConfig.members j
  let tag ← require ms "tag" readString
  let valueType ← orElse ms "type" readString "16uint"
  let functionCode ← orElse ms "functionCode" readByte 6
  let address ← orElse ms "address" readWord 0
  let objectsCount ← orElse ms "objectsCount" readWord 1
  let command ← orElse ms "command" (readOption readString) none
  return { tag, valueType, functionCode, address, objectsCount, command }

def toJson (c : CommandConfig) : Json :=
  .obj [("tag", .str c.tag), ("type", .str c.valueType), ("functionCode", .ofNat c.functionCode.toNat),
    ("address", .ofNat c.address.toNat), ("objectsCount", .ofNat c.objectsCount.toNat),
    ("command", optionJson .str c.command)]

end CommandConfig

namespace DeviceConfig

def members : List Member :=
  [member "deviceName" readString, optional "deviceType" readString, optional "unitId" readByte,
    optional "meterAddress" (readOption readString), optional "meterType" readByte,
    optional "attributesPollPeriod" (readOption (readUnsigned 64)),
    optional "timeseriesPollPeriod" (readOption (readUnsigned 64)),
    optional "sendDataOnlyOnChange" readBool, optional "attributes" (readList PointConfig.read),
    optional "timeseries" (readList PointConfig.read), optional "rpc" (readList CommandConfig.read)]

def read : Reader DeviceConfig := fun j => do
  let ms ← readMembers "DeviceConfig" members j
  let deviceName ← require ms "deviceName" readString
  let deviceType ← orElse ms "deviceType" readString "default"
  let unitId ← orElse ms "unitId" readByte 1
  let meterAddress ← orElse ms "meterAddress" (readOption readString) none
  let meterType ← orElse ms "meterType" readByte 0x10
  let attributesPollPeriod ← orElse ms "attributesPollPeriod" (readOption (readUnsigned 64)) none
  let timeseriesPollPeriod ← orElse ms "timeseriesPollPeriod" (readOption (readUnsigned 64)) none
  let sendDataOnlyOnChange ← orElse ms "sendDataOnlyOnChange" readBool false
  let attributes ← orElse ms "attributes" (readList PointConfig.read) []
  let timeseries ← orElse ms "timeseries" (readList PointConfig.read) []
  let rpc ← orElse ms "rpc" (readList CommandConfig.read) []
  return {
    deviceName, deviceType, unitId, meterAddress, meterType, attributesPollPeriod
    timeseriesPollPeriod, sendDataOnlyOnChange, attributes, timeseries, rpc }

def toJson (d : DeviceConfig) : Json :=
  .obj [("deviceName", .str d.deviceName), ("deviceType", .str d.deviceType),
    ("unitId", .ofNat d.unitId.toNat), ("meterAddress", optionJson .str d.meterAddress),
    ("meterType", .ofNat d.meterType.toNat),
    ("attributesPollPeriod", optionJson .ofNat d.attributesPollPeriod),
    ("timeseriesPollPeriod", optionJson .ofNat d.timeseriesPollPeriod),
    ("sendDataOnlyOnChange", .bool d.sendDataOnlyOnChange),
    ("attributes", .arr (d.attributes.map PointConfig.toJson)),
    ("timeseries", .arr (d.timeseries.map PointConfig.toJson)),
    ("rpc", .arr (d.rpc.map CommandConfig.toJson))]

end DeviceConfig

namespace ListenConfig

def members : List Member :=
  [optional "name" (readOption readString), member "port" (readUnsigned 16),
    optional "protocol" readString, optional "method" readString, member "accessToken" readString,
    optional "converter" (readOption readString),
    optional "downlinkConverter" (readOption readString),
    optional "devices" (readList DeviceConfig.read)]

def read : Reader ListenConfig := fun j => do
  let ms ← readMembers "ListenConfig" members j
  let name ← orElse ms "name" (readOption readString) none
  let port ← require ms "port" (readUnsigned 16)
  let protocol ← orElse ms "protocol" readString "usr"
  let method ← orElse ms "method" readString "meter"
  let accessToken ← require ms "accessToken" readString
  let converter ← orElse ms "converter" (readOption readString) none
  let downlinkConverter ← orElse ms "downlinkConverter" (readOption readString) none
  let devices ← orElse ms "devices" (readList DeviceConfig.read) []
  return { name, port, protocol, method, accessToken, converter, downlinkConverter, devices }

def parse (text : String) : Except Fault ListenConfig := readText read text

def parseAll (text : String) : Except Fault (List ListenConfig) := readText (readList read) text

def toJson (c : ListenConfig) : Json :=
  .obj [("name", optionJson .str c.name), ("port", .ofNat c.port), ("protocol", .str c.protocol),
    ("method", .str c.method), ("accessToken", .str c.accessToken),
    ("converter", optionJson .str c.converter),
    ("downlinkConverter", optionJson .str c.downlinkConverter),
    ("devices", .arr (c.devices.map DeviceConfig.toJson))]

end ListenConfig

end MeterGateway
