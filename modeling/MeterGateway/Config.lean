import MeterGateway.Report

namespace MeterGateway

inductive FrameMethod
  | meter : FrameMethod
  | rtu : FrameMethod
  deriving DecidableEq

namespace FrameMethod

def name : FrameMethod → String
  | meter => "meter"
  | rtu => "rtu"

def ofName? : String → Option FrameMethod
  | "meter" => some meter
  | "rtu" => some rtu
  | _ => none

end FrameMethod

structure PointConfig where
  tag : String
  valueType : String := "16uint"
  functionCode : UInt8 := 3
  address : UInt16 := 0
  objectsCount : UInt16 := 1
  command : Option String := none
  deriving DecidableEq, Inhabited

/-- A remote method and the write it stands for; the tag is the name of the method. -/
structure CommandConfig where
  tag : String
  valueType : String := "16uint"
  functionCode : UInt8 := 6
  address : UInt16 := 0
  objectsCount : UInt16 := 1
  command : Option String := none
  deriving DecidableEq, Inhabited

/-- The poll periods are in milliseconds. -/
structure DeviceConfig where
  deviceName : String
  deviceType : String := "default"
  unitId : UInt8 := 1
  meterAddress : Option String := none
  meterType : UInt8 := 0x10
  attributesPollPeriod : Option Nat := none
  timeseriesPollPeriod : Option Nat := none
  sendDataOnlyOnChange : Bool := false
  attributes : List PointConfig := []
  timeseries : List PointConfig := []
  rpc : List CommandConfig := []
  deriving DecidableEq, Inhabited

def effectivePeriod (ms : Nat) : Nat := max ms 1000

namespace DeviceConfig

def configuredPeriod (d : DeviceConfig) : PollKind → Option Nat
  | .attributes => d.attributesPollPeriod
  | .timeseries => d.timeseriesPollPeriod

def points (d : DeviceConfig) : PollKind → List PointConfig
  | .attributes => d.attributes
  | .timeseries => d.timeseries

def pollPeriod (d : DeviceConfig) (kind : PollKind) : Option Nat :=
  if (d.points kind).isEmpty then none else (d.configuredPeriod kind).map effectivePeriod

def rpcCommand? (d : DeviceConfig) (method : String) : Option CommandConfig :=
  d.rpc.find? (·.tag = method)

end DeviceConfig

structure ListenConfig where
  name : Option String := none
  port : Nat
  protocol : String := "usr"
  method : String := "meter"
  accessToken : String
  converter : Option String := none
  downlinkConverter : Option String := none
  devices : List DeviceConfig := []
  deriving DecidableEq, Inhabited

namespace ListenConfig

def tokenProtocol : String := "usr"

def connectorName (c : ListenConfig) : String :=
  match c.name with
  | some name => name
  | none => s!"Tcp Server {c.port}"

end ListenConfig

end MeterGateway
