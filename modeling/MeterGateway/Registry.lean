import MeterGateway.Converter.Downlink
import MeterGateway.HeadEnd
import MeterGateway.Snapshot

namespace MeterGateway

structure Record where
  config : DeviceConfig
  token : String
  connector : String
  uplink : Uplink
  downlink : Downlink
  attributes : Snapshot := {}
  timeseries : Snapshot := {}

namespace Record

def name (r : Record) : String := r.config.deviceName

def snapshot (r : Record) : PollKind → Snapshot
  | .attributes => r.attributes
  | .timeseries => r.timeseries

def filterChanges (r : Record) (report : Report) (now : Nat) : Report × Record :=
  let onlyOnChange := r.config.sendDataOnlyOnChange
  let (telemetry, timeseries) := r.timeseries.filter onlyOnChange report.telemetry now
  let (entries, attributes) := r.attributes.filter onlyOnChange report.attributes now
  ({ report with telemetry, attributes := entries }, { r with timeseries, attributes })

end Record

/-- Tokens go with the connector that brought them last. -/
structure Registry where
  converters : Converters
  devices : List Record := []
  tokens : List (String × String) := []

namespace Registry

def get? (r : Registry) (name : String) : Option Record := r.devices.find? (·.name = name)

def isHeld (r : Registry) (name : String) : Bool := (r.get? name).isSome

def isKnownToken (r : Registry) (token : String) : Bool := (r.tokens.lookup token).isSome

def withToken (r : Registry) (token : String) : List Record := r.devices.filter (·.token = token)

def namesWithToken (r : Registry) (token : String) : List String := (r.withToken token).map Record.name

def update (r : Registry) (record : Record) : Registry :=
  { r with devices := r.devices.map fun d => if d.name = record.name then record else d }

def drop (r : Registry) (names : List String) : Registry :=
  { r with devices := r.devices.filter (·.name ∉ names) }

structure Installed where
  names : List String
  registry : Registry
  headEnd : HeadEnd

/-- Enters devices in turn.  A name that is in the inventory or held already is passed over. -/
def enter (fresh : DeviceConfig → Record) : List DeviceConfig → Registry → HeadEnd → Installed
  | [], r, h => ⟨[], r, h⟩
  | d :: rest, r, h =>
    if h.isRegistered d.deviceName || r.isHeld d.deviceName then enter fresh rest r h
    else
      let record := fresh d
      let h := h.register ⟨d.deviceName, record.connector, d.deviceType⟩
      let installed := enter fresh rest { r with devices := r.devices ++ [record] } h
      { installed with names := d.deviceName :: installed.names }

def learnToken (r : Registry) (token connector : String) : Registry :=
  { r with tokens := (token, connector) :: r.tokens.filter (·.1 ≠ token) }

def forgetToken (r : Registry) (token : String) : Registry :=
  { r with tokens := r.tokens.filter (·.1 ≠ token) }

def addDevices (r : Registry) (config : ListenConfig) (h : HeadEnd) : Except GatewayError Installed := do
  let uplink ← r.converters.uplink config.converter
  let downlink ← r.converters.downlink config.downlinkConverter
  let connector := config.connectorName
  let fresh (d : DeviceConfig) : Record :=
    { config := d, token := config.accessToken, connector, uplink, downlink }
  let installed := enter fresh config.devices r h
  return { installed with registry := installed.registry.learnToken config.accessToken connector }

/-- The devices that a connector replaces: its own and those of its token. -/
def stale (r : Registry) (config : ListenConfig) : List String :=
  (r.devices.filter fun d => d.connector = config.connectorName || d.token = config.accessToken).map
    Record.name

def updateDevices (r : Registry) (config : ListenConfig) (h : HeadEnd) :
    Except GatewayError Installed := do
  let _ ← r.converters.uplink config.converter
  let _ ← r.converters.downlink config.downlinkConverter
  let stale := r.stale config
  (r.drop stale).addDevices config (h.unregisterAll stale)

def removeDevices (r : Registry) (config : ListenConfig) (h : HeadEnd) : Installed :=
  let removed := r.namesWithToken config.accessToken
  ⟨removed, (r.drop removed).forgetToken config.accessToken, h.unregisterAll removed⟩

end Registry

end MeterGateway
