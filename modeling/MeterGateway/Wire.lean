import MeterGateway.Error
import MeterGateway.Meter.Stream
import MeterGateway.Meter.Response
import MeterGateway.Modbus.Response

namespace MeterGateway

inductive WireRequest
  | meter : Meter.Request → WireRequest
  | rtu : Modbus.Request → WireRequest
  deriving DecidableEq

inductive WireResponse
  | meter : Meter.Response → WireResponse
  | rtu : Modbus.Response → WireResponse
  deriving DecidableEq

def WireResponse.checksumOk : WireResponse → Bool
  | .meter r => r.checksumOk
  | .rtu r => r.crcOk

namespace WireRequest

def meterCommand (command : Option String) (tag : String) : Except GatewayError Meter.CommandKind :=
  match command with
  | none => .error (.config (.noCommand tag))
  | some name => (Meter.CommandKind.ofName name).mapError .codec

def meterAddress (device : DeviceConfig) : Except GatewayError (Option Meter.Address) :=
  match device.meterAddress with
  | none => .ok none
  | some text =>
    match Meter.Address.parse text with
    | .ok address => .ok (some address)
    | .error e => .error (.codec e)

def meterRequest (device : DeviceConfig) (kind : Meter.CommandKind) (payload : Bytes) :
    Except GatewayError WireRequest := do
  let address ← meterAddress device
  let request ← (Meter.Request.ofPayload device.meterType address kind payload).mapError .codec
  return .meter request

def modbusFunction (code : UInt8) : Except GatewayError Modbus.Function :=
  (Modbus.Function.ofCode code).mapError .codec

def read (method : FrameMethod) (device : DeviceConfig) (point : PointConfig) :
    Except GatewayError WireRequest :=
  match method with
  | .meter => do
    let kind ← meterCommand point.command point.tag
    if kind.isWrite then throw (.config (.writeCommand point.tag kind))
    meterRequest device kind []
  | .rtu => do
    let function ← modbusFunction point.functionCode
    if function.isWrite then throw (.config (.writeFunction point.tag point.functionCode))
    return .rtu ⟨device.unitId, function, point.address, point.objectsCount, []⟩

/-- The request that writes a payload; a read command of a meter may be sent this way too. -/
def write (method : FrameMethod) (device : DeviceConfig) (command : CommandConfig) (payload : Bytes) :
    Except GatewayError WireRequest :=
  match method with
  | .meter => do
    let kind ← meterCommand command.command command.tag
    meterRequest device kind payload
  | .rtu => do
    let function ← modbusFunction command.functionCode
    if ¬ function.isWrite then throw (.config (.readFunction command.tag command.functionCode))
    return .rtu ⟨device.unitId, function, command.address, command.objectsCount, payload⟩

/-- The bytes to send.  Only meter frames carry the number of the transaction. -/
def encode (request : WireRequest) (tid : UInt8) : Except CodecError Bytes :=
  match request with
  | .meter r => r.encode tid
  | .rtu r => r.encode

def correlates (request : WireRequest) (tid : UInt8) (frame : Bytes) : Bool :=
  match request, frame with
  | .meter _, frame => Meter.peekSeq frame = some tid
  | .rtu r, unit :: functionCode :: _ => unit = r.unit && functionCode &&& 0x7F = r.function.code
  | .rtu _, _ => false

def decodeResponse (request : WireRequest) (frame : Bytes) : Except CodecError WireResponse :=
  match request with
  | .meter r => (Meter.Response.decode r.kind frame).map .meter
  | .rtu _ => (Modbus.Response.decode frame).map .rtu

def acknowledgedBy (request : WireRequest) (response : WireResponse) : Bool :=
  match request, response with
  | .meter r, .meter s => s.acknowledges r.kind
  | .rtu r, .rtu s => s.answers r && !s.isException
  | _, _ => false

def describe : WireRequest → String
  | .meter r => r.kind.name
  | .rtu r => s!"unit {r.unit.toNat} fc {r.function.code.toNat} @{r.address.toNat}"

end WireRequest

end MeterGateway
