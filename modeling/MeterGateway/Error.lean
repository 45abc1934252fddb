import MeterGateway.Codec
import MeterGateway.Config
import MeterGateway.Json.Printer
import MeterGateway.Meter.Command
import MeterGateway.Converter.ValueType

namespace MeterGateway

inductive ParamFault
  | required : (key : String) → ParamFault
  | outOfRange : (key : String) → ParamFault
  | codec : CodecError → ParamFault
  | resetWord : String → ParamFault
  | notBool : Json → ParamFault
  | notEncodable : Json → ValueType → ParamFault

inductive ConvertError
  | unsupportedType : String → ConvertError
  | notEnoughData : (tag : String) → (needed actual : Nat) → ConvertError
  | exception : (code : UInt8) → ConvertError
  | invalidParams : ParamFault → ConvertError
  | panicked : (text : String) → ConvertError

inductive ConfigFault
  | json : Json.Fault → ConfigFault
  | noCommand : (tag : String) → ConfigFault
  | writeCommand : (tag : String) → Meter.CommandKind → ConfigFault
  | writeFunction : (tag : String) → (code : UInt8) → ConfigFault
  | readFunction : (tag : String) → (code : UInt8) → ConfigFault
  | methodClash : (port : Nat) → (served requested : FrameMethod) → ConfigFault

inductive GatewayError
  | unsupportedProtocol : String → GatewayError
  | unsupportedMethod : String → GatewayError
  | noListener : (port : Nat) → GatewayError
  | converterNotFound : String → GatewayError
  | config : ConfigFault → GatewayError
  | deviceNotFound : String → GatewayError
  | noActiveConnection : (device : String) → GatewayError
  | unknownMethod : String → GatewayError
  | converter : ConvertError → GatewayError
  | codec : CodecError → GatewayError
  | io : GatewayError
  | channelClosed : GatewayError

def ParamFault.message : ParamFault → String
  | .required key => s!"{key} is required"
  | .outOfRange key => s!"{key} out of range"
  | .codec e => e.message
  | .resetWord word => s!"reset must be vendor or unit, got {word}"
  | .notBool j => s!"expected bool, got {j.compact}"
  | .notEncodable j type => s!"cannot encode {j.compact} as {type.shown}"

def ConvertError.message : ConvertError → String
  | .unsupportedType name => s!"unsupported value type: {name}"
  | .notEnoughData tag needed actual => s!"not enough data for {tag}: need {needed} bytes, got {actual}"
  | .exception code => s!"device returned exception code {code.toNat}"
  | .invalidParams fault => "invalid params: " ++ fault.message
  | .panicked text => s!"converter panicked: {text}"

def ConfigFault.message : ConfigFault → String
  | .json fault => fault.message
  | .noCommand tag => s!"{tag} has no meter command"
  | .writeCommand tag kind => s!"point {tag} uses write command {kind.name}"
  | .writeFunction tag code => s!"point {tag} uses write function {code.toNat}"
  | .readFunction tag code => s!"rpc {tag} uses read function {code.toNat}"
  | .methodClash port served requested =>
    s!"port {port} already serves method {served.name}, requested {requested.name}"

/-- The text of an input or output error is the operating system's and is not part of the message. -/
def GatewayError.message : GatewayError → String
  | .unsupportedProtocol name => s!"unsupported protocol: {name}"
  | .unsupportedMethod name => s!"unsupported method: {name}"
  | .noListener port => s!"no listener on port {port}"
  | .converterNotFound name => s!"converter not found: {name}"
  | .config fault => "config error: " ++ fault.message
  | .deviceNotFound name => s!"device not found: {name}"
  | .noActiveConnection device => s!"no active connection for device {device}"
  | .unknownMethod name => s!"unknown rpc method: {name}"
  | .converter e => "converter error: " ++ e.message
  | .codec e => "codec error: " ++ e.message
  | .io => "io error"
  | .channelClosed => "channel closed"

def FrameMethod.parse (name : String) : Except GatewayError FrameMethod :=
  match FrameMethod.ofName? name with
  | some method => .ok method
  | none => .error (.unsupportedMethod name)

def ListenConfig.frameMethod (c : ListenConfig) : Except GatewayError FrameMethod :=
  if c.protocol ≠ ListenConfig.tokenProtocol then .error (.unsupportedProtocol c.protocol)
  else FrameMethod.parse c.method

end MeterGateway
