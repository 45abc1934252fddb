import MeterGateway.Config.Text
import MeterGateway.Error
import MeterGateway.Bytes.Utf8

namespace MeterGateway.ListenConfig

def ofJson (text : String) : Except GatewayError ListenConfig :=
  (parse text).mapError fun fault => .config (.json fault)

def ofFile (content : Option Bytes) : Except GatewayError (List ListenConfig) :=
  match content.bind Utf8.decode? with
  | none => .error .io
  | some text => (parseAll text).mapError fun fault => .config (.json fault)

end MeterGateway.ListenConfig
