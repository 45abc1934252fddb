import MeterGateway.Service

namespace MeterGateway

structure Connector where
  name : String
  config : ListenConfig
  deriving DecidableEq

namespace Connector

def defaultStem : String := "Tcp Server "

def letters : (width : Nat) → Nat → List Char
  | 0, _ => []
  | width + 1, n => letters width (n / 26) ++ [Char.ofNat ('a'.toNat + n % 26)]

def defaultName (n : Nat) : String := defaultStem ++ String.ofList (letters 5 n)

/-- A configuration without a name gets a default one; numbers below 26 ^ 5 give different ones. -/
def ofConfig (config : ListenConfig) (n : Nat) : Connector :=
  let name := config.name.getD (defaultName n)
  ⟨name, { config with name := some name }⟩

def port (c : Connector) : Nat := c.config.port

def openOn (c : Connector) (s : Service) (free : Bool) (now : Nat) : Except GatewayError Unit × Service :=
  s.addListen c.config free now

def closeOn (c : Connector) (s : Service) : Except GatewayError Unit × Service :=
  s.removeListen c.port c.config

end Connector

end MeterGateway
