import MeterGateway.Text.Blank

namespace MeterGateway

inductive SettingsError
  | missing : (name : String) → SettingsError
  | invalid : (name value : String) → SettingsError
  deriving DecidableEq

def SettingsError.message : SettingsError → String
  | missing name => s!"missing required env: {name}"
  | invalid name value => s!"invalid value for {name}: {value}"

structure Settings where
  connectorsPath : String
  requestTimeoutMs : Nat
  eventLoopDedicated : Bool
  deriving DecidableEq

namespace Settings

def connectorsVariable : String := "EMS_GATEWAY_CONNECTORS"

def timeoutVariable : String := "EMS_REQUEST_TIMEOUT_MS"

def dedicatedVariable : String := "EMS_EVENT_LOOP_DEDICATED"

def parseUnsigned? (text : String) : Option Nat :=
  let digits :=
    match text.toList with
    | '+' :: cs => cs
    | cs => cs
  if digits = [] ∨ ¬ digits.all Char.isDigit then none
  else
    let n := digits.foldl (fun n c => 10 * n + (c.toNat - 48)) 0
    if n < 0x10000000000000000 then some n else none

def isOn (text : String) : Bool := text.map Char.toLower ∈ ["1", "true", "on"]

/-- A blank path counts as none; a timeout of zero is refused; any word but three is a no. -/
def ofEnvironment (lookup : String → Option String) : Except SettingsError Settings := do
  let path ←
    match lookup connectorsVariable with
    | some path => if (Text.trim path.toList).isEmpty then .error (.missing connectorsVariable) else .ok path
    | none => .error (.missing connectorsVariable)
  let timeout ←
    match lookup timeoutVariable with
    | none => .ok 10000
    | some text =>
      match parseUnsigned? text with
      | none => .error (.invalid timeoutVariable text)
      | some 0 => .error (.invalid timeoutVariable "0")
      | some n => .ok n
  return ⟨path, timeout, ((lookup dedicatedVariable).map isOn).getD true⟩

end Settings

end MeterGateway
