import MeterGateway.Bytes.Hex
import MeterGateway.Text.Quoted

namespace MeterGateway

inductive FrameFault
  | head : UInt8 → FrameFault
  | tail : UInt8 → FrameFault
  deriving DecidableEq

inductive ValueFault
  | hex : Hex.Fault → ValueFault
  | valve : UInt8 → ValueFault
  | reset : UInt8 → ValueFault
  deriving DecidableEq

inductive CodecError
  | addressLength : Nat → CodecError
  | truncated : (needed actual : Nat) → CodecError
  | invalidFrame : FrameFault → CodecError
  | dataAreaTooLong : Nat → CodecError
  | unsupportedFunction : UInt8 → CodecError
  | unknownCommand : String → CodecError
  | invalidValue : ValueFault → CodecError
  deriving DecidableEq

def hexByte (b : UInt8) : String := "0x" ++ Hex.upper [b]

def FrameFault.message : FrameFault → String
  | .head b => "frame head " ++ hexByte b
  | .tail b => "frame end " ++ hexByte b

def Hex.Fault.message : Hex.Fault → String
  | .oddLength => "Odd number of digits"
  | .badDigit b position =>
    let shown := Text.quotedChar (Char.ofNat b.toNat)
    s!"Invalid character {shown} at position {position}"

def ValueFault.message : ValueFault → String
  | .hex fault => fault.message
  | .valve b => "valve status " ++ hexByte b
  | .reset b => "reset kind " ++ hexByte b

def CodecError.message : CodecError → String
  | .addressLength n => s!"meter address must be 7 bytes, got {n}"
  | .truncated needed actual => s!"truncated: need {needed} bytes, got {actual}"
  | .invalidFrame fault => "invalid frame: " ++ fault.message
  | .dataAreaTooLong n => s!"data area too long: {n} bytes"
  | .unsupportedFunction code => s!"unsupported function code: {code.toNat}"
  | .unknownCommand name => s!"unknown meter command: {name}"
  | .invalidValue fault => "invalid value: " ++ fault.message

/-- What stands at the front of a byte stream: too little to tell, bytes that begin no frame, or a
frame of the given length. -/
inductive Scan
  | incomplete : Scan
  | discard : Nat → Scan
  | frame : Nat → Scan
  deriving DecidableEq

def Scan.Fits (s : Scan) (length : Nat) : Prop :=
  match s with
  | .incomplete => True
  | .discard n | .frame n => 1 ≤ n ∧ n ≤ length

end MeterGateway
