import MeterGateway.Meter.Frame
import MeterGateway.Meter.Purchase

namespace MeterGateway.Meter

inductive CommandKind
  | readData : CommandKind
  | readAddress : CommandKind
  | readUser1 : CommandKind
  | readUser2 : CommandKind
  | writeAddress : CommandKind
  | writePurchase : CommandKind
  | writeValve : CommandKind
  | writeReset : CommandKind
  | writeUser1 : CommandKind
  | writeUser2 : CommandKind
  deriving DecidableEq

namespace CommandKind

def all : List CommandKind :=
  [readData, readAddress, readUser1, readUser2, writeAddress, writePurchase, writeValve, writeReset,
    writeUser1, writeUser2]

def name : CommandKind → String
  | readData => "readData"
  | readAddress => "readAddress"
  | readUser1 => "readUser1"
  | readUser2 => "readUser2"
  | writeAddress => "writeAddress"
  | writePurchase => "writePurchase"
  | writeValve => "writeValve"
  | writeReset => "writeReset"
  | writeUser1 => "writeUser1"
  | writeUser2 => "writeUser2"

def ofName (name : String) : Except CodecError CommandKind :=
  match all.find? (·.name = name) with
  | some kind => .ok kind
  | none => .error (.unknownCommand name)

def controlCode : CommandKind → UInt8
  | readData => 0x01
  | readAddress | readUser1 | readUser2 => 0x03
  | writeAddress => 0x15
  | writePurchase | writeValve | writeReset | writeUser1 | writeUser2 => 0x04

def dataId : CommandKind → Bytes
  | readData => [0x1F, 0x90]
  | readAddress => [0x0A, 0x81]
  | readUser1 => [0xAA, 0x81]
  | readUser2 => [0xB0, 0x81]
  | writeAddress => [0x18, 0xA0]
  | writePurchase => [0x13, 0xA0]
  | writeValve => [0x17, 0xA0]
  | writeReset => [0x21, 0xA0]
  | writeUser1 => [0x27, 0xA0]
  | writeUser2 => [0x34, 0xA0]

def isWrite : CommandKind → Bool
  | readData | readAddress | readUser1 | readUser2 => false
  | _ => true

def responseFields : CommandKind → Layout
  | readData =>
    [(.totalUsed, 4), (.remaining, 4), (.totalPurchases, 4), (.times, 1), (.status0, 1), (.status1, 1)]
  | readAddress => [(.address, 7)]
  | readUser1 | writeUser1 => [(.unitCode, 2), (.userNo, 2), (.meterNo, 1), (.empty, 2)]
  | readUser2 | writeUser2 => [(.alarmValue, 1), (.overdraft, 1), (.exceed, 1), (.empty, 4)]
  | writePurchase => [(.times, 1), (.purchases, 4)]
  | writeValve => [(.status0, 1), (.status1, 1)]
  | writeAddress | writeReset => []

def responseLayout (kind : CommandKind) : Layout :=
  (.dataId, 2) :: (.seq, 1) :: kind.responseFields

end CommandKind

inductive ValveState
  | opened : ValveState
  | closed : ValveState
  deriving DecidableEq

namespace ValveState

def code : ValveState → UInt8
  | opened => 0x55
  | closed => 0x99

def ofCode (b : UInt8) : Except CodecError ValveState :=
  if b = opened.code then .ok opened
  else if b = closed.code then .ok closed
  else .error (.invalidValue (.valve b))

end ValveState

inductive ResetKind
  | vendor : ResetKind
  | unit : ResetKind
  deriving DecidableEq

namespace ResetKind

def code : ResetKind → UInt8
  | vendor => 0xC3
  | unit => 0x5A

def ofCode (b : UInt8) : Except CodecError ResetKind :=
  if b = vendor.code then .ok vendor
  else if b = unit.code then .ok unit
  else .error (.invalidValue (.reset b))

end ResetKind

/-- A command with its parameters.  The count of a purchase is the one seen outside the meter. -/
inductive Command
  | readData : Command
  | readAddress : Command
  | readUser1 : Command
  | readUser2 : Command
  | writeAddress : Address → Command
  | writePurchase : (times : UInt16) → (purchases : UInt32) → Command
  | writeValve : ValveState → Command
  | writeReset : ResetKind → Command
  | writeUser1 : (unitCode userNo : UInt16) → (meterNo : UInt8) → Command
  | writeUser2 : (alarmValue overdraft exceed : UInt8) → Command
  deriving DecidableEq

namespace Command

def kind : Command → CommandKind
  | readData => .readData
  | readAddress => .readAddress
  | readUser1 => .readUser1
  | readUser2 => .readUser2
  | writeAddress _ => .writeAddress
  | writePurchase _ _ => .writePurchase
  | writeValve _ => .writeValve
  | writeReset _ => .writeReset
  | writeUser1 _ _ _ => .writeUser1
  | writeUser2 _ _ _ => .writeUser2

def payloadLength : CommandKind → Nat
  | .writeAddress => 7
  | .writePurchase => 6
  | .writeValve | .writeReset => 1
  | .writeUser1 => 5
  | .writeUser2 => 3
  | _ => 0

/-- The command of a payload: the fields in the clear, numbers lowest byte first.  Bytes after the
ones it takes are ignored. -/
def ofPayload (kind : CommandKind) (payload : Bytes) : Except CodecError Command :=
  match kind, payload with
  | .readData, _ => .ok .readData
  | .readAddress, _ => .ok .readAddress
  | .readUser1, _ => .ok .readUser1
  | .readUser2, _ => .ok .readUser2
  | .writeAddress, a0 :: a1 :: a2 :: a3 :: a4 :: a5 :: a6 :: _ =>
    .ok (.writeAddress ⟨[a0, a1, a2, a3, a4, a5, a6], rfl⟩)
  | .writePurchase, t0 :: t1 :: p0 :: p1 :: p2 :: p3 :: _ =>
    .ok (.writePurchase (UInt16.ofNat (Bytes.toNatLE [t0, t1]))
      (UInt32.ofNat (Bytes.toNatLE [p0, p1, p2, p3])))
  | .writeValve, b :: _ => (ValveState.ofCode b).map .writeValve
  | .writeReset, b :: _ => (ResetKind.ofCode b).map .writeReset
  | .writeUser1, c0 :: c1 :: u0 :: u1 :: m :: _ =>
    .ok (.writeUser1 (UInt16.ofNat (Bytes.toNatLE [c0, c1])) (UInt16.ofNat (Bytes.toNatLE [u0, u1])) m)
  | .writeUser2, a :: o :: e :: _ => .ok (.writeUser2 a o e)
  | kind, payload => .error (.truncated (payloadLength kind) payload.length)

def fields (address : Bytes) : Command → List Field
  | readData | readAddress | readUser1 | readUser2 => []
  | writeAddress a => [⟨.address, a.bytes⟩]
  | writePurchase times purchases =>
    let (times, amount) :=
      Purchase.encrypt address (Purchase.countInside times) (Bytes.ofNatLE 4 purchases.toNat)
    [⟨.times, [times]⟩, ⟨.purchases, amount⟩]
  | writeValve state => [⟨.valveStatus, [state.code]⟩]
  | writeReset kind => [⟨.reset, [kind.code]⟩]
  | writeUser1 unitCode userNo meterNo =>
    [⟨.unitCode, Bytes.ofNatLE 2 unitCode.toNat⟩, ⟨.userNo, Bytes.ofNatLE 2 userNo.toNat⟩,
      ⟨.meterNo, [meterNo]⟩, ⟨.empty, [0, 0]⟩]
  | writeUser2 alarmValue overdraft exceed =>
    [⟨.alarmValue, [alarmValue]⟩, ⟨.overdraft, [overdraft]⟩, ⟨.exceed, [exceed]⟩,
      ⟨.empty, [0, 0, 0, 0]⟩]

end Command

structure Request where
  deviceType : UInt8
  address : Option Address
  command : Command
  deriving DecidableEq

namespace Request

def kind (r : Request) : CommandKind := r.command.kind

def ofPayload (deviceType : UInt8) (address : Option Address) (kind : CommandKind) (payload : Bytes) :
    Except CodecError Request :=
  (Command.ofPayload kind payload).map (⟨deviceType, address, ·⟩)

/-- Reading the address always asks whichever meter is there.  Without an address a write goes to
all meters and a read to whichever is there. -/
def frameAddress (r : Request) : Address :=
  match r.kind, r.address with
  | .readAddress, _ => .wildcard
  | _, some a => a
  | kind, none => if kind.isWrite then .broadcast else .wildcard

def toFrame (r : Request) (seq : UInt8) : Frame where
  deviceType := r.deviceType
  address := r.frameAddress.bytes
  controlCode := r.kind.controlCode
  fields := ⟨.dataId, r.kind.dataId⟩ :: ⟨.seq, [seq]⟩ :: r.command.fields r.frameAddress.bytes

def encode (r : Request) (seq : UInt8) : Except CodecError Bytes := (r.toFrame seq).encode

end Request

end MeterGateway.Meter
