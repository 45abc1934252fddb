import MeterGateway.Meter.Command

namespace MeterGateway.Meter

structure Response where
  kind : CommandKind
  decoded : Decoded
  deriving DecidableEq

def Frame.decryptPurchase (f : Frame) : Frame :=
  match f.field? .times, f.field? .purchases with
  | some ⟨_, times :: _⟩, some ⟨_, [p0, p1, p2, p3]⟩ =>
    let (times, amount) := Purchase.decrypt f.address times [p0, p1, p2, p3]
    (f.setField .times [times]).setField .purchases amount
  | _, _ => f

namespace Response

def responseFlag : UInt8 := 0x80

def decode (kind : CommandKind) (bytes : Bytes) : Except CodecError Response :=
  match Frame.decode kind.responseLayout bytes with
  | .ok decoded =>
    if kind = .writePurchase then
      .ok ⟨kind, { decoded with frame := decoded.frame.decryptPurchase }⟩
    else .ok ⟨kind, decoded⟩
  | .error e => .error e

def frame (r : Response) : Frame := r.decoded.frame

def checksumOk (r : Response) : Bool := r.decoded.checksumOk

def seq? (r : Response) : Option UInt8 := (r.frame.field? .seq).bind (·.data.head?)

def dataId? (r : Response) : Option Bytes :=
  (r.frame.field? .dataId).bind fun f => if f.data.length = 2 then some f.data else none

def acknowledges (r : Response) (kind : CommandKind) : Bool :=
  r.frame.controlCode = kind.controlCode ||| responseFlag && r.dataId? = some kind.dataId

def fields (r : Response) : List Field :=
  r.frame.fields.filter fun f => f.name ≠ .dataId ∧ f.name ≠ .seq ∧ f.name ≠ .empty

end Response

end MeterGateway.Meter
