import MeterGateway.Converter.Uplink
import MeterGateway.Proofs.Meter.Requests
import MeterGateway.Proofs.Meter.RoundTrip

namespace MeterGateway

namespace Uplink

theorem convert_meter (device : DeviceConfig) (kind : PollKind) (point : PointConfig)
    (r : Meter.Response) :
    ∃ report, (bytes device kind point (.meter r)).result = .ok report ∧
      report.entries kind = r.fields.map (fun f => ⟨f.name.key, fieldValue f⟩) ∧
      ∀ other, other ≠ kind → report.entries other = [] := by
  have listed := Report.entries_pushed device.deviceName device.deviceType kind
    (r.fields.map fun f => ⟨f.name.key, fieldValue f⟩)
  rw [List.foldl_map] at listed
  exact ⟨_, rfl, listed⟩

end Uplink

namespace Meter

inductive Answer : CommandKind → Type
  | readData : (totalUsed remaining totalPurchases : UInt32) → (times status0 status1 : UInt8) →
      Answer .readData
  | readAddress : Address → Answer .readAddress
  | readUser1 : (unitCode userNo : UInt16) → (meterNo : UInt8) → (reserved : UInt16) →
      Answer .readUser1
  | readUser2 : (alarmValue overdraft exceed : UInt8) → (reserved : UInt32) → Answer .readUser2
  | writeAddress : Answer .writeAddress
  | writePurchase : (times : UInt8) → (purchases : UInt32) → Answer .writePurchase
  | writeValve : (status0 status1 : UInt8) → Answer .writeValve
  | writeReset : Answer .writeReset
  | writeUser1 : (unitCode userNo : UInt16) → (meterNo : UInt8) → (reserved : UInt16) →
      Answer .writeUser1
  | writeUser2 : (alarmValue overdraft exceed : UInt8) → (reserved : UInt32) → Answer .writeUser2

namespace Answer

variable {kind : CommandKind}

/-- The bytes of an answer after identifier and sequence number.  A purchase is enciphered with the
address that stands in the frame. -/
def bytes (address : Bytes) : Answer kind → Bytes
  | readData totalUsed remaining totalPurchases times status0 status1 =>
    Bytes.ofNatLE 4 totalUsed.toNat ++ Bytes.ofNatLE 4 remaining.toNat ++
      Bytes.ofNatLE 4 totalPurchases.toNat ++ [times, status0, status1]
  | readAddress a => a.bytes
  | readUser1 unitCode userNo meterNo reserved | writeUser1 unitCode userNo meterNo reserved =>
    Bytes.ofNatLE 2 unitCode.toNat ++ Bytes.ofNatLE 2 userNo.toNat ++ [meterNo] ++
      Bytes.ofNatLE 2 reserved.toNat
  | readUser2 alarmValue overdraft exceed reserved
  | writeUser2 alarmValue overdraft exceed reserved =>
    [alarmValue, overdraft, exceed] ++ Bytes.ofNatLE 4 reserved.toNat
  | writePurchase times purchases =>
    let (times, amount) := Purchase.encrypt address times (Bytes.ofNatLE 4 purchases.toNat)
    times :: amount
  | writeValve status0 status1 => [status0, status1]
  | writeAddress | writeReset => []

def entries : Answer kind → List Entry
  | readData totalUsed remaining totalPurchases times status0 status1 =>
    [⟨"totalUsed", .ofNat totalUsed.toNat⟩, ⟨"remaining", .ofNat remaining.toNat⟩,
      ⟨"totalPurchases", .ofNat totalPurchases.toNat⟩, ⟨"times", .ofNat times.toNat⟩,
      ⟨"status0", .ofNat status0.toNat⟩, ⟨"status1", .ofNat status1.toNat⟩]
  | readAddress a => [⟨"address", .str (Hex.upper a.bytes)⟩]
  | readUser1 unitCode userNo meterNo _ | writeUser1 unitCode userNo meterNo _ =>
    [⟨"unitCode", .ofNat unitCode.toNat⟩, ⟨"userNo", .ofNat userNo.toNat⟩,
      ⟨"meterNo", .ofNat meterNo.toNat⟩]
  | readUser2 alarmValue overdraft exceed _ | writeUser2 alarmValue overdraft exceed _ =>
    [⟨"alarmValue", .ofNat alarmValue.toNat⟩, ⟨"overdraft", .ofNat overdraft.toNat⟩,
      ⟨"exceed", .ofNat exceed.toNat⟩]
  | writePurchase times purchases =>
    [⟨"times", .ofNat times.toNat⟩, ⟨"purchases", .ofNat purchases.toNat⟩]
  | writeValve status0 status1 =>
    [⟨"status0", .ofNat status0.toNat⟩, ⟨"status1", .ofNat status1.toNat⟩]
  | writeAddress | writeReset => []

def fields : Answer kind → List Field
  | readData totalUsed remaining totalPurchases times status0 status1 =>
    [⟨.totalUsed, Bytes.ofNatLE 4 totalUsed.toNat⟩, ⟨.remaining, Bytes.ofNatLE 4 remaining.toNat⟩,
      ⟨.totalPurchases, Bytes.ofNatLE 4 totalPurchases.toNat⟩, ⟨.times, [times]⟩,
      ⟨.status0, [status0]⟩, ⟨.status1, [status1]⟩]
  | readAddress a => [⟨.address, a.bytes⟩]
  | readUser1 unitCode userNo meterNo reserved | writeUser1 unitCode userNo meterNo reserved =>
    [⟨.unitCode, Bytes.ofNatLE 2 unitCode.toNat⟩, ⟨.userNo, Bytes.ofNatLE 2 userNo.toNat⟩,
      ⟨.meterNo, [meterNo]⟩, ⟨.empty, Bytes.ofNatLE 2 reserved.toNat⟩]
  | readUser2 alarmValue overdraft exceed reserved
  | writeUser2 alarmValue overdraft exceed reserved =>
    [⟨.alarmValue, [alarmValue]⟩, ⟨.overdraft, [overdraft]⟩, ⟨.exceed, [exceed]⟩,
      ⟨.empty, Bytes.ofNatLE 4 reserved.toNat⟩]
  | writePurchase times purchases =>
    [⟨.times, [times]⟩, ⟨.purchases, Bytes.ofNatLE 4 purchases.toNat⟩]
  | writeValve status0 status1 => [⟨.status0, [status0]⟩, ⟨.status1, [status1]⟩]
  | writeAddress | writeReset => []

variable (a : Answer kind) (deviceType seq : UInt8) (address : Address) (rest : Bytes)

def area : Bytes := kind.dataId ++ seq :: (a.bytes address.bytes ++ rest)

end Answer

end Meter

end MeterGateway
