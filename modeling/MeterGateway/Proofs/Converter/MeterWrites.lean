import MeterGateway.Converter.Downlink
import MeterGateway.Proofs.Meter.Requests
import MeterGateway.Proofs.Outcome

/-!
From the parameters of a call to the frame that a meter receives.  The converter writes the fields
of a command in the clear and the request reads them again; the two agree on every command, so that
what converts can always be sent, and the frame holds the values of the parameters as the table of
commands lays them out.
-/

namespace MeterGateway

namespace Json

variable {j : Json}

theorem nat?_eq_some_iff {n : Nat} : j.nat? = some n ↔ j = .ofNat n := by
  constructor
  · intro found
    match j, found with
    | .num (.int i), found =>
      simp only [nat?, Number.nat?] at found
      split at found
      · rename_i natural
        rw [Option.some.injEq] at found
        rw [ofNat, ← found, Int.toNat_of_nonneg natural]
      · cases found
  · rintro rfl
    simp [ofNat, nat?, Number.nat?]

theorem str?_eq_some_iff {s : String} : j.str? = some s ↔ j = .str s := by
  cases j <;> simp [str?]

theorem bool?_eq_some_iff {b : Bool} : j.bool? = some b ↔ j = .bool b := by
  cases j <;> simp [bool?]

end Json

namespace Downlink

open Meter

variable {params : Json} {key : String} {bits n : Nat} {payload address : Bytes} {kind : CommandKind}

structure Given (params : Json) (key : String) (bits n : Nat) : Prop where
  member : params.member? key = some (.ofNat n)
  lt : n < Nat.pow 2 bits

theorem given_of_intParam (read : intParam params key bits = .ok n) : Given params key bits n := by
  unfold intParam at read
  split at read
  · cases read
  · rename_i m found
    split at read
    · rename_i lt
      cases read
      obtain ⟨j, member, whole⟩ := Option.bind_eq_some_iff.mp found
      rw [Json.nat?_eq_some_iff] at whole
      exact ⟨whole ▸ member, lt⟩
    · cases read

theorem Given.toNatLE (given : Given params key bits n) {w : Nat} (width : bits = 8 * w) :
    Bytes.toNatLE (Bytes.ofNatLE w n) = n := by
  rw [Bytes.toNatLE_ofNatLE]
  apply Nat.mod_eq_of_lt
  have lt := given.lt
  rw [Nat.pow_eq, width, Nat.pow_mul] at lt
  exact lt

/-- The table of the commands that write: control code, identifier, and the fields that hold what
the parameters ask for.  A purchase is enciphered with `x`, the sum of the bytes of the frame's
address.  The count, less one, and each byte of the amount are combined with it by exclusive or, and
the enciphered count modulo four says how far the amount is then turned left. -/
inductive Ordered (params : Json) (address : Bytes) :
    CommandKind → (controlCode : UInt8) → (identifier fields : Bytes) → Prop
  | address {text : String} {a : Address} :
    memberOrWhole params "address" = .str text → Address.parse text = .ok a →
      Ordered params address .writeAddress 0x15 [0x18, 0xA0] a.bytes
  | purchase {times purchases : Nat} {x count : UInt8} {amount : Bytes} :
    Given params "times" 16 times → Given params "purchases" 32 purchases →
    x = UInt8.ofNat (address.foldr (fun b sum => b.toNat + sum) 0) →
    count = (UInt8.ofNat times - 1) ^^^ x →
    amount = (Bytes.ofNatLE 4 purchases).map (· ^^^ x) →
      Ordered params address .writePurchase 0x04 [0x13, 0xA0]
        (count :: (amount.drop (count.toNat % 4) ++ amount.take (count.toNat % 4)))
  | valve {opened : Bool} :
    memberOrWhole params "open" = .bool opened →
      Ordered params address .writeValve 0x04 [0x17, 0xA0] [if opened then 0x55 else 0x99]
  | resetUnit :
    params.member? "reset" = some (.str "unit") →
      Ordered params address .writeReset 0x04 [0x21, 0xA0] [0x5A]
  | resetVendor :
    params.member? "reset" ≠ some (.str "unit") →
      Ordered params address .writeReset 0x04 [0x21, 0xA0] [0xC3]
  | user1 {unitCode userNo meterNo : Nat} :
    Given params "unitCode" 16 unitCode → Given params "userNo" 16 userNo →
    Given params "meterNo" 8 meterNo →
      Ordered params address .writeUser1 0x04 [0x27, 0xA0]
        (Bytes.ofNatLE 2 unitCode ++ Bytes.ofNatLE 2 userNo ++ [UInt8.ofNat meterNo, 0, 0])
  | user2 {alarmValue overdraft exceed : Nat} :
    Given params "alarmValue" 8 alarmValue → Given params "overdraft" 8 overdraft →
    Given params "exceed" 8 exceed →
      Ordered params address .writeUser2 0x04 [0x34, 0xA0]
        [UInt8.ofNat alarmValue, UInt8.ofNat overdraft, UInt8.ofNat exceed, 0, 0, 0, 0]

def Agrees (params : Json) (kind : CommandKind) (payload : Bytes) : Prop :=
  ∃ c, Command.ofPayload kind payload = .ok c ∧ c.kind = kind ∧
    ∀ address, Ordered params address kind kind.controlCode kind.dataId
      ((c.fields address).flatMap Field.data)

theorem agrees_writeAddress (converted : meterPayload .writeAddress params = .ok payload) :
    Agrees params .writeAddress payload := by
  simp only [meterPayload] at converted
  split at converted
  · cases converted
  · rename_i text found
    split at converted
    · rename_i a parsed
      cases converted
      rw [Json.str?_eq_some_iff] at found
      have ordered (address : Bytes) :
          Ordered params address .writeAddress 0x15 [0x18, 0xA0] a.bytes := .address found parsed
      match bytes : a.bytes, a.length_eq with
      | [a0, a1, a2, a3, a4, a5, a6], _ =>
        rw [bytes] at ordered
        exact ⟨_, rfl, rfl, ordered⟩
    · cases converted

theorem agrees_writePurchase (converted : meterPayload .writePurchase params = .ok payload) :
    Agrees params .writePurchase payload := by
  simp only [meterPayload] at converted
  obtain ⟨times, read, converted⟩ := Except.exists_of_bind_eq_ok converted
  have times_given := given_of_intParam read
  obtain ⟨purchases, read, converted⟩ := Except.exists_of_bind_eq_ok converted
  have purchases_given := given_of_intParam read
  cases converted
  have command : Command.ofPayload .writePurchase
      (Bytes.ofNatLE 2 times ++ Bytes.ofNatLE 4 purchases) =
        .ok (.writePurchase (UInt16.ofNat (Bytes.toNatLE (Bytes.ofNatLE 2 times)))
          (UInt32.ofNat (Bytes.toNatLE (Bytes.ofNatLE 4 purchases)))) := rfl
  -- what is read of the bytes are the numbers that were written
  rw [times_given.toNatLE (w := 2) rfl, purchases_given.toNatLE (w := 4) rfl] at command
  refine ⟨_, command, rfl, ?_⟩
  intro address
  have amount : (UInt32.ofNat purchases).toNat = purchases := UInt32.toNat_ofNat_of_lt purchases_given.lt
  have fields : ((Command.fields address (.writePurchase (UInt16.ofNat times)
      (UInt32.ofNat purchases))).flatMap Field.data) =
        (Purchase.encrypt address (Purchase.countInside (UInt16.ofNat times))
          (Bytes.ofNatLE 4 purchases)).1 ::
        (Purchase.encrypt address (Purchase.countInside (UInt16.ofNat times))
          (Bytes.ofNatLE 4 purchases)).2 := by
    simp [Command.fields, amount]
  rw [fields, Purchase.encrypt_of_length _ _ _ (Bytes.length_ofNatLE 4 purchases)
    (Purchase.key_eq address) rfl, Purchase.countInside_ofNat]
  exact .purchase times_given purchases_given rfl rfl rfl

theorem agrees_writeValve (converted : meterPayload .writeValve params = .ok payload) :
    Agrees params .writeValve payload := by
  simp only [meterPayload] at converted
  split at converted
  · cases converted
  · rename_i opened found
    cases converted
    rw [Json.bool?_eq_some_iff] at found
    have ordered (address : Bytes) : Ordered params address .writeValve 0x04 [0x17, 0xA0]
        [if opened then 0x55 else 0x99] := .valve found
    cases opened with
    | true | false => exact ⟨_, rfl, rfl, ordered⟩

theorem agrees_writeReset (converted : meterPayload .writeReset params = .ok payload) :
    Agrees params .writeReset payload := by
  simp only [meterPayload] at converted
  split at converted
  · rename_i vendor
    cases converted
    refine ⟨_, rfl, rfl, fun address => .resetVendor ?_⟩
    intro unit
    rw [unit] at vendor
    simp [Json.str?] at vendor
  · rename_i unit
    cases converted
    refine ⟨_, rfl, rfl, fun address => .resetUnit ?_⟩
    cases found : (params.member? "reset").bind Json.str? with
    | none => simp [found] at unit
    | some word =>
      rw [found] at unit
      obtain ⟨j, member, text⟩ := Option.bind_eq_some_iff.mp found
      rw [Json.str?_eq_some_iff] at text
      rw [member, text, show word = "unit" from unit]
  · cases converted

theorem agrees_writeUser1 (converted : meterPayload .writeUser1 params = .ok payload) :
    Agrees params .writeUser1 payload := by
  simp only [meterPayload] at converted
  obtain ⟨unitCode, read, converted⟩ := Except.exists_of_bind_eq_ok converted
  have unitCode_given := given_of_intParam read
  obtain ⟨userNo, read, converted⟩ := Except.exists_of_bind_eq_ok converted
  have userNo_given := given_of_intParam read
  obtain ⟨meterNo, read, converted⟩ := Except.exists_of_bind_eq_ok converted
  have meterNo_given := given_of_intParam read
  cases converted
  have command : Command.ofPayload .writeUser1
      (Bytes.ofNatLE 2 unitCode ++ Bytes.ofNatLE 2 userNo ++ Bytes.ofNatLE 1 meterNo) =
        .ok (.writeUser1 (UInt16.ofNat (Bytes.toNatLE (Bytes.ofNatLE 2 unitCode)))
          (UInt16.ofNat (Bytes.toNatLE (Bytes.ofNatLE 2 userNo))) (UInt8.ofNat (meterNo % 256))) := rfl
  rw [unitCode_given.toNatLE (w := 2) rfl, userNo_given.toNatLE (w := 2) rfl,
    Nat.mod_eq_of_lt meterNo_given.lt] at command
  refine ⟨_, command, rfl, ?_⟩
  intro address
  have code : (UInt16.ofNat unitCode).toNat = unitCode := UInt16.toNat_ofNat_of_lt unitCode_given.lt
  have user : (UInt16.ofNat userNo).toNat = userNo := UInt16.toNat_ofNat_of_lt userNo_given.lt
  have fields : ((Command.fields address (.writeUser1 (UInt16.ofNat unitCode) (UInt16.ofNat userNo)
      (UInt8.ofNat meterNo))).flatMap Field.data) =
        Bytes.ofNatLE 2 unitCode ++ Bytes.ofNatLE 2 userNo ++ [UInt8.ofNat meterNo, 0, 0] := by
    simp [Command.fields, code, user]
  rw [fields]
  exact .user1 unitCode_given userNo_given meterNo_given

theorem agrees_writeUser2 (converted : meterPayload .writeUser2 params = .ok payload) :
    Agrees params .writeUser2 payload := by
  simp only [meterPayload] at converted
  obtain ⟨alarmValue, read, converted⟩ := Except.exists_of_bind_eq_ok converted
  have alarmValue_given := given_of_intParam read
  obtain ⟨overdraft, read, converted⟩ := Except.exists_of_bind_eq_ok converted
  have overdraft_given := given_of_intParam read
  obtain ⟨exceed, read, converted⟩ := Except.exists_of_bind_eq_ok converted
  have exceed_given := given_of_intParam read
  cases converted
  have command : Command.ofPayload .writeUser2
      (Bytes.ofNatLE 1 alarmValue ++ Bytes.ofNatLE 1 overdraft ++ Bytes.ofNatLE 1 exceed) =
        .ok (.writeUser2 (UInt8.ofNat (alarmValue % 256)) (UInt8.ofNat (overdraft % 256))
          (UInt8.ofNat (exceed % 256))) := rfl
  rw [Nat.mod_eq_of_lt alarmValue_given.lt, Nat.mod_eq_of_lt overdraft_given.lt,
    Nat.mod_eq_of_lt exceed_given.lt] at command
  exact ⟨_, command, rfl, fun address => .user2 alarmValue_given overdraft_given exceed_given⟩

theorem agrees_of_meterPayload (write : kind.isWrite = true)
    (converted : meterPayload kind params = .ok payload) : Agrees params kind payload := by
  cases kind with
  | readData | readAddress | readUser1 | readUser2 => cases write
  | writeAddress => exact agrees_writeAddress converted
  | writePurchase => exact agrees_writePurchase converted
  | writeValve => exact agrees_writeValve converted
  | writeReset => exact agrees_writeReset converted
  | writeUser1 => exact agrees_writeUser1 converted
  | writeUser2 => exact agrees_writeUser2 converted

theorem ofName_name (kind : CommandKind) : CommandKind.ofName kind.name = .ok kind := by
  cases kind <;> rfl

theorem convert_meter {command : CommandConfig} (named : command.command = some kind.name) :
    convert command params = meterPayload kind params := by
  rw [convert, named]
  simp only [ofName_name]

end Downlink

namespace WireRequest

open Meter

variable {device : DeviceConfig} {command : CommandConfig} {kind : CommandKind} {payload : Bytes}

theorem exists_meterAddress
    (valid : ∀ text, device.meterAddress = some text → ∃ a, Address.parse text = .ok a) :
    ∃ configured, meterAddress device = .ok configured ∧
      (∀ text, device.meterAddress = some text →
        ∃ a, configured = some a ∧ Address.parse text = .ok a) ∧
      (device.meterAddress = none → configured = none) := by
  unfold meterAddress
  cases written : device.meterAddress with
  | none => exact ⟨none, rfl, by simp, by simp⟩
  | some text =>
    obtain ⟨a, parsed⟩ := valid text written
    refine ⟨some a, ?_, ?_, by simp⟩
    · simp only [parsed]
    · intro other same
      cases same
      exact ⟨a, rfl, parsed⟩

theorem write_meter {configured : Option Address} {c : Command}
    (named : command.command = some kind.name) (address : meterAddress device = .ok configured)
    (read : Command.ofPayload kind payload = .ok c) :
    write .meter device command payload = .ok (.meter ⟨device.meterType, configured, c⟩) := by
  have known : meterCommand (some kind.name) command.tag = .ok kind := by
    rw [meterCommand, Downlink.ofName_name]
    rfl
  simp only [write, named, meterRequest, Request.ofPayload, bind, Except.bind, known, address, read]
  rfl

end WireRequest

theorem meter_write_carries_params {device : DeviceConfig} {command : CommandConfig}
    {kind : Meter.CommandKind} {params : Json} {payload : Bytes}
    (valid : ∀ text, device.meterAddress = some text → ∃ a, Meter.Address.parse text = .ok a)
    (named : command.command = some kind.name) (writes : kind.isWrite = true)
    (converted : Downlink.convert command params = .ok payload) :
    ∃ request placed controlCode identifier fields,
      WireRequest.write .meter device command payload = .ok request ∧
      (∀ text, device.meterAddress = some text → Meter.Address.parse text = .ok placed) ∧
      (device.meterAddress = none → placed.bytes = List.replicate 7 0xFE) ∧
      Downlink.Ordered params placed.bytes kind controlCode identifier fields ∧
      ∀ tid,
        let line := Meter.framed device.meterType placed controlCode (identifier ++ tid :: fields)
        request.encode tid = .ok line ∧ Meter.peekSeq line = some tid := by
  rw [Downlink.convert_meter named] at converted
  obtain ⟨c, read, rfl, ordered⟩ := Downlink.agrees_of_meterPayload writes converted
  obtain ⟨configured, address, some_address, no_address⟩ := WireRequest.exists_meterAddress valid
  have write := WireRequest.write_meter named address read
  let r : Meter.Request := ⟨device.meterType, configured, c⟩
  have placed : r.frameAddress = configured.getD .broadcast := Meter.Request.frameAddress_of_write writes
  refine ⟨_, r.frameAddress, _, _, _, write, ?_, ?_, ordered r.frameAddress.bytes, ?_⟩
  · intro text written
    obtain ⟨a, rfl, parsed⟩ := some_address text written
    rw [placed]
    exact parsed
  · intro absent
    rw [placed, no_address absent]
    rfl
  · intro tid
    exact ⟨r.encode_eq_framed tid, r.peekSeq_encoded tid⟩

theorem meter_write_carries_params_purchase :
    let device : DeviceConfig := { deviceName := "meter-1", meterAddress := some "11223344556677" }
    let command : CommandConfig := { tag := "buy", command := some "writePurchase" }
    let params : Json := .obj [("times", .ofNat 4), ("purchases", .ofNat 1000)]
    let payload : Bytes := [0x04, 0x00, 0xE8, 0x03, 0x00, 0x00]
    -- the sum of the address is 0xDC, the count 3, and the amount E8 03 00 00 is turned by 3
    let fields : Bytes := [0xDF, 0xDC, 0x34, 0xDF, 0xDC]
    (∃ a, Meter.Address.parse "11223344556677" = .ok a) ∧
    Downlink.convert command params = .ok payload ∧
    ∃ request placed, WireRequest.write .meter device command payload = .ok request ∧
      Meter.Address.parse "11223344556677" = .ok placed ∧
      Downlink.Ordered params placed.bytes .writePurchase 0x04 [0x13, 0xA0] fields ∧
      (∀ tid,
        let line := Meter.framed 0x10 placed 0x04 ([0x13, 0xA0] ++ tid :: fields)
        request.encode tid = .ok line ∧ Meter.peekSeq line = some tid) ∧
      request.encode 0 = .ok [0x68, 0x10, 0x11, 0x22, 0x33, 0x44, 0x55, 0x66, 0x77, 0x04, 0x08,
        0x13, 0xA0, 0x00, 0xDF, 0xDC, 0x34, 0xDF, 0xDC, 0xBD, 0x16] := by
  intro device command params payload fields
  have valid : ∃ a, Meter.Address.parse "11223344556677" = .ok a := ⟨_, rfl⟩
  have converted : Downlink.convert command params = .ok payload := rfl
  have addressed : ∀ text, device.meterAddress = some text →
      ∃ a, Meter.Address.parse text = .ok a := by
    intro text written
    cases written
    exact valid
  obtain ⟨request, placed, controlCode, identifier, given, write, parsed, -, ordered, sent⟩ :=
    @meter_write_carries_params device command .writePurchase params payload addressed rfl rfl
      converted
  have address : placed.bytes = [0x11, 0x22, 0x33, 0x44, 0x55, 0x66, 0x77] := by
    cases parsed _ rfl
    rfl
  refine ⟨valid, converted, request, placed, write, parsed _ rfl, ?_⟩
  cases ordered with
  | @purchase times purchases x count amount times_given purchases_given sum hidden turned =>
    cases times_given.member
    cases purchases_given.member
    rw [address] at sum
    subst sum hidden turned
    cases parsed _ rfl
    refine ⟨.purchase times_given purchases_given rfl rfl rfl, sent, (sent 0).1.trans ?_⟩
    exact congrArg Except.ok (by decide)

end MeterGateway
