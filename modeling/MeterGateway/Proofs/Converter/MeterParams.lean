import MeterGateway.Proofs.Converter.MeterWrites

/-!
The parameters of the meter commands.  A command has a list of parameters, each of a type that fixes
which values it takes and how they are written; a payload is what the parameters write one after
another.  Every value that is given is either written or refused, but for a reset that is given by
anything but a text, which counts as not given.
-/

namespace MeterGateway.Downlink

open Meter

inductive ParamType
  | address : ParamType
  | truth : ParamType
  | word : ParamType
  | whole : (width : Nat) → ParamType

inductive ParamType.Writes : ParamType → Json → Bytes → Prop
  | address {text : String} {a : Address} :
    Address.parse text = .ok a → Writes .address (.str text) a.bytes
  | truth (b : Bool) : Writes .truth (.bool b) [if b then 0x55 else 0x99]
  | vendor : Writes .word (.str "vendor") [0xC3]
  | unit : Writes .word (.str "unit") [0x5A]
  | whole {width n : Nat} :
    n < Nat.pow 2 (8 * width) → Writes (.whole width) (.ofNat n) (Bytes.ofNatLE width n)

abbrev ParamTable := List (String × ParamType)

def parameters : CommandKind → ParamTable
  | .readData | .readAddress | .readUser1 | .readUser2 => []
  | .writeAddress => [("address", .address)]
  | .writePurchase => [("times", .whole 2), ("purchases", .whole 4)]
  | .writeValve => [("open", .truth)]
  | .writeReset => [("reset", .word)]
  | .writeUser1 => [("unitCode", .whole 2), ("userNo", .whole 2), ("meterNo", .whole 1)]
  | .writeUser2 => [("alarmValue", .whole 1), ("overdraft", .whole 1), ("exceed", .whole 1)]

/-- What is taken for a parameter that is not given.  All of the parameters together stand in for an
address or a truth value; only a word has a default. -/
def ParamType.otherwise (params : Json) : ParamType → Option Json
  | .address | .truth => some params
  | .word => some (.str "vendor")
  | .whole _ => none

inductive Supplies (params : Json) (key : String) (type : ParamType) (j : Json) : Prop
  | given : params.member? key = some j → Supplies params key type j
  | absent : params.member? key = none → type.otherwise params = some j → Supplies params key type j

inductive Filled (params : Json) : ParamTable → Bytes → Prop
  | nil : Filled params [] []
  | cons {key : String} {type : ParamType} {j : Json} {field payload : Bytes} {table : ParamTable} :
    Supplies params key type j → type.Writes j field → Filled params table payload →
      Filled params ((key, type) :: table) (field ++ payload)

def Worded (params : Json) (table : ParamTable) : Prop :=
  ∀ key j, (key, .word) ∈ table → params.member? key = some j → ∃ text, j = .str text

/-! ### Reading one parameter after another -/

def ParamType.read (params : Json) (key : String) : ParamType → Except ConvertError Bytes
  | .address =>
    match (memberOrWhole params key).str? with
    | none => .error (.invalidParams (.required key))
    | some text =>
      match Address.parse text with
      | .ok a => .ok a.bytes
      | .error e => .error (.invalidParams (.codec e))
  | .truth =>
    match (memberOrWhole params key).bool? with
    | none => .error (.invalidParams (.required key))
    | some opened => .ok [(if opened then ValveState.opened else ValveState.closed).code]
  | .word =>
    match ((params.member? key).bind Json.str?).getD "vendor" with
    | "vendor" => .ok [ResetKind.vendor.code]
    | "unit" => .ok [ResetKind.unit.code]
    | other => .error (.invalidParams (.resetWord other))
  | .whole width => (intParam params key (8 * width)).map (Bytes.ofNatLE width)

def fill (params : Json) : ParamTable → Except ConvertError Bytes
  | [] => .ok []
  | (key, type) :: table => do
    let field ← type.read params key
    let payload ← fill params table
    return field ++ payload

variable {params : Json} {key : String} {type : ParamType} {table : ParamTable}
variable {field payload : Bytes} {j : Json} {bits n : Nat} {e : ConvertError}

theorem fill_singleton : fill params [(key, type)] = type.read params key := by
  simp only [fill]
  cases type.read params key with
  | error e => rfl
  | ok field =>
    show Except.ok (field ++ []) = Except.ok field
    rw [List.append_nil]

theorem meterPayload_eq_fill (kind : CommandKind) (params : Json) :
    meterPayload kind params = fill params (parameters kind) := by
  cases kind with
  | readData | readAddress | readUser1 | readUser2 => rfl
  | writeAddress | writeValve | writeReset =>
    simp only [parameters, fill_singleton]
    rfl
  | writePurchase =>
    simp only [meterPayload, parameters, fill, ParamType.read, Nat.reduceMul]
    cases intParam params "times" 16 with
    | error e => rfl
    | ok times => cases intParam params "purchases" 32 <;> rfl
  | writeUser1 =>
    simp only [meterPayload, parameters, fill, ParamType.read, Nat.reduceMul]
    cases intParam params "unitCode" 16 with
    | error e => rfl
    | ok unitCode =>
      cases intParam params "userNo" 16 with
      | error e => rfl
      | ok userNo => cases intParam params "meterNo" 8 <;> rfl
  | writeUser2 =>
    simp only [meterPayload, parameters, fill, ParamType.read, Nat.reduceMul]
    cases intParam params "alarmValue" 8 with
    | error e => rfl
    | ok alarmValue =>
      cases intParam params "overdraft" 8 with
      | error e => rfl
      | ok overdraft => cases intParam params "exceed" 8 <;> rfl

/-! ### What is read -/

theorem worded_cons_iff {entry : String × ParamType} :
    Worded params (entry :: table) ↔ Worded params [entry] ∧ Worded params table := by
  simp only [Worded, List.mem_cons, List.not_mem_nil, or_false, or_imp, forall_and]

theorem supplies_iff :
    Supplies params key type j ↔ (params.member? key).or (type.otherwise params) = some j := by
  constructor
  · intro supplied
    cases supplied with
    | given given => rw [given]; rfl
    | absent absent other => rw [absent, Option.none_or, other]
  · intro found
    cases given : params.member? key with
    | none =>
      rw [given, Option.none_or] at found
      exact .absent given found
    | some i =>
      rw [given, Option.some_or] at found
      exact .given (given.trans found)

theorem or_some_params (params : Json) (key : String) :
    (params.member? key).or (some params) = some (memberOrWhole params key) := by
  unfold memberOrWhole
  cases params.member? key <;> rfl

theorem intParam_eq_ok_iff : intParam params key bits = .ok n ↔ Given params key bits n := by
  constructor
  · exact given_of_intParam
  · intro given
    have found : (params.member? key).bind Json.nat? = some n := by
      rw [given.member]
      exact Json.nat?_eq_some_iff.mpr rfl
    simp only [intParam, found, if_pos given.lt]

namespace ParamType

theorem read_address_iff : address.read params key = .ok field ↔
    ∃ text a, memberOrWhole params key = .str text ∧ Address.parse text = .ok a ∧
      a.bytes = field := by
  simp only [read]
  split
  · rename_i none_found
    constructor
    · intro read
      cases read
    · rintro ⟨text, a, written, -⟩
      rw [written] at none_found
      cases none_found
  · rename_i text found
    rw [Json.str?_eq_some_iff] at found
    simp only [found, Json.str.injEq, exists_and_left, exists_eq_left']
    split
    · rename_i a parsed
      simp [parsed]
    · rename_i parsed
      simp [parsed]

theorem read_truth_iff : truth.read params key = .ok field ↔
    ∃ b, memberOrWhole params key = .bool b ∧ field = [if b then 0x55 else 0x99] := by
  simp only [read]
  split
  · rename_i none_found
    constructor
    · intro read
      cases read
    · rintro ⟨b, written, -⟩
      rw [written] at none_found
      cases none_found
  · rename_i opened found
    rw [Json.bool?_eq_some_iff] at found
    simp only [found, Json.bool.injEq, exists_eq_left']
    cases opened <;> simp [ValveState.code, eq_comm]

theorem exists_word (worded : Worded params [(key, .word)]) :
    ∃ text, Supplies params key .word (.str text) ∧
      ((params.member? key).bind Json.str?).getD "vendor" = text := by
  cases given : params.member? key with
  | none => exact ⟨"vendor", .absent given rfl, rfl⟩
  | some j =>
    obtain ⟨text, rfl⟩ := worded key j List.mem_cons_self given
    exact ⟨text, .given given, rfl⟩

theorem writes_text_iff {text : String} : word.Writes (.str text) field ↔
    text = "vendor" ∧ field = [0xC3] ∨ text = "unit" ∧ field = [0x5A] := by
  constructor
  · intro written
    generalize same : Json.str text = j at written
    cases written with
    | vendor => exact .inl ⟨Json.str.inj same, rfl⟩
    | unit => exact .inr ⟨Json.str.inj same, rfl⟩
  · rintro (⟨rfl, rfl⟩ | ⟨rfl, rfl⟩)
    · exact .vendor
    · exact .unit

theorem read_word_iff (worded : Worded params [(key, .word)]) :
    word.read params key = .ok field ↔ ∃ j, Supplies params key .word j ∧ word.Writes j field := by
  obtain ⟨text, supplied, taken⟩ := exists_word worded
  simp only [supplies_iff] at supplied ⊢
  simp only [supplied, Option.some.injEq, exists_eq_left', writes_text_iff, read, taken]
  split
  · simp [ResetKind.code, eq_comm]
  · simp [ResetKind.code, eq_comm]
  · rename_i vendor unit
    constructor
    · intro read
      cases read
    · rintro (⟨same, -⟩ | ⟨same, -⟩)
      · exact (vendor same).elim
      · exact (unit same).elim

theorem read_word_of_mistyped (given : params.member? key = some j) (mistyped : j.str? = none) :
    word.read params key = .ok [0xC3] := by
  have taken : ((params.member? key).bind Json.str?).getD "vendor" = "vendor" := by
    rw [given, Option.bind_some, mistyped]
    rfl
  simp only [read, taken]
  rfl

theorem read_eq_ok_iff (worded : Worded params [(key, type)]) :
    type.read params key = .ok field ↔ ∃ j, Supplies params key type j ∧ type.Writes j field := by
  cases type with
  | address =>
    simp only [read_address_iff, supplies_iff, otherwise, or_some_params, Option.some.injEq,
      exists_eq_left']
    constructor
    · rintro ⟨text, a, whole, parsed, rfl⟩
      rw [whole]
      exact .address parsed
    · intro written
      generalize memberOrWhole params key = j at written
      cases written with
      | address parsed => exact ⟨_, _, rfl, parsed, rfl⟩
  | truth =>
    simp only [read_truth_iff, supplies_iff, otherwise, or_some_params, Option.some.injEq,
      exists_eq_left']
    constructor
    · rintro ⟨b, whole, rfl⟩
      rw [whole]
      exact .truth b
    · intro written
      generalize memberOrWhole params key = j at written
      cases written with
      | truth b => exact ⟨b, rfl, rfl⟩
  | word => exact read_word_iff worded
  | whole width =>
    constructor
    · intro read
      obtain ⟨n, found, rfl⟩ := Except.exists_of_map_eq_ok read
      have given := given_of_intParam found
      exact ⟨_, .given given.member, .whole given.lt⟩
    · rintro ⟨j, supplied, written⟩
      cases written with
      | whole lt =>
        cases supplied with
        | given member => rw [read, intParam_eq_ok_iff.mpr ⟨member, lt⟩]; rfl
        | absent _ other => cases other

theorem invalidParams_of_read (refused : type.read params key = .error e) :
    ∃ fault, e = .invalidParams fault := by
  cases type with
  | address =>
    simp only [read] at refused
    split at refused
    · cases refused; exact ⟨_, rfl⟩
    · split at refused
      · cases refused
      · cases refused; exact ⟨_, rfl⟩
  | truth =>
    simp only [read] at refused
    split at refused
    · cases refused; exact ⟨_, rfl⟩
    · cases refused
  | word =>
    simp only [read] at refused
    split at refused
    · cases refused
    · cases refused
    · cases refused; exact ⟨_, rfl⟩
  | whole width =>
    simp only [read, intParam] at refused
    split at refused
    · cases refused; exact ⟨_, rfl⟩
    · split at refused
      · cases refused
      · cases refused; exact ⟨_, rfl⟩

end ParamType

/-! ### What the parameters of a command write together -/

theorem invalidParams_of_fill (refused : fill params table = .error e) :
    ∃ fault, e = .invalidParams fault := by
  induction table with
  | nil => cases refused
  | cons entry table ih =>
    obtain ⟨key, type⟩ := entry
    simp only [fill] at refused
    cases read : type.read params key with
    | error f =>
      rw [read] at refused
      cases refused
      exact ParamType.invalidParams_of_read read
    | ok field =>
      cases rest : fill params table with
      | error f =>
        rw [read, rest] at refused
        cases refused
        exact ih rest
      | ok payload =>
        rw [read, rest] at refused
        cases refused

theorem fill_eq_ok_iff (worded : Worded params table) :
    fill params table = .ok payload ↔ Filled params table payload := by
  induction table generalizing payload with
  | nil =>
    constructor
    · intro filled
      cases filled
      exact .nil
    · intro filled
      cases filled
      rfl
  | cons entry table ih =>
    obtain ⟨key, type⟩ := entry
    obtain ⟨here, there⟩ := worded_cons_iff.mp worded
    constructor
    · intro filled
      obtain ⟨field, read, filled⟩ := Except.exists_of_bind_eq_ok filled
      obtain ⟨rest, filled_rest, same⟩ := Except.exists_of_bind_eq_ok filled
      cases same
      obtain ⟨j, supplied, written⟩ := (ParamType.read_eq_ok_iff here).mp read
      exact .cons supplied written ((ih there).mp filled_rest)
    · intro filled
      cases filled with
      | cons supplied written filled =>
        have read := (ParamType.read_eq_ok_iff here).mpr ⟨_, supplied, written⟩
        rw [fill, read, (ih there).mpr filled]
        rfl

theorem Filled.exists_writes (filled : Filled params table payload) (member : (key, type) ∈ table)
    (given : params.member? key = some j) : ∃ field, type.Writes j field := by
  induction filled with
  | nil => cases member
  | cons supplied written filled ih =>
    rcases List.mem_cons.mp member with same | member
    · cases same
      cases supplied with
      | given other =>
        rw [given] at other
        cases other
        exact ⟨_, written⟩
      | absent absent =>
        rw [given] at absent
        cases absent
    · exact ih member

theorem eq_writeReset_of_not_worded {kind : CommandKind}
    (mistyped : ¬Worded params (parameters kind)) :
    kind = .writeReset ∧ ∃ j, params.member? "reset" = some j ∧ j.str? = none := by
  simp only [Worded, not_forall] at mistyped
  obtain ⟨key, j, member, given, other⟩ := mistyped
  have untold : j.str? = none := by
    cases told : j.str? with
    | none => rfl
    | some text => exact absurd ⟨text, Json.str?_eq_some_iff.mp told⟩ other
  cases kind <;> simp only [parameters, List.mem_cons, List.not_mem_nil, Prod.mk.injEq, or_false,
    reduceCtorEq, and_false, and_true] at member
  subst member
  exact ⟨rfl, j, given, untold⟩

theorem payload_filled_from_params {command : CommandConfig} {kind : CommandKind} {params : Json}
    (named : command.command = some kind.name) :
    (Worded params (parameters kind) →
      (∀ payload, convert command params = .ok payload ↔ Filled params (parameters kind) payload) ∧
      ∀ key type j, (key, type) ∈ parameters kind → params.member? key = some j →
        (∀ field, ¬type.Writes j field) →
          ∃ fault, convert command params = .error (.invalidParams fault)) ∧
    (¬Worded params (parameters kind) →
      kind = .writeReset ∧ convert command params = .ok [0xC3]) ∧
    ∀ e, convert command params = .error e → ∃ fault, e = .invalidParams fault := by
  rw [convert_meter named, meterPayload_eq_fill]
  refine ⟨?_, ?_, fun e => invalidParams_of_fill⟩
  · intro worded
    refine ⟨fun payload => fill_eq_ok_iff worded, ?_⟩
    intro key type j member given unwritten
    cases filled : fill params (parameters kind) with
    | error e =>
      obtain ⟨fault, rfl⟩ := invalidParams_of_fill filled
      exact ⟨fault, rfl⟩
    | ok payload =>
      obtain ⟨field, written⟩ := ((fill_eq_ok_iff worded).mp filled).exists_writes member given
      exact absurd written (unwritten field)
  · intro mistyped
    obtain ⟨rfl, j, given, untold⟩ := eq_writeReset_of_not_worded mistyped
    refine ⟨rfl, ?_⟩
    rw [parameters, fill_singleton, ParamType.read_word_of_mistyped given untold]

theorem payload_filled_from_params_purchase :
    let command : CommandConfig := { tag := "buy", command := some "writePurchase" }
    let params : Json := .obj [("times", .ofNat 3), ("purchases", .ofNat 1000)]
    let excess : Json := .obj [("times", .ofNat 70000), ("purchases", .ofNat 1)]
    command.command = some CommandKind.writePurchase.name ∧
    Worded params (parameters .writePurchase) ∧ Worded excess (parameters .writePurchase) ∧
    Filled params (parameters .writePurchase) [0x03, 0x00, 0xE8, 0x03, 0x00, 0x00] ∧
    ∃ fault, convert command excess = .error (.invalidParams fault) := by
  intro command params excess
  have named : command.command = some CommandKind.writePurchase.name := rfl
  have worded (given : Json) : Worded given (parameters .writePurchase) := by
    intro key j member
    simp [parameters] at member
  have too_many : ∀ field, ¬(ParamType.whole 2).Writes (.ofNat 70000) field := by
    intro field written
    generalize same : Json.ofNat 70000 = j at written
    cases written with
    | @whole _ n lt =>
      have number : 70000 = n := Int.ofNat.inj (Number.int.inj (Json.num.inj same))
      rw [← number] at lt
      exact absurd lt (by decide)
  obtain ⟨of_params, -, -⟩ := @payload_filled_from_params command .writePurchase params named
  obtain ⟨of_excess, -, -⟩ := @payload_filled_from_params command .writePurchase excess named
  refine ⟨named, worded params, worded excess, ?_, ?_⟩
  · exact ((of_params (worded params)).1 _).mp rfl
  · exact (of_excess (worded excess)).2 "times" (.whole 2) (.ofNat 70000) List.mem_cons_self rfl
      too_many

/-- A number given for the kind of reset is neither read nor refused: the meter is reset as by its
vendor. -/
theorem mistyped_reset_is_taken_for_vendor :
    let command : CommandConfig := { tag := "reset", command := some "writeReset" }
    let params : Json := .obj [("reset", .ofNat 1)]
    ("reset", .word) ∈ parameters .writeReset ∧ params.member? "reset" = some (.ofNat 1) ∧
    (∀ field, ¬ParamType.word.Writes (.ofNat 1) field) ∧
    convert command params = .ok [0xC3] := by
  refine ⟨List.mem_cons_self, rfl, ?_, rfl⟩
  intro field written
  cases written

end MeterGateway.Downlink
