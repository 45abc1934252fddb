import MeterGateway.Json.Reader
import MeterGateway.Text.Quoted

/-!
Reading JSON values as records.  The members of an object are taken in the order of the text and the
first problem ends the reading; absent members are noticed after the last one, in the order in
which the record lists them.  Members that the record does not know need not have a value.
-/

namespace MeterGateway.Json

inductive Expected
  | unsigned : (bits : Nat) → Expected
  | string : Expected
  | boolean : Expected
  | sequence : Expected
  | record : (name : String) → Expected

def Expected.text : Expected → String
  | unsigned bits => s!"u{bits}"
  | string => "a string"
  | boolean => "a boolean"
  | sequence => "a sequence"
  | record name => "struct " ++ name

inductive Mismatch
  | wrongType : (found : Json) → Expected → Mismatch
  | outOfRange : Int → Expected → Mismatch
  | missing : (member : String) → Mismatch
  | duplicate : (member : String) → Mismatch
  | tooShort : (length : Nat) → (record : String) → (members : Nat) → Mismatch
  | tooLong : Mismatch
  | illegible : Mismatch

def described : Json → String
  | .null => "null"
  | .bool b => s!"boolean `{b}`"
  | .num (.int i) => s!"integer `{i}`"
  | .num (.float x) => "floating point `" ++ x.text ++ "`"
  | .str s => "string " ++ Text.quoted s
  | .arr _ => "sequence"
  | .obj _ => "map"

def Mismatch.message : Mismatch → String
  | wrongType found expected => "invalid type: " ++ found.described ++ ", expected " ++ expected.text
  | outOfRange i expected =>
    "invalid value: " ++ (Json.ofInt i).described ++ ", expected " ++ expected.text
  | missing member => s!"missing field `{member}`"
  | duplicate member => s!"duplicate field `{member}`"
  | tooShort length record members =>
    s!"invalid length {length}, expected struct {record} with {members} elements"
  | tooLong => "trailing characters"
  | illegible => "no value"

inductive Fault
  | syntaxError : Fault
  | mismatch : Mismatch → Fault

def Fault.message : Fault → String
  | syntaxError => "syntax"
  | mismatch m => m.message

abbrev Reader (α : Type) := Json → Except Mismatch α

/-- An integer of so many bits; a float is of the wrong type even when it is whole. -/
def readUnsigned (bits : Nat) : Reader Nat
  | .num (.int i) =>
    if 0 ≤ i ∧ i < Nat.pow 2 bits then .ok i.toNat else .error (.outOfRange i (.unsigned bits))
  | j => .error (.wrongType j (.unsigned bits))

def readString : Reader String
  | .str s => .ok s
  | j => .error (.wrongType j .string)

def readBool : Reader Bool
  | .bool b => .ok b
  | j => .error (.wrongType j .boolean)

def readList (item : Reader α) : Reader (List α)
  | .arr items => items.mapM item
  | j => .error (.wrongType j .sequence)

def readOption (value : Reader α) : Reader (Option α)
  | .null => .ok none
  | j => (value j).map some

def readValue : Reader Json := fun j => if j.isLegible then .ok j.normal else .error .illegible

structure Member where
  name : String
  accepts : Reader Unit
  required : Bool

def member (name : String) (value : Reader α) : Member := ⟨name, fun j => (value j).map fun _ => (), true⟩

def optional (name : String) (value : Reader α) : Member := ⟨name, fun j => (value j).map fun _ => (), false⟩

def checkMembers (known : List Member) (seen : List String) : List (String × Json) → Except Mismatch Unit
  | [] => .ok ()
  | (key, value) :: rest =>
    match known.find? (·.name = key) with
    | none => checkMembers known seen rest
    | some m =>
      if key ∈ seen then .error (.duplicate key)
      else
        match m.accepts value with
        | .ok () => checkMembers known (key :: seen) rest
        | .error e => .error e

def checkItems (record : String) (count : Nat) (index : Nat) :
    List Member → List Json → Except Mismatch (List (String × Json))
  | [], [] => .ok []
  | [], _ :: _ => .error .tooLong
  | m :: known, [] =>
    if m.required then .error (.tooShort index record count)
    else checkItems record count (index + 1) known []
  | m :: known, value :: rest =>
    match m.accepts value with
    | .ok () => (checkItems record count (index + 1) known rest).map ((m.name, value) :: ·)
    | .error e => .error e

/-- The members of a record, each known one at most once and of the right type, and all required
ones.  A sequence gives the members by position. -/
def readMembers (record : String) (known : List Member) : Reader (List (String × Json))
  | .obj members =>
    match checkMembers known [] members with
    | .error e => .error e
    | .ok () =>
      match known.find? fun m => m.required && (members.lookup m.name).isNone with
      | some m => .error (.missing m.name)
      | none => .ok members
  | .arr items => checkItems record known.length 0 known items
  | j => .error (.wrongType j (.record record))

def require (members : List (String × Json)) (name : String) (value : Reader α) : Except Mismatch α :=
  match members.lookup name with
  | some j => value j
  | none => .error (.missing name)

def orElse (members : List (String × Json)) (name : String) (value : Reader α) (default : α) :
    Except Mismatch α :=
  match members.lookup name with
  | some j => value j
  | none => .ok default

/-- A text that cannot be read as what is asked for and has no value besides is no JSON. -/
def readText (value : Reader α) (text : String) : Except Fault α :=
  match skim? text with
  | none => .error .syntaxError
  | some j =>
    match value j with
    | .ok a => .ok a
    | .error e => .error (if j.isLegible then .mismatch e else .syntaxError)

end MeterGateway.Json
