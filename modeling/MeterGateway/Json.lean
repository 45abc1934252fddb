import MeterGateway.Binary.Decimal

/-!
JSON values.  Integers are kept apart from floating-point numbers, and an object keeps its members
as they were written; `normal` is the value such a text stands for, with members sorted by key and
the last of equal keys kept.
-/

namespace MeterGateway

/-- An integer lies in the range from `-2 ^ 63` to below `2 ^ 64`; the float of a value is finite. -/
inductive Number
  | int : Int → Number
  | float : Binary64 → Number
  deriving DecidableEq, Inhabited

namespace Number

/-- Zeros of either sign are one number; an integer never equals a float. -/
def same : Number → Number → Bool
  | .int i, .int j => i = j
  | .float x, .float y => x = y || (x.isZero && y.isZero)
  | _, _ => false

def isZero : Number → Bool
  | .int i => i = 0
  | .float x => x.isZero

def toDouble : Number → Binary64
  | .int i => Binary64.ofInt i
  | .float x => x

def nat? : Number → Option Nat
  | .int i => if 0 ≤ i then some i.toNat else none
  | .float _ => none

def int? : Number → Option Int
  | .int i => if i < 0x8000000000000000 then some i else none
  | .float _ => none

def text : Number → String
  | .int i => toString i
  | .float x => x.text

end Number

inductive Json
  | null : Json
  | bool : Bool → Json
  | num : Number → Json
  | str : String → Json
  | arr : List Json → Json
  | obj : List (String × Json) → Json
  deriving Inhabited

namespace Json

def ofNat (n : Nat) : Json := .num (.int n)

def ofInt (i : Int) : Json := .num (.int i)

def ofDouble (x : Binary64) : Json := if x.isFinite then .num (.float x) else .null

def str? : Json → Option String
  | .str s => some s
  | _ => none

def bool? : Json → Option Bool
  | .bool b => some b
  | _ => none

def nat? : Json → Option Nat
  | .num n => n.nat?
  | _ => none

def int? : Json → Option Int
  | .num n => n.int?
  | _ => none

def member? (key : String) : Json → Option Json
  | .obj members => members.lookup key
  | _ => none

def insertMember (key : String) (value : α) : List (String × α) → List (String × α)
  | [] => [(key, value)]
  | (k, v) :: rest =>
    if key < k then (key, value) :: (k, v) :: rest
    else if key = k then (key, value) :: rest
    else (k, v) :: insertMember key value rest

mutual

/-- The value with the members of every object sorted by key, the last of equal keys kept. -/
def normal : Json → Json
  | .arr items => .arr (normalItems items)
  | .obj members => .obj (normalMembers [] members)
  | j => j

def normalItems : List Json → List Json
  | [] => []
  | j :: rest => j.normal :: normalItems rest

def normalMembers (done : List (String × Json)) : List (String × Json) → List (String × Json)
  | [] => done
  | (k, v) :: rest => normalMembers (insertMember k v.normal done) rest

end

mutual

def same : Json → Json → Bool
  | .null, .null => true
  | .bool a, .bool b => a = b
  | .num m, .num n => m.same n
  | .str s, .str t => s = t
  | .arr xs, .arr ys => sameItems xs ys
  | .obj xs, .obj ys => sameMembers xs ys
  | _, _ => false

def sameItems : List Json → List Json → Bool
  | [], [] => true
  | x :: xs, y :: ys => x.same y && sameItems xs ys
  | _, _ => false

def sameMembers : List (String × Json) → List (String × Json) → Bool
  | [], [] => true
  | (k, x) :: xs, (l, y) :: ys => k = l && x.same y && sameMembers xs ys
  | _, _ => false

end

/-- Stands for a part of a text that is well formed but has no value.  No value holds a float that is
not finite. -/
def illegible : Json := .num (.float (.ofMagnitude false BinaryFormat.double.infinity))

mutual

def isLegible : Json → Bool
  | .num (.float x) => x.isFinite
  | .arr items => areLegible items
  | .obj members => areLegibleMembers members
  | _ => true

def areLegible : List Json → Bool
  | [] => true
  | j :: rest => j.isLegible && areLegible rest

def areLegibleMembers : List (String × Json) → Bool
  | [] => true
  | (_, v) :: rest => v.isLegible && areLegibleMembers rest

end

end Json

end MeterGateway
