import MeterGateway.Json.Token

/-!
Reading a JSON text.  A stack holds the arrays and objects that are open; a token either completes a
value, which goes to the innermost of them, or opens or closes one.
-/

namespace MeterGateway.Json

/-- An open array or object with what it holds so far, last first; the key is that of the member
being read.  Of one that has no value nothing is kept. -/
inductive Open
  | items : (done : List Json) → Open
  | members : (done : List (String × Json)) → (key : String) → Open
  | illegibleItems : Open
  | illegibleMembers : Open

namespace Open

def put (v : Json) : Open → Open
  | items done => items (v :: done)
  | members done key => members ((key, v) :: done) key
  | top => top

def close? : Open → Token → Option Json
  | items done, .closeBracket => some (.arr done.reverse)
  | members done _, .closeBrace => some (.obj done.reverse)
  | illegibleItems, .closeBracket => some illegible
  | illegibleMembers, .closeBrace => some illegible
  | _, _ => none

def key? : Open → Token → Option Open
  | members done _, .str (some key) => some (members done key)
  | members _ _, .str none => some illegibleMembers
  | illegibleMembers, .str _ => some illegibleMembers
  | _, _ => none

end Open

inductive Await
  | value : Await
  | firstItem : Await
  | firstKey : Await
  | key : Await
  | colon : Await
  | separator : Await
  | nothing : Json → Await

structure ReadState where
  stack : List Open
  await : Await

namespace ReadState

def depthLimit : Nat := 127

def start : ReadState := ⟨[], .value⟩

def complete (v : Json) : List Open → ReadState
  | [] => ⟨[], .nothing v⟩
  | top :: stack => ⟨top.put v :: stack, .separator⟩

def value? (stack : List Open) : Token → Option ReadState
  | .scalar v => some (complete v stack)
  | .str (some s) => some (complete (.str s) stack)
  | .str none => some (complete illegible stack)
  | .openBracket =>
    some ⟨(if stack.length < depthLimit then .items [] else .illegibleItems) :: stack, .firstItem⟩
  | .openBrace =>
    some ⟨(if stack.length < depthLimit then .members [] "" else .illegibleMembers) :: stack, .firstKey⟩
  | _ => none

def step? (s : ReadState) (t : Token) : Option ReadState :=
  match s.await, s.stack, t with
  | .value, stack, t => value? stack t
  | .firstItem, top :: stack, t =>
    match top.close? t with
    | some v => some (complete v stack)
    | none => value? (top :: stack) t
  | .firstKey, top :: stack, t =>
    match top.close? t with
    | some v => some (complete v stack)
    | none => (top.key? t).map fun top => ⟨top :: stack, .colon⟩
  | .key, top :: stack, t => (top.key? t).map fun top => ⟨top :: stack, .colon⟩
  | .colon, stack, .colon => some ⟨stack, .value⟩
  | .separator, top :: stack, .comma => some ⟨top :: stack, next top⟩
  | .separator, top :: stack, t => (top.close? t).map fun v => complete v stack
  | _, _, _ => none
where
  next : Open → Await
    | .items _ | .illegibleItems => .value
    | .members _ _ | .illegibleMembers => .key

def finish? (s : ReadState) : Option Json :=
  match s.await with
  | .nothing v => some v
  | _ => none

end ReadState

/-- What a well-formed text spells, with members as they are written.  Parts of it may be illegible. -/
def skim? (text : String) : Option Json := do
  let tokens ← tokens? text.toList
  let state ← tokens.foldlM ReadState.step? .start
  state.finish?

def parse? (text : String) : Option Json := (skim? text).filter isLegible

end MeterGateway.Json
