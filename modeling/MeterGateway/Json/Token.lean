import MeterGateway.Json

/-!
The tokens of a JSON text.  A machine takes one character at a time; words and numbers end at the
first character that cannot belong to them.  A text with half a surrogate pair and a number that is
too great are tokens like others but have no value.
-/

namespace MeterGateway

namespace Number

def accumulate (significand : Nat) : List Char → Nat × Nat
  | [] => (significand, 0)
  | c :: cs =>
    let next := 10 * significand + (c.toNat - 48)
    if next < 0x10000000000000000 then
      let (n, used) := accumulate next cs
      (n, used + 1)
    else (significand, 0)

def exponent? : List Char → Option Int
  | [] => some 0
  | e :: rest =>
    if e = 'e' ∨ e = 'E' then
      let (negative, digits) :=
        match rest with
        | '-' :: ds => (true, ds)
        | '+' :: ds => (false, ds)
        | ds => (false, ds)
      if digits = [] ∨ ¬ digits.all Char.isDigit then none
      else
        let n : Int := digits.foldl (fun n c => 10 * n + (c.toNat - 48)) 0
        some (if negative then -n else n)
    else none

/-- A number without its sign.  Without fraction and exponent it is an integer as long as it fits in
64 bits, negative ones in their signed range; negative zero is a float.  Digits of the integral
part that do not fit raise the exponent, those of the fraction are dropped.  A number that is too
great is read as infinite. -/
def ofDigits? (negative : Bool) (cs : List Char) : Option Number :=
  let whole := cs.takeWhile Char.isDigit
  let rest := cs.dropWhile Char.isDigit
  if whole = [] ∨ (whole.head? = some '0' ∧ whole ≠ ['0']) then none
  else
    let (significand, used) := accumulate 0 whole
    let dropped : Int := whole.length - used
    match rest with
    | [] =>
      some <|
        if dropped ≠ 0 then .float (.ofDecimal negative significand dropped)
        else if ¬ negative then .int significand
        else if 0 < significand ∧ significand ≤ 0x8000000000000000 then .int (-significand)
        else .float (.ofDecimal true significand 0)
    | '.' :: rest =>
      let fraction := rest.takeWhile Char.isDigit
      if fraction = [] then none
      else
        let (significand, used) := accumulate significand fraction
        (exponent? (rest.dropWhile Char.isDigit)).map fun exponent =>
          .float (.ofDecimal negative significand (dropped - used + exponent))
    | rest =>
      (exponent? rest).map fun exponent => .float (.ofDecimal negative significand (dropped + exponent))

def parse? : List Char → Option Number
  | '-' :: cs => ofDigits? true cs
  | cs => ofDigits? false cs

end Number

namespace Json

inductive Token
  | openBrace : Token
  | closeBrace : Token
  | openBracket : Token
  | closeBracket : Token
  | colon : Token
  | comma : Token
  | str : Option String → Token
  | scalar : Json → Token

/-- Where the machine stands.  What has been read of a token is kept in reverse, of a text only as
long as it has a value; a `leading` surrogate waits for the escape that completes it. -/
inductive LexState
  | between : LexState
  | word : (done : List Char) → LexState
  | number : (done : List Char) → LexState
  | text : (done : Option (List Char)) → LexState
  | escape : (done : Option (List Char)) → LexState
  | unicode : (done : Option (List Char)) → (leading : Option Nat) → (owed value : Nat) → LexState
  | trailing : (done : Option (List Char)) → (leading : Nat) → (backslash : Bool) → LexState

namespace LexState

def hexDigit? (c : Char) : Option Nat :=
  let n := c.toNat
  if 48 ≤ n ∧ n ≤ 57 then some (n - 48)
  else if 65 ≤ n ∧ n ≤ 70 then some (n - 55)
  else if 97 ≤ n ∧ n ≤ 102 then some (n - 87)
  else none

def isNumberChar (c : Char) : Bool :=
  c.isDigit || c = '-' || c = '+' || c = '.' || c = 'e' || c = 'E'

def ofWord? (reversed : List Char) : Option Token :=
  match String.ofList reversed.reverse with
  | "null" => some (.scalar .null)
  | "true" => some (.scalar (.bool true))
  | "false" => some (.scalar (.bool false))
  | _ => none

def finish? : LexState → Option (List Token)
  | .between => some []
  | .word done => (ofWord? done).map ([·])
  | .number done => (Number.parse? done.reverse).map fun n => [.scalar (.num n)]
  | _ => none

def start? (c : Char) : Option (List Token × LexState) :=
  match c with
  | ' ' | '\n' | '\t' | '\r' => some ([], .between)
  | '\x7b' => some ([.openBrace], .between)
  | '\x7d' => some ([.closeBrace], .between)
  | '[' => some ([.openBracket], .between)
  | ']' => some ([.closeBracket], .between)
  | ':' => some ([.colon], .between)
  | ',' => some ([.comma], .between)
  | '\x22' => some ([], .text (some []))
  | _ =>
    if c.isDigit ∨ c = '-' then some ([], .number [c])
    else if c.isLower then some ([], .word [c])
    else none

def escaped? : Char → Option Char
  | '\x22' => some '\x22'
  | '\\' => some '\\'
  | '/' => some '/'
  | 'b' => some '\x08'
  | 'f' => some '\x0c'
  | 'n' => some '\n'
  | 'r' => some '\r'
  | 't' => some '\t'
  | _ => none

def afterUnit (done : Option (List Char)) (leading : Option Nat) (unit : Nat) : LexState :=
  match leading with
  | some high =>
    if 0xDC00 ≤ unit ∧ unit < 0xE000 then
      .text (done.map (Char.ofNat (0x10000 + (high - 0xD800) * 1024 + (unit - 0xDC00)) :: ·))
    else .text none
  | none =>
    if 0xD800 ≤ unit ∧ unit < 0xDC00 then .trailing done unit false
    else if 0xDC00 ≤ unit ∧ unit < 0xE000 then .text none
    else .text (done.map (Char.ofNat unit :: ·))

def inText? (done : Option (List Char)) (c : Char) : Option (List Token × LexState) :=
  if c = '\x22' then some ([.str (done.map fun cs => String.ofList cs.reverse)], .between)
  else if c = '\\' then some ([], .escape done)
  else if c.toNat < 0x20 then none
  else some ([], .text (done.map (c :: ·)))

def inEscape? (done : Option (List Char)) (c : Char) : Option (List Token × LexState) :=
  if c = 'u' then some ([], .unicode done none 4 0)
  else (escaped? c).map fun e => ([], .text (done.map (e :: ·)))

def step? (state : LexState) (c : Char) : Option (List Token × LexState) :=
  match state with
  | .between => start? c
  | .word done => if c.isLower then some ([], .word (c :: done)) else endToken
  | .number done => if isNumberChar c then some ([], .number (c :: done)) else endToken
  | .text done => inText? done c
  | .escape done => inEscape? done c
  | .unicode done leading owed value =>
    (hexDigit? c).map fun digit =>
      let value := 16 * value + digit
      ([], if owed ≤ 1 then afterUnit done leading value else .unicode done leading (owed - 1) value)
  | .trailing done high false =>
    if c = '\\' then some ([], .trailing done high true) else inText? none c
  | .trailing done high true =>
    if c = 'u' then some ([], .unicode done (some high) 4 0) else inEscape? none c
where
  endToken : Option (List Token × LexState) := do
    let before ← state.finish?
    let (after, next) ← start? c
    return (before ++ after, next)

def tokensFrom? (state : LexState) : List Char → Option (List Token)
  | [] => state.finish?
  | c :: cs => do
    let (tokens, next) ← state.step? c
    let rest ← tokensFrom? next cs
    return tokens ++ rest

end LexState

def tokens? (text : List Char) : Option (List Token) := LexState.between.tokensFrom? text

end Json

end MeterGateway
