import MeterGateway.Json
import MeterGateway.Bytes.Hex

namespace MeterGateway.Json

def escapeChar (c : Char) : List Char :=
  match c with
  | '\x22' => ['\\', '\x22']
  | '\\' => ['\\', '\\']
  | '\x08' => ['\\', 'b']
  | '\x0c' => ['\\', 'f']
  | '\n' => ['\\', 'n']
  | '\r' => ['\\', 'r']
  | '\t' => ['\\', 't']
  | c =>
    if c.toNat < 0x20 then ['\\', 'u', '0', '0'] ++ Hex.lowerPair (UInt8.ofNat c.toNat) else [c]

def quote (s : String) : String :=
  String.ofList ('\x22' :: s.toList.flatMap escapeChar ++ ['\x22'])

mutual

def compact : Json → String
  | .null => "null"
  | .bool true => "true"
  | .bool false => "false"
  | .num n => n.text
  | .str s => quote s
  | .arr [] => "[]"
  | .arr (j :: rest) => "[" ++ j.compact ++ compactItems rest ++ "]"
  | .obj [] => "\x7b\x7d"
  | .obj ((k, v) :: rest) => "\x7b" ++ quote k ++ ":" ++ v.compact ++ compactMembers rest ++ "\x7d"

def compactItems : List Json → String
  | [] => ""
  | j :: rest => "," ++ j.compact ++ compactItems rest

def compactMembers : List (String × Json) → String
  | [] => ""
  | (k, v) :: rest => "," ++ quote k ++ ":" ++ v.compact ++ compactMembers rest

end

end MeterGateway.Json
