import WikiQuery.Number.DecimalText
import WikiQuery.Value

/- JSON documents. The members of an object are kept in the order of their names, each name once. -/
set_option autoImplicit false

namespace WikiQuery

inductive Json where
  | null
  | bool (b : Bool)
  | integer (i : Int)
  | float (x : Binary64)
  | text (s : String)
  | array (items : List Json)
  | object (members : List (String × Json))

namespace Json

def insertMember (name : String) (value : Json) : List (String × Json) → List (String × Json)
  | [] => [(name, value)]
  | (other, old) :: rest =>
      if name = other then (name, value) :: rest
      else if name < other then (name, value) :: (other, old) :: rest
      else (other, old) :: insertMember name value rest

def member? (name : String) : Json → Option Json
  | .object members => members.lookup name
  | _ => none

def hex4 (n : Nat) : List Char :=
  let digits := Nat.toDigits 16 n
  List.replicate (4 - digits.length) '0' ++ digits

def escapeChar (c : Char) : List Char :=
  if c = '"' then ['\\', '"']
  else if c = '\\' then ['\\', '\\']
  else if c = '\x08' then ['\\', 'b']
  else if c = '\t' then ['\\', 't']
  else if c = '\n' then ['\\', 'n']
  else if c = '\x0c' then ['\\', 'f']
  else if c = '\r' then ['\\', 'r']
  else if c.toNat < 0x20 then ['\\', 'u'] ++ hex4 c.toNat
  else [c]

def quote (s : String) : String :=
  "\"" ++ String.ofList (s.toList.flatMap escapeChar) ++ "\""

mutual
def render : Json → String
  | .null => "null"
  | .bool b => if b then "true" else "false"
  | .integer i => Value.intText i
  | .float x => x.dataText
  | .text s => quote s
  | .array items => "[" ++ renderItems items ++ "]"
  | .object members => "\x7b" ++ renderMembers members ++ "\x7d"

def renderItems : List Json → String
  | [] => ""
  | [item] => render item
  | item :: rest => render item ++ "," ++ renderItems rest

def renderMembers : List (String × Json) → String
  | [] => ""
  | [(name, value)] => quote name ++ ":" ++ render value
  | (name, value) :: rest => quote name ++ ":" ++ render value ++ "," ++ renderMembers rest
end

mutual
def toValue : Json → Value
  | .null => .null
  | .bool b => .bool b
  | .integer i =>
      if -(pow2 63 : Int) ≤ i ∧ i < pow2 63 then .int i
      else .float (Binary64.ofRatio (i < 0) i.natAbs 1)
  | .float x => .float x
  | .text s => .text s
  | .array items => .list (toValues items)
  | .object members => .text (render (.object members))

def toValues : List Json → List Value
  | [] => []
  | item :: rest => toValue item :: toValues rest
end

end Json

end WikiQuery
