import WikiQuery.Text.Hidden

/- Text in double quotes, the way messages show it. A quote, a backslash and the four short
   controls are escaped by a letter, every other hidden character by its number in braces. -/
set_option autoImplicit false

namespace WikiQuery.Text

def hexDigits (n : Nat) : List Char := Nat.toDigits 16 n

def escapeChar (c : Char) : List Char :=
  if c = '"' then ['\\', '"']
  else if c = '\\' then ['\\', '\\']
  else if c = '\t' then ['\\', 't']
  else if c = '\r' then ['\\', 'r']
  else if c = '\n' then ['\\', 'n']
  else if c = '\x00' then ['\\', '0']
  else if isHidden c then ['\\', 'u', '\x7b'] ++ hexDigits c.toNat ++ ['\x7d']
  else [c]

def escape (cs : List Char) : List Char := cs.flatMap escapeChar

def quoted (s : String) : String :=
  "\"" ++ String.ofList (escape s.toList) ++ "\""

end WikiQuery.Text
