import WikiQuery.Json.Basic
import WikiQuery.Number.Reading

/- Reading JSON text. Nesting goes 127 levels deep at most. A number without point and exponent is
   an integer as long as 64 bits hold it; any other is taken in two roundings, first its leading
   digits, then their product with a power of ten. -/
set_option autoImplicit false

namespace WikiQuery.Json

def isSpace (c : Char) : Bool := c = ' ' || c = '\n' || c = '\t' || c = '\r'

def skipSpace (cs : List Char) : List Char := cs.dropWhile isSpace

def leadingDigits (n : Nat) : List Char → Nat × List Char
  | [] => (n, [])
  | c :: rest =>
      match digit? c with
      | none => (n, c :: rest)
      | some d => if pow2 64 ≤ 10 * n + d then (n, c :: rest) else leadingDigits (10 * n + d) rest

def scale (x : Binary64) (power : Int) : Option Binary64 :=
  if power.natAbs ≤ 308 then
    if 0 ≤ power then
      let y := x.timesTen power.natAbs
      if y.isFinite then some y else none
    else some (x.overTen power.natAbs)
  else if x.isZero then some x
  else if 0 ≤ power then none
  else scale (x.overTen 308) (power + 308)
termination_by power.natAbs
decreasing_by omega

def ofParts (negative : Bool) (digits : Nat) (power : Int) : Option Json :=
  (scale (Binary64.ofRatio false digits 1) power).map fun x =>
    .float (if negative then x.negate else x)

-- The exponent behind its mark. One beyond 32 bits is infinite, or zero for a zero number.
def readPower (negative : Bool) (digits : Nat) (start : Int) (cs : List Char) :
    Option (Json × List Char) :=
  let (down, cs) :=
    match cs with
    | '-' :: rest => (true, rest)
    | '+' :: rest => (false, rest)
    | cs => (false, cs)
  let power := cs.takeWhile isDigit
  let rest := cs.dropWhile isDigit
  if power = [] then none
  else if pow2 31 ≤ digitsValue power then
    if digits ≠ 0 ∧ ¬ down then none
    else some (.float (.finite negative 0 binary64.lowest), rest)
  else
    let k : Int := digitsValue power
    (ofParts negative digits (if down then start - k else start + k)).map fun x => (x, rest)

def readTail (negative : Bool) (digits : Nat) (start : Int) (cs : List Char) :
    Option (Json × List Char) :=
  match cs with
  | 'e' :: rest => readPower negative digits start rest
  | 'E' :: rest => readPower negative digits start rest
  | cs => (ofParts negative digits start).map fun x => (x, cs)

def readFraction (negative : Bool) (digits : Nat) (start : Int) (cs : List Char) :
    Option (Json × List Char) :=
  let places := cs.takeWhile isDigit
  if places = [] then none
  else
    let (digits, cut) := leadingDigits digits places
    readTail negative digits (start - ((places.length - cut.length : Nat) : Int))
      (cs.dropWhile isDigit)

def wholeNumber (negative : Bool) (digits : Nat) : Json :=
  if negative then
    if digits = 0 ∨ pow2 63 < digits then .float (Binary64.ofRatio true digits 1)
    else .integer (-(digits : Int))
  else .integer digits

def readNumber (negative : Bool) (cs : List Char) : Option (Json × List Char) :=
  let whole := cs.takeWhile isDigit
  let rest := cs.dropWhile isDigit
  match whole with
  | [] => none
  | '0' :: _ :: _ => none
  | whole =>
      let (digits, cut) := leadingDigits 0 whole
      match rest with
      | '.' :: rest => readFraction negative digits cut.length rest
      | 'e' :: rest => readPower negative digits cut.length rest
      | 'E' :: rest => readPower negative digits cut.length rest
      | rest =>
          if cut = [] then some (wholeNumber negative digits, rest)
          else (ofParts negative digits cut.length).map fun x => (x, rest)

def readHex4 (cs : List Char) : Option (Nat × List Char) :=
  match cs with
  | a :: b :: c :: d :: rest => do
      let a ← hexDigit? a
      let b ← hexDigit? b
      let c ← hexDigit? c
      let d ← hexDigit? d
      some (4096 * a + 256 * b + 16 * c + d, rest)
  | _ => none

-- A character behind its escape mark; two halves of a surrogate pair make one character.
def readEscape (cs : List Char) : Option (Char × List Char) :=
  match cs with
  | '"' :: rest => some ('"', rest)
  | '\\' :: rest => some ('\\', rest)
  | '/' :: rest => some ('/', rest)
  | 'b' :: rest => some ('\x08', rest)
  | 'f' :: rest => some ('\x0c', rest)
  | 'n' :: rest => some ('\n', rest)
  | 'r' :: rest => some ('\r', rest)
  | 't' :: rest => some ('\t', rest)
  | 'u' :: rest => do
      let (n, rest) ← readHex4 rest
      if 0xDC00 ≤ n ∧ n ≤ 0xDFFF then none
      else if 0xD800 ≤ n ∧ n ≤ 0xDBFF then
        match rest with
        | '\\' :: 'u' :: rest => do
            let (low, rest) ← readHex4 rest
            if 0xDC00 ≤ low ∧ low ≤ 0xDFFF then
              some (Char.ofNat (0x10000 + (n - 0xD800) * 0x400 + (low - 0xDC00)), rest)
            else none
        | _ => none
      else some (Char.ofNat n, rest)
  | _ => none

def readChars : Nat → List Char → Option (List Char × List Char)
  | 0, _ => none
  | _ + 1, [] => none
  | _ + 1, '"' :: rest => some ([], rest)
  | fuel + 1, '\\' :: rest => do
      let (c, rest) ← readEscape rest
      let (cs, rest) ← readChars fuel rest
      some (c :: cs, rest)
  | fuel + 1, c :: rest =>
      if c.toNat < 0x20 then none
      else do
        let (cs, rest) ← readChars fuel rest
        some (c :: cs, rest)

def readText (cs : List Char) : Option (String × List Char) :=
  (readChars (cs.length + 1) cs).map fun (inside, rest) => (String.ofList inside, rest)

def word? (word : List Char) (cs : List Char) : Option (List Char) :=
  if cs.take word.length = word then some (cs.drop word.length) else none

mutual
-- One value and the text behind it. The first count bounds the steps, the second the nesting.
def readValue : Nat → Nat → List Char → Option (Json × List Char)
  | 0, _, _ => none
  | fuel + 1, depth, cs =>
      match skipSpace cs with
      | 'n' :: rest => (word? "ull".toList rest).map fun rest => (.null, rest)
      | 't' :: rest => (word? "rue".toList rest).map fun rest => (.bool true, rest)
      | 'f' :: rest => (word? "alse".toList rest).map fun rest => (.bool false, rest)
      | '"' :: rest => (readText rest).map fun (s, rest) => (.text s, rest)
      | '-' :: rest => readNumber true rest
      | '[' :: rest =>
          match depth with
          | 0 => none
          | depth + 1 =>
              match skipSpace rest with
              | ']' :: rest => some (.array [], rest)
              | rest => do
                  let (items, rest) ← readItems fuel depth rest
                  some (.array items, rest)
      | '\x7b' :: rest =>
          match depth with
          | 0 => none
          | depth + 1 =>
              match skipSpace rest with
              | '\x7d' :: rest => some (.object [], rest)
              | rest => do
                  let (members, rest) ← readMembers fuel depth [] rest
                  some (.object members, rest)
      | rest => readNumber false rest

def readItems : Nat → Nat → List Char → Option (List Json × List Char)
  | 0, _, _ => none
  | fuel + 1, depth, cs => do
      let (item, rest) ← readValue fuel depth cs
      match skipSpace rest with
      | ',' :: rest => do
          let (items, rest) ← readItems fuel depth rest
          some (item :: items, rest)
      | ']' :: rest => some ([item], rest)
      | _ => none

def readMembers : Nat → Nat → List (String × Json) → List Char →
    Option (List (String × Json) × List Char)
  | 0, _, _, _ => none
  | fuel + 1, depth, members, cs =>
      match skipSpace cs with
      | '"' :: rest => do
          let (name, rest) ← readText rest
          match skipSpace rest with
          | ':' :: rest => do
              let (value, rest) ← readValue fuel depth rest
              match skipSpace rest with
              | ',' :: rest => readMembers fuel depth (insertMember name value members) rest
              | '\x7d' :: rest => some (insertMember name value members, rest)
              | _ => none
          | _ => none
      | _ => none
end

def deepest : Nat := 127

def read (s : String) : Option Json := do
  let (value, rest) ← readValue (2 * s.length + 2) deepest s.toList
  if skipSpace rest = [] then some value else none

end WikiQuery.Json
