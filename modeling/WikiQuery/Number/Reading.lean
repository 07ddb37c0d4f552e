import WikiQuery.Number.Binary64

/- Reading numbers from text. An integer has an optional sign and a range; a real number also has
   a point, an exponent, and names for infinity and for no number. -/
set_option autoImplicit false

namespace WikiQuery

inductive NumberError where
  | emptyInteger
  | badDigit
  | tooLarge
  | tooSmall
  | emptyReal
  | badReal
deriving DecidableEq

def NumberError.message : NumberError → String
  | .emptyInteger => "cannot parse integer from empty string"
  | .badDigit => "invalid digit found in string"
  | .tooLarge => "number too large to fit in target type"
  | .tooSmall => "number too small to fit in target type"
  | .emptyReal => "cannot parse float from empty string"
  | .badReal => "invalid float literal"

def digit? (c : Char) : Option Nat :=
  if '0' ≤ c ∧ c ≤ '9' then some (c.toNat - '0'.toNat) else none

def isDigit (c : Char) : Bool := (digit? c).isSome

def hexDigit? (c : Char) : Option Nat :=
  if '0' ≤ c ∧ c ≤ '9' then some (c.toNat - '0'.toNat)
  else if 'a' ≤ c ∧ c ≤ 'f' then some (c.toNat - 'a'.toNat + 10)
  else if 'A' ≤ c ∧ c ≤ 'F' then some (c.toNat - 'A'.toNat + 10)
  else none

def digitsValue (cs : List Char) : Nat :=
  cs.foldl (fun n c => 10 * n + (digit? c).getD 0) 0

structure IntegerRange where
  lowest : Int
  highest : Nat
deriving DecidableEq

namespace IntegerRange

def signed (bits : Nat) : IntegerRange := ⟨-(pow2 (bits - 1) : Int), pow2 (bits - 1) - 1⟩
def unsigned (bits : Nat) : IntegerRange := ⟨0, pow2 bits - 1⟩

-- Reads digits from the left; the first digit that leaves the bound and the first character that
-- is no digit are told apart by which comes first.
def readMagnitude (bound : Nat) (overflow : NumberError) :
    Nat → List Char → Except NumberError Nat
  | n, [] => .ok n
  | n, c :: rest =>
      match digit? c with
      | none => .error .badDigit
      | some d =>
          if bound < 10 * n + d then .error overflow
          else readMagnitude bound overflow (10 * n + d) rest

def read (range : IntegerRange) (cs : List Char) : Except NumberError Int :=
  match cs with
  | [] => .error .emptyInteger
  | ['+'] => .error .badDigit
  | ['-'] => .error .badDigit
  | '+' :: rest => (readMagnitude range.highest .tooLarge 0 rest).map Int.ofNat
  | '-' :: rest =>
      if range.lowest < 0 then
        (readMagnitude (-range.lowest).toNat .tooSmall 0 rest).map fun n => -(n : Int)
      else .error .badDigit
  | cs => (readMagnitude range.highest .tooLarge 0 cs).map Int.ofNat

end IntegerRange

namespace Binary64

-- The number of a format nearest to `coefficient * 10 ^ power`. Powers far outside the range of
-- every format end in infinity or in zero without being computed.
def ofDecimal (format : BinaryFormat) (negative : Bool) (coefficient : Nat) (power : Int) :
    Binary64 :=
  let size : Int := (coefficient.log2 : Int) * 30103 / 100000 + power
  if coefficient = 0 ∨ size < -400 then .finite negative 0 binary64.lowest
  else if 400 < size then .infinite negative
  else ofRatioIn format negative (coefficient * pow10 power.toNat) (pow10 (-power).toNat)

def readExponent (cs : List Char) : Option Int :=
  match cs with
  | [] => some 0
  | mark :: rest =>
      if mark = 'e' ∨ mark = 'E' then
        let (negative, digits) :=
          match rest with
          | '-' :: digits => (true, digits)
          | '+' :: digits => (false, digits)
          | digits => (false, digits)
        if digits ≠ [] ∧ digits.all isDigit then
          let n : Int := digitsValue digits
          some (if negative then -n else n)
        else none
      else none

def readUnsigned (format : BinaryFormat) (negative : Bool) (cs : List Char) : Option Binary64 :=
  let lower := cs.map Char.toLower
  if lower = "nan".toList then some .nan
  else if lower = "inf".toList ∨ lower = "infinity".toList then some (.infinite negative)
  else
    let whole := cs.takeWhile isDigit
    let (fraction, tail) :=
      match cs.dropWhile isDigit with
      | '.' :: rest => (rest.takeWhile isDigit, rest.dropWhile isDigit)
      | rest => ([], rest)
    if whole = [] ∧ fraction = [] then none
    else
      (readExponent tail).map fun k =>
        ofDecimal format negative (digitsValue (whole ++ fraction)) (k - fraction.length)

def readIn (format : BinaryFormat) (cs : List Char) : Except NumberError Binary64 :=
  match cs with
  | [] => .error .emptyReal
  | '-' :: rest => orBad (readUnsigned format true rest)
  | '+' :: rest => orBad (readUnsigned format false rest)
  | cs => orBad (readUnsigned format false cs)
where
  orBad : Option Binary64 → Except NumberError Binary64
    | some x => .ok x
    | none => .error .badReal

def read (cs : List Char) : Except NumberError Binary64 := readIn binary64 cs

end Binary64

end WikiQuery
