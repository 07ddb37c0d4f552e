import WikiQuery.Calendar.Date
import WikiQuery.Number.Reading
import WikiQuery.Text.Pieces

/- TOML documents as trees, and the rules for where a table may be added or extended: a table has
   one definition, a dotted key puts its value only into a table that dotted keys made, and inline
   tables are closed. -/
set_option autoImplicit false

namespace WikiQuery

inductive TomlOrigin where
  | header
  | implied
  | dotted
  | inline
deriving DecidableEq

inductive Toml where
  | text (s : String)
  | integer (i : Int)
  | bool (b : Bool)
  | real (digits : String)
  | time (clock : String)
  | array (items : List Toml)
  | tables (items : List (List (String × Toml)))
  | table (origin : TomlOrigin) (members : List (String × Toml))

namespace Toml

abbrev Members := List (String × Toml)

def replace (members : Members) (name : String) (value : Toml) : Members :=
  members.map fun m => if m.1 = name then (name, value) else m

-- A table that dotted keys did not make takes no value at the end of one, but a dotted key may
-- pass through it.
def passes : List String → Bool
  | _ :: _ :: _ => true
  | _ => false

-- Adds the value of a dotted key. The key may lead through tables that headers only implied and
-- into the last table of an array.
def assign (value : Toml) : List String → Members → Option Members
  | [], _ => none
  | [name], members =>
      match members.lookup name with
      | none => some (members ++ [(name, value)])
      | some _ => none
  | segment :: rest, members =>
      match members.lookup segment with
      | none => do
          let inner ← assign value rest []
          some (members ++ [(segment, .table .dotted inner)])
      | some (.table .dotted inner) => do
          let inner ← assign value rest inner
          some (replace members segment (.table .dotted inner))
      | some (.table .implied inner) =>
          if passes rest then do
            let inner ← assign value rest inner
            some (replace members segment (.table .implied inner))
          else none
      | some (.tables items) =>
          match items.getLast? with
          | none => none
          | some last =>
              if passes rest then do
                let last ← assign value rest last
                some (replace members segment (.tables (items.dropLast ++ [last])))
              else none
      | some _ => none

def assignAll (members : Members) : List (List String × Toml) → Option Members
  | [] => some members
  | (path, value) :: rest => do
      let members ← assign value path members
      assignAll members rest

structure Section where
  repeated : Bool
  path : List String
  body : List (List String × Toml)

def define (repeated : Bool) (body : List (List String × Toml)) (name : String)
    (members : Members) : Option Members :=
  match repeated, members.lookup name with
  | false, none => do
      let inner ← assignAll [] body
      some (members ++ [(name, .table .header inner)])
  | false, some (.table .implied inner) => do
      let inner ← assignAll inner body
      some (replace members name (.table .header inner))
  | true, none => do
      let inner ← assignAll [] body
      some (members ++ [(name, .tables [inner])])
  | true, some (.tables items) => do
      let inner ← assignAll [] body
      some (replace members name (.tables (items ++ [inner])))
  | _, some _ => none

-- Adds a section; tables on the way to it are implied, and an array of tables is entered at its
-- last table.
def place (repeated : Bool) (body : List (List String × Toml)) :
    List String → Members → Option Members
  | [], _ => none
  | [name], members => define repeated body name members
  | segment :: rest, members =>
      match members.lookup segment with
      | none => do
          let inner ← place repeated body rest []
          some (members ++ [(segment, .table .implied inner)])
      | some (.table origin inner) =>
          if origin = .inline then none
          else do
            let inner ← place repeated body rest inner
            some (replace members segment (.table origin inner))
      | some (.tables items) =>
          match items.getLast? with
          | none => none
          | some last => do
              let last ← place repeated body rest last
              some (replace members segment (.tables (items.dropLast ++ [last])))
      | some _ => none

def placeAll (members : Members) : List Section → Option Members
  | [] => some members
  | s :: rest => do
      let members ← place s.repeated s.body s.path members
      placeAll members rest

def digitRun (isDigitOf : Char → Bool) (cs : List Char) : Option (List Char) :=
  let runs := Text.pieces '_' cs
  if runs.all fun run => !run.isEmpty && run.all isDigitOf then some runs.flatten else none

def radixValue (radix : Nat) (cs : List Char) : Nat :=
  cs.foldl (fun n c => radix * n + (hexDigit? c).getD 0) 0

def radixInteger (radix : Nat) (cs : List Char) : Option Int :=
  (digitRun (fun c => (hexDigit? c).any (· < radix)) cs).map fun digits =>
    Int.ofNat (radixValue radix digits)

def decimalDigits (cs : List Char) : Option (List Char) :=
  match digitRun isDigit cs with
  | some ('0' :: _ :: _) => none
  | digits => digits

def splitSign (cs : List Char) : Bool × List Char :=
  match cs with
  | '-' :: rest => (true, rest)
  | '+' :: rest => (false, rest)
  | cs => (false, cs)

def unboundedInteger (cs : List Char) : Option Int :=
  match cs with
  | '0' :: 'x' :: rest => radixInteger 16 rest
  | '0' :: 'o' :: rest => radixInteger 8 rest
  | '0' :: 'b' :: rest => radixInteger 2 rest
  | cs =>
      let (negative, digits) := splitSign cs
      (decimalDigits digits).map fun digits =>
        let n : Int := digitsValue digits
        if negative then -n else n

def integer? (cs : List Char) : Option Int :=
  match unboundedInteger cs with
  | some i => if -(pow2 127 : Int) ≤ i ∧ i < pow2 128 then some i else none
  | none => none

def isPower (cs : List Char) : Bool := (digitRun isDigit (splitSign cs).2).isSome

def isMark (c : Char) : Bool := c = 'e' || c = 'E'

def isFractional (cs : List Char) : Bool :=
  let digits := (splitSign cs).2
  let whole := digits.takeWhile fun c => c ≠ '.' && !isMark c
  let rest := digits.dropWhile fun c => c ≠ '.' && !isMark c
  (decimalDigits whole).isSome &&
    match rest with
    | '.' :: rest =>
        let fraction := rest.takeWhile fun c => !isMark c
        (digitRun isDigit fraction).isSome &&
          match rest.dropWhile fun c => !isMark c with
          | [] => true
          | _ :: power => isPower power
    | _ :: power => isPower power
    | [] => false

def isNamedReal (cs : List Char) : Bool :=
  let name := (splitSign cs).2
  name = "inf".toList || name = "nan".toList

def isInRange (cs : List Char) : Bool :=
  match Binary64.read (cs.filter fun c => c ≠ '_') with
  | .ok x => x.isFinite
  | .error _ => false

-- Infinity has a name; digits that would round to it are no value.
def isReal (cs : List Char) : Bool := isNamedReal cs || (isFractional cs && isInRange cs)

def fixed? (width : Nat) (cs : List Char) : Option (Nat × List Char) :=
  let digits := cs.take width
  if digits.length = width ∧ digits.all isDigit then some (digitsValue digits, cs.drop width)
  else none

def date? (cs : List Char) : Option (List Char) :=
  match fixed? 4 cs with
  | some (y, '-' :: cs) =>
      match fixed? 2 cs with
      | some (m, '-' :: cs) =>
          match fixed? 2 cs with
          | some (d, rest) => if (Date.mk y m d).isValid then some rest else none
          | none => none
      | _ => none
  | _ => none

def secondFraction? (cs : List Char) : Option (List Char) :=
  match cs with
  | '.' :: rest => if (rest.takeWhile isDigit).isEmpty then none else some (rest.dropWhile isDigit)
  | cs => some cs

def clock? (cs : List Char) : Option (List Char) :=
  match fixed? 2 cs with
  | some (h, ':' :: cs) =>
      match fixed? 2 cs with
      | some (m, rest) =>
          if 23 < h ∨ 59 < m then none
          else
            match rest with
            | ':' :: rest =>
                match fixed? 2 rest with
                | some (s, rest) => if 60 < s then none else secondFraction? rest
                | none => none
            | rest => some rest
      | none => none
  | _ => none

def isOffset (cs : List Char) : Bool :=
  match cs with
  | [] => true
  | ['Z'] => true
  | ['z'] => true
  | sign :: cs =>
      (sign = '+' || sign = '-') &&
        match fixed? 2 cs with
        | some (h, ':' :: cs) =>
            match fixed? 2 cs with
            | some (m, []) => h ≤ 23 && m ≤ 59
            | _ => false
        | _ => false

def isTime (cs : List Char) : Bool :=
  match date? cs with
  | some [] => true
  | some (mark :: rest) =>
      (mark = 'T' || mark = 't' || mark = ' ') &&
        match clock? rest with
        | some rest => isOffset rest
        | none => false
  | none => clock? cs = some []

def scalar? (cs : List Char) : Option Toml :=
  if cs = "true".toList then some (.bool true)
  else if cs = "false".toList then some (.bool false)
  else
    match integer? cs with
    | some i => some (.integer i)
    | none =>
        if isReal cs then some (.real (String.ofList cs))
        else if isTime cs then some (.time (String.ofList cs))
        else none

end Toml

end WikiQuery
