import WikiQuery.Calendar.Moment
import WikiQuery.Number.Reading
import WikiQuery.Text.Blank

/- Reading dates and times from cells. Blanks may stand before every number and between the date
   and the time; a number is checked against its range as soon as it is read. -/
set_option autoImplicit false

namespace WikiQuery

inductive CalendarError where
  | tooShort
  | badCharacter
  | trailing
  | outOfRange
deriving DecidableEq

def CalendarError.message : CalendarError → String
  | .tooShort => "premature end of input"
  | .badCharacter => "input contains invalid characters"
  | .trailing => "trailing input"
  | .outOfRange => "input is out of range"

namespace Calendar

abbrev Reader (α : Type) := List Char → Except CalendarError (α × List Char)

def literal (c : Char) : Reader Unit
  | [] => .error .tooShort
  | head :: rest => if head = c then .ok ((), rest) else .error .badCharacter

def number (width : Option Nat) : Reader Nat
  | [] => .error .tooShort
  | cs =>
      let window := match width with
        | some n => cs.take n
        | none => cs
      let digits := window.takeWhile isDigit
      if digits = [] then .error .badCharacter
      else if pow2 63 ≤ digitsValue digits then .error .outOfRange
      else .ok (digitsValue digits, cs.drop digits.length)

def field (lowest highest : Nat) : Reader Nat := fun cs => do
  let (n, rest) ← number (some 2) (Text.dropBlanks cs)
  if lowest ≤ n ∧ n ≤ highest then .ok (n, rest) else .error .outOfRange

def yearInRange (year : Int) (rest : List Char) : Except CalendarError (Int × List Char) :=
  if -(pow2 31 : Int) ≤ year ∧ year < pow2 31 then .ok (year, rest) else .error .outOfRange

def year : Reader Int := fun cs =>
  match Text.dropBlanks cs with
  | '-' :: rest => do
      let (n, rest) ← number none rest
      yearInRange (-(n : Int)) rest
  | '+' :: rest => do
      let (n, rest) ← number none rest
      yearInRange n rest
  | rest => do
      let (n, rest) ← number (some 4) rest
      yearInRange n rest

def dateParts : Reader Date := fun cs => do
  let (y, cs) ← year cs
  let ((), cs) ← literal '-' cs
  let (m, cs) ← field 1 12 cs
  let ((), cs) ← literal '-' cs
  let (d, cs) ← field 1 31 cs
  .ok (⟨y, m, d⟩, cs)

def finish {α : Type} (value : α) (date : Date) (rest : List Char) : Except CalendarError α :=
  if rest ≠ [] then .error .trailing
  else if date.isValid then .ok value
  else .error .outOfRange

def readDate (cs : List Char) : Except CalendarError Date := do
  let (date, rest) ← dateParts cs
  finish date date rest

-- Second 60 is the leap second after second 59.
def readDateTime (cs : List Char) : Except CalendarError Moment := do
  let (date, cs) ← dateParts cs
  let (h, cs) ← field 0 23 (Text.dropBlanks cs)
  let ((), cs) ← literal ':' cs
  let (m, cs) ← field 0 59 cs
  let ((), cs) ← literal ':' cs
  let (s, cs) ← field 0 60 cs
  let moment :=
    if s = 60 then Moment.ofClock date h m 59 1000000000 else Moment.ofClock date h m s 0
  finish moment date cs

-- A date with a time, or a date alone, which reads as its midnight. When neither fits, the
-- reason is the one for a date alone.
def readMoment (cs : List Char) : Except CalendarError Moment :=
  match readDateTime cs with
  | .ok moment => .ok moment
  | .error _ => (readDate cs).map Moment.midnight

end Calendar

end WikiQuery
