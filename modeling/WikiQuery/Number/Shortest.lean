import WikiQuery.Number.Binary64

/- The shortest decimal that rounds to a given binary number. The reals that round to `m * 2 ^ e`
   form an interval, whose ends belong to it when `m` is even. Grids of powers of ten are tried
   from coarse to fine; on each, the two points around the number are the only candidates. The
   first grid with a candidate inside the interval wins, and of two candidates the nearer. -/
set_option autoImplicit false

namespace WikiQuery

structure Decimal where
  coefficient : Nat
  power : Int
deriving DecidableEq

inductive TieRule where
  | away
  | toEven
deriving DecidableEq

namespace Decimal

-- Quarter units `2 ^ (e - 2)` around a number: its own place and the two ends of the interval of
-- reals that round to it.
structure Neighbourhood where
  low : Nat
  place : Nat
  high : Nat
  closed : Bool
  unit : Int

def Neighbourhood.ofFinite (mantissa : Nat) (exponent : Int) : Neighbourhood where
  low :=
    if mantissa = pow2 (binary64.precision - 1) ∧ binary64.lowest < exponent then 4 * mantissa - 1
    else 4 * mantissa - 2
  place := 4 * mantissa
  high := 4 * mantissa + 2
  closed := mantissa % 2 == 0
  unit := exponent - 2

-- The grid `10 ^ power` against quarter units: `quarters * num` and `points * den` compare.
def gridRatio (unit power : Int) : Nat × Nat :=
  (pow2 unit.toNat * pow10 (-power).toNat, pow2 (-unit).toNat * pow10 power.toNat)

def choose (tie : TieRule) (below : Nat) (toBelow toAbove : Nat) : Nat :=
  if toBelow < toAbove then below
  else if toAbove < toBelow then below + 1
  else
    match tie with
    | .away => below + 1
    | .toEven => if below % 2 = 0 then below else below + 1

def onGrid (tie : TieRule) (near : Neighbourhood) (power : Int) : Option Decimal :=
  let (num, den) := gridRatio near.unit power
  let place := near.place * num
  let below := place / den
  let inside (point : Nat) : Bool :=
    if near.closed then near.low * num ≤ point * den && point * den ≤ near.high * num
    else near.low * num < point * den && point * den < near.high * num
  match inside below, inside (below + 1) with
  | true, true =>
      some ⟨choose tie below (place - below * den) ((below + 1) * den - place), power⟩
  | true, false => some ⟨below, power⟩
  | false, true => some ⟨below + 1, power⟩
  | false, false => none

-- A power of ten above the number: `30103 / 100000` is just above the logarithm of two.
def topPower (mantissa : Nat) (exponent : Int) : Int :=
  ((mantissa.log2 : Int) + exponent + 1) * 30103 / 100000 + 2

-- Seventeen significant digits always tell two numbers apart.
def shortest (tie : TieRule) (mantissa : Nat) (exponent : Int) : Decimal :=
  let near := Neighbourhood.ofFinite mantissa exponent
  let top := topPower mantissa exponent
  ((List.range 22).findSome? fun (step : Nat) => onGrid tie near (top - step)).getD ⟨0, 0⟩

def stripZeros : Nat → Decimal → Decimal
  | 0, d => d
  | fuel + 1, d =>
      if d.coefficient ≠ 0 ∧ d.coefficient % 10 = 0 then
        stripZeros fuel ⟨d.coefficient / 10, d.power + 1⟩
      else d

def normal (d : Decimal) : Decimal := stripZeros d.coefficient.log2 d

end Decimal

end WikiQuery
