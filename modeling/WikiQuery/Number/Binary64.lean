import WikiQuery.Number.Power

/- Binary floating-point numbers by value: a sign, a mantissa and a power of two. Rounding goes to
   the nearest number of a format, a tie to the even mantissa. -/
set_option autoImplicit false

namespace WikiQuery

-- The numbers `m * 2 ^ e` with `m < 2 ^ precision` and `lowest ≤ e ≤ highest`.
structure BinaryFormat where
  precision : Nat
  lowest : Int
  highest : Int

def binary64 : BinaryFormat := ⟨53, -1074, 971⟩
def binary32 : BinaryFormat := ⟨24, -149, 104⟩

-- A number of the 64-bit format. A finite one stands for `mantissa * 2 ^ exponent`, with the
-- least exponent of the format that its mantissa allows.
inductive Binary64 where
  | nan
  | infinite (negative : Bool)
  | finite (negative : Bool) (mantissa : Nat) (exponent : Int)
deriving DecidableEq

namespace BinaryFormat

def nearest (num den : Nat) : Nat :=
  let q := num / den
  let r := num % den
  if den < 2 * r ∨ (2 * r = den ∧ q % 2 = 1) then q + 1 else q

def reaches (num den : Nat) (k : Int) : Bool :=
  den * pow2 k.toNat ≤ num * pow2 (-k).toNat

-- The greatest `k` with `2 ^ k ≤ num / den`, for a positive quotient.
def magnitude (num den : Nat) : Int :=
  let k := (num.log2 : Int) - (den.log2 : Int)
  if reaches num den k then k else k - 1

def round (format : BinaryFormat) (num den : Nat) : Option (Nat × Int) :=
  if num = 0 then some (0, format.lowest)
  else
    let e := max format.lowest (magnitude num den - ((format.precision : Int) - 1))
    let m := nearest (num * pow2 (-e).toNat) (den * pow2 e.toNat)
    let (m, e) := if m = pow2 format.precision then (pow2 (format.precision - 1), e + 1) else (m, e)
    if format.highest < e then none else some (m, e)

end BinaryFormat

namespace Binary64

def ofRatioIn (format : BinaryFormat) (negative : Bool) (num den : Nat) : Binary64 :=
  match format.round num den with
  | none => .infinite negative
  | some (m, e) =>
      match binary64.round (m * pow2 e.toNat) (pow2 (-e).toNat) with
      | none => .infinite negative
      | some (m, e) => .finite negative m e

def ofRatio (negative : Bool) (num den : Nat) : Binary64 := ofRatioIn binary64 negative num den

def isFinite : Binary64 → Bool
  | .finite _ _ _ => true
  | _ => false

def isZero : Binary64 → Bool
  | .finite _ 0 _ => true
  | _ => false

def negate : Binary64 → Binary64
  | .nan => .nan
  | .infinite negative => .infinite (!negative)
  | .finite negative m e => .finite (!negative) m e

def same : Binary64 → Binary64 → Bool
  | .infinite a, .infinite b => a == b
  | .finite a m e, .finite b n f => m == n && e == f && (a == b || m == 0)
  | _, _ => false

def timesTen (x : Binary64) (power : Nat) : Binary64 :=
  match x, ofRatio false (pow10 power) 1 with
  | .finite s m e, .finite _ n f =>
      ofRatio s (m * n * pow2 (e + f).toNat) (pow2 (-(e + f)).toNat)
  | x, _ => x

def overTen (x : Binary64) (power : Nat) : Binary64 :=
  match x, ofRatio false (pow10 power) 1 with
  | .finite s m e, .finite _ n f =>
      ofRatio s (m * pow2 (e - f).toNat) (n * pow2 (f - e).toNat)
  | x, _ => x

end Binary64

end WikiQuery
