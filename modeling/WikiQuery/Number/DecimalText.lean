import WikiQuery.Number.Shortest

/- Decimal text of numbers. Messages and literals write every number in plain positional digits;
   structured data keeps a fraction in sight and turns to an exponent outside a range. -/
set_option autoImplicit false

namespace WikiQuery

namespace Decimal

def zeros (n : Nat) : String := String.ofList (List.replicate n '0')

def positional (d : Decimal) : String :=
  let digits := Nat.repr d.coefficient
  let places := (-d.power).toNat
  if places = 0 then digits ++ zeros d.power.toNat
  else if places < digits.length then
    let whole := digits.length - places
    String.ofList (digits.toList.take whole) ++ "." ++ String.ofList (digits.toList.drop whole)
  else "0." ++ zeros (places - digits.length) ++ digits

def leading (d : Decimal) : Int := ((Nat.repr d.coefficient).length : Int) - 1 + d.power

def signedPower (k : Int) : String :=
  if k < 0 then "-" ++ Nat.repr (-k).toNat else "+" ++ Nat.repr k.toNat

def scientific (d : Decimal) : String :=
  match (Nat.repr d.coefficient).toList with
  | [] => ""
  | [digit] => String.ofList [digit] ++ "e" ++ signedPower d.leading
  | digit :: rest => String.ofList (digit :: '.' :: rest) ++ "e" ++ signedPower d.leading

end Decimal

namespace Binary64

def signText (negative : Bool) : String := if negative then "-" else ""

def text : Binary64 → String
  | .nan => "NaN"
  | .infinite negative => signText negative ++ "inf"
  | .finite negative 0 _ => signText negative ++ "0"
  | .finite negative m e => signText negative ++ (Decimal.shortest .away m e).normal.positional

-- Structured-data text: at least one fractional digit, and an exponent when the first digit lies
-- outside the places from `10 ^ -5` to `10 ^ 15`. Values that are not finite have none.
def dataText : Binary64 → String
  | .nan => "null"
  | .infinite _ => "null"
  | .finite negative 0 _ => signText negative ++ "0.0"
  | .finite negative m e =>
      let d := (Decimal.shortest .toEven m e).normal
      signText negative ++
        (if -5 ≤ d.leading ∧ d.leading ≤ 15 then
          (if 0 ≤ d.power then d.positional ++ ".0" else d.positional)
        else d.scientific)

end Binary64

end WikiQuery
