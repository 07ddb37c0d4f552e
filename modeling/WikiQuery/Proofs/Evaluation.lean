import WikiQuery.Proofs.Derivation
import WikiQuery.Proofs.Tokens

/- What SQL terms and query expressions are worth over the rows of an environment. Values may be
   missing, truth values are three-valued, and every symbol but the connectives and the tests is
   open to interpretation. -/
set_option autoImplicit false

namespace WikiQuery

-- Truth values; a missing one is unknown.
abbrev Truth := Option Bool

namespace Truth

def and : Truth → Truth → Truth
  | some false, _ => some false
  | _, some false => some false
  | some true, some true => some true
  | _, _ => none

def or : Truth → Truth → Truth
  | some true, _ => some true
  | _, some true => some true
  | some false, some false => some false
  | _, _ => none

end Truth

namespace Connective

def join : Connective → Truth → Truth → Truth
  | .and => Truth.and
  | .or => Truth.or

def unit : Connective → Truth
  | .and => some true
  | .or => some false

def joinAll (k : Connective) (ts : List Truth) : Truth := ts.foldr k.join k.unit

theorem join_unit (k : Connective) (t : Truth) : k.join t k.unit = t := by
  cases k <;> rcases t with _ | _ | _ <;> rfl

theorem join_assoc (k : Connective) (a b c : Truth) :
    k.join (k.join a b) c = k.join a (k.join b c) := by
  cases k <;> rcases a with _ | _ | _ <;> rcases b with _ | _ | _ <;>
    rcases c with _ | _ | _ <;> rfl

theorem unit_join (k : Connective) (t : Truth) : k.join k.unit t = t := by
  cases k <;> rcases t with _ | _ | _ <;> rfl

theorem join_all_append (k : Connective) (as bs : List Truth) :
    k.joinAll (as ++ bs) = k.join (k.joinAll as) (k.joinAll bs) := by
  induction as with
  | nil => exact (unit_join k _).symm
  | cons a as ih =>
      change k.join a (k.joinAll (as ++ bs)) = k.join (k.join a (k.joinAll as)) (k.joinAll bs)
      rw [ih, join_assoc]

theorem join_all_single (k : Connective) (t : Truth) : k.joinAll [t] = t := join_unit k t

end Connective

/-- A domain of values with an interpretation of the symbols on values that may be missing. Which
values count as true is open, except that truth values are what they say. -/
structure Interpretation (V : Type) where
  ofBool : Bool → V
  ofInt : Int → V
  ofText : String → V
  truth : V → Truth
  truth_ofBool : ∀ b, truth (ofBool b) = some b
  operator : BinaryOp → Option V → Option V → Option V
  negative : Option V → Option V
  textFunction : TextFunction → Option V → Option V
  datePart : DatePart → Option V → Option V

namespace Interpretation

variable {V : Type} (I : Interpretation V)

def truthOf (v : Option V) : Truth := v.bind I.truth

def ofTruth (t : Truth) : Option V := t.map I.ofBool

theorem truth_of_truth (t : Truth) : I.truthOf (I.ofTruth t) = t := by
  cases t with
  | none => rfl
  | some b => exact I.truth_ofBool b

def not (v : Option V) : Option V := I.ofTruth ((I.truthOf v).map Bool.not)

def missing (v : Option V) : Option V := I.ofTruth (some v.isNone)

def present (v : Option V) : Option V := I.ofTruth (some v.isSome)

def connect (k : Connective) (a b : Option V) : Option V :=
  I.ofTruth (k.join (I.truthOf a) (I.truthOf b))

def connectAll (k : Connective) (vs : List (Option V)) : Option V :=
  I.ofTruth (k.joinAll (vs.map I.truthOf))

def membership (negated : Bool) (subject : Option V) (items : List (Option V)) : Option V :=
  let among := Connective.or.joinAll (items.map fun item => I.truthOf (I.operator .eq subject item))
  I.ofTruth (if negated then among.map Bool.not else among)

end Interpretation

abbrev Environment (V : Type) := String → String → Option V

namespace SqlText

def natural? (digits : List Char) : Option Nat :=
  if digits ≠ [] ∧ digits.all Char.isDigit then some (Nat.ofDigitChars 10 digits 0) else none

def integer? (text : String) : Option Int :=
  match text.toList with
  | '-' :: digits => (natural? digits).map fun (n : Nat) => -(n : Int)
  | digits => (natural? digits).map fun (n : Nat) => (n : Int)

def Token.value? {V : Type} (I : Interpretation V) : Token → Option (Option V)
  | .null => some none
  | .truth b => some (some (I.ofBool b))
  | .number text => (integer? text).map fun i => some (I.ofInt i)
  | .quoted s => some (some (I.ofText s))

end SqlText

namespace Interpretation

open SqlText

variable {V : Type} (I : Interpretation V)

def literal? (text : String) : Option (Option V) :=
  match readToken text.toList with
  | some (token, []) => token.value? I
  | _ => none

def values? : List Token → Option (List (Option V))
  | [] => some []
  | token :: rest => do
      let v ← token.value? I
      let vs ← values? rest
      some (v :: vs)

def enumeration? (text : String) : Option (List (Option V)) :=
  match readEnumeration text.toList with
  | some (tokens, []) => I.values? tokens
  | _ => none

def function? (name : String) (v : Option V) : Option (Option V) :=
  match name with
  | "UPPER" => some (I.textFunction .upper v)
  | "LOWER" => some (I.textFunction .lower v)
  | "TRIM" => some (I.textFunction .trim v)
  | "CHAR_LENGTH" => some (I.textFunction .length v)
  | "YEAR" => some (I.datePart .year v)
  | "MONTH" => some (I.datePart .month v)
  | "DAY" => some (I.datePart .day v)
  | _ => none

end Interpretation

namespace Sql

def BinaryOp.symbol? : BinaryOp → Option WikiQuery.BinaryOp
  | .eq => some .eq
  | .ne => some .ne
  | .lt => some .lt
  | .le => some .le
  | .gt => some .gt
  | .ge => some .ge
  | .add => some .add
  | .sub => some .sub
  | .mul => some .mul
  | .div => some .div
  | .like | .isIn | .notIn | .holds => none

namespace Term

def items? {V : Type} (I : Interpretation V) : Term → Option (List (Option V))
  | .literal text => I.enumeration? text
  | _ => none

variable {V : Type} (I : Interpretation V) (env : Environment V)

mutual
def eval : Term → Option (Option V)
  | .source _ => none
  | .column c => some (env c.label c.field)
  | .literal text => I.literal? text
  | .binary l .isIn r => do
      let v ← eval l
      let items ← items? I r
      some (I.membership false v items)
  | .binary l .notIn r => do
      let v ← eval l
      let items ← items? I r
      some (I.membership true v items)
  | .binary l op r => do
      let symbol ← op.symbol?
      let v ← eval l
      let w ← eval r
      some (I.operator symbol v w)
  | .unary op t => do
      let v ← eval t
      match op with
      | .not => some (I.not v)
      | .neg => some (I.negative v)
      | .isNull => some (I.missing v)
      | .isNotNull => some (I.present v)
  | .function name distinct args => do
      let vs ← evalAll args
      match distinct, vs with
      | false, [v] => I.function? name v
      | _, _ => none
  | .junction k ts => do
      let vs ← evalAll ts
      some (I.connectAll k vs)
  | .ordering _ _ => none

def evalAll : List Term → Option (List (Option V))
  | [] => some []
  | t :: ts => do
      let v ← eval t
      let vs ← evalAll ts
      some (v :: vs)
end

end Term

end Sql

structure Meaning (V : Type) where
  value : Option V
  type : Option TypeClass

namespace Interpretation

variable {V : Type} (I : Interpretation V)

-- A constant against something of the given class: an integer against text is its decimal text.
def constant (opposite : Option TypeClass) : Value → Option V
  | .bool b => some (I.ofBool b)
  | .int i => if opposite = some .text then some (I.ofText (Value.intText i)) else some (I.ofInt i)
  | .text s => some (I.ofText s)
  | _ => none

def binary (op : BinaryOp) (v w : Option V) : Option V :=
  match op with
  | .and => I.connect .and v w
  | .or => I.connect .or v w
  | op => I.operator op v w

def nullTest (op : BinaryOp) (v : Option V) : Option V :=
  match op with
  | .eq => I.missing v
  | _ => I.present v

def operand (e : Expr) (m : Meaning V) (opposite : Option TypeClass) : Option V :=
  match e.constant? with
  | some value => I.constant opposite value
  | none => m.value

end Interpretation

def BinaryOp.resultClass : BinaryOp → TypeClass
  | .add | .sub | .mul | .div => .numeric
  | _ => .boolean

def TextFunction.resultClass : TextFunction → TypeClass
  | .length => .numeric
  | _ => .text

def Value.isPlain : Value → Bool
  | .null | .bool _ | .int _ | .text _ => true
  | _ => false

namespace Expr

def isPlain : Expr → Bool
  | .member _ _ => true
  | .field _ => true
  | .constant value => value.isPlain
  | .binary left _ right => left.isPlain && right.isPlain
  | .unary _ operand => operand.isPlain
  | .call receiver (.textFunction _) _ => receiver.isPlain
  | .call receiver (.datePart _) _ => receiver.isPlain
  | .call receiver (.membership _) [.constant (.list items)] =>
      receiver.isPlain && items.all Value.isPlain
  | _ => false

/-- The meaning of an expression, from left to right. Names stand for the columns they resolve to
in the scope that the expressions before them have left. -/
def meaning {V : Type} (c : Catalog) (I : Interpretation V) (env : Environment V) :
    Expr → Scoped (Meaning V)
  | .member table path => do
      let column ← Navigation.member c table path
      pure ⟨env column.label column.field, some column.type.typeClass⟩
  | .field name => do
      let s ← get
      let column ← Steps.ofExcept (Navigation.unqualified c s name)
      pure ⟨env column.label column.field, some column.type.typeClass⟩
  | .constant value => pure ⟨I.constant none value, value.naturalType.map FieldType.typeClass⟩
  | .binary left op right =>
      if op.isEquality && right.isNullConstant then do
        let m ← meaning c I env left
        pure ⟨I.nullTest op m.value, some .boolean⟩
      else if op.isEquality && left.isNullConstant then do
        let m ← meaning c I env right
        pure ⟨I.nullTest op m.value, some .boolean⟩
      else do
        let l ← meaning c I env left
        let r ← meaning c I env right
        pure ⟨I.binary op (I.operand left l r.type) (I.operand right r l.type),
          some op.resultClass⟩
  | .unary op operand => do
      let m ← meaning c I env operand
      match op with
      | .not => pure ⟨I.not m.value, some .boolean⟩
      | .neg => pure ⟨I.negative m.value, some .numeric⟩
  | .call receiver (.textFunction f) [] => do
      let m ← meaning c I env receiver
      pure ⟨I.textFunction f m.value, some f.resultClass⟩
  | .call receiver (.datePart p) [] => do
      let m ← meaning c I env receiver
      pure ⟨I.datePart p m.value, some .numeric⟩
  | .call receiver (.membership negated) [.constant (.list items)] => do
      let m ← meaning c I env receiver
      pure ⟨I.membership negated m.value (items.map (I.constant m.type)), some .boolean⟩
  | e => throw (.unsupported e .unknownMethod)

end Expr

end WikiQuery
