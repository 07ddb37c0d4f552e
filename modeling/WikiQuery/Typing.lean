import WikiQuery.Navigation
import WikiQuery.Sql.Render

/- Typing rules: which operators and methods apply to which types, and the SQL term and type that
   each application has. No rule looks at the scope. -/
set_option autoImplicit false

namespace WikiQuery

inductive Clause where
  | condition
  | joinOn
  | select
  | groupBy
  | having
  | orderBy
deriving DecidableEq

def Clause.allowsAggregates : Clause → Bool
  | .select | .having | .orderBy => true
  | .condition | .joinOn | .groupBy => false

structure Typed where
  term : Sql.Term
  type : Option FieldType

namespace BinaryOp

def isOrder : BinaryOp → Bool
  | .lt | .le | .gt | .ge => true
  | _ => false

def isEquality : BinaryOp → Bool
  | .eq | .ne => true
  | _ => false

end BinaryOp

namespace Typed

def ofColumn (c : Column) : Typed := ⟨.column c, some c.type⟩

def truth (t : Sql.Term) : Typed := ⟨t, some .boolean⟩

def hasType (t : Typed) (p : FieldType → Bool) : Bool := t.type.any p

def constantType (value : Value) (hint : Option FieldType) : Option FieldType :=
  match value, hint with
  | .null, _ => none
  | _, some declared => some declared
  | value, none => value.naturalType

def literal {α : Type} (x : Except LiteralError α) : Except QueryError α :=
  match x with
  | .ok a => .ok a
  | .error e => .error (.literal e)

def constant (expr : Expr) (value : Value) (hint : Option FieldType) : Except QueryError Typed :=
  match hint with
  | some declared =>
      if value.fits declared then do
        let text ← literal (Literal.ofValue (some declared) value)
        .ok ⟨.literal text, constantType value (some declared)⟩
      else .error (.mismatch expr (.constant value declared))
  | none => do
      let text ← literal (Literal.ofValue none value)
      .ok ⟨.literal text, constantType value none⟩

-- Operands that no binary operator takes: an enumeration on either side, `NULL` under an order,
-- and `NULL` on both sides of an equality.
def checkOperands (left : Expr) (op : BinaryOp) (right : Expr) : Except QueryError Unit :=
  let whole := Expr.binary left op right
  match left.listConstant?, right.listConstant? with
  | some items, _ => .error (.mismatch whole (.listOperand (.list items) op))
  | none, some items => .error (.mismatch whole (.listOperand (.list items) op))
  | none, none =>
      if op.isOrder && left.isNullConstant then .error (.mismatch left (.nullOrder whole))
      else if op.isOrder && right.isNullConstant then .error (.mismatch right (.nullOrder whole))
      else if op.isEquality && left.isNullConstant && right.isNullConstant then
        .error (.unsupported whole .nullWithNull)
      else .ok ()

def nullTest (op : BinaryOp) (t : Typed) : Typed :=
  match op with
  | .eq => truth (.unary .isNull t.term)
  | _ => truth (.unary .isNotNull t.term)

def chainTerms (c : Connective) : Sql.Term → List Sql.Term
  | .junction d terms => if d = c then terms else [.junction d terms]
  | t => [t]

def connective (c : Connective) (op : BinaryOp) (left right : Expr) (l r : Typed) :
    Except QueryError Typed :=
  if l.type ≠ some .boolean then .error (.mismatch left (.connective op l.type))
  else if r.type ≠ some .boolean then .error (.mismatch right (.connective op r.type))
  else .ok (truth (.junction c (chainTerms c l.term ++ chainTerms c r.term)))

def arithmeticType (op : Sql.BinaryOp) (a b : FieldType) : FieldType :=
  if a = .float ∨ b = .float ∨ op = .div then .float else .integer

def arithmetic (op : Sql.BinaryOp) (whole : Expr) (l r : Typed) : Except QueryError Typed :=
  match l.type, r.type with
  | some a, some b =>
      if a.isNumeric && b.isNumeric then
        .ok ⟨.binary l.term op r.term, some (arithmeticType op a b)⟩
      else .error (.mismatch whole (.arithmetic (some a) (some b)))
  | a, b => .error (.mismatch whole (.arithmetic a b))

def comparison (op : Sql.BinaryOp) (whole : Expr) (l r : Typed) : Except QueryError Typed :=
  let result := truth (.binary l.term op r.term)
  match l.type, r.type with
  | some a, some b =>
      if a.comparable b = false then .error (.mismatch whole (.comparison a b))
      else if a.isList && op ≠ .eq && op ≠ .ne then .error (.mismatch whole .listOrder)
      else .ok result
  | _, _ => .ok result

def binary (left : Expr) (op : BinaryOp) (right : Expr) (l r : Typed) : Except QueryError Typed :=
  let whole := Expr.binary left op right
  match op with
  | .and => connective .and op left right l r
  | .or => connective .or op left right l r
  | .add => arithmetic .add whole l r
  | .sub => arithmetic .sub whole l r
  | .mul => arithmetic .mul whole l r
  | .div => arithmetic .div whole l r
  | .eq => comparison .eq whole l r
  | .ne => comparison .ne whole l r
  | .lt => comparison .lt whole l r
  | .le => comparison .le whole l r
  | .gt => comparison .gt whole l r
  | .ge => comparison .ge whole l r

def unary (op : UnaryOp) (operand : Expr) (t : Typed) : Except QueryError Typed :=
  let whole := Expr.unary op operand
  match op with
  | .not =>
      if t.type = some .boolean then .ok ⟨.unary .not t.term, t.type⟩
      else .error (.mismatch whole (.negatedTruth t.type))
  | .neg =>
      if t.hasType FieldType.isNumeric then .ok ⟨.unary .neg t.term, t.type⟩
      else .error (.mismatch whole (.negatedNumber t.type))

def holds (list item : Typed) : Typed := truth (.binary list.term .holds item.term)

def patternText (p : PatternMethod) (text : String) : String :=
  match p with
  | .startsWith => Literal.escapeLike text ++ "%"
  | .endsWith => "%" ++ Literal.escapeLike text
  | .contains => "%" ++ Literal.escapeLike text ++ "%"
  | .like => text

def pattern (whole : Expr) (p : PatternMethod) (subject : Typed) (arg : Expr) :
    Except QueryError Typed :=
  if subject.hasType FieldType.isText then
    match arg with
    | .constant (.text text) =>
        .ok (truth (.binary subject.term .like (.literal (Literal.quote (patternText p text)))))
    | _ => .error (.unsupported whole .patternArgument)
  else .error (.mismatch whole (.pattern subject.type))

def checkItems (whole : Expr) (items : List Value) : Option FieldType → Except QueryError Unit
  | none => .ok ()
  | some declared =>
      if declared.isList then .error (.mismatch whole .setOfList)
      else
        match items.find? fun item => !item.fits declared with
        | some bad => .error (.mismatch whole (.constant bad declared))
        | none => .ok ()

def membership (whole : Expr) (negated : Bool) (subject : Typed) (items : List Value) :
    Except QueryError Typed := do
  checkItems whole items subject.type
  match Literal.enumeration subject.type items with
  | .ok text =>
      .ok (truth (.binary subject.term (if negated then .notIn else .isIn) (.literal text)))
  | .error .emptyList => .error (.emptySet whole)
  | .error e => .error (.literal e)

def textFunctionName : TextFunction → String
  | .upper => "UPPER"
  | .lower => "LOWER"
  | .trim => "TRIM"
  | .length => "CHAR_LENGTH"

def textFunctionType : TextFunction → FieldType
  | .length => .integer
  | _ => .string

def textFunction (whole : Expr) (f : TextFunction) (subject : Typed) : Except QueryError Typed :=
  if subject.hasType FieldType.isText then
    .ok ⟨.function (textFunctionName f) false [subject.term], some (textFunctionType f)⟩
  else .error (.mismatch whole (.function f.text subject.type))

def datePartName : DatePart → String
  | .year => "YEAR"
  | .month => "MONTH"
  | .day => "DAY"

def datePart (whole : Expr) (p : DatePart) (subject : Typed) : Except QueryError Typed :=
  if subject.hasType FieldType.isTemporal then
    .ok ⟨.function (datePartName p) false [subject.term], some .integer⟩
  else .error (.mismatch whole (.function p.text subject.type))

def aggregateName : Aggregate → String
  | .count | .countDistinct => "COUNT"
  | .sum => "SUM"
  | .avg => "AVG"
  | .min => "MIN"
  | .max => "MAX"

def aggregateType? : Aggregate → Option FieldType → Option FieldType
  | .count, _ => some .integer
  | .countDistinct, _ => some .integer
  | .sum, some t => if t.isNumeric then some t else none
  | .avg, some t => if t.isNumeric then some .float else none
  | .min, some t => if t.isList then none else some t
  | .max, some t => if t.isList then none else some t
  | _, none => none

def aggregateTerm (a : Aggregate) (arg : Sql.Term) : Sql.Term :=
  .function (aggregateName a) (a = .countDistinct) [arg]

def checkAggregate (clause : Clause) (whole : Expr) (args : List Expr) : Except QueryError Unit :=
  if clause.allowsAggregates = false then .error (.unsupported whole .aggregateClause)
  else if args.isEmpty = false then .error (.unsupported whole .aggregateArguments)
  else .ok ()

def aggregate (whole : Expr) (a : Aggregate) (subject : Typed) : Except QueryError Typed :=
  if subject.term.hasAggregate then .error (.unsupported whole .nestedAggregate)
  else
    match aggregateType? a subject.type with
    | some t => .ok ⟨aggregateTerm a subject.term, some t⟩
    | none => .error (.mismatch whole (.function (aggregateName a) subject.type))

def free (clause : Clause) (method : Method) (args : List Expr) : Except QueryError Typed :=
  let whole := Expr.free method args
  match method with
  | .aggregate a => do
      checkAggregate clause whole args
      match a with
      | .count => .ok ⟨aggregateTerm .count (.literal "*"), some .integer⟩
      | _ => .error (.unsupported whole .aggregateColumn)
  | .other _ => .error (.unsupported whole .unknownMethod)
  | _ => .error (.unsupported whole .noReceiver)

end Typed

end WikiQuery
