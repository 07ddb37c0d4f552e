import WikiQuery.Entity
import WikiQuery.Text.Pieces
import WikiQuery.Value

/- Query expressions as callers write them: untyped trees over member paths, constants, operators
   and method calls. -/
set_option autoImplicit false

namespace WikiQuery

inductive BinaryOp where
  | eq | ne | lt | le | gt | ge
  | and | or
  | add | sub | mul | div
deriving DecidableEq

def BinaryOp.text : BinaryOp → String
  | .eq => "=="
  | .ne => "!="
  | .lt => "<"
  | .le => "<="
  | .gt => ">"
  | .ge => ">="
  | .and => "&&"
  | .or => "||"
  | .add => "+"
  | .sub => "-"
  | .mul => "*"
  | .div => "/"

inductive UnaryOp where
  | not
  | neg
deriving DecidableEq

def UnaryOp.text : UnaryOp → String
  | .not => "!"
  | .neg => "-"

inductive Aggregate where
  | count | countDistinct | sum | avg | min | max
deriving DecidableEq

inductive PatternMethod where
  | startsWith | endsWith | contains | like
deriving DecidableEq

inductive TextFunction where
  | upper | lower | trim | length
deriving DecidableEq

inductive DatePart where
  | year | month | day
deriving DecidableEq

inductive Method where
  | pattern (p : PatternMethod)
  | membership (negated : Bool)
  | textFunction (f : TextFunction)
  | datePart (p : DatePart)
  | aggregate (a : Aggregate)
  | other (name : String)
deriving DecidableEq

def PatternMethod.text : PatternMethod → String
  | .startsWith => "starts_with"
  | .endsWith => "ends_with"
  | .contains => "contains"
  | .like => "like"

def TextFunction.text : TextFunction → String
  | .upper => "upper"
  | .lower => "lower"
  | .trim => "trim"
  | .length => "length"

def DatePart.text : DatePart → String
  | .year => "year"
  | .month => "month"
  | .day => "day"

def Aggregate.text : Aggregate → String
  | .count => "count"
  | .countDistinct => "count_distinct"
  | .sum => "sum"
  | .avg => "avg"
  | .min => "min"
  | .max => "max"

def Method.text : Method → String
  | .pattern p => p.text
  | .membership negated => if negated then "not_in" else "is_in"
  | .textFunction f => f.text
  | .datePart p => p.text
  | .aggregate a => a.text
  | .other name => name

/-- A query expression. All segments of a member path but the last name relations. -/
inductive Expr where
  | member (table : TableRef) (path : List String)
  | field (name : String)
  | constant (value : Value)
  | binary (left : Expr) (op : BinaryOp) (right : Expr)
  | unary (op : UnaryOp) (operand : Expr)
  | call (receiver : Expr) (method : Method) (args : List Expr)
  | free (method : Method) (args : List Expr)
  | conditional (test whenTrue whenFalse : Expr)

namespace Expr

def constant? : Expr → Option Value
  | .constant value => some value
  | _ => none

def isNullConstant : Expr → Bool
  | .constant .null => true
  | _ => false

def listConstant? : Expr → Option (List Value)
  | .constant (.list items) => some items
  | _ => none

def ofPath (table : TableRef) (path : String) : Expr := .member table (Text.split '.' path)

def andThen (e : Expr) (segment : String) : Expr :=
  match e with
  | .member table path => .member table (path ++ Text.split '.' segment)
  | e => .call e (.other ("then[" ++ segment ++ "]")) []

def countAll : Expr := .free (.aggregate .count) []

mutual
def text : Expr → String
  | .member table path => table.text ++ "." ++ String.intercalate "." path
  | .field name => name
  | .constant value => value.display
  | .binary left op right => "(" ++ text left ++ " " ++ op.text ++ " " ++ text right ++ ")"
  | .unary op operand => op.text ++ text operand
  | .call receiver method args => text receiver ++ "." ++ method.text ++ "(" ++ argsText args ++ ")"
  | .free method args => method.text ++ "(" ++ argsText args ++ ")"
  | .conditional test whenTrue whenFalse =>
      "(" ++ text test ++ " ? " ++ text whenTrue ++ " : " ++ text whenFalse ++ ")"

def argsText : List Expr → String
  | [] => ""
  | [arg] => text arg
  | arg :: rest => text arg ++ ", " ++ argsText rest
end

mutual
def same : Expr → Expr → Bool
  | .member t p, .member u q => t == u && p == q
  | .field a, .field b => a == b
  | .constant a, .constant b => a.same b
  | .binary l op r, .binary l' op' r' => op == op' && same l l' && same r r'
  | .unary op e, .unary op' e' => op == op' && same e e'
  | .call e m args, .call e' m' args' => m == m' && same e e' && allSame args args'
  | .free m args, .free m' args' => m == m' && allSame args args'
  | .conditional a b c, .conditional a' b' c' => same a a' && same b b' && same c c'
  | _, _ => false

def allSame : List Expr → List Expr → Bool
  | [], [] => true
  | a :: as, b :: bs => same a b && allSame as bs
  | _, _ => false
end

end Expr

end WikiQuery
