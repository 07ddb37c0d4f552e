import WikiQuery.Entity
import WikiQuery.FieldType

/- SQL terms. Literals are kept as finished text. -/
set_option autoImplicit false

namespace WikiQuery

structure Source where
  entity : Entity
  table : String
  label : String
deriving DecidableEq

def Source.text (s : Source) : String := s.table ++ "=" ++ s.label

structure Column where
  label : String
  field : String
  type : FieldType
deriving DecidableEq

def Column.text (c : Column) : String := c.label ++ "." ++ c.field

inductive Connective where
  | and
  | or
deriving DecidableEq

def Connective.text : Connective → String
  | .and => "AND"
  | .or => "OR"

inductive Direction where
  | asc
  | desc
deriving DecidableEq

def Direction.text : Direction → String
  | .asc => "ASC"
  | .desc => "DESC"

namespace Sql

inductive BinaryOp where
  | eq | ne | lt | le | gt | ge
  | add | sub | mul | div
  | like
  | isIn | notIn
  | holds
deriving DecidableEq

def BinaryOp.text : BinaryOp → String
  | .eq => "="
  | .ne => "!="
  | .lt => "<"
  | .le => "<="
  | .gt => ">"
  | .ge => ">="
  | .add => "+"
  | .sub => "-"
  | .mul => "*"
  | .div => "/"
  | .like => "LIKE"
  | .isIn => "IN"
  | .notIn => "NOT IN"
  | .holds => "HOLDS"

inductive UnaryOp where
  | not
  | neg
  | isNull
  | isNotNull
deriving DecidableEq

inductive Term where
  | source (s : Source)
  | column (c : Column)
  | binary (left : Term) (op : BinaryOp) (right : Term)
  | unary (op : UnaryOp) (operand : Term)
  | literal (text : String)
  | function (name : String) (distinct : Bool) (args : List Term)
  | junction (connective : Connective) (terms : List Term)
  | ordering (term : Term) (direction : Direction)

namespace Term

mutual
def beq : Term → Term → Bool
  | .source a, .source b => a == b
  | .column a, .column b => a == b
  | .binary l op r, .binary l' op' r' => op == op' && beq l l' && beq r r'
  | .unary op t, .unary op' t' => op == op' && beq t t'
  | .literal a, .literal b => a == b
  | .function f d args, .function f' d' args' => f == f' && d == d' && allBeq args args'
  | .junction c ts, .junction c' ts' => c == c' && allBeq ts ts'
  | .ordering t d, .ordering t' d' => d == d' && beq t t'
  | _, _ => false

def allBeq : List Term → List Term → Bool
  | [], [] => true
  | a :: as, b :: bs => beq a b && allBeq as bs
  | _, _ => false
end

mutual
theorem eq_of_beq : ∀ (a b : Term), beq a b = true → a = b
  | .source a, b, h => by cases b <;> simp_all [beq]
  | .column a, b, h => by cases b <;> simp_all [beq]
  | .binary l op r, b, h => by
      cases b <;> simp [beq] at h
      next l' op' r' => simp [h.1.1, eq_of_beq l l' h.1.2, eq_of_beq r r' h.2]
  | .unary op t, b, h => by
      cases b <;> simp [beq] at h
      next op' t' => simp [h.1, eq_of_beq t t' h.2]
  | .literal a, b, h => by cases b <;> simp_all [beq]
  | .function f d args, b, h => by
      cases b <;> simp [beq] at h
      next f' d' args' => simp [h.1.1, h.1.2, eq_of_all_beq args args' h.2]
  | .junction c ts, b, h => by
      cases b <;> simp [beq] at h
      next c' ts' => simp [h.1, eq_of_all_beq ts ts' h.2]
  | .ordering t d, b, h => by
      cases b <;> simp [beq] at h
      next t' d' => simp [h.1, eq_of_beq t t' h.2]

theorem eq_of_all_beq : ∀ (as bs : List Term), allBeq as bs = true → as = bs
  | [], bs, h => by cases bs <;> simp_all [allBeq]
  | a :: as, bs, h => by
      cases bs <;> simp [allBeq] at h
      next b bs => simp [eq_of_beq a b h.1, eq_of_all_beq as bs h.2]
end

mutual
theorem beq_self : ∀ (t : Term), beq t t = true
  | .source _ => by simp [beq]
  | .column _ => by simp [beq]
  | .binary l _ r => by simp [beq, beq_self l, beq_self r]
  | .unary _ t => by simp [beq, beq_self t]
  | .literal _ => by simp [beq]
  | .function _ _ args => by simp [beq, all_beq_self args]
  | .junction _ ts => by simp [beq, all_beq_self ts]
  | .ordering t _ => by simp [beq, beq_self t]

theorem all_beq_self : ∀ (ts : List Term), allBeq ts ts = true
  | [] => rfl
  | t :: ts => by simp [allBeq, beq_self t, all_beq_self ts]
end

instance : DecidableEq Term := fun a b =>
  decidable_of_iff (beq a b = true) ⟨eq_of_beq a b, fun h => h ▸ beq_self a⟩

mutual
def columns : Term → List Column
  | .source _ => []
  | .column c => [c]
  | .binary l _ r => columns l ++ columns r
  | .unary _ t => columns t
  | .literal _ => []
  | .function _ _ args => allColumns args
  | .junction _ ts => allColumns ts
  | .ordering t _ => columns t

def allColumns : List Term → List Column
  | [] => []
  | t :: ts => columns t ++ allColumns ts
end

def isAggregateName (name : String) : Bool :=
  name == "COUNT" || name == "SUM" || name == "AVG" || name == "MIN" || name == "MAX"

mutual
def hasAggregate : Term → Bool
  | .source _ => false
  | .column _ => false
  | .binary l _ r => hasAggregate l || hasAggregate r
  | .unary _ t => hasAggregate t
  | .literal _ => false
  | .function name _ args => isAggregateName name || anyAggregate args
  | .junction _ ts => anyAggregate ts
  | .ordering t _ => hasAggregate t

def anyAggregate : List Term → Bool
  | [] => false
  | t :: ts => hasAggregate t || anyAggregate ts
end

theorem any_aggregate_eq (ts : List Term) : anyAggregate ts = ts.any hasAggregate := by
  induction ts with
  | nil => rfl
  | cons t ts ih => simp [anyAggregate, ih]

end Term

end Sql

end WikiQuery
