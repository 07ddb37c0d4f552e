import WikiQuery.Typing

/- From expressions to SQL terms. Operands are lowered from left to right with the scope handed
   on, except that a constant on the left waits for the type of the right side. -/
set_option autoImplicit false

namespace WikiQuery

inductive Side where
  | left
  | right
deriving DecidableEq

namespace Expr

def nullSide? (left : Expr) (op : BinaryOp) (right : Expr) : Option Side :=
  if op.isEquality = false then none
  else if right.isNullConstant then some .right
  else if left.isNullConstant then some .left
  else none

def operand (e : Expr) (hint : Option FieldType) (lowered : Scoped Typed) : Scoped Typed :=
  match e.constant? with
  | some value => Steps.ofExcept (Typed.constant e value hint)
  | none => lowered

def lower (c : Catalog) (clause : Clause) : Expr → Scoped Typed
  | .member table path => do
      let column ← Navigation.member c table path
      pure (Typed.ofColumn column)
  | .field name => do
      let s ← get
      let column ← Steps.ofExcept (Navigation.unqualified c s name)
      pure (Typed.ofColumn column)
  | .constant value => Steps.ofExcept (Typed.constant (.constant value) value none)
  | .binary left op right => do
      Steps.ofExcept (Typed.checkOperands left op right)
      match nullSide? left op right with
      | some .right => do
          let t ← lower c clause left
          pure (t.nullTest op)
      | some .left => do
          let t ← lower c clause right
          pure (t.nullTest op)
      | none =>
          match left.constant? with
          | some value => do
              let r ← lower c clause right
              let l ← Steps.ofExcept (Typed.constant left value r.type)
              Steps.ofExcept (Typed.binary left op right l r)
          | none => do
              let l ← lower c clause left
              let r ← operand right l.type (lower c clause right)
              Steps.ofExcept (Typed.binary left op right l r)
  | .unary op operand => do
      let t ← lower c clause operand
      Steps.ofExcept (Typed.unary op operand t)
  | .call receiver method args =>
      let whole := Expr.call receiver method args
      match method with
      | .aggregate a => do
          Steps.ofExcept (Typed.checkAggregate clause whole args)
          let subject ← lower c clause receiver
          Steps.ofExcept (Typed.aggregate whole a subject)
      | .other _ => throw (.unsupported whole .unknownMethod)
      | .pattern p =>
          match args with
          | [arg] => do
              let subject ← lower c clause receiver
              match p, subject.type with
              | .contains, some (.list item) => do
                  let needle ← operand arg (some item) (lower c clause arg)
                  pure (Typed.holds subject needle)
              | p, _ => Steps.ofExcept (Typed.pattern whole p subject arg)
          | _ => throw (.unsupported whole .oneArgument)
      | .membership negated =>
          match args with
          | [arg] =>
              match arg.listConstant? with
              | some items => do
                  let subject ← lower c clause receiver
                  Steps.ofExcept (Typed.membership whole negated subject items)
              | none => throw (.unsupported whole .setArgument)
          | _ => throw (.unsupported whole .oneArgument)
      | .textFunction f =>
          match args with
          | [] => do
              let subject ← lower c clause receiver
              Steps.ofExcept (Typed.textFunction whole f subject)
          | _ => throw (.unsupported whole .noArguments)
      | .datePart p =>
          match args with
          | [] => do
              let subject ← lower c clause receiver
              Steps.ofExcept (Typed.datePart whole p subject)
          | _ => throw (.unsupported whole .noArguments)
  | .free method args => Steps.ofExcept (Typed.free clause method args)
  | .conditional test whenTrue whenFalse =>
      throw (.unsupported (.conditional test whenTrue whenFalse) .conditional)

def lowerPredicate (c : Catalog) (clause : Clause) (e : Expr) : Scoped Sql.Term := do
  let t ← lower c clause e
  if t.type = some .boolean then pure t.term
  else throw (.mismatch e (.predicate t.type))

def lowerJoinSide (c : Catalog) (clause : Clause) (whole side : Expr) : Scoped Column := do
  let t ← lower c clause side
  match t.term with
  | .column column => pure column
  | _ => throw (.unsupported whole .joinShape)

def equalJoin (whole : Expr) (left right : Column) : Except QueryError (List Join) :=
  if left.type.comparable right.type then .ok [⟨left, right, .equal, none⟩]
  else .error (.mismatch whole (.join left.type right.type))

def holdsJoin (whole : Expr) (list item : Column) : Except QueryError (List Join) :=
  if list.type.item?.any fun t => t.comparable item.type then .ok [⟨list, item, .holds, none⟩]
  else .error (.mismatch whole (.notHeld list.type item.type))

/-- The conditions of an explicit join: equalities of columns and memberships in list columns,
one or several of them joined by `and`. -/
def lowerJoin (c : Catalog) (clause : Clause) : Expr → Scoped (List Join)
  | .binary left .and right => do
      let first ← lowerJoin c clause left
      let second ← lowerJoin c clause right
      pure (first ++ second)
  | .binary left .eq right => do
      let whole := Expr.binary left .eq right
      let l ← lowerJoinSide c clause whole left
      let r ← lowerJoinSide c clause whole right
      Steps.ofExcept (equalJoin whole l r)
  | .call receiver (.pattern .contains) [arg] => do
      let whole := Expr.call receiver (.pattern .contains) [arg]
      let list ← lowerJoinSide c clause whole receiver
      let item ← lowerJoinSide c clause whole arg
      Steps.ofExcept (holdsJoin whole list item)
  | e => throw (.unsupported e .joinShape)

end Expr

end WikiQuery
