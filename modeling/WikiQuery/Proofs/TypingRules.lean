import WikiQuery.Typing
import WikiQuery.Proofs.Steps

/- The typing rules read backwards: what an accepted application was applied to, and the term and
   type it has. -/
set_option autoImplicit false

namespace WikiQuery

namespace BinaryOp

def connective? : BinaryOp → Option Connective
  | .and => some .and
  | .or => some .or
  | _ => none

def arithmetic? : BinaryOp → Option Sql.BinaryOp
  | .add => some .add
  | .sub => some .sub
  | .mul => some .mul
  | .div => some .div
  | _ => none

def comparison? : BinaryOp → Option Sql.BinaryOp
  | .eq => some .eq
  | .ne => some .ne
  | .lt => some .lt
  | .le => some .le
  | .gt => some .gt
  | .ge => some .ge
  | _ => none

end BinaryOp

namespace Typed

theorem literal_ok {α : Type} {x : Except LiteralError α} {a : α} (ok : literal x = .ok a) :
    x = .ok a := by
  unfold literal at ok
  split at ok <;> cases ok
  rfl

theorem constant_ok {e : Expr} {value : Value} {hint : Option FieldType} {t : Typed}
    (written : constant e value hint = .ok t) :
    (∀ declared, hint = some declared → value.fits declared = true) ∧
      ∃ text, Literal.ofValue hint value = .ok text ∧
        t = ⟨.literal text, constantType value hint⟩ := by
  cases hint with
  | none =>
      obtain ⟨text, read, rest⟩ := bind_ok.mp written
      cases rest
      exact ⟨by simp, text, literal_ok read, rfl⟩
  | some declared =>
      by_cases fits : value.fits declared = true
      · rw [constant, if_pos fits] at written
        obtain ⟨text, read, rest⟩ := bind_ok.mp written
        cases rest
        exact ⟨by simpa using fits, text, literal_ok read, rfl⟩
      · rw [constant, if_neg fits] at written
        cases written

theorem chain_terms_cases (k : Connective) (t : Sql.Term) :
    (∃ ts, t = .junction k ts ∧ chainTerms k t = ts) ∨ chainTerms k t = [t] := by
  cases t with
  | junction d ts =>
      by_cases same : d = k
      · subst same
        exact .inl ⟨ts, rfl, if_pos rfl⟩
      · exact .inr (if_neg same)
  | _ => exact .inr rfl

theorem connective_ok {k : Connective} {op : BinaryOp} {left right : Expr} {l r t : Typed}
    (typed : connective k op left right l r = .ok t) :
    l.type = some .boolean ∧ r.type = some .boolean ∧
      t = truth (.junction k (chainTerms k l.term ++ chainTerms k r.term)) := by
  rw [connective] at typed
  split at typed
  · cases typed
  next leftTruth =>
    split at typed
    · cases typed
    next rightTruth =>
      cases typed
      exact ⟨by simpa using leftTruth, by simpa using rightTruth, rfl⟩

theorem arithmetic_ok {op : Sql.BinaryOp} {whole : Expr} {l r t : Typed}
    (typed : arithmetic op whole l r = .ok t) :
    ∃ a b, l.type = some a ∧ r.type = some b ∧ a.isNumeric = true ∧ b.isNumeric = true ∧
      t = ⟨.binary l.term op r.term, some (arithmeticType op a b)⟩ := by
  rw [arithmetic] at typed
  split at typed
  next a b leftType rightType =>
    split at typed
    next numbers =>
      cases typed
      rw [Bool.and_eq_true] at numbers
      exact ⟨a, b, leftType, rightType, numbers.1, numbers.2, rfl⟩
    next => cases typed
  next => cases typed

theorem comparison_ok {op : Sql.BinaryOp} {whole : Expr} {l r t : Typed}
    (typed : comparison op whole l r = .ok t) :
    (∀ a b, l.type = some a → r.type = some b → a.comparable b = true) ∧
      t = truth (.binary l.term op r.term) := by
  rw [comparison] at typed
  split at typed
  next a b leftType rightType =>
    split at typed
    next => cases typed
    next agree =>
      split at typed
      next => cases typed
      next =>
        cases typed
        refine ⟨?_, rfl⟩
        intro a' b' leftSame rightSame
        rw [leftType] at leftSame
        rw [rightType] at rightSame
        cases leftSame
        cases rightSame
        simpa using agree
  next free =>
    cases typed
    exact ⟨fun a b leftSame rightSame => absurd rightSame (free a b leftSame), rfl⟩

theorem binary_ok {left right : Expr} {op : BinaryOp} {l r t : Typed}
    (typed : binary left op right l r = .ok t) :
    (∃ k, op.connective? = some k ∧ l.type = some .boolean ∧ r.type = some .boolean ∧
      t = truth (.junction k (chainTerms k l.term ++ chainTerms k r.term))) ∨
    (∃ o a b, op.arithmetic? = some o ∧ l.type = some a ∧ r.type = some b ∧
      a.isNumeric = true ∧ b.isNumeric = true ∧
      t = ⟨.binary l.term o r.term, some (arithmeticType o a b)⟩) ∨
    (∃ o, op.comparison? = some o ∧
      (∀ a b, l.type = some a → r.type = some b → a.comparable b = true) ∧
      t = truth (.binary l.term o r.term)) := by
  cases op with
  | and => exact .inl ⟨.and, rfl, connective_ok typed⟩
  | or => exact .inl ⟨.or, rfl, connective_ok typed⟩
  | add =>
      obtain ⟨a, b, found⟩ := arithmetic_ok typed
      exact .inr (.inl ⟨.add, a, b, rfl, found⟩)
  | sub =>
      obtain ⟨a, b, found⟩ := arithmetic_ok typed
      exact .inr (.inl ⟨.sub, a, b, rfl, found⟩)
  | mul =>
      obtain ⟨a, b, found⟩ := arithmetic_ok typed
      exact .inr (.inl ⟨.mul, a, b, rfl, found⟩)
  | div =>
      obtain ⟨a, b, found⟩ := arithmetic_ok typed
      exact .inr (.inl ⟨.div, a, b, rfl, found⟩)
  | eq => exact .inr (.inr ⟨.eq, rfl, comparison_ok typed⟩)
  | ne => exact .inr (.inr ⟨.ne, rfl, comparison_ok typed⟩)
  | lt => exact .inr (.inr ⟨.lt, rfl, comparison_ok typed⟩)
  | le => exact .inr (.inr ⟨.le, rfl, comparison_ok typed⟩)
  | gt => exact .inr (.inr ⟨.gt, rfl, comparison_ok typed⟩)
  | ge => exact .inr (.inr ⟨.ge, rfl, comparison_ok typed⟩)

theorem check_aggregate_ok {clause : Clause} {whole : Expr} {args : List Expr}
    (checked : checkAggregate clause whole args = .ok ()) :
    clause.allowsAggregates = true ∧ args = [] := by
  rw [checkAggregate] at checked
  split at checked
  · cases checked
  · split at checked
    · cases checked
    · cases args <;> simp_all

theorem aggregate_ok {whole : Expr} {a : Aggregate} {subject t : Typed}
    (typed : aggregate whole a subject = .ok t) :
    subject.term.hasAggregate = false ∧ ∃ type, aggregateType? a subject.type = some type ∧
      t = ⟨aggregateTerm a subject.term, some type⟩ := by
  rw [aggregate] at typed
  split at typed
  · cases typed
  next flat =>
    split at typed
    next type known =>
      cases typed
      exact ⟨by simpa using flat, type, known, rfl⟩
    next => cases typed

theorem unary_ok {op : UnaryOp} {operand : Expr} {t t' : Typed}
    (typed : unary op operand t = .ok t') :
    (op = .not ∧ t.type = some .boolean ∧ t' = ⟨.unary .not t.term, t.type⟩) ∨
      (op = .neg ∧ t.hasType FieldType.isNumeric = true ∧ t' = ⟨.unary .neg t.term, t.type⟩) := by
  cases op with
  | not =>
      by_cases truth : t.type = some .boolean
      · simp only [unary, if_pos truth, Except.ok.injEq] at typed
        exact .inl ⟨rfl, truth, typed.symm⟩
      · simp only [unary, if_neg truth, reduceCtorEq] at typed
  | neg =>
      by_cases number : t.hasType FieldType.isNumeric = true
      · simp only [unary, if_pos number, Except.ok.injEq] at typed
        exact .inr ⟨rfl, number, typed.symm⟩
      · simp only [unary, if_neg number, reduceCtorEq] at typed

theorem pattern_ok {whole arg : Expr} {p : PatternMethod} {subject t : Typed}
    (typed : pattern whole p subject arg = .ok t) :
    subject.hasType FieldType.isText = true ∧ ∃ text, arg = .constant (.text text) ∧
      t = truth (.binary subject.term .like (.literal (Literal.quote (patternText p text)))) := by
  unfold pattern at typed
  split at typed
  next isText =>
    split at typed
    next text =>
      cases typed
      exact ⟨isText, text, rfl, rfl⟩
    next => cases typed
  next => cases typed

theorem membership_ok {whole : Expr} {negated : Bool} {subject t : Typed} {items : List Value}
    (typed : membership whole negated subject items = .ok t) :
    checkItems whole items subject.type = .ok () ∧
      ∃ text, Literal.enumeration subject.type items = .ok text ∧
        t = truth (.binary subject.term (if negated then .notIn else .isIn) (.literal text)) := by
  obtain ⟨⟨⟩, checked, rest⟩ := bind_ok.mp typed
  split at rest
  next text written =>
    cases rest
    exact ⟨checked, text, written, rfl⟩
  next => cases rest
  next => cases rest

theorem text_function_ok {whole : Expr} {f : TextFunction} {subject t : Typed}
    (typed : textFunction whole f subject = .ok t) :
    subject.hasType FieldType.isText = true ∧
      t = ⟨.function (textFunctionName f) false [subject.term], some (textFunctionType f)⟩ := by
  rw [textFunction] at typed
  split at typed
  next isText =>
    cases typed
    exact ⟨isText, rfl⟩
  next => cases typed

theorem date_part_ok {whole : Expr} {p : DatePart} {subject t : Typed}
    (typed : datePart whole p subject = .ok t) :
    subject.hasType FieldType.isTemporal = true ∧
      t = ⟨.function (datePartName p) false [subject.term], some .integer⟩ := by
  rw [datePart] at typed
  split at typed
  next isTemporal =>
    cases typed
    exact ⟨isTemporal, rfl⟩
  next => cases typed

theorem free_ok {clause : Clause} {method : Method} {args : List Expr} {t : Typed}
    (typed : free clause method args = .ok t) :
    clause.allowsAggregates = true ∧ method = .aggregate .count ∧ args = [] ∧
      t = ⟨aggregateTerm .count (.literal "*"), some .integer⟩ := by
  cases method with
  | aggregate a =>
      obtain ⟨⟨⟩, checked, rest⟩ := bind_ok.mp typed
      obtain ⟨allowed, rfl⟩ := check_aggregate_ok checked
      cases a with
      | count =>
          cases rest
          exact ⟨allowed, rfl, rfl, rfl⟩
      | _ => cases rest
  | _ => cases typed

end Typed

end WikiQuery
