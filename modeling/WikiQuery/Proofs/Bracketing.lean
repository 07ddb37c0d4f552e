import WikiQuery.Proofs.ClassSoundness
import WikiQuery.Proofs.Clauses

/- Bracketing of connectives. However a list of operands is bracketed, they are lowered from left to
   right, each in the scope that the ones before it have left, and their terms make one chain. A
   constant that waits for its neighbour changes nothing: against a truth value it is written as it
   is written on its own. The conditions of a join are found in the same way. -/
set_option autoImplicit false

namespace WikiQuery

def Connective.op : Connective → BinaryOp
  | .and => .and
  | .or => .or

inductive Bracketing where
  | operand (e : Expr)
  | pair (left right : Bracketing)

namespace Bracketing

def operands : Bracketing → List Expr
  | .operand e => [e]
  | .pair left right => left.operands ++ right.operands

def expr (op : BinaryOp) : Bracketing → Expr
  | .operand e => e
  | .pair left right => .binary (left.expr op) op (right.expr op)

end Bracketing

namespace Scoped

variable {α β : Type} {f : α → Scoped β} {s s' : Scope} {values : List β}

theorem map_m_cons_ends {a : α} {rest : List α} :
    ((a :: rest).mapM f).outcome s = (.ok values, s') ↔
      ∃ b m others, (f a).outcome s = (.ok b, m) ∧ (rest.mapM f).outcome m = (.ok others, s') ∧
        values = b :: others := by
  simp only [List.mapM_cons, Steps.bind_ends, Steps.pure_ends]
  constructor
  · rintro ⟨b, m, first, others, m', second, rfl, rfl⟩
    exact ⟨b, m, others, first, second, rfl⟩
  · rintro ⟨b, m, others, first, second, rfl⟩
    exact ⟨b, m, first, others, s', second, rfl, rfl⟩

theorem map_m_append_ends {first second : List α} :
    ((first ++ second).mapM f).outcome s = (.ok values, s') ↔
      ∃ bs m others, (first.mapM f).outcome s = (.ok bs, m) ∧
        (second.mapM f).outcome m = (.ok others, s') ∧ values = bs ++ others := by
  simp only [List.mapM_append, Steps.bind_ends, Steps.pure_ends]
  constructor
  · rintro ⟨bs, m, firstEnds, others, m', secondEnds, rfl, rfl⟩
    exact ⟨bs, m, others, firstEnds, secondEnds, rfl⟩
  · rintro ⟨bs, m, others, firstEnds, secondEnds, rfl⟩
    exact ⟨bs, m, firstEnds, others, s', secondEnds, rfl, rfl⟩

end Scoped

namespace Typed

theorem chain_terms_same (k : Connective) (ts : List Sql.Term) :
    chainTerms k (.junction k ts) = ts := if_pos rfl

def bool (b : Bool) : Typed := truth (.literal (if b then "TRUE" else "FALSE"))

theorem constant_bool (e : Expr) (b : Bool) {hint : Option FieldType}
    (agrees : hint = none ∨ hint = some .boolean) : constant e (.bool b) hint = .ok (bool b) := by
  rcases agrees with rfl | rfl <;> rfl

theorem bool_of_constant {e : Expr} {value : Value} {hint : Option FieldType} {t : Typed}
    (single : value.isList = false ∨ hint = none) (written : constant e value hint = .ok t)
    (isTruth : t.type = some .boolean) : ∃ b, value = .bool b ∧ t = bool b := by
  obtain ⟨fits, text, ok, rfl⟩ := constant_ok written
  have fitting := fits_constant_type isTruth fits
  cases value with
  | bool b =>
      cases ok
      exact ⟨b, rfl, congrArg (Typed.mk _) isTruth⟩
  | null => cases isTruth
  | list items =>
      rcases single with single | rfl
      · cases single
      · cases isTruth
  | _ => cases fitting

end Typed

namespace Lowers

variable {c : Catalog} {clause : Clause} {s m s' : Scope} {l r t : Typed}

theorem constant_ends {value : Value} (lowers : Lowers c clause (.constant value) s t s') :
    Typed.constant (.constant value) value none = .ok t ∧ s' = s := by
  cases lowers with
  | constant written => exact ⟨written, rfl⟩

theorem bool (b : Bool) : Lowers c clause (.constant (.bool b)) s (.bool b) s :=
  .constant (Typed.constant_bool _ b (.inl rfl))

theorem connective_operands {k : Connective} {left right : Expr}
    (lowers : Lowers c clause (.binary left k.op right) s t s') :
    ∃ l m r, Lowers c clause left s l m ∧ l.type = some .boolean ∧
      Lowers c clause right m r s' ∧ r.type = some .boolean ∧
      t = .truth (.junction k (Typed.chainTerms k l.term ++ Typed.chainTerms k r.term)) := by
  generalize whole : Expr.binary left k.op right = e at lowers
  have operands : ∀ {l r : Typed}, Typed.binary left k.op right l r = .ok t →
      l.type = some .boolean ∧ r.type = some .boolean ∧
        t = .truth (.junction k (Typed.chainTerms k l.term ++ Typed.chainTerms k r.term)) := by
    intro l r typed
    cases k <;> exact Typed.connective_ok typed
  cases lowers with
  | nullRight _ equality =>
      cases whole
      cases k <;> cases equality
  | nullLeft _ equality =>
      cases whole
      cases k <;> cases equality
  | constantLeft checked _ other written typed =>
      cases whole
      obtain ⟨leftTruth, rightTruth, rfl⟩ := operands typed
      have single := Typed.is_list_of_single (Expr.check_operands_single checked).1
      obtain ⟨b, rfl, rfl⟩ := Typed.bool_of_constant (.inl single) written leftTruth
      exact ⟨_, _, _, .bool b, rfl, other, rightTruth, rfl⟩
  | constantRight checked _ _ other written typed =>
      cases whole
      obtain ⟨leftTruth, rightTruth, rfl⟩ := operands typed
      have single := Typed.is_list_of_single (Expr.check_operands_single checked).2
      obtain ⟨b, rfl, rfl⟩ := Typed.bool_of_constant (.inl single) written rightTruth
      exact ⟨_, _, _, other, leftTruth, .bool b, rfl, rfl⟩
  | binary _ _ first second typed =>
      cases whole
      obtain ⟨leftTruth, rightTruth, rfl⟩ := operands typed
      exact ⟨_, _, _, first, leftTruth, second, rightTruth, rfl⟩
  | _ => cases whole

theorem single_of_typed {e : Expr} {type : FieldType} (lowers : Lowers c clause e s t s')
    (isType : t.type = some type) : e.listConstant? = none := by
  cases isList : e.listConstant? with
  | none => rfl
  | some items =>
      obtain rfl := Expr.constant_of_list_constant? isList
      obtain ⟨written, _⟩ := lowers.constant_ends
      obtain ⟨_, text, _, rfl⟩ := Typed.constant_ok written
      cases isType

end Lowers

theorem Typed.check_operands_connective {k : Connective} {left right : Expr}
    (leftSingle : left.listConstant? = none) (rightSingle : right.listConstant? = none) :
    checkOperands left k.op right = .ok () := by
  rw [checkOperands, leftSingle, rightSingle]
  cases k <;> rfl

theorem Expr.null_side?_connective (k : Connective) (left right : Expr) :
    nullSide? left k.op right = none := by
  cases k <;> rfl

theorem Typed.binary_connective {k : Connective} (left right : Expr) {l r : Typed}
    (leftTruth : l.type = some .boolean) (rightTruth : r.type = some .boolean) :
    binary left k.op right l r =
      .ok (truth (.junction k (chainTerms k l.term ++ chainTerms k r.term))) := by
  cases k <;> simp [Connective.op, binary, connective, leftTruth, rightTruth]

theorem Lowers.connective {c : Catalog} {clause : Clause} {s m s' : Scope} {l r : Typed}
    (k : Connective) {left right : Expr} (first : Lowers c clause left s l m)
    (leftTruth : l.type = some .boolean) (second : Lowers c clause right m r s')
    (rightTruth : r.type = some .boolean) :
    Lowers c clause (.binary left k.op right) s
      (.truth (.junction k (Typed.chainTerms k l.term ++ Typed.chainTerms k r.term))) s' := by
  have checked := Typed.check_operands_connective (k := k) (first.single_of_typed leftTruth)
    (second.single_of_typed rightTruth)
  have noNull := Expr.null_side?_connective k left right
  have typed := Typed.binary_connective (k := k) left right leftTruth rightTruth
  cases isLeft : left.constant? with
  | some value =>
      obtain rfl := Expr.constant_of_constant? isLeft
      obtain ⟨written, rfl⟩ := first.constant_ends
      obtain ⟨b, rfl, rfl⟩ := Typed.bool_of_constant (.inr rfl) written leftTruth
      exact .constantLeft checked noNull second (Typed.constant_bool _ b (.inr rightTruth)) typed
  | none =>
      cases isRight : right.constant? with
      | some value =>
          obtain rfl := Expr.constant_of_constant? isRight
          obtain ⟨written, rfl⟩ := second.constant_ends
          obtain ⟨b, rfl, rfl⟩ := Typed.bool_of_constant (.inr rfl) written rightTruth
          exact .constantRight checked noNull isLeft first
            (Typed.constant_bool _ b (.inr leftTruth)) typed
      | none => exact .binary isLeft isRight first second typed

namespace Expr

variable {c : Catalog} {clause : Clause} {s s' : Scope}

theorem lower_predicate_iff {e : Expr} {term : Sql.Term} :
    (e.lowerPredicate c clause).outcome s = (.ok term, s') ↔
      ∃ t, Lowers c clause e s t s' ∧ t.type = some .boolean ∧ term = t.term := by
  refine ⟨lower_predicate_ends, ?_⟩
  rintro ⟨t, lowers, isTruth, rfl⟩
  refine Steps.bind_ends.mpr ⟨t, s', lowers.ends, ?_⟩
  rw [if_pos isTruth]
  rfl

theorem lower_connective {k : Connective} {left right : Expr} {t : Typed} :
    ((Expr.binary left k.op right).lower c clause).outcome s = (.ok t, s') ↔
      ∃ l m r, (left.lowerPredicate c clause).outcome s = (.ok l, m) ∧
        (right.lowerPredicate c clause).outcome m = (.ok r, s') ∧
        t = .truth (.junction k (Typed.chainTerms k l ++ Typed.chainTerms k r)) := by
  constructor
  · intro ends
    obtain ⟨l, m, r, first, leftTruth, second, rightTruth, same⟩ :=
      (lower_ends.mp ends).connective_operands
    exact ⟨l.term, m, r.term, lower_predicate_iff.mpr ⟨l, first, leftTruth, rfl⟩,
      lower_predicate_iff.mpr ⟨r, second, rightTruth, rfl⟩, same⟩
  · rintro ⟨_, m, _, leftEnds, rightEnds, rfl⟩
    obtain ⟨l, first, leftTruth, rfl⟩ := lower_predicate_ends leftEnds
    obtain ⟨r, second, rightTruth, rfl⟩ := lower_predicate_ends rightEnds
    exact (Lowers.connective k first leftTruth second rightTruth).ends

theorem lower_predicate_connective {k : Connective} {left right : Expr} {term : Sql.Term} :
    ((Expr.binary left k.op right).lowerPredicate c clause).outcome s = (.ok term, s') ↔
      ∃ l m r, (left.lowerPredicate c clause).outcome s = (.ok l, m) ∧
        (right.lowerPredicate c clause).outcome m = (.ok r, s') ∧
        term = .junction k (Typed.chainTerms k l ++ Typed.chainTerms k r) := by
  constructor
  · intro ends
    obtain ⟨t, lowers, _, rfl⟩ := lower_predicate_ends ends
    obtain ⟨l, m, r, leftEnds, rightEnds, rfl⟩ := lower_connective.mp lowers.ends
    exact ⟨l, m, r, leftEnds, rightEnds, rfl⟩
  · rintro ⟨l, m, r, leftEnds, rightEnds, rfl⟩
    have ends := (lower_connective (k := k)).mpr ⟨l, m, r, leftEnds, rightEnds, rfl⟩
    exact lower_predicate_iff.mpr ⟨_, lower_ends.mp ends, rfl, rfl⟩

end Expr

namespace Bracketing

variable {c : Catalog} {clause : Clause}

/-- What the bracketed operands bring into a chain is what they bring into it one by one, lowered
from left to right. -/
def InTurn (c : Catalog) (clause : Clause) (k : Connective) (b : Bracketing) : Prop :=
  ∀ ⦃s s' : Scope⦄ ⦃terms : List Sql.Term⦄,
    (∃ p, ((b.expr k.op).lowerPredicate c clause).outcome s = (.ok p, s') ∧
        Typed.chainTerms k p = terms) ↔
      ∃ ps, (b.operands.mapM (Expr.lowerPredicate c clause)).outcome s = (.ok ps, s') ∧
        ps.flatMap (Typed.chainTerms k) = terms

theorem operand_in_turn (k : Connective) (e : Expr) : (operand e).InTurn c clause k := by
  intro s s' terms
  constructor
  · rintro ⟨p, ends, rfl⟩
    exact ⟨[p], Scoped.map_m_cons_ends.mpr ⟨p, s', [], ends, rfl, rfl⟩, List.flatMap_singleton ..⟩
  · rintro ⟨ps, ends, rfl⟩
    obtain ⟨p, m, others, first, rest, rfl⟩ := Scoped.map_m_cons_ends.mp ends
    obtain ⟨rfl, rfl⟩ := Steps.pure_ends.mp rest
    exact ⟨p, first, (List.flatMap_singleton ..).symm⟩

theorem pair_chain {k : Connective} {left right : Bracketing} (leftTurn : left.InTurn c clause k)
    (rightTurn : right.InTurn c clause k) {s s' : Scope} {terms : List Sql.Term} :
    (∃ l m r, ((left.expr k.op).lowerPredicate c clause).outcome s = (.ok l, m) ∧
        ((right.expr k.op).lowerPredicate c clause).outcome m = (.ok r, s') ∧
        Typed.chainTerms k l ++ Typed.chainTerms k r = terms) ↔
      ∃ ps, ((left.pair right).operands.mapM (Expr.lowerPredicate c clause)).outcome s =
          (.ok ps, s') ∧ ps.flatMap (Typed.chainTerms k) = terms := by
  constructor
  · rintro ⟨l, m, r, leftEnds, rightEnds, rfl⟩
    obtain ⟨ls, first, leftChain⟩ := leftTurn.mp ⟨l, leftEnds, rfl⟩
    obtain ⟨rs, second, rightChain⟩ := rightTurn.mp ⟨r, rightEnds, rfl⟩
    refine ⟨ls ++ rs, Scoped.map_m_append_ends.mpr ⟨ls, m, rs, first, second, rfl⟩, ?_⟩
    rw [List.flatMap_append, leftChain, rightChain]
  · rintro ⟨ps, ends, rfl⟩
    obtain ⟨ls, m, rs, first, second, rfl⟩ := Scoped.map_m_append_ends.mp ends
    obtain ⟨l, leftEnds, leftChain⟩ := leftTurn.mpr ⟨ls, first, rfl⟩
    obtain ⟨r, rightEnds, rightChain⟩ := rightTurn.mpr ⟨rs, second, rfl⟩
    exact ⟨l, m, r, leftEnds, rightEnds, by rw [List.flatMap_append, leftChain, rightChain]⟩

theorem in_turn (k : Connective) (b : Bracketing) : b.InTurn c clause k := by
  induction b with
  | operand e => exact operand_in_turn k e
  | pair left right leftIh rightIh =>
      intro s s' terms
      rw [← pair_chain leftIh rightIh]
      constructor
      · rintro ⟨p, ends, rfl⟩
        obtain ⟨l, m, r, leftEnds, rightEnds, rfl⟩ := Expr.lower_predicate_connective.mp ends
        exact ⟨l, m, r, leftEnds, rightEnds, (Typed.chain_terms_same k _).symm⟩
      · rintro ⟨l, m, r, leftEnds, rightEnds, rfl⟩
        exact ⟨_, Expr.lower_predicate_connective.mpr ⟨l, m, r, leftEnds, rightEnds, rfl⟩,
          Typed.chain_terms_same k _⟩

theorem lower_ends (k : Connective) {b : Bracketing} (several : 2 ≤ b.operands.length)
    {s s' : Scope} {t : Typed} :
    ((b.expr k.op).lower c clause).outcome s = (.ok t, s') ↔
      ∃ ps, (b.operands.mapM (Expr.lowerPredicate c clause)).outcome s = (.ok ps, s') ∧
        t = .truth (.junction k (ps.flatMap (Typed.chainTerms k))) := by
  cases b with
  | operand e => simp [operands] at several
  | pair left right =>
      rw [expr, Expr.lower_connective]
      constructor
      · rintro ⟨l, m, r, leftEnds, rightEnds, rfl⟩
        obtain ⟨ps, ends, chain⟩ :=
          (pair_chain (in_turn k left) (in_turn k right)).mp ⟨l, m, r, leftEnds, rightEnds, rfl⟩
        exact ⟨ps, ends, by rw [chain]⟩
      · rintro ⟨ps, ends, rfl⟩
        obtain ⟨l, m, r, leftEnds, rightEnds, chain⟩ :=
          (pair_chain (in_turn k left) (in_turn k right)).mpr ⟨ps, ends, rfl⟩
        exact ⟨l, m, r, leftEnds, rightEnds, by rw [chain]⟩

end Bracketing

def Sql.Term.Unchained (t : Sql.Term) : Prop :=
  ∀ k, ∀ u ∈ Typed.chainTerms k t, ∀ ts, u ≠ .junction k ts

namespace Sql.Term

theorem unchained_plain {t : Term} (plain : ∀ k ts, t ≠ .junction k ts) : t.Unchained := by
  intro k
  rcases Typed.chain_terms_cases k t with ⟨ts, rfl, _⟩ | single
  · exact absurd rfl (plain k ts)
  · rw [single, List.forall_mem_singleton]
    exact plain k

theorem unchained_junction {k : Connective} {l r : Term} (left : l.Unchained)
    (right : r.Unchained) :
    Unchained (.junction k (Typed.chainTerms k l ++ Typed.chainTerms k r)) := by
  intro d
  by_cases same : k = d
  · subst same
    rw [Typed.chain_terms_same, List.forall_mem_append]
    exact ⟨left k, right k⟩
  · rw [Typed.chainTerms, if_neg same, List.forall_mem_singleton]
    intro ts equal
    cases equal
    exact same rfl

end Sql.Term

open Sql.Term

theorem Typed.constant_unchained {e : Expr} {value : Value} {hint : Option FieldType} {t : Typed}
    (written : constant e value hint = .ok t) : t.term.Unchained := by
  obtain ⟨_, text, _, rfl⟩ := constant_ok written
  exact unchained_plain (by simp)

theorem Typed.binary_unchained {left right : Expr} {op : BinaryOp} {l r t : Typed}
    (typed : binary left op right l r = .ok t) (leftUnchained : l.term.Unchained)
    (rightUnchained : r.term.Unchained) : t.term.Unchained := by
  rcases binary_ok typed with ⟨k, _, _, _, rfl⟩ | ⟨o, a, b, _, _, _, _, _, rfl⟩ | ⟨o, _, _, rfl⟩
  · exact unchained_junction leftUnchained rightUnchained
  · exact unchained_plain (by simp)
  · exact unchained_plain (by simp [truth])

theorem Lowers.unchained {c : Catalog} {clause : Clause} {e : Expr} {s s' : Scope} {t : Typed}
    (lowers : Lowers c clause e s t s') : t.term.Unchained := by
  induction lowers with
  | constant written => exact Typed.constant_unchained written
  | @nullRight _ op => exact unchained_plain (by cases op <;> simp [Typed.nullTest, Typed.truth])
  | @nullLeft op => exact unchained_plain (by cases op <;> simp [Typed.nullTest, Typed.truth])
  | constantLeft _ _ _ written typed ih =>
      exact Typed.binary_unchained typed (Typed.constant_unchained written) ih
  | constantRight _ _ _ _ written typed ih =>
      exact Typed.binary_unchained typed ih (Typed.constant_unchained written)
  | binary _ _ _ _ typed first second => exact Typed.binary_unchained typed first second
  | _ => exact unchained_plain (by intro k ts same; cases same)

namespace Expr

variable {c : Catalog} {clause : Clause}

def conjuncts : Expr → List Expr
  | .binary left .and right => conjuncts left ++ conjuncts right
  | e => [e]

theorem lower_join_eq (e : Expr) : e.lowerJoin c clause = (do
    let groups ← e.conjuncts.mapM (lowerJoin c clause)
    pure groups.flatten) := by
  fun_induction conjuncts e with
  | case1 left right leftIh rightIh =>
      rw [lowerJoin, leftIh, rightIh]
      simp [List.mapM_append]
  | case2 e noAnd => simp

def OneJoin (c : Catalog) (clause : Clause) (e : Expr) : Prop :=
  ∀ ⦃s s' : Scope⦄ ⦃joins : List Join⦄,
    (e.lowerJoin c clause).outcome s = (.ok joins, s') → ∃ j, joins = [j]

theorem conjuncts_one_join (e : Expr) : ∀ leaf ∈ e.conjuncts, leaf.OneJoin c clause := by
  fun_induction conjuncts e with
  | case1 left right leftIh rightIh => exact List.forall_mem_append.mpr ⟨leftIh, rightIh⟩
  | case2 e noAnd =>
      rw [List.forall_mem_singleton]
      intro s s' joins ends
      unfold lowerJoin at ends
      split at ends
      next => exact absurd rfl (noAnd _ _)
      next =>
        obtain ⟨l, m, _, rest⟩ := Steps.bind_ends.mp ends
        obtain ⟨r, m', _, rest⟩ := Steps.bind_ends.mp rest
        exact ⟨_, equal_join_ok (Steps.of_except_ends.mp rest).1⟩
      next =>
        obtain ⟨l, m, _, rest⟩ := Steps.bind_ends.mp ends
        obtain ⟨r, m', _, rest⟩ := Steps.bind_ends.mp rest
        exact ⟨_, holds_join_ok (Steps.of_except_ends.mp rest).1⟩
      next => exact absurd ends Steps.throw_ends

theorem map_m_one_join {leaves : List Expr} (single : ∀ leaf ∈ leaves, leaf.OneJoin c clause)
    {s s' : Scope} {groups : List (List Join)}
    (ends : (leaves.mapM (lowerJoin c clause)).outcome s = (.ok groups, s')) :
    ∃ joins : List Join, groups = joins.map fun j => [j] := by
  induction leaves generalizing s groups with
  | nil =>
      obtain ⟨rfl, rfl⟩ := Steps.pure_ends.mp ends
      exact ⟨[], rfl⟩
  | cons leaf rest ih =>
      obtain ⟨first, m, others, firstEnds, restEnds, rfl⟩ := Scoped.map_m_cons_ends.mp ends
      obtain ⟨j, rfl⟩ := single leaf List.mem_cons_self firstEnds
      obtain ⟨joins, rfl⟩ := ih (fun leaf member => single leaf (.tail _ member)) restEnds
      exact ⟨j :: joins, rfl⟩

theorem lower_join_in_turn {e : Expr} {s s' : Scope} {joins : List Join} :
    (e.lowerJoin c clause).outcome s = (.ok joins, s') ↔
      (e.conjuncts.mapM (lowerJoin c clause)).outcome s =
        (.ok (joins.map fun j => [j]), s') := by
  rw [lower_join_eq, Steps.bind_ends]
  constructor
  · rintro ⟨groups, m, ends, rest⟩
    obtain ⟨rfl, rfl⟩ := Steps.pure_ends.mp rest
    obtain ⟨joins, rfl⟩ := map_m_one_join (conjuncts_one_join e) ends
    rw [ends, ← List.flatMap_def, List.flatMap_singleton']
  · intro ends
    refine ⟨_, _, ends, Steps.pure_ends.mpr ⟨?_, rfl⟩⟩
    rw [← List.flatMap_def, List.flatMap_singleton']

end Expr

theorem Bracketing.conjuncts_expr (b : Bracketing) :
    (b.expr .and).conjuncts = b.operands.flatMap Expr.conjuncts := by
  induction b with
  | operand e => exact (List.flatMap_singleton ..).symm
  | pair left right leftIh rightIh =>
      rw [expr, Expr.conjuncts, leftIh, rightIh, operands, List.flatMap_append]

/-- Two bracketings of the same operands with a connective are accepted alike, as the same term and
with the same tables: one chain of the connective, of two terms or more, which holds what the
operands bring into it in their order and no chain of the same connective. Two bracketings of the
same join conditions with `and` are the same joins, one for each condition, from left to right. -/
theorem bracketing_irrelevant (c : Catalog) (clause : Clause) (s : Scope) (b b' : Bracketing)
    (same : b.operands = b'.operands) :
    (∀ k : Connective, 2 ≤ b.operands.length → ∀ (t : Typed) (s' : Scope),
      (((b.expr k.op).lower c clause).commit s = .ok (t, s') ↔
        ((b'.expr k.op).lower c clause).commit s = .ok (t, s')) ∧
      (((b.expr k.op).lower c clause).commit s = .ok (t, s') → ∃ ps terms,
        (b.operands.mapM (Expr.lowerPredicate c clause)).commit s = .ok (ps, s') ∧
        terms = ps.flatMap (Typed.chainTerms k) ∧ t = .truth (.junction k terms) ∧
        2 ≤ terms.length ∧ ∀ u ∈ terms, ∀ us, u ≠ .junction k us)) ∧
    ((b.expr .and).lowerJoin c clause).commit s = ((b'.expr .and).lowerJoin c clause).commit s ∧
    ∀ (joins : List Join) (s' : Scope),
      ((b.expr .and).lowerJoin c clause).commit s = .ok (joins, s') ↔
        ((b.operands.flatMap Expr.conjuncts).mapM (Expr.lowerJoin c clause)).commit s =
          .ok (joins.map fun j => [j], s') := by
  refine ⟨?_, ?_, ?_⟩
  · intro k several t s'
    have several' : 2 ≤ b'.operands.length := same ▸ several
    simp only [Steps.commit_ok]
    refine ⟨?_, ?_⟩
    · rw [Bracketing.lower_ends k several, Bracketing.lower_ends k several', same]
    · intro ends
      have lowers := Expr.lower_ends.mp ends
      obtain ⟨ps, inTurn, rfl⟩ := (Bracketing.lower_ends k several).mp ends
      have unchained := lowers.unchained k
      rw [Typed.truth, Typed.chain_terms_same] at unchained
      exact ⟨ps, _, inTurn, rfl, rfl, lowers.formed.1, unchained⟩
  · rw [Expr.lower_join_eq, Expr.lower_join_eq (b'.expr .and), b.conjuncts_expr, b'.conjuncts_expr,
      same]
  · intro joins s'
    rw [Steps.commit_ok, Steps.commit_ok, Expr.lower_join_in_turn, b.conjuncts_expr]

namespace Sample

def toTheRight : Bracketing :=
  .pair (.operand (.constant (.bool true)))
    (.pair (.operand (writtenBy "O'Hara")) (.operand (titled "A" "B")))

def toTheLeft : Bracketing :=
  .pair (.pair (.operand (.constant (.bool true))) (.operand (writtenBy "O'Hara")))
    (.operand (titled "A" "B"))

def chained : List Sql.Term :=
  [.literal "TRUE", .binary (.column ⟨"T2", "name", .string⟩) .eq (.literal "'O''Hara'"),
    .binary (.column ⟨"T1", "title", .string⟩) .like (.literal "'A%'"),
    .binary (.column ⟨"T1", "title", .string⟩) .isIn (.literal "('B','A')")]

end Sample

theorem author_or_title_bracketed :
    Sample.toTheRight.operands = Sample.toTheLeft.operands ∧ 2 ≤ Sample.toTheRight.operands.length ∧
      ((Sample.toTheRight.expr .or).lower Sample.catalog .condition).commit Sample.start.scope =
        .ok (.truth (.junction .or Sample.chained), Sample.pagesAndAuthors) ∧
      ((Sample.toTheLeft.expr .or).lower Sample.catalog .condition).commit Sample.start.scope =
        .ok (.truth (.junction .or Sample.chained), Sample.pagesAndAuthors) := by
  have same : Sample.toTheRight.operands = Sample.toTheLeft.operands := rfl
  have several : 2 ≤ Sample.toTheRight.operands.length := by decide
  have lowered : ((Sample.toTheRight.expr .or).lower Sample.catalog .condition).commit
      Sample.start.scope =
        .ok (.truth (.junction .or Sample.chained), Sample.pagesAndAuthors) := rfl
  obtain ⟨connected, _⟩ :=
    bracketing_irrelevant Sample.catalog .condition Sample.start.scope _ _ same
  exact ⟨same, several, lowered, ((connected .or several _ _).1).mp lowered⟩

end WikiQuery
