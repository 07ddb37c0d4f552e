import WikiQuery.Proofs.Classes
import WikiQuery.Proofs.Commutation

/- Where aggregates stand. A clause is asked about only at an aggregate call, and no part of an
   expression is lost on the way to its term; so a term without aggregates is the same in every
   clause, and the clauses that take none accept exactly these terms. No aggregate stands inside
   another. -/
set_option autoImplicit false

namespace WikiQuery

namespace Sql.Term

def isAggregateCall : Term → Bool
  | .function name _ _ => name ∈ ["COUNT", "SUM", "AVG", "MIN", "MAX"]
  | _ => false

def innerNodes (t : Term) : List Term := t.nodes.tail

def AggregateFree (t : Term) : Prop := ∀ node ∈ t.nodes, node.isAggregateCall = false

def Unnested (t : Term) : Prop :=
  ∀ call ∈ t.nodes, call.isAggregateCall = true →
    ∀ inner ∈ call.innerNodes, inner.isAggregateCall = false

theorem nodes_eq (t : Term) : t.nodes = t :: t.innerNodes := by
  cases t <;> rfl

theorem is_aggregate_call_function (name : String) (distinct : Bool) (args : List Term) :
    isAggregateCall (.function name distinct args) = isAggregateName name := by
  simp [isAggregateCall, isAggregateName, Bool.beq_eq_decide_eq, Bool.or_assoc]

mutual
theorem has_aggregate_eq : ∀ (t : Term), t.hasAggregate = t.nodes.any isAggregateCall
  | .source _ => rfl
  | .column _ => rfl
  | .binary l op r => by
      rw [hasAggregate, nodes, List.any_cons, List.any_append, has_aggregate_eq l,
        has_aggregate_eq r]
      rfl
  | .unary _ t => by
      rw [hasAggregate, nodes, List.any_cons, has_aggregate_eq t]
      rfl
  | .literal _ => rfl
  | .function name distinct args => by
      rw [hasAggregate, nodes, List.any_cons, is_aggregate_call_function, any_aggregate_nodes args]
  | .junction _ ts => by
      rw [hasAggregate, nodes, List.any_cons, any_aggregate_nodes ts]
      rfl
  | .ordering t _ => by
      rw [hasAggregate, nodes, List.any_cons, has_aggregate_eq t]
      rfl

theorem any_aggregate_nodes : ∀ (ts : List Term),
    anyAggregate ts = (allNodes ts).any isAggregateCall
  | [] => rfl
  | t :: ts => by
      rw [anyAggregate, allNodes, List.any_append, has_aggregate_eq t, any_aggregate_nodes ts]
end

theorem aggregate_free_iff {t : Term} : t.AggregateFree ↔ t.hasAggregate = false := by
  rw [has_aggregate_eq, List.any_eq_false]
  simp [AggregateFree]

theorem any_aggregate_append (ts us : List Term) :
    anyAggregate (ts ++ us) = (anyAggregate ts || anyAggregate us) := by
  rw [any_aggregate_eq, List.any_append, ← any_aggregate_eq, ← any_aggregate_eq]

theorem any_aggregate_chain (k : Connective) (t : Term) :
    anyAggregate (Typed.chainTerms k t) = t.hasAggregate := by
  rcases Typed.chain_terms_cases k t with ⟨ts, rfl, chain⟩ | single
  · rw [chain, hasAggregate]
  · simp [single, anyAggregate]

theorem has_aggregate_junction (k : Connective) (l r : Term) :
    hasAggregate (.junction k (Typed.chainTerms k l ++ Typed.chainTerms k r)) =
      (l.hasAggregate || r.hasAggregate) := by
  rw [hasAggregate, any_aggregate_append, any_aggregate_chain, any_aggregate_chain]

theorem unnested_of_inner {t : Term} (plain : t.isAggregateCall = false)
    (inner : ∀ call ∈ t.innerNodes, call.isAggregateCall = true →
      ∀ inner ∈ call.innerNodes, inner.isAggregateCall = false) : t.Unnested := by
  rw [Unnested, nodes_eq, List.forall_mem_cons]
  exact ⟨fun isCall => absurd isCall (by simp [plain]), inner⟩

theorem unnested_column (c : Column) : Unnested (.column c) :=
  unnested_of_inner rfl (by simp [innerNodes, nodes])

theorem unnested_literal (text : String) : Unnested (.literal text) :=
  unnested_of_inner rfl (by simp [innerNodes, nodes])

theorem unnested_binary {l r : Term} (op : BinaryOp) (left : l.Unnested) (right : r.Unnested) :
    Unnested (.binary l op r) :=
  unnested_of_inner rfl (List.forall_mem_append.mpr ⟨left, right⟩)

theorem unnested_unary (op : UnaryOp) {t : Term} (operand : t.Unnested) : Unnested (.unary op t) :=
  unnested_of_inner rfl operand

theorem unnested_junction {k : Connective} {ts : List Term} :
    Unnested (.junction k ts) ↔ ∀ t ∈ ts, t.Unnested := by
  constructor
  · intro unnested t member call inside
    refine unnested call ?_
    rw [nodes, all_nodes_eq]
    exact .tail _ (List.mem_flatMap.mpr ⟨t, member, inside⟩)
  · intro each
    refine unnested_of_inner rfl ?_
    rw [innerNodes, nodes, List.tail_cons, all_nodes_eq, List.forall_mem_flatMap]
    exact each

theorem unnested_function {name : String} (distinct : Bool) {arg : Term}
    (free : isAggregateName name = true → arg.AggregateFree) (unnested : arg.Unnested) :
    Unnested (.function name distinct [arg]) := by
  have inner : innerNodes (.function name distinct [arg]) = arg.nodes := by
    simp [innerNodes, nodes, allNodes]
  rw [Unnested, nodes_eq, List.forall_mem_cons, is_aggregate_call_function, inner]
  exact ⟨free, unnested⟩

theorem unnested_chain (k : Connective) {t : Term} (unnested : t.Unnested) :
    ∀ u ∈ Typed.chainTerms k t, u.Unnested := by
  rcases Typed.chain_terms_cases k t with ⟨ts, rfl, chain⟩ | single
  · rw [chain]
    exact unnested_junction.mp unnested
  · rw [single, List.forall_mem_singleton]
    exact unnested

end Sql.Term

open Sql.Term

namespace Typed

variable {left right : Expr} {op : BinaryOp} {l r t : Typed}

theorem constant_has_aggregate {e : Expr} {value : Value} {hint : Option FieldType}
    (written : constant e value hint = .ok t) : t.term.hasAggregate = false := by
  obtain ⟨_, text, _, rfl⟩ := constant_ok written
  rfl

theorem constant_unnested {e : Expr} {value : Value} {hint : Option FieldType}
    (written : constant e value hint = .ok t) : t.term.Unnested := by
  obtain ⟨_, text, _, rfl⟩ := constant_ok written
  exact unnested_literal text

theorem null_test_has_aggregate (op : BinaryOp) (t : Typed) :
    (t.nullTest op).term.hasAggregate = t.term.hasAggregate := by
  cases op <;> rfl

theorem null_test_unnested (op : BinaryOp) (unnested : t.term.Unnested) :
    (t.nullTest op).term.Unnested := by
  cases op <;> exact unnested_unary _ unnested

theorem binary_has_aggregate (typed : binary left op right l r = .ok t) :
    t.term.hasAggregate = (l.term.hasAggregate || r.term.hasAggregate) := by
  rcases binary_ok typed with ⟨k, _, _, _, rfl⟩ | ⟨o, a, b, _, _, _, _, _, rfl⟩ | ⟨o, _, _, rfl⟩
  · exact has_aggregate_junction k l.term r.term
  · rfl
  · rfl

theorem binary_unnested (typed : binary left op right l r = .ok t) (leftUnnested : l.term.Unnested)
    (rightUnnested : r.term.Unnested) : t.term.Unnested := by
  rcases binary_ok typed with ⟨k, _, _, _, rfl⟩ | ⟨o, a, b, _, _, _, _, _, rfl⟩ | ⟨o, _, _, rfl⟩
  · exact unnested_junction.mpr (List.forall_mem_append.mpr
      ⟨unnested_chain k leftUnnested, unnested_chain k rightUnnested⟩)
  · exact unnested_binary o leftUnnested rightUnnested
  · exact unnested_binary o leftUnnested rightUnnested

theorem aggregate_term_has_aggregate (a : Aggregate) (arg : Sql.Term) :
    (aggregateTerm a arg).hasAggregate = true := by
  cases a <;> rfl

theorem text_function_has_aggregate (f : TextFunction) (arg : Sql.Term) :
    hasAggregate (.function (textFunctionName f) false [arg]) = arg.hasAggregate := by
  cases f <;> simp [hasAggregate, anyAggregate, isAggregateName, textFunctionName]

theorem date_part_has_aggregate (p : DatePart) (arg : Sql.Term) :
    hasAggregate (.function (datePartName p) false [arg]) = arg.hasAggregate := by
  cases p <;> simp [hasAggregate, anyAggregate, isAggregateName, datePartName]

end Typed

namespace Lowers

variable {c : Catalog} {clause other : Clause} {e : Expr} {s s' : Scope} {t : Typed}

-- Only an aggregate asks for the clause it stands in.
theorem elsewhere (lowers : Lowers c clause e s t s') (free : t.term.hasAggregate = false) :
    Lowers c other e s t s' := by
  induction lowers with
  | member found => exact .member found
  | field found => exact .field found
  | constant written => exact .constant written
  | nullRight checked equality _ ih =>
      rw [Typed.null_test_has_aggregate] at free
      exact .nullRight checked equality (ih free)
  | nullLeft checked equality _ ih =>
      rw [Typed.null_test_has_aggregate] at free
      exact .nullLeft checked equality (ih free)
  | constantLeft checked noNull _ written typed ih =>
      rw [Typed.binary_has_aggregate typed, Bool.or_eq_false_iff] at free
      exact .constantLeft checked noNull (ih free.2) written typed
  | constantRight checked noNull varies _ written typed ih =>
      rw [Typed.binary_has_aggregate typed, Bool.or_eq_false_iff] at free
      exact .constantRight checked noNull varies (ih free.1) written typed
  | binary leftVaries rightVaries _ _ typed first second =>
      rw [Typed.binary_has_aggregate typed, Bool.or_eq_false_iff] at free
      exact .binary leftVaries rightVaries (first free.1) (second free.2) typed
  | not _ truth ih => exact .not (ih free) truth
  | neg _ number ih => exact .neg (ih free) number
  | aggregate => exact absurd free (by simp [Typed.aggregate_term_has_aggregate])
  | holdsConstant _ isList written ih =>
      exact .holdsConstant (ih (Bool.or_eq_false_iff.mp free).1) isList written
  | holds varies _ isList _ listIh needleIh =>
      obtain ⟨listFree, needleFree⟩ := Bool.or_eq_false_iff.mp free
      exact .holds varies (listIh listFree) isList (needleIh needleFree)
  | pattern _ isText ih => exact .pattern (ih (Bool.or_eq_false_iff.mp free).1) isText
  | membership _ checked written ih =>
      exact .membership (ih (Bool.or_eq_false_iff.mp free).1) checked written
  | textFunction _ isText ih =>
      rw [Typed.text_function_has_aggregate] at free
      exact .textFunction (ih free) isText
  | datePart _ isTemporal ih =>
      rw [Typed.date_part_has_aggregate] at free
      exact .datePart (ih free) isTemporal
  | countAll => exact absurd free (by simp [Typed.aggregate_term_has_aggregate])

theorem has_aggregate_false (lowers : Lowers c clause e s t s')
    (forbids : clause.allowsAggregates = false) : t.term.hasAggregate = false := by
  induction lowers with
  | member | field => rfl
  | constant written => exact Typed.constant_has_aggregate written
  | nullRight _ _ _ ih => rw [Typed.null_test_has_aggregate, ih]
  | nullLeft _ _ _ ih => rw [Typed.null_test_has_aggregate, ih]
  | constantLeft _ _ _ written typed ih =>
      rw [Typed.binary_has_aggregate typed, Typed.constant_has_aggregate written, ih]
      rfl
  | constantRight _ _ _ _ written typed ih =>
      rw [Typed.binary_has_aggregate typed, Typed.constant_has_aggregate written, ih]
      rfl
  | binary _ _ _ _ typed first second =>
      rw [Typed.binary_has_aggregate typed, first, second]
      rfl
  | not _ _ ih => exact ih
  | neg _ _ ih => exact ih
  | aggregate allowed => exact absurd allowed (by simp [forbids])
  | holdsConstant _ _ written ih =>
      exact Bool.or_eq_false_iff.mpr ⟨ih, Typed.constant_has_aggregate written⟩
  | holds _ _ _ _ listIh needleIh => exact Bool.or_eq_false_iff.mpr ⟨listIh, needleIh⟩
  | pattern _ _ ih => exact Bool.or_eq_false_iff.mpr ⟨ih, rfl⟩
  | membership _ _ _ ih => exact Bool.or_eq_false_iff.mpr ⟨ih, rfl⟩
  | textFunction _ _ ih => rw [Typed.text_function_has_aggregate, ih]
  | datePart _ _ ih => rw [Typed.date_part_has_aggregate, ih]
  | countAll allowed => exact absurd allowed (by simp [forbids])

theorem unnested (lowers : Lowers c clause e s t s') : t.term.Unnested := by
  induction lowers with
  | member | field => exact unnested_column _
  | constant written => exact Typed.constant_unnested written
  | nullRight _ _ _ ih => exact Typed.null_test_unnested _ ih
  | nullLeft _ _ _ ih => exact Typed.null_test_unnested _ ih
  | constantLeft _ _ _ written typed ih =>
      exact Typed.binary_unnested typed (Typed.constant_unnested written) ih
  | constantRight _ _ _ _ written typed ih =>
      exact Typed.binary_unnested typed ih (Typed.constant_unnested written)
  | binary _ _ _ _ typed first second => exact Typed.binary_unnested typed first second
  | not _ _ ih => exact unnested_unary _ ih
  | neg _ _ ih => exact unnested_unary _ ih
  | aggregate _ _ flat _ ih => exact unnested_function _ (fun _ => aggregate_free_iff.mpr flat) ih
  | holdsConstant _ _ written ih => exact unnested_binary _ ih (Typed.constant_unnested written)
  | holds _ _ _ _ listIh needleIh => exact unnested_binary _ listIh needleIh
  | pattern _ _ ih => exact unnested_binary _ ih (unnested_literal _)
  | membership _ _ _ ih => exact unnested_binary _ ih (unnested_literal _)
  | @textFunction _ f _ _ _ _ _ ih =>
      exact unnested_function _ (fun named => by cases f <;> cases named) ih
  | @datePart _ p _ _ _ _ _ ih =>
      exact unnested_function _ (fun named => by cases p <;> cases named) ih
  | countAll =>
      exact unnested_function _ (fun _ => aggregate_free_iff.mpr rfl) (unnested_literal _)

end Lowers

namespace Query

variable {c : Catalog} {root : Entity} {q q' : Query}

theorem lower_terms_aggregate_free {clause : Clause} (forbids : clause.allowsAggregates = false)
    {exprs : List Expr} {s s' : Scope} {terms : List Sql.Term}
    (ends : (lowerTerms c clause exprs).outcome s = (.ok terms, s')) :
    ∀ t ∈ terms, t.AggregateFree := by
  induction exprs generalizing s terms with
  | nil =>
      obtain ⟨rfl, rfl⟩ := Steps.pure_ends.mp ends
      simp
  | cons e rest ih =>
      obtain ⟨t, m, others, lowers, restEnds, rfl⟩ := lower_terms_cons_ends ends
      exact List.forall_mem_cons.mpr
        ⟨aggregate_free_iff.mpr (lowers.has_aggregate_false forbids), ih restEnds⟩

theorem combine_aggregate_free (k : Connective) {existing : Option Sql.Term} {predicate : Sql.Term}
    (old : ∀ t ∈ existing, t.AggregateFree) (new : predicate.AggregateFree) :
    (combine k existing predicate).AggregateFree := by
  cases existing with
  | none => exact new
  | some t =>
      rw [aggregate_free_iff] at new ⊢
      rw [combine, hasAggregate, any_aggregate_append, any_aggregate_chain,
        aggregate_free_iff.mp (old t rfl)]
      simp [anyAggregate, new]

structure AggregateFree (q : Query) : Prop where
  condition : ∀ t ∈ q.condition, t.AggregateFree
  groups : ∀ t ∈ q.groups, t.AggregateFree

theorem filter_by_aggregate_free {k : Connective} {e : Expr} (free : q.AggregateFree)
    (applied : filterBy k c e q = .ok q') : ∀ t ∈ q'.condition, t.AggregateFree := by
  obtain ⟨t, s, lowers, rfl⟩ := filter_by_ok applied
  rintro _ ⟨⟩
  exact combine_aggregate_free k free.condition
    (aggregate_free_iff.mpr (lowers.has_aggregate_false rfl))

theorem group_by_aggregate_free {exprs : List Expr} (applied : q.groupBy c exprs = .ok q') :
    ∀ t ∈ q'.groups, t.AggregateFree := by
  obtain ⟨⟨terms, s⟩, lowered, ok⟩ := bind_ok.mp applied
  cases ok
  exact lower_terms_aggregate_free rfl (Steps.commit_ok.mp lowered)

theorem apply_keeps (part : Part) (clause : part ≠ .scope) {op : Operator} (apart : op.part ≠ part)
    (applied : op.apply c q = .ok q') : q'.get part = q.get part := by
  rw [Operator.apply_frame applied, get_set_of_ne apart, get_set_of_ne clause.symm]

theorem apply_aggregate_free {op : Operator} (free : q.AggregateFree)
    (applied : op.apply c q = .ok q') : q'.AggregateFree where
  condition := by
    by_cases own : op.part = .condition
    · cases op with
      | filter e => exact filter_by_aggregate_free free applied
      | orFilter e => exact filter_by_aggregate_free free applied
      | _ => cases own
    · have same : q'.condition = q.condition := apply_keeps .condition (by decide) own applied
      rw [same]
      exact free.condition
  groups := by
    by_cases own : op.part = .groups
    · cases op with
      | groupBy exprs => exact group_by_aggregate_free applied
      | _ => cases own
    · have same : q'.groups = q.groups := apply_keeps .groups (by decide) own applied
      rw [same]
      exact free.groups

end Query

theorem Reachable.aggregate_free {c : Catalog} {root : Entity} {q : Query}
    (reached : Reachable c root q) : q.AggregateFree := by
  induction reached with
  | start started =>
      obtain ⟨table, _, ok⟩ := bind_ok.mp started
      cases ok
      exact ⟨by simp [Query.ofSource], by simp [Query.ofSource]⟩
  | step _ applied ih => exact Query.apply_aggregate_free ih applied

/-- A clause that takes no aggregates accepts what a clause that takes them accepts without one, as
the same term and with the same tables; no accepted term has an aggregate below an aggregate; and
the conditions and groups of reachable queries hold no aggregates. -/
theorem aggregates_stand_where_allowed (c : Catalog) :
    (∀ plain ∈ [Clause.condition, .groupBy, .joinOn],
      ∀ grouped ∈ [Clause.having, .select, .orderBy],
      ∀ (e : Expr) (s s' : Scope) (t : Typed),
        (e.lower c plain).commit s = .ok (t, s') ↔
          (e.lower c grouped).commit s = .ok (t, s') ∧ t.term.hasAggregate = false) ∧
    (∀ (clause : Clause) (e : Expr) (s s' : Scope) (t : Typed),
      (e.lower c clause).commit s = .ok (t, s') → t.term.Unnested) ∧
    ∀ (root : Entity) (q : Query), Reachable c root q → q.AggregateFree := by
  refine ⟨?_, ?_, fun root q reached => reached.aggregate_free⟩
  · intro plain isPlain grouped _ e s s' t
    have forbids : plain.allowsAggregates = false := by
      revert plain
      decide
    rw [Steps.commit_ok, Steps.commit_ok, Expr.lower_ends, Expr.lower_ends]
    constructor
    · intro lowers
      have free := lowers.has_aggregate_false forbids
      exact ⟨lowers.elsewhere free, free⟩
    · rintro ⟨lowers, free⟩
      exact lowers.elsewhere free
  · intro clause e s s' t lowered
    exact (Expr.lower_ends.mp (Steps.commit_ok.mp lowered)).unnested

theorem author_and_longest_page_placed :
    ((Sample.writtenBy "O'Hara").lower Sample.catalog .having).commit Sample.start.scope =
        .ok (.truth (.binary (.column ⟨"T2", "name", .string⟩) .eq (.literal "'O''Hara'")),
          Sample.pagesAndAuthors) ∧
      ((Sample.writtenBy "O'Hara").lower Sample.catalog .condition).commit Sample.start.scope =
        .ok (.truth (.binary (.column ⟨"T2", "name", .string⟩) .eq (.literal "'O''Hara'")),
          Sample.pagesAndAuthors) ∧
      Unnested (.function "MAX" false [.column ⟨"T1", "length", .integer⟩]) ∧
      Sample.byAuthor.AggregateFree := by
  obtain ⟨placed, unnested, free⟩ := aggregates_stand_where_allowed Sample.catalog
  have lowered : ((Sample.writtenBy "O'Hara").lower Sample.catalog .having).commit
      Sample.start.scope =
      .ok (.truth (.binary (.column ⟨"T2", "name", .string⟩) .eq (.literal "'O''Hara'")),
        Sample.pagesAndAuthors) := rfl
  have longest : ((Expr.call (.field "length") (.aggregate .max) []).lower Sample.catalog
      .select).commit Sample.start.scope =
      .ok (⟨.function "MAX" false [.column ⟨"T1", "length", .integer⟩], some .integer⟩,
        Sample.start.scope) := rfl
  have started : Query.start Sample.catalog Sample.page = .ok Sample.start := rfl
  have filtered : (Operator.filter (Sample.writtenBy "O'Hara")).apply Sample.catalog Sample.start =
      .ok Sample.byAuthor := rfl
  exact ⟨lowered,
    (placed .condition (by simp) .having (by simp) _ _ _ _).mpr ⟨lowered, rfl⟩,
    unnested _ _ _ _ _ longest, free _ _ (.step (.start started) filtered)⟩

end WikiQuery
