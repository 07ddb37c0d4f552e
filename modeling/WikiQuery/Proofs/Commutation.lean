import WikiQuery.Proofs.ScopeSteps
import WikiQuery.Proofs.Stability

/- Operators on different clauses commute. An operator reads the scope and one clause and writes
   the same clause; a step that found all its tables in place finds them again, whatever another
   operator has added to the scope in between. -/
set_option autoImplicit false

namespace WikiQuery

namespace Query

inductive Part where
  | scope | condition | outputs | groups | having | orders | limit | offset | distinct
deriving DecidableEq

abbrev Part.Content : Part → Type
  | .scope => Scope
  | .condition => Option Sql.Term
  | .outputs => List Output
  | .groups => List Sql.Term
  | .having => Option Sql.Term
  | .orders => List Sql.Term
  | .limit => Option UInt64
  | .offset => Option UInt64
  | .distinct => Bool

def get (q : Query) : (part : Part) → part.Content
  | .scope => q.scope
  | .condition => q.condition
  | .outputs => q.outputs
  | .groups => q.groups
  | .having => q.having
  | .orders => q.orders
  | .limit => q.limit
  | .offset => q.offset
  | .distinct => q.distinct

def set (q : Query) : (part : Part) → part.Content → Query
  | .scope, s => { q with scope := s }
  | .condition, t => { q with condition := t }
  | .outputs, outputs => { q with outputs := outputs }
  | .groups, groups => { q with groups := groups }
  | .having, t => { q with having := t }
  | .orders, orders => { q with orders := orders }
  | .limit, n => { q with limit := n }
  | .offset, n => { q with offset := n }
  | .distinct, b => { q with distinct := b }

theorem get_set (q : Query) (part : Part) (content : part.Content) :
    (q.set part content).get part = content := by
  cases part <;> rfl

theorem get_set_of_ne {part other : Part} (apart : part ≠ other) (q : Query)
    (content : part.Content) : (q.set part content).get other = q.get other := by
  cases part <;> cases other <;> first | rfl | exact absurd rfl apart

theorem set_set (q : Query) (part : Part) (content content' : part.Content) :
    (q.set part content).set part content' = q.set part content' := by
  cases part <;> rfl

theorem set_comm {part other : Part} (apart : part ≠ other) (q : Query) (content : part.Content)
    (content' : other.Content) :
    (q.set part content).set other content' = (q.set other content').set part content := by
  cases part <;> cases other <;> first | rfl | exact absurd rfl apart

end Query

open Query

def Operator.part : Operator → Part
  | .filter _ | .orFilter _ => .condition
  | .select _ | .selectAs _ | .addOutput _ _ => .outputs
  | .join _ _ | .joinAs _ _ _ => .scope
  | .groupBy _ => .groups
  | .having _ => .having
  | .orderBy _ _ => .orders
  | .take _ => .limit
  | .skip _ => .offset
  | .distinct => .distinct

theorem ne_of_longer {α : Type} {xs ys : List α} {x : α} (longer : xs ++ [x] <+: ys) :
    ys ≠ xs := by
  rintro rfl
  have length := longer.length_le
  rw [List.length_append, List.length_singleton] at length
  omega

section Steps

variable {c : Catalog}

theorem Expr.lower_predicate_composed (clause : Clause) (e : Expr) :
    (e.lowerPredicate c clause).Composed c := by
  refine (e.lower_composed c clause).bind fun t => ?_
  split
  · exact .pure _
  · exact .throw _

theorem Query.lower_terms_composed (clause : Clause) :
    ∀ (exprs : List Expr), (lowerTerms c clause exprs).Composed c
  | [] => .pure _
  | e :: rest =>
      (e.lower_composed c clause).bind fun _ =>
        (lower_terms_composed clause rest).bind fun _ => .pure _

theorem Query.lower_outputs_composed :
    ∀ (fields : List (Expr × Option String)) (kept : List Output),
      (lowerOutputs c kept fields).Composed c
  | [], _ => .pure _
  | (e, _) :: rest, _ =>
      (e.lower_composed c .select).bind fun _ =>
        (Scoped.Composed.ofExcept _).bind fun _ => lower_outputs_composed rest _

end Steps

namespace Query

def settle {α : Type} (q : Query) (step : Scoped α) (part : Part)
    (change : α → part.Content → part.Content) : Except QueryError Query := do
  let (a, s) ← step.commit q.scope
  .ok ((q.set .scope s).set part (change a (q.get part)))

/-- On the queries that share the part with `q`, the operation is a stable step followed by a change
of that part. -/
def Settles (c : Catalog) (q : Query) (part : Part) (operation : Query → Except QueryError Query) :
    Prop :=
  ∃ (α : Type) (step : Scoped α) (change : α → part.Content → part.Content), step.Stable c ∧
    ∀ p : Query, p.get part = q.get part → operation p = p.settle step part change

section Settling

variable {α : Type} {step : Scoped α} {part : Part} {change : α → part.Content → part.Content}
  {q q' : Query}

theorem settle_ok : q.settle step part change = .ok q' ↔
    ∃ a s, step.outcome q.scope = (.ok a, s) ∧
      q' = (q.set .scope s).set part (change a (q.get part)) := by
  rw [settle, bind_ok]
  constructor
  · rintro ⟨⟨a, s⟩, committed, ok⟩
    cases ok
    exact ⟨a, s, Steps.commit_ok.mp committed, rfl⟩
  · rintro ⟨a, s, ends, rfl⟩
    exact ⟨(a, s), Steps.commit_ok.mpr ends, rfl⟩

theorem settle_error {e : QueryError} {s : Scope} (failed : step.outcome q.scope = (.error e, s)) :
    q.settle step part change = .error e := by
  rw [settle, Steps.commit_eq, failed]
  rfl

end Settling

section Operations

variable (c : Catalog) (q : Query)

theorem filter_by_settles (k : Connective) (e : Expr) : Settles c q .condition (filterBy k c e) :=
  ⟨_, e.lowerPredicate c .condition, fun predicate old => some (combine k old predicate),
    (e.lower_predicate_composed .condition).stable, fun _ _ => rfl⟩

theorem restrict_groups_settles (e : Expr) : Settles c q .having (restrictGroups c e) :=
  ⟨_, e.lowerPredicate c .having, fun predicate old => some (combine .and old predicate),
    (e.lower_predicate_composed .having).stable, fun _ _ => rfl⟩

-- Which outputs are kept may depend on the outputs that are there, and so does the step.
theorem project_settles (kept : List Output → List Output) (fields : List (Expr × Option String)) :
    Settles c q .outputs fun p => p.project c (kept p.outputs) fields := by
  refine ⟨_, lowerOutputs c (kept q.outputs) fields, fun outputs _ => outputs,
    (lower_outputs_composed fields _).stable, ?_⟩
  intro p shared
  change p.project c (kept (p.get .outputs)) fields = _
  rw [shared]
  rfl

theorem group_by_settles (exprs : List Expr) : Settles c q .groups (groupBy c exprs) :=
  ⟨_, lowerTerms c .groupBy exprs, fun groups _ => groups,
    (lower_terms_composed .groupBy exprs).stable, fun _ _ => rfl⟩

theorem order_by_settles (e : Expr) (d : Direction) : Settles c q .orders (orderBy c e d) :=
  ⟨_, e.lower c .orderBy, fun t (old : List Sql.Term) => old ++ [.ordering t.term d],
    e.lower_stable c .orderBy, fun _ _ => rfl⟩

theorem set_settles (part : Part) (content : part.Content) :
    Settles c q part fun p => .ok (p.set part content) :=
  ⟨Unit, pure (), fun _ _ => content, (Scoped.Composed.pure _).stable, fun _ _ => rfl⟩

end Operations

section Joining

variable {c : Catalog} {q q' : Query} {e : Entity} {label : String} {on : Expr}

theorem join_as_frame (applied : q.joinAs c e label on = .ok q') : q' = q.set .scope q'.scope := by
  obtain ⟨_, _, _, _, _, _, _, _, rfl⟩ := join_as_ok.mp applied
  rfl

theorem join_as_opens (applied : q.joinAs c e label on = .ok q') :
    q'.scope.sources ≠ q.scope.sources := by
  obtain ⟨_, m, _, _, _, _, lowered, _, rfl⟩ := join_as_ok.mp applied
  have grows := (Expr.lower_join_ends on lowered).1
  exact ne_of_longer grows.sources_prefix

theorem join_as_set {part : Part} (clause : part ≠ .scope) (content : part.Content)
    (applied : q.joinAs c e label on = .ok q') :
    (q.set part content).joinAs c e label on = .ok (q'.set part content) := by
  obtain ⟨table, m, joins, checked, known, free, lowered, mentioned, rfl⟩ := join_as_ok.mp applied
  have scope : (q.set part content).scope = q.scope := get_set_of_ne clause q content
  rw [← scope] at free lowered
  exact join_as_ok.mpr ⟨table, m, joins, checked, known, free, lowered, mentioned,
    set_comm clause.symm q (⟨m.sources, m.joins ++ joins⟩ : Scope) content⟩

end Joining

end Query

namespace Operator

variable {c : Catalog} {q q' : Query}

theorem apply_settles (c : Catalog) (q : Query) (op : Operator) (clause : op.part ≠ .scope) :
    Settles c q op.part fun p => op.apply c p := by
  cases op with
  | filter e => exact filter_by_settles c q .and e
  | orFilter e => exact filter_by_settles c q .or e
  | select fields => exact project_settles c q (fun _ => []) _
  | selectAs fields => exact project_settles c q (fun _ => []) _
  | addOutput e name => exact project_settles c q (fun outputs => outputs) _
  | join e on => exact absurd rfl clause
  | joinAs e label on => exact absurd rfl clause
  | groupBy exprs => exact group_by_settles c q exprs
  | having e => exact restrict_groups_settles c q e
  | orderBy e d => exact order_by_settles c q e d
  | take n => exact set_settles c q .limit (some n)
  | skip n => exact set_settles c q .offset (some n)
  | distinct => exact set_settles c q .distinct true

theorem apply_joins (c : Catalog) (q : Query) (op : Operator) (joins : op.part = .scope) :
    ∃ e label on, ∀ p : Query, p.scope = q.scope → op.apply c p = p.joinAs c e label on := by
  cases op with
  | join e on =>
      refine ⟨e, q.scope.nextLabel, on, ?_⟩
      intro p same
      rw [← same]
      rfl
  | joinAs e label on => exact ⟨e, label, on, fun _ _ => rfl⟩
  | _ => cases joins

theorem apply_frame {op : Operator} (applied : op.apply c q = .ok q') :
    q' = (q.set .scope q'.scope).set op.part (q'.get op.part) := by
  by_cases joins : op.part = .scope
  · obtain ⟨e, label, on, same⟩ := apply_joins c q op joins
    rw [same q rfl] at applied
    rw [joins]
    change q' = q.set .scope q'.scope
    exact join_as_frame applied
  · obtain ⟨α, step, change, _, same⟩ := apply_settles c q op joins
    obtain ⟨a, s, _, rfl⟩ := settle_ok.mp ((same q rfl).symm.trans applied)
    have scope : ((q.set .scope s).set op.part (change a (q.get op.part))).scope = s :=
      get_set_of_ne joins (q.set .scope s) _
    rw [scope, get_set]

theorem apply_set {op : Operator} {part : Part} (apart : part ≠ op.part) (clause : part ≠ .scope)
    (content : part.Content) (applied : op.apply c q = .ok q') :
    op.apply c (q.set part content) = .ok (q'.set part content) := by
  have scope : (q.set part content).scope = q.scope := get_set_of_ne clause q content
  by_cases joins : op.part = .scope
  · obtain ⟨e, label, on, same⟩ := apply_joins c q op joins
    rw [same q rfl] at applied
    rw [same _ scope]
    exact join_as_set clause content applied
  · obtain ⟨α, step, change, _, same⟩ := apply_settles c q op joins
    have shared : (q.set part content).get op.part = q.get op.part := get_set_of_ne apart q content
    obtain ⟨a, s, ends, rfl⟩ := settle_ok.mp ((same q rfl).symm.trans applied)
    refine (same _ shared).trans (settle_ok.mpr ⟨a, s, by rwa [scope], ?_⟩)
    rw [shared, set_comm clause q content, set_comm apart _ content]

end Operator

theorem Reachable.declared {c : Catalog} {root : Entity} {q : Query}
    (reached : Reachable c root q) : q.scope.Declared c := by
  intro source member
  obtain ⟨table, known, _⟩ := reached.sound.scope.known source member
  exact ⟨table, known⟩

theorem Grows.eq_of_sources {c : Catalog} {s s' : Scope} (grows : Grows c s s')
    (same : s'.sources = s.sources) : s' = s := by
  cases grows with
  | refl => rfl
  | join before => exact absurd rfl (ne_of_longer (same ▸ before.sources_prefix))

theorem Scope.Step.eq_of_sources {c : Catalog} {s s' : Scope} (step : s.Step c s')
    (same : s'.sources = s.sources) : s' = s := by
  cases step with
  | grown grows => exact grows.eq_of_sources same
  | joined _ _ _ _ grows => exact absurd same (ne_of_longer grows.sources_prefix)

theorem Operator.clause_of_sources {c : Catalog} {q q' : Query} {op : Operator}
    (applied : op.apply c q = .ok q') (noTable : q'.scope.sources = q.scope.sources) :
    op.part ≠ .scope := by
  intro joins
  obtain ⟨e, label, on, same⟩ := apply_joins c q op joins
  rw [same q rfl] at applied
  exact join_as_opens applied noTable

/-- Two operators on different parts of a query commute when the second one adds no table: it can
come first, and after the first one it leads to the same query or finds a name ambiguous. -/
theorem clause_operators_commute {c : Catalog} {root : Entity} {q q₁ q₂ : Query}
    {op₁ op₂ : Operator} (reached : Reachable c root q) (first : op₁.apply c q = .ok q₁)
    (second : op₂.apply c q = .ok q₂) (apart : op₁.part ≠ op₂.part)
    (noTable : q₂.scope.sources = q.scope.sources) :
    ∃ q', op₁.apply c q₂ = .ok q' ∧
      (op₂.apply c q₁ = .ok q' ∨
        ∃ err, op₂.apply c q₁ = .error err ∧ err.kind = .ambiguousReference) := by
  have clause := Operator.clause_of_sources second noTable
  have unmoved := (Query.apply_step second).eq_of_sources noTable
  obtain ⟨α, step, change, stable, same⟩ := op₂.apply_settles c q clause
  obtain ⟨a, s, ends, rfl⟩ := settle_ok.mp ((same q rfl).symm.trans second)
  obtain rfl : s = q.scope := (get_set_of_ne clause (q.set .scope s) _).symm.trans unmoved
  refine ⟨q₁.set op₂.part (change a (q.get op₂.part)),
    Operator.apply_set apart.symm clause _ first, ?_⟩
  have shared : q₁.get op₂.part = q.get op₂.part := by
    rw [Operator.apply_frame first, get_set_of_ne apart, get_set_of_ne clause.symm]
  have more : q.scope.Extends q₁.scope := (Query.apply_sound reached.sound first).2
  obtain ⟨answer, again, repeated⟩ := (stable ends).2 more (reached.step first).declared
  cases again with
  | ok =>
      refine .inl ((same q₁ shared).trans (settle_ok.mpr ⟨a, q₁.scope, repeated, ?_⟩))
      rw [shared]
      rfl
  | ambiguous kind => exact .inr ⟨_, (same q₁ shared).trans (settle_error repeated), kind⟩

theorem filter_and_order_commute :
    Reachable Sample.catalog Sample.page Sample.start ∧
      (Operator.filter (Sample.writtenBy "O'Hara")).apply Sample.catalog Sample.start =
        .ok Sample.byAuthor ∧
      (Operator.orderBy (.field "title") .asc).apply Sample.catalog Sample.start =
        .ok Sample.byTitle ∧
      Operator.part (.filter (Sample.writtenBy "O'Hara")) ≠
        Operator.part (.orderBy (.field "title") .asc) ∧
      Sample.byTitle.scope.sources = Sample.start.scope.sources ∧
      ∃ q', (Operator.filter (Sample.writtenBy "O'Hara")).apply Sample.catalog Sample.byTitle =
          .ok q' ∧
        ((Operator.orderBy (.field "title") .asc).apply Sample.catalog Sample.byAuthor = .ok q' ∨
          ∃ err, (Operator.orderBy (.field "title") .asc).apply Sample.catalog Sample.byAuthor =
            .error err ∧ err.kind = .ambiguousReference) := by
  have reached : Reachable Sample.catalog Sample.page Sample.start := .start rfl
  have filtered : (Operator.filter (Sample.writtenBy "O'Hara")).apply Sample.catalog Sample.start =
      .ok Sample.byAuthor := rfl
  have ordered : (Operator.orderBy (.field "title") .asc).apply Sample.catalog Sample.start =
      .ok Sample.byTitle := rfl
  have apart : Operator.part (.filter (Sample.writtenBy "O'Hara")) ≠
      Operator.part (.orderBy (.field "title") .asc) := by decide
  exact ⟨reached, filtered, ordered, apart, rfl,
    clause_operators_commute reached filtered ordered apart rfl⟩

-- The other order can fail: a table that is joined makes a bare name ambiguous.
example : (Operator.orderBy (.field "name") .asc).apply Sample.catalog Sample.byAuthorJoined =
    .error (.ambiguousField "name" [⟨"T2", "name", .string⟩, ⟨"A2", "name", .string⟩]) := rfl

end WikiQuery
