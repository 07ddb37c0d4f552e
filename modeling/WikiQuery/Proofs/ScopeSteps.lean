import WikiQuery.Proofs.Reachable

/- What operators do to the scope of a query. A step either walks relations only, or opens one
   table under a free label, walks relations, and adds conditions that speak of the new table. An
   invariant of scopes that steps keep holds of every reachable query. -/
set_option autoImplicit false

namespace WikiQuery

inductive Scope.Step (c : Catalog) (s : Scope) : Scope → Prop where
  | grown {s' : Scope} (grows : Grows c s s') : Step c s s'
  | joined {source : Source} {table : Table} {m : Scope} {joins : List Join}
      (free : s.isFree source.label = true) (plain : isIdentifier source.label = true)
      (known : c.find? source.entity = some table) (named : table.name = source.table)
      (grows : Grows c ⟨s.sources ++ [source], s.joins⟩ m)
      (located : ∀ j ∈ joins, j.Located c m ∧ j.via = none)
      (mentioned : ∃ j ∈ joins, j.mentions source.label = true) :
      Step c s ⟨m.sources, m.joins ++ joins⟩

def Operator.opens (s : Scope) : Operator → Option String
  | .join _ _ => some s.nextLabel
  | .joinAs _ label _ => some label
  | _ => none

namespace Query

variable {c : Catalog} {q q' : Query}

theorem filter_by_grows {k : Connective} {e : Expr} (applied : filterBy k c e q = .ok q') :
    Grows c q.scope q'.scope := by
  obtain ⟨_, _, lowers, rfl⟩ := filter_by_ok applied
  exact lowers.grows

theorem restrict_groups_grows {e : Expr} (applied : q.restrictGroups c e = .ok q') :
    Grows c q.scope q'.scope := by
  obtain ⟨_, _, lowers, rfl⟩ := restrict_groups_ok applied
  exact lowers.grows

theorem group_by_grows {exprs : List Expr} (applied : q.groupBy c exprs = .ok q') :
    Grows c q.scope q'.scope := by
  obtain ⟨_, _, grows, _, rfl⟩ := group_by_ok applied
  exact grows

theorem order_by_grows {e : Expr} {d : Direction} (applied : q.orderBy c e d = .ok q') :
    Grows c q.scope q'.scope := by
  obtain ⟨_, _, lowers, rfl⟩ := order_by_ok applied
  exact lowers.grows

theorem lower_outputs_grows {fields : List (Expr × Option String)} {kept outputs : List Output}
    {s s' : Scope} (ends : (lowerOutputs c kept fields).outcome s = (.ok outputs, s')) :
    Grows c s s' := by
  induction fields generalizing kept s with
  | nil =>
      obtain ⟨rfl, rfl⟩ := Steps.pure_ends.mp ends
      exact .refl
  | cons field rest ih =>
      obtain ⟨e, name⟩ := field
      obtain ⟨t, m, lowered, ends⟩ := Steps.bind_ends.mp ends
      obtain ⟨⟨⟩, _, ends⟩ := Steps.of_except_bind_ends.mp ends
      exact (Expr.lowers_of_lower c .select e lowered).grows.trans (ih ends)

theorem project_grows {kept : List Output} {fields : List (Expr × Option String)}
    (applied : q.project c kept fields = .ok q') : Grows c q.scope q'.scope := by
  obtain ⟨⟨outputs, s⟩, lowered, ok⟩ := bind_ok.mp applied
  cases ok
  exact lower_outputs_grows (Steps.commit_ok.mp lowered)

theorem join_as_step {e : Entity} {label : String} {on : Expr}
    (applied : q.joinAs c e label on = .ok q') : Scope.Step c q.scope q'.scope := by
  obtain ⟨table, m, joins, checked, known, free, lowered, mentioned, rfl⟩ := join_as_ok.mp applied
  obtain ⟨grows, located⟩ := Expr.lower_join_ends on lowered
  exact .joined free (check_identifier_ok checked) (Catalog.table_of_ok known).2 rfl grows located
    (List.any_eq_true.mp mentioned)

theorem apply_grows {op : Operator} (opensNone : op.opens q.scope = none)
    (applied : op.apply c q = .ok q') : Grows c q.scope q'.scope := by
  cases op with
  | filter e => exact filter_by_grows applied
  | orFilter e => exact filter_by_grows applied
  | select fields => exact project_grows applied
  | selectAs fields => exact project_grows applied
  | addOutput e name => exact project_grows applied
  | join e on => cases opensNone
  | joinAs e label on => cases opensNone
  | groupBy exprs => exact group_by_grows applied
  | having e => exact restrict_groups_grows applied
  | orderBy e d => exact order_by_grows applied
  | take n =>
      cases applied
      exact .refl
  | skip n =>
      cases applied
      exact .refl
  | distinct =>
      cases applied
      exact .refl

theorem apply_opens {op : Operator} {label : String} (opens : op.opens q.scope = some label)
    (applied : op.apply c q = .ok q') : ∃ e on, q.joinAs c e label on = .ok q' := by
  cases op with
  | join e on =>
      cases opens
      exact ⟨e, on, applied⟩
  | joinAs e label on =>
      cases opens
      exact ⟨e, on, applied⟩
  | _ => cases opens

theorem apply_step {op : Operator} (applied : op.apply c q = .ok q') :
    Scope.Step c q.scope q'.scope := by
  cases opens : op.opens q.scope with
  | none => exact .grown (apply_grows opens applied)
  | some label =>
      obtain ⟨e, on, joined⟩ := apply_opens opens applied
      exact join_as_step joined

end Query

/-- An invariant of scopes: it holds of every single table, and a step from a sound scope keeps
it. -/
theorem Reachable.scope_invariant {c : Catalog} {root : Entity} {holds : Scope → Prop}
    (single : ∀ source, holds ⟨[source], []⟩)
    (step : ∀ {s s' : Scope}, s.Sound c → holds s → s.Step c s' → holds s') {q : Query}
    (reached : Reachable c root q) : holds q.scope := by
  induction reached with
  | start started =>
      obtain ⟨table, _, ok⟩ := bind_ok.mp started
      cases ok
      exact single _
  | step before applied ih => exact step before.sound.scope ih (Query.apply_step applied)

end WikiQuery
