import WikiQuery.Query.Basic
import WikiQuery.Proofs.Shape

/- What the clauses of a query make of their expressions: a predicate, a list of terms, a list of
   outputs, a list of join conditions. Each of them lets the scope grow and speaks of columns of
   the scope it leaves. From this, what an operator writes when it succeeds. -/
set_option autoImplicit false

namespace WikiQuery

open Sql.Term

namespace Expr

theorem lower_predicate_ends {c : Catalog} {clause : Clause} {e : Expr} {s s' : Scope}
    {term : Sql.Term} (ends : (lowerPredicate c clause e).outcome s = (.ok term, s')) :
    ∃ t, Lowers c clause e s t s' ∧ t.type = some .boolean ∧ term = t.term := by
  obtain ⟨t, m, lowered, rest⟩ := Steps.bind_ends.mp ends
  split at rest
  next truth =>
    obtain ⟨rfl, rfl⟩ := Steps.pure_ends.mp rest
    exact ⟨t, lowers_of_lower c clause e lowered, truth, rfl⟩
  next => exact absurd rest Steps.throw_ends

theorem lower_join_side_ends {c : Catalog} {clause : Clause} {whole side : Expr} {s s' : Scope}
    {column : Column} (ends : (lowerJoinSide c clause whole side).outcome s = (.ok column, s')) :
    Grows c s s' ∧ Located c s' column := by
  obtain ⟨t, m, lowered, rest⟩ := Steps.bind_ends.mp ends
  have lowers := lowers_of_lower c clause side lowered
  split at rest
  next isColumn =>
    obtain ⟨rfl, rfl⟩ := Steps.pure_ends.mp rest
    have formed := lowers.formed
    rw [isColumn] at formed
    exact ⟨lowers.grows, formed⟩
  next => exact absurd rest Steps.throw_ends

theorem equal_join_ok {whole : Expr} {left right : Column} {joins : List Join}
    (joined : equalJoin whole left right = .ok joins) : joins = [⟨left, right, .equal, none⟩] := by
  rw [equalJoin] at joined
  split at joined
  · cases joined
    rfl
  · cases joined

theorem holds_join_ok {whole : Expr} {list item : Column} {joins : List Join}
    (joined : holdsJoin whole list item = .ok joins) : joins = [⟨list, item, .holds, none⟩] := by
  rw [holdsJoin] at joined
  split at joined
  · cases joined
    rfl
  · cases joined

end Expr

def Join.Located (c : Catalog) (s : Scope) (j : Join) : Prop :=
  WikiQuery.Located c s j.left ∧ WikiQuery.Located c s j.right

theorem Join.Located.mono {c : Catalog} {s s' : Scope} {j : Join} (located : j.Located c s)
    (more : s.sources ⊆ s'.sources) : j.Located c s' :=
  ⟨located.1.mono more, located.2.mono more⟩

namespace Expr

theorem lower_join_sides_ends {c : Catalog} {clause : Clause} {whole first second : Expr}
    {kind : JoinKind} {s s' : Scope} {joins : List Join}
    {check : Column → Column → Except QueryError (List Join)}
    (single : ∀ l r joins, check l r = .ok joins → joins = [⟨l, r, kind, none⟩])
    (ends : (do
      let l ← lowerJoinSide c clause whole first
      let r ← lowerJoinSide c clause whole second
      Steps.ofExcept (check l r) : Scoped (List Join)).outcome s = (.ok joins, s')) :
    Grows c s s' ∧ ∀ j ∈ joins, j.Located c s' ∧ j.via = none := by
  obtain ⟨l, m, leftEnds, rest⟩ := Steps.bind_ends.mp ends
  obtain ⟨r, m', rightEnds, rest⟩ := Steps.bind_ends.mp rest
  obtain ⟨joined, rfl⟩ := Steps.of_except_ends.mp rest
  obtain ⟨leftGrows, leftLocated⟩ := lower_join_side_ends leftEnds
  obtain ⟨rightGrows, rightLocated⟩ := lower_join_side_ends rightEnds
  refine ⟨leftGrows.trans rightGrows, ?_⟩
  rw [single l r joins joined]
  intro j member
  cases List.mem_singleton.mp member
  exact ⟨⟨leftLocated.mono rightGrows.sources_prefix.subset, rightLocated⟩, rfl⟩

theorem lower_join_ends {c : Catalog} {clause : Clause} (e : Expr) {s s' : Scope}
    {joins : List Join} (ends : (lowerJoin c clause e).outcome s = (.ok joins, s')) :
    Grows c s s' ∧ ∀ j ∈ joins, j.Located c s' ∧ j.via = none := by
  fun_induction lowerJoin c clause e generalizing s s' joins with
  | case1 left right leftIh rightIh =>
      obtain ⟨first, m, leftEnds, rest⟩ := Steps.bind_ends.mp ends
      obtain ⟨second, m', rightEnds, rest⟩ := Steps.bind_ends.mp rest
      obtain ⟨rfl, rfl⟩ := Steps.pure_ends.mp rest
      obtain ⟨leftGrows, leftLocated⟩ := leftIh leftEnds
      obtain ⟨rightGrows, rightLocated⟩ := rightIh rightEnds
      refine ⟨leftGrows.trans rightGrows, ?_⟩
      intro j member
      rcases List.mem_append.mp member with member | member
      · obtain ⟨located, via⟩ := leftLocated j member
        exact ⟨located.mono rightGrows.sources_prefix.subset, via⟩
      · exact rightLocated j member
  | case2 => exact lower_join_sides_ends (fun _ _ _ => equal_join_ok) ends
  | case3 => exact lower_join_sides_ends (fun _ _ _ => holds_join_ok) ends
  | case4 => exact absurd ends Steps.throw_ends

end Expr

namespace Query

theorem lower_terms_cons_ends {c : Catalog} {clause : Clause} {e : Expr} {rest : List Expr}
    {s s' : Scope} {terms : List Sql.Term}
    (ends : (lowerTerms c clause (e :: rest)).outcome s = (.ok terms, s')) :
    ∃ t m others, Lowers c clause e s t m ∧
      (lowerTerms c clause rest).outcome m = (.ok others, s') ∧ terms = t.term :: others := by
  obtain ⟨t, m, lowered, ends⟩ := Steps.bind_ends.mp ends
  obtain ⟨others, m', restEnds, ends⟩ := Steps.bind_ends.mp ends
  obtain ⟨rfl, rfl⟩ := Steps.pure_ends.mp ends
  exact ⟨t, m, others, Expr.lowers_of_lower c clause e lowered, restEnds, rfl⟩

theorem lower_terms_ends {c : Catalog} {clause : Clause} {exprs : List Expr} {s s' : Scope}
    {terms : List Sql.Term} (ends : (lowerTerms c clause exprs).outcome s = (.ok terms, s')) :
    Grows c s s' ∧ ∀ t ∈ terms, Formed (Located c s') t := by
  induction exprs generalizing s terms with
  | nil =>
      obtain ⟨rfl, rfl⟩ := Steps.pure_ends.mp ends
      exact ⟨.refl, by simp⟩
  | cons e rest ih =>
      obtain ⟨t, m, others, lowers, restEnds, rfl⟩ := lower_terms_cons_ends ends
      obtain ⟨grows, formed⟩ := ih restEnds
      refine ⟨lowers.grows.trans grows, ?_⟩
      intro u member
      rcases List.mem_cons.mp member with rfl | member
      · exact grows.formed lowers.formed
      · exact formed u member

section Inversions

variable {c : Catalog} {q q' : Query}

theorem filter_by_ok {k : Connective} {e : Expr} (applied : filterBy k c e q = .ok q') :
    ∃ t s, Lowers c .condition e q.scope t s ∧
      q' = { q with scope := s, condition := some (combine k q.condition t.term) } := by
  obtain ⟨⟨predicate, s⟩, lowered, ok⟩ := bind_ok.mp applied
  cases ok
  obtain ⟨t, lowers, _, rfl⟩ := Expr.lower_predicate_ends (Steps.commit_ok.mp lowered)
  exact ⟨t, s, lowers, rfl⟩

theorem restrict_groups_ok {e : Expr} (applied : q.restrictGroups c e = .ok q') :
    ∃ t s, Lowers c .having e q.scope t s ∧
      q' = { q with scope := s, having := some (combine .and q.having t.term) } := by
  obtain ⟨⟨predicate, s⟩, lowered, ok⟩ := bind_ok.mp applied
  cases ok
  obtain ⟨t, lowers, _, rfl⟩ := Expr.lower_predicate_ends (Steps.commit_ok.mp lowered)
  exact ⟨t, s, lowers, rfl⟩

theorem group_by_ok {exprs : List Expr} (applied : q.groupBy c exprs = .ok q') :
    ∃ terms s, Grows c q.scope s ∧ (∀ t ∈ terms, Formed (Located c s) t) ∧
      q' = { q with scope := s, groups := terms } := by
  obtain ⟨⟨terms, s⟩, lowered, ok⟩ := bind_ok.mp applied
  cases ok
  obtain ⟨grows, formed⟩ := lower_terms_ends (Steps.commit_ok.mp lowered)
  exact ⟨terms, s, grows, formed, rfl⟩

theorem order_by_ok {e : Expr} {d : Direction} (applied : q.orderBy c e d = .ok q') :
    ∃ t s, Lowers c .orderBy e q.scope t s ∧
      q' = { q with scope := s, orders := q.orders ++ [.ordering t.term d] } := by
  obtain ⟨⟨t, s⟩, lowered, ok⟩ := bind_ok.mp applied
  cases ok
  exact ⟨t, s, Expr.lowers_of_lower c .orderBy e (Steps.commit_ok.mp lowered), rfl⟩

theorem join_as_ok {e : Entity} {label : String} {on : Expr} :
    q.joinAs c e label on = .ok q' ↔
      ∃ table m joins, checkIdentifier label = .ok () ∧ c.tableOf e = .ok table ∧
        q.scope.isFree label = true ∧
        (on.lowerJoin c .joinOn).outcome
          ⟨q.scope.sources ++ [⟨table.entity, table.name, label⟩], q.scope.joins⟩ =
            (.ok joins, m) ∧
        (joins.any fun j => j.mentions label) = true ∧
        q' = { q with scope := ⟨m.sources, m.joins ++ joins⟩ } := by
  constructor
  · intro applied
    obtain ⟨⟨⟩, checked, rest⟩ := bind_ok.mp applied
    obtain ⟨table, known, rest⟩ := bind_ok.mp rest
    obtain ⟨opened, added, rest⟩ := bind_ok.mp rest
    obtain ⟨⟨joins, m⟩, lowered, finish⟩ := bind_ok.mp rest
    obtain ⟨free, rfl⟩ := Scope.add_source_ok added
    dsimp only at finish
    split at finish
    next mentioned =>
      cases finish
      exact ⟨table, m, joins, checked, known, free, Steps.commit_ok.mp lowered, mentioned, rfl⟩
    next => cases finish
  · rintro ⟨table, m, joins, checked, known, free, lowered, mentioned, rfl⟩
    refine bind_ok.mpr ⟨(), checked, bind_ok.mpr ⟨table, known, bind_ok.mpr ⟨_, if_pos free,
      bind_ok.mpr ⟨(joins, m), Steps.commit_ok.mpr lowered, ?_⟩⟩⟩⟩
    dsimp only
    rw [if_pos mentioned]

end Inversions

end Query

end WikiQuery
