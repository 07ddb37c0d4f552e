import WikiQuery.Proofs.Evaluation
import WikiQuery.Proofs.Reachable

/- Predicates that a clause gathers. Each call joins its predicate to what the clause holds, and a
   chain of the same connective grows by one term; whatever the connectives and the shapes of the
   predicates, the clause is worth what the calls say one after another, and it holds the parts of
   all predicates in their order. -/
set_option autoImplicit false

namespace WikiQuery

namespace Sql.Term

mutual
def truth (v : Term → Truth) : Term → Truth
  | .junction k ts => k.joinAll (truths v ts)
  | t => v t

def truths (v : Term → Truth) : List Term → List Truth
  | [] => []
  | t :: ts => truth v t :: truths v ts
end

mutual
def parts : Term → List Term
  | .junction _ ts => allParts ts
  | t => [t]

def allParts : List Term → List Term
  | [] => []
  | t :: ts => parts t ++ allParts ts
end

theorem truths_eq (v : Term → Truth) (ts : List Term) : truths v ts = ts.map (truth v) := by
  induction ts with
  | nil => rfl
  | cons t ts ih => rw [truths, ih, List.map_cons]

theorem all_parts_eq (ts : List Term) : allParts ts = ts.flatMap parts := by
  induction ts with
  | nil => rfl
  | cons t ts ih => rw [allParts, ih, List.flatMap_cons]

theorem truth_junction (v : Term → Truth) (k : Connective) (ts : List Term) :
    truth v (.junction k ts) = k.joinAll (ts.map (truth v)) := by
  rw [truth, truths_eq]

theorem parts_junction (k : Connective) (ts : List Term) :
    parts (.junction k ts) = ts.flatMap parts := by
  rw [parts, all_parts_eq]

theorem truth_chain (v : Term → Truth) (k : Connective) (t : Term) :
    k.joinAll ((Typed.chainTerms k t).map (truth v)) = truth v t := by
  rcases Typed.chain_terms_cases k t with ⟨ts, rfl, chain⟩ | single
  · rw [chain, truth_junction]
  · rw [single]
    exact k.join_all_single _

theorem parts_chain (k : Connective) (t : Term) :
    (Typed.chainTerms k t).flatMap parts = parts t := by
  rcases Typed.chain_terms_cases k t with ⟨ts, rfl, chain⟩ | single
  · rw [chain, parts_junction]
  · rw [single, List.flatMap_singleton]

theorem truth_combine (v : Term → Truth) (k : Connective) (t predicate : Term) :
    truth v (Query.combine k (some t) predicate) = k.join (truth v t) (truth v predicate) := by
  rw [Query.combine, truth_junction, List.map_append, Connective.join_all_append, truth_chain]
  exact congrArg _ (k.join_all_single _)

theorem parts_combine (k : Connective) (t predicate : Term) :
    parts (Query.combine k (some t) predicate) = parts t ++ parts predicate := by
  rw [Query.combine, parts_junction, List.flatMap_append, parts_chain, List.flatMap_singleton]

end Sql.Term

open Sql.Term

abbrev Predicates := List (Connective × Sql.Term)

namespace Predicates

def fold (v : Sql.Term → Truth) (first : Truth) (ps : Predicates) : Truth :=
  ps.foldl (fun known p => p.1.join known (truth v p.2)) first

def allParts (ps : Predicates) : List Sql.Term := ps.flatMap fun p => parts p.2

def accumulate (old : Option Sql.Term) (ps : Predicates) : Option Sql.Term :=
  ps.foldl (fun held p => some (Query.combine p.1 held p.2)) old

/-- The clause is worth the left fold of the predicates, behind what it held before or, when it held
nothing, behind the first predicate; and it holds the parts of all of them, each once and in
order. -/
structure Accumulated (old : Option Sql.Term) (ps : Predicates) (new : Option Sql.Term) : Prop where
  behind : ∀ w, old = some w → ∃ t, new = some t ∧ (∀ v, truth v t = fold v (truth v w) ps) ∧
    parts t = parts w ++ ps.allParts
  first : ∀ k p rest, old = none → ps = (k, p) :: rest → ∃ t, new = some t ∧
    (∀ v, truth v t = fold v (truth v p) rest) ∧ parts t = parts p ++ allParts rest
  empty : old = none → ps = [] → new = none

theorem accumulate_some (w : Sql.Term) (ps : Predicates) :
    ∃ t, accumulate (some w) ps = some t ∧ (∀ v, truth v t = fold v (truth v w) ps) ∧
      parts t = parts w ++ ps.allParts := by
  induction ps generalizing w with
  | nil => exact ⟨w, rfl, fun _ => rfl, (List.append_nil _).symm⟩
  | cons p rest ih =>
      obtain ⟨t, held, worth, order⟩ := ih (Query.combine p.1 (some w) p.2)
      refine ⟨t, held, ?_, ?_⟩
      · intro v
        rw [worth v, truth_combine]
        rfl
      · rw [order, parts_combine, List.append_assoc]
        rfl

theorem accumulated (old : Option Sql.Term) (ps : Predicates) :
    Accumulated old ps (accumulate old ps) where
  behind := by
    rintro w rfl
    exact accumulate_some w ps
  first := by
    rintro k p rest rfl rfl
    exact accumulate_some p rest
  empty := by
    rintro rfl rfl
    rfl

end Predicates

def Expr.lowerPredicates (c : Catalog) (clause : Clause) :
    List (Connective × Expr) → Scoped Predicates
  | [] => pure []
  | (k, e) :: rest => do
      let t ← e.lowerPredicate c clause
      let ts ← lowerPredicates c clause rest
      pure ((k, t) :: ts)

namespace Query

def applyAll (c : Catalog) (ops : List Operator) (q : Query) : Except QueryError Query :=
  ops.foldlM (fun q op => op.apply c q) q

structure Gathering where
  clause : Clause
  read : Query → Option Sql.Term
  write : Query → Scope → Option Sql.Term → Query
  scope_write : ∀ q s t, (write q s t).scope = s
  read_write : ∀ q s t, read (write q s t) = t
  write_write : ∀ q s t s' t', write (write q s t) s' t' = write q s' t'
  write_read : ∀ q, write q q.scope (read q) = q

namespace Gathering

def conditions : Gathering where
  clause := .condition
  read := Query.condition
  write q s t := { q with scope := s, condition := t }
  scope_write _ _ _ := rfl
  read_write _ _ _ := rfl
  write_write _ _ _ _ _ := rfl
  write_read _ := rfl

def groupConditions : Gathering where
  clause := .having
  read := Query.having
  write q s t := { q with scope := s, having := t }
  scope_write _ _ _ := rfl
  read_write _ _ _ := rfl
  write_write _ _ _ _ _ := rfl
  write_read _ := rfl

variable (g : Gathering) (c : Catalog)

def gather (k : Connective) (e : Expr) (q : Query) : Except QueryError Query := do
  let (t, s) ← (e.lowerPredicate c g.clause).commit q.scope
  .ok (g.write q s (some (combine k (g.read q) t)))

theorem gather_ok {k : Connective} {e : Expr} {q q' : Query} : g.gather c k e q = .ok q' ↔
    ∃ t s, (e.lowerPredicate c g.clause).outcome q.scope = (.ok t, s) ∧
      q' = g.write q s (some (combine k (g.read q) t)) := by
  rw [gather, bind_ok]
  constructor
  · rintro ⟨⟨t, s⟩, committed, ok⟩
    cases ok
    exact ⟨t, s, Steps.commit_ok.mp committed, rfl⟩
  · rintro ⟨t, s, ends, rfl⟩
    exact ⟨(t, s), Steps.commit_ok.mpr ends, rfl⟩

theorem gather_all {calls : List (Connective × Expr)} {q q' : Query}
    (applied : calls.foldlM (fun q call => g.gather c call.1 call.2 q) q = .ok q') :
    ∃ ps s, (Expr.lowerPredicates c g.clause calls).outcome q.scope = (.ok ps, s) ∧
      q' = g.write q s (ps.accumulate (g.read q)) := by
  induction calls generalizing q with
  | nil =>
      cases applied
      exact ⟨[], _, rfl, (g.write_read _).symm⟩
  | cons call rest ih =>
      rw [List.foldlM_cons, bind_ok] at applied
      obtain ⟨m, step, applied⟩ := applied
      obtain ⟨t, s, lowered, rfl⟩ := (g.gather_ok c).mp step
      obtain ⟨ps, s', others, rfl⟩ := ih applied
      rw [g.scope_write] at others
      refine ⟨(call.1, t) :: ps, s', ?_, ?_⟩
      · exact Steps.bind_ends.mpr ⟨t, s, lowered,
          Steps.bind_ends.mpr ⟨ps, s', others, Steps.pure_ends.mpr ⟨rfl, rfl⟩⟩⟩
      · rw [g.write_write, g.read_write]
        rfl

end Gathering

end Query

def Operator.restrict : Connective → Expr → Operator
  | .and, e => .filter e
  | .or, e => .orFilter e

theorem Operator.restrict_apply (c : Catalog) (k : Connective) (e : Expr) (q : Query) :
    (restrict k e).apply c q = Query.Gathering.conditions.gather c k e q := by
  cases k <;> rfl

/-- After any run of `filter` and `orFilter` calls the condition is worth the left fold of the
lowered predicates, and after any run of `having` calls so is the condition on groups. No predicate
is lost or repeated, and nothing but the clause and the scope has changed. -/
theorem predicates_accumulate (c : Catalog) (q q' : Query) :
    (∀ calls : List (Connective × Expr),
      q.applyAll c (calls.map fun call => .restrict call.1 call.2) = .ok q' →
        ∃ ps, (Expr.lowerPredicates c .condition calls).commit q.scope = .ok (ps, q'.scope) ∧
          ps.Accumulated q.condition q'.condition ∧
          q' = { q with scope := q'.scope, condition := q'.condition }) ∧
    ∀ exprs : List Expr, q.applyAll c (exprs.map .having) = .ok q' →
      ∃ ps, (Expr.lowerPredicates c .having (exprs.map fun e => (.and, e))).commit q.scope =
          .ok (ps, q'.scope) ∧
        ps.Accumulated q.having q'.having ∧
        q' = { q with scope := q'.scope, having := q'.having } := by
  constructor
  · intro calls applied
    rw [Query.applyAll, List.foldlM_map] at applied
    simp only [Operator.restrict_apply] at applied
    obtain ⟨ps, s, lowered, rfl⟩ := Query.Gathering.conditions.gather_all c applied
    exact ⟨ps, Steps.commit_ok.mpr lowered, Predicates.accumulated _ ps, rfl⟩
  · intro exprs applied
    rw [Query.applyAll, List.foldlM_map] at applied
    have gathered : (exprs.map fun e => (Connective.and, e)).foldlM
        (fun q call => Query.Gathering.groupConditions.gather c call.1 call.2 q) q = .ok q' := by
      rw [List.foldlM_map]
      exact applied
    obtain ⟨ps, s, lowered, rfl⟩ := Query.Gathering.groupConditions.gather_all c gathered
    exact ⟨ps, Steps.commit_ok.mpr lowered, Predicates.accumulated _ ps, rfl⟩

def Sample.mixedFilters : List (Connective × Expr) :=
  [(.and, writtenBy "Ann"), (.or, titled "A" "B"), (.and, writtenBy "Bob")]

def Sample.groupFilters : List Expr :=
  [.binary .countAll .gt (.constant (.int 1)), writtenBy "Ann"]

theorem mixed_filters_accumulate :
    (∃ q', Sample.start.applyAll Sample.catalog
        (Sample.mixedFilters.map fun call => .restrict call.1 call.2) = .ok q' ∧
      ∃ ps, (Expr.lowerPredicates Sample.catalog .condition Sample.mixedFilters).commit
          Sample.start.scope = .ok (ps, q'.scope) ∧
        ps.Accumulated none q'.condition ∧
        q' = { Sample.start with scope := q'.scope, condition := q'.condition }) ∧
    ∃ q', Sample.start.applyAll Sample.catalog (Sample.groupFilters.map .having) = .ok q' ∧
      ∃ ps, (Expr.lowerPredicates Sample.catalog .having
          (Sample.groupFilters.map fun e => (.and, e))).commit Sample.start.scope =
            .ok (ps, q'.scope) ∧
        ps.Accumulated none q'.having ∧
        q' = { Sample.start with scope := q'.scope, having := q'.having } := by
  have filtered : Sample.start.applyAll Sample.catalog
      (Sample.mixedFilters.map fun call => .restrict call.1 call.2) = .ok _ := rfl
  have grouped : Sample.start.applyAll Sample.catalog
      (Sample.groupFilters.map .having) = .ok _ := rfl
  exact ⟨⟨_, filtered,
      (predicates_accumulate Sample.catalog Sample.start _).1 Sample.mixedFilters filtered⟩,
    ⟨_, grouped, (predicates_accumulate Sample.catalog Sample.start _).2 _ grouped⟩⟩

end WikiQuery
