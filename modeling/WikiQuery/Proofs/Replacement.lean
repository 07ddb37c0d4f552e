import WikiQuery.Proofs.Commutation
import WikiQuery.Request

/- Clauses that are written anew. Nothing of the earlier clause is left in the query but the tables
   and joins that it walked to, which stay in the scope. A walk can be taken up from any scope
   between its ends, so that the earlier clause leaves no trace when the new one would walk the same
   way. -/
set_option autoImplicit false

namespace WikiQuery

open Query

namespace Scope

def Paired (s s' : Scope) : Prop :=
  s'.sources.length + s.joins.length = s.sources.length + s'.joins.length

theorem Paired.rest {s m s' : Scope} (first : s.Paired m) (whole : s.Paired s') : m.Paired s' := by
  unfold Paired at first whole ⊢
  omega

theorem Extends.eq_of_length {s s' : Scope} (more : s.Extends s') (paired : s.Paired s')
    (same : s'.sources.length = s.sources.length) : s' = s := by
  have joins : s'.joins.length = s.joins.length := by
    unfold Paired at paired
    omega
  have sameSources := more.sources.eq_of_length same.symm
  have sameJoins := more.joins.eq_of_length joins.symm
  cases s
  cases s'
  cases sameSources
  cases sameJoins
  rfl

theorem Extends.comparable {s m t later : Scope} (pairedM : s.Paired m) (pairedT : s.Paired t)
    (moreM : m.Extends later) (moreT : t.Extends later) : m.Extends t ∨ t.Extends m := by
  unfold Paired at pairedM pairedT
  rcases Nat.le_total m.sources.length t.sources.length with shorter | shorter
  · exact .inl ⟨List.prefix_of_prefix_length_le moreM.sources moreT.sources shorter,
      List.prefix_of_prefix_length_le moreM.joins moreT.joins (by omega)⟩
  · exact .inr ⟨List.prefix_of_prefix_length_le moreT.sources moreM.sources shorter,
      List.prefix_of_prefix_length_le moreT.joins moreM.joins (by omega)⟩

end Scope

theorem Grows.paired {c : Catalog} {s s' : Scope} (grows : Grows c s s') : s.Paired s' := by
  induction grows with
  | refl => rfl
  | join _ _ _ _ _ _ ih =>
      simp only [Scope.Paired, List.length_append, List.length_singleton] at ih ⊢
      omega

namespace Scoped

variable {α β : Type} {c : Catalog} {x : Scoped α}

def Single (x : Scoped α) : Prop :=
  ∀ ⦃s s' : Scope⦄ ⦃a : α⦄, x.outcome s = (.ok a, s') →
    s.Paired s' ∧ s'.sources.length ≤ s.sources.length + 1

theorem of_except_single (x : Except QueryError α) : Single (Steps.ofExcept x) := by
  intro s s' a ends
  obtain ⟨_, rfl⟩ := Steps.of_except_ends.mp ends
  exact ⟨rfl, Nat.le_succ _⟩

theorem ask_single (ask : Scope → Except QueryError α) :
    Single (get >>= fun s => Steps.ofExcept (ask s)) := by
  intro s s' a ends
  obtain ⟨_, rfl⟩ := Steps.of_except_ends.mp ends
  exact ⟨rfl, Nat.le_succ _⟩

theorem follow_single (label : String) (r : Relation) : (Navigation.follow c label r).Single := by
  intro s s' next ends
  obtain ⟨j, _, _, rfl⟩ | ⟨source, j, _, _, _, _, rfl⟩ := Navigation.follow_ends ends
  · exact ⟨rfl, Nat.le_succ _⟩
  · simp only [Scope.Paired, List.length_append, List.length_singleton]
    omega

theorem Stable.again (stable : x.Stable c) {s s' later later' : Scope} {a b : α}
    (ends : x.outcome s = (.ok a, s')) (more : s'.Extends later) (declared : later.Declared c)
    (again : x.outcome later = (.ok b, later')) : b = a ∧ later' = later := by
  obtain ⟨answer, same, repeated⟩ := (stable ends).2 more declared
  rw [again] at repeated
  cases repeated
  cases same
  exact ⟨rfl, rfl⟩

/-- Taken up from a scope between the ends of a run, the step gives the value of that run and leaves
the scope where that run ended. -/
def Resumes (c : Catalog) (x : Scoped α) : Prop :=
  ∀ ⦃s m s' s'' : Scope⦄ ⦃a b : α⦄, x.outcome s = (.ok a, s') → s.Extends m → s.Paired m →
    m.Extends s' → m.Declared c → x.outcome m = (.ok b, s'') → b = a ∧ s'' = s'

theorem Stable.resumes (stable : x.Stable c) (single : x.Single) : x.Resumes c := by
  intro s m s' s'' a b ends more paired before declared again
  obtain ⟨whole, short⟩ := single ends
  have lower := more.sources.length_le
  have upper := before.sources.length_le
  rcases Nat.lt_or_ge s.sources.length m.sources.length with longer | same
  · obtain rfl := before.eq_of_length (paired.rest whole) (by omega)
    exact stable.again ends (.refl _) declared again
  · obtain rfl := more.eq_of_length paired (by omega)
    rw [ends] at again
    cases again
    exact ⟨rfl, rfl⟩

namespace Composed

theorem paired (composed : x.Composed c) :
    ∀ ⦃s s' : Scope⦄ ⦃a : α⦄, x.outcome s = (.ok a, s') → s.Paired s' := by
  induction composed with
  | ofExcept x => exact fun _ _ _ ends => (of_except_single x ends).1
  | @ask _ ask => exact fun _ _ _ ends => (ask_single ask ends).1
  | follow label r => exact fun _ _ _ ends => (follow_single label r ends).1
  | bind _ _ firstIh secondIh =>
      intro s s' b ends
      obtain ⟨a, m, firstEnds, secondEnds⟩ := Steps.bind_ends.mp ends
      have first := firstIh firstEnds
      have second := secondIh a secondEnds
      unfold Scope.Paired at first second ⊢
      omega

-- The scope that is taken up from lies before or behind the one where the first step ended. In the
-- first case that step is taken up, in the second it repeats itself and the other one is taken up.
theorem resumes_bind {f : α → Scoped β} (first : x.Composed c) (second : ∀ a, (f a).Composed c)
    (firstResumes : x.Resumes c) (secondResumes : ∀ a, (f a).Resumes c) : (x >>= f).Resumes c := by
  intro s m s' s'' b b' ends more paired before declared again
  obtain ⟨a, t, firstEnds, secondEnds⟩ := Steps.bind_ends.mp ends
  obtain ⟨a', t', firstAgain, secondAgain⟩ := Steps.bind_ends.mp again
  have pairedT := first.paired firstEnds
  have grown := ((second a).stable secondEnds).1
  rcases Scope.Extends.comparable paired pairedT before grown with within | beyond
  · obtain ⟨rfl, rfl⟩ := firstResumes firstEnds more paired within declared firstAgain
    rw [secondEnds] at secondAgain
    cases secondAgain
    exact ⟨rfl, rfl⟩
  · obtain ⟨rfl, rfl⟩ := first.stable.again firstEnds beyond declared firstAgain
    exact secondResumes a' secondEnds beyond (pairedT.rest paired) before declared secondAgain

theorem resumes (composed : x.Composed c) : x.Resumes c := by
  induction composed with
  | ofExcept x => exact (Stable.of_except x).resumes (of_except_single x)
  | @ask _ ask lasting => exact lasting.stable.resumes (ask_single ask)
  | follow label r => exact (Navigation.follow_stable label r).resumes (follow_single label r)
  | bind first second firstIh secondIh => exact resumes_bind first second firstIh secondIh

end Composed

end Scoped

namespace Operator

def replaces : Operator → Bool
  | .select _ | .selectAs _ | .groupBy _ => true
  | _ => false

theorem clause_of_replaces {op : Operator} (replaces : op.replaces = true) : op.part ≠ .scope := by
  cases op with
  | select | selectAs | groupBy =>
      intro same
      cases same
  | _ => cases replaces

theorem opens_none {op : Operator} (clause : op.part ≠ .scope) (s : Scope) :
    op.opens s = none := by
  cases op <;> first | rfl | exact absurd rfl clause

variable {c : Catalog} {op : Operator} {q q₂ q' : Query}

theorem apply_replaces (c : Catalog) (replaces : op.replaces = true) :
    ∃ (α : Type) (step : Scoped α) (content : α → op.part.Content), step.Composed c ∧
      ∀ q q' : Query, op.apply c q = .ok q' ↔
        ∃ a s, step.outcome q.scope = (.ok a, s) ∧
          q' = (q.set .scope s).set op.part (content a) := by
  have settles : ∃ (α : Type) (step : Scoped α) (content : α → op.part.Content),
      step.Composed c ∧ ∀ q : Query, op.apply c q = q.settle step op.part fun a _ => content a := by
    cases op with
    | select fields =>
        exact ⟨_, lowerOutputs c [] _, id, lower_outputs_composed _ [], fun _ => rfl⟩
    | selectAs fields =>
        exact ⟨_, lowerOutputs c [] _, id, lower_outputs_composed _ [], fun _ => rfl⟩
    | groupBy exprs =>
        exact ⟨_, lowerTerms c .groupBy exprs, id, lower_terms_composed .groupBy exprs,
          fun _ => rfl⟩
    | _ => cases replaces
  obtain ⟨α, step, content, composed, same⟩ := settles
  refine ⟨α, step, content, composed, ?_⟩
  intro q q'
  rw [same, settle_ok]

theorem apply_rewritten (replaces : op.replaces = true) (content : op.part.Content)
    (applied : op.apply c (q.set op.part content) = .ok q') : op.apply c q = .ok q' := by
  have clause := clause_of_replaces replaces
  obtain ⟨α, step, written, _, runs⟩ := apply_replaces c replaces
  obtain ⟨a, s, ends, rfl⟩ := (runs _ _).mp applied
  have scope : (q.set op.part content).scope = q.scope := get_set_of_ne clause q content
  rw [scope] at ends
  refine (runs _ _).mpr ⟨a, s, ends, ?_⟩
  rw [set_comm clause, set_set]

theorem apply_rescoped {m : Scope} (replaces : op.replaces = true) (grows : Grows c q.scope m)
    (declared : m.Declared c) (alone : op.apply c q = .ok q')
    (after : op.apply c (q.set .scope m) = .ok q₂) :
    (q' = q₂ ↔ m.Extends q'.scope) ∧ (q'.scope.Extends m → q₂ = q'.set .scope m) := by
  have clause := clause_of_replaces replaces
  have more : q.scope.Extends m := ⟨grows.sources_prefix, grows.joins_prefix⟩
  have scope : ∀ (s : Scope) content, ((q.set .scope s).set op.part content).scope = s :=
    fun s content => get_set_of_ne clause (q.set .scope s) content
  obtain ⟨α, step, written, composed, runs⟩ := apply_replaces c replaces
  obtain ⟨a, s, ends, rfl⟩ := (runs _ _).mp alone
  obtain ⟨b, s', endsAfter, rfl⟩ := (runs _ _).mp after
  rw [scope, set_set q .scope]
  refine ⟨⟨?_, ?_⟩, ?_⟩
  · intro same
    have sameScope := congrArg Query.scope same
    rw [scope, scope] at sameScope
    exact sameScope ▸ (composed.stable endsAfter).1
  · intro within
    obtain ⟨rfl, rfl⟩ := composed.resumes ends more grows.paired within declared endsAfter
    rfl
  · intro beyond
    obtain ⟨rfl, rfl⟩ := composed.stable.again ends beyond declared endsAfter
    rw [set_comm clause, set_set q .scope]

end Operator

/-- A clause that is written anew. The second operator gives what it gives on the query with only
the scope of the first one, so nothing else of the replaced clause survives. If the first one
brought in no table, the second one alone leads to the same query. Wherever the second one alone
leads, it is to the same query exactly when it brings in by itself what the first one brought in;
and when the first one brought in all that the second one needs, only tables and joins are left
over. -/
theorem replaced_clause_leaves_scope {c : Catalog} {root : Entity} {q q₁ q₂ : Query}
    {first second : Operator} (reached : Reachable c root q) (samePart : first.part = second.part)
    (replaces : second.replaces = true) (before : first.apply c q = .ok q₁)
    (after : second.apply c q₁ = .ok q₂) :
    second.apply c (q.set .scope q₁.scope) = .ok q₂ ∧
      (q₁.scope.sources = q.scope.sources → second.apply c q = .ok q₂) ∧
      ∀ q', second.apply c q = .ok q' →
        (q' = q₂ ↔ q₁.scope.Extends q'.scope) ∧
        (q'.scope.Extends q₁.scope → q₂ = q'.set .scope q₁.scope) := by
  have clause := samePart ▸ Operator.clause_of_replaces replaces
  have grows := Query.apply_grows (Operator.opens_none clause _) before
  have frame := Operator.apply_frame before
  rw [samePart] at frame
  rw [frame] at after
  have anew := Operator.apply_rewritten replaces _ after
  refine ⟨anew, ?_, ?_⟩
  · intro noTable
    rwa [grows.eq_of_sources noTable] at anew
  · intro q' alone
    exact Operator.apply_rescoped replaces grows (reached.step before).declared alone anew

namespace Sample

def ofAuthor (name : String) : Expr := .member (.entity page) ["author", name]

def showing (column : Column) : Query :=
  { start with scope := pagesAndAuthors, outputs := [⟨.column column, none⟩] }

def tablesAfter (ops : List Operator) : Except QueryError (Option String) := do
  let q ← ops.foldlM (fun q op => op.apply catalog q) start
  let request ← Request.ofQuery catalog .standard q
  .ok (request.get? "tables")

end Sample

-- Both clauses walk to the author, so the first one leaves no trace.
theorem author_name_replaced_by_id :
    Reachable Sample.catalog Sample.page Sample.start ∧
      (Operator.select [Sample.ofAuthor "name"]).apply Sample.catalog Sample.start =
        .ok (Sample.showing ⟨"T2", "name", .string⟩) ∧
      (Operator.select [Sample.ofAuthor "id"]).apply Sample.catalog
          (Sample.showing ⟨"T2", "name", .string⟩) = .ok (Sample.showing ⟨"T2", "id", .integer⟩) ∧
      (Operator.select [Sample.ofAuthor "id"]).apply Sample.catalog
          (Sample.start.set .scope Sample.pagesAndAuthors) =
        .ok (Sample.showing ⟨"T2", "id", .integer⟩) ∧
      ∀ q', (Operator.select [Sample.ofAuthor "id"]).apply Sample.catalog Sample.start = .ok q' →
        (q' = Sample.showing ⟨"T2", "id", .integer⟩ ↔ Sample.pagesAndAuthors.Extends q'.scope) := by
  have reached : Reachable Sample.catalog Sample.page Sample.start := .start rfl
  have samePart : (Operator.select [Sample.ofAuthor "name"]).part =
      (Operator.select [Sample.ofAuthor "id"]).part := rfl
  have before : (Operator.select [Sample.ofAuthor "name"]).apply Sample.catalog Sample.start =
      .ok (Sample.showing ⟨"T2", "name", .string⟩) := rfl
  have after : (Operator.select [Sample.ofAuthor "id"]).apply Sample.catalog
      (Sample.showing ⟨"T2", "name", .string⟩) = .ok (Sample.showing ⟨"T2", "id", .integer⟩) := rfl
  obtain ⟨anew, _, alone⟩ := replaced_clause_leaves_scope reached samePart rfl before after
  exact ⟨reached, before, after, anew, fun q' applied => (alone q' applied).1⟩

-- The author stays when the clause that walked there is gone, and a name can depend on it.
theorem replaced_author_stays :
    Sample.tablesAfter [.select [Sample.ofAuthor "name"], .select [.field "title"]] =
        .ok (some "Pages=T1,Authors=T2") ∧
      Sample.tablesAfter [.select [.field "title"]] = .ok (some "Pages=T1") ∧
      Sample.tablesAfter [.groupBy [Sample.ofAuthor "name"], .groupBy [.field "title"]] =
        .ok (some "Pages=T1,Authors=T2") ∧
      Sample.tablesAfter [.groupBy [.field "title"]] = .ok (some "Pages=T1") ∧
      Sample.tablesAfter [.select [Sample.ofAuthor "name"], .select [.field "name"]] =
        .ok (some "Pages=T1,Authors=T2") ∧
      Sample.tablesAfter [.select [.field "name"]] = .error (.unknownField "name") :=
  ⟨rfl, rfl, rfl, rfl, rfl, rfl⟩

end WikiQuery
