import WikiQuery.Lowering
import WikiQuery.Proofs.Steps

/- Lowering asks a catalog for tables by record type, and a table for its name, its fields and its
   relations by name. Two catalogs that answer these questions alike lower every expression to the
   same term, with the same scope and the same errors. -/
set_option autoImplicit false

namespace WikiQuery

inductive Answers (related : Table → Table → Prop) :
    Except QueryError Table → Except QueryError Table → Prop where
  | found {t t' : Table} (same : related t t') : Answers related (.ok t) (.ok t')
  | failed (e : QueryError) : Answers related (.error e) (.error e)

theorem Answers.bind_eq {related : Table → Table → Prop} {x y : Except QueryError Table} {β : Type}
    {f g : Table → Except QueryError β} (answers : Answers related x y)
    (next : ∀ t t', related t t' → f t = g t') : (x >>= f) = (y >>= g) := by
  cases answers with
  | found same => exact next _ _ same
  | failed e => rfl

theorem Answers.imp {related related' : Table → Table → Prop} {x y : Except QueryError Table}
    (answers : Answers related x y)
    (weaker : ∀ t t', x = .ok t → related t t' → related' t t') : Answers related' x y := by
  cases answers with
  | found same => exact .found (weaker _ _ rfl same)
  | failed e => exact .failed e

/-- No question by name tells the two tables apart. -/
structure Table.Alike (t t' : Table) : Prop where
  name : t.name = t'.name
  field : ∀ name, t.field? name = t'.field? name
  relation : ∀ name, t.relation? name = t'.relation? name

theorem Table.Alike.require_field {t t' : Table} (alike : t.Alike t') (name : String) :
    t.requireField name = t'.requireField name := by
  rw [Table.requireField, Table.requireField, alike.field, alike.name]

def Catalog.Alike (c c' : Catalog) : Prop :=
  ∀ e, Answers Table.Alike (c.tableById e) (c'.tableById e)

theorem Catalog.Alike.missing {c c' : Catalog} (alike : c.Alike c') (e : Entity) :
    c.find? e = none ↔ c'.find? e = none := by
  have failed : ∀ d : Catalog, d.find? e = none ↔ d.tableById e = .error (.unknownIdentity e) := by
    intro d
    rw [Catalog.tableById]
    cases d.find? e <;> simp
  have answers := alike e
  rw [failed, failed]
  generalize c.tableById e = first at answers
  generalize c'.tableById e = second at answers
  cases answers with
  | found => simp
  | failed => rfl

namespace Navigation

variable {c c' : Catalog}

theorem table_at_alike (alike : c.Alike c') (s : Scope) (label : String) :
    Answers Table.Alike (tableAt c s label) (tableAt c' s label) := by
  rw [tableAt, tableAt]
  split
  · exact .failed _
  · exact alike _

theorem root_label_alike (alike : c.Alike c') (s : Scope) (expr : Expr) (table : TableRef) :
    rootLabel c s expr table = rootLabel c' s expr table := by
  cases table with
  | label name => rfl
  | entity e =>
      rw [rootLabel, rootLabel]
      by_cases missing : c.find? e = none
      · rw [missing, (alike.missing e).mp missing]
      · obtain ⟨t, found⟩ := Option.ne_none_iff_exists'.mp missing
        obtain ⟨t', found'⟩ := Option.ne_none_iff_exists'.mp (mt (alike.missing e).mpr missing)
        rw [found, found']

theorem new_join_alike (alike : c.Alike c') (s : Scope) (label : String) (r : Relation) :
    newJoin c s label r = newJoin c' s label r := by
  refine (table_at_alike alike s label).bind_eq fun near near' nearAlike => ?_
  refine (alike r.target).bind_eq fun target target' targetAlike => ?_
  rw [nearAlike.require_field, targetAlike.require_field, targetAlike.name]

theorem relation_at_alike (alike : c.Alike c') (s : Scope) (expr : Expr) (label segment : String) :
    relationAt c s expr label segment = relationAt c' s expr label segment := by
  refine (table_at_alike alike s label).bind_eq fun t t' same => ?_
  rw [same.relation, same.field, same.name]

theorem column_at_alike (alike : c.Alike c') (s : Scope) (expr : Expr) (label name : String) :
    columnAt c s expr label name = columnAt c' s expr label name := by
  refine (table_at_alike alike s label).bind_eq fun t t' same => ?_
  rw [same.relation, same.field, same.name]

theorem follow_alike (alike : c.Alike c') (label : String) (r : Relation) :
    follow c label r = follow c' label r := by
  simp only [follow, new_join_alike alike]

theorem follow_all_alike (alike : c.Alike c') (expr : Expr) (label : String)
    (segments : List String) :
    followAll c expr label segments = followAll c' expr label segments := by
  induction segments generalizing label with
  | nil => rfl
  | cons segment rest ih => simp only [followAll, relation_at_alike alike, follow_alike alike, ih]

theorem member_alike (alike : c.Alike c') (table : TableRef) (path : List String) :
    member c table path = member c' table path := by
  simp only [member, root_label_alike alike, follow_all_alike alike, column_at_alike alike]

theorem candidates_alike (alike : c.Alike c') (name : String) (sources : List Source) :
    candidates c name sources = candidates c' name sources := by
  induction sources with
  | nil => rfl
  | cons source rest ih =>
      refine (alike source.entity).bind_eq fun t t' same => ?_
      rw [ih, same.field]

theorem unqualified_alike (alike : c.Alike c') (s : Scope) (name : String) :
    unqualified c s name = unqualified c' s name := by
  rw [unqualified, unqualified, candidates_alike alike]

end Navigation

theorem Expr.lower_alike {c c' : Catalog} (alike : c.Alike c') (clause : Clause) :
    ∀ e : Expr, e.lower c clause = e.lower c' clause
  | .member table path => by
      rw [lower, lower, Navigation.member_alike alike]
  | .field name => by
      simp only [lower, Navigation.unqualified_alike alike]
  | .constant value => by rw [lower, lower]
  | .binary left op right => by
      rw [lower, lower, lower_alike alike clause left, lower_alike alike clause right]
  | .unary op operand => by rw [lower, lower, lower_alike alike clause operand]
  | .call receiver (.aggregate a) args => by
      rw [lower, lower, lower_alike alike clause receiver]
  | .call receiver (.other name) args => by rw [lower, lower]
  | .call receiver (.pattern p) [arg] => by
      rw [lower, lower, lower_alike alike clause receiver, lower_alike alike clause arg]
  | .call receiver (.pattern p) [] => by simp only [lower]
  | .call receiver (.pattern p) (_ :: _ :: _) => by simp only [lower]
  | .call receiver (.membership negated) [arg] => by
      rw [lower, lower, lower_alike alike clause receiver]
  | .call receiver (.membership negated) [] => by simp only [lower]
  | .call receiver (.membership negated) (_ :: _ :: _) => by simp only [lower]
  | .call receiver (.textFunction f) [] => by
      rw [lower, lower, lower_alike alike clause receiver]
  | .call receiver (.textFunction f) (_ :: _) => by simp only [lower]
  | .call receiver (.datePart p) [] => by
      rw [lower, lower, lower_alike alike clause receiver]
  | .call receiver (.datePart p) (_ :: _) => by simp only [lower]
  | .free method args => by rw [lower, lower]
  | .conditional test whenTrue whenFalse => by rw [lower, lower]

end WikiQuery
