import WikiQuery.Navigation
import WikiQuery.Query.Basic
import WikiQuery.Proofs.Steps

/- What navigation does to a scope. The scope only grows, by one table and one join condition for
   each relation that is walked for the first time, and every column that is found belongs to a
   table of the scope. -/
set_option autoImplicit false

namespace WikiQuery

namespace Scope

theorem is_free_iff {s : Scope} {label : String} :
    s.isFree label = true ↔ ∀ source ∈ s.sources, source.label ≠ label := by
  simp [isFree, source?]

theorem source_of_source? {s : Scope} {label : String} {source : Source}
    (found : s.source? label = some source) : source ∈ s.sources ∧ source.label = label :=
  ⟨List.mem_of_find?_eq_some found, by simpa using List.find?_some found⟩

theorem add_source_ok {s s' : Scope} {source : Source} (added : s.addSource source = .ok s') :
    s.isFree source.label = true ∧ s' = { s with sources := s.sources ++ [source] } := by
  rw [addSource] at added
  split at added
  next free =>
    cases added
    exact ⟨free, rfl⟩
  next => cases added

end Scope

namespace Table

theorem field_of_field? {t : Table} {name : String} {f : Field} (found : t.field? name = some f) :
    f ∈ t.allFields ∧ f.name = name :=
  ⟨List.mem_of_find?_eq_some found, by simpa using List.find?_some found⟩

theorem require_field_ok {t : Table} {name : String} {f : Field}
    (required : t.requireField name = .ok f) : t.field? name = some f := by
  rw [requireField] at required
  split at required
  next found =>
    cases required
    exact found
  next => cases required

end Table

theorem Catalog.table_by_id_ok {c : Catalog} {e : Entity} {t : Table}
    (known : c.tableById e = .ok t) : c.find? e = some t := by
  rw [Catalog.tableById] at known
  split at known
  next found =>
    cases known
    exact found
  next => cases known

theorem Catalog.table_by_id_of_find? {c : Catalog} {e : Entity} {t : Table}
    (found : c.find? e = some t) : c.tableById e = .ok t := by
  rw [tableById, found]

theorem Catalog.table_of_ok {c : Catalog} {e : Entity} {t : Table} (known : c.tableOf e = .ok t) :
    t.entity = e ∧ c.find? t.entity = some t := by
  rw [Catalog.tableOf] at known
  split at known
  next found =>
    cases known
    have same : t.entity = e := by simpa using List.find?_some found
    exact ⟨same, same ▸ found⟩
  next => cases known

def Source.Offers (c : Catalog) (source : Source) (column : Column) : Prop :=
  source.label = column.label ∧
    ∃ table, c.find? source.entity = some table ∧
      ∃ field, table.field? column.field = some field ∧ field.type = column.type

def Located (c : Catalog) (s : Scope) (column : Column) : Prop :=
  ∃ source ∈ s.sources, source.Offers c column

namespace Navigation

theorem table_at_ok {c : Catalog} {s : Scope} {label : String} {t : Table}
    (known : tableAt c s label = .ok t) :
    ∃ source ∈ s.sources, source.label = label ∧ c.find? source.entity = some t := by
  rw [tableAt] at known
  split at known
  next => cases known
  next source found =>
    obtain ⟨member, same⟩ := Scope.source_of_source? found
    exact ⟨source, member, same, Catalog.table_by_id_ok known⟩

theorem located_at {c : Catalog} {s : Scope} {label name : String} {t : Table} {f : Field}
    (known : tableAt c s label = .ok t) (found : t.field? name = some f) :
    Located c s ⟨label, f.name, f.type⟩ := by
  obtain ⟨source, member, same, table⟩ := table_at_ok known
  refine ⟨source, member, same, t, table, f, ?_, rfl⟩
  rw [(Table.field_of_field? found).2]
  exact found

theorem new_join_ok {c : Catalog} {s : Scope} {label : String} {r : Relation} {source : Source}
    {j : Join} (joined : newJoin c s label r = .ok (source, j)) :
    ∃ near target localField foreignField, tableAt c s label = .ok near ∧
      c.find? r.target = some target ∧ near.field? r.localField = some localField ∧
      target.field? r.foreignField = some foreignField ∧
      source = ⟨r.target, target.name, s.nextLabel⟩ ∧
      j = ⟨⟨label, localField.name, localField.type⟩,
        ⟨s.nextLabel, foreignField.name, foreignField.type⟩, .equal, some r.name⟩ := by
  obtain ⟨near, nearKnown, rest⟩ := bind_ok.mp joined
  obtain ⟨target, targetKnown, rest⟩ := bind_ok.mp rest
  obtain ⟨localField, nearField, rest⟩ := bind_ok.mp rest
  obtain ⟨foreignField, targetField, rest⟩ := bind_ok.mp rest
  cases rest
  exact ⟨near, target, localField, foreignField, nearKnown, Catalog.table_by_id_ok targetKnown,
    Table.require_field_ok nearField, Table.require_field_ok targetField, rfl, rfl⟩

theorem relation_at_ok {c : Catalog} {s : Scope} {expr : Expr} {label segment : String}
    {r : Relation} (known : relationAt c s expr label segment = .ok r) :
    ∃ t, tableAt c s label = .ok t ∧ t.relation? r.name = some r := by
  obtain ⟨t, table, rest⟩ := bind_ok.mp known
  split at rest
  next found =>
    cases rest
    have name : r.name = segment := by simpa using List.find?_some found
    exact ⟨t, table, name ▸ found⟩
  next => split at rest <;> cases rest

theorem column_at_ok {c : Catalog} {s : Scope} {expr : Expr} {label name : String} {column : Column}
    (known : columnAt c s expr label name = .ok column) : Located c s column := by
  obtain ⟨t, table, rest⟩ := bind_ok.mp known
  split at rest
  next f found =>
    cases rest
    exact located_at table found
  next => split at rest <;> cases rest

theorem candidates_ok {c : Catalog} {name : String} :
    ∀ {sources : List Source} {columns : List Column}, candidates c name sources = .ok columns →
      ∀ column ∈ columns, ∃ source ∈ sources, source.Offers c column
  | [], columns, ok => by
      cases ok
      simp
  | source :: rest, columns, ok => by
      obtain ⟨table, known, ok⟩ := bind_ok.mp ok
      obtain ⟨others, restOk, ok⟩ := bind_ok.mp ok
      have later : ∀ column ∈ others, ∃ source' ∈ source :: rest, source'.Offers c column := by
        intro column member
        obtain ⟨source', inRest, found⟩ := candidates_ok restOk column member
        exact ⟨source', List.mem_cons_of_mem _ inRest, found⟩
      split at ok
      next f found =>
        cases ok
        intro column member
        rcases List.mem_cons.mp member with rfl | member
        · refine ⟨source, List.mem_cons_self, rfl, table, Catalog.table_by_id_ok known, f, ?_, rfl⟩
          rw [(Table.field_of_field? found).2]
          exact found
        · exact later column member
      next =>
        cases ok
        exact later

theorem unqualified_ok {c : Catalog} {s : Scope} {name : String} {column : Column}
    (found : unqualified c s name = .ok column) : Located c s column := by
  obtain ⟨columns, searched, rest⟩ := bind_ok.mp found
  split at rest
  next => cases rest
  next only =>
    cases rest
    exact candidates_ok searched column (by simp)
  next => cases rest

end Navigation

/-- `Grows c s s'`: the scope `s'` comes from `s` by walking relations for the first time, one
after another. -/
inductive Grows (c : Catalog) (s : Scope) : Scope → Prop where
  | refl : Grows c s s
  | join {m : Scope} {label : String} {table : Table} {r : Relation} {source : Source} {j : Join}
      (before : Grows c s m) (near : Navigation.tableAt c m label = .ok table)
      (related : table.relation? r.name = some r) (unjoined : m.joined? label r.name = none)
      (fresh : Navigation.newJoin c m label r = .ok (source, j))
      (free : m.isFree source.label = true) :
      Grows c s ⟨m.sources ++ [source], m.joins ++ [j]⟩

namespace Grows

theorem trans {c : Catalog} {s m s' : Scope} (first : Grows c s m) (second : Grows c m s') :
    Grows c s s' := by
  induction second with
  | refl => exact first
  | join _ near related unjoined fresh free ih => exact .join ih near related unjoined fresh free

theorem sources_prefix {c : Catalog} {s s' : Scope} (grows : Grows c s s') :
    s.sources <+: s'.sources := by
  induction grows with
  | refl => exact List.prefix_rfl
  | join _ _ _ _ _ _ ih => exact ih.trans (List.prefix_append _ _)

theorem joins_prefix {c : Catalog} {s s' : Scope} (grows : Grows c s s') :
    s.joins <+: s'.joins := by
  induction grows with
  | refl => exact List.prefix_rfl
  | join _ _ _ _ _ _ ih => exact ih.trans (List.prefix_append _ _)

end Grows

theorem Located.mono {c : Catalog} {s s' : Scope} {column : Column} (located : Located c s column)
    (more : s.sources ⊆ s'.sources) : Located c s' column := by
  obtain ⟨source, member, found⟩ := located
  exact ⟨source, more member, found⟩

namespace Navigation

theorem follow_ends {c : Catalog} {label next : String} {r : Relation} {s s' : Scope}
    (ends : (follow c label r).outcome s = (.ok next, s')) :
    (∃ j, s.joined? label r.name = some j ∧ next = j.right.label ∧ s' = s) ∨
      ∃ source j, s.joined? label r.name = none ∧ newJoin c s label r = .ok (source, j) ∧
        s.isFree source.label = true ∧ next = source.label ∧
        s' = ⟨s.sources ++ [source], s.joins ++ [j]⟩ := by
  rw [follow, Steps.get_bind_outcome] at ends
  split at ends
  next j found =>
    obtain ⟨rfl, rfl⟩ := Steps.pure_ends.mp ends
    exact .inl ⟨j, found, rfl, rfl⟩
  next unjoined =>
    obtain ⟨⟨source, j⟩, fresh, rest⟩ := Steps.of_except_bind_ends.mp ends
    obtain ⟨m, added, rest⟩ := Steps.of_except_bind_ends.mp rest
    obtain ⟨⟨⟩, m', stored, rest⟩ := Steps.bind_ends.mp rest
    rw [Steps.outcome_set] at stored
    cases stored
    obtain ⟨rfl, rfl⟩ := Steps.pure_ends.mp rest
    obtain ⟨free, rfl⟩ := Scope.add_source_ok added
    exact .inr ⟨source, j, unjoined, fresh, free, rfl, rfl⟩

theorem follow_grows {c : Catalog} {label next : String} {table : Table} {r : Relation}
    {s s' : Scope} (near : tableAt c s label = .ok table)
    (related : table.relation? r.name = some r)
    (ends : (follow c label r).outcome s = (.ok next, s')) : Grows c s s' := by
  obtain ⟨j, found, rfl, rfl⟩ | ⟨source, j, unjoined, fresh, free, rfl, rfl⟩ := follow_ends ends
  · exact .refl
  · exact .join .refl near related unjoined fresh free

theorem follow_all_grows {c : Catalog} {expr : Expr} :
    ∀ {segments : List String} {label last : String} {s s' : Scope},
      (followAll c expr label segments).outcome s = (.ok last, s') → Grows c s s'
  | [], label, last, s, s', ends => by
      obtain ⟨rfl, rfl⟩ := Steps.pure_ends.mp ends
      exact .refl
  | segment :: rest, label, last, s, s', ends => by
      rw [followAll, Steps.get_bind_outcome] at ends
      obtain ⟨r, known, ends⟩ := Steps.of_except_bind_ends.mp ends
      obtain ⟨next, m, followed, ends⟩ := Steps.bind_ends.mp ends
      obtain ⟨table, near, related⟩ := relation_at_ok known
      exact (follow_grows near related followed).trans (follow_all_grows ends)

theorem member_ends {c : Catalog} {table : TableRef} {path : List String} {s s' : Scope}
    {column : Column} (ends : (member c table path).outcome s = (.ok column, s')) :
    Grows c s s' ∧ Located c s' column := by
  rw [member] at ends
  split at ends
  next => exact absurd ends Steps.throw_ends
  next last found =>
    rw [Steps.get_bind_outcome] at ends
    obtain ⟨root, known, ends⟩ := Steps.of_except_bind_ends.mp ends
    obtain ⟨label, m, followed, ends⟩ := Steps.bind_ends.mp ends
    rw [Steps.get_bind_outcome] at ends
    obtain ⟨resolved, rfl⟩ := Steps.of_except_ends.mp ends
    exact ⟨follow_all_grows followed, column_at_ok resolved⟩

end Navigation

end WikiQuery
