import WikiQuery.Request
import WikiQuery.Proofs.Clauses
import WikiQuery.Proofs.Identifiers
import WikiQuery.Proofs.Sample

/- The queries that operators reach. Whatever the operators, labels and output names stay distinct
   identifiers, tables and joins are only added, and every column of every clause belongs to a
   table of the query. -/
set_option autoImplicit false

namespace WikiQuery

open Sql.Term

namespace Scope

/-- Labels are distinct identifiers, each source is a declared table under its name, and the join
conditions speak of columns of the scope. -/
structure Sound (c : Catalog) (s : Scope) : Prop where
  distinct : (s.sources.map Source.label).Nodup
  plain : ∀ source ∈ s.sources, isIdentifier source.label = true
  known : ∀ source ∈ s.sources, ∃ table, c.find? source.entity = some table ∧
    table.name = source.table
  joined : ∀ j ∈ s.joins, j.Located c s

structure Extends (s s' : Scope) : Prop where
  sources : s.sources <+: s'.sources
  joins : s.joins <+: s'.joins

theorem Extends.refl (s : Scope) : s.Extends s := ⟨List.prefix_rfl, List.prefix_rfl⟩

theorem Extends.trans {s m s' : Scope} (first : s.Extends m) (second : m.Extends s') :
    s.Extends s' :=
  ⟨first.sources.trans second.sources, first.joins.trans second.joins⟩

theorem distinct_concat {s : Scope} {source : Source} (free : s.isFree source.label = true) :
    ((s.sources ++ [source]).map Source.label).Nodup ↔ (s.sources.map Source.label).Nodup := by
  have fresh : source.label ∉ s.sources.map Source.label := by
    intro member
    obtain ⟨other, inScope, same⟩ := List.mem_map.mp member
    exact is_free_iff.mp free other inScope same
  rw [List.map_append, List.map_singleton, (List.perm_append_singleton _ _).nodup_iff,
    List.nodup_cons]
  exact and_iff_right fresh

theorem Sound.add_source {c : Catalog} {s : Scope} (sound : s.Sound c) {source : Source}
    {table : Table} (free : s.isFree source.label = true)
    (plain : isIdentifier source.label = true) (known : c.find? source.entity = some table)
    (name : table.name = source.table) :
    Sound c { s with sources := s.sources ++ [source] } where
  distinct := (distinct_concat free).mpr sound.distinct
  plain := by
    intro other member
    rcases List.mem_append.mp member with member | member
    · exact sound.plain other member
    · exact List.mem_singleton.mp member ▸ plain
  known := by
    intro other member
    rcases List.mem_append.mp member with member | member
    · exact sound.known other member
    · exact List.mem_singleton.mp member ▸ ⟨table, known, name⟩
  joined := by
    intro j member
    exact (sound.joined j member).mono (List.subset_append_left _ _)

theorem Sound.add_joins {c : Catalog} {s : Scope} (sound : s.Sound c) {joins : List Join}
    (located : ∀ j ∈ joins, j.Located c s) : Sound c { s with joins := s.joins ++ joins } where
  distinct := sound.distinct
  plain := sound.plain
  known := sound.known
  joined := by
    intro j member
    rcases List.mem_append.mp member with member | member
    · exact sound.joined j member
    · exact located j member

end Scope

namespace Grows

theorem extension {c : Catalog} {s s' : Scope} (grows : Grows c s s') : s.Extends s' :=
  ⟨grows.sources_prefix, grows.joins_prefix⟩

theorem sound {c : Catalog} {s s' : Scope} (grows : Grows c s s') (sound : s.Sound c) :
    s'.Sound c := by
  induction grows with
  | refl => exact sound
  | @join m label table r source j _ near _ _ fresh free ih =>
      obtain ⟨nearTable, target, localField, foreignField, nearKnown, targetKnown, nearField,
        targetField, rfl, rfl⟩ := Navigation.new_join_ok fresh
      have added := ih.add_source free (generated_label_identifier _) targetKnown rfl
      refine added.add_joins ?_
      intro j member
      cases List.mem_singleton.mp member
      constructor
      · exact (Navigation.located_at nearKnown nearField).mono (List.subset_append_left _ _)
      · refine ⟨⟨r.target, target.name, m.nextLabel⟩, by simp, rfl, target, targetKnown,
          foreignField, ?_, rfl⟩
        rw [(Table.field_of_field? targetField).2]
        exact targetField

end Grows

inductive Reachable (c : Catalog) (root : Entity) : Query → Prop where
  | start {q : Query} (started : Query.start c root = .ok q) : Reachable c root q
  | step {q q' : Query} {op : Operator} (before : Reachable c root q)
      (applied : op.apply c q = .ok q') : Reachable c root q'

namespace Query

structure NamesSound (outputs : List Output) : Prop where
  distinct : (outputs.filterMap Output.name).Nodup
  plain : ∀ name ∈ outputs.filterMap Output.name, isIdentifier name = true

/-- The invariant of reachable queries. Labels and output names are distinct identifiers, the root
table stands first as `T1`, every source is a declared table, and every column, wherever it occurs
in a clause or a join, belongs to a source. -/
structure Sound (c : Catalog) (root : Entity) (q : Query) : Prop where
  scope : q.scope.Sound c
  first : ∃ table, q.scope.sources.head? = some ⟨root, table, "T1"⟩
  condition : ∀ t ∈ q.condition, Formed (Located c q.scope) t
  outputs : ∀ o ∈ q.outputs, Formed (Located c q.scope) o.term
  names : NamesSound q.outputs
  groups : ∀ t ∈ q.groups, Formed (Located c q.scope) t
  having : ∀ t ∈ q.having, Formed (Located c q.scope) t
  orders : ∀ t ∈ q.orders, ∃ u d, t = .ordering u d ∧ Formed (Located c q.scope) u

theorem Sound.rescope {c : Catalog} {root : Entity} {q : Query} {s : Scope} (sound : q.Sound c root)
    (more : q.scope.Extends s) (scope : s.Sound c) : Sound c root { q with scope := s } := by
  have keeps : ∀ t, Formed (Located c q.scope) t → Formed (Located c s) t :=
    formed_mono fun _ located => located.mono more.sources.subset
  refine ⟨scope, ?_, ?_, ?_, sound.names, ?_, ?_, ?_⟩
  · obtain ⟨table, head⟩ := sound.first
    obtain ⟨added, same⟩ := more.sources
    refine ⟨table, ?_⟩
    rw [← same, List.head?_append, head]
    rfl
  · exact fun t member => keeps t (sound.condition t member)
  · exact fun o member => keeps o.term (sound.outputs o member)
  · exact fun t member => keeps t (sound.groups t member)
  · exact fun t member => keeps t (sound.having t member)
  · intro t member
    obtain ⟨u, d, same, formed⟩ := sound.orders t member
    exact ⟨u, d, same, keeps u formed⟩

theorem Sound.grown {c : Catalog} {root : Entity} {q : Query} {s : Scope} (sound : q.Sound c root)
    (grows : Grows c q.scope s) : Sound c root { q with scope := s } :=
  sound.rescope grows.extension (grows.sound sound.scope)

theorem combine_formed {p : Column → Prop} (k : Connective) {existing : Option Sql.Term}
    {predicate : Sql.Term} (old : ∀ t ∈ existing, Formed p t) (new : Formed p predicate) :
    Formed p (combine k existing predicate) := by
  cases existing with
  | none => exact new
  | some t =>
      obtain ⟨length, formed⟩ := formed_chain k (old t rfl)
      refine ⟨by rw [List.length_append, List.length_singleton]; omega,
        (all_formed_iff p _).mpr ?_⟩
      intro u member
      rcases List.mem_append.mp member with member | member
      · exact formed u member
      · exact List.mem_singleton.mp member ▸ new

theorem start_sound {c : Catalog} {root : Entity} {q : Query} (started : start c root = .ok q) :
    Sound c root q := by
  obtain ⟨table, known, ok⟩ := bind_ok.mp started
  cases ok
  obtain ⟨same, found⟩ := Catalog.table_of_ok known
  have scope : Scope.Sound c ⟨[⟨table.entity, table.name, generatedLabel 1⟩], []⟩ :=
    { distinct := by simp
      plain := by simpa using generated_label_identifier 1
      known := by simpa using ⟨table, found, rfl⟩
      joined := by simp }
  exact
    { scope := scope
      first := ⟨table.name, by rw [← same]; rfl⟩
      condition := by simp [ofSource]
      outputs := by simp [ofSource]
      names := ⟨by simp [ofSource], by simp [ofSource]⟩
      groups := by simp [ofSource]
      having := by simp [ofSource]
      orders := by simp [ofSource] }

section Operators

variable {c : Catalog} {root : Entity} {q q' : Query}

theorem filter_by_sound {k : Connective} {e : Expr} (sound : q.Sound c root)
    (applied : filterBy k c e q = .ok q') : q'.Sound c root ∧ q.scope.Extends q'.scope := by
  obtain ⟨t, s, lowers, rfl⟩ := filter_by_ok applied
  have grown := sound.grown lowers.grows
  refine ⟨{ grown with condition := ?_ }, lowers.grows.extension⟩
  intro u member
  cases member
  exact combine_formed k grown.condition lowers.formed

theorem restrict_groups_sound {e : Expr} (sound : q.Sound c root)
    (applied : q.restrictGroups c e = .ok q') : q'.Sound c root ∧ q.scope.Extends q'.scope := by
  obtain ⟨t, s, lowers, rfl⟩ := restrict_groups_ok applied
  have grown := sound.grown lowers.grows
  refine ⟨{ grown with having := ?_ }, lowers.grows.extension⟩
  intro u member
  cases member
  exact combine_formed .and grown.having lowers.formed

theorem group_by_sound {exprs : List Expr} (sound : q.Sound c root)
    (applied : q.groupBy c exprs = .ok q') : q'.Sound c root ∧ q.scope.Extends q'.scope := by
  obtain ⟨groups, s, grows, formed, rfl⟩ := group_by_ok applied
  exact ⟨{ sound.grown grows with groups := formed }, grows.extension⟩

theorem order_by_sound {e : Expr} {d : Direction} (sound : q.Sound c root)
    (applied : q.orderBy c e d = .ok q') : q'.Sound c root ∧ q.scope.Extends q'.scope := by
  obtain ⟨t, s, lowers, rfl⟩ := order_by_ok applied
  have grown := sound.grown lowers.grows
  refine ⟨{ grown with orders := ?_ }, lowers.grows.extension⟩
  intro u member
  rcases List.mem_append.mp member with member | member
  · exact grown.orders u member
  · exact ⟨t.term, d, List.mem_singleton.mp member, lowers.formed⟩

theorem check_identifier_ok {s : String} (checked : checkIdentifier s = .ok ()) :
    isIdentifier s = true := by
  rw [checkIdentifier] at checked
  split at checked
  next plain => exact plain
  next => cases checked

theorem join_as_sound {e : Entity} {label : String} {on : Expr} (sound : q.Sound c root)
    (applied : q.joinAs c e label on = .ok q') : q'.Sound c root ∧ q.scope.Extends q'.scope := by
  obtain ⟨table, m, joins, checked, known, free, lowered, _, rfl⟩ := join_as_ok.mp applied
  obtain ⟨grows, located⟩ := Expr.lower_join_ends on lowered
  have openedSound : Scope.Sound c
      ⟨q.scope.sources ++ [⟨table.entity, table.name, label⟩], q.scope.joins⟩ :=
    sound.scope.add_source free (check_identifier_ok checked) (Catalog.table_of_ok known).2 rfl
  have joinedSound := (grows.sound openedSound).add_joins fun j member => (located j member).1
  have extension : q.scope.Extends ⟨m.sources, m.joins ++ joins⟩ :=
    ⟨(List.prefix_append _ _).trans grows.sources_prefix,
      grows.joins_prefix.trans (List.prefix_append _ _)⟩
  exact ⟨sound.rescope extension joinedSound, extension⟩

theorem check_output_names {outputs : List Output} {name : Option String} {term : Sql.Term}
    (checked : checkOutput outputs name = .ok ()) (names : NamesSound outputs) :
    NamesSound (outputs ++ [⟨term, name⟩]) := by
  cases name with
  | none => exact ⟨by simpa using names.distinct, by simpa using names.plain⟩
  | some name =>
      obtain ⟨⟨⟩, plain, rest⟩ := bind_ok.mp checked
      split at rest
      next => cases rest
      next fresh =>
        rw [List.any_eq_true] at fresh
        have list : (outputs ++ [Output.mk term (some name)]).filterMap Output.name =
            outputs.filterMap Output.name ++ [name] := by
          rw [List.filterMap_append]
          rfl
        constructor
        · rw [list, List.nodup_append]
          refine ⟨names.distinct, by simp, ?_⟩
          intro a inOld b inNew same
          obtain ⟨old, member, named⟩ := List.mem_filterMap.mp inOld
          cases List.mem_singleton.mp inNew
          exact fresh ⟨old, member, by simpa [same] using named⟩
        · rw [list]
          intro other member
          rcases List.mem_append.mp member with member | member
          · exact names.plain other member
          · exact List.mem_singleton.mp member ▸ check_identifier_ok plain

theorem lower_outputs_ends {fields : List (Expr × Option String)} {kept outputs : List Output}
    {s s' : Scope} (ends : (lowerOutputs c kept fields).outcome s = (.ok outputs, s'))
    (formed : ∀ o ∈ kept, Formed (Located c s) o.term) (names : NamesSound kept) :
    Grows c s s' ∧ (∀ o ∈ outputs, Formed (Located c s') o.term) ∧ NamesSound outputs := by
  induction fields generalizing kept s with
  | nil =>
      obtain ⟨rfl, rfl⟩ := Steps.pure_ends.mp ends
      exact ⟨.refl, formed, names⟩
  | cons field rest ih =>
      obtain ⟨e, name⟩ := field
      obtain ⟨t, m, lowered, ends⟩ := Steps.bind_ends.mp ends
      obtain ⟨⟨⟩, checked, ends⟩ := Steps.of_except_bind_ends.mp ends
      have lowers := Expr.lowers_of_lower c .select e lowered
      have longer : ∀ o ∈ kept ++ [⟨t.term, name⟩], Formed (Located c m) o.term := by
        intro o member
        rcases List.mem_append.mp member with member | member
        · exact lowers.grows.formed (formed o member)
        · exact List.mem_singleton.mp member ▸ lowers.formed
      obtain ⟨grows, all⟩ := ih ends longer (check_output_names checked names)
      exact ⟨lowers.grows.trans grows, all⟩

theorem project_sound {kept : List Output} {fields : List (Expr × Option String)}
    (sound : q.Sound c root) (formed : ∀ o ∈ kept, Formed (Located c q.scope) o.term)
    (names : NamesSound kept) (applied : q.project c kept fields = .ok q') :
    q'.Sound c root ∧ q.scope.Extends q'.scope := by
  obtain ⟨⟨outputs, s⟩, lowered, ok⟩ := bind_ok.mp applied
  cases ok
  obtain ⟨grows, all, allNames⟩ := lower_outputs_ends (Steps.commit_ok.mp lowered) formed names
  exact ⟨{ sound.grown grows with outputs := all, names := allNames }, grows.extension⟩

theorem names_sound_nil : NamesSound [] := ⟨by simp, by simp⟩

theorem apply_sound {op : Operator} (sound : q.Sound c root) (applied : op.apply c q = .ok q') :
    q'.Sound c root ∧ q.scope.Extends q'.scope := by
  cases op with
  | filter e => exact filter_by_sound sound applied
  | orFilter e => exact filter_by_sound sound applied
  | select fields => exact project_sound sound (by simp) names_sound_nil applied
  | selectAs fields => exact project_sound sound (by simp) names_sound_nil applied
  | addOutput e name => exact project_sound sound sound.outputs sound.names applied
  | join e on => exact join_as_sound sound applied
  | joinAs e label on => exact join_as_sound sound applied
  | groupBy exprs => exact group_by_sound sound applied
  | having e => exact restrict_groups_sound sound applied
  | orderBy e d => exact order_by_sound sound applied
  | take n =>
      cases applied
      exact ⟨{ sound with }, .refl _⟩
  | skip n =>
      cases applied
      exact ⟨{ sound with }, .refl _⟩
  | distinct =>
      cases applied
      exact ⟨{ sound with }, .refl _⟩

end Operators

end Query

theorem Reachable.sound {c : Catalog} {root : Entity} {q : Query} (reached : Reachable c root q) :
    q.Sound c root := by
  induction reached with
  | start started => exact Query.start_sound started
  | step _ applied ih => exact (Query.apply_sound ih applied).1

theorem Reachable.run {c : Catalog} {root : Entity} {q q' : Query} (reached : Reachable c root q)
    {ops : List Operator} (applied : ops.foldlM (fun q op => op.apply c q) q = .ok q') :
    Reachable c root q' := by
  induction ops generalizing q with
  | nil =>
      cases applied
      exact reached
  | cons op ops ih =>
      rw [List.foldlM_cons, bind_ok] at applied
      obtain ⟨next, first, rest⟩ := applied
      exact ih (reached.step first) rest

theorem Query.Sound.columns {c : Catalog} {root : Entity} {q : Query} (sound : q.Sound c root) :
    ∀ column ∈ Request.columns q, Located c q.scope column := by
  have formed : ∀ t ∈ Request.terms q, ∀ column ∈ t.columns, Located c q.scope column := by
    intro t member
    simp only [Request.terms, List.mem_append, List.mem_map, Option.mem_toList] at member
    rcases member with (((member | ⟨o, member, rfl⟩) | member) | member) | member
    · exact formed_columns t (sound.condition t member)
    · exact formed_columns o.term (sound.outputs o member)
    · exact formed_columns t (sound.groups t member)
    · exact formed_columns t (sound.having t member)
    · obtain ⟨u, d, rfl, shape⟩ := sound.orders t member
      exact formed_columns u shape
  intro column member
  rcases List.mem_append.mp member with member | member
  · obtain ⟨t, inTerms, member⟩ := List.mem_flatMap.mp member
    exact formed t inTerms column member
  · obtain ⟨j, inJoins, member⟩ := List.mem_flatMap.mp member
    obtain ⟨left, right⟩ := sound.scope.joined j inJoins
    rcases List.mem_cons.mp member with rfl | member
    · exact left
    · exact List.mem_singleton.mp member ▸ right

/-- Every reachable query is well scoped, and every operator only adds tables and joins. -/
theorem reachable_well_scoped {c : Catalog} {root : Entity} {q : Query}
    (reached : Reachable c root q) :
    q.Sound c root ∧
      ∀ (op : Operator) (q' : Query), op.apply c q = .ok q' →
        q.scope.sources <+: q'.scope.sources ∧ q.scope.joins <+: q'.scope.joins := by
  have sound := reached.sound
  refine ⟨sound, ?_⟩
  intro op q' applied
  have extension := (Query.apply_sound sound applied).2
  exact ⟨extension.sources, extension.joins⟩

theorem by_author_well_scoped :
    Reachable Sample.catalog Sample.page Sample.byAuthor ∧
      Sample.byAuthor.Sound Sample.catalog Sample.page ∧
      ∀ (op : Operator) (q' : Query), op.apply Sample.catalog Sample.byAuthor = .ok q' →
        Sample.pagesAndAuthors.sources <+: q'.scope.sources ∧
          Sample.pagesAndAuthors.joins <+: q'.scope.joins := by
  have started : Query.start Sample.catalog Sample.page = .ok Sample.start := rfl
  have filtered : (Operator.filter (Sample.writtenBy "O'Hara")).apply Sample.catalog Sample.start =
      .ok Sample.byAuthor := rfl
  have reached : Reachable Sample.catalog Sample.page Sample.byAuthor :=
    .step (.start started) filtered
  exact ⟨reached, reachable_well_scoped reached⟩

theorem Sample.by_author_joined_reachable : Reachable catalog page byAuthorJoined := by
  have started : Query.start catalog page = .ok start := rfl
  have filtered : (Operator.filter (writtenBy "O'Hara")).apply catalog start = .ok byAuthor := rfl
  have joined : (Operator.joinAs author "A2" sameWriter).apply catalog byAuthor =
      .ok byAuthorJoined := rfl
  exact .step (.step (.start started) filtered) joined

theorem Sample.shelf_reachable : Reachable catalog page shelf := by
  have started : Query.start catalog page = .ok start := rfl
  have applied : shelfOperators.foldlM (fun q op => op.apply catalog q) start = .ok shelf := rfl
  exact (Reachable.start started).run applied

end WikiQuery
