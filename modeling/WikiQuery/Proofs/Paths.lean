import WikiQuery.Proofs.Acceptance
import WikiQuery.Proofs.Declarations
import WikiQuery.Proofs.Forest
import WikiQuery.Proofs.Walks

/- Member paths. A path resolves exactly when the relations of the catalog lead along it from its
   root to a table with the field at its end; and it brings in one table and one join for each
   relation from the first one on that the query has not walked yet, and nothing else. -/
set_option autoImplicit false

namespace WikiQuery

-- The scopes in which members are resolved: those of reachable queries, those that a join has just
-- opened a table in, and all that relations walked from there have made of them.
inductive ReachableScope (c : Catalog) (root : Entity) : Scope → Prop where
  | query {q : Query} (reached : Reachable c root q) : ReachableScope c root q.scope
  | opened {q : Query} {e : Entity} {table : Table} {label : String} {s : Scope}
      (reached : Reachable c root q) (checked : checkIdentifier label = .ok ())
      (known : c.tableOf e = .ok table)
      (added : q.scope.addSource ⟨table.entity, table.name, label⟩ = .ok s) :
      ReachableScope c root s
  | walked {s s' : Scope} (before : ReachableScope c root s) (grows : Grows c s s') :
      ReachableScope c root s'

inductive Catalog.Navigates (c : Catalog) : Table → List String → Table → Prop where
  | here (t : Table) : Navigates c t [] t
  | along {t next last : Table} {r : Relation} {path : List String} (related : r ∈ t.relations)
      (declared : next ∈ c.tables) (target : next.entity = r.target)
      (rest : Navigates c next path last) : Navigates c t (r.name :: path) last

structure Source.Placed (c : Catalog) (s : Scope) (near : Source) (table : Table) : Prop where
  sound : s.Sound c
  forest : s.Forest c
  inScope : near ∈ s.sources
  declared : table ∈ c.tables
  entity : table.entity = near.entity

namespace Scope

def Root (s : Scope) (near : Source) : TableRef → Prop
  | .entity e => s.sourcesOf e = [near]
  | .label name => near ∈ s.sources ∧ near.label = name

/-- `s'` is `s` with one more table and one more join for each relation of `fresh`, in their order:
the path before them has been walked in `s` already, and the first of them has not. -/
structure LengthenedBy (s s' : Scope) (label : String) (walked fresh : List String)
    (sources : List Source) (joins : List Join) : Prop where
  border : ∃ middle, s.Leads label walked middle ∧
    ∀ relation ∈ fresh.head?, ∀ next, ¬ s.Leads middle [relation] next
  tables : s'.sources = s.sources ++ sources
  conditions : s'.joins = s.joins ++ joins
  count : sources.length = fresh.length
  via : joins.map Join.via = fresh.map some
  right : (joins.map fun j => j.right.label) = sources.map Source.label

structure Arrives (s : Scope) (near : Source) (path : List String) (far : Source) (s' : Scope) :
    Prop where
  inScope : far ∈ s'.sources
  leads : s'.Leads near.label path far.label
  lengthened : ∃ walked fresh sources joins, path = walked ++ fresh ∧
    s.LengthenedBy s' near.label walked fresh sources joins

inductive Crossed (s : Scope) (label relation : String) (far : Source) : Scope → Prop where
  | found {j : Join} (member : j ∈ s.joins) (left : j.left.label = label)
      (via : j.via = some relation) (right : j.right.label = far.label) :
      Crossed s label relation far s
  | made {j : Join} (unjoined : s.joined? label relation = none)
      (free : s.isFree far.label = true) (left : j.left.label = label)
      (via : j.via = some relation) (right : j.right.label = far.label) :
      Crossed s label relation far ⟨s.sources ++ [far], s.joins ++ [j]⟩

variable {c : Catalog} {s s' : Scope}

theorem Root.in_scope {near : Source} {ref : TableRef} (root : s.Root near ref) :
    near ∈ s.sources := by
  cases ref with
  | entity e =>
      have single : s.sourcesOf e = [near] := root
      have only : near ∈ s.sourcesOf e := single ▸ List.mem_singleton_self near
      exact (mem_sources_of.mp only).1
  | label name => exact root.1

theorem Root.root_label {near : Source} {ref : TableRef} (root : s.Root near ref) (expr : Expr) :
    Navigation.rootLabel c s expr ref = .ok near.label := by
  cases ref with
  | entity e => exact Navigation.root_label_single root expr
  | label name =>
      obtain ⟨member, rfl⟩ := root
      have taken : ¬ s.isFree near.label = true := fun free => is_free_iff.mp free near member rfl
      exact if_neg taken

theorem not_leads_of_unjoined {label relation : String} (unjoined : s.joined? label relation = none)
    (next : String) : ¬ s.Leads label [relation] next := by
  intro leads
  cases leads with
  | along member left via _ =>
      exact List.find?_eq_none.mp unjoined _ member (by simp [via, left])

-- A table that has just come in is the start of no path but the empty one.
theorem Leads.of_free (sound : s.Sound c) {sources : List Source} {j : Join} {label last : String}
    (free : s.isFree label = true) (other : j.left.label ≠ label) {path : List String}
    (leads : Leads ⟨sources, s.joins ++ [j]⟩ label path last) : path = [] := by
  cases leads with
  | here => rfl
  | along member left _ _ =>
      rcases List.mem_append.mp member with member | member
      · obtain ⟨source, inScope, same, _⟩ := (sound.joined _ member).1
        exact absurd (same.trans left) (is_free_iff.mp free source inScope)
      · cases List.mem_singleton.mp member
        exact absurd left other

namespace LengthenedBy

variable {label relation : String} {walked fresh : List String} {sources : List Source}
  {joins : List Join}

theorem refl (s : Scope) (label : String) : s.LengthenedBy s label [] [] [] [] :=
  ⟨⟨label, .here label, by simp⟩, by simp, by simp, rfl, rfl, rfl⟩

theorem found {j : Join} (member : j ∈ s.joins) (left : j.left.label = label)
    (via : j.via = some relation)
    (rest : s.LengthenedBy s' j.right.label walked fresh sources joins) :
    s.LengthenedBy s' label (relation :: walked) fresh sources joins := by
  obtain ⟨middle, leads, unjoined⟩ := rest.border
  exact { rest with border := ⟨middle, .along member left via leads, unjoined⟩ }

theorem made (sound : s.Sound c) {near far : Source} {j : Join} (inScope : near ∈ s.sources)
    (unjoined : s.joined? near.label relation = none) (free : s.isFree far.label = true)
    (left : j.left.label = near.label) (via : j.via = some relation)
    (right : j.right.label = far.label)
    (rest : LengthenedBy ⟨s.sources ++ [far], s.joins ++ [j]⟩ s' far.label walked fresh sources
      joins) :
    walked = [] ∧
      s.LengthenedBy s' near.label [] (relation :: fresh) (far :: sources) (j :: joins) := by
  obtain ⟨middle, leads, _⟩ := rest.border
  have other : j.left.label ≠ far.label := left ▸ is_free_iff.mp free near inScope
  refine ⟨leads.of_free sound free other, ?_⟩
  constructor
  · refine ⟨near.label, .here _, ?_⟩
    intro first isFirst
    cases isFirst
    exact not_leads_of_unjoined unjoined
  · rw [rest.tables, List.append_assoc, List.singleton_append]
  · rw [rest.conditions, List.append_assoc, List.singleton_append]
  · rw [List.length_cons, List.length_cons, rest.count]
  · rw [List.map_cons, List.map_cons, rest.via, via]
  · rw [List.map_cons, List.map_cons, rest.right, right]

end LengthenedBy

theorem Crossed.leads {near far : Source} {relation last : String} {m : Scope} {path : List String}
    (crossed : s.Crossed near.label relation far m) (more : m.joins ⊆ s'.joins)
    (rest : s'.Leads far.label path last) : s'.Leads near.label (relation :: path) last := by
  cases crossed with
  | found member left via right => exact .along (more member) left via (right ▸ rest)
  | made _ _ left via right => exact .along (more (by simp)) left via (right ▸ rest)

namespace Arrives

theorem refl {near : Source} (inScope : near ∈ s.sources) : s.Arrives near [] near s :=
  ⟨inScope, .here near.label, _, _, _, _, rfl, .refl s near.label⟩

theorem cross {near middle far : Source} {relation : String} {path : List String} {m : Scope}
    (arrives : m.Arrives middle path far s') (sound : s.Sound c) (inScope : near ∈ s.sources)
    (crossed : s.Crossed near.label relation middle m) :
    s.Arrives near (relation :: path) far s' := by
  obtain ⟨walked, fresh, sources, joins, split, rest⟩ := arrives.lengthened
  have more : m.joins ⊆ s'.joins := rest.conditions ▸ List.subset_append_left _ _
  refine ⟨arrives.inScope, crossed.leads more arrives.leads, ?_⟩
  cases crossed with
  | found member left via right =>
      rw [← right] at rest
      exact ⟨_, _, _, _, by rw [split, List.cons_append], rest.found member left via⟩
  | made unjoined free left via right =>
      obtain ⟨rfl, lengthened⟩ := rest.made sound inScope unjoined free left via right
      exact ⟨_, _, _, _, by rw [split, List.nil_append, List.nil_append], lengthened⟩

end Arrives

end Scope

namespace ReachableScope

variable {c : Catalog} {root : Entity} {s : Scope}

theorem sound (reached : ReachableScope c root s) : s.Sound c := by
  induction reached with
  | query reached => exact reached.sound.scope
  | opened reached checked known added =>
      obtain ⟨free, rfl⟩ := Scope.add_source_ok added
      exact reached.sound.scope.add_source free (Query.check_identifier_ok checked)
        (Catalog.table_of_ok known).2 rfl
  | walked _ grows ih => exact grows.sound ih

theorem forest (reached : ReachableScope c root s) : s.Forest c := by
  induction reached with
  | query reached => exact reached.forest
  | opened reached _ _ added =>
      obtain ⟨_, rfl⟩ := Scope.add_source_ok added
      exact reached.forest.add_source _
  | walked _ grows ih => exact ih.grown grows

end ReachableScope

namespace Source.Placed

variable {c : Catalog} {s s' : Scope} {near far : Source} {table next : Table} {r : Relation}

theorem known (consistent : c.Consistent) (placed : near.Placed c s table) :
    c.find? near.entity = some table :=
  placed.entity ▸ consistent.find?_of_mem placed.declared

theorem table_at (consistent : c.Consistent) (placed : near.Placed c s table) :
    Navigation.tableAt c s near.label = .ok table :=
  Navigation.table_at_of_source? (placed.sound.source?_of_mem placed.inScope)
    (placed.known consistent)

theorem grown (placed : near.Placed c s table) (grows : Grows c s s') (inScope : far ∈ s'.sources)
    (declared : next ∈ c.tables) (entity : next.entity = far.entity) : far.Placed c s' next :=
  ⟨grows.sound placed.sound, placed.forest.grown grows, inScope, declared, entity⟩

theorem crosses (consistent : c.Consistent) (placed : near.Placed c s table)
    (related : r ∈ table.relations) (declared : next ∈ c.tables) (target : next.entity = r.target) :
    ∃ far m, (Navigation.follow c near.label r).outcome s = (.ok far.label, m) ∧
      far.Placed c m next ∧ s.Crossed near.label r.name far m := by
  have found := consistent.relation?_of_mem placed.declared related
  have nearAt := placed.table_at consistent
  cases joined : s.joined? near.label r.name with
  | some j =>
      obtain ⟨far, inScope, entity, right⟩ := placed.forest.joined_target placed.sound.distinct
        placed.inScope (placed.known consistent) found joined
      obtain ⟨member, via, left⟩ := Scope.join_of_joined? joined
      refine ⟨far, s, ?_, placed.grown .refl inScope declared (target.trans entity.symm),
        .found member left via right⟩
      rw [Navigation.follow_found joined, right]
  | none =>
      obtain ⟨_, _, _, known, localFound, foreignFound, _⟩ :=
        consistent.linked table placed.declared r related
      have fresh := Navigation.new_join_of_fields nearAt (Catalog.table_by_id_ok known) localFound
        foreignFound
      have followed := Navigation.follow_first joined fresh
      exact ⟨_, _, followed, placed.grown (Navigation.follow_grows nearAt found followed) (by simp)
        declared target, .made joined s.next_label_free rfl rfl rfl⟩

end Source.Placed

namespace Navigation

variable {c : Catalog} {s s' : Scope} {near : Source} {table : Table}

theorem follow_all_arrives (consistent : c.Consistent) {path : List String} {last : Table}
    (navigates : c.Navigates table path last) (placed : near.Placed c s table) (expr : Expr) :
    ∃ far s', (followAll c expr near.label path).outcome s = (.ok far.label, s') ∧
      far.Placed c s' last ∧ s.Arrives near path far s' := by
  induction navigates generalizing s near with
  | here => exact ⟨near, s, rfl, placed, .refl placed.inScope⟩
  | along related declared target _ ih =>
      have known := (relation_at_iff (placed.table_at consistent) expr).mpr
        (consistent.relation?_of_mem placed.declared related)
      obtain ⟨middle, m, followed, there, crossed⟩ :=
        placed.crosses consistent related declared target
      obtain ⟨far, s', walked, reached, arrives⟩ := ih there
      refine ⟨far, s', ?_, reached, arrives.cross placed.sound placed.inScope crossed⟩
      rw [followAll, Steps.get_bind_outcome]
      exact Steps.of_except_bind_ends.mpr
        ⟨_, known, Steps.bind_ends.mpr ⟨_, _, followed, walked⟩⟩

theorem navigates_of_follow_all (consistent : c.Consistent) {expr : Expr} {path : List String}
    {label : String} (placed : near.Placed c s table)
    (walked : (followAll c expr near.label path).outcome s = (.ok label, s')) :
    ∃ last, c.Navigates table path last := by
  induction path generalizing s near table with
  | nil => exact ⟨table, .here table⟩
  | cons segment rest ih =>
      rw [followAll, Steps.get_bind_outcome] at walked
      obtain ⟨r, known, walked⟩ := Steps.of_except_bind_ends.mp walked
      obtain ⟨_, _, followed', walked⟩ := Steps.bind_ends.mp walked
      obtain ⟨related, rfl⟩ := (find?_key (consistent.relations table placed.declared)).mp
        ((relation_at_iff (placed.table_at consistent) expr).mp known)
      obtain ⟨next, _, _, nextKnown, _⟩ := consistent.linked table placed.declared r related
      obtain ⟨declared, target⟩ := (consistent.byId _ _).mp nextKnown
      obtain ⟨far, m, followed, there, _⟩ := placed.crosses consistent related declared target
      cases followed.symm.trans followed'
      obtain ⟨last, navigates⟩ := ih there walked
      exact ⟨last, .along related declared target navigates⟩

theorem member_rooted {ref : TableRef} (root : s.Root near ref) {path : List String} {name : String}
    {column : Column} :
    (member c ref (path ++ [name])).outcome s = (.ok column, s') ↔
      ∃ label, (followAll c (.member ref (path ++ [name])) near.label path).outcome s =
          (.ok label, s') ∧
        columnAt c s' (.member ref (path ++ [name])) label name = .ok column := by
  have rooted := root.root_label (c := c) (.member ref (path ++ [name]))
  rw [member_concat]
  constructor
  · intro ends
    obtain ⟨_, rooted', ends⟩ := Steps.of_except_bind_ends.mp ends
    cases rooted.symm.trans rooted'
    obtain ⟨label, _, walked, ends⟩ := Steps.bind_ends.mp ends
    obtain ⟨resolved, rfl⟩ := Steps.of_except_ends.mp ends
    exact ⟨label, walked, resolved⟩
  · rintro ⟨label, walked, resolved⟩
    exact Steps.of_except_bind_ends.mpr ⟨near.label, rooted, Steps.bind_ends.mpr ⟨label, s', walked,
      Steps.of_except_ends.mpr ⟨resolved, rfl⟩⟩⟩

theorem member_arrives (consistent : c.Consistent) (placed : near.Placed c s table) {ref : TableRef}
    (root : s.Root near ref) {path : List String} {last : Table}
    (navigates : c.Navigates table path last) (name : String) :
    ∃ far s', far.entity = last.entity ∧ s.Arrives near path far s' ∧
      ∀ column left, (member c ref (path ++ [name])).outcome s = (.ok column, left) ↔
        left = s' ∧ ∃ f ∈ last.allFields, f.name = name ∧ column = ⟨far.label, name, f.type⟩ := by
  obtain ⟨far, s', walked, reached, arrives⟩ :=
    follow_all_arrives consistent navigates placed (.member ref (path ++ [name]))
  have farAt := reached.table_at consistent
  refine ⟨far, s', reached.entity.symm, arrives, ?_⟩
  intro column left
  rw [member_rooted root]
  constructor
  · rintro ⟨label, walked', resolved⟩
    cases walked.symm.trans walked'
    obtain ⟨f, found, rfl⟩ := (column_at_iff farAt _).mp resolved
    obtain ⟨member, rfl⟩ := Table.field_of_field? found
    exact ⟨rfl, f, member, rfl, rfl⟩
  · rintro ⟨rfl, f, member, rfl, rfl⟩
    have found := consistent.field?_of_mem reached.declared member
    exact ⟨far.label, walked, (column_at_iff farAt _).mpr ⟨f, found, rfl⟩⟩

end Navigation

structure Scope.FollowsPaths (c : Catalog) (s : Scope) (near : Source) (ref : TableRef)
    (table : Table) : Prop where
  declared : table ∈ c.tables
  entity : table.entity = near.entity
  resolves : ∀ (path : List String) (name : String),
    (∃ column s', (Navigation.member c ref (path ++ [name])).commit s = .ok (column, s')) ↔
      ∃ last, c.Navigates table path last ∧ ∃ f ∈ last.allFields, f.name = name
  reaches : ∀ (path : List String) (name : String) (column : Column) (s' : Scope),
    (Navigation.member c ref (path ++ [name])).commit s = .ok (column, s') →
      ∃ last f far, c.Navigates table path last ∧ f ∈ last.allFields ∧ f.name = name ∧
        column = ⟨far.label, name, f.type⟩ ∧ far.entity = last.entity ∧ s.Arrives near path far s'

/-- From the table that a member starts at, its path resolves exactly when relations lead along it
to a table with the field at its end; the column is that field of the table reached by joins along
the path, and the scope has grown by what the path had not walked yet. -/
theorem member_paths_follow_declarations {calls : List Declaration} {c : Catalog}
    (built : (Draft.after calls).build = .ok c) {root : Entity} {s : Scope}
    (reached : ReachableScope c root s) {near : Source} {ref : TableRef}
    (rooted : s.Root near ref) : ∃ table, s.FollowsPaths c near ref table := by
  have consistent := Draft.build_consistent (Draft.after_sound calls) built
  obtain ⟨table, known, _⟩ := reached.sound.known near rooted.in_scope
  obtain ⟨declared, entity⟩ := (consistent.byId _ _).mp (Catalog.table_by_id_of_find? known)
  have placed : near.Placed c s table :=
    ⟨reached.sound, reached.forest, rooted.in_scope, declared, entity⟩
  have resolved : ∀ (path : List String) (name : String) (column : Column) (s' : Scope),
      (Navigation.member c ref (path ++ [name])).commit s = .ok (column, s') →
        ∃ last f far, c.Navigates table path last ∧ f ∈ last.allFields ∧ f.name = name ∧
          column = ⟨far.label, name, f.type⟩ ∧ far.entity = last.entity ∧
          s.Arrives near path far s' := by
    intro path name column s' ends
    rw [Steps.commit_ok] at ends
    obtain ⟨label, walked, _⟩ := (Navigation.member_rooted rooted).mp ends
    obtain ⟨last, navigates⟩ := Navigation.navigates_of_follow_all consistent placed walked
    obtain ⟨far, _, entity, arrives, exactly⟩ :=
      Navigation.member_arrives consistent placed rooted navigates name
    obtain ⟨rfl, f, member, named, column⟩ := (exactly column s').mp ends
    exact ⟨last, f, far, navigates, member, named, column, entity, arrives⟩
  refine ⟨table, declared, entity, ?_, resolved⟩
  intro path name
  constructor
  · rintro ⟨column, s', ends⟩
    obtain ⟨last, f, _, navigates, member, named, _⟩ := resolved path name column s' ends
    exact ⟨last, navigates, f, member, named⟩
  · rintro ⟨last, navigates, f, member, named⟩
    obtain ⟨far, s', _, _, exactly⟩ :=
      Navigation.member_arrives consistent placed rooted navigates name
    exact ⟨_, s', Steps.commit_ok.mpr ((exactly _ s').mpr ⟨rfl, f, member, named, rfl⟩)⟩

theorem author_paths_follow_declarations :
    (Draft.after Sample.calls).build = .ok Sample.catalog ∧
      ReachableScope Sample.catalog Sample.page Sample.start.scope ∧
      Sample.start.scope.Root ⟨Sample.page, "Pages", "T1"⟩ (.entity Sample.page) ∧
      ∃ table, Sample.start.scope.FollowsPaths Sample.catalog ⟨Sample.page, "Pages", "T1"⟩
        (.entity Sample.page) table := by
  have built : (Draft.after Sample.calls).build = .ok Sample.catalog := rfl
  have started : Query.start Sample.catalog Sample.page = .ok Sample.start := rfl
  have reached : ReachableScope Sample.catalog Sample.page Sample.start.scope :=
    .query (.start started)
  have rooted : Sample.start.scope.Root ⟨Sample.page, "Pages", "T1"⟩ (.entity Sample.page) := rfl
  exact ⟨built, reached, rooted, member_paths_follow_declarations built reached rooted⟩

example : (Navigation.member Sample.catalog (.entity Sample.page) ["author", "name"]).commit
    Sample.start.scope = .ok (⟨"T2", "name", .string⟩, Sample.pagesAndAuthors) := rfl

example : (Navigation.member Sample.catalog (.entity Sample.page) ["author", "_pageName"]).commit
    Sample.start.scope = .ok (⟨"T2", "_pageName", .page⟩, Sample.pagesAndAuthors) := rfl

end WikiQuery
