import Mathlib.Data.List.Nodup
import WikiQuery.Proofs.ScopeSteps

/- The joins that relations bring in. Each of them leads from one table of the query to a later
   one, no two of them lead along one relation from one table, and no two lead to one table: they
   form a forest, and a path of relations leads from a table to at most one other. -/
set_option autoImplicit false

namespace WikiQuery

-- The join leads along the relation: from a table that has the relation, by its local field, to a
-- later table of the relation's target, by its foreign field.
structure Join.Along (c : Catalog) (s : Scope) (j : Join) (r : Relation) (near far : Source) :
    Prop where
  order : [near, far].Sublist s.sources
  left : ∃ table field, c.find? near.entity = some table ∧ table.relation? r.name = some r ∧
    table.field? r.localField = some field ∧ j.left = ⟨near.label, r.localField, field.type⟩
  right : ∃ table field, far.entity = r.target ∧ c.find? far.entity = some table ∧
    table.field? r.foreignField = some field ∧ j.right = ⟨far.label, r.foreignField, field.type⟩
  kind : j.kind = .equal
  via : j.via = some r.name

namespace Scope

def implicitJoins (s : Scope) : List Join := s.joins.filter fun j => j.via.isSome

structure Forest (c : Catalog) (s : Scope) : Prop where
  keyed : (s.implicitJoins.map fun j => (j.left.label, j.via)).Nodup
  targets : (s.implicitJoins.map fun j => j.right.label).Nodup
  along : ∀ j ∈ s.implicitJoins, ∃ r near far, j.Along c s r near far

inductive Leads (s : Scope) : String → List String → String → Prop where
  | here (label : String) : Leads s label [] label
  | along {j : Join} {label relation last : String} {path : List String} (member : j ∈ s.joins)
      (left : j.left.label = label) (via : j.via = some relation)
      (rest : Leads s j.right.label path last) : Leads s label (relation :: path) last

theorem mem_implicit_joins {s : Scope} {j : Join} :
    j ∈ s.implicitJoins ↔ j ∈ s.joins ∧ j.via.isSome = true := List.mem_filter

theorem join_of_joined? {s : Scope} {label relation : String} {j : Join}
    (found : s.joined? label relation = some j) :
    j ∈ s.joins ∧ j.via = some relation ∧ j.left.label = label :=
  ⟨List.mem_of_find?_eq_some found, by simpa using List.find?_some found⟩

theorem implicit_joins_append (sources : List Source) (joins more : List Join) :
    implicitJoins ⟨sources, joins ++ more⟩ =
      implicitJoins ⟨sources, joins⟩ ++ more.filter fun j => j.via.isSome :=
  List.filter_append ..

end Scope

namespace Join.Along

variable {c : Catalog} {s s' : Scope} {j : Join} {r : Relation} {near far : Source}

theorem mono (along : j.Along c s r near far) (more : s.sources <+: s'.sources) :
    j.Along c s' r near far :=
  { along with order := along.order.trans more.sublist }

theorem left_label (along : j.Along c s r near far) : j.left.label = near.label := by
  obtain ⟨_, _, _, _, _, same⟩ := along.left
  rw [same]

theorem right_label (along : j.Along c s r near far) : j.right.label = far.label := by
  obtain ⟨_, _, _, _, _, same⟩ := along.right
  rw [same]

theorem of_new_join {label : String} {table : Table} {source : Source}
    (known : Navigation.tableAt c s label = .ok table) (related : table.relation? r.name = some r)
    (fresh : Navigation.newJoin c s label r = .ok (source, j)) :
    ∃ near, near.label = label ∧
      j.Along c ⟨s.sources ++ [source], s.joins ++ [j]⟩ r near source := by
  obtain ⟨nearTable, target, localField, foreignField, nearKnown, targetKnown, nearField,
    targetField, rfl, rfl⟩ := Navigation.new_join_ok fresh
  cases known.symm.trans nearKnown
  obtain ⟨near, member, rfl, found⟩ := Navigation.table_at_ok known
  have nearName := (Table.field_of_field? nearField).2
  have farName := (Table.field_of_field? targetField).2
  exact ⟨near, rfl,
    { order := (List.singleton_sublist.mpr member).append (List.Sublist.refl _)
      left := ⟨table, localField, found, related, nearField, by rw [nearName]⟩
      right := ⟨target, foreignField, rfl, targetKnown, targetField, by rw [farName]⟩
      kind := rfl
      via := rfl }⟩

end Join.Along

namespace Scope.Forest

variable {c : Catalog} {s : Scope}

theorem single (source : Source) : Forest c ⟨[source], []⟩ :=
  ⟨by simp [implicitJoins], by simp [implicitJoins], by simp [implicitJoins]⟩

theorem extend (forest : s.Forest c) {sources : List Source} {joins : List Join}
    (more : s.sources <+: sources) (explicit : ∀ j ∈ joins, j.via = none) :
    Forest c ⟨sources, s.joins ++ joins⟩ := by
  have none : joins.filter (fun j => j.via.isSome) = [] := by
    rw [List.filter_eq_nil_iff]
    intro j member
    simp [explicit j member]
  have same : implicitJoins ⟨sources, s.joins ++ joins⟩ = s.implicitJoins := by
    rw [implicit_joins_append, none, List.append_nil]
    rfl
  refine ⟨same ▸ forest.keyed, same ▸ forest.targets, ?_⟩
  intro j member
  obtain ⟨r, near, far, along⟩ := forest.along j (same ▸ member)
  exact ⟨r, near, far, along.mono more⟩

theorem add_source (forest : s.Forest c) (source : Source) :
    Forest c { s with sources := s.sources ++ [source] } := by
  have opened : Forest c ⟨s.sources ++ [source], s.joins ++ []⟩ :=
    forest.extend (List.prefix_append _ _) (by simp)
  rwa [List.append_nil] at opened

-- A relation that is walked for the first time has a new key, and its join a new target.
theorem walk (forest : s.Forest c) {label : String} {table : Table} {r : Relation}
    {source : Source} {j : Join} (near : Navigation.tableAt c s label = .ok table)
    (related : table.relation? r.name = some r) (unjoined : s.joined? label r.name = none)
    (fresh : Navigation.newJoin c s label r = .ok (source, j))
    (free : s.isFree source.label = true) :
    Forest c ⟨s.sources ++ [source], s.joins ++ [j]⟩ := by
  obtain ⟨first, rfl, new⟩ := Join.Along.of_new_join near related fresh
  have joins : implicitJoins ⟨s.sources ++ [source], s.joins ++ [j]⟩ = s.implicitJoins ++ [j] := by
    rw [implicit_joins_append, List.filter_singleton, new.via]
    rfl
  constructor
  · rw [joins, List.map_append, List.nodup_append]
    refine ⟨forest.keyed, by simp, ?_⟩
    intro key old key' isNew same
    obtain ⟨other, member, rfl⟩ := List.mem_map.mp old
    cases List.mem_singleton.mp isNew
    obtain ⟨left, via⟩ := Prod.mk.inj same
    have different := List.find?_eq_none.mp unjoined other (mem_implicit_joins.mp member).1
    exact different (by simp [via, left, new.via, new.left_label])
  · rw [joins, List.map_append, List.nodup_append]
    refine ⟨forest.targets, by simp, ?_⟩
    intro label old label' isNew same
    obtain ⟨other, member, rfl⟩ := List.mem_map.mp old
    cases List.mem_singleton.mp isNew
    obtain ⟨_, _, far, along⟩ := forest.along other member
    have inScope : far ∈ s.sources := along.order.subset (by simp)
    exact is_free_iff.mp free far inScope (along.right_label ▸ new.right_label ▸ same)
  · rw [joins]
    intro other member
    rcases List.mem_append.mp member with member | member
    · obtain ⟨r', near', far, along⟩ := forest.along other member
      exact ⟨r', near', far, along.mono (List.prefix_append _ _)⟩
    · cases List.mem_singleton.mp member
      exact ⟨r, first, source, new⟩

theorem grown {s' : Scope} (forest : s.Forest c) (grows : Grows c s s') : s'.Forest c := by
  induction grows with
  | refl => exact forest
  | join _ near related unjoined fresh free ih => exact ih.walk near related unjoined fresh free

theorem step {s' : Scope} (forest : s.Forest c) (stepped : s.Step c s') : s'.Forest c := by
  cases stepped with
  | grown grows => exact forest.grown grows
  | @joined source table m joins _ _ _ _ grows located _ =>
      have opened := (forest.add_source source).grown grows
      exact opened.extend List.prefix_rfl fun j member => (located j member).2

theorem target_not_root (forest : s.Forest c) (distinct : (s.sources.map Source.label).Nodup)
    {j : Join} (member : j ∈ s.implicitJoins) {root : Source}
    (first : s.sources.head? = some root) : j.right.label ≠ root.label := by
  obtain ⟨r, near, far, along⟩ := forest.along j member
  have order := along.order
  obtain ⟨rest, sources⟩ : ∃ rest, s.sources = root :: rest := List.head?_eq_some_iff.mp first
  rw [sources] at order distinct
  have later : far ∈ rest := by
    cases order with
    | cons _ both => exact both.subset (by simp)
    | cons_cons _ single => exact List.singleton_sublist.mp single
  rw [along.right_label]
  intro same
  exact (List.nodup_cons.mp distinct).1 (same ▸ List.mem_map_of_mem later)

theorem join_unique (forest : s.Forest c) {j j' : Join} {relation : String} (member : j ∈ s.joins)
    (member' : j' ∈ s.joins) (via : j.via = some relation) (via' : j'.via = some relation)
    (left : j.left.label = j'.left.label) : j = j' :=
  List.inj_on_of_nodup_map forest.keyed (mem_implicit_joins.mpr ⟨member, by simp [via]⟩)
    (mem_implicit_joins.mpr ⟨member', by simp [via']⟩) (by simp [left, via, via'])

theorem leads_unique (forest : s.Forest c) {label a b : String} {path : List String}
    (first : s.Leads label path a) (second : s.Leads label path b) : a = b := by
  induction first with
  | here =>
      cases second
      rfl
  | along member left via _ ih =>
      cases second with
      | along member' left' via' rest' =>
          cases forest.join_unique member member' via via' (left.trans left'.symm)
          exact ih rest'

theorem joined_target (forest : s.Forest c) (distinct : (s.sources.map Source.label).Nodup)
    {near : Source} (inScope : near ∈ s.sources) {table : Table}
    (known : c.find? near.entity = some table) {r : Relation}
    (related : table.relation? r.name = some r) {j : Join}
    (found : s.joined? near.label r.name = some j) :
    ∃ far ∈ s.sources, far.entity = r.target ∧ j.right.label = far.label := by
  obtain ⟨member, via, left⟩ := join_of_joined? found
  obtain ⟨r', near', far, along⟩ :=
    forest.along j (mem_implicit_joins.mpr ⟨member, by rw [via]; rfl⟩)
  have order := along.order
  have sameNear : near' = near :=
    List.inj_on_of_nodup_map distinct (order.subset (by simp)) inScope
      (along.left_label.symm.trans left)
  obtain ⟨table', _, known', related', _⟩ := along.left
  rw [sameNear, known] at known'
  cases known'
  have name : r'.name = r.name := Option.some.inj (along.via.symm.trans via)
  rw [name, related] at related'
  cases related'
  obtain ⟨_, _, target, _⟩ := along.right
  exact ⟨far, order.subset (by simp), target, along.right_label⟩

end Scope.Forest

theorem Reachable.forest {c : Catalog} {root : Entity} {q : Query} (reached : Reachable c root q) :
    q.scope.Forest c :=
  reached.scope_invariant Scope.Forest.single fun _ forest stepped => forest.step stepped

/-- In every reachable query the implicit joins form a forest behind the root table: no two have
one key or one target, none leads to the root, each leads along a relation of its left table to a
later table, and a path of relations leads from a label to at most one table. -/
theorem implicit_joins_form_forest {c : Catalog} {root : Entity} {q : Query}
    (reached : Reachable c root q) :
    q.scope.Forest c ∧
      (∀ j ∈ q.scope.implicitJoins, ∀ first ∈ q.scope.sources.head?,
        j.right.label ≠ first.label) ∧
      ∀ (label a b : String) (path : List String), q.scope.Leads label path a →
        q.scope.Leads label path b → a = b := by
  have forest := reached.forest
  refine ⟨forest, ?_, fun _ _ _ _ => forest.leads_unique⟩
  intro j member first isFirst
  exact forest.target_not_root reached.sound.scope.distinct member isFirst

theorem author_joined_forest :
    Reachable Sample.catalog Sample.page Sample.byAuthorJoined ∧
      Sample.authorsTwice.Forest Sample.catalog ∧
      (∀ j ∈ Sample.authorsTwice.implicitJoins, ∀ first ∈ Sample.authorsTwice.sources.head?,
        j.right.label ≠ first.label) ∧
      ∀ (label a b : String) (path : List String), Sample.authorsTwice.Leads label path a →
        Sample.authorsTwice.Leads label path b → a = b :=
  ⟨Sample.by_author_joined_reachable,
    implicit_joins_form_forest Sample.by_author_joined_reachable⟩

example : Sample.authorsTwice.implicitJoins = Sample.pagesAndAuthors.joins := by decide

end WikiQuery
