import WikiQuery.Proofs.Declarations
import WikiQuery.Proofs.Lookups

/- The order of the calls to a draft. Calls that all succeed do so in every order, the draft then
   holds the same tables and links in another order, and the catalogs built from it differ in no
   answer but the order of relations, which no lowering sees. -/
set_option autoImplicit false

namespace WikiQuery

theorem find?_perm {α κ : Type} [DecidableEq κ] {key : α → κ} {xs ys : List α}
    (permuted : xs.Perm ys) (distinct : (xs.map key).Nodup) (k : κ) :
    xs.find? (fun x => key x = k) = ys.find? fun x => key x = k := by
  have distinct' : (ys.map key).Nodup := (permuted.map key).nodup_iff.mp distinct
  ext x
  rw [find?_key distinct, find?_key distinct', permuted.mem_iff]

theorem Keyed.get_perm {α κ : Type} [DecidableEq κ] {key : α → κ} {m m' : Keyed α κ key}
    (permuted : m.entries.Perm m'.entries) (k : κ) : m.get? k = m'.get? k :=
  find?_perm permuted m.distinct k

namespace Draft

theorem WellDeclared.of_append {tables more : List Table}
    (declared : WellDeclared (tables ++ more)) : WellDeclared tables where
  entities := by
    have entities := declared.entities
    rw [List.map_append] at entities
    exact entities.of_append_left
  names := by
    have names := declared.names
    rw [List.map_append] at names
    exact names.of_append_left
  fields := fun t member => declared.fields t (List.mem_append_left more member)
  unlinked := fun t member => declared.unlinked t (List.mem_append_left more member)

theorem calls_end {calls : List Declaration} {draft next : Draft} {tables : List Table}
    {links : List Link} (holds : draft.Holds tables links) (declared : WellDeclared tables) :
    (forM calls Declaration.perform : Drafting Unit).outcome draft = (.ok (), next) ↔
      WellDeclared (tables ++ calls.flatMap Declaration.tables) ∧
        next.Holds (tables ++ calls.flatMap Declaration.tables)
          (links ++ calls.flatMap Declaration.links) := by
  induction calls generalizing draft tables links with
  | nil =>
      rw [List.forM_nil, Steps.pure_ends, List.flatMap_nil, List.flatMap_nil, List.append_nil,
        List.append_nil]
      constructor
      · rintro ⟨_, rfl⟩
        exact ⟨declared, holds⟩
      · intro ok
        exact ⟨rfl, ok.2.unique holds⟩
  | cons d rest ih =>
      rw [List.forM_cons, Steps.bind_ends, List.flatMap_cons, List.flatMap_cons,
        ← List.append_assoc, ← List.append_assoc]
      constructor
      · rintro ⟨⟨⟩, middle, performed, later⟩
        obtain ⟨extended, holds'⟩ := (d.perform_ends holds declared).mp performed
        exact (ih holds' extended).mp later
      · rintro ⟨all, holds'⟩
        have extended := all.of_append
        obtain ⟨middle, between⟩ := exists_holds extended (links ++ d.links)
        exact ⟨(), middle, (d.perform_ends holds declared).mpr ⟨extended, between⟩,
          (ih between extended).mpr ⟨all, holds'⟩⟩

theorem of_calls_ok {calls : List Declaration} {draft : Draft} :
    ofCalls calls = .ok draft ↔ WellDeclared (calls.flatMap Declaration.tables) ∧
      draft.Holds (calls.flatMap Declaration.tables) (calls.flatMap Declaration.links) := by
  have ends : ofCalls calls = .ok draft ↔
      (forM calls Declaration.perform : Drafting Unit).outcome empty = (.ok (), draft) := by
    rw [ofCalls, ← Steps.commit_ok]
    cases (forM calls Declaration.perform : Drafting Unit).commit empty <;>
      simp [Except.map, Prod.ext_iff]
  rw [ends]
  exact calls_end ⟨rfl, rfl, rfl⟩ well_declared_nil

theorem WellDeclared.perm {tables tables' : List Table} (declared : WellDeclared tables)
    (permuted : tables.Perm tables') : WellDeclared tables' where
  entities := (permuted.map Table.entity).nodup_iff.mp declared.entities
  names := (permuted.map Table.name).nodup_iff.mp declared.names
  fields := fun t member => declared.fields t (permuted.mem_iff.mpr member)
  unlinked := fun t member => declared.unlinked t (permuted.mem_iff.mpr member)

section Permuted

variable {models models' : Models} {tableNames tableNames' : TableNames} {links links' : List Link}

theorem linked_relations_perm (permuted : links.Perm links') (t : Table) :
    (t.linked links).relations.Perm (t.linked links').relations :=
  ((permuted.filter _).map Link.relation).append_left t.relations

theorem Linkable.perm (permuted : models.entries.Perm models'.entries)
    (relinked : links.Perm links') (linkable : Linkable models links) :
    Linkable models' links' where
  sound := by
    intro l member
    obtain ⟨source, target, near, far, sourceFound, targetFound, rest⟩ :=
      linkable.sound l (relinked.mem_iff.mpr member)
    rw [Keyed.get_perm permuted] at sourceFound targetFound
    exact ⟨source, target, near, far, sourceFound, targetFound, rest⟩
  distinct := by
    intro t member
    have names := (linked_relations_perm relinked t).map Relation.name
    exact names.nodup_iff.mp (linkable.distinct t (permuted.mem_iff.mpr member))

end Permuted

end Draft

structure Table.Reordered (t t' : Table) : Prop where
  entity : t.entity = t'.entity
  name : t.name = t'.name
  fields : t.fields = t'.fields
  relations : t.relations.Perm t'.relations

-- Relations are searched by name, so their order shows only where two of them share one.
theorem Table.Reordered.alike {t t' : Table} (reordered : t.Reordered t')
    (distinct : (t.relations.map Relation.name).Nodup) : t.Alike t' where
  name := reordered.name
  field := fun name => by rw [field?, field?, allFields, allFields, reordered.fields]
  relation := find?_perm reordered.relations distinct

structure Catalog.Reordered (c c' : Catalog) : Prop where
  byId : ∀ e, Answers Table.Reordered (c.tableById e) (c'.tableById e)
  byName : ∀ name, Answers Table.Reordered (c.tableByName name) (c'.tableByName name)
  names : c.names = c'.names

theorem Catalog.Reordered.alike {c c' : Catalog} (reordered : c.Reordered c')
    (consistent : c.Consistent) : c.Alike c' := by
  intro e
  refine (reordered.byId e).imp fun t t' found same => ?_
  have member := ((consistent.byId e t).mp found).1
  exact same.alike (consistent.relations t member)

theorem Catalog.names_eq_of_perm {c c' : Catalog}
    (permuted : c.tableNames.entries.Perm c'.tableNames.entries) : c.names = c'.names := by
  have sorted : c.names.SortedLE := List.sortedLE_mergeSort
  have sorted' : c'.names.SortedLE := List.sortedLE_mergeSort
  have same : c.names.Perm c'.tableNames.keys :=
    (List.mergeSort_perm _ _).trans (permuted.map Prod.fst)
  exact List.Perm.eq_of_sortedLE sorted sorted' (same.trans (List.mergeSort_perm _ _).symm)

namespace Draft

section Permuted

variable {models models' : Models} {tableNames tableNames' : TableNames} {links links' : List Link}

theorem linked_reordered (relinked : links.Perm links') (t : Table) :
    (t.linked links).Reordered (t.linked links') :=
  ⟨rfl, rfl, rfl, linked_relations_perm relinked t⟩

theorem catalog_reordered (permuted : models.entries.Perm models'.entries)
    (renamed : tableNames.entries.Perm tableNames'.entries) (relinked : links.Perm links') :
    Catalog.Reordered ⟨models.linked links, tableNames⟩ ⟨models'.linked links', tableNames'⟩ where
  byId := by
    intro e
    rw [Catalog.tableById, Catalog.tableById, Catalog.find?, Catalog.find?, Models.get_linked,
      Models.get_linked, Keyed.get_perm permuted]
    cases models'.get? e with
    | none => exact .failed _
    | some t => exact .found (linked_reordered relinked t)
  byName := by
    intro name
    rw [Catalog.tableByName, Catalog.tableByName, Keyed.get_perm renamed]
    cases tableNames'.get? name with
    | none => exact .failed _
    | some entry =>
        rw [Option.bind_some, Option.bind_some, Models.get_linked, Models.get_linked,
          Keyed.get_perm permuted]
        cases models'.get? entry.2 with
        | none => exact .failed _
        | some t => exact .found (linked_reordered relinked t)
  names := Catalog.names_eq_of_perm renamed

end Permuted

end Draft

/-- Calls that all succeed also succeed in another order; the one draft becomes a catalog exactly
when the other does; and the two catalogs answer alike up to the order of relations, so that every
expression lowers alike. -/
theorem declaration_order_irrelevant {calls calls' : List Declaration} {draft : Draft}
    (permuted : calls.Perm calls') (declared : Draft.ofCalls calls = .ok draft) :
    ∃ draft', Draft.ofCalls calls' = .ok draft' ∧
      ((∃ c, draft.build = .ok c) ↔ ∃ c', draft'.build = .ok c') ∧
      ∀ c c', draft.build = .ok c → draft'.build = .ok c' → c.Reordered c' ∧
        ∀ (clause : Clause) (e : Expr) (s : Scope),
          (e.lower c clause).outcome s = (e.lower c' clause).outcome s := by
  obtain ⟨well, holds⟩ := Draft.of_calls_ok.mp declared
  have well' := well.perm (permuted.flatMap_right Declaration.tables)
  obtain ⟨draft', holds'⟩ :=
    Draft.exists_holds well' (calls'.flatMap Declaration.links)
  have sound := holds.sound well
  have sound' := holds'.sound well'
  have models : draft.models.entries.Perm draft'.models.entries := by
    rw [holds.models, holds'.models]
    exact permuted.flatMap_right Declaration.tables
  have names : draft.tableNames.entries.Perm draft'.tableNames.entries := by
    rw [holds.names, holds'.names]
    exact (permuted.flatMap_right Declaration.tables).map Table.named
  have links : draft.links.Perm draft'.links := by
    rw [holds.links, holds'.links]
    exact permuted.flatMap_right Declaration.links
  refine ⟨draft', Draft.of_calls_ok.mpr ⟨well', holds'⟩, ?_, ?_⟩
  · constructor
    · rintro ⟨c, built⟩
      have linkable := ((Draft.build_ok sound.declared).mp built).1
      exact ⟨_, (Draft.build_ok sound'.declared).mpr ⟨linkable.perm models links, rfl⟩⟩
    · rintro ⟨c, built⟩
      have linkable := ((Draft.build_ok sound'.declared).mp built).1
      exact ⟨_, (Draft.build_ok sound.declared).mpr ⟨linkable.perm models.symm links.symm, rfl⟩⟩
  · intro c c' built built'
    have consistent := Draft.build_consistent sound built
    obtain ⟨_, rfl⟩ := (Draft.build_ok sound.declared).mp built
    obtain ⟨_, rfl⟩ := (Draft.build_ok sound'.declared).mp built'
    have reordered := Draft.catalog_reordered models names links
    refine ⟨reordered, fun clause e s => ?_⟩
    rw [e.lower_alike (reordered.alike consistent)]

def Sample.linkFirst : List Declaration :=
  [.relation page ⟨"author", author, "writer", "id"⟩,
    .schema ⟨author, "Authors", [⟨"id", .integer, false⟩, ⟨"name", .string, false⟩]⟩,
    .table page "Pages" [⟨"title", .string, false⟩, ⟨"writer", .integer, true⟩]]

theorem link_declared_last_alike :
    ∃ draft c c', Draft.ofCalls Sample.linkFirst = .ok draft ∧ draft.build = .ok c ∧
      (Draft.ofCalls Sample.linkFirst.reverse >>= Draft.build) = .ok c' ∧ c.Reordered c' ∧
      ∀ clause s, ((Sample.writtenBy "Ann").lower c clause).outcome s =
        ((Sample.writtenBy "Ann").lower c' clause).outcome s := by
  have reversed : Sample.linkFirst.Perm Sample.linkFirst.reverse :=
    (List.reverse_perm Sample.linkFirst).symm
  obtain ⟨draft', declared', buildable, alike⟩ := declaration_order_irrelevant reversed rfl
  obtain ⟨c', built'⟩ := buildable.mp ⟨_, rfl⟩
  obtain ⟨reordered, lowered⟩ := alike _ c' rfl built'
  refine ⟨_, _, c', rfl, rfl, ?_, reordered, fun clause s => lowered clause _ s⟩
  rw [declared']
  exact built'

end WikiQuery
