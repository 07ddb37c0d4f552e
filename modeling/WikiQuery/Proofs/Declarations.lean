import Mathlib.Data.List.Nodup
import Mathlib.Data.List.Sort
import Mathlib.Data.String.Basic
import WikiQuery.Proofs.Navigation
import WikiQuery.Proofs.Sample

/- Catalogs from declarations. A call that fails does so before it writes. Whatever calls a draft
   has taken, failed ones among them, its two maps hold the same tables, and a catalog built from it
   is these tables with the relations of all links, each of them checked. -/
set_option autoImplicit false

namespace WikiQuery

namespace Declaration

def tables : Declaration → List Table
  | .table e name fields => [⟨e, name, fields, []⟩]
  | .schema s => [⟨s.entity, s.table, s.fields, []⟩]
  | .relation _ _ => []

def links : Declaration → List Link
  | .table _ _ _ => []
  | .schema _ => []
  | .relation source r => [⟨source, r⟩]

end Declaration

theorem find?_key {α κ : Type} [DecidableEq κ] {key : α → κ} {xs : List α}
    (distinct : (xs.map key).Nodup) {k : κ} {x : α} :
    xs.find? (fun x => key x = k) = some x ↔ x ∈ xs ∧ key x = k := by
  constructor
  · intro found
    exact ⟨List.mem_of_find?_eq_some found, by simpa using List.find?_some found⟩
  · rintro ⟨member, rfl⟩
    cases found : xs.find? fun y => key y = key x with
    | none => simpa using List.find?_eq_none.mp found x member
    | some y =>
        have same : key y = key x := by simpa using List.find?_some found
        rw [List.inj_on_of_nodup_map distinct (List.mem_of_find?_eq_some found) member same]

theorem Keyed.get_iff {α κ : Type} [DecidableEq κ] {key : α → κ} {m : Keyed α κ key} {k : κ}
    {a : α} : m.get? k = some a ↔ a ∈ m.entries ∧ key a = k :=
  find?_key m.distinct

def Table.named (t : Table) : String × Entity := (t.name, t.entity)

namespace Draft

/-- The tables of a draft: distinct by record type, by name and, within each of them, by field name,
and without relations as yet. -/
structure WellDeclared (tables : List Table) : Prop where
  entities : (tables.map Table.entity).Nodup
  names : (tables.map Table.name).Nodup
  fields : ∀ t ∈ tables, (t.allFields.map Field.name).Nodup
  unlinked : ∀ t ∈ tables, t.relations = []

theorem well_declared_nil : WellDeclared [] := ⟨by simp, by simp, by simp, by simp⟩

theorem well_declared_concat {tables : List Table} (declared : WellDeclared tables) {t : Table}
    (unlinked : t.relations = []) :
    WellDeclared (tables ++ [t]) ↔ t.entity ∉ tables.map Table.entity ∧
      t.name ∉ tables.map Table.name ∧ (t.allFields.map Field.name).Nodup := by
  have last : ∀ {α : Type} (key : Table → α), (tables.map key).Nodup →
      (((tables ++ [t]).map key).Nodup ↔ key t ∉ tables.map key) := by
    intro α key distinct
    rw [List.map_append, List.map_singleton, (List.perm_append_singleton _ _).nodup_iff,
      List.nodup_cons]
    exact and_iff_left distinct
  constructor
  · rintro ⟨entities, names, fields, _⟩
    exact ⟨(last _ declared.entities).mp entities, (last _ declared.names).mp names,
      fields t (by simp)⟩
  · rintro ⟨entity, name, fields⟩
    refine ⟨(last _ declared.entities).mpr entity, (last _ declared.names).mpr name, ?_, ?_⟩
    · intro other member
      rcases List.mem_append.mp member with member | member
      · exact declared.fields other member
      · exact List.mem_singleton.mp member ▸ fields
    · intro other member
      rcases List.mem_append.mp member with member | member
      · exact declared.unlinked other member
      · exact List.mem_singleton.mp member ▸ unlinked

end Draft

namespace Drafting

theorem take_fields_ok {table : String} {taken fields columns : List Field}
    (distinct : ((taken ++ systemFields).map Field.name).Nodup) :
    takeFields table taken fields = .ok columns ↔
      ((taken ++ fields ++ systemFields).map Field.name).Nodup ∧ columns = taken ++ fields := by
  induction fields generalizing taken with
  | nil =>
      rw [takeFields, List.append_nil, Except.ok.injEq, eq_comm]
      exact (and_iff_right distinct).symm
  | cons f rest ih =>
      have split : (taken ++ f :: rest ++ systemFields).map Field.name =
          taken.map Field.name ++ f.name :: (rest ++ systemFields).map Field.name := by simp
      by_cases known : f.name ∈ (taken ++ systemFields).map Field.name
      · have repeated : ((taken ++ systemFields).any fun other => other.name = f.name) = true := by
          simpa using known
        rw [takeFields, if_pos repeated]
        refine iff_of_false (by simp) ?_
        rintro ⟨all, _⟩
        rw [split, List.perm_middle.nodup_iff, List.nodup_cons] at all
        refine all.1 (List.mem_append.mpr ?_)
        rw [List.map_append, List.mem_append] at known ⊢
        exact known.imp_right .inr
      · have fresh : ((taken ++ systemFields).any fun other => other.name = f.name) = false := by
          simpa using known
        have longer : ((taken ++ [f] ++ systemFields).map Field.name).Nodup := by
          rw [List.append_assoc, List.singleton_append, List.map_append, List.map_cons,
            List.perm_middle.nodup_iff, ← List.map_append]
          exact List.nodup_cons.mpr ⟨known, distinct⟩
        rw [takeFields, if_neg (by simp [fresh]), ih longer, List.append_assoc taken [f] rest,
          List.singleton_append]

theorem outcome_refuse (refused : Draft → Bool) (e : QueryError) (draft : Draft) :
    (refuse refused e).outcome draft = (if refused draft then .error e else .ok (), draft) := by
  rw [refuse, Steps.get_bind_outcome]
  cases refused draft <;> rfl

theorem declare_outcome (draft : Draft) (e : Entity) (name : String) (fields : List Field) :
    (declare e name fields).outcome draft =
      if draft.models.contains e then (.error (.entityDeclared e), draft)
      else if draft.tableNames.contains name then (.error (.tableDeclared name), draft)
      else
        match takeFields name [] fields with
        | .error failure => (.error failure, draft)
        | .ok columns =>
            (.ok (), ⟨draft.models.insert ⟨e, name, columns, []⟩,
              draft.tableNames.insert (name, e), draft.links⟩) := by
  rw [declare, Steps.outcome_bind, outcome_refuse]
  cases draft.models.contains e with
  | true => rfl
  | false =>
      simp only [Bool.false_eq_true, if_false]
      rw [Steps.outcome_bind, outcome_refuse]
      cases draft.tableNames.contains name with
      | true => rfl
      | false =>
          simp only [Bool.false_eq_true, if_false]
          rw [Steps.outcome_bind, Steps.outcome_of_except]
          cases takeFields name [] fields <;> rfl

-- Nothing is written before the last check has passed.
theorem declare_failed {draft left : Draft} {e : Entity} {name : String} {fields : List Field}
    {failure : QueryError}
    (failed : (declare e name fields).outcome draft = (.error failure, left)) : left = draft := by
  rw [declare_outcome] at failed
  split at failed
  · cases failed
    rfl
  · split at failed
    · cases failed
      rfl
    · split at failed
      · cases failed
        rfl
      · cases failed

end Drafting

structure Draft.Holds (draft : Draft) (tables : List Table) (links : List Link) : Prop where
  models : draft.models.entries = tables
  names : draft.tableNames.entries = tables.map Table.named
  links : draft.links = links

theorem Draft.Holds.unique {draft draft' : Draft} {tables : List Table} {links : List Link}
    (holds : draft.Holds tables links) (holds' : draft'.Holds tables links) : draft = draft' := by
  obtain ⟨models, tableNames, _⟩ := draft
  obtain ⟨models', tableNames', _⟩ := draft'
  have sameModels : models = models' := Keyed.ext (holds.models.trans holds'.models.symm)
  have sameNames : tableNames = tableNames' := Keyed.ext (holds.names.trans holds'.names.symm)
  rw [Draft.mk.injEq]
  exact ⟨sameModels, sameNames, holds.links.trans holds'.links.symm⟩

theorem Draft.exists_holds {tables : List Table} (declared : WellDeclared tables)
    (links : List Link) : ∃ draft : Draft, draft.Holds tables links := by
  have names : ((tables.map Table.named).map Prod.fst).Nodup := by
    rw [List.map_map]
    exact declared.names
  exact ⟨⟨⟨tables, declared.entities⟩, ⟨tables.map Table.named, names⟩, links⟩, rfl, rfl, rfl⟩

namespace Drafting

variable {draft next : Draft} {tables : List Table} {links : List Link}

theorem declare_ends (holds : draft.Holds tables links) (declared : Draft.WellDeclared tables)
    (e : Entity) (name : String) (fields : List Field) :
    (declare e name fields).outcome draft = (.ok (), next) ↔
      Draft.WellDeclared (tables ++ [⟨e, name, fields, []⟩]) ∧
        next.Holds (tables ++ [⟨e, name, fields, []⟩]) links := by
  have models : draft.models.keys = tables.map Table.entity := by
    rw [Keyed.keys, holds.models]
  have names : draft.tableNames.keys = tables.map Table.name := by
    rw [Keyed.keys, holds.names, List.map_map]
    rfl
  rw [Draft.well_declared_concat declared rfl, declare_outcome]
  by_cases known : e ∈ tables.map Table.entity
  · rw [if_pos (Keyed.contains_iff.mpr (models ▸ known))]
    exact iff_of_false (by simp) fun ok => ok.1.1 known
  · have newEntity : e ∉ draft.models.keys := models ▸ known
    rw [if_neg (mt Keyed.contains_iff.mp newEntity)]
    by_cases taken : name ∈ tables.map Table.name
    · rw [if_pos (Keyed.contains_iff.mpr (names ▸ taken))]
      exact iff_of_false (by simp) fun ok => ok.1.2.1 taken
    · have newName : name ∉ draft.tableNames.keys := names ▸ taken
      rw [if_neg (mt Keyed.contains_iff.mp newName)]
      have builtIn : (([] ++ systemFields).map Field.name).Nodup := by decide
      have columns : ∀ columns, takeFields name [] fields = .ok columns ↔
          ((Table.mk e name fields []).allFields.map Field.name).Nodup ∧ columns = fields :=
        fun _ => take_fields_ok builtIn
      have inserted : Draft.Holds ⟨draft.models.insert ⟨e, name, fields, []⟩,
          draft.tableNames.insert (name, e), draft.links⟩ (tables ++ [⟨e, name, fields, []⟩])
          links :=
        { models := by rw [Keyed.insert_new newEntity, holds.models]
          names := by rw [Keyed.insert_new newName, holds.names, List.map_append]; rfl
          links := holds.links }
      cases result : takeFields name [] fields with
      | error failure =>
          refine iff_of_false (by simp) fun ok => ?_
          rw [(columns fields).mpr ⟨ok.1.2.2, rfl⟩] at result
          cases result
      | ok found =>
          obtain ⟨distinct, rfl⟩ := (columns found).mp result
          constructor
          · intro ends
            cases ends
            exact ⟨⟨known, taken, distinct⟩, inserted⟩
          · intro ok
            rw [ok.2.unique inserted]

end Drafting

namespace Declaration

variable {draft next left : Draft} {tables : List Table} {links : List Link}

theorem perform_failed {d : Declaration} {failure : QueryError}
    (failed : d.perform.outcome draft = (.error failure, left)) : left = draft := by
  cases d with
  | table e name fields => exact Drafting.declare_failed failed
  | schema s => exact Drafting.declare_failed failed
  | relation source r => cases failed

theorem perform_ends (holds : draft.Holds tables links) (declared : Draft.WellDeclared tables)
    (d : Declaration) : d.perform.outcome draft = (.ok (), next) ↔
      Draft.WellDeclared (tables ++ d.tables) ∧
        next.Holds (tables ++ d.tables) (links ++ d.links) := by
  cases d with
  | table e name fields =>
      rw [Declaration.tables, Declaration.links, List.append_nil]
      exact Drafting.declare_ends holds declared e name fields
  | schema s =>
      rw [Declaration.tables, Declaration.links, List.append_nil]
      exact Drafting.declare_ends holds declared s.entity s.table s.fields
  | relation source r =>
      have linked : Draft.Holds { draft with links := draft.links ++ [⟨source, r⟩] } tables
          (links ++ [⟨source, r⟩]) := ⟨holds.models, holds.names, by rw [holds.links]⟩
      rw [Declaration.tables, Declaration.links, List.append_nil]
      constructor
      · intro ends
        cases ends
        exact ⟨declared, linked⟩
      · intro ok
        rw [ok.2.unique linked]
        rfl

end Declaration

structure Draft.Sound (draft : Draft) : Prop where
  holds : draft.Holds draft.tables draft.links
  declared : WellDeclared draft.tables

theorem Draft.Holds.sound {draft : Draft} {tables : List Table} {links : List Link}
    (holds : draft.Holds tables links) (declared : WellDeclared tables) : draft.Sound := by
  obtain ⟨rfl, names, rfl⟩ := holds
  exact ⟨⟨rfl, names, rfl⟩, declared⟩

theorem Declaration.perform_sound {draft : Draft} (sound : draft.Sound) (d : Declaration) :
    (d.perform.outcome draft).2.Sound := by
  cases result : d.perform.outcome draft with
  | mk answer next =>
      cases answer with
      | error failure =>
          rw [d.perform_failed result]
          exact sound
      | ok =>
          obtain ⟨declared, holds⟩ := (d.perform_ends sound.holds sound.declared).mp result
          exact holds.sound declared

theorem Draft.after_sound (calls : List Declaration) : (after calls).Sound := by
  have all : ∀ draft : Draft, draft.Sound →
      (calls.foldl (fun draft d => (d.perform.run draft).2) draft).Sound := by
    induction calls with
    | nil => exact fun draft sound => sound
    | cons d rest ih => exact fun draft sound => ih _ (d.perform_sound sound)
  exact all empty ⟨⟨rfl, rfl, rfl⟩, well_declared_nil⟩

def Table.linked (links : List Link) (t : Table) : Table :=
  { t with relations :=
      t.relations ++ (links.filter fun l => l.source = t.entity).map Link.relation }

theorem Table.linked_cons (l : Link) (links : List Link) (t : Table) :
    (t.linked [l]).linked links = t.linked (l :: links) := by
  by_cases own : l.source = t.entity <;> simp [linked, own]

/-- A link leads from a field of a declared table to a field of a declared table with which it
compares, and its name is not the name of a field. -/
def Link.Sound (models : Models) (l : Link) : Prop :=
  ∃ source target near far, models.get? l.source = some source ∧
    models.get? l.relation.target = some target ∧
    source.field? l.relation.localField = some near ∧
    target.field? l.relation.foreignField = some far ∧
    near.type.comparable far.type = true ∧ source.field? l.relation.name = none

namespace Models

def linked (links : List Link) (models : Models) : Models where
  entries := models.entries.map (Table.linked links)
  distinct := by
    rw [List.map_map]
    exact models.distinct

theorem entries_linked (links : List Link) (models : Models) :
    (models.linked links).entries = models.entries.map (Table.linked links) := rfl

theorem get_linked (links : List Link) (models : Models) (e : Entity) :
    (models.linked links).get? e = (models.get? e).map (Table.linked links) := by
  rw [Keyed.get?, linked, List.find?_map]
  rfl

theorem linked_nil (models : Models) : models.linked [] = models := by
  have same : Table.linked [] = id := by
    funext t
    simp [Table.linked]
  refine Keyed.ext ?_
  rw [entries_linked, same, List.map_id]

theorem linked_cons (l : Link) (links : List Link) (models : Models) :
    (models.linked [l]).linked links = models.linked (l :: links) := by
  refine Keyed.ext (List.map_map.trans ?_)
  exact List.map_congr_left fun t _ => t.linked_cons l links

theorem insert_linked {models : Models} {l : Link} {source : Table}
    (found : models.get? l.source = some source) :
    models.insert { source with relations := source.relations ++ [l.relation] } =
      models.linked [l] := by
  obtain ⟨member, own⟩ := Keyed.get_iff.mp found
  have known : source.entity ∈ models.keys := List.mem_map_of_mem member
  refine Keyed.ext ((Keyed.insert_known ?_).trans ?_)
  · exact known
  refine List.map_congr_left fun t inModels => ?_
  by_cases isSource : t.entity = source.entity
  · have same : t = source := List.inj_on_of_nodup_map models.distinct inModels member isSource
    simp [same, Table.linked, own]
  · simp [isSource, Table.linked, ← own, Ne.symm isSource]

end Models

namespace Draft

-- Links add no fields, so they change nothing for the links behind them but the relations.
theorem sound_linked (links : List Link) (models : Models) (l : Link) :
    l.Sound (models.linked links) ↔ l.Sound models := by
  constructor
  · rintro ⟨source, target, near, far, sourceFound, targetFound, rest⟩
    rw [Models.get_linked, Option.map_eq_some_iff] at sourceFound targetFound
    obtain ⟨source, sourceFound, rfl⟩ := sourceFound
    obtain ⟨target, targetFound, rfl⟩ := targetFound
    exact ⟨source, target, near, far, sourceFound, targetFound, rest⟩
  · rintro ⟨source, target, near, far, sourceFound, targetFound, rest⟩
    refine ⟨source.linked links, target.linked links, near, far, ?_, ?_, rest⟩
    · rw [Models.get_linked, sourceFound, Option.map_some]
    · rw [Models.get_linked, targetFound, Option.map_some]

theorem add_link_ok {models models' : Models} {l : Link} :
    addLink models l = .ok models' ↔ l.Sound models ∧
      (∀ source, models.get? l.source = some source →
        source.relation? l.relation.name = none) ∧ models' = models.linked [l] := by
  constructor
  · intro added
    rw [addLink] at added
    cases targetFound : models.get? l.relation.target with
    | none =>
        simp only [targetFound] at added
        cases added
    | some target =>
        simp only [targetFound] at added
        obtain ⟨far, farFound, rest⟩ := bind_ok.mp added
        split at rest
        next => cases rest
        next source sourceFound =>
          obtain ⟨near, nearFound, rest⟩ := bind_ok.mp rest
          split at rest
          next => cases rest
          next agree =>
            split at rest
            next => cases rest
            next fresh =>
              obtain ⟨noField, noRelation⟩ : source.field? l.relation.name = none ∧
                  source.relation? l.relation.name = none := by simpa using fresh
              cases rest
              refine ⟨⟨source, target, near, far, sourceFound, targetFound,
                Table.require_field_ok nearFound, Table.require_field_ok farFound,
                by simpa using agree, noField⟩, ?_, Models.insert_linked sourceFound⟩
              intro other found
              rw [sourceFound] at found
              cases found
              exact noRelation
  · rintro ⟨⟨source, target, near, far, sourceFound, targetFound, nearFound, farFound, agree,
      noField⟩, noRelation, rfl⟩
    have fresh := noRelation source sourceFound
    simp [addLink, Table.requireField, sourceFound, targetFound, nearFound, farFound, agree,
      noField, fresh, bind, Except.bind, Models.insert_linked sourceFound]

theorem relation?_eq_none {t : Table} {name : String} :
    t.relation? name = none ↔ name ∉ t.relations.map Relation.name := by
  simp [Table.relation?]

theorem distinct_linked {t : Table} {l : Link} (distinct : (t.relations.map Relation.name).Nodup) :
    ((t.linked [l]).relations.map Relation.name).Nodup ↔
      (t.entity = l.source → t.relation? l.relation.name = none) := by
  by_cases own : t.entity = l.source
  · have added : (t.linked [l]).relations.map Relation.name =
        t.relations.map Relation.name ++ [l.relation.name] := by
      simp [Table.linked, own]
    rw [added, (List.perm_append_singleton _ _).nodup_iff, List.nodup_cons, relation?_eq_none]
    simp [own, distinct]
  · simp [Table.linked, own, Ne.symm own, distinct]

theorem add_links_ok {links : List Link} {models models' : Models}
    (distinct : ∀ t ∈ models.entries, (t.relations.map Relation.name).Nodup) :
    links.foldlM addLink models = .ok models' ↔ (∀ l ∈ links, l.Sound models) ∧
      (∀ t ∈ models.entries, ((t.linked links).relations.map Relation.name).Nodup) ∧
      models' = models.linked links := by
  induction links generalizing models with
  | nil =>
      have done : List.foldlM addLink models [] = .ok models := rfl
      rw [done, Models.linked_nil, Except.ok.injEq, eq_comm]
      constructor
      · intro same
        exact ⟨by simp, by simpa [Table.linked] using distinct, same⟩
      · exact fun all => all.2.2
  | cons l rest ih =>
      have step : ∀ middle, addLink models l = .ok middle ↔ l.Sound models ∧
          (∀ t ∈ models.entries, ((t.linked [l]).relations.map Relation.name).Nodup) ∧
          middle = models.linked [l] := by
        intro middle
        rw [add_link_ok, and_congr_right_iff]
        intro _
        refine and_congr_left fun _ => ⟨?_, ?_⟩
        · intro fresh t member
          refine (distinct_linked (distinct t member)).mpr fun own => fresh t ?_
          exact Keyed.get_iff.mpr ⟨member, own⟩
        · intro all source found
          obtain ⟨member, own⟩ := Keyed.get_iff.mp found
          exact (distinct_linked (distinct source member)).mp (all source member) own
      have later : (∀ t ∈ models.entries, ((t.linked [l]).relations.map Relation.name).Nodup) →
          (rest.foldlM addLink (models.linked [l]) = .ok models' ↔
            (∀ m ∈ rest, m.Sound models) ∧
              (∀ t ∈ models.entries, ((t.linked (l :: rest)).relations.map Relation.name).Nodup) ∧
              models' = models.linked (l :: rest)) := by
        intro all
        have distinct' : ∀ t ∈ (models.linked [l]).entries,
            (t.relations.map Relation.name).Nodup := by
          rw [Models.entries_linked, List.forall_mem_map]
          exact all
        rw [ih distinct', Models.linked_cons]
        simp only [sound_linked, Models.entries_linked, List.forall_mem_map, Table.linked_cons]
      rw [List.foldlM_cons, bind_ok]
      constructor
      · rintro ⟨middle, added, others⟩
        obtain ⟨sound, all, rfl⟩ := (step middle).mp added
        obtain ⟨restSound, rest⟩ := (later all).mp others
        exact ⟨List.forall_mem_cons.mpr ⟨sound, restSound⟩, rest⟩
      · rintro ⟨sounds, names, result⟩
        obtain ⟨sound, restSound⟩ := List.forall_mem_cons.mp sounds
        have all : ∀ t ∈ models.entries,
            ((t.linked [l]).relations.map Relation.name).Nodup := by
          intro t member
          have longer := names t member
          rw [← Table.linked_cons, Table.linked, List.map_append] at longer
          exact longer.of_append_left
        exact ⟨_, (step _).mpr ⟨sound, all, rfl⟩, (later all).mpr ⟨restSound, names, result⟩⟩

structure Linkable (models : Models) (links : List Link) : Prop where
  sound : ∀ l ∈ links, l.Sound models
  distinct : ∀ t ∈ models.entries, ((t.linked links).relations.map Relation.name).Nodup

theorem build_ok {draft : Draft} {c : Catalog} (declared : WellDeclared draft.tables) :
    draft.build = .ok c ↔ Linkable draft.models draft.links ∧
      c = ⟨draft.models.linked draft.links, draft.tableNames⟩ := by
  have unlinked : ∀ t ∈ draft.models.entries, (t.relations.map Relation.name).Nodup := by
    intro t member
    simp [declared.unlinked t member]
  rw [build, bind_ok]
  constructor
  · rintro ⟨models, linked, ends⟩
    cases ends
    obtain ⟨sound, distinct, rfl⟩ := (add_links_ok unlinked).mp linked
    exact ⟨⟨sound, distinct⟩, rfl⟩
  · rintro ⟨⟨sound, distinct⟩, rfl⟩
    exact ⟨_, (add_links_ok unlinked).mpr ⟨sound, distinct, rfl⟩, rfl⟩

end Draft

/-- A catalog whose record types, table names, field names and relation names each name one thing,
and whose relations all lead from a field to a field of the same class. -/
structure Catalog.Consistent (c : Catalog) : Prop where
  inStep : ∀ name e, (name, e) ∈ c.tableNames.entries ↔
    ∃ t ∈ c.tables, t.name = name ∧ t.entity = e
  byId : ∀ e t, c.tableById e = .ok t ↔ t ∈ c.tables ∧ t.entity = e
  byName : ∀ name t, c.tableByName name = .ok t ↔ t ∈ c.tables ∧ t.name = name
  increasing : c.names.Pairwise (· < ·)
  listed : ∀ name, name ∈ c.names ↔ ∃ t ∈ c.tables, t.name = name
  fields : ∀ t ∈ c.tables, (t.allFields.map Field.name).Nodup
  relations : ∀ t ∈ c.tables, (t.relations.map Relation.name).Nodup
  apart : ∀ t ∈ c.tables, ∀ r ∈ t.relations, ∀ f ∈ t.allFields, r.name ≠ f.name
  linked : ∀ t ∈ c.tables, ∀ r ∈ t.relations, ∃ target near far,
    c.tableById r.target = .ok target ∧ t.field? r.localField = some near ∧
      target.field? r.foreignField = some far ∧ near.type.typeClass = far.type.typeClass

namespace Catalog

variable {c : Catalog}

theorem table_by_id_iff {e : Entity} {t : Table} :
    c.tableById e = .ok t ↔ t ∈ c.tables ∧ t.entity = e := by
  have same : c.find? e = some t ↔ t ∈ c.tables ∧ t.entity = e := Keyed.get_iff
  rw [← same]
  exact ⟨table_by_id_ok, table_by_id_of_find?⟩

theorem table_by_name_iff (inStep : c.tableNames.entries = c.tables.map Table.named)
    {name : String} {t : Table} :
    c.tableByName name = .ok t ↔ t ∈ c.tables ∧ t.name = name := by
  have answers : c.tableByName name = .ok t ↔
      ∃ entry, c.tableNames.get? name = some entry ∧ c.models.get? entry.2 = some t := by
    rw [tableByName, ← Option.bind_eq_some_iff]
    cases (c.tableNames.get? name).bind fun entry => c.models.get? entry.2 <;> simp
  rw [answers]
  constructor
  · rintro ⟨entry, named, found⟩
    obtain ⟨member, rfl⟩ := Keyed.get_iff.mp named
    rw [inStep] at member
    obtain ⟨other, inTables, rfl⟩ := List.mem_map.mp member
    obtain ⟨declared, entity⟩ := Keyed.get_iff.mp found
    have same : t = other := List.inj_on_of_nodup_map c.models.distinct declared inTables entity
    exact ⟨declared, by rw [same, Table.named]⟩
  · rintro ⟨declared, rfl⟩
    refine ⟨t.named, Keyed.get_iff.mpr ⟨?_, rfl⟩, Keyed.get_iff.mpr ⟨declared, rfl⟩⟩
    rw [inStep]
    exact List.mem_map_of_mem declared

theorem mem_names (inStep : c.tableNames.entries = c.tables.map Table.named) {name : String} :
    name ∈ c.names ↔ ∃ t ∈ c.tables, t.name = name := by
  rw [names, List.mem_mergeSort, Keyed.keys, inStep, List.map_map, List.mem_map]
  rfl

theorem names_increasing (c : Catalog) : c.names.Pairwise (· < ·) := by
  have sorted : c.names.SortedLE := List.sortedLE_mergeSort
  have nodup : c.names.Nodup := (List.mergeSort_perm _ _).nodup_iff.mpr c.tableNames.distinct
  exact (sorted.sortedLT_of_nodup nodup).pairwise

end Catalog

theorem Draft.linked_relation {models : Models} {links : List Link}
    (declared : WellDeclared models.entries) (linkable : Linkable models links) {t : Table}
    (member : t ∈ models.entries) {r : Relation} (related : r ∈ (t.linked links).relations) :
    ∃ target near far, models.get? r.target = some target ∧
      t.field? r.localField = some near ∧ target.field? r.foreignField = some far ∧
      near.type.comparable far.type = true ∧ t.field? r.name = none := by
  rw [Table.linked, declared.unlinked t member, List.nil_append, List.mem_map] at related
  obtain ⟨l, chosen, rfl⟩ := related
  obtain ⟨inLinks, own⟩ := List.mem_filter.mp chosen
  have own : t.entity = l.source := by simpa [eq_comm] using own
  obtain ⟨source, target, near, far, sourceFound, rest⟩ := linkable.sound l inLinks
  have same : models.get? l.source = some t := Keyed.get_iff.mpr ⟨member, own⟩
  rw [sourceFound] at same
  cases same
  exact ⟨target, near, far, rest⟩

theorem Draft.build_in_step {draft : Draft} {c : Catalog} (sound : draft.Sound)
    (built : draft.build = .ok c) : c.tableNames.entries = c.tables.map Table.named := by
  obtain ⟨_, rfl⟩ := (build_ok sound.declared).mp built
  have same : Table.named ∘ Table.linked draft.links = Table.named := rfl
  rw [Catalog.tables, Models.entries_linked, List.map_map, same]
  exact sound.holds.names

theorem Draft.build_consistent {draft : Draft} {c : Catalog} (sound : draft.Sound)
    (built : draft.build = .ok c) : c.Consistent := by
  have inStep := build_in_step sound built
  have declared := sound.declared
  obtain ⟨linkable, rfl⟩ := (build_ok declared).mp built
  refine
    { inStep := ?_
      byId := fun _ _ => Catalog.table_by_id_iff
      byName := fun _ _ => Catalog.table_by_name_iff inStep
      increasing := Catalog.names_increasing _
      listed := fun _ => Catalog.mem_names inStep
      fields := ?_
      relations := ?_
      apart := ?_
      linked := ?_ }
  · intro name e
    rw [inStep, List.mem_map]
    simp only [Table.named, Prod.mk.injEq]
  · exact List.forall_mem_map.mpr declared.fields
  · exact List.forall_mem_map.mpr linkable.distinct
  · refine List.forall_mem_map.mpr fun t member r related f inFields same => ?_
    obtain ⟨_, _, _, _, _, _, _, noField⟩ := linked_relation declared linkable member related
    have other : f.name ≠ r.name := by simpa using List.find?_eq_none.mp noField f inFields
    exact other same.symm
  · refine List.forall_mem_map.mpr fun t member r related => ?_
    obtain ⟨target, near, far, targetFound, nearFound, farFound, agree, _⟩ :=
      linked_relation declared linkable member related
    refine ⟨target.linked draft.links, near, far, Catalog.table_by_id_of_find? ?_, nearFound,
      farFound, by simpa [FieldType.comparable] using agree⟩
    rw [Catalog.find?, Models.get_linked, targetFound, Option.map_some]

namespace Catalog.Consistent

variable {c : Catalog} {t : Table}

theorem find?_of_mem (consistent : c.Consistent) (member : t ∈ c.tables) :
    c.find? t.entity = some t :=
  table_by_id_ok ((consistent.byId _ _).mpr ⟨member, rfl⟩)

theorem relation?_of_mem (consistent : c.Consistent) (member : t ∈ c.tables) {r : Relation}
    (related : r ∈ t.relations) : t.relation? r.name = some r :=
  (find?_key (consistent.relations t member)).mpr ⟨related, rfl⟩

theorem field?_of_mem (consistent : c.Consistent) (member : t ∈ c.tables) {f : Field}
    (declared : f ∈ t.allFields) : t.field? f.name = some f :=
  (find?_key (consistent.fields t member)).mpr ⟨declared, rfl⟩

end Catalog.Consistent

/-- A call that fails leaves the draft as it was; and whatever the calls, a catalog that is built
from the draft they leave holds the drafted tables with their links, and it is consistent. -/
theorem built_catalog_consistent (calls : List Declaration) :
    (∀ (d : Declaration) (draft left : Draft) (e : QueryError),
      d.perform.run draft = (.error e, left) → left = draft) ∧
    ∀ c, (Draft.after calls).build = .ok c →
      c.tables = (Draft.after calls).tables.map (Table.linked (Draft.after calls).links) ∧
        c.Consistent := by
  refine ⟨fun d draft left e => Declaration.perform_failed, ?_⟩
  intro c built
  have sound := Draft.after_sound calls
  have consistent := Draft.build_consistent sound built
  obtain ⟨_, rfl⟩ := (Draft.build_ok sound.declared).mp built
  exact ⟨rfl, consistent⟩

def Sample.calls : List Declaration :=
  [.table page "Pages"
      [⟨"title", .string, false⟩, ⟨"length", .integer, false⟩, ⟨"writer", .integer, true⟩,
        ⟨"tags", .list .string, true⟩],
    .relation page ⟨"author", author, "writer", "id"⟩, .table page "Articles" [],
    .schema ⟨author, "Authors", [⟨"id", .integer, false⟩, ⟨"name", .string, false⟩]⟩]

theorem pages_declared_again_consistent :
    (∃ left, (Declaration.table Sample.page "Articles" []).perform.run (Draft.after Sample.calls) =
        (.error (.entityDeclared Sample.page), left) ∧ left = Draft.after Sample.calls) ∧
      (Draft.after Sample.calls).build = .ok Sample.catalog ∧ Sample.catalog.Consistent := by
  obtain ⟨unchanged, consistent⟩ := built_catalog_consistent Sample.calls
  have built : (Draft.after Sample.calls).build = .ok Sample.catalog := rfl
  exact ⟨⟨_, rfl, unchanged (.table Sample.page "Articles" []) (Draft.after Sample.calls) _ _ rfl⟩,
    built, (consistent _ built).2⟩

end WikiQuery
