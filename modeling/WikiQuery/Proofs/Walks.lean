import Mathlib.Data.List.Nodup
import Mathlib.Data.List.Perm.Subperm
import WikiQuery.Proofs.Stability

/- Walks that succeed. The generated label is always free, so a relation of a table of the query can
   be walked whenever its fields are there; the first walk joins exactly one table by exactly one
   condition. -/
set_option autoImplicit false

namespace WikiQuery

theorem generated_label_injective : Function.Injective generatedLabel := by
  intro m n same
  have digits : m.repr.toList = n.repr.toList := by
    have text := congrArg String.toList same
    rwa [generatedLabel, generatedLabel, String.toList_append, String.toList_append,
      List.append_right_inj] at text
  have value := congrArg (fun cs => Nat.ofDigitChars 10 cs 0) digits
  simpa only [Nat.toList_repr, Nat.ofDigitChars_ten_toDigits] using value

namespace Scope

variable {s : Scope}

theorem source?_append_of_free {source : Source} (free : s.isFree source.label = true) :
    source? ⟨s.sources ++ [source], s.joins⟩ source.label = some source := by
  rw [isFree, Option.isNone_iff_eq_none, source?] at free
  rw [source?, List.find?_append, free]
  simp

theorem add_source_of_free {source : Source} (free : s.isFree source.label = true) :
    s.addSource source = .ok ⟨s.sources ++ [source], s.joins⟩ := by
  rw [addSource, if_pos free]

-- One more candidate than there are tables: their labels cannot all be taken.
theorem candidate_free (s : Scope) : ∃ k ∈ s.candidates, s.isFree (generatedLabel k) = true := by
  by_contra taken
  have distinct : (s.candidates.map generatedLabel).Nodup := by
    refine List.Nodup.map generated_label_injective (List.Nodup.map ?_ List.nodup_range)
    exact fun a b same => Nat.add_left_cancel same
  have subset : s.candidates.map generatedLabel ⊆ s.sources.map Source.label := by
    intro label member
    obtain ⟨k, candidate, rfl⟩ := List.mem_map.mp member
    have used : ¬ s.isFree (generatedLabel k) = true := fun free => taken ⟨k, candidate, free⟩
    rw [is_free_iff] at used
    push Not at used
    obtain ⟨source, inScope, same⟩ := used
    exact same ▸ List.mem_map_of_mem inScope
  have fewer := (distinct.subperm subset).length_le
  rw [List.length_map, List.length_map, candidates, List.length_map, List.length_range] at fewer
  omega

theorem next_label_free (s : Scope) : s.isFree s.nextLabel = true := by
  have some : (s.candidates.find? fun k => s.isFree (generatedLabel k)).isSome = true :=
    List.find?_isSome.mpr s.candidate_free
  obtain ⟨k, found⟩ := Option.isSome_iff_exists.mp some
  have free := List.find?_some found
  rw [nextLabel, found]
  exact free

theorem mem_sources_of {e : Entity} {source : Source} :
    source ∈ s.sourcesOf e ↔ source ∈ s.sources ∧ source.entity = e := by
  simp [sourcesOf]

end Scope

namespace Table

theorem require_field_of_field? {t : Table} {name : String} {f : Field}
    (found : t.field? name = some f) : t.requireField name = .ok f := by
  rw [requireField, found]

end Table

namespace Navigation

variable {c : Catalog} {s : Scope}

theorem table_at_of_source? {label : String} {source : Source} {table : Table}
    (found : s.source? label = some source) (known : c.find? source.entity = some table) :
    tableAt c s label = .ok table := by
  rw [tableAt, found]
  exact Catalog.table_by_id_of_find? known

theorem root_label_single {e : Entity} {source : Source} (single : s.sourcesOf e = [source])
    (expr : Expr) : rootLabel c s expr (.entity e) = .ok source.label := by
  rw [rootLabel, single]

theorem column_at_iff {label name : String} {table : Table} {column : Column}
    (near : tableAt c s label = .ok table) (expr : Expr) :
    columnAt c s expr label name = .ok column ↔
      ∃ f, table.field? name = some f ∧ column = ⟨label, f.name, f.type⟩ := by
  constructor
  · intro known
    obtain ⟨t, same, rest⟩ := bind_ok.mp known
    cases near.symm.trans same
    split at rest
    next f found =>
      cases rest
      exact ⟨f, found, rfl⟩
    next => split at rest <;> cases rest
  · rintro ⟨f, found, rfl⟩
    refine bind_ok.mpr ⟨table, near, ?_⟩
    rw [found]

theorem relation_at_iff {label segment : String} {table : Table} {r : Relation}
    (near : tableAt c s label = .ok table) (expr : Expr) :
    relationAt c s expr label segment = .ok r ↔ table.relation? segment = some r := by
  constructor
  · intro known
    obtain ⟨t, same, rest⟩ := bind_ok.mp known
    cases near.symm.trans same
    split at rest
    next found =>
      cases rest
      exact found
    next => split at rest <;> cases rest
  · intro related
    refine bind_ok.mpr ⟨table, near, ?_⟩
    rw [related]

def broughtIn (s : Scope) (label : String) (r : Relation) (target : Table)
    (localField foreignField : Field) : Source × Join :=
  (⟨r.target, target.name, s.nextLabel⟩,
    ⟨⟨label, localField.name, localField.type⟩,
      ⟨s.nextLabel, foreignField.name, foreignField.type⟩, .equal, some r.name⟩)

theorem new_join_of_fields {label : String} {near target : Table} {r : Relation}
    {localField foreignField : Field} (nearKnown : tableAt c s label = .ok near)
    (targetKnown : c.find? r.target = some target)
    (nearField : near.field? r.localField = some localField)
    (targetField : target.field? r.foreignField = some foreignField) :
    newJoin c s label r = .ok (broughtIn s label r target localField foreignField) := by
  rw [newJoin]
  exact bind_ok.mpr ⟨near, nearKnown, bind_ok.mpr ⟨target, Catalog.table_by_id_of_find? targetKnown,
    bind_ok.mpr ⟨localField, Table.require_field_of_field? nearField,
      bind_ok.mpr ⟨foreignField, Table.require_field_of_field? targetField, rfl⟩⟩⟩⟩

theorem follow_first {label : String} {r : Relation} {source : Source} {j : Join}
    (unjoined : s.joined? label r.name = none) (fresh : newJoin c s label r = .ok (source, j)) :
    (follow c label r).outcome s =
      (.ok source.label, ⟨s.sources ++ [source], s.joins ++ [j]⟩) := by
  have free : s.isFree source.label = true := by
    obtain ⟨_, _, _, _, _, _, _, _, rfl, _⟩ := new_join_ok fresh
    exact s.next_label_free
  rw [follow, Steps.get_bind_outcome, unjoined]
  refine Steps.of_except_bind_ends.mpr ⟨(source, j), fresh, ?_⟩
  exact Steps.of_except_bind_ends.mpr ⟨_, Scope.add_source_of_free free, rfl⟩

theorem member_concat (table : TableRef) (segments : List String) (last : String) :
    (member c table (segments ++ [last])).outcome s =
      (do
        let expr := Expr.member table (segments ++ [last])
        let root ← Steps.ofExcept (rootLabel c s expr table)
        let label ← followAll c expr root segments
        let s ← get
        Steps.ofExcept (columnAt c s expr label last) : Scoped Column).outcome s := by
  rw [member, List.getLast?_concat, List.dropLast_concat]
  rfl

theorem member_field {e : Entity} {source : Source} {table : Table} {name : String} {f : Field}
    (single : s.sourcesOf e = [source]) (near : tableAt c s source.label = .ok table)
    (found : table.field? name = some f) :
    (member c (.entity e) [name]).outcome s = (.ok ⟨source.label, f.name, f.type⟩, s) := by
  refine (member_concat (.entity e) [] name).trans ?_
  exact Steps.of_except_bind_ends.mpr ⟨source.label, root_label_single single _,
    Steps.of_except_ends.mpr ⟨(column_at_iff near _).mpr ⟨f, found, rfl⟩, rfl⟩⟩

theorem member_first_walk {e : Entity} {near source : Source} {table target : Table} {r : Relation}
    {j : Join} {name : String} {f : Field} (single : s.sourcesOf e = [near])
    (nearKnown : tableAt c s near.label = .ok table) (related : table.relation? r.name = some r)
    (unjoined : s.joined? near.label r.name = none)
    (fresh : newJoin c s near.label r = .ok (source, j))
    (targetKnown : c.find? r.target = some target) (found : target.field? name = some f) :
    (member c (.entity e) [r.name, name]).outcome s =
      (.ok ⟨source.label, f.name, f.type⟩, ⟨s.sources ++ [source], s.joins ++ [j]⟩) := by
  have opened : tableAt c ⟨s.sources ++ [source], s.joins ++ [j]⟩ source.label = .ok target := by
    obtain ⟨_, _, _, _, _, _, _, _, rfl, _⟩ := new_join_ok fresh
    exact table_at_of_source? (Scope.source?_append_of_free s.next_label_free) targetKnown
  refine (member_concat (.entity e) [r.name] name).trans ?_
  refine Steps.of_except_bind_ends.mpr ⟨near.label, root_label_single single _, ?_⟩
  refine Steps.bind_ends.mpr ⟨source.label, ⟨s.sources ++ [source], s.joins ++ [j]⟩, ?_,
    Steps.of_except_ends.mpr ⟨(column_at_iff opened _).mpr ⟨f, found, rfl⟩, rfl⟩⟩
  rw [followAll, Steps.get_bind_outcome]
  exact Steps.of_except_bind_ends.mpr ⟨r, (relation_at_iff nearKnown _).mpr related,
    Steps.bind_ends.mpr ⟨source.label, _, follow_first unjoined fresh, rfl⟩⟩

end Navigation

end WikiQuery
