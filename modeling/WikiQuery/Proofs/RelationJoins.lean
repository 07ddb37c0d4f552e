import WikiQuery.Proofs.Acceptance
import WikiQuery.Proofs.Commutation
import WikiQuery.Proofs.Declarations
import WikiQuery.Proofs.Forest
import WikiQuery.Proofs.Walks

/- Two ways along a relation. A table that a caller joins by the fields of a relation, and the table
   that a member path through the relation brings in, stand under the same label and on the same
   condition; only the mark of the relation tells the two joins apart, and no request shows it. -/
set_option autoImplicit false

namespace WikiQuery

namespace Join

def unmarked (j : Join) : Join := { j with via := none }

@[simp] theorem unmarked_unmarked (j : Join) : j.unmarked.unmarked = j.unmarked := rfl

@[simp] theorem unmarked_text (j : Join) : j.unmarked.text = j.text := rfl

end Join

namespace Scope

structure SameButMarks (s s' : Scope) : Prop where
  sources : s.sources = s'.sources
  joins : s.joins.map Join.unmarked = s'.joins.map Join.unmarked

theorem same_but_marks_unmarked (sources : List Source) (joins : List Join) (j : Join) :
    SameButMarks ⟨sources, joins ++ [j.unmarked]⟩ ⟨sources, joins ++ [j]⟩ :=
  ⟨rfl, by simp⟩

theorem SameButMarks.join_texts {s s' : Scope} (same : s.SameButMarks s') :
    s.joins.map Join.text = s'.joins.map Join.text := by
  have texts := congrArg (List.map Join.text) same.joins
  simpa only [List.map_map, Function.comp_def, Join.unmarked_text] using texts

theorem SameButMarks.join_columns {s s' : Scope} (same : s.SameButMarks s') :
    (s.joins.flatMap fun j => [j.left, j.right]) = s'.joins.flatMap fun j => [j.left, j.right] := by
  have columns := congrArg (List.flatMap fun j : Join => [j.left, j.right]) same.joins
  simpa only [List.flatMap_map, Join.unmarked] using columns

end Scope

namespace Request

theorem check_columns_sources {c : Catalog} {s s' : Scope} (same : s.sources = s'.sources)
    (columns : List Column) : checkColumns c s columns = checkColumns c s' columns := by
  induction columns with
  | nil => rfl
  | cons column rest ih =>
      rw [checkColumns, checkColumns, ih, checkColumn, checkColumn, Scope.source?, Scope.source?,
        same]

-- A request shows the tables and the conditions of a query, and no marks.
theorem of_query_unmarked {c : Catalog} {provider : Provider} {q : Query} {s s' : Scope}
    (same : s.SameButMarks s') :
    ofQuery c provider { q with scope := s } = ofQuery c provider { q with scope := s' } := by
  have spoken : columns { q with scope := s } = columns { q with scope := s' } := by
    rw [columns, columns, same.join_columns]
    rfl
  have items : fieldItems c { q with scope := s } = fieldItems c { q with scope := s' } := by
    simp only [fieldItems, defaultFields, same.sources]
  have named : names provider { q with scope := s } = names provider { q with scope := s' } := rfl
  rw [ofQuery, ofQuery, spoken, items, named, check_columns_sources same.sources, same.sources,
    same.join_texts]
  rfl

end Request

def Relation.keys (source : Entity) (r : Relation) : Expr :=
  .binary (.member (.entity source) [r.localField]) .eq
    (.member (.entity r.target) [r.foreignField])

namespace Expr

variable {c : Catalog} {clause : Clause} {table : TableRef} {path : List String} {s s' : Scope}
  {column : Column}

theorem lower_member (found : (Navigation.member c table path).outcome s = (.ok column, s')) :
    ((Expr.member table path).lower c clause).outcome s = (.ok (.ofColumn column), s') := by
  rw [lower]
  exact Steps.bind_ends.mpr ⟨column, s', found, rfl⟩

theorem lower_join_side_member (whole : Expr)
    (found : (Navigation.member c table path).outcome s = (.ok column, s')) :
    (lowerJoinSide c clause whole (.member table path)).outcome s = (.ok column, s') :=
  Steps.bind_ends.mpr ⟨.ofColumn column, s', lower_member found, rfl⟩

end Expr

/-- A relation of a catalog between two of its tables, on the point of being walked from the only
table of the one in a query that has no table of the other. -/
structure Crossing (c : Catalog) (s : Scope) (r : Relation) (near : Source) (table target : Table)
    (localField foreignField : Field) : Prop where
  single : s.sourcesOf near.entity = [near]
  absent : s.sourcesOf r.target = []
  nearKnown : c.find? near.entity = some table
  targetKnown : c.find? r.target = some target
  related : table.relation? r.name = some r
  localFound : table.field? r.localField = some localField
  foreignFound : target.field? r.foreignField = some foreignField
  agree : localField.type.comparable foreignField.type = true

namespace Crossing

open Navigation

variable {c : Catalog} {s : Scope} {r : Relation} {near : Source} {table target : Table}
  {localField foreignField : Field}
  (crossing : Crossing c s r near table target localField foreignField)

include crossing

theorem in_scope : near ∈ s.sources := by
  have only : near ∈ s.sourcesOf near.entity := crossing.single ▸ List.mem_singleton_self near
  exact (Scope.mem_sources_of.mp only).1

theorem apart : r.target ≠ near.entity := by
  intro same
  have none := crossing.absent
  rw [same, crossing.single] at none
  cases none

theorem near_at (sound : s.Sound c) : tableAt c s near.label = .ok table :=
  table_at_of_source? (sound.source?_of_mem crossing.in_scope) crossing.nearKnown

-- A join along the relation would have its target in the query.
theorem unjoined (sound : s.Sound c) (forest : s.Forest c) :
    s.joined? near.label r.name = none := by
  rw [Option.eq_none_iff_forall_ne_some]
  intro j found
  obtain ⟨far, inScope, target, _⟩ := forest.joined_target sound.distinct crossing.in_scope
    crossing.nearKnown crossing.related found
  have there : far ∈ s.sourcesOf r.target := Scope.mem_sources_of.mpr ⟨inScope, target⟩
  rw [crossing.absent] at there
  cases there

theorem fresh (sound : s.Sound c) :
    newJoin c s near.label r = .ok (broughtIn s near.label r target localField foreignField) :=
  new_join_of_fields (crossing.near_at sound) crossing.targetKnown crossing.localFound
    crossing.foreignFound

theorem walked (sound : s.Sound c) (forest : s.Forest c) {name : String} {f : Field}
    (found : target.field? name = some f) :
    (member c (.entity near.entity) [r.name, name]).outcome s =
      (.ok ⟨s.nextLabel, f.name, f.type⟩,
        ⟨s.sources ++ [(broughtIn s near.label r target localField foreignField).1],
          s.joins ++ [(broughtIn s near.label r target localField foreignField).2]⟩) :=
  member_first_walk crossing.single (crossing.near_at sound) crossing.related
    (crossing.unjoined sound forest) (crossing.fresh sound) crossing.targetKnown found

theorem opened {joins : List Join} {name : String} {f : Field}
    (found : target.field? name = some f) :
    (member c (.entity r.target) [name]).outcome
        ⟨s.sources ++ [⟨r.target, target.name, s.nextLabel⟩], joins⟩ =
      (.ok ⟨s.nextLabel, f.name, f.type⟩,
        ⟨s.sources ++ [⟨r.target, target.name, s.nextLabel⟩], joins⟩) := by
  have only : Scope.sourcesOf ⟨s.sources ++ [⟨r.target, target.name, s.nextLabel⟩], joins⟩
      r.target = [⟨r.target, target.name, s.nextLabel⟩] := by
    have none := crossing.absent
    rw [Scope.sourcesOf] at none ⊢
    rw [List.filter_append, none]
    simp
  exact member_field only
    (table_at_of_source? (Scope.source?_append_of_free s.next_label_free) crossing.targetKnown)
    found

theorem keys_lowered (sound : s.Sound c) :
    ((r.keys near.entity).lowerJoin c .joinOn).outcome
        ⟨s.sources ++ [⟨r.target, target.name, s.nextLabel⟩], s.joins⟩ =
      (.ok [(broughtIn s near.label r target localField foreignField).2.unmarked],
        ⟨s.sources ++ [⟨r.target, target.name, s.nextLabel⟩], s.joins⟩) := by
  have single : Scope.sourcesOf ⟨s.sources ++ [⟨r.target, target.name, s.nextLabel⟩], s.joins⟩
      near.entity = [near] := by
    have only := crossing.single
    rw [Scope.sourcesOf] at only ⊢
    rw [List.filter_append, only]
    simp [crossing.apart]
  have more : s.Extends ⟨s.sources ++ [⟨r.target, target.name, s.nextLabel⟩], s.joins⟩ :=
    ⟨List.prefix_append _ _, List.prefix_rfl⟩
  have near :=
    member_field single (table_at_later (crossing.near_at sound) more) crossing.localFound
  rw [Relation.keys, Expr.lowerJoin]
  refine Steps.bind_ends.mpr ⟨_, _, Expr.lower_join_side_member _ near, ?_⟩
  refine Steps.bind_ends.mpr
    ⟨_, _, Expr.lower_join_side_member _ (crossing.opened crossing.foreignFound), ?_⟩
  refine Steps.of_except_ends.mpr ⟨?_, rfl⟩
  rw [Expr.equalJoin, if_pos crossing.agree]
  rfl

theorem joined {q : Query} (scope : q.scope = s) (sound : s.Sound c) :
    q.join c r.target (r.keys near.entity) =
      .ok { q with
        scope := ⟨
          s.sources ++ [(broughtIn s near.label r target localField foreignField).1],
          s.joins ++ [(broughtIn s near.label r target localField foreignField).2.unmarked]⟩ } := by
  have entity : target.entity = r.target := by simpa using List.find?_some crossing.targetKnown
  have known : c.tableOf r.target = .ok target := by
    rw [Catalog.tableOf, crossing.targetKnown]
  subst scope
  have lowered := crossing.keys_lowered sound
  rw [← entity] at lowered
  refine Query.join_as_ok.mpr ⟨target, _, _, if_pos (generated_label_identifier _), known,
    q.scope.next_label_free, lowered, ?_, ?_⟩
  · simp [Join.mentions, Join.unmarked, broughtIn]
  · rw [broughtIn, entity]

end Crossing

-- A field behind a relation, crossed by a member path from `q` and opened in `joined`, where the
-- caller has joined the target by the fields of the relation.
structure Relation.Alike (c : Catalog) (q joined : Query) (e : Entity) (r : Relation) (f : Field)
    (clause : Clause) (walked : Scope) (j : Join) (column : Column) : Prop where
  crossed : ((Expr.member (.entity e) [r.name, f.name]).lower c clause).commit q.scope =
    .ok (.ofColumn column, walked)
  brought : walked.joins = q.scope.joins ++ [j]
  marked : j.via = some r.name
  scope : joined.scope = ⟨walked.sources, q.scope.joins ++ [j.unmarked]⟩
  opened : ((Expr.member (.entity r.target) [f.name]).lower c clause).commit joined.scope =
    .ok (.ofColumn column, joined.scope)
  texts : joined.scope.joins.map Join.text = walked.joins.map Join.text
  requests : ∀ provider, Request.ofQuery c provider joined =
    Request.ofQuery c provider { q with scope := walked }

def Relation.EitherWay (c : Catalog) (q : Query) (e : Entity) (r : Relation) : Prop :=
  ∃ joined target, q.join c r.target (r.keys e) = .ok joined ∧
    c.tableById r.target = .ok target ∧
    ∀ f ∈ target.allFields, ∀ clause : Clause, ∃ walked j column,
      r.Alike c q joined e f clause walked j column

/-- A relation of a table that stands once in a query, to a table that does not stand in it, may be
joined by its fields or walked by a member path to any field of the target: both succeed, with the
same tables and, but for the mark of the relation, the same conditions; the field is the same
column in both; and the requests are the same. -/
theorem relation_joined_either_way {calls : List Declaration} {c : Catalog}
    (built : (Draft.after calls).build = .ok c) {root : Entity} {q : Query}
    (reached : Reachable c root q) {table : Table} (declared : table ∈ c.tables) {r : Relation}
    (related : r ∈ table.relations) {near : Source} (once : q.scope.sourcesOf table.entity = [near])
    (absent : q.scope.sourcesOf r.target = []) : r.EitherWay c q table.entity := by
  have consistent := Draft.build_consistent (Draft.after_sound calls) built
  have sound := reached.sound.scope
  have forest := reached.forest
  obtain ⟨target, localField, foreignField, known, localFound, foreignFound, agree⟩ :=
    consistent.linked table declared r related
  have targetKnown := Catalog.table_by_id_ok known
  have same : near.entity = table.entity := by
    have only : near ∈ q.scope.sourcesOf table.entity := once ▸ List.mem_singleton_self near
    exact (Scope.mem_sources_of.mp only).2
  have crossing : Crossing c q.scope r near table target localField foreignField :=
    { single := by rw [same, once]
      absent := absent
      nearKnown := by rw [same]; exact consistent.find?_of_mem declared
      targetKnown := targetKnown
      related := consistent.relation?_of_mem declared related
      localFound := localFound
      foreignFound := foreignFound
      agree := by simpa [FieldType.comparable] using agree }
  rw [← same]
  refine ⟨_, target, crossing.joined rfl sound, known, ?_⟩
  intro f inTarget clause
  have found : target.field? f.name = some f :=
    consistent.field?_of_mem (List.mem_of_find?_eq_some targetKnown) inTarget
  exact ⟨_, _, _,
    { crossed := Steps.commit_ok.mpr (Expr.lower_member (crossing.walked sound forest found))
      brought := rfl
      marked := rfl
      scope := rfl
      opened := Steps.commit_ok.mpr (Expr.lower_member (crossing.opened found))
      texts := (Scope.same_but_marks_unmarked _ _ _).join_texts
      requests := fun provider =>
        Request.of_query_unmarked (Scope.same_but_marks_unmarked _ _ _) }⟩

theorem author_joined_either_way :
    Reachable Sample.catalog Sample.page Sample.byTitle ∧
      Sample.byTitle.scope.sourcesOf Sample.page = [⟨Sample.page, "Pages", "T1"⟩] ∧
      Sample.byTitle.scope.sourcesOf Sample.author = [] ∧
      Relation.EitherWay Sample.catalog Sample.byTitle Sample.page
        ⟨"author", Sample.author, "writer", "id"⟩ := by
  have built : (Draft.after Sample.calls).build = .ok Sample.catalog := rfl
  have started : Query.start Sample.catalog Sample.page = .ok Sample.start := rfl
  have ordered : (Operator.orderBy (.field "title") .asc).apply Sample.catalog Sample.start =
      .ok Sample.byTitle := rfl
  have reached : Reachable Sample.catalog Sample.page Sample.byTitle :=
    .step (.start started) ordered
  exact ⟨reached, rfl, rfl, relation_joined_either_way built reached List.mem_cons_self
    List.mem_cons_self rfl rfl⟩

end WikiQuery
