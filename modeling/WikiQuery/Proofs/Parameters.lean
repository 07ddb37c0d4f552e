import WikiQuery.Proofs.Acceptance
import WikiQuery.Proofs.Phrases
import WikiQuery.Proofs.Readability
import WikiQuery.Proofs.Windows

/- The parameters of a request. A parameter is left out when its text is empty; no text of a
   reachable query is, so that the clauses of the query alone decide which parameters there are. -/
set_option autoImplicit false

namespace WikiQuery

open Sql Sql.Term

def Parameter.all : List Parameter :=
  [.tables, .fields, .condition, .joinOn, .groupBy, .having, .orderBy, .limit, .offset]

theorem Parameter.mem_all (p : Parameter) : p ∈ all := by
  cases p <;> decide

theorem identifier_nonempty {s : String} (plain : isIdentifier s = true) : s ≠ "" := by
  rintro rfl
  cases plain

theorem Sql.Term.render_with_nonempty {names : Names} (plain : PlainNames names)
    {p : Column → Prop} {t : Term} (formed : Formed p t) : renderWith names t ≠ "" := by
  cases isNamed : nameOf? names t with
  | some name =>
      rw [render_with_named isNamed]
      exact identifier_nonempty (plain.identifier isNamed)
  | none =>
      cases t with
      | source | ordering => exact formed.elim
      | column c => simp [renderWith, named, isNamed, Column.text]
      | binary l op r => simp [renderWith, named, isNamed]
      | literal text =>
          have length := length_literal formed
          rw [renderWith, named, isNamed]
          rintro rfl
          cases length
      | function name distinct args => simp [renderWith, named, isNamed]
      | unary op t => cases op <;> simp [renderWith, named, isNamed]
      | junction k ts =>
          rcases ts with _ | ⟨first, _ | ⟨second, ts⟩⟩
          · exact absurd formed.1 (by simp)
          · exact absurd formed.1 (by simp)
          · simp [renderWith, named, isNamed, renderOperands]

namespace Request

variable {c : Catalog} {root : Entity} {provider : Provider} {q : Query} {r : Request}
  {items : List String}

def clause (items : List String) : Option String :=
  if items.isEmpty then none else some (commas items)

def said (provider : Provider) (q : Query) (items : List String) : Parameter → Option String
  | .tables => clause (q.scope.sources.map Source.text)
  | .fields => clause (markDistinct q.distinct items)
  | .condition => q.condition.map Sql.Term.render
  | .joinOn => clause (q.scope.joins.map Join.text)
  | .groupBy => clause (q.groups.map (renderWith (names provider q)))
  | .having => q.having.map (renderWith (names provider q))
  | .orderBy => clause (q.orders.map Sql.Term.render)
  | .limit => q.limit.map fun n => Nat.repr n.toNat
  | .offset => q.offset.map fun n => Nat.repr n.toNat

def listing (value : Parameter → Option String) : List (Parameter × String) :=
  Parameter.all.flatMap fun p => optional p (value p)

theorem is_some_clause (items : List String) : (clause items).isSome = true ↔ items ≠ [] := by
  cases items <;> simp [clause]

theorem commas_nonempty (some : items ≠ []) (each : ∀ x ∈ items, x ≠ "") : commas items ≠ "" := by
  rcases items with _ | ⟨first, _ | ⟨second, items⟩⟩
  · exact absurd rfl some
  · simpa [commas] using each
  · simp [commas]

theorem clause_nonempty (each : ∀ x ∈ items, x ≠ "") : ∀ text ∈ clause items, text ≠ "" := by
  intro text isClause
  rw [clause] at isClause
  split at isClause
  next => cases isClause
  next some =>
    cases isClause
    exact commas_nonempty (by simpa using some) each

theorem non_empty_optional (p : Parameter) {value : Option String}
    (nonempty : ∀ text ∈ value, text ≠ "") : nonEmpty (optional p value) = optional p value := by
  cases value with
  | none => rfl
  | some text => simp [nonEmpty, optional, nonempty text rfl]

theorem non_empty_clause (p : Parameter) (nonempty : ∀ text ∈ clause items, text ≠ "") :
    nonEmpty [(p, commas items)] = optional p (clause items) := by
  rw [← non_empty_optional p nonempty]
  cases items <;> rfl

theorem non_empty_append (a b : List (Parameter × String)) :
    nonEmpty (a ++ b) = nonEmpty a ++ nonEmpty b := List.filter_append ..

theorem non_empty_pair (x y : Parameter × String) :
    nonEmpty [x, y] = nonEmpty [x] ++ nonEmpty [y] := non_empty_append [x] [y]

theorem names_plain (sound : q.Sound c root) (provider : Provider) :
    PlainNames (names provider q) := by
  intro entry member
  rw [names] at member
  split at member
  next => cases member
  next =>
    obtain ⟨o, inOutputs, named⟩ := List.mem_filterMap.mp member
    obtain ⟨name, isName, rfl⟩ := Option.map_eq_some_iff.mp named
    exact sound.names.plain name (List.mem_filterMap.mpr ⟨o, inOutputs, isName⟩)

theorem source_nonempty (s : Source) : s.text ≠ "" := by
  simp [Source.text]

theorem join_nonempty (j : Join) : j.text ≠ "" := by
  rw [Join.text]
  split <;> simp

theorem render_nonempty {p : Column → Prop} {t : Term} (formed : Formed p t) : t.render ≠ "" :=
  render_with_nonempty (by simp [PlainNames]) formed

theorem field_items_cases (sound : q.Sound c root) (found : fieldItems c q = .ok items) :
    (q.outputs ≠ [] ∧ items = q.outputs.map outputText) ∨
      (q.outputs = [] ∧ ∃ table, c.find? root = some table ∧
        items = table.fields.map fun f => "T1" ++ "." ++ f.name ++ " AS " ++ f.name) := by
  rw [fieldItems] at found
  split at found
  next none =>
    obtain ⟨name, rest, table, sources, known⟩ := root_table sound
    rw [defaultFields, sources] at found
    obtain ⟨table', found, ok⟩ := bind_ok.mp found
    cases (Catalog.table_by_id_of_find? known).symm.trans found
    cases ok
    exact .inr ⟨by simpa using none, table, known, rfl⟩
  next some =>
    cases found
    exact .inl ⟨by simpa using some, rfl⟩

theorem field_items_nonempty (sound : q.Sound c root) (found : fieldItems c q = .ok items) :
    ∀ item ∈ items, item ≠ "" := by
  rcases field_items_cases sound found with ⟨_, rfl⟩ | ⟨_, table, _, rfl⟩
  · intro item member
    obtain ⟨o, inOutputs, rfl⟩ := List.mem_map.mp member
    rw [outputText]
    split
    · simp
    · exact render_nonempty (sound.outputs o inOutputs)
  · simp

theorem mark_distinct_forall {p : String → Prop} (marked : ∀ item, p item → p ("DISTINCT " ++ item))
    (distinct : Bool) (each : ∀ item ∈ items, p item) :
    ∀ item ∈ markDistinct distinct items, p item := by
  cases items with
  | nil => exact each
  | cons first rest =>
      cases distinct with
      | false => exact each
      | true =>
          intro item member
          rcases List.mem_cons.mp member with rfl | member
          · exact marked first (each first List.mem_cons_self)
          · exact each item (.tail _ member)

theorem said_nonempty (sound : q.Sound c root) (found : fieldItems c q = .ok items)
    (p : Parameter) :
    ∀ text ∈ said provider q items p, text ≠ "" := by
  have plain := names_plain sound provider
  cases p with
  | tables => exact clause_nonempty (by simpa using fun s _ => source_nonempty s)
  | fields =>
      have each := field_items_nonempty sound found
      exact clause_nonempty (mark_distinct_forall (by simp) q.distinct each)
  | condition =>
      intro text member
      obtain ⟨t, isCondition, rfl⟩ := Option.mem_map.mp member
      exact render_nonempty (sound.condition t isCondition)
  | joinOn => exact clause_nonempty (by simpa using fun j _ => join_nonempty j)
  | groupBy =>
      refine clause_nonempty ?_
      intro text member
      obtain ⟨t, inGroups, rfl⟩ := List.mem_map.mp member
      exact render_with_nonempty plain (sound.groups t inGroups)
  | having =>
      intro text member
      obtain ⟨t, isHaving, rfl⟩ := Option.mem_map.mp member
      exact render_with_nonempty plain (sound.having t isHaving)
  | orderBy =>
      refine clause_nonempty ?_
      intro text member
      obtain ⟨t, inOrders, rfl⟩ := List.mem_map.mp member
      obtain ⟨u, d, rfl, _⟩ := sound.orders t inOrders
      simp [render_ordering]
  | limit | offset =>
      intro text member
      simpa using word_nonempty member

theorem of_query_params (sound : q.Sound c root) (built : ofQuery c provider q = .ok r) :
    ∃ items, fieldItems c q = .ok items ∧ r.params = listing (said provider q items) := by
  obtain ⟨⟨⟩, _, rest⟩ := bind_ok.mp built
  obtain ⟨⟨⟩, _, rest⟩ := bind_ok.mp rest
  obtain ⟨items, found, rest⟩ := bind_ok.mp rest
  cases rest
  have nonempty : ∀ p, ∀ text ∈ said provider q items p, text ≠ "" := said_nonempty sound found
  have condition := non_empty_optional .condition (nonempty .condition)
  have having := non_empty_optional .having (nonempty .having)
  have limit := non_empty_optional .limit (nonempty .limit)
  have offset := non_empty_optional .offset (nonempty .offset)
  simp only [said] at condition having limit offset
  refine ⟨items, found, ?_⟩
  simp only [non_empty_append, non_empty_pair]
  rw [non_empty_clause .tables (nonempty .tables), non_empty_clause .fields (nonempty .fields),
    condition, non_empty_clause .joinOn (nonempty .joinOn),
    non_empty_clause .groupBy (nonempty .groupBy), having,
    non_empty_clause .orderBy (nonempty .orderBy), limit, offset]
  simp [listing, Parameter.all, said]

theorem names_listing (value : Parameter → Option String) :
    ((listing value).map fun x => x.1.name) =
      (Parameter.all.filter fun p => (value p).isSome).map Parameter.name := by
  rw [listing]
  induction Parameter.all with
  | nil => rfl
  | cons p ps ih =>
      rw [List.flatMap_cons, List.map_append, ih, List.filter_cons]
      cases value p <;> rfl

theorem mem_listing {value : Parameter → Option String} {x : Parameter × String} :
    x ∈ listing value ↔ value x.1 = some x.2 := by
  constructor
  · intro member
    obtain ⟨p, _, member⟩ := List.mem_flatMap.mp member
    obtain ⟨text, isText, rfl⟩ := List.mem_map.mp member
    exact Option.mem_toList.mp isText
  · intro isText
    refine List.mem_flatMap.mpr ⟨x.1, x.1.mem_all, List.mem_map.mpr ⟨x.2, ?_, rfl⟩⟩
    exact Option.mem_toList.mpr isText

theorem get?_listing (params : r.params = listing (said provider q items)) (p : Parameter) :
    r.get? p.name = said provider q items p := by
  rw [get?, params]
  cases found : (listing (said provider q items)).find? fun x => x.1.name = p.name with
  | none =>
      cases isText : said provider q items p with
      | none => rfl
      | some text =>
          have member := mem_listing (x := (p, text)).mpr isText
          exact absurd (List.find?_eq_none.mp found _ member) (by simp)
  | some x =>
      have isText := mem_listing.mp (List.mem_of_find?_eq_some found)
      have same : x.1.name = p.name := by simpa using List.find?_some found
      rw [← Parameter.name_injective same, isText]
      rfl

theorem mark_distinct_some (distinct : Bool) (items : List String) :
    markDistinct distinct items ≠ [] ↔ items ≠ [] := by
  cases items <;> simp [markDistinct]

theorem field_items_some (sound : q.Sound c root) (found : fieldItems c q = .ok items) :
    items ≠ [] ↔ q.outputs ≠ [] ∨ ∃ table, c.find? root = some table ∧ table.fields ≠ [] := by
  rcases field_items_cases sound found with ⟨outputs, rfl⟩ | ⟨noOutputs, table, known, rfl⟩
  · simp [outputs]
  · simp [noOutputs, known]

def Says (c : Catalog) (root : Entity) (q : Query) : Parameter → Prop
  | .tables => True
  | .fields => q.outputs ≠ [] ∨ ∃ table, c.find? root = some table ∧ table.fields ≠ []
  | .condition => q.condition.isSome = true
  | .joinOn => q.scope.joins ≠ []
  | .groupBy => q.groups ≠ []
  | .having => q.having.isSome = true
  | .orderBy => q.orders ≠ []
  | .limit => q.limit.isSome = true
  | .offset => q.offset.isSome = true

theorem is_some_said (sound : q.Sound c root) (found : fieldItems c q = .ok items)
    (p : Parameter) :
    (said provider q items p).isSome = true ↔ Says c root q p := by
  cases p with
  | tables =>
      obtain ⟨name, rest, table, sources, _⟩ := root_table sound
      exact iff_of_true ((is_some_clause _).mpr (by simp [sources])) trivial
  | fields =>
      rw [Says, ← field_items_some sound found, ← mark_distinct_some q.distinct]
      exact is_some_clause _
  | joinOn | groupBy | orderBy => exact (is_some_clause _).trans (by simp [Says])
  | condition | having | limit | offset => simp [said, Says]

/-- The parameters of a request stand in a fixed order, each at most once; none of them is empty,
and each is there when the query has something to say under it. -/
structure Shaped (c : Catalog) (root : Entity) (q : Query) (r : Request) : Prop where
  ordered : (r.params.map fun p => p.1.name).Sublist
    ["tables", "fields", "where", "join_on", "group_by", "having", "order_by", "limit", "offset"]
  nonempty : ∀ p ∈ r.params, p.2 ≠ ""
  present : ∀ p, (r.get? p.name).isSome = true ↔ Says c root q p

theorem shaped_of_params (sound : q.Sound c root) (found : fieldItems c q = .ok items)
    (params : r.params = listing (said provider q items)) : r.Shaped c root q where
  ordered := by
    rw [params, names_listing]
    exact List.filter_sublist.map Parameter.name
  nonempty := by
    intro p member
    rw [params] at member
    exact said_nonempty sound found p.1 p.2 (mem_listing.mp member)
  present := by
    intro p
    rw [get?_listing params]
    exact is_some_said sound found p

theorem said_naming (naming : Naming) (items : List String) {p : Parameter}
    (noGroups : p ≠ .groupBy) (noHaving : p ≠ .having) :
    said { provider with naming := naming } q items p = said provider q items p := by
  cases p with
  | groupBy => exact absurd rfl noGroups
  | having => exact absurd rfl noHaving
  | _ => rfl

end Request

/-- Every request that a reachable query becomes has its parameters in the fixed order, without
empty ones, and one for each clause that says something. Under another naming of the provider the
request has the same parameters, and the same texts but for the groups and the condition on them. -/
theorem reachable_request_shaped {c : Catalog} {root : Entity} {q : Query} {provider : Provider}
    {r : Request} (reached : Reachable c root q)
    (built : Request.ofQuery c provider q = .ok r) :
    r.Shaped c root q ∧
      ∀ naming, ∃ r', Request.ofQuery c { provider with naming := naming } q = .ok r' ∧
        (r'.params.map fun p => p.1.name) = (r.params.map fun p => p.1.name) ∧
        ∀ p : Parameter, p ≠ .groupBy → p ≠ .having → r'.get? p.name = r.get? p.name := by
  have sound := reached.sound
  obtain ⟨items, found, params⟩ := Request.of_query_params sound built
  refine ⟨Request.shaped_of_params sound found params, ?_⟩
  intro naming
  obtain ⟨⟨⟩, checked, _⟩ := bind_ok.mp built
  have checked' : Request.checkWindow { provider with naming := naming } q = .ok () := checked
  obtain ⟨r', built'⟩ := Request.of_query_built sound checked'
  obtain ⟨items', found', params'⟩ := Request.of_query_params sound built'
  cases found.symm.trans found'
  refine ⟨r', built', ?_, ?_⟩
  · rw [params', params, Request.names_listing, Request.names_listing]
    congr 2
    funext p
    rw [Bool.eq_iff_iff, Request.is_some_said sound found, Request.is_some_said sound found]
  · intro p noGroups noHaving
    rw [Request.get?_listing params', Request.get?_listing params,
      Request.said_naming naming items noGroups noHaving]

def Sample.shelfRequest (groups : String) : Request :=
  ⟨[(.tables, "Pages=T1"),
    (.fields, "DISTINCT T1.title AS heading,T1.length IN (3,4) AS short,'it''s (a,b'"),
    (.groupBy, groups), (.having, "COUNT(*) > 1"), (.orderBy, "T1.title ASC,COUNT(*) DESC")]⟩

theorem shelf_request_shaped :
    Reachable Sample.catalog Sample.page Sample.shelf ∧
      Request.ofQuery Sample.catalog ⟨5000, .qualified⟩ Sample.shelf =
        .ok (Sample.shelfRequest "T1.title,T1.length IN (3,4)") ∧
      (Sample.shelfRequest "T1.title,T1.length IN (3,4)").Shaped Sample.catalog Sample.page
        Sample.shelf ∧
      ∀ p : Parameter, p ≠ .groupBy → p ≠ .having →
        (Sample.shelfRequest "heading,short").get? p.name =
          (Sample.shelfRequest "T1.title,T1.length IN (3,4)").get? p.name := by
  have reached := Sample.shelf_reachable
  have built : Request.ofQuery Sample.catalog ⟨5000, .qualified⟩ Sample.shelf =
      .ok (Sample.shelfRequest "T1.title,T1.length IN (3,4)") := rfl
  have built' : Request.ofQuery Sample.catalog ⟨5000, .outputName⟩ Sample.shelf =
      .ok (Sample.shelfRequest "heading,short") := rfl
  obtain ⟨shaped, other⟩ := reachable_request_shaped reached built
  obtain ⟨r', again, _, same⟩ := other .outputName
  cases built'.symm.trans again
  exact ⟨reached, built, shaped, same⟩

end WikiQuery
