import Mathlib.Data.List.Nodup
import WikiQuery.Proofs.Reachable

/- When a query becomes a request. The checks of columns and of the default fields find nothing
   that the operators would not have found before, so that only the window of a reachable query can
   stand in its way. -/
set_option autoImplicit false

namespace WikiQuery

theorem Scope.Sound.source?_of_mem {c : Catalog} {s : Scope} (sound : s.Sound c) {source : Source}
    (member : source ∈ s.sources) : s.source? source.label = some source := by
  cases found : s.source? source.label with
  | none =>
      have free : s.isFree source.label = true := by rw [isFree, found]; rfl
      exact absurd rfl (is_free_iff.mp free source member)
  | some first =>
      obtain ⟨inScope, same⟩ := source_of_source? found
      rw [List.inj_on_of_nodup_map sound.distinct inScope member same]

namespace Request

variable {c : Catalog} {root : Entity} {q : Query}

theorem check_column_located {s : Scope} {column : Column} (sound : s.Sound c)
    (located : Located c s column) : checkColumn c s column = .ok () := by
  obtain ⟨source, member, label, table, known, field, declared, _⟩ := located
  have found : s.source? column.label = some source := label ▸ sound.source?_of_mem member
  rw [checkColumn, found]
  refine bind_ok.mpr ⟨table, Catalog.table_by_id_of_find? known, ?_⟩
  rw [declared]
  rfl

theorem check_columns_located {s : Scope} (sound : s.Sound c) :
    ∀ {columns : List Column}, (∀ column ∈ columns, Located c s column) →
      checkColumns c s columns = .ok ()
  | [], _ => rfl
  | column :: _, located =>
      bind_ok.mpr ⟨(), check_column_located sound (located column List.mem_cons_self),
        check_columns_located sound fun other member => located other (.tail _ member)⟩

theorem root_table (sound : q.Sound c root) : ∃ name rest table,
    q.scope.sources = ⟨root, name, "T1"⟩ :: rest ∧ c.find? root = some table := by
  obtain ⟨name, head⟩ := sound.first
  obtain ⟨rest, sources⟩ := List.head?_eq_some_iff.mp head
  obtain ⟨table, known, _⟩ := sound.scope.known ⟨root, name, "T1"⟩ (by simp [sources])
  exact ⟨name, rest, table, sources, known⟩

theorem default_fields_found (sound : q.Sound c root) : ∃ items, defaultFields c q = .ok items := by
  obtain ⟨name, rest, table, sources, known⟩ := root_table sound
  rw [defaultFields, sources]
  exact ⟨_, bind_ok.mpr ⟨table, Catalog.table_by_id_of_find? known, rfl⟩⟩

theorem field_items_found (sound : q.Sound c root) : ∃ items, fieldItems c q = .ok items := by
  rw [fieldItems]
  split
  · exact default_fields_found sound
  · exact ⟨_, rfl⟩

theorem of_query_refused {provider : Provider} {e : QueryError}
    (checked : checkWindow provider q = .error e) : ofQuery c provider q = .error e := by
  rw [ofQuery, checked]
  rfl

theorem of_query_built (sound : q.Sound c root) {provider : Provider}
    (checked : checkWindow provider q = .ok ()) : ∃ r, ofQuery c provider q = .ok r := by
  obtain ⟨items, found⟩ := field_items_found sound
  have columns := check_columns_located sound.scope sound.columns
  exact ⟨_, bind_ok.mpr ⟨(), checked, bind_ok.mpr ⟨(), columns, bind_ok.mpr ⟨items, found, rfl⟩⟩⟩⟩

theorem of_query_cases (sound : q.Sound c root) (provider : Provider) :
    (∃ limit, q.limit = some limit ∧ provider.maxLimit < limit ∧
      ofQuery c provider q = .error (.limitExceeded limit provider.maxLimit)) ∨
    (∃ offset, q.limit = none ∧ q.offset = some offset ∧
      ofQuery c provider q = .error (.offsetAlone offset)) ∨
    ((∀ limit, q.limit = some limit → ¬ provider.maxLimit < limit) ∧
      (q.limit = none → q.offset = none) ∧ ∃ r, ofQuery c provider q = .ok r) := by
  cases hasLimit : q.limit with
  | some limit =>
      by_cases exceeds : provider.maxLimit < limit
      · have checked : checkWindow provider q =
            .error (.limitExceeded limit provider.maxLimit) := by
          rw [checkWindow, hasLimit]
          exact if_pos exceeds
        exact .inl ⟨limit, rfl, exceeds, of_query_refused checked⟩
      · have checked : checkWindow provider q = .ok () := by
          rw [checkWindow, hasLimit]
          exact if_neg exceeds
        exact .inr (.inr ⟨by simpa using exceeds, by simp, of_query_built sound checked⟩)
  | none =>
      cases hasOffset : q.offset with
      | some offset =>
          have checked : checkWindow provider q = .error (.offsetAlone offset) := by
            rw [checkWindow, hasLimit, hasOffset]
          exact .inr (.inl ⟨offset, rfl, rfl, of_query_refused checked⟩)
      | none =>
          have checked : checkWindow provider q = .ok () := by
            rw [checkWindow, hasLimit, hasOffset]
          exact .inr (.inr ⟨by simp, by simp, of_query_built sound checked⟩)

end Request

/-- The window alone decides on a query: it is refused for a limit above the provider's, for an
offset without a limit, and for nothing else. -/
structure Query.JudgedByWindow (c : Catalog) (provider : Provider) (q : Query) : Prop where
  limit : ∀ limit max, Request.ofQuery c provider q = .error (.limitExceeded limit max) ↔
    q.limit = some limit ∧ max = provider.maxLimit ∧ provider.maxLimit < limit
  offset : (∃ e, Request.ofQuery c provider q = .error e ∧ e.kind = .invalidQuery) ↔
    q.limit = none ∧ q.offset.isSome = true
  accepted : (∃ r, Request.ofQuery c provider q = .ok r) ↔
    (∀ limit, q.limit = some limit → ¬ provider.maxLimit < limit) ∧
      (q.limit = none → q.offset = none)
  columns : Request.checkColumns c q.scope (Request.columns q) = .ok ()
  defaults : ∃ items, Request.defaultFields c q = .ok items

/-- Whatever operators led to a query, only its window can keep it from becoming a request: the
second look at its columns and default fields finds no fault. -/
theorem reachable_judged_by_window {c : Catalog} {root : Entity} {q : Query}
    (reached : Reachable c root q) (provider : Provider) : q.JudgedByWindow c provider := by
  have sound := reached.sound
  have columns := Request.check_columns_located sound.scope sound.columns
  have defaults := Request.default_fields_found sound
  rcases Request.of_query_cases sound provider with
    ⟨limit, hasLimit, exceeds, refused⟩ | ⟨offset, noLimit, hasOffset, refused⟩ |
    ⟨within, together, r, built⟩
  · refine ⟨?_, ?_, ?_, columns, defaults⟩
    · intro limit' max
      simp only [refused, hasLimit, Except.error.injEq, QueryError.limitExceeded.injEq,
        Option.some.injEq]
      constructor
      · rintro ⟨rfl, rfl⟩
        exact ⟨rfl, rfl, exceeds⟩
      · rintro ⟨rfl, rfl, _⟩
        exact ⟨rfl, rfl⟩
    · simp [refused, hasLimit, QueryError.kind]
    · simp [refused, hasLimit, exceeds]
  · refine ⟨?_, ?_, ?_, columns, defaults⟩
    · simp [refused, noLimit]
    · simp [refused, noLimit, hasOffset, QueryError.kind]
    · simp [refused, noLimit, hasOffset]
  · refine ⟨?_, ?_, ?_, columns, defaults⟩
    · intro limit max
      simp only [built, reduceCtorEq, false_iff]
      rintro ⟨hasLimit, _, exceeds⟩
      exact within limit hasLimit exceeds
    · simp only [built, reduceCtorEq, false_and, exists_false, false_iff]
      rintro ⟨noLimit, hasOffset⟩
      simp [together noLimit] at hasOffset
    · exact iff_of_true ⟨r, built⟩ ⟨within, together⟩

theorem skipped_authors_judged_by_window :
    Reachable Sample.catalog Sample.page (Sample.byAuthorJoined.skip 10) ∧
      (Sample.byAuthorJoined.skip 10).JudgedByWindow Sample.catalog .standard := by
  have skipped : (Operator.skip 10).apply Sample.catalog Sample.byAuthorJoined =
      .ok (Sample.byAuthorJoined.skip 10) := rfl
  have reached := Sample.by_author_joined_reachable.step skipped
  exact ⟨reached, reachable_judged_by_window reached .standard⟩

end WikiQuery
