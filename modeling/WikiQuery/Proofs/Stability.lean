import WikiQuery.Proofs.Reachable

/- Lowering in a scope that has grown. What an expression once became it becomes again after any
   tables and joins have been added: its relations are found where they were joined, and nothing is
   joined anew. All that an added table can do is to make a name ambiguous. -/
set_option autoImplicit false

namespace WikiQuery

namespace Scope

def Declared (c : Catalog) (s : Scope) : Prop :=
  ∀ source ∈ s.sources, ∃ table, c.find? source.entity = some table

theorem Extends.source? {s s' : Scope} (more : s.Extends s') {label : String} {source : Source}
    (found : s.source? label = some source) : s'.source? label = some source :=
  more.sources.find?_eq_some found

theorem Extends.joined? {s s' : Scope} (more : s.Extends s') {label relation : String} {j : Join}
    (found : s.joined? label relation = some j) : s'.joined? label relation = some j :=
  more.joins.find?_eq_some found

theorem joined?_of_last {s : Scope} {sources : List Source} {label relation : String} {j : Join}
    (unjoined : s.joined? label relation = none) (via : j.via = some relation)
    (left : j.left.label = label) :
    joined? ⟨sources, s.joins ++ [j]⟩ label relation = some j := by
  rw [joined?] at unjoined ⊢
  rw [List.find?_append, unjoined]
  simp [via, left]

end Scope

-- The answer is `a` again, unless a name has become ambiguous.
inductive Again {α : Type} (a : α) : Except QueryError α → Prop where
  | ok : Again a (.ok a)
  | ambiguous {e : QueryError} (kind : e.kind = .ambiguousReference) : Again a (.error e)

theorem Again.of_eq {α : Type} {a : α} {x : Except QueryError α} (same : x = .ok a) :
    Again a x := by
  rw [same]
  exact .ok

namespace Scoped

variable {α β : Type} {c : Catalog}

def Repeats (x : Scoped α) (a : α) (s : Scope) : Prop :=
  ∃ answer, Again a answer ∧ x.outcome s = (answer, s)

theorem Repeats.bind {x : Scoped α} {f : α → Scoped β} {a : α} {b : β} {s : Scope}
    (first : x.Repeats a s) (second : (f a).Repeats b s) : (x >>= f).Repeats b s := by
  obtain ⟨answer, again, same⟩ := first
  cases again with
  | ok =>
      obtain ⟨answer', again', same'⟩ := second
      refine ⟨answer', again', ?_⟩
      rw [Steps.outcome_bind, same]
      exact same'
  | ambiguous kind => exact ⟨_, .ambiguous kind, by rw [Steps.outcome_bind, same]⟩

/-- A step that only adds to the scope, and that repeats itself in every later scope of declared
tables. -/
def Stable (c : Catalog) (x : Scoped α) : Prop :=
  ∀ ⦃s s' : Scope⦄ ⦃a : α⦄, x.outcome s = (.ok a, s') →
    s.Extends s' ∧ ∀ ⦃later : Scope⦄, s'.Extends later → later.Declared c → x.Repeats a later

namespace Stable

theorem of_except (x : Except QueryError α) : Stable c (Steps.ofExcept x) := by
  intro s s' a ends
  obtain ⟨rfl, rfl⟩ := Steps.of_except_ends.mp ends
  exact ⟨.refl _, fun later _ _ => ⟨_, .ok, rfl⟩⟩

-- What the first step joined is still joined where the second one has ended.
theorem bind {x : Scoped α} {f : α → Scoped β} (first : Stable c x)
    (second : ∀ a, Stable c (f a)) : Stable c (x >>= f) := by
  intro s s' b ends
  obtain ⟨a, m, firstEnds, secondEnds⟩ := Steps.bind_ends.mp ends
  obtain ⟨firstGrows, firstRepeats⟩ := first firstEnds
  obtain ⟨secondGrows, secondRepeats⟩ := second a secondEnds
  refine ⟨firstGrows.trans secondGrows, ?_⟩
  intro later more declared
  exact (firstRepeats (secondGrows.trans more) declared).bind (secondRepeats more declared)

end Stable

def Lasting (c : Catalog) (ask : Scope → Except QueryError α) : Prop :=
  ∀ ⦃s later : Scope⦄ ⦃a : α⦄, ask s = .ok a → s.Extends later → later.Declared c →
    Again a (ask later)

theorem Lasting.stable {ask : Scope → Except QueryError α} (lasting : Lasting c ask) :
    Stable c (get >>= fun s => Steps.ofExcept (ask s)) := by
  intro s s' a ends
  rw [Steps.get_bind_outcome] at ends
  obtain ⟨answered, rfl⟩ := Steps.of_except_ends.mp ends
  exact ⟨.refl _, fun later more declared => ⟨_, lasting answered more declared, rfl⟩⟩

/-- Steps made of lasting questions to the scope and of walks along relations. -/
inductive Composed (c : Catalog) : {α : Type} → Scoped α → Prop where
  | ofExcept {α : Type} (x : Except QueryError α) : Composed c (Steps.ofExcept x)
  | ask {α : Type} {ask : Scope → Except QueryError α} (lasting : Lasting c ask) :
      Composed c (get >>= fun s => Steps.ofExcept (ask s))
  | follow (label : String) (r : Relation) : Composed c (Navigation.follow c label r)
  | bind {α β : Type} {x : Scoped α} {f : α → Scoped β} (first : Composed c x)
      (second : ∀ a, Composed c (f a)) : Composed c (x >>= f)

namespace Composed

theorem pure (a : α) : Composed c (Pure.pure a : Scoped α) := ofExcept (.ok a)

theorem throw (e : QueryError) : Composed c (throwThe QueryError e : Scoped α) :=
  ofExcept (.error e)

end Composed

theorem Lasting.composed_bind {ask : Scope → Except QueryError α} {f : α → Scoped β}
    (lasting : Lasting c ask) (second : ∀ a, Composed c (f a)) :
    Composed c (get >>= fun s => Steps.ofExcept (ask s) >>= f) := by
  rw [← bind_assoc]
  exact (Composed.ask lasting).bind second

end Scoped

namespace Navigation

variable {c : Catalog}

theorem table_at_later {s later : Scope} {label : String} {table : Table}
    (near : tableAt c s label = .ok table) (more : s.Extends later) :
    tableAt c later label = .ok table := by
  rw [tableAt] at near ⊢
  split at near
  next => cases near
  next source found =>
    rw [more.source? found]
    exact near

theorem root_label_lasting (expr : Expr) (table : TableRef) :
    Scoped.Lasting c fun s => rootLabel c s expr table := by
  intro s later root rooted more declared
  cases table with
  | entity e =>
      obtain ⟨added, sources⟩ := more.sources
      have split : later.sourcesOf e =
          s.sourcesOf e ++ added.filter fun source => source.entity = e := by
        rw [Scope.sourcesOf, ← sources, List.filter_append]
        rfl
      dsimp only [rootLabel] at rooted ⊢
      split at rooted
      next => split at rooted <;> cases rooted
      next only single =>
        cases rooted
        rw [split, single]
        cases added.filter fun source => source.entity = e with
        | nil => exact .ok
        | cons => exact .ambiguous rfl
      next => cases rooted
  | label name =>
      dsimp only [rootLabel] at rooted ⊢
      split at rooted
      next => cases rooted
      next taken =>
        cases rooted
        obtain ⟨source, found⟩ : ∃ source, s.source? root = some source := by
          simpa [Scope.isFree, Option.ne_none_iff_exists'] using taken
        rw [if_neg (by simp [Scope.isFree, more.source? found])]
        exact .ok

theorem relation_at_lasting (expr : Expr) (label segment : String) :
    Scoped.Lasting c fun s => relationAt c s expr label segment := by
  intro s later r related more _
  obtain ⟨table, near, rest⟩ := bind_ok.mp related
  exact .of_eq (bind_ok.mpr ⟨table, table_at_later near more, rest⟩)

theorem column_at_lasting (expr : Expr) (label name : String) :
    Scoped.Lasting c fun s => columnAt c s expr label name := by
  intro s later column found more _
  obtain ⟨table, near, rest⟩ := bind_ok.mp found
  exact .of_eq (bind_ok.mpr ⟨table, table_at_later near more, rest⟩)

theorem candidates_declared (name : String) :
    ∀ (sources : List Source), (∀ source ∈ sources, ∃ table, c.find? source.entity = some table) →
      ∃ columns, candidates c name sources = .ok columns
  | [], _ => ⟨[], rfl⟩
  | source :: rest, declared => by
      obtain ⟨table, found⟩ := declared source List.mem_cons_self
      obtain ⟨columns, others⟩ :=
        candidates_declared name rest fun source member => declared source (.tail _ member)
      have known := Catalog.table_by_id_of_find? found
      cases field : table.field? name with
      | none =>
          exact ⟨columns, bind_ok.mpr ⟨table, known, bind_ok.mpr ⟨columns, others, by rw [field]⟩⟩⟩
      | some f =>
          exact ⟨⟨source.label, f.name, f.type⟩ :: columns,
            bind_ok.mpr ⟨table, known, bind_ok.mpr ⟨columns, others, by rw [field]⟩⟩⟩

theorem candidates_append {name : String} {more : List Source} {found : List Column}
    (rest : candidates c name more = .ok found) :
    ∀ {sources : List Source} {columns : List Column}, candidates c name sources = .ok columns →
      candidates c name (sources ++ more) = .ok (columns ++ found)
  | [], columns, ok => by
      cases ok
      exact rest
  | source :: sources, columns, ok => by
      obtain ⟨table, known, ok⟩ := bind_ok.mp ok
      obtain ⟨others, othersOk, ok⟩ := bind_ok.mp ok
      refine bind_ok.mpr ⟨table, known, bind_ok.mpr ⟨_, candidates_append rest othersOk, ?_⟩⟩
      split at ok <;> cases ok <;> rfl

theorem unqualified_lasting (name : String) : Scoped.Lasting c fun s => unqualified c s name := by
  intro s later column found more declared
  obtain ⟨columns, searched, rest⟩ := bind_ok.mp found
  obtain ⟨added, sources⟩ := more.sources
  obtain ⟨others, addedSearch⟩ := candidates_declared (c := c) name added fun source member =>
    declared source (sources ▸ List.mem_append_right _ member)
  have search : candidates c name later.sources = .ok (columns ++ others) := by
    rw [← sources]
    exact candidates_append addedSearch searched
  dsimp only [unqualified]
  rw [search]
  split at rest
  next => cases rest
  next only =>
    cases rest
    cases others with
    | nil => exact .ok
    | cons => exact .ambiguous rfl
  next => cases rest

theorem follow_found {s : Scope} {label : String} {r : Relation} {j : Join}
    (found : s.joined? label r.name = some j) :
    (follow c label r).outcome s = (.ok j.right.label, s) := by
  rw [follow, Steps.get_bind_outcome, found]
  rfl

-- A join that is made has a key that no earlier join has, so the walk finds it ever after.
theorem follow_stable (label : String) (r : Relation) : Scoped.Stable c (follow c label r) := by
  intro s s' next ends
  obtain ⟨j, found, rfl, rfl⟩ | ⟨source, j, unjoined, fresh, _, rfl, rfl⟩ := follow_ends ends
  · exact ⟨.refl _, fun later more _ => ⟨_, .ok, follow_found (more.joined? found)⟩⟩
  · obtain ⟨_, _, _, _, _, _, _, _, rfl, rfl⟩ := new_join_ok fresh
    refine ⟨⟨List.prefix_append _ _, List.prefix_append _ _⟩, ?_⟩
    intro later more _
    exact ⟨_, .ok, follow_found (more.joined? (Scope.joined?_of_last unjoined rfl rfl))⟩

end Navigation

theorem Scoped.Composed.stable {c : Catalog} {α : Type} {x : Scoped α} (composed : x.Composed c) :
    x.Stable c := by
  induction composed with
  | ofExcept x => exact .of_except x
  | ask lasting => exact lasting.stable
  | follow label r => exact Navigation.follow_stable label r
  | bind _ _ first second => exact first.bind second

namespace Navigation

variable {c : Catalog}

theorem follow_all_composed (expr : Expr) :
    ∀ (segments : List String) (label : String), Scoped.Composed c (followAll c expr label segments)
  | [], label => .pure label
  | segment :: rest, label =>
      (relation_at_lasting expr label segment).composed_bind fun r =>
        (Scoped.Composed.follow label r).bind fun next => follow_all_composed expr rest next

theorem member_composed (table : TableRef) (path : List String) :
    Scoped.Composed c (member c table path) := by
  rw [member]
  split
  next => exact .throw _
  next last _ =>
    exact (root_label_lasting _ table).composed_bind fun root =>
      (follow_all_composed _ path.dropLast root).bind fun label =>
        .ask (column_at_lasting _ label last)

end Navigation

namespace Expr

variable {c : Catalog}

theorem operand_composed (e : Expr) (hint : Option FieldType) {lowered : Scoped Typed}
    (composed : lowered.Composed c) : (operand e hint lowered).Composed c := by
  rw [operand]
  split
  · exact .ofExcept _
  · exact composed

theorem lower_composed (c : Catalog) (clause : Clause) :
    ∀ (e : Expr), (e.lower c clause).Composed c
  | .member table path => by
      rw [lower]
      exact (Navigation.member_composed table path).bind fun column => .pure _
  | .field name => by
      rw [lower]
      exact (Navigation.unqualified_lasting name).composed_bind fun column => .pure _
  | .constant value => by
      rw [lower]
      exact .ofExcept _
  | .binary left op right => by
      rw [lower]
      refine (Scoped.Composed.ofExcept _).bind fun _ => ?_
      split
      · exact (lower_composed c clause left).bind fun t => .pure _
      · exact (lower_composed c clause right).bind fun t => .pure _
      · split
        · exact (lower_composed c clause right).bind fun r =>
            (Scoped.Composed.ofExcept _).bind fun l => .ofExcept _
        · exact (lower_composed c clause left).bind fun l =>
            (operand_composed right l.type (lower_composed c clause right)).bind
              fun r => .ofExcept _
  | .unary op operand => by
      rw [lower]
      exact (lower_composed c clause operand).bind fun t => .ofExcept _
  | .call receiver (.aggregate a) args => by
      rw [lower]
      exact (Scoped.Composed.ofExcept _).bind fun _ =>
        (lower_composed c clause receiver).bind fun subject => .ofExcept _
  | .call receiver (.other name) args => by
      rw [lower]
      exact .throw _
  | .call receiver (.pattern p) [arg] => by
      rw [lower]
      refine (lower_composed c clause receiver).bind fun subject => ?_
      split
      · exact (operand_composed arg _ (lower_composed c clause arg)).bind fun needle => .pure _
      · exact .ofExcept _
  | .call receiver (.pattern p) [] => by
      rw [lower]
      · exact .throw _
      · simp
  | .call receiver (.pattern p) (_ :: _ :: _) => by
      rw [lower]
      · exact .throw _
      · simp
  | .call receiver (.membership negated) [arg] => by
      rw [lower]
      split
      · exact (lower_composed c clause receiver).bind fun subject => .ofExcept _
      · exact .throw _
  | .call receiver (.membership negated) [] => by
      rw [lower]
      · exact .throw _
      · simp
  | .call receiver (.membership negated) (_ :: _ :: _) => by
      rw [lower]
      · exact .throw _
      · simp
  | .call receiver (.textFunction f) [] => by
      rw [lower]
      exact (lower_composed c clause receiver).bind fun subject => .ofExcept _
  | .call receiver (.textFunction f) (_ :: _) => by
      rw [lower]
      · exact .throw _
      · simp
  | .call receiver (.datePart p) [] => by
      rw [lower]
      exact (lower_composed c clause receiver).bind fun subject => .ofExcept _
  | .call receiver (.datePart p) (_ :: _) => by
      rw [lower]
      · exact .throw _
      · simp
  | .free method args => by
      rw [lower]
      exact .ofExcept _
  | .conditional test whenTrue whenFalse => by
      rw [lower]
      exact .throw _

theorem lower_stable (c : Catalog) (clause : Clause) (e : Expr) : (e.lower c clause).Stable c :=
  (lower_composed c clause e).stable

end Expr

/-- An accepted expression is lowered to the same term in every later scope of declared tables, and
leaves that scope as it is, so no relation is joined a second time. The one thing that can fail is
a name that the added tables made ambiguous. -/
theorem lowering_stable_under_growth {c : Catalog} {clause : Clause} {e : Expr} {t : Typed}
    {s s' later : Scope} (ends : (e.lower c clause).outcome s = (.ok t, s'))
    (more : s'.Extends later) (declared : later.Declared c) :
    (e.lower c clause).outcome later = (.ok t, later) ∨
      ∃ err, (e.lower c clause).outcome later = (.error err, later) ∧
        err.kind = .ambiguousReference := by
  obtain ⟨answer, again, same⟩ := (Expr.lower_stable c clause e ends).2 more declared
  cases again with
  | ok => exact .inl same
  | @ambiguous err kind => exact .inr ⟨err, same, kind⟩

theorem author_lowered_again :
    ((Sample.writtenBy "O'Hara").lower Sample.catalog .condition).outcome Sample.start.scope =
        (.ok (.truth (.binary (.column ⟨"T2", "name", .string⟩) .eq (.literal "'O''Hara'"))),
          Sample.pagesAndAuthors) ∧
      Sample.pagesAndAuthors.Extends Sample.authorsTwice ∧
      Sample.authorsTwice.Declared Sample.catalog ∧
      (((Sample.writtenBy "O'Hara").lower Sample.catalog .condition).outcome Sample.authorsTwice =
          (.ok (.truth (.binary (.column ⟨"T2", "name", .string⟩) .eq (.literal "'O''Hara'"))),
            Sample.authorsTwice) ∨
        ∃ err, ((Sample.writtenBy "O'Hara").lower Sample.catalog .condition).outcome
            Sample.authorsTwice = (.error err, Sample.authorsTwice) ∧
          err.kind = .ambiguousReference) := by
  have ends : ((Sample.writtenBy "O'Hara").lower Sample.catalog .condition).outcome
      Sample.start.scope =
      (.ok (.truth (.binary (.column ⟨"T2", "name", .string⟩) .eq (.literal "'O''Hara'"))),
        Sample.pagesAndAuthors) := rfl
  have more : Sample.pagesAndAuthors.Extends Sample.authorsTwice :=
    ⟨List.prefix_append _ _, List.prefix_append _ _⟩
  have declared : Sample.authorsTwice.Declared Sample.catalog := by
    simp only [Scope.Declared, ← Option.isSome_iff_exists]
    decide
  exact ⟨ends, more, declared, lowering_stable_under_growth ends more declared⟩

example : ((Expr.field "name").lower Sample.catalog .select).outcome Sample.authorsTwice =
    (.error (.ambiguousField "name" [⟨"T2", "name", .string⟩, ⟨"A2", "name", .string⟩]),
      Sample.authorsTwice) := rfl

end WikiQuery
