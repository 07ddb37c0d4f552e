import Mathlib.Logic.Relation
import WikiQuery.Proofs.Commutation
import WikiQuery.Proofs.Forest

/- The graph of a query: its tables, with an edge for each join condition. A relation adds a table
   next to the one it is walked from. A join of the caller's need only mention the table that it
   opens, so that it can leave that table apart; it keeps the graph connected exactly when some
   condition ties what is reached from the new table to what is reached from the old ones. -/
set_option autoImplicit false

namespace WikiQuery

namespace Scope

def Adjacent (s : Scope) (a b : String) : Prop :=
  ∃ j ∈ s.joins, j.left.label = a ∧ j.right.label = b

def Linked (s : Scope) : String → String → Prop := Relation.EqvGen s.Adjacent

def Connected (s : Scope) : Prop := ∀ a ∈ s.sources, ∀ b ∈ s.sources, s.Linked a.label b.label

def Reaches (s : Scope) (a b : String) : Prop := ∃ path, s.Leads a path b

/-- A condition between a table that was there, or one that relations reach from it, and the table
under the label, or one that relations reach from that. -/
def Ties (s s' : Scope) (label : String) : Prop :=
  ∃ j ∈ s'.joins, ∃ near ∈ s.sources,
    (s'.Reaches near.label j.left.label ∧ s'.Reaches label j.right.label) ∨
      (s'.Reaches near.label j.right.label ∧ s'.Reaches label j.left.label)

section Paths

variable {s s' : Scope} {a b : String}

theorem Linked.mono (linked : s.Linked a b) (more : s.joins ⊆ s'.joins) : s'.Linked a b := by
  refine Relation.EqvGen.mono ?_ a b linked
  rintro x y ⟨j, member, left, right⟩
  exact ⟨j, more member, left, right⟩

theorem linked_of_join {j : Join} (member : j ∈ s.joins) : s.Linked j.left.label j.right.label :=
  .rel _ _ ⟨j, member, rfl, rfl⟩

theorem Linked.invariant {p : String → Prop} (linked : s.Linked a b)
    (kept : ∀ j ∈ s.joins, p j.left.label ↔ p j.right.label) : p a ↔ p b := by
  induction linked with
  | rel x y adjacent =>
      obtain ⟨j, member, rfl, rfl⟩ := adjacent
      exact kept j member
  | refl => rfl
  | symm _ _ _ ih => exact ih.symm
  | trans _ _ _ _ _ first second => exact first.trans second

theorem Reaches.refl (s : Scope) (a : String) : s.Reaches a a := ⟨[], .here a⟩

theorem Leads.mono {path : List String} (leads : s.Leads a path b) (more : s.joins ⊆ s'.joins) :
    s'.Leads a path b := by
  induction leads with
  | here => exact .here _
  | along member left via _ ih => exact .along (more member) left via ih

theorem Reaches.mono (reaches : s.Reaches a b) (more : s.joins ⊆ s'.joins) : s'.Reaches a b := by
  obtain ⟨path, leads⟩ := reaches
  exact ⟨path, leads.mono more⟩

theorem Reaches.step {j : Join} (reaches : s.Reaches a j.left.label) (member : j ∈ s.joins)
    (implicit : j.via.isSome = true) : s.Reaches a j.right.label := by
  obtain ⟨relation, via⟩ := Option.isSome_iff_exists.mp implicit
  obtain ⟨path, leads⟩ := reaches
  suffices longer : ∀ {x y : String} {path : List String}, s.Leads x path y → y = j.left.label →
      s.Leads x (path ++ [relation]) j.right.label from ⟨_, longer leads rfl⟩
  intro x y path leads last
  induction leads with
  | here => exact .along member last.symm via (.here _)
  | along member' left via' _ ih => exact .along member' left via' (ih last)

theorem Reaches.linked (reaches : s.Reaches a b) : s.Linked a b := by
  obtain ⟨path, leads⟩ := reaches
  induction leads with
  | here => exact .refl _
  | along member left _ _ ih => exact .trans _ _ _ (left ▸ linked_of_join member) ih

theorem Reaches.last (reaches : s.Reaches a b) :
    a = b ∨ ∃ j ∈ s.joins, s.Reaches a j.left.label ∧ j.right.label = b := by
  obtain ⟨path, leads⟩ := reaches
  induction leads with
  | here => exact .inl rfl
  | @along j label relation last path member left via rest ih =>
      refine .inr ?_
      rcases ih with same | ⟨j', member', ⟨path', before⟩, right⟩
      · exact ⟨j, member, left ▸ .refl s _, same⟩
      · exact ⟨j', member', ⟨_, .along member left via before⟩, right⟩

end Paths

end Scope

open Scope

section Steps

variable {c : Catalog} {s m : Scope}

theorem Grows.reached (grows : Grows c s m) :
    ∀ t ∈ m.sources, ∃ near ∈ s.sources, m.Reaches near.label t.label := by
  induction grows with
  | refl => exact fun t member => ⟨t, member, .refl _ _⟩
  | @join m label table r source j _ nearKnown related _ fresh _ ih =>
      obtain ⟨first, same, along⟩ := Join.Along.of_new_join nearKnown related fresh
      obtain ⟨old, inScope, sameLabel, _⟩ := Navigation.table_at_ok nearKnown
      have more : m.joins ⊆ m.joins ++ [j] := List.subset_append_left _ _
      intro t member
      rcases List.mem_append.mp member with member | member
      · obtain ⟨near, there, reaches⟩ := ih t member
        exact ⟨near, there, reaches.mono more⟩
      · obtain ⟨near, there, reaches⟩ := ih old inScope
        have before : Reaches ⟨m.sources ++ [source], m.joins ++ [j]⟩ near.label j.left.label := by
          rw [along.left_label, same, ← sameLabel]
          exact reaches.mono more
        have after := before.step (List.mem_append_right _ (List.mem_singleton_self j))
          (by rw [along.via]; rfl)
        rw [List.mem_singleton.mp member, ← along.right_label]
        exact ⟨near, there, after⟩

theorem Grows.connected (grows : Grows c s m) (connected : s.Connected) : m.Connected := by
  have more : s.joins ⊆ m.joins := grows.joins_prefix.subset
  intro a inA b inB
  obtain ⟨nearA, thereA, reachesA⟩ := grows.reached a inA
  obtain ⟨nearB, thereB, reachesB⟩ := grows.reached b inB
  exact .trans _ _ _ (.symm _ _ reachesA.linked)
    (.trans _ _ _ ((connected nearA thereA nearB thereB).mono more) reachesB.linked)

end Steps

/-- What a join of the caller's makes of a scope: a table under a free label, then walks along
relations, then conditions. -/
structure Scope.Opening (s s' : Scope) (source : Source) : Prop where
  free : s.isFree source.label = true
  sources : s.sources ++ [source] <+: s'.sources
  joins : s.joins ⊆ s'.joins
  reached : ∀ t ∈ s'.sources, (∃ near ∈ s.sources, s'.Reaches near.label t.label) ∨
    s'.Reaches source.label t.label
  ends : ∀ j ∈ s'.joins, (∃ t ∈ s'.sources, t.label = j.left.label) ∧
    ∃ t ∈ s'.sources, t.label = j.right.label

namespace Scope.Opening

variable {s s' : Scope} {source : Source} (opening : Opening s s' source)

include opening

theorem in_opened : source ∈ s'.sources := opening.sources.subset (by simp)

theorem connected_of_ties (connected : s.Connected) (ties : s.Ties s' source.label) :
    s'.Connected := by
  obtain ⟨j, member, near, there, sides⟩ := ties
  have edge : s'.Linked j.left.label j.right.label := linked_of_join member
  have tied : s'.Linked near.label source.label := by
    rcases sides with ⟨old, new⟩ | ⟨old, new⟩
    · exact .trans _ _ _ old.linked (.trans _ _ _ edge (.symm _ _ new.linked))
    · exact .trans _ _ _ old.linked (.trans _ _ _ (.symm _ _ edge) (.symm _ _ new.linked))
  have all : ∀ t ∈ s'.sources, s'.Linked near.label t.label := by
    intro t inScope
    rcases opening.reached t inScope with ⟨old, inOld, reaches⟩ | reaches
    · exact .trans _ _ _ ((connected near there old inOld).mono opening.joins) reaches.linked
    · exact .trans _ _ _ tied reaches.linked
  intro a inA b inB
  exact .trans _ _ _ (.symm _ _ (all a inA)) (all b inB)

-- Without a tie, what the new table reaches is a part of the graph with no way out, and none of the
-- old tables is in it.
theorem ties_of_connected (some : s.sources ≠ []) (connected : s'.Connected) :
    s.Ties s' source.label := by
  by_contra apart
  obtain ⟨old, inOld⟩ := List.exists_mem_of_ne_nil _ some
  have kept : ∀ j ∈ s'.joins, s'.Reaches source.label j.left.label ↔
      s'.Reaches source.label j.right.label := by
    intro j member
    obtain ⟨⟨l, inL, left⟩, r, inR, right⟩ := opening.ends j member
    constructor
    · intro new
      rcases opening.reached r inR with ⟨near, there, reaches⟩ | reaches
      · exact absurd ⟨j, member, near, there, .inr ⟨right ▸ reaches, new⟩⟩ apart
      · exact right ▸ reaches
    · intro new
      rcases opening.reached l inL with ⟨near, there, reaches⟩ | reaches
      · exact absurd ⟨j, member, near, there, .inl ⟨left ▸ reaches, new⟩⟩ apart
      · exact left ▸ reaches
  have inNew : old ∈ s'.sources := opening.sources.subset (List.mem_append_left _ inOld)
  have crossed : s'.Reaches source.label old.label :=
    ((connected source opening.in_opened old inNew).invariant
      (p := fun x => s'.Reaches source.label x) kept).mp (.refl _ _)
  rcases crossed.last with same | ⟨j, member, before, target⟩
  · exact is_free_iff.mp opening.free old inOld same.symm
  · exact apart ⟨j, member, old, inOld, .inr ⟨target ▸ .refl _ _, before⟩⟩

end Scope.Opening

namespace Query

variable {c : Catalog} {root : Entity} {q q' : Query}

theorem join_as_opening {e : Entity} {label : String} {on : Expr} (sound : q'.scope.Sound c)
    (applied : q.joinAs c e label on = .ok q') :
    ∃ source, source.label = label ∧ q.scope.Opening q'.scope source := by
  obtain ⟨table, m, joins, _, _, free, lowered, _, rfl⟩ := join_as_ok.mp applied
  obtain ⟨grows, _⟩ := Expr.lower_join_ends on lowered
  have more : m.joins ⊆ m.joins ++ joins := List.subset_append_left _ _
  refine ⟨_, rfl, free, grows.sources_prefix, ?_, ?_, ?_⟩
  · exact List.Subset.trans grows.joins_prefix.subset more
  · intro t member
    obtain ⟨near, there, reaches⟩ := grows.reached t member
    have reaches : Reaches ⟨m.sources, m.joins ++ joins⟩ near.label t.label := reaches.mono more
    rcases List.mem_append.mp there with old | new
    · exact .inl ⟨near, old, reaches⟩
    · exact .inr (List.mem_singleton.mp new ▸ reaches)
  · intro j member
    obtain ⟨⟨l, inL, left, _⟩, r, inR, right, _⟩ := sound.joined j member
    exact ⟨⟨l, inL, left⟩, r, inR, right⟩

theorem apply_connected {op : Operator} (reached : Reachable c root q)
    (connected : q.scope.Connected) (applied : op.apply c q = .ok q') :
    q'.scope.Connected ↔ ∀ label ∈ op.opens q.scope, q.scope.Ties q'.scope label := by
  cases opens : op.opens q.scope with
  | none => exact iff_of_true ((apply_grows opens applied).connected connected) (by simp)
  | some label =>
      obtain ⟨e, on, joined⟩ := apply_opens opens applied
      obtain ⟨source, rfl, opening⟩ := join_as_opening (reached.step applied).sound.scope joined
      have some : q.scope.sources ≠ [] := by
        obtain ⟨table, first⟩ := reached.sound.first
        rintro empty
        rw [empty] at first
        cases first
      simp only [Option.mem_def, Option.some.injEq, forall_eq']
      exact ⟨opening.ties_of_connected some, opening.connected_of_ties connected⟩

end Query

inductive ReachableTied (c : Catalog) (root : Entity) : Query → Prop where
  | start {q : Query} (started : Query.start c root = .ok q) : ReachableTied c root q
  | step {q q' : Query} {op : Operator} (before : ReachableTied c root q)
      (applied : op.apply c q = .ok q')
      (tied : ∀ label ∈ op.opens q.scope, q.scope.Ties q'.scope label) : ReachableTied c root q'

theorem ReachableTied.reachable {c : Catalog} {root : Entity} {q : Query}
    (reached : ReachableTied c root q) : Reachable c root q := by
  induction reached with
  | start started => exact .start started
  | step _ applied _ ih => exact ih.step applied

/-- The graph of a query is connected when every join on the way to it has tied its table; and an
operator keeps the graph of a query connected exactly when it opens no table or ties the one it
opens. So no relation leaves a table apart. -/
theorem tied_queries_connected (c : Catalog) (root : Entity) :
    (∀ q, ReachableTied c root q → q.scope.Connected) ∧
      ∀ (q q' : Query) (op : Operator), Reachable c root q → q.scope.Connected →
        op.apply c q = .ok q' →
          (q'.scope.Connected ↔ ∀ label ∈ op.opens q.scope, q.scope.Ties q'.scope label) := by
  refine ⟨?_, fun q q' op reached connected => Query.apply_connected reached connected⟩
  intro q reached
  induction reached with
  | start started =>
      obtain ⟨table, _, ok⟩ := bind_ok.mp started
      cases ok
      intro a inA b inB
      rw [List.mem_singleton.mp inA, List.mem_singleton.mp inB]
      exact .refl _
  | step before applied tied ih =>
      exact (Query.apply_connected before.reachable ih applied).mpr tied

theorem by_author_joined_connected :
    ReachableTied Sample.catalog Sample.page Sample.byAuthorJoined ∧
      Sample.authorsTwice.Connected ∧
      Reachable Sample.catalog Sample.page Sample.byAuthor ∧ Sample.pagesAndAuthors.Connected ∧
      (Operator.joinAs Sample.author "A2" Sample.sameWriter).apply Sample.catalog Sample.byAuthor =
        .ok Sample.byAuthorJoined ∧
      (Sample.authorsTwice.Connected ↔
        ∀ label ∈ some "A2", Sample.pagesAndAuthors.Ties Sample.authorsTwice label) := by
  have started : Query.start Sample.catalog Sample.page = .ok Sample.start := rfl
  have filtered : (Operator.filter (Sample.writtenBy "O'Hara")).apply Sample.catalog Sample.start =
      .ok Sample.byAuthor := rfl
  have joined : (Operator.joinAs Sample.author "A2" Sample.sameWriter).apply Sample.catalog
      Sample.byAuthor = .ok Sample.byAuthorJoined := rfl
  have ties : Sample.pagesAndAuthors.Ties Sample.authorsTwice "A2" :=
    ⟨_, List.mem_concat_self, ⟨Sample.page, "Pages", "T1"⟩, List.mem_cons_self,
      .inl ⟨.refl _ _, .refl _ _⟩⟩
  have before : ReachableTied Sample.catalog Sample.page Sample.byAuthor :=
    .step (.start started) filtered fun _ member => nomatch member
  have after : ReachableTied Sample.catalog Sample.page Sample.byAuthorJoined := by
    refine before.step joined fun label member => ?_
    cases member
    exact ties
  obtain ⟨connected, keeps⟩ := tied_queries_connected Sample.catalog Sample.page
  exact ⟨after, connected _ after, before.reachable, connected _ before, joined,
    keeps _ _ _ before.reachable (connected _ before) joined⟩

namespace Sample

-- A condition that mentions the table that it opens, and ties it to nothing.
def sameAuthor : Expr :=
  .binary (.member (.label "A2") ["id"]) .eq (.member (.label "A2") ["id"])

def authorApart : Query :=
  { start with
    scope := ⟨[⟨page, "Pages", "T1"⟩, ⟨author, "Authors", "A2"⟩],
      [⟨⟨"A2", "id", .integer⟩, ⟨"A2", "id", .integer⟩, .equal, none⟩]⟩ }

end Sample

theorem self_compared_author_apart :
    Reachable Sample.catalog Sample.page Sample.authorApart ∧
      ¬ Sample.authorApart.scope.Linked "T1" "A2" ∧ ¬ Sample.authorApart.scope.Connected := by
  have started : Query.start Sample.catalog Sample.page = .ok Sample.start := rfl
  have joined : (Operator.joinAs Sample.author "A2" Sample.sameAuthor).apply Sample.catalog
      Sample.start = .ok Sample.authorApart := rfl
  have apart : ¬ Sample.authorApart.scope.Linked "T1" "A2" := by
    intro linked
    have kept : ∀ j ∈ Sample.authorApart.scope.joins,
        j.left.label = "A2" ↔ j.right.label = "A2" := by decide
    have same : "T1" = "A2" := (linked.invariant (p := (· = "A2")) kept).mpr rfl
    exact absurd same (by decide)
  refine ⟨.step (.start started) joined, apart, fun connected => ?_⟩
  have page : (⟨Sample.page, "Pages", "T1"⟩ : Source) ∈ Sample.authorApart.scope.sources :=
    List.mem_cons_self
  exact apart (connected _ page _ (List.mem_cons_of_mem _ List.mem_cons_self))

end WikiQuery
