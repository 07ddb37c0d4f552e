import WikiQuery.Proofs.ClassSoundness
import WikiQuery.Proofs.Clauses

/- What a list is asked to hold. A join by list membership takes a column of the class of the items.
   A predicate writes a constant against the type of the items, an enumeration of constants too, and
   of any other argument it asks nothing; so it takes what the join takes, and more. -/
set_option autoImplicit false

namespace WikiQuery

inductive Tested (c : Catalog) (clause : Clause) (item : FieldType) (m : Scope) :
    Expr → Typed → Scope → Prop where
  | value {value : Value} {text : String} (single : value.isList = false)
      (fits : value.fits item = true) (written : Literal.ofValue (some item) value = .ok text) :
      Tested c clause item m (.constant value)
        ⟨.literal text, Typed.constantType value (some item)⟩ m
  | sameClass {arg : Expr} {needle : Typed} {own : FieldType} {s' : Scope}
      (varies : arg.constant? = none) (lowered : (arg.lower c clause).commit m = .ok (needle, s'))
      (typed : needle.type = some own) (agree : item.comparable own = true) :
      Tested c clause item m arg needle s'

inductive Untested (c : Catalog) (clause : Clause) (item : FieldType) (m : Scope) :
    Expr → Typed → Scope → Prop where
  | enumeration {items : List Value} {text : String}
      (fits : ∀ value ∈ items, value.fits item = true)
      (written : Literal.enumeration (some item) items = .ok text) :
      Untested c clause item m (.constant (.list items)) ⟨.literal text, some item⟩ m
  | otherClass {arg : Expr} {needle : Typed} {own : FieldType} {s' : Scope}
      (varies : arg.constant? = none) (lowered : (arg.lower c clause).commit m = .ok (needle, s'))
      (typed : needle.type = some own) (apart : item.comparable own = false) :
      Untested c clause item m arg needle s'

theorem Tested.not_untested {c : Catalog} {clause : Clause} {item : FieldType} {m s' s'' : Scope}
    {arg : Expr} {needle other : Typed} (tested : Tested c clause item m arg needle s') :
    ¬ Untested c clause item m arg other s'' := by
  intro untested
  cases tested with
  | value single =>
      cases untested with
      | enumeration => cases single
      | otherClass varies => cases varies
  | sameClass varies lowered typed agree =>
      cases untested with
      | enumeration => cases varies
      | otherClass _ again typed' apart =>
          rw [lowered] at again
          cases again
          rw [typed] at typed'
          cases typed'
          rw [agree] at apart
          cases apart

theorem Value.fits_list {declared : FieldType} {items : List Value} :
    (Value.list items).fits declared = true ↔ ∀ value ∈ items, value.fits declared = true := by
  rw [Value.fits, Value.all_fit_eq, List.all_eq_true]

namespace Typed

theorem constant_of_fits (e : Expr) {value : Value} {declared : FieldType} {text : String}
    (fits : value.fits declared = true)
    (written : Literal.ofValue (some declared) value = .ok text) :
    constant e value (some declared) = .ok ⟨.literal text, constantType value (some declared)⟩ := by
  rw [constant, if_pos fits, written]
  rfl

end Typed

namespace Expr

variable {c : Catalog} {clause : Clause} {s m s' : Scope} {receiver arg : Expr}
  {list needle : Typed} {item : FieldType}

theorem operand_sought :
    (operand arg (some item) (arg.lower c clause)).outcome m = (.ok needle, s') ↔
      Tested c clause item m arg needle s' ∨ Untested c clause item m arg needle s' := by
  constructor
  · intro ends
    rcases operand_ends ends with ⟨value, rfl, written, rfl⟩ | ⟨varies, lowered⟩
    · obtain ⟨fits, text, ok, rfl⟩ := Typed.constant_ok written
      have fitting := fits item rfl
      cases value with
      | list items =>
          exact .inr (.enumeration (Value.fits_list.mp fitting) ok)
      | _ => exact .inl (.value rfl fitting ok)
    · obtain ⟨own, typed⟩ := (lower_ends.mp lowered).typed_of_varies varies
      have committed := Steps.commit_ok.mpr lowered
      cases agree : item.comparable own with
      | true => exact .inl (.sameClass varies committed typed agree)
      | false => exact .inr (.otherClass varies committed typed agree)
  · rintro (tested | untested)
    · cases tested with
      | value _ fits written =>
          exact Steps.of_except_ends.mpr ⟨Typed.constant_of_fits _ fits written, rfl⟩
      | sameClass varies lowered =>
          rw [operand, varies]
          exact Steps.commit_ok.mp lowered
    · cases untested with
      | enumeration fits written =>
          have fitting := Value.fits_list.mpr fits
          exact Steps.of_except_ends.mpr ⟨Typed.constant_of_fits _ fitting written, rfl⟩
      | otherClass varies lowered =>
          rw [operand, varies]
          exact Steps.commit_ok.mp lowered

theorem lower_contains {t : Typed} (lowered : (receiver.lower c clause).outcome s = (.ok list, m))
    (isList : list.type = some (.list item)) :
    ((Expr.call receiver (.pattern .contains) [arg]).lower c clause).outcome s = (.ok t, s') ↔
      ∃ needle, t = .holds list needle ∧
        (operand arg (some item) (arg.lower c clause)).outcome m = (.ok needle, s') := by
  rw [lower, Steps.outcome_bind, lowered]
  dsimp only
  rw [isList]
  constructor
  · intro ends
    obtain ⟨needle, m', sought, rest⟩ := Steps.bind_ends.mp ends
    obtain ⟨rfl, rfl⟩ := Steps.pure_ends.mp rest
    exact ⟨needle, rfl, sought⟩
  · rintro ⟨needle, rfl, sought⟩
    exact Steps.bind_ends.mpr ⟨needle, s', sought, rfl⟩

theorem holds_join_iff {whole : Expr} {l r : Column} {joins : List Join}
    (isList : l.type = .list item) : holdsJoin whole l r = .ok joins ↔
      item.comparable r.type = true ∧ joins = [⟨l, r, .holds, none⟩] := by
  have test : (l.type.item?.any fun t => t.comparable r.type) = item.comparable r.type := by
    rw [isList]
    rfl
  rw [holdsJoin, test]
  cases item.comparable r.type <;> simp [eq_comm]

end Expr

theorem Typed.binary_not_column {left right : Expr} {op : BinaryOp} {l r t : Typed}
    {column : Column} (typed : binary left op right l r = .ok t) : t.term ≠ .column column := by
  rcases binary_ok typed with ⟨k, _, _, _, rfl⟩ | ⟨o, a, b, _, _, _, _, _, rfl⟩ | ⟨o, _, _, rfl⟩ <;>
    simp [truth]

theorem Lowers.of_column {c : Catalog} {clause : Clause} {e : Expr} {s s' : Scope} {t : Typed}
    {column : Column} (lowers : Lowers c clause e s t s') (isColumn : t.term = .column column) :
    t = .ofColumn column ∧ e.constant? = none := by
  cases lowers with
  | member found =>
      cases isColumn
      exact ⟨rfl, rfl⟩
  | field found =>
      cases isColumn
      exact ⟨rfl, rfl⟩
  | constant written =>
      obtain ⟨_, text, _, rfl⟩ := Typed.constant_ok written
      cases isColumn
  | @nullRight _ op => cases op <;> cases isColumn
  | @nullLeft op => cases op <;> cases isColumn
  | constantLeft _ _ _ _ typed => exact absurd isColumn (Typed.binary_not_column typed)
  | constantRight _ _ _ _ _ typed => exact absurd isColumn (Typed.binary_not_column typed)
  | binary _ _ _ _ typed => exact absurd isColumn (Typed.binary_not_column typed)
  | _ => cases isColumn

namespace Expr

variable {c : Catalog} {clause : Clause} {s m s' : Scope} {receiver arg : Expr}
  {list needle : Typed} {item : FieldType}

theorem lower_join_side_iff {whole side : Expr} {column : Column} :
    (lowerJoinSide c clause whole side).outcome s = (.ok column, s') ↔
      (side.lower c clause).outcome s = (.ok (.ofColumn column), s') := by
  constructor
  · intro ends
    obtain ⟨t, m, lowered, rest⟩ := Steps.bind_ends.mp ends
    split at rest
    next isColumn =>
      obtain ⟨rfl, rfl⟩ := Steps.pure_ends.mp rest
      rw [lowered, ((lower_ends.mp lowered).of_column isColumn).1]
    next => exact absurd rest Steps.throw_ends
  · intro lowered
    exact Steps.bind_ends.mpr ⟨.ofColumn column, s', lowered, rfl⟩

theorem lower_join_contains {joins : List Join}
    (lowered : (receiver.lower c clause).outcome s = (.ok list, m))
    (isList : list.type = some (.list item)) :
    ((Expr.call receiver (.pattern .contains) [arg]).lowerJoin c clause).outcome s =
        (.ok joins, s') ↔
      ∃ column sought, list = .ofColumn column ∧
        Tested c clause item m arg (.ofColumn sought) s' ∧
        joins = [⟨column, sought, .holds, none⟩] := by
  rw [lowerJoin, Steps.bind_ends]
  constructor
  · rintro ⟨column, m', listEnds, rest⟩
    obtain ⟨sought, m'', itemEnds, rest⟩ := Steps.bind_ends.mp rest
    obtain ⟨joined, rfl⟩ := Steps.of_except_ends.mp rest
    rw [lower_join_side_iff] at listEnds itemEnds
    rw [lowered] at listEnds
    cases listEnds
    obtain ⟨agree, rfl⟩ := (holds_join_iff (Option.some.inj isList)).mp joined
    have varies := ((lower_ends.mp itemEnds).of_column rfl).2
    exact ⟨column, sought, rfl,
      .sameClass varies (Steps.commit_ok.mpr itemEnds) rfl agree, rfl⟩
  · rintro ⟨column, sought, rfl, tested, rfl⟩
    generalize isNeedle : Typed.ofColumn sought = needle at tested
    cases tested with
    | value => cases isNeedle
    | sameClass _ itemLowered typed agree =>
        subst isNeedle
        cases typed
        refine ⟨column, m, lower_join_side_iff.mpr lowered, Steps.bind_ends.mpr ⟨sought, s',
          lower_join_side_iff.mpr (Steps.commit_ok.mp itemLowered), ?_⟩⟩
        exact Steps.of_except_ends.mpr
          ⟨(holds_join_iff (Option.some.inj isList)).mpr ⟨agree, rfl⟩, rfl⟩

end Expr

/-- A predicate takes exactly the tested and the untested arguments, and what it takes passes the
test exactly when it is none of the untested ones. The same call as a join condition takes exactly
the columns that pass the test. -/
theorem list_needles_taken {c : Catalog} {clause : Clause} {s m : Scope} {receiver : Expr}
    {list : Typed} {item : FieldType}
    (lowered : (receiver.lower c clause).commit s = .ok (list, m))
    (isList : list.type = some (.list item)) (arg : Expr) :
    (∀ (t : Typed) (s' : Scope),
      ((Expr.call receiver (.pattern .contains) [arg]).lower c clause).commit s = .ok (t, s') ↔
        ∃ needle, t = .holds list needle ∧
          (Tested c clause item m arg needle s' ∨ Untested c clause item m arg needle s')) ∧
    (∀ (t : Typed) (s' : Scope),
      ((Expr.call receiver (.pattern .contains) [arg]).lower c clause).commit s = .ok (t, s') →
        ((∃ needle, Tested c clause item m arg needle s') ↔
          ¬ ∃ needle, Untested c clause item m arg needle s')) ∧
    ∀ (joins : List Join) (s' : Scope),
      ((Expr.call receiver (.pattern .contains) [arg]).lowerJoin c clause).commit s =
          .ok (joins, s') ↔
        ∃ column sought, list = .ofColumn column ∧
          Tested c clause item m arg (.ofColumn sought) s' ∧
          joins = [⟨column, sought, .holds, none⟩] := by
  have ends := Steps.commit_ok.mp lowered
  have accepted : ∀ (t : Typed) (s' : Scope),
      ((Expr.call receiver (.pattern .contains) [arg]).lower c clause).commit s = .ok (t, s') ↔
        ∃ needle, t = .holds list needle ∧
          (Tested c clause item m arg needle s' ∨ Untested c clause item m arg needle s') := by
    intro t s'
    simp only [Steps.commit_ok, Expr.lower_contains ends isList, Expr.operand_sought]
  refine ⟨accepted, ?_, ?_⟩
  · intro t s' taken
    constructor
    · rintro ⟨needle, tested⟩ ⟨other, untested⟩
      exact tested.not_untested untested
    · intro noOther
      obtain ⟨needle, _, tested | untested⟩ := (accepted t s').mp taken
      · exact ⟨needle, tested⟩
      · exact absurd ⟨needle, untested⟩ noOther
  · intro joins s'
    rw [Steps.commit_ok, Expr.lower_join_contains ends isList]

namespace Sample

def tags : Column := ⟨"T1", "tags", .list .string⟩

def tagged (arg : Expr) : Expr := .call (.field "tags") (.pattern .contains) [arg]

end Sample

theorem title_sought_among_tags :
    ((Expr.field "tags").lower Sample.catalog .condition).commit Sample.start.scope =
        .ok (.ofColumn Sample.tags, Sample.start.scope) ∧
      ((Sample.tagged (.field "title")).lower Sample.catalog .condition).commit Sample.start.scope =
        .ok (.holds (.ofColumn Sample.tags) (.ofColumn ⟨"T1", "title", .string⟩),
          Sample.start.scope) ∧
      ((Sample.tagged (.field "title")).lowerJoin Sample.catalog .condition).commit
          Sample.start.scope =
        .ok ([⟨Sample.tags, ⟨"T1", "title", .string⟩, .holds, none⟩], Sample.start.scope) := by
  have listed : ((Expr.field "tags").lower Sample.catalog .condition).commit Sample.start.scope =
      .ok (.ofColumn Sample.tags, Sample.start.scope) := rfl
  have title : ((Expr.field "title").lower Sample.catalog .condition).commit Sample.start.scope =
      .ok (.ofColumn ⟨"T1", "title", .string⟩, Sample.start.scope) := rfl
  have tested : Tested Sample.catalog .condition .string Sample.start.scope (.field "title")
      (.ofColumn ⟨"T1", "title", .string⟩) Sample.start.scope := .sameClass rfl title rfl rfl
  obtain ⟨taken, _, joined⟩ := list_needles_taken listed rfl (.field "title")
  exact ⟨listed, (taken _ _).mpr ⟨_, rfl, .inl tested⟩, (joined _ _).mpr ⟨_, _, rfl, tested, rfl⟩⟩

theorem length_sought_among_tags :
    ((Sample.tagged (.field "length")).lower Sample.catalog .condition).commit Sample.start.scope =
        .ok (.holds (.ofColumn Sample.tags) (.ofColumn ⟨"T1", "length", .integer⟩),
          Sample.start.scope) ∧
      (¬ ∃ needle s', Tested Sample.catalog .condition .string Sample.start.scope (.field "length")
        needle s') ∧
      ((Sample.tagged (.field "length")).lowerJoin Sample.catalog .condition).commit
          Sample.start.scope =
        .error (.mismatch (Sample.tagged (.field "length")) (.notHeld (.list .string) .integer)) ∧
      ((Sample.tagged (.constant (.list [.text "a", .text "b"]))).lower Sample.catalog
          .condition).commit Sample.start.scope =
        .ok (.holds (.ofColumn Sample.tags) ⟨.literal "('a','b')", some .string⟩,
          Sample.start.scope) ∧
      ¬ ∃ needle s', Tested Sample.catalog .condition .string Sample.start.scope
        (.constant (.list [.text "a", .text "b"])) needle s' := by
  have number : ((Expr.field "length").lower Sample.catalog .condition).commit
      Sample.start.scope = .ok (.ofColumn ⟨"T1", "length", .integer⟩, Sample.start.scope) := rfl
  refine ⟨rfl, ?_, rfl, rfl, ?_⟩
  · rintro ⟨needle, s', tested⟩
    cases tested with
    | sameClass _ lowered typed agree =>
        cases number.symm.trans lowered
        cases typed
        cases agree
  · rintro ⟨needle, s', tested⟩
    cases tested with
    | value single => cases single
    | sameClass varies => cases varies

end WikiQuery
