import WikiQuery.Proofs.ClassSoundness

/- Where `NULL` stands in a lowered term. It belongs to no class, so that no operator that asks for
   classes takes it. The tests of membership ask less of their values, and among these it stands
   exactly when the caller has put it there. -/
set_option autoImplicit false

namespace WikiQuery

open SqlText

namespace Sql.Term

def isMembership : Term → Bool
  | .binary _ .isIn _ | .binary _ .notIn _ | .binary _ .holds _ => true
  | _ => false

/-- `NULL` is no operand of the outermost construction, unless that is a test for `NULL`, and no
item of the enumeration behind `IN` or `NOT IN`. -/
def NullFree : Term → Prop
  | .binary l op r =>
      l ≠ .literal "NULL" ∧ r ≠ .literal "NULL" ∧
        (op = .isIn ∨ op = .notIn → ∃ tokens, r.enumerated? = some tokens ∧ .null ∉ tokens)
  | .unary .not t | .unary .neg t => t ≠ .literal "NULL"
  | .junction _ ts => .literal "NULL" ∉ ts
  | _ => True

def MembershipsNullFree (t : Term) : Prop :=
  ∀ node ∈ t.nodes, node.isMembership = true → node.NullFree

theorem ne_null_of_class {t : Term} {k : TypeClass} (member : k ∈ t.classes) :
    t ≠ .literal "NULL" := by
  rintro rfl
  have formed : Token.null.Formed := trivial
  have none : (Term.literal "NULL").classes = [] := literal_classes_text formed
  rw [none] at member
  cases member

theorem quote_ne_null (s : String) : Term.literal (Literal.quote s) ≠ .literal "NULL" := by
  have formed : (Token.quoted s).Formed := trivial
  have quoted := literal_classes_text formed
  rw [Token.text] at quoted
  refine ne_null_of_class (k := .text) ?_
  rw [classes, quoted]
  exact List.mem_cons_self

theorem CheckedBinary.not_null {l r : Term} {op : BinaryOp} (checked : CheckedBinary l r op)
    (other : (Term.binary l op r).isMembership = false) :
    l ≠ .literal "NULL" ∧ r ≠ .literal "NULL" := by
  cases op with
  | eq | ne =>
      obtain ⟨k, left, right⟩ := checked
      exact ⟨ne_null_of_class left, ne_null_of_class right⟩
  | lt | le | gt | ge =>
      obtain ⟨k, left, right, _⟩ := checked
      exact ⟨ne_null_of_class left, ne_null_of_class right⟩
  | add | sub | mul | div => exact ⟨ne_null_of_class checked.1, ne_null_of_class checked.2⟩
  | like =>
      obtain ⟨isText, s, rfl⟩ := checked
      exact ⟨ne_null_of_class isText, quote_ne_null s⟩
  | isIn | notIn | holds => cases other

-- Every operator but the tests of membership asks for classes, and `NULL` has none.
theorem Checked.null_free {node : Term} (checked : node.Checked)
    (other : node.isMembership = false) : node.NullFree := by
  cases node with
  | binary l op r =>
      obtain ⟨left, right⟩ := CheckedBinary.not_null checked other
      refine ⟨left, right, ?_⟩
      rintro (rfl | rfl) <;> cases other
  | unary op t =>
      cases op with
      | not | neg => exact ne_null_of_class checked
      | isNull | isNotNull => trivial
  | junction k ts =>
      intro member
      exact ne_null_of_class (checked _ member) rfl
  | _ => trivial

theorem AllChecked.null_free_iff {t : Term} (checked : AllChecked t) :
    (∀ node ∈ t.nodes, node.NullFree) ↔ t.MembershipsNullFree := by
  constructor
  · intro all node member _
    exact all node member
  · intro memberships node member
    cases own : node.isMembership with
    | true => exact memberships node member own
    | false => exact (checked node member).null_free own

theorem memberships_null_free_column (column : Column) : MembershipsNullFree (.column column) := by
  simp [MembershipsNullFree, nodes, isMembership]

theorem memberships_null_free_literal (text : String) : MembershipsNullFree (.literal text) := by
  simp [MembershipsNullFree, nodes, isMembership]

theorem memberships_null_free_binary {l r : Term} {op : BinaryOp}
    (other : (Term.binary l op r).isMembership = false) :
    MembershipsNullFree (.binary l op r) ↔ MembershipsNullFree l ∧ MembershipsNullFree r := by
  simp [MembershipsNullFree, forall_nodes_binary, other]

theorem memberships_null_free_membership {l r : Term} {op : BinaryOp}
    (own : (Term.binary l op r).isMembership = true) :
    MembershipsNullFree (.binary l op r) ↔
      NullFree (.binary l op r) ∧ MembershipsNullFree l ∧ MembershipsNullFree r := by
  simp [MembershipsNullFree, forall_nodes_binary, own]

theorem memberships_null_free_unary {op : UnaryOp} {t : Term} :
    MembershipsNullFree (.unary op t) ↔ MembershipsNullFree t := by
  simp [MembershipsNullFree, forall_nodes_unary, isMembership]

theorem memberships_null_free_function {name : String} {distinct : Bool} {arg : Term} :
    MembershipsNullFree (.function name distinct [arg]) ↔ MembershipsNullFree arg := by
  simp [MembershipsNullFree, forall_nodes_function, isMembership]

theorem memberships_null_free_junction {k : Connective} {ts : List Term} :
    MembershipsNullFree (.junction k ts) ↔ ∀ t ∈ ts, MembershipsNullFree t := by
  simp [MembershipsNullFree, forall_nodes_junction, isMembership]

theorem memberships_null_free_chain (k : Connective) (t : Term) :
    (∀ u ∈ Typed.chainTerms k t, MembershipsNullFree u) ↔ MembershipsNullFree t := by
  rcases Typed.chain_terms_cases k t with ⟨ts, rfl, chain⟩ | single
  · rw [chain, memberships_null_free_junction]
  · rw [single, List.forall_mem_singleton]

end Sql.Term

open Sql.Term

theorem SqlText.Token.text_inj {a b : Token} (formedA : a.Formed) (formedB : b.Formed)
    (same : a.text = b.text) : a = b := by
  have readA := read_token_text formedA ends_nil
  have readB := read_token_text formedB ends_nil
  rw [same, readB] at readA
  exact (Prod.mk.inj (Option.some.inj readA)).1.symm

namespace Typed

theorem constant_null {e : Expr} {value : Value} {hint : Option FieldType} {t : Typed}
    (written : constant e value hint = .ok t) : t.term = .literal "NULL" ↔ value = .null := by
  obtain ⟨fits, text, ok, rfl⟩ := constant_ok written
  constructor
  · rintro ⟨⟩
    cases isList : value.isList with
    | true =>
        cases value <;> cases isList
        obtain ⟨_, texts, _, same⟩ := Literal.enumeration_ok ok
        have heads := congrArg (fun text => text.toList.head?) same
        simp at heads
    | false =>
        rw [Literal.of_value_single isList] at ok
        obtain ⟨token, formed, isText, null, _⟩ := Literal.scalar_token ok fits
        exact null.mp (Token.text_inj formed (b := .null) trivial isText)
  · rintro rfl
    cases ok
    rfl

theorem binary_memberships_null_free {left right : Expr} {op : BinaryOp} {l r t : Typed}
    (typed : binary left op right l r = .ok t) :
    t.term.MembershipsNullFree ↔ l.term.MembershipsNullFree ∧ r.term.MembershipsNullFree := by
  rcases binary_ok typed with ⟨k, _, _, _, rfl⟩ | ⟨o, a, b, isArithmetic, _, _, _, _, rfl⟩ |
    ⟨o, isComparison, _, rfl⟩
  · rw [truth, memberships_null_free_junction, List.forall_mem_append, memberships_null_free_chain,
      memberships_null_free_chain]
  · refine memberships_null_free_binary ?_
    cases op <;> cases isArithmetic <;> rfl
  · refine memberships_null_free_binary ?_
    cases op <;> cases isComparison <;> rfl

theorem null_test_memberships_null_free (op : BinaryOp) (t : Typed) :
    (t.nullTest op).term.MembershipsNullFree ↔ t.term.MembershipsNullFree := by
  unfold nullTest
  split <;> exact memberships_null_free_unary

theorem constant_memberships_null_free {e : Expr} {value : Value} {hint : Option FieldType}
    {t : Typed} (written : constant e value hint = .ok t) : t.term.MembershipsNullFree := by
  obtain ⟨_, text, _, rfl⟩ := constant_ok written
  exact memberships_null_free_literal text

theorem holds_memberships_null_free {list needle : Typed} {item : FieldType}
    (classed : list.Classed) (isList : list.type = some (.list item)) :
    (holds list needle).term.MembershipsNullFree ↔
      needle.term ≠ .literal "NULL" ∧ list.term.MembershipsNullFree ∧
        needle.term.MembershipsNullFree := by
  have listed := ne_null_of_class (classed.type _ isList)
  rw [holds, truth, memberships_null_free_membership rfl]
  simp [NullFree, listed]

theorem membership_memberships_null_free {whole : Expr} {negated : Bool} {items : List Value}
    {text : String} {subject : Typed} (checked : checkItems whole items subject.type = .ok ())
    (written : Literal.enumeration subject.type items = .ok text) :
    MembershipsNullFree
        (.binary subject.term (if negated then .notIn else .isIn) (.literal text)) ↔
      subject.term ≠ .literal "NULL" ∧ .null ∉ items ∧ subject.term.MembershipsNullFree := by
  obtain ⟨tokens, enumerated, nulls, _⟩ :=
    Literal.enumeration_tokens written (check_items_fits checked)
  have several : text ≠ "NULL" := by
    rintro rfl
    cases enumerated
  have literal := memberships_null_free_literal text
  cases negated <;> rw [memberships_null_free_membership rfl] <;>
    simp [NullFree, several, enumerated, nulls, literal, and_assoc]

end Typed

namespace Expr

/-- No test of membership in the expression is handed `NULL`: not as its subject, not among its
items, and not as what a list should hold. -/
def HandsNoNull : Expr → Prop
  | .binary left _ right => HandsNoNull left ∧ HandsNoNull right
  | .unary _ operand => HandsNoNull operand
  | .call receiver (.membership _) [.constant (.list items)] =>
      receiver ≠ .constant .null ∧ .null ∉ items ∧ HandsNoNull receiver
  | .call receiver (.pattern .contains) [arg] =>
      arg ≠ .constant .null ∧ HandsNoNull receiver ∧ HandsNoNull arg
  | .call receiver _ _ => HandsNoNull receiver
  | _ => True

end Expr

namespace Lowers

variable {c : Catalog} {clause : Clause} {e : Expr} {s s' : Scope} {t : Typed}

theorem null_iff (lowers : Lowers c clause e s t s') :
    t.term = .literal "NULL" ↔ e = .constant .null := by
  constructor
  · intro isNull
    obtain ⟨value, rfl, written⟩ := lowers.constant_of_literal isNull
    rw [(Typed.constant_null written).mp isNull]
  · rintro rfl
    cases lowers with
    | constant written => exact (Typed.constant_null written).mpr rfl

theorem memberships_null_free (lowers : Lowers c clause e s t s') :
    t.term.MembershipsNullFree ↔ e.HandsNoNull := by
  induction lowers with
  | @member _ _ _ _ column => simp [Typed.ofColumn, memberships_null_free_column, Expr.HandsNoNull]
  | @field _ _ column => simp [Typed.ofColumn, memberships_null_free_column, Expr.HandsNoNull]
  | constant written =>
      simp [Typed.constant_memberships_null_free written, Expr.HandsNoNull]
  | @nullRight _ op _ _ _ _ _ _ ih =>
      rw [Typed.null_test_memberships_null_free, ih]
      simp [Expr.HandsNoNull]
  | @nullLeft op _ _ _ _ _ _ _ ih =>
      rw [Typed.null_test_memberships_null_free, ih]
      simp [Expr.HandsNoNull]
  | constantLeft _ _ _ written typed ih =>
      rw [Typed.binary_memberships_null_free typed, ih]
      simp [Typed.constant_memberships_null_free written, Expr.HandsNoNull]
  | constantRight _ _ _ _ written typed ih =>
      rw [Typed.binary_memberships_null_free typed, ih]
      simp [Typed.constant_memberships_null_free written, Expr.HandsNoNull]
  | binary _ _ _ _ typed firstIh secondIh =>
      rw [Typed.binary_memberships_null_free typed, firstIh, secondIh, Expr.HandsNoNull]
  | not _ _ ih => rw [memberships_null_free_unary, ih, Expr.HandsNoNull]
  | neg _ _ ih => rw [memberships_null_free_unary, ih, Expr.HandsNoNull]
  | aggregate _ _ _ _ ih =>
      rw [Typed.aggregateTerm, memberships_null_free_function, ih]
      simp [Expr.HandsNoNull]
  | holdsConstant inner isList written ih =>
      have literal := Typed.constant_memberships_null_free written
      rw [Typed.holds_memberships_null_free inner.classed isList, ne_eq,
        Typed.constant_null written, ih]
      simp [literal, Expr.HandsNoNull]
  | holds varies inner isList sought listIh needleIh =>
      rw [Typed.holds_memberships_null_free inner.classed isList, ne_eq, sought.null_iff, listIh,
        needleIh, Expr.HandsNoNull]
  | @pattern _ p _ _ _ _ _ _ ih =>
      rw [Typed.truth, memberships_null_free_binary rfl, ih]
      cases p <;> simp [memberships_null_free_literal, Expr.HandsNoNull]
  | membership inner checked written ih =>
      rw [Typed.truth, Typed.membership_memberships_null_free checked written, ne_eq,
        inner.null_iff, ih, Expr.HandsNoNull]
  | textFunction _ _ ih =>
      rw [memberships_null_free_function, ih]
      simp [Expr.HandsNoNull]
  | datePart _ _ ih =>
      rw [memberships_null_free_function, ih]
      simp [Expr.HandsNoNull]
  | countAll =>
      simp [Typed.aggregateTerm, memberships_null_free_function, memberships_null_free_literal,
        Expr.countAll, Expr.HandsNoNull]

end Lowers

/-- Outside the tests of membership, `NULL` is an operand of nothing but the tests for `NULL`. In a
whole term it is an operand of nothing else, and an item of no enumeration, exactly when the caller
has handed it to no test of membership. -/
theorem null_only_in_memberships {c : Catalog} {clause : Clause} {e : Expr} {s s' : Scope}
    {t : Typed} (accepted : (e.lower c clause).commit s = .ok (t, s')) :
    (∀ node ∈ t.term.nodes, node.isMembership = false → node.NullFree) ∧
      ((∀ node ∈ t.term.nodes, node.NullFree) ↔ e.HandsNoNull) := by
  have lowers := Expr.lower_ends.mp (Steps.commit_ok.mp accepted)
  have checked := lowers.classed.nodes
  refine ⟨?_, checked.null_free_iff.trans lowers.memberships_null_free⟩
  intro node member other
  exact (checked node member).null_free other

namespace Sample

def unwritten (lengths : List Value) : Expr :=
  .binary (.binary (.constant .null) .eq (.field "writer")) .or
    (.call (.field "length") (.membership true) [.constant (.list lengths)])

def unwrittenTerm (lengths : String) : Sql.Term :=
  .junction .or
    [.unary .isNull (.column ⟨"T1", "writer", .integer⟩),
      .binary (.column ⟨"T1", "length", .integer⟩) .notIn (.literal lengths)]

end Sample

theorem unwritten_pages_null_free :
    ((Sample.unwritten [.int 3, .int 5]).lower Sample.catalog .condition).commit
        Sample.start.scope = .ok (.truth (Sample.unwrittenTerm "(3,5)"), Sample.start.scope) ∧
      ∀ node ∈ (Sample.unwrittenTerm "(3,5)").nodes, node.NullFree := by
  have accepted : ((Sample.unwritten [.int 3, .int 5]).lower Sample.catalog .condition).commit
      Sample.start.scope = .ok (.truth (Sample.unwrittenTerm "(3,5)"), Sample.start.scope) := rfl
  refine ⟨accepted, (null_only_in_memberships accepted).2.mpr ?_⟩
  simp [Sample.unwritten, Expr.HandsNoNull]

theorem null_handed_to_memberships :
    ((Sample.unwritten [.int 3, .null]).lower Sample.catalog .condition).commit
        Sample.start.scope = .ok (.truth (Sample.unwrittenTerm "(3,NULL)"), Sample.start.scope) ∧
      (¬ ∀ node ∈ (Sample.unwrittenTerm "(3,NULL)").nodes, node.NullFree) ∧
      ((Expr.call (.field "tags") (.pattern .contains) [.constant .null]).lower Sample.catalog
          .condition).commit Sample.start.scope =
        .ok (.truth (.binary (.column ⟨"T1", "tags", .list .string⟩) .holds (.literal "NULL")),
          Sample.start.scope) ∧
      ¬ NullFree (.binary (.column ⟨"T1", "tags", .list .string⟩) .holds (.literal "NULL")) ∧
      ((Expr.call (.constant .null) (.membership false) [.constant (.list [.int 3])]).lower
          Sample.catalog .condition).commit Sample.start.scope =
        .ok (.truth (.binary (.literal "NULL") .isIn (.literal "(3)")), Sample.start.scope) ∧
      ¬ NullFree (.binary (.literal "NULL") .isIn (.literal "(3)")) := by
  refine ⟨rfl, ?_, rfl, fun free => free.2.1 rfl, rfl, fun free => free.1 rfl⟩
  intro free
  have own := free (.binary (.column ⟨"T1", "length", .integer⟩) .notIn (.literal "(3,NULL)"))
    (by simp [Sample.unwrittenTerm, nodes, allNodes])
  obtain ⟨tokens, enumerated, noNull⟩ := own.2.2 (.inr rfl)
  cases enumerated
  exact noNull (by decide)

end WikiQuery
