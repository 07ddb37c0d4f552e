import WikiQuery.Proofs.Classes
import WikiQuery.Proofs.Shape

/- Lowered terms agree in class. A lowered term belongs to the class of its type, and at each of its
   nodes the operands belong to the classes that the operator or function takes, so that nothing is
   left for the database to convert. -/
set_option autoImplicit false

namespace WikiQuery

open Sql.Term

/-- The class of the type is a class of the term, and every node of the term is checked. -/
structure Typed.Classed (t : Typed) : Prop where
  type : ∀ type, t.type = some type → type.typeClass ∈ t.term.classes
  nodes : AllChecked t.term

namespace Typed

theorem class_of_has_type {t : Typed} {k : TypeClass} {type : FieldType}
    (known : t.hasType (fun type => type.typeClass == k) = true) (isType : t.type = some type) :
    type.typeClass = k := by
  rw [hasType, isType] at known
  simpa using known

theorem Classed.of_has_type {t : Typed} (classed : t.Classed) {k : TypeClass}
    (known : t.hasType (fun type => type.typeClass == k) = true) : k ∈ t.term.classes := by
  obtain ⟨type, isType, _⟩ := (Option.any_eq_true _ _).mp known
  exact class_of_has_type known isType ▸ classed.type type isType

theorem of_column_classed (column : Column) : (ofColumn column).Classed where
  type := by
    rintro type ⟨⟩
    exact List.mem_singleton_self _
  nodes := all_checked_column column

theorem truth_classed {term : Sql.Term} (truth : .boolean ∈ term.classes)
    (nodes : AllChecked term) : (Typed.truth term).Classed where
  type := by
    rintro type ⟨⟩
    exact truth
  nodes := nodes

-- An enumeration takes a type without belonging to its class; only behind `HOLDS` is it given one.
theorem constant_classed {e : Expr} {value : Value} {hint : Option FieldType} {t : Typed}
    (single : value.isList = false ∨ hint = none) (written : constant e value hint = .ok t) :
    t.Classed := by
  obtain ⟨fits, text, ok, rfl⟩ := constant_ok written
  refine ⟨?_, all_checked_literal text⟩
  intro type taken
  cases isList : value.isList with
  | true =>
      rw [isList] at single
      obtain rfl : hint = none := by simpa using single
      cases value <;> cases isList
      cases taken
  | false =>
      rw [Literal.of_value_single isList] at ok
      obtain ⟨token, formed, rfl, _, classed⟩ := Literal.scalar_token ok fits
      change type.typeClass ∈ literalClasses token.text
      rw [literal_classes_text formed]
      exact classed type taken

theorem null_test_classed (op : BinaryOp) {t : Typed} (classed : t.Classed) :
    (t.nullTest op).Classed := by
  unfold nullTest
  split
  · exact truth_classed (List.mem_singleton_self _) (all_checked_unary.mpr ⟨trivial, classed.nodes⟩)
  · exact truth_classed (List.mem_singleton_self _) (all_checked_unary.mpr ⟨trivial, classed.nodes⟩)

theorem binary_comparison {left right : Expr} {op : BinaryOp} {o : Sql.BinaryOp} {l r t : Typed}
    (isComparison : op.comparison? = some o) (typed : binary left op right l r = .ok t) :
    comparison o (.binary left op right) l r = .ok t := by
  cases op <;> cases isComparison <;> exact typed

theorem comparison_typed {o : Sql.BinaryOp} {whole : Expr} {l r t : Typed} {a b : FieldType}
    (typed : comparison o whole l r = .ok t) (leftType : l.type = some a)
    (rightType : r.type = some b) :
    a.typeClass = b.typeClass ∧ (a.typeClass = .list → o = .eq ∨ o = .ne) := by
  simp only [comparison, leftType, rightType] at typed
  split at typed
  next => cases typed
  next agree =>
    split at typed
    next => cases typed
    next equality =>
      refine ⟨by simpa [FieldType.comparable] using agree, ?_⟩
      intro isList
      exact Decidable.or_iff_not_imp_left.mpr (by simpa [FieldType.isList, isList] using equality)

theorem comparison_checked {l r : Sql.Term} {op : BinaryOp} {o : Sql.BinaryOp} {k : TypeClass}
    (isComparison : op.comparison? = some o) (left : k ∈ l.classes) (right : k ∈ r.classes)
    (lists : k = .list → o = .eq ∨ o = .ne) :
    CheckedBinary l r o ∧ o.resultClass = .boolean := by
  have ordered : ¬ (o = .eq ∨ o = .ne) → k ≠ .list := fun order isList => order (lists isList)
  cases op <;> cases isComparison
  · exact ⟨⟨k, left, right⟩, rfl⟩
  · exact ⟨⟨k, left, right⟩, rfl⟩
  · exact ⟨⟨k, left, right, ordered (by decide)⟩, rfl⟩
  · exact ⟨⟨k, left, right, ordered (by decide)⟩, rfl⟩
  · exact ⟨⟨k, left, right, ordered (by decide)⟩, rfl⟩
  · exact ⟨⟨k, left, right, ordered (by decide)⟩, rfl⟩

theorem arithmetic_checked {l r : Sql.Term} {op : BinaryOp} {o : Sql.BinaryOp}
    (isArithmetic : op.arithmetic? = some o) (left : .numeric ∈ l.classes)
    (right : .numeric ∈ r.classes) : CheckedBinary l r o ∧ o.resultClass = .numeric := by
  cases op <;> cases isArithmetic <;> exact ⟨⟨left, right⟩, rfl⟩

theorem binary_classed {left right : Expr} {op : BinaryOp} {l r t : Typed}
    (leftClassed : l.Classed) (rightClassed : r.Classed)
    (sides : ∀ o, op.comparison? = some o → ∃ a b, l.type = some a ∧ r.type = some b)
    (typed : binary left op right l r = .ok t) : t.Classed := by
  rcases binary_ok typed with ⟨k, _, leftTruth, rightTruth, rfl⟩ |
    ⟨o, a, b, isArithmetic, leftType, rightType, leftNumber, rightNumber, rfl⟩ |
    ⟨o, isComparison, _, rfl⟩
  · have leftChain := chain_checked k (leftClassed.type _ leftTruth) leftClassed.nodes
    have rightChain := chain_checked k (rightClassed.type _ rightTruth) rightClassed.nodes
    refine truth_classed (List.mem_singleton_self _) (all_checked_junction.mpr ?_)
    exact List.forall_mem_append.mpr ⟨leftChain, rightChain⟩
  · have leftNumeric : a.typeClass = .numeric := by simpa [FieldType.isNumeric] using leftNumber
    have rightNumeric : b.typeClass = .numeric := by simpa [FieldType.isNumeric] using rightNumber
    obtain ⟨checked, result⟩ := arithmetic_checked isArithmetic
      (leftNumeric ▸ leftClassed.type a leftType) (rightNumeric ▸ rightClassed.type b rightType)
    refine ⟨?_, all_checked_binary.mpr ⟨checked, leftClassed.nodes, rightClassed.nodes⟩⟩
    rintro type ⟨⟩
    have numeric : (arithmeticType o a b).typeClass = .numeric := by
      rw [arithmeticType]
      split <;> rfl
    rw [numeric, classes, result]
    exact List.mem_singleton_self _
  · obtain ⟨a, b, leftType, rightType⟩ := sides o isComparison
    obtain ⟨agree, lists⟩ :=
      comparison_typed (binary_comparison isComparison typed) leftType rightType
    obtain ⟨checked, result⟩ := comparison_checked isComparison (leftClassed.type a leftType)
      (agree ▸ rightClassed.type b rightType) lists
    refine truth_classed ?_
      (all_checked_binary.mpr ⟨checked, leftClassed.nodes, rightClassed.nodes⟩)
    rw [classes, result]
    exact List.mem_singleton_self _

theorem function_classed {name : String} {distinct : Bool} {arg : Sql.Term} {type : FieldType}
    {signature : Sql.Signature} (known : Sql.Signature.ofName? name = some signature)
    (accepts : signature.Accepts arg.classes)
    (result : type.typeClass ∈ signature.result arg.classes) (nodes : AllChecked arg) :
    Classed ⟨.function name distinct [arg], some type⟩ where
  type := by
    rintro _ ⟨⟩
    rw [classes_function known]
    exact result
  nodes := all_checked_function known accepts nodes

theorem aggregate_type?_number {a : Aggregate} {subject : Option FieldType} {type : FieldType}
    (summing : a = .sum ∨ a = .avg) (typed : aggregateType? a subject = some type) :
    ∃ t, subject = some t ∧ t.typeClass = .numeric ∧ type.typeClass = .numeric := by
  cases subject with
  | none => rcases summing with rfl | rfl <;> cases typed
  | some t =>
      have either : t.isNumeric = true ∧ (type = t ∨ type = .float) := by
        rcases summing with rfl | rfl
        · have found : t.isNumeric = true ∧ t = type := by simpa [aggregateType?] using typed
          exact ⟨found.1, .inl found.2.symm⟩
        · have found : t.isNumeric = true ∧ .float = type := by simpa [aggregateType?] using typed
          exact ⟨found.1, .inr found.2.symm⟩
      have numeric : t.typeClass = .numeric := by simpa [FieldType.isNumeric] using either.1
      refine ⟨t, rfl, numeric, ?_⟩
      rcases either.2 with rfl | rfl
      · exact numeric
      · rfl

theorem aggregate_type?_extreme {a : Aggregate} {subject : Option FieldType} {type : FieldType}
    (extreme : a = .min ∨ a = .max) (typed : aggregateType? a subject = some type) :
    subject = some type ∧ type.typeClass ≠ .list := by
  cases subject with
  | none => rcases extreme with rfl | rfl <;> cases typed
  | some t =>
      have either : (if t.isList then none else some t) = some type := by
        rcases extreme with rfl | rfl <;> exact typed
      split at either
      next => cases either
      next single =>
        cases either
        exact ⟨rfl, by simpa [FieldType.isList] using single⟩

theorem aggregate_classed {a : Aggregate} {subject : Typed} {type : FieldType}
    (classed : subject.Classed) (typed : aggregateType? a subject.type = some type) :
    Classed ⟨aggregateTerm a subject.term, some type⟩ := by
  have number : a = .sum ∨ a = .avg → Sql.Signature.Accepts subject.term.classes
      (.maps .numeric .numeric) ∧ type.typeClass = .numeric := by
    intro summing
    obtain ⟨t, isType, numeric, result⟩ := aggregate_type?_number summing typed
    exact ⟨numeric ▸ classed.type t isType, result⟩
  have extreme : a = .min ∨ a = .max → Sql.Signature.Accepts subject.term.classes .extreme ∧
      type.typeClass ∈ subject.term.classes := by
    intro either
    obtain ⟨isType, single⟩ := aggregate_type?_extreme either typed
    have member := classed.type type isType
    exact ⟨⟨_, member, single⟩, member⟩
  cases a with
  | count =>
      cases typed
      exact function_classed rfl trivial (List.mem_singleton_self _) classed.nodes
  | countDistinct =>
      cases typed
      exact function_classed rfl trivial (List.mem_singleton_self _) classed.nodes
  | sum =>
      obtain ⟨accepts, result⟩ := number (.inl rfl)
      exact function_classed rfl accepts (List.mem_singleton.mpr result) classed.nodes
  | avg =>
      obtain ⟨accepts, result⟩ := number (.inr rfl)
      exact function_classed rfl accepts (List.mem_singleton.mpr result) classed.nodes
  | min =>
      obtain ⟨accepts, result⟩ := extreme (.inl rfl)
      exact function_classed rfl accepts result classed.nodes
  | max =>
      obtain ⟨accepts, result⟩ := extreme (.inr rfl)
      exact function_classed rfl accepts result classed.nodes

theorem text_function_classed (f : TextFunction) {subject : Typed} (classed : subject.Classed)
    (isText : subject.hasType FieldType.isText = true) :
    Classed ⟨.function (textFunctionName f) false [subject.term], some (textFunctionType f)⟩ := by
  have accepts := classed.of_has_type isText
  cases f <;> exact function_classed rfl accepts (List.mem_singleton_self _) classed.nodes

theorem date_part_classed (p : DatePart) {subject : Typed} (classed : subject.Classed)
    (isTemporal : subject.hasType FieldType.isTemporal = true) :
    Classed ⟨.function (datePartName p) false [subject.term], some .integer⟩ := by
  have accepts := classed.of_has_type isTemporal
  cases p <;> exact function_classed rfl accepts (List.mem_singleton_self _) classed.nodes

theorem holds_classed {list needle : Typed} {item : FieldType} (classed : list.Classed)
    (isList : list.type = some (.list item)) (nodes : AllChecked needle.term) :
    (holds list needle).Classed :=
  truth_classed (List.mem_singleton_self _)
    (all_checked_binary.mpr ⟨classed.type _ isList, classed.nodes, nodes⟩)

theorem check_items_fits {whole : Expr} {items : List Value} {type : Option FieldType}
    (checked : checkItems whole items type = .ok ()) :
    ∀ d, type = some d → d.isList = false ∧ ∀ item ∈ items, item.fits d = true := by
  rintro d rfl
  have single := check_items_ok checked d rfl
  rw [checkItems, if_neg (by simp [single])] at checked
  split at checked
  next => cases checked
  next allFit => exact ⟨single, by simpa using allFit⟩

theorem membership_classed {whole : Expr} {negated : Bool} {items : List Value} {text : String}
    {subject : Typed} (classed : subject.Classed)
    (untyped : subject.type = none → subject.term.Classless)
    (checked : checkItems whole items subject.type = .ok ())
    (written : Literal.enumeration subject.type items = .ok text) :
    (truth (.binary subject.term (if negated then .notIn else .isIn) (.literal text))).Classed := by
  have fits := check_items_fits checked
  obtain ⟨tokens, enumerated, _, items⟩ := Literal.enumeration_tokens written fits
  have own : subject.term.Classless ∨ ∃ k ∈ subject.term.classes, k ≠ .list ∧
      ∀ token ∈ tokens, token = .null ∨ k ∈ token.classes := by
    cases isType : subject.type with
    | none => exact .inl (untyped isType)
    | some d =>
        have single : d.typeClass ≠ .list := by
          simpa [FieldType.isList] using (fits d isType).1
        exact .inr ⟨_, classed.type d isType, single, items d isType⟩
  cases negated <;>
    exact truth_classed (List.mem_singleton_self _)
      (all_checked_binary.mpr ⟨⟨tokens, enumerated, own⟩, classed.nodes, all_checked_literal text⟩)

end Typed

namespace Expr

theorem check_operands_single {left right : Expr} {op : BinaryOp}
    (checked : Typed.checkOperands left op right = .ok ()) :
    left.listConstant? = none ∧ right.listConstant? = none := by
  unfold Typed.checkOperands at checked
  split at checked
  next => cases checked
  next => cases checked
  next leftSingle rightSingle => exact ⟨leftSingle, rightSingle⟩

theorem order_not_null {left right : Expr} {op : BinaryOp} (order : op.isOrder = true)
    (checked : Typed.checkOperands left op right = .ok ()) :
    left.isNullConstant = false ∧ right.isNullConstant = false := by
  obtain ⟨leftSingle, rightSingle⟩ := check_operands_single checked
  simp only [Typed.checkOperands, leftSingle, rightSingle, order, Bool.true_and] at checked
  split at checked
  next => cases checked
  next leftNull =>
    split at checked
    next => cases checked
    next rightNull => exact ⟨by simpa using leftNull, by simpa using rightNull⟩

-- Neither side of a comparison is `NULL`: an equality would be a test of its own, and an order is
-- refused.
theorem comparison_not_null {left right : Expr} {op : BinaryOp} {o : Sql.BinaryOp}
    (isComparison : op.comparison? = some o)
    (checked : Typed.checkOperands left op right = .ok ())
    (noNull : nullSide? left op right = none) :
    left.isNullConstant = false ∧ right.isNullConstant = false := by
  cases order : op.isOrder with
  | true => exact order_not_null order checked
  | false =>
      obtain ⟨noRight, noLeft⟩ := null_side_none noNull
      have equality : op.isEquality = true := by
        cases op <;> cases isComparison <;> first | rfl | cases order
      rw [equality, Bool.true_and] at noRight noLeft
      exact ⟨noLeft, noRight⟩

end Expr

theorem Typed.binary_type {left right : Expr} {op : BinaryOp} {l r t : Typed}
    (typed : binary left op right l r = .ok t) : t.type ≠ none := by
  rcases binary_ok typed with ⟨k, _, _, _, rfl⟩ | ⟨o, a, b, _, _, _, _, _, rfl⟩ | ⟨o, _, _, rfl⟩ <;>
    simp [truth]

namespace Lowers

variable {c : Catalog} {clause : Clause} {e : Expr} {s s' : Scope} {t : Typed}

theorem untyped (lowers : Lowers c clause e s t s') (untyped : t.type = none) :
    e = .constant .null ∨ ∃ items, e = .constant (.list items) := by
  cases lowers with
  | @constant value _ _ written =>
      obtain ⟨_, text, _, rfl⟩ := Typed.constant_ok written
      rw [Typed.constant_type_none] at untyped
      cases value with
      | null => exact .inl rfl
      | list items => exact .inr ⟨items, rfl⟩
      | _ => cases untyped
  | @nullRight _ op => cases op <;> cases untyped
  | @nullLeft op => cases op <;> cases untyped
  | constantLeft _ _ _ _ typed => exact absurd untyped (Typed.binary_type typed)
  | constantRight _ _ _ _ _ typed => exact absurd untyped (Typed.binary_type typed)
  | binary _ _ _ _ typed => exact absurd untyped (Typed.binary_type typed)
  | not _ truth =>
      rw [truth] at untyped
      cases untyped
  | neg _ number =>
      rw [Typed.hasType, untyped] at number
      cases number
  | _ => cases untyped

theorem typed_of_single (lowers : Lowers c clause e s t s') (single : e.listConstant? = none)
    (noNull : e.isNullConstant = false) : ∃ type, t.type = some type := by
  refine Option.ne_none_iff_exists'.mp fun untyped => ?_
  rcases lowers.untyped untyped with rfl | ⟨items, rfl⟩
  · cases noNull
  · cases single

theorem typed_of_varies (lowers : Lowers c clause e s t s') (varies : e.constant? = none) :
    ∃ type, t.type = some type := by
  refine Option.ne_none_iff_exists'.mp fun untyped => ?_
  rcases lowers.untyped untyped with rfl | ⟨items, rfl⟩ <;> cases varies

theorem classless (lowers : Lowers c clause e s t s') (untyped : t.type = none) :
    t.term.Classless := by
  rcases lowers.untyped untyped with rfl | ⟨items, rfl⟩
  · cases lowers with
    | constant written =>
        obtain ⟨_, text, ok, rfl⟩ := Typed.constant_ok written
        cases ok
        exact .inl rfl
  · cases lowers with
    | constant written =>
        obtain ⟨_, text, ok, rfl⟩ := Typed.constant_ok written
        obtain ⟨tokens, enumerated, _⟩ := Literal.enumeration_tokens ok (by simp)
        exact .inr ⟨tokens, enumerated⟩

end Lowers

namespace Typed

theorem constant_typed {value : Value} {declared : FieldType} {e : Expr} {t : Typed}
    (written : constant e value (some declared) = .ok t)
    (noNull : (Expr.constant value).isNullConstant = false) : t.type = some declared := by
  obtain ⟨_, text, _, rfl⟩ := constant_ok written
  rcases constant_type_declared value declared with rfl | taken
  · cases noNull
  · exact taken

theorem is_list_of_single {value : Value} (single : (Expr.constant value).listConstant? = none) :
    value.isList = false := by
  cases value with
  | list items => cases single
  | _ => rfl

end Typed

theorem Lowers.classed {c : Catalog} {clause : Clause} {e : Expr} {s s' : Scope} {t : Typed}
    (lowers : Lowers c clause e s t s') : t.Classed := by
  induction lowers with
  | @member _ _ _ _ column found => exact Typed.of_column_classed column
  | @field _ _ column found => exact Typed.of_column_classed column
  | constant written => exact Typed.constant_classed (.inr rfl) written
  | @nullRight _ op _ _ _ _ _ _ ih => exact Typed.null_test_classed op ih
  | @nullLeft op _ _ _ _ _ _ _ ih => exact Typed.null_test_classed op ih
  | @constantLeft value op right _ _ l r _ checked noNull other written typed ih =>
      obtain ⟨leftSingle, rightSingle⟩ := Expr.check_operands_single checked
      have leftClassed :=
        Typed.constant_classed (.inl (Typed.is_list_of_single leftSingle)) written
      refine Typed.binary_classed leftClassed ih ?_ typed
      intro o isComparison
      obtain ⟨leftNull, rightNull⟩ := Expr.comparison_not_null isComparison checked noNull
      obtain ⟨type, isType⟩ := other.typed_of_single rightSingle rightNull
      rw [isType] at written
      exact ⟨type, type, Typed.constant_typed written leftNull, isType⟩
  | @constantRight left op value _ _ l r _ checked noNull varies other written typed ih =>
      obtain ⟨_, rightSingle⟩ := Expr.check_operands_single checked
      have rightClassed :=
        Typed.constant_classed (.inl (Typed.is_list_of_single rightSingle)) written
      refine Typed.binary_classed ih rightClassed ?_ typed
      intro o isComparison
      obtain ⟨_, rightNull⟩ := Expr.comparison_not_null isComparison checked noNull
      obtain ⟨type, isType⟩ := other.typed_of_varies varies
      rw [isType] at written
      exact ⟨type, type, isType, Typed.constant_typed written rightNull⟩
  | binary leftVaries rightVaries first second typed firstIh secondIh =>
      refine Typed.binary_classed firstIh secondIh ?_ typed
      intro o _
      obtain ⟨a, leftType⟩ := first.typed_of_varies leftVaries
      obtain ⟨b, rightType⟩ := second.typed_of_varies rightVaries
      exact ⟨a, b, leftType, rightType⟩
  | not _ truth ih =>
      have isTruth := ih.type _ truth
      rw [truth]
      exact Typed.truth_classed (List.mem_singleton_self _)
        (all_checked_unary.mpr ⟨isTruth, ih.nodes⟩)
  | neg _ number ih =>
      refine ⟨?_, all_checked_unary.mpr ⟨ih.of_has_type number, ih.nodes⟩⟩
      intro type isType
      exact List.mem_singleton.mpr (Typed.class_of_has_type number isType)
  | aggregate _ _ _ typed ih => exact Typed.aggregate_classed ih typed
  | holdsConstant _ isList written ih =>
      obtain ⟨_, text, _, rfl⟩ := Typed.constant_ok written
      exact Typed.holds_classed ih isList (all_checked_literal text)
  | holds _ _ isList _ listIh needleIh => exact Typed.holds_classed listIh isList needleIh.nodes
  | pattern _ isText ih =>
      exact Typed.truth_classed (List.mem_singleton_self _)
        (all_checked_binary.mpr ⟨⟨ih.of_has_type isText, _, rfl⟩, ih.nodes, all_checked_literal _⟩)
  | membership inner checked written ih =>
      exact Typed.membership_classed ih inner.classless checked written
  | @textFunction _ f _ _ _ _ isText ih => exact Typed.text_function_classed f ih isText
  | @datePart _ p _ _ _ _ isTemporal ih => exact Typed.date_part_classed p ih isTemporal
  | countAll =>
      exact Typed.function_classed rfl trivial (List.mem_singleton_self _) (all_checked_literal "*")

/-- Whatever expression is accepted, its columns have the types that the catalog declares, the class
of its type is a class of its term, only `NULL` and enumerations have no type, and every node of the
term has operands of the classes that it takes. -/
theorem accepted_terms_agree_in_class {c : Catalog} {clause : Clause} {e : Expr} {s s' : Scope}
    {t : Typed} (accepted : (e.lower c clause).commit s = .ok (t, s')) :
    (∀ column ∈ t.term.columns, Located c s' column) ∧
      (∀ type, t.type = some type → type.typeClass ∈ t.term.classes) ∧
      (t.type = none → e = .constant .null ∨ ∃ items, e = .constant (.list items)) ∧
      ∀ node ∈ t.term.nodes, node.Checked := by
  have lowers := Expr.lowers_of_lower c clause e (Steps.commit_ok.mp accepted)
  exact ⟨formed_columns t.term lowers.formed, lowers.classed.type, lowers.untyped,
    lowers.classed.nodes⟩

theorem numbered_author_agrees_in_class :
    (Sample.numberedAuthor.lower Sample.catalog .condition).commit Sample.start.scope =
        .ok (.truth Sample.numberedAuthorTerm, Sample.pagesAndAuthors) ∧
      .boolean ∈ Sample.numberedAuthorTerm.classes ∧
      Checked (.binary (.literal "'7'") .eq (.column ⟨"T2", "name", .string⟩)) ∧
      Checked (.binary (.column ⟨"T1", "length", .integer⟩) .isIn (.literal "(3,NULL)")) := by
  have lowered :
      (Sample.numberedAuthor.lower Sample.catalog .condition).commit Sample.start.scope =
        .ok (.truth Sample.numberedAuthorTerm, Sample.pagesAndAuthors) := rfl
  obtain ⟨_, classed, _, checked⟩ := accepted_terms_agree_in_class lowered
  refine ⟨lowered, classed .boolean rfl, checked _ ?_, checked _ ?_⟩
  · simp [Typed.truth, Sample.numberedAuthorTerm, nodes, allNodes]
  · simp [Typed.truth, Sample.numberedAuthorTerm, nodes, allNodes]

end WikiQuery
