import WikiQuery.Lowering
import WikiQuery.Proofs.Agreement
import WikiQuery.Proofs.StringLiterals

/- Expressions with the contents of their texts taken away. An expression and its blank lower
   alike: to terms that differ inside string literals only, or to errors of one kind. -/
set_option autoImplicit false

namespace WikiQuery

open SqlText

mutual
def Value.blank : Value → Value
  | .text _ => .text ""
  | .list items => .list (blankAll items)
  | value => value

def Value.blankAll : List Value → List Value
  | [] => []
  | item :: rest => item.blank :: blankAll rest
end

mutual
def Expr.blank : Expr → Expr
  | .member table path => .member table path
  | .field name => .field name
  | .constant value => .constant value.blank
  | .binary left op right => .binary left.blank op right.blank
  | .unary op operand => .unary op operand.blank
  | .call receiver method args => .call receiver.blank method (blankAll args)
  | .free method args => .free method (blankAll args)
  | .conditional test whenTrue whenFalse =>
      .conditional test.blank whenTrue.blank whenFalse.blank

def Expr.blankAll : List Expr → List Expr
  | [] => []
  | arg :: rest => arg.blank :: blankAll rest
end

namespace Sql.Term

mutual
def blank : Term → Term
  | .source s => .source s
  | .column c => .column c
  | .binary l op r => .binary l.blank op r.blank
  | .unary op t => .unary op t.blank
  | .literal text => .literal (masked text)
  | .function name distinct args => .function name distinct (blankAll args)
  | .junction k ts => .junction k (blankAll ts)
  | .ordering t d => .ordering t.blank d

def blankAll : List Term → List Term
  | [] => []
  | t :: ts => t.blank :: blankAll ts
end

theorem blank_all_eq (ts : List Term) : blankAll ts = ts.map blank := by
  induction ts with
  | nil => rfl
  | cons t ts ih => simp [blankAll, ih]

mutual
theorem has_aggregate_blank : ∀ (t : Term), t.blank.hasAggregate = t.hasAggregate
  | .source _ => rfl
  | .column _ => rfl
  | .binary l _ r => by simp [blank, hasAggregate, has_aggregate_blank l, has_aggregate_blank r]
  | .unary _ t => by simp [blank, hasAggregate, has_aggregate_blank t]
  | .literal _ => rfl
  | .function _ _ args => by simp [blank, hasAggregate, any_aggregate_blank args]
  | .junction _ ts => by simp [blank, hasAggregate, any_aggregate_blank ts]
  | .ordering t _ => by simp [blank, hasAggregate, has_aggregate_blank t]

theorem any_aggregate_blank : ∀ (ts : List Term), anyAggregate (blankAll ts) = anyAggregate ts
  | [] => rfl
  | t :: ts => by simp [blankAll, anyAggregate, has_aggregate_blank t, any_aggregate_blank ts]
end

theorem chain_terms_blank (k : Connective) (t : Term) :
    Typed.chainTerms k t.blank = (Typed.chainTerms k t).map blank := by
  cases t with
  | junction d ts =>
      by_cases same : d = k
      · simp [blank, Typed.chainTerms, same, blank_all_eq]
      · simp [blank, Typed.chainTerms, same]
  | _ => rfl

end Sql.Term

namespace Value

theorem blank_all_eq (items : List Value) : blankAll items = items.map blank := by
  induction items with
  | nil => rfl
  | cons item rest ih => simp [blankAll, ih]

mutual
theorem fits_blank (declared : FieldType) :
    ∀ (value : Value), value.blank.fits declared = value.fits declared
  | .null => rfl
  | .bool _ => rfl
  | .int _ => rfl
  | .float _ => rfl
  | .text _ => rfl
  | .date _ => rfl
  | .moment _ => rfl
  | .list items => all_fit_blank declared items

theorem all_fit_blank (declared : FieldType) :
    ∀ (items : List Value), allFit declared (blankAll items) = allFit declared items
  | [] => rfl
  | item :: rest => by
      simp [blankAll, allFit, fits_blank declared item, all_fit_blank declared rest]
end

end Value

namespace Literal

theorem scalar_blank (declared : Option FieldType) (value : Value) :
    Agree LiteralError.kind SameMask (scalar declared value)
      (scalar declared value.blank) := by
  cases value with
  | text s =>
      refine .ok ?_
      rw [SameMask, masked_quote, masked_quote]
  | list items => exact .error rfl
  | null | bool | int | float | date | moment => exact .refl SameMask.refl _

theorem scalars_blank (declared : Option FieldType) (items : List Value) :
    Agree LiteralError.kind (fun a b => a.map masked = b.map masked) (scalars declared items)
      (scalars declared (Value.blankAll items)) := by
  induction items with
  | nil => exact .ok rfl
  | cons item rest ih =>
      refine (scalar_blank declared item).bind fun a b first => ?_
      refine ih.bind fun as bs later => ?_
      refine .ok ?_
      rw [List.map_cons, List.map_cons, first, later]

theorem enumeration_blank (declared : Option FieldType) (items : List Value) :
    Agree LiteralError.kind SameMask (enumeration declared items)
      (enumeration declared (Value.blankAll items)) := by
  cases items with
  | nil => exact .error rfl
  | cons item rest =>
      have texts := (scalars_blank (declared.map FieldType.element) (item :: rest)).with_ends
      refine texts.bind fun a b same => .ok ?_
      obtain ⟨left, right, same⟩ := same
      rw [SameMask, masked_enumeration (scalars_texts left).2,
        masked_enumeration (scalars_texts right).2, same]

theorem of_value_blank (declared : Option FieldType) (value : Value) :
    Agree LiteralError.kind SameMask (ofValue declared value)
      (ofValue declared value.blank) := by
  cases value with
  | list items => exact enumeration_blank declared items
  | text s => exact scalar_blank declared (.text s)
  | null | bool | int | float | date | moment => exact .refl SameMask.refl _

end Literal

namespace Typed

def Alike (t u : Typed) : Prop := t.type = u.type ∧ t.term.blank = u.term.blank

theorem Alike.refl (t : Typed) : t.Alike t := ⟨rfl, rfl⟩

theorem Alike.join {t u v : Typed} (first : t.Alike v) (second : u.Alike v) : t.Alike u :=
  ⟨first.1.trans second.1.symm, first.2.trans second.2.symm⟩

theorem literal_agree {α : Type} {related : α → α → Prop} {x y : Except LiteralError α}
    (agree : Agree LiteralError.kind related x y) :
    Agree QueryError.kind related (literal x) (literal y) := by
  cases agree with
  | ok same => exact .ok same
  | error same => exact .error same

theorem constant_type_blank (value : Value) (hint : Option FieldType) :
    constantType value.blank hint = constantType value hint := by
  cases hint <;> cases value <;> rfl

theorem constant_blank (e e' : Expr) (value : Value) (hint : Option FieldType) :
    Agree QueryError.kind Alike (constant e value hint) (constant e' value.blank hint) := by
  have written : Agree QueryError.kind Alike
      (literal (Literal.ofValue hint value) >>= fun text =>
        .ok ⟨.literal text, constantType value hint⟩)
      (literal (Literal.ofValue hint value.blank) >>= fun text =>
        .ok ⟨.literal text, constantType value.blank hint⟩) := by
    refine (literal_agree (Literal.of_value_blank hint value)).bind fun a b same => ?_
    refine .ok ⟨(constant_type_blank value hint).symm, ?_⟩
    simp only [Sql.Term.blank, show masked a = masked b from same]
  cases hint with
  | none => exact written
  | some declared =>
      by_cases fits : value.fits declared = true
      · have blankFits : value.blank.fits declared = true := by
          rw [Value.fits_blank]
          exact fits
        rw [constant, if_pos fits, constant, if_pos blankFits]
        exact written
      · have blankFits : ¬ value.blank.fits declared = true := by
          rw [Value.fits_blank]
          exact fits
        rw [constant, if_neg fits, constant, if_neg blankFits]
        exact .error rfl

theorem connective_alike {k : Connective} {op : BinaryOp} (left right left' right' : Expr)
    {l r l' r' : Typed} (first : Alike l l') (second : Alike r r') :
    Agree QueryError.kind Alike (connective k op left right l r)
      (connective k op left' right' l' r') := by
  rw [connective, connective, ← first.1, ← second.1]
  split
  · exact .error rfl
  · split
    · exact .error rfl
    · refine .ok ⟨rfl, ?_⟩
      have chains : (chainTerms k l.term ++ chainTerms k r.term).map Sql.Term.blank =
          (chainTerms k l'.term ++ chainTerms k r'.term).map Sql.Term.blank := by
        simp only [List.map_append, ← Sql.Term.chain_terms_blank, first.2, second.2]
      simp only [truth, Sql.Term.blank, Sql.Term.blank_all_eq, chains]

theorem arithmetic_alike (op : Sql.BinaryOp) (whole whole' : Expr) {l r l' r' : Typed}
    (first : Alike l l') (second : Alike r r') :
    Agree QueryError.kind Alike (arithmetic op whole l r) (arithmetic op whole' l' r') := by
  rw [arithmetic, arithmetic, ← first.1, ← second.1]
  split
  · split
    · exact .ok ⟨rfl, by simp only [Sql.Term.blank, first.2, second.2]⟩
    · exact .error rfl
  · exact .error rfl

theorem comparison_alike (op : Sql.BinaryOp) (whole whole' : Expr) {l r l' r' : Typed}
    (first : Alike l l') (second : Alike r r') :
    Agree QueryError.kind Alike (comparison op whole l r) (comparison op whole' l' r') := by
  have result : Alike (truth (.binary l.term op r.term)) (truth (.binary l'.term op r'.term)) :=
    ⟨rfl, by simp only [truth, Sql.Term.blank, first.2, second.2]⟩
  unfold comparison
  rw [← first.1, ← second.1]
  dsimp only
  split
  · split
    · exact .error rfl
    · split
      · exact .error rfl
      · exact .ok result
  · exact .ok result

theorem binary_alike (op : BinaryOp) (left right left' right' : Expr) {l r l' r' : Typed}
    (first : Alike l l') (second : Alike r r') :
    Agree QueryError.kind Alike (binary left op right l r) (binary left' op right' l' r') := by
  cases op with
  | and | or => exact connective_alike left right left' right' first second
  | add | sub | mul | div => exact arithmetic_alike _ _ _ first second
  | eq | ne | lt | le | gt | ge => exact comparison_alike _ _ _ first second

theorem null_test_alike (op : BinaryOp) {t u : Typed} (alike : Alike t u) :
    Alike (t.nullTest op) (u.nullTest op) := by
  have terms : ∀ test, (Sql.Term.unary test t.term).blank = (Sql.Term.unary test u.term).blank := by
    intro test
    simp only [Sql.Term.blank, alike.2]
  cases op <;> exact ⟨rfl, terms _⟩

theorem unary_alike (op : UnaryOp) (operand operand' : Expr) {t u : Typed} (alike : Alike t u) :
    Agree QueryError.kind Alike (unary op operand t) (unary op operand' u) := by
  have result : ∀ o, Alike ⟨.unary o t.term, t.type⟩ ⟨.unary o u.term, u.type⟩ :=
    fun o => ⟨alike.1, by simp only [Sql.Term.blank, alike.2]⟩
  cases op with
  | not =>
      by_cases isTruth : t.type = some .boolean
      · have isTruth' : u.type = some .boolean := alike.1 ▸ isTruth
        simp only [unary, if_pos isTruth, if_pos isTruth']
        exact .ok (result .not)
      · have noTruth : ¬ u.type = some .boolean := alike.1 ▸ isTruth
        simp only [unary, if_neg isTruth, if_neg noTruth]
        exact .error rfl
  | neg =>
      have same : u.hasType FieldType.isNumeric = t.hasType FieldType.isNumeric := by
        rw [hasType, hasType, alike.1]
      by_cases number : t.hasType FieldType.isNumeric = true
      · simp only [unary, same, if_pos number]
        exact .ok (result .neg)
      · simp only [unary, same, if_neg number]
        exact .error rfl

theorem holds_alike {list item list' item' : Typed} (first : Alike list list')
    (second : Alike item item') : Alike (holds list item) (holds list' item') :=
  ⟨rfl, by simp only [holds, truth, Sql.Term.blank, first.2, second.2]⟩

theorem pattern_alike (whole whole' arg : Expr) (p : PatternMethod) {t u : Typed}
    (alike : Alike t u) :
    Agree QueryError.kind Alike (pattern whole p t arg) (pattern whole' p u arg.blank) := by
  unfold pattern
  rw [hasType, hasType, ← alike.1]
  split
  · cases arg with
    | constant value =>
        cases value with
        | text text =>
            refine .ok ⟨rfl, ?_⟩
            simp only [truth, Sql.Term.blank, alike.2, masked_quote]
        | _ => exact .error rfl
    | _ => exact .error rfl
  · exact .error rfl

theorem check_items_blank (whole whole' : Expr) (items : List Value) (type : Option FieldType) :
    Agree QueryError.kind Eq (checkItems whole items type)
      (checkItems whole' (Value.blankAll items) type) := by
  cases type with
  | none => exact .ok rfl
  | some declared =>
      have search : (Value.blankAll items).find? (fun item => !item.fits declared) =
          (items.find? fun item => !item.fits declared).map Value.blank := by
        rw [Value.blank_all_eq, List.find?_map]
        congr 2
        funext item
        rw [Function.comp, Value.fits_blank]
      simp only [checkItems, search]
      split
      · exact .error rfl
      · cases items.find? fun item => !item.fits declared with
        | none => exact .ok rfl
        | some bad => exact .error rfl

theorem membership_alike (whole whole' : Expr) (negated : Bool) (items : List Value) {t u : Typed}
    (alike : Alike t u) :
    Agree QueryError.kind Alike (membership whole negated t items)
      (membership whole' negated u (Value.blankAll items)) := by
  rw [membership, membership, ← alike.1]
  refine (check_items_blank whole whole' items t.type).bind fun _ _ _ => ?_
  have written := Literal.enumeration_blank t.type items
  generalize Literal.enumeration t.type items = x at written
  generalize Literal.enumeration t.type (Value.blankAll items) = y at written
  cases written with
  | ok same =>
      refine .ok ⟨rfl, ?_⟩
      have literals : masked _ = masked _ := same
      simp only [truth, Sql.Term.blank, alike.2, literals]
  | @error e e' same => cases e <;> cases e' <;> exact .error same

theorem text_function_alike (whole whole' : Expr) (f : TextFunction) {t u : Typed}
    (alike : Alike t u) :
    Agree QueryError.kind Alike (textFunction whole f t) (textFunction whole' f u) := by
  rw [textFunction, textFunction, hasType, hasType, ← alike.1]
  split
  · exact .ok ⟨rfl, by simp only [Sql.Term.blank, Sql.Term.blankAll, alike.2]⟩
  · exact .error rfl

theorem date_part_alike (whole whole' : Expr) (p : DatePart) {t u : Typed} (alike : Alike t u) :
    Agree QueryError.kind Alike (datePart whole p t) (datePart whole' p u) := by
  rw [datePart, datePart, hasType, hasType, ← alike.1]
  split
  · exact .ok ⟨rfl, by simp only [Sql.Term.blank, Sql.Term.blankAll, alike.2]⟩
  · exact .error rfl

theorem aggregate_alike (whole whole' : Expr) (a : Aggregate) {t u : Typed} (alike : Alike t u) :
    Agree QueryError.kind Alike (aggregate whole a t) (aggregate whole' a u) := by
  rw [aggregate, aggregate, ← alike.1, ← Sql.Term.has_aggregate_blank t.term, alike.2,
    Sql.Term.has_aggregate_blank]
  split
  · exact .error rfl
  · split
    · refine .ok ⟨rfl, ?_⟩
      simp only [aggregateTerm, Sql.Term.blank, Sql.Term.blankAll, alike.2]
    · exact .error rfl

theorem check_aggregate_blank (clause : Clause) (whole whole' : Expr) (args : List Expr) :
    Agree QueryError.kind Eq (checkAggregate clause whole args)
      (checkAggregate clause whole' (Expr.blankAll args)) := by
  have size : (Expr.blankAll args).isEmpty = args.isEmpty := by cases args <;> rfl
  rw [checkAggregate, checkAggregate, size]
  split
  · exact .error rfl
  · split
    · exact .error rfl
    · exact .ok rfl

theorem free_blank (clause : Clause) (method : Method) (args : List Expr) :
    Agree QueryError.kind Alike (free clause method args)
      (free clause method (Expr.blankAll args)) := by
  cases method with
  | aggregate a =>
      refine (check_aggregate_blank clause _ _ args).bind fun _ _ _ => ?_
      cases a with
      | count => exact .ok ⟨rfl, rfl⟩
      | _ => exact .error rfl
  | _ => exact .error rfl

end Typed

namespace Expr

theorem constant?_blank (e : Expr) : e.blank.constant? = e.constant?.map Value.blank := by
  cases e <;> rfl

theorem is_null_constant_blank (e : Expr) : e.blank.isNullConstant = e.isNullConstant := by
  cases e with
  | constant value => cases value <;> rfl
  | _ => rfl

theorem list_constant?_blank (e : Expr) :
    e.blank.listConstant? = e.listConstant?.map Value.blankAll := by
  cases e with
  | constant value => cases value <;> rfl
  | _ => rfl

theorem null_side?_blank (left : Expr) (op : BinaryOp) (right : Expr) :
    nullSide? left.blank op right.blank = nullSide? left op right := by
  simp only [nullSide?, is_null_constant_blank]

theorem check_operands_blank (left : Expr) (op : BinaryOp) (right : Expr) :
    Agree QueryError.kind Eq (Typed.checkOperands left op right)
      (Typed.checkOperands left.blank op right.blank) := by
  simp only [Typed.checkOperands, list_constant?_blank, is_null_constant_blank]
  cases left.listConstant? with
  | some items => exact .error rfl
  | none =>
      cases right.listConstant? with
      | some items => exact .error rfl
      | none =>
          dsimp only [Option.map_none]
          split
          · exact .error rfl
          · split
            · exact .error rfl
            · split
              · exact .error rfl
              · exact .ok rfl

theorem operand_alike (e : Expr) {hint hint' : Option FieldType} {x y : Scoped Typed}
    (hints : hint = hint') (agree : Scoped.Agree Typed.Alike x y) :
    Scoped.Agree Typed.Alike (operand e hint x) (operand e.blank hint' y) := by
  subst hints
  rw [operand, operand, constant?_blank]
  cases e.constant? with
  | none => exact agree
  | some value => exact .of_except (Typed.constant_blank e e.blank value hint)

theorem binary_blank {c : Catalog} {clause : Clause} {left right : Expr} (op : BinaryOp)
    (leftAlike : Scoped.Agree Typed.Alike (left.lower c clause) (left.blank.lower c clause))
    (rightAlike : Scoped.Agree Typed.Alike (right.lower c clause) (right.blank.lower c clause)) :
    Scoped.Agree Typed.Alike ((binary left op right).lower c clause)
      ((binary left op right).blank.lower c clause) := by
  rw [blank, lower, lower, null_side?_blank, constant?_blank]
  refine (Scoped.Agree.of_except (check_operands_blank left op right)).bind fun _ _ _ => ?_
  split
  · refine leftAlike.bind fun t u alike => ?_
    exact .pure (Typed.null_test_alike op alike)
  · refine rightAlike.bind fun t u alike => ?_
    exact .pure (Typed.null_test_alike op alike)
  · cases left.constant? with
    | some value =>
        refine rightAlike.bind fun r r' second => ?_
        rw [← second.1]
        have written := Typed.constant_blank left left.blank value r.type
        refine (Scoped.Agree.of_except written).bind fun l l' first => ?_
        exact .of_except (Typed.binary_alike op _ _ _ _ first second)
    | none =>
        refine leftAlike.bind fun l l' first => ?_
        refine (operand_alike right first.1 rightAlike).bind fun r r' second => ?_
        exact .of_except (Typed.binary_alike op _ _ _ _ first second)

theorem lower_blank (c : Catalog) (clause : Clause) :
    ∀ (e : Expr), Scoped.Agree Typed.Alike (e.lower c clause) (e.blank.lower c clause)
  | .member table path => .refl Typed.Alike.refl _
  | .field name => .refl Typed.Alike.refl _
  | .constant value => by
      rw [blank, lower, lower]
      exact .of_except (Typed.constant_blank _ _ value none)
  | .binary left op right =>
      binary_blank op (lower_blank c clause left) (lower_blank c clause right)
  | .unary op operand => by
      rw [blank, lower, lower]
      refine (lower_blank c clause operand).bind fun t u alike => ?_
      exact .of_except (Typed.unary_alike op _ _ alike)
  | .call receiver (.aggregate a) args => by
      rw [blank, lower, lower]
      refine (Scoped.Agree.of_except (Typed.check_aggregate_blank clause _ _ args)).bind
        fun _ _ _ => ?_
      refine (lower_blank c clause receiver).bind fun t u alike => ?_
      exact .of_except (Typed.aggregate_alike _ _ a alike)
  | .call receiver (.other name) args => by
      rw [blank, lower, lower]
      exact .throw rfl
  | .call receiver (.pattern p) [arg] => by
      rw [blank, lower, blankAll, blankAll, lower]
      refine (lower_blank c clause receiver).bind fun t u alike => ?_
      rw [← alike.1]
      split
      · refine (operand_alike arg rfl (lower_blank c clause arg)).bind fun _ _ second => ?_
        exact .pure (Typed.holds_alike alike second)
      · exact .of_except (Typed.pattern_alike _ _ arg _ alike)
  | .call receiver (.pattern p) [] => by
      rw [blank, lower, blankAll, lower]
      · exact .throw rfl
      all_goals simp
  | .call receiver (.pattern p) (_ :: _ :: _) => by
      rw [blank, lower, blankAll, blankAll, lower]
      · exact .throw rfl
      all_goals simp
  | .call receiver (.membership negated) [arg] => by
      rw [blank, lower, blankAll, blankAll, lower, list_constant?_blank]
      cases arg.listConstant? with
      | none => exact .throw rfl
      | some items =>
          refine (lower_blank c clause receiver).bind fun t u alike => ?_
          exact .of_except (Typed.membership_alike _ _ negated items alike)
  | .call receiver (.membership negated) [] => by
      rw [blank, lower, blankAll, lower]
      · exact .throw rfl
      all_goals simp
  | .call receiver (.membership negated) (_ :: _ :: _) => by
      rw [blank, lower, blankAll, blankAll, lower]
      · exact .throw rfl
      all_goals simp
  | .call receiver (.textFunction f) [] => by
      rw [blank, lower, blankAll, lower]
      refine (lower_blank c clause receiver).bind fun t u alike => ?_
      exact .of_except (Typed.text_function_alike _ _ f alike)
  | .call receiver (.textFunction f) (_ :: _) => by
      rw [blank, lower, blankAll, lower]
      · exact .throw rfl
      all_goals simp
  | .call receiver (.datePart p) [] => by
      rw [blank, lower, blankAll, lower]
      refine (lower_blank c clause receiver).bind fun t u alike => ?_
      exact .of_except (Typed.date_part_alike _ _ p alike)
  | .call receiver (.datePart p) (_ :: _) => by
      rw [blank, lower, blankAll, lower]
      · exact .throw rfl
      all_goals simp
  | .free method args => by
      rw [blank, lower, lower]
      exact .of_except (Typed.free_blank clause method args)
  | .conditional test whenTrue whenFalse => by
      rw [blank, lower, lower]
      exact .throw rfl

end Expr

end WikiQuery
