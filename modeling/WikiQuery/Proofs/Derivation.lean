import WikiQuery.Lowering
import WikiQuery.Proofs.TypingRules

/- Derivations of accepted expressions. Every way in which lowering can end well is one rule of
   `Lowers`, so that facts about accepted expressions go by induction on a derivation. -/
set_option autoImplicit false

namespace WikiQuery

-- `Lowers c clause e s t s'`: from scope `s`, the expression becomes `t` and leaves scope `s'`.
inductive Lowers (c : Catalog) (clause : Clause) : Expr → Scope → Typed → Scope → Prop where
  | member {table : TableRef} {path : List String} {s s' : Scope} {column : Column}
      (found : (Navigation.member c table path).outcome s = (.ok column, s')) :
      Lowers c clause (.member table path) s (Typed.ofColumn column) s'
  | field {name : String} {s : Scope} {column : Column}
      (found : Navigation.unqualified c s name = .ok column) :
      Lowers c clause (.field name) s (Typed.ofColumn column) s
  | constant {value : Value} {s : Scope} {t : Typed}
      (written : Typed.constant (.constant value) value none = .ok t) :
      Lowers c clause (.constant value) s t s
  | nullRight {left : Expr} {op : BinaryOp} {s s' : Scope} {t : Typed}
      (checked : Typed.checkOperands left op (.constant .null) = .ok ())
      (equality : op.isEquality = true) (operand : Lowers c clause left s t s') :
      Lowers c clause (.binary left op (.constant .null)) s (t.nullTest op) s'
  | nullLeft {op : BinaryOp} {right : Expr} {s s' : Scope} {t : Typed}
      (checked : Typed.checkOperands (.constant .null) op right = .ok ())
      (equality : op.isEquality = true) (operand : Lowers c clause right s t s') :
      Lowers c clause (.binary (.constant .null) op right) s (t.nullTest op) s'
  | constantLeft {value : Value} {op : BinaryOp} {right : Expr} {s s' : Scope} {l r t : Typed}
      (checked : Typed.checkOperands (.constant value) op right = .ok ())
      (noNull : Expr.nullSide? (.constant value) op right = none)
      (other : Lowers c clause right s r s')
      (written : Typed.constant (.constant value) value r.type = .ok l)
      (typed : Typed.binary (.constant value) op right l r = .ok t) :
      Lowers c clause (.binary (.constant value) op right) s t s'
  | constantRight {left : Expr} {op : BinaryOp} {value : Value} {s s' : Scope} {l r t : Typed}
      (checked : Typed.checkOperands left op (.constant value) = .ok ())
      (noNull : Expr.nullSide? left op (.constant value) = none)
      (varies : left.constant? = none) (other : Lowers c clause left s l s')
      (written : Typed.constant (.constant value) value l.type = .ok r)
      (typed : Typed.binary left op (.constant value) l r = .ok t) :
      Lowers c clause (.binary left op (.constant value)) s t s'
  | binary {left right : Expr} {op : BinaryOp} {s m s' : Scope} {l r t : Typed}
      (leftVaries : left.constant? = none) (rightVaries : right.constant? = none)
      (first : Lowers c clause left s l m) (second : Lowers c clause right m r s')
      (typed : Typed.binary left op right l r = .ok t) :
      Lowers c clause (.binary left op right) s t s'
  | not {operand : Expr} {s s' : Scope} {t : Typed} (inner : Lowers c clause operand s t s')
      (truth : t.type = some .boolean) :
      Lowers c clause (.unary .not operand) s ⟨.unary .not t.term, t.type⟩ s'
  | neg {operand : Expr} {s s' : Scope} {t : Typed} (inner : Lowers c clause operand s t s')
      (number : t.hasType FieldType.isNumeric = true) :
      Lowers c clause (.unary .neg operand) s ⟨.unary .neg t.term, t.type⟩ s'
  | aggregate {receiver : Expr} {a : Aggregate} {s s' : Scope} {subject : Typed} {type : FieldType}
      (allowed : clause.allowsAggregates = true) (inner : Lowers c clause receiver s subject s')
      (flat : subject.term.hasAggregate = false)
      (typed : Typed.aggregateType? a subject.type = some type) :
      Lowers c clause (.call receiver (.aggregate a) []) s
        ⟨Typed.aggregateTerm a subject.term, some type⟩ s'
  | holdsConstant {receiver : Expr} {value : Value} {item : FieldType} {s s' : Scope}
      {list needle : Typed} (inner : Lowers c clause receiver s list s')
      (isList : list.type = some (.list item))
      (written : Typed.constant (.constant value) value (some item) = .ok needle) :
      Lowers c clause (.call receiver (.pattern .contains) [.constant value]) s
        (Typed.holds list needle) s'
  | holds {receiver arg : Expr} {item : FieldType} {s m s' : Scope} {list needle : Typed}
      (varies : arg.constant? = none) (inner : Lowers c clause receiver s list m)
      (isList : list.type = some (.list item)) (sought : Lowers c clause arg m needle s') :
      Lowers c clause (.call receiver (.pattern .contains) [arg]) s (Typed.holds list needle) s'
  | pattern {receiver : Expr} {p : PatternMethod} {text : String} {s s' : Scope} {subject : Typed}
      (inner : Lowers c clause receiver s subject s')
      (isText : subject.hasType FieldType.isText = true) :
      Lowers c clause (.call receiver (.pattern p) [.constant (.text text)]) s
        (Typed.truth (.binary subject.term .like
          (.literal (Literal.quote (Typed.patternText p text))))) s'
  | membership {receiver : Expr} {negated : Bool} {items : List Value} {text : String}
      {s s' : Scope} {subject : Typed} (inner : Lowers c clause receiver s subject s')
      (checked : Typed.checkItems (.call receiver (.membership negated) [.constant (.list items)])
        items subject.type = .ok ())
      (written : Literal.enumeration subject.type items = .ok text) :
      Lowers c clause (.call receiver (.membership negated) [.constant (.list items)]) s
        (Typed.truth (.binary subject.term (if negated then .notIn else .isIn) (.literal text))) s'
  | textFunction {receiver : Expr} {f : TextFunction} {s s' : Scope} {subject : Typed}
      (inner : Lowers c clause receiver s subject s')
      (isText : subject.hasType FieldType.isText = true) :
      Lowers c clause (.call receiver (.textFunction f) []) s
        ⟨.function (Typed.textFunctionName f) false [subject.term],
          some (Typed.textFunctionType f)⟩ s'
  | datePart {receiver : Expr} {p : DatePart} {s s' : Scope} {subject : Typed}
      (inner : Lowers c clause receiver s subject s')
      (isTemporal : subject.hasType FieldType.isTemporal = true) :
      Lowers c clause (.call receiver (.datePart p) []) s
        ⟨.function (Typed.datePartName p) false [subject.term], some .integer⟩ s'
  | countAll {s : Scope} (allowed : clause.allowsAggregates = true) :
      Lowers c clause .countAll s
        ⟨Typed.aggregateTerm .count (.literal "*"), some .integer⟩ s

namespace Expr

theorem constant_of_constant? {e : Expr} {value : Value} (same : e.constant? = some value) :
    e = .constant value := by
  cases e <;> simp_all [constant?]

theorem constant_of_is_null_constant {e : Expr} (null : e.isNullConstant = true) :
    e = .constant .null := by
  unfold isNullConstant at null
  split at null
  · rfl
  · cases null

theorem constant_of_list_constant? {e : Expr} {items : List Value}
    (same : e.listConstant? = some items) : e = .constant (.list items) := by
  unfold listConstant? at same
  split at same
  · cases same
    rfl
  · cases same

theorem operand_ends {e : Expr} {hint : Option FieldType} {lowered : Scoped Typed} {s s' : Scope}
    {t : Typed} (ends : (operand e hint lowered).outcome s = (.ok t, s')) :
    (∃ value, e = .constant value ∧ Typed.constant e value hint = .ok t ∧ s' = s) ∨
      (e.constant? = none ∧ lowered.outcome s = (.ok t, s')) := by
  rw [operand] at ends
  split at ends
  next value isConstant =>
    obtain ⟨written, same⟩ := Steps.of_except_ends.mp ends
    exact .inl ⟨value, constant_of_constant? isConstant, written, same⟩
  next varies => exact .inr ⟨varies, ends⟩

theorem null_side_right {left right : Expr} {op : BinaryOp}
    (side : nullSide? left op right = some .right) :
    op.isEquality = true ∧ right = .constant .null := by
  rw [nullSide?] at side
  split at side
  · cases side
  next equality =>
    split at side
    next null => exact ⟨by simpa using equality, constant_of_is_null_constant null⟩
    next => split at side <;> cases side

theorem null_side_left {left right : Expr} {op : BinaryOp}
    (side : nullSide? left op right = some .left) :
    op.isEquality = true ∧ left = .constant .null := by
  rw [nullSide?] at side
  split at side
  · cases side
  next equality =>
    split at side
    · cases side
    next =>
      split at side
      next null => exact ⟨by simpa using equality, constant_of_is_null_constant null⟩
      next => cases side

theorem is_null_constant_of_varies {e : Expr} (varies : e.constant? = none) :
    e.isNullConstant = false := by
  cases e with
  | constant value => cases varies
  | _ => rfl

theorem right_not_null {op : BinaryOp} {right : Expr} (equality : op.isEquality = true)
    (checked : Typed.checkOperands (.constant .null) op right = .ok ()) :
    right.isNullConstant = false := by
  cases null : right.isNullConstant with
  | false => rfl
  | true =>
      obtain rfl := constant_of_is_null_constant null
      cases op <;> cases equality <;> cases checked

theorem list_constant?_of_varies {e : Expr} (varies : e.constant? = none) :
    e.listConstant? = none := by
  cases e with
  | constant value => cases varies
  | _ => rfl

theorem check_operands_of_varies {left right : Expr} (op : BinaryOp)
    (leftVaries : left.constant? = none) (rightVaries : right.constant? = none) :
    Typed.checkOperands left op right = .ok () := by
  simp [Typed.checkOperands, list_constant?_of_varies leftVaries,
    list_constant?_of_varies rightVaries, is_null_constant_of_varies leftVaries,
    is_null_constant_of_varies rightVaries]

theorem null_side?_of_varies {left right : Expr} (op : BinaryOp)
    (leftVaries : left.constant? = none) (rightVaries : right.constant? = none) :
    nullSide? left op right = none := by
  simp [nullSide?, is_null_constant_of_varies leftVaries, is_null_constant_of_varies rightVaries]

section Derivations

variable {c : Catalog} {clause : Clause}

def Derivable (c : Catalog) (clause : Clause) (e : Expr) : Prop :=
  ∀ ⦃s s' : Scope⦄ ⦃t : Typed⦄, (e.lower c clause).outcome s = (.ok t, s') →
    Lowers c clause e s t s'

theorem derivable_binary {left right : Expr} (op : BinaryOp) (leftLowers : Derivable c clause left)
    (rightLowers : Derivable c clause right) : Derivable c clause (.binary left op right) := by
  intro s s' t ends
  rw [lower, Steps.of_except_bind_ends] at ends
  obtain ⟨⟨⟩, checked, ends⟩ := ends
  split at ends
  next side =>
    obtain ⟨equality, rfl⟩ := null_side_right side
    obtain ⟨inner, m, lowered, rest⟩ := Steps.bind_ends.mp ends
    obtain ⟨rfl, rfl⟩ := Steps.pure_ends.mp rest
    exact .nullRight checked equality (leftLowers lowered)
  next side =>
    obtain ⟨equality, rfl⟩ := null_side_left side
    obtain ⟨inner, m, lowered, rest⟩ := Steps.bind_ends.mp ends
    obtain ⟨rfl, rfl⟩ := Steps.pure_ends.mp rest
    exact .nullLeft checked equality (rightLowers lowered)
  next noNull =>
    split at ends
    next value isConstant =>
      obtain rfl := constant_of_constant? isConstant
      obtain ⟨r, m, lowered, rest⟩ := Steps.bind_ends.mp ends
      obtain ⟨l, written, rest⟩ := Steps.of_except_bind_ends.mp rest
      obtain ⟨typed, rfl⟩ := Steps.of_except_ends.mp rest
      exact .constantLeft checked noNull (rightLowers lowered) written typed
    next varies =>
      obtain ⟨l, m, lowered, rest⟩ := Steps.bind_ends.mp ends
      obtain ⟨r, m', operandEnds, rest⟩ := Steps.bind_ends.mp rest
      obtain ⟨typed, rfl⟩ := Steps.of_except_ends.mp rest
      have first := leftLowers lowered
      rcases operand_ends operandEnds with ⟨value, rfl, written, rfl⟩ | ⟨rightVaries, second⟩
      · exact .constantRight checked noNull varies first written typed
      · exact .binary varies rightVaries first (rightLowers second) typed

theorem derivable_aggregate {receiver : Expr} (a : Aggregate) (args : List Expr)
    (lowers : Derivable c clause receiver) :
    Derivable c clause (.call receiver (.aggregate a) args) := by
  intro s s' t ends
  rw [lower, Steps.of_except_bind_ends] at ends
  obtain ⟨⟨⟩, checked, rest⟩ := ends
  obtain ⟨allowed, rfl⟩ := Typed.check_aggregate_ok checked
  obtain ⟨subject, m, lowered, rest⟩ := Steps.bind_ends.mp rest
  obtain ⟨typed, rfl⟩ := Steps.of_except_ends.mp rest
  obtain ⟨flat, type, known, rfl⟩ := Typed.aggregate_ok typed
  exact .aggregate allowed (lowers lowered) flat known

theorem derivable_pattern {receiver arg : Expr} (p : PatternMethod)
    (lowers : Derivable c clause receiver) (argLowers : Derivable c clause arg) :
    Derivable c clause (.call receiver (.pattern p) [arg]) := by
  intro s s' t ends
  rw [lower, Steps.bind_ends] at ends
  obtain ⟨subject, m, lowered, rest⟩ := ends
  have inner := lowers lowered
  split at rest
  next item isList =>
    obtain ⟨needle, m', operandEnds, rest⟩ := Steps.bind_ends.mp rest
    obtain ⟨rfl, rfl⟩ := Steps.pure_ends.mp rest
    rcases operand_ends operandEnds with ⟨value, rfl, written, rfl⟩ | ⟨varies, sought⟩
    · exact .holdsConstant inner isList written
    · exact .holds varies inner isList (argLowers sought)
  next =>
    obtain ⟨typed, rfl⟩ := Steps.of_except_ends.mp rest
    obtain ⟨isText, text, rfl, rfl⟩ := Typed.pattern_ok typed
    exact .pattern inner isText

theorem derivable_membership {receiver : Expr} (negated : Bool) (arg : Expr)
    (lowers : Derivable c clause receiver) :
    Derivable c clause (.call receiver (.membership negated) [arg]) := by
  intro s s' t ends
  rw [lower] at ends
  split at ends
  next items isList =>
    obtain rfl := constant_of_list_constant? isList
    obtain ⟨subject, m, lowered, rest⟩ := Steps.bind_ends.mp ends
    obtain ⟨typed, rfl⟩ := Steps.of_except_ends.mp rest
    obtain ⟨checked, text, written, rfl⟩ := Typed.membership_ok typed
    exact .membership (lowers lowered) checked written
  next => exact absurd ends Steps.throw_ends

end Derivations

theorem lowers_of_lower (c : Catalog) (clause : Clause) : ∀ (e : Expr) {s s' : Scope} {t : Typed},
    (e.lower c clause).outcome s = (.ok t, s') → Lowers c clause e s t s'
  | .member table path, s, s', t, ends => by
      rw [lower, Steps.bind_ends] at ends
      obtain ⟨column, m, found, rest⟩ := ends
      obtain ⟨rfl, rfl⟩ := Steps.pure_ends.mp rest
      exact .member found
  | .field name, s, s', t, ends => by
      rw [lower, Steps.get_bind_outcome, Steps.of_except_bind_ends] at ends
      obtain ⟨column, found, rest⟩ := ends
      obtain ⟨rfl, rfl⟩ := Steps.pure_ends.mp rest
      exact .field found
  | .constant value, s, s', t, ends => by
      rw [lower] at ends
      obtain ⟨written, rfl⟩ := Steps.of_except_ends.mp ends
      exact .constant written
  | .binary left op right, _, _, _, ends =>
      derivable_binary op (fun _ _ _ => lowers_of_lower c clause left)
        (fun _ _ _ => lowers_of_lower c clause right) ends
  | .unary op operand, s, s', t, ends => by
      rw [lower, Steps.bind_ends] at ends
      obtain ⟨inner, m, lowered, rest⟩ := ends
      obtain ⟨typed, rfl⟩ := Steps.of_except_ends.mp rest
      have operandLowers := lowers_of_lower c clause operand lowered
      rcases Typed.unary_ok typed with ⟨rfl, truth, rfl⟩ | ⟨rfl, number, rfl⟩
      · exact .not operandLowers truth
      · exact .neg operandLowers number
  | .call receiver (.aggregate a) args, _, _, _, ends =>
      derivable_aggregate a args (fun _ _ _ => lowers_of_lower c clause receiver) ends
  | .call receiver (.other name) args, s, s', t, ends => by
      rw [lower] at ends
      exact absurd ends Steps.throw_ends
  | .call receiver (.pattern p) [arg], _, _, _, ends =>
      derivable_pattern p (fun _ _ _ => lowers_of_lower c clause receiver)
        (fun _ _ _ => lowers_of_lower c clause arg) ends
  | .call receiver (.pattern p) [], s, s', t, ends => by
      rw [lower] at ends
      · exact absurd ends Steps.throw_ends
      · simp
  | .call receiver (.pattern p) (_ :: _ :: _), s, s', t, ends => by
      rw [lower] at ends
      · exact absurd ends Steps.throw_ends
      · simp
  | .call receiver (.membership negated) [arg], _, _, _, ends =>
      derivable_membership negated arg (fun _ _ _ => lowers_of_lower c clause receiver) ends
  | .call receiver (.membership negated) [], s, s', t, ends => by
      rw [lower] at ends
      · exact absurd ends Steps.throw_ends
      · simp
  | .call receiver (.membership negated) (_ :: _ :: _), s, s', t, ends => by
      rw [lower] at ends
      · exact absurd ends Steps.throw_ends
      · simp
  | .call receiver (.textFunction f) [], s, s', t, ends => by
      rw [lower, Steps.bind_ends] at ends
      obtain ⟨subject, m, lowered, rest⟩ := ends
      obtain ⟨typed, rfl⟩ := Steps.of_except_ends.mp rest
      obtain ⟨isText, rfl⟩ := Typed.text_function_ok typed
      exact .textFunction (lowers_of_lower c clause receiver lowered) isText
  | .call receiver (.textFunction f) (_ :: _), s, s', t, ends => by
      rw [lower] at ends
      · exact absurd ends Steps.throw_ends
      · simp
  | .call receiver (.datePart p) [], s, s', t, ends => by
      rw [lower, Steps.bind_ends] at ends
      obtain ⟨subject, m, lowered, rest⟩ := ends
      obtain ⟨typed, rfl⟩ := Steps.of_except_ends.mp rest
      obtain ⟨isTemporal, rfl⟩ := Typed.date_part_ok typed
      exact .datePart (lowers_of_lower c clause receiver lowered) isTemporal
  | .call receiver (.datePart p) (_ :: _), s, s', t, ends => by
      rw [lower] at ends
      · exact absurd ends Steps.throw_ends
      · simp
  | .free method args, s, s', t, ends => by
      rw [lower] at ends
      obtain ⟨typed, rfl⟩ := Steps.of_except_ends.mp ends
      obtain ⟨allowed, rfl, rfl, rfl⟩ := Typed.free_ok typed
      exact .countAll allowed
  | .conditional test whenTrue whenFalse, s, s', t, ends => by
      rw [lower] at ends
      exact absurd ends Steps.throw_ends

section Runs

variable {c : Catalog} {clause : Clause}

theorem lower_pattern {receiver : Expr} {s s' : Scope}
    {subject : Typed} (lowered : (receiver.lower c clause).outcome s = (.ok subject, s'))
    (isText : subject.hasType FieldType.isText = true) (p : PatternMethod) (text : String) :
    ((Expr.call receiver (.pattern p) [.constant (.text text)]).lower c clause).outcome s =
      (.ok (.truth (.binary subject.term .like
        (.literal (Literal.quote (Typed.patternText p text))))), s') := by
  rw [lower, Steps.bind_ends]
  refine ⟨subject, s', lowered, ?_⟩
  split
  next item isList =>
    rw [Typed.hasType, isList] at isText
    cases isText
  next => exact Steps.of_except_ends.mpr ⟨by rw [Typed.pattern, if_pos isText], rfl⟩

theorem lower_binary {left right : Expr} {op : BinaryOp} {s m s' : Scope} {l r t : Typed}
    (leftVaries : left.constant? = none) (rightVaries : right.constant? = none)
    (first : (left.lower c clause).outcome s = (.ok l, m))
    (second : (right.lower c clause).outcome m = (.ok r, s'))
    (typed : Typed.binary left op right l r = .ok t) :
    ((Expr.binary left op right).lower c clause).outcome s = (.ok t, s') := by
  rw [lower, Steps.of_except_bind_ends]
  refine ⟨(), check_operands_of_varies op leftVaries rightVaries, ?_⟩
  rw [null_side?_of_varies op leftVaries rightVaries, leftVaries]
  refine Steps.bind_ends.mpr ⟨l, m, first, Steps.bind_ends.mpr ⟨r, s', ?_, ?_⟩⟩
  · rw [operand, rightVaries]
    exact second
  · exact Steps.of_except_ends.mpr ⟨typed, rfl⟩

end Runs

end Expr

theorem Lowers.ends {c : Catalog} {clause : Clause} {e : Expr} {s s' : Scope} {t : Typed}
    (lowers : Lowers c clause e s t s') : (e.lower c clause).outcome s = (.ok t, s') := by
  induction lowers with
  | member found =>
      rw [Expr.lower]
      exact Steps.bind_ends.mpr ⟨_, _, found, rfl⟩
  | field found =>
      rw [Expr.lower, Steps.get_bind_outcome]
      exact Steps.of_except_bind_ends.mpr ⟨_, found, rfl⟩
  | constant written =>
      rw [Expr.lower]
      exact Steps.of_except_ends.mpr ⟨written, rfl⟩
  | @nullRight left op s s' t checked equality _ ih =>
      have side : Expr.nullSide? left op (.constant .null) = some .right := by
        simp [Expr.nullSide?, equality, Expr.isNullConstant]
      rw [Expr.lower, Steps.of_except_bind_ends]
      refine ⟨(), checked, ?_⟩
      rw [side]
      exact Steps.bind_ends.mpr ⟨t, s', ih, rfl⟩
  | @nullLeft op right s s' t checked equality _ ih =>
      have other := Expr.right_not_null equality checked
      have side : Expr.nullSide? (.constant .null) op right = some .left := by
        rw [Expr.nullSide?, if_neg (by simp [equality]), if_neg (by simp [other])]
        rfl
      rw [Expr.lower, Steps.of_except_bind_ends]
      refine ⟨(), checked, ?_⟩
      rw [side]
      exact Steps.bind_ends.mpr ⟨t, s', ih, rfl⟩
  | @constantLeft value op right s s' l r t checked noNull _ written typed ih =>
      rw [Expr.lower, Steps.of_except_bind_ends]
      refine ⟨(), checked, ?_⟩
      rw [noNull]
      exact Steps.bind_ends.mpr ⟨r, s', ih, Steps.of_except_bind_ends.mpr ⟨l, written,
        Steps.of_except_ends.mpr ⟨typed, rfl⟩⟩⟩
  | @constantRight left op value s s' l r t checked noNull varies _ written typed ih =>
      rw [Expr.lower, Steps.of_except_bind_ends]
      refine ⟨(), checked, ?_⟩
      rw [noNull, varies]
      exact Steps.bind_ends.mpr ⟨l, s', ih, Steps.of_except_bind_ends.mpr ⟨r, written,
        Steps.of_except_ends.mpr ⟨typed, rfl⟩⟩⟩
  | binary leftVaries rightVaries _ _ typed first second =>
      exact Expr.lower_binary leftVaries rightVaries first second typed
  | not _ truth ih =>
      rw [Expr.lower]
      exact Steps.bind_ends.mpr ⟨_, _, ih, Steps.of_except_ends.mpr ⟨if_pos truth, rfl⟩⟩
  | neg _ number ih =>
      rw [Expr.lower]
      exact Steps.bind_ends.mpr ⟨_, _, ih, Steps.of_except_ends.mpr ⟨if_pos number, rfl⟩⟩
  | aggregate allowed _ flat typed ih =>
      rw [Expr.lower, Steps.of_except_bind_ends]
      refine ⟨(), by simp [Typed.checkAggregate, allowed], Steps.bind_ends.mpr ⟨_, _, ih, ?_⟩⟩
      exact Steps.of_except_ends.mpr ⟨by simp [Typed.aggregate, flat, typed], rfl⟩
  | holdsConstant _ isList written ih =>
      rw [Expr.lower]
      refine Steps.bind_ends.mpr ⟨_, _, ih, ?_⟩
      rw [isList]
      exact Steps.of_except_bind_ends.mpr ⟨_, written, rfl⟩
  | holds varies _ isList _ listIh needleIh =>
      rw [Expr.lower]
      refine Steps.bind_ends.mpr ⟨_, _, listIh, ?_⟩
      rw [isList]
      refine Steps.bind_ends.mpr ⟨_, _, ?_, rfl⟩
      rw [Expr.operand, varies]
      exact needleIh
  | pattern _ isText ih => exact Expr.lower_pattern ih isText _ _
  | membership _ checked written ih =>
      rw [Expr.lower]
      refine Steps.bind_ends.mpr ⟨_, _, ih, Steps.of_except_ends.mpr ⟨?_, rfl⟩⟩
      exact bind_ok.mpr ⟨(), checked, by rw [written]⟩
  | textFunction _ isText ih =>
      rw [Expr.lower]
      exact Steps.bind_ends.mpr ⟨_, _, ih, Steps.of_except_ends.mpr ⟨if_pos isText, rfl⟩⟩
  | datePart _ isTemporal ih =>
      rw [Expr.lower]
      exact Steps.bind_ends.mpr ⟨_, _, ih, Steps.of_except_ends.mpr ⟨if_pos isTemporal, rfl⟩⟩
  | countAll allowed =>
      rw [Expr.countAll, Expr.lower]
      refine Steps.of_except_ends.mpr ⟨bind_ok.mpr ⟨(), ?_, rfl⟩, rfl⟩
      simp [Typed.checkAggregate, allowed]

theorem Expr.lower_ends {c : Catalog} {clause : Clause} {e : Expr} {s s' : Scope} {t : Typed} :
    (e.lower c clause).outcome s = (.ok t, s') ↔ Lowers c clause e s t s' :=
  ⟨lowers_of_lower c clause e, Lowers.ends⟩

end WikiQuery
