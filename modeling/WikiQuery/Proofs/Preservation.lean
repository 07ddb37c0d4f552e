import WikiQuery.Proofs.Evaluation
import WikiQuery.Proofs.Sample

/- Lowering keeps the meaning of expressions: a lowered term is worth what the expression is
   worth, whatever the environment and the interpretation of the symbols. -/
set_option autoImplicit false

namespace WikiQuery

namespace SqlText

theorem natural_repr (n : Nat) : natural? n.repr.toList = some n := by
  have digits := digits_repr n
  have all : n.repr.toList.all Char.isDigit = true := List.all_eq_true.mpr digits.2
  rw [natural?, if_pos ⟨digits.1, all⟩, Nat.toList_repr, Nat.ofDigitChars_ten_toDigits]

theorem integer_int_text (i : Int) : integer? (Value.intText i) = some i := by
  by_cases negative : i < 0
  · have text : (Value.intText i).toList = '-' :: i.natAbs.repr.toList := by
      rw [Value.intText, if_pos negative, String.toList_append]
      rfl
    rw [integer?, text]
    change (natural? i.natAbs.repr.toList).map _ = _
    rw [natural_repr, Option.map_some]
    congr 1
    omega
  · have unsigned : ∀ tail, i.natAbs.repr.toList ≠ '-' :: tail := by
      intro tail same
      have digit := (digits_repr i.natAbs).2 '-' (by simp [same])
      exact absurd digit (by decide)
    rw [integer?, Value.intText, if_neg negative]
    split
    next tail same => exact absurd same (unsigned tail)
    next =>
      rw [natural_repr, Option.map_some]
      congr 1
      omega

end SqlText

open SqlText

namespace Interpretation

variable {V : Type} (I : Interpretation V)

theorem literal_text {token : Token} (formed : token.Formed) :
    I.literal? token.text = token.value? I := by
  have read := read_token_text formed ends_nil
  rw [List.append_nil] at read
  rw [literal?, read]

theorem constant_token {declared : Option FieldType} {value : Value} {text : String}
    (plain : value.isPlain = true) (written : Literal.scalar declared value = .ok text) :
    ∃ token : Token, token.Formed ∧ token.text = text ∧
      token.value? I = some (I.constant (declared.map FieldType.typeClass) value) := by
  cases value with
  | null =>
      cases written
      exact ⟨.null, trivial, rfl, rfl⟩
  | bool b =>
      cases written
      exact ⟨.truth b, trivial, rfl, rfl⟩
  | text s =>
      cases written
      exact ⟨.quoted s, trivial, rfl, rfl⟩
  | int i =>
      cases written
      have textual : declared.any FieldType.isText = true ↔
          declared.map FieldType.typeClass = some .text := by
        cases declared <;> simp [FieldType.isText]
      by_cases isText : declared.any FieldType.isText = true
      · refine ⟨.quoted (Value.intText i), trivial, ?_, ?_⟩
        · rw [Literal.number, if_pos isText, Token.text]
        · rw [Token.value?, constant, if_pos (textual.mp isText)]
      · refine ⟨.number (Value.intText i), number_int_text i, ?_, ?_⟩
        · rw [Literal.number, if_neg isText, Token.text]
        · have notText : ¬ declared.map FieldType.typeClass = some .text :=
            fun same => isText (textual.mpr same)
          rw [Token.value?, constant, if_neg notText, integer_int_text, Option.map_some]
  | float | date | moment | list => cases plain

theorem literal_constant {declared : Option FieldType} {value : Value} {text : String}
    (plain : value.isPlain = true) (written : Literal.ofValue declared value = .ok text) :
    I.literal? text = some (I.constant (declared.map FieldType.typeClass) value) := by
  have scalar : Literal.scalar declared value = .ok text := by
    cases value with
    | list items => cases plain
    | _ => exact written
  obtain ⟨token, formed, rfl, isValue⟩ := I.constant_token plain scalar
  rw [literal_text I formed, isValue]

theorem scalars_tokens {declared : Option FieldType} {items : List Value} {texts : List String}
    (plain : items.all Value.isPlain = true)
    (written : Literal.scalars declared items = .ok texts) :
    ∃ tokens : List Token, (∀ token ∈ tokens, token.Formed) ∧ texts = tokens.map Token.text ∧
      tokens.length = items.length ∧
      I.values? tokens = some (items.map (I.constant (declared.map FieldType.typeClass))) := by
  induction items generalizing texts with
  | nil =>
      cases written
      exact ⟨[], by simp, rfl, rfl, rfl⟩
  | cons item rest ih =>
      rw [List.all_cons, Bool.and_eq_true] at plain
      obtain ⟨text, first, ok⟩ := bind_ok.mp written
      obtain ⟨others, later, ok⟩ := bind_ok.mp ok
      cases ok
      obtain ⟨token, formed, rfl, isValue⟩ := I.constant_token plain.1 first
      obtain ⟨tokens, allFormed, rfl, length, values⟩ := ih plain.2 later
      refine ⟨token :: tokens, ?_, rfl, by simp [length], ?_⟩
      · intro other member
        rcases List.mem_cons.mp member with rfl | member
        · exact formed
        · exact allFormed other member
      · rw [values?, isValue, values]
        rfl

theorem enumeration_values {declared : Option FieldType} {items : List Value} {text : String}
    (plain : items.all Value.isPlain = true) (single : ∀ d, declared = some d → d.isList = false)
    (written : Literal.enumeration declared items = .ok text) :
    I.enumeration? text = some (items.map (I.constant (declared.map FieldType.typeClass))) := by
  obtain ⟨nonempty, texts, scalars, rfl⟩ := Literal.enumeration_ok_single single written
  obtain ⟨tokens, formed, rfl, length, values⟩ := I.scalars_tokens plain scalars
  have some : tokens ≠ [] := by
    rwa [← List.length_pos_iff, length, List.length_pos_iff]
  rw [enumeration?, read_enumeration_whole some formed]
  exact values

end Interpretation

theorem Typed.check_items_ok {whole : Expr} {items : List Value} {type : Option FieldType}
    (checked : Typed.checkItems whole items type = .ok ()) :
    ∀ declared, type = some declared → declared.isList = false := by
  rintro declared rfl
  by_cases isList : declared.isList = true
  · rw [Typed.checkItems, if_pos isList] at checked
    cases checked
  · simpa using isList

namespace Sql.Term

variable {V : Type} {I : Interpretation V} {env : Environment V}

theorem eval_all_append {ts us : List Term} {vs ws : List (Option V)}
    (left : evalAll I env ts = some vs) (right : evalAll I env us = some ws) :
    evalAll I env (ts ++ us) = some (vs ++ ws) := by
  induction ts generalizing vs with
  | nil =>
      cases left
      exact right
  | cons t ts ih =>
      rw [evalAll, Option.bind_eq_bind, Option.bind_eq_some_iff] at left
      obtain ⟨v, first, left⟩ := left
      rw [Option.bind_eq_bind, Option.bind_eq_some_iff] at left
      obtain ⟨rest, later, left⟩ := left
      cases left
      rw [List.cons_append, evalAll, first, ih later]
      rfl

theorem eval_all_chain (k : Connective) {t : Term} {v : Option V} (worth : eval I env t = some v) :
    ∃ vs, evalAll I env (Typed.chainTerms k t) = some vs ∧
      k.joinAll (vs.map I.truthOf) = I.truthOf v := by
  rcases Typed.chain_terms_cases k t with ⟨ts, rfl, chain⟩ | single
  · rw [eval, Option.bind_eq_bind, Option.bind_eq_some_iff] at worth
    obtain ⟨vs, all, ok⟩ := worth
    cases ok
    rw [chain]
    exact ⟨vs, all, (I.truth_of_truth _).symm⟩
  · refine ⟨[v], ?_, k.join_all_single _⟩
    rw [single, evalAll, worth]
    rfl

theorem eval_junction (k : Connective) {l r : Term} {v w : Option V}
    (left : eval I env l = some v) (right : eval I env r = some w) :
    eval I env (.junction k (Typed.chainTerms k l ++ Typed.chainTerms k r)) =
      some (I.connect k v w) := by
  obtain ⟨vs, leftAll, leftTruth⟩ := eval_all_chain k left
  obtain ⟨ws, rightAll, rightTruth⟩ := eval_all_chain k right
  rw [eval, eval_all_append leftAll rightAll]
  change some (I.connectAll k (vs ++ ws)) = _
  rw [Interpretation.connectAll, List.map_append, k.join_all_append, leftTruth, rightTruth]
  rfl

theorem eval_operator {op : WikiQuery.BinaryOp} {o : BinaryOp} {l r : Term} {v w : Option V}
    (symbol : o.symbol? = some op) (left : eval I env l = some v) (right : eval I env r = some w) :
    eval I env (.binary l o r) = some (I.operator op v w) := by
  cases o with
  | like | isIn | notIn | holds => cases symbol
  | _ =>
      rw [eval, symbol, left, right]
      · rfl
      · simp
      · simp

end Sql.Term

open Sql.Term

theorem Typed.eval_binary {V : Type} {I : Interpretation V} {env : Environment V}
    {left right : Expr} {op : BinaryOp} {l r t : Typed} {v w : Option V}
    (typed : Typed.binary left op right l r = .ok t) (leftWorth : eval I env l.term = some v)
    (rightWorth : eval I env r.term = some w) :
    eval I env t.term = some (I.binary op v w) ∧
      t.type.map FieldType.typeClass = some op.resultClass := by
  rcases Typed.binary_ok typed with ⟨k, isConnective, _, _, rfl⟩ |
    ⟨o, a, b, isArithmetic, _, _, _, _, rfl⟩ | ⟨o, isComparison, _, rfl⟩
  · have worth := eval_junction k leftWorth rightWorth
    cases op <;> cases isConnective <;> exact ⟨worth, rfl⟩
  · have numeric : (Typed.arithmeticType o a b).typeClass = .numeric := by
      rw [Typed.arithmeticType]
      split <;> rfl
    have class_ : (some (Typed.arithmeticType o a b)).map FieldType.typeClass = some .numeric := by
      rw [Option.map_some, numeric]
    cases op <;> cases isArithmetic <;> exact ⟨eval_operator rfl leftWorth rightWorth, class_⟩
  · cases op <;> cases isComparison <;> exact ⟨eval_operator rfl leftWorth rightWorth, rfl⟩

namespace Expr

theorem null_side_none {left right : Expr} {op : BinaryOp}
    (noNull : nullSide? left op right = none) :
    (op.isEquality && right.isNullConstant) = false ∧
      (op.isEquality && left.isNullConstant) = false := by
  rw [nullSide?] at noNull
  cases equality : op.isEquality with
  | false => simp
  | true =>
      cases rightNull : right.isNullConstant with
      | true => simp [equality, rightNull] at noNull
      | false =>
          cases leftNull : left.isNullConstant with
          | true => simp [equality, rightNull, leftNull] at noNull
          | false => simp

end Expr

namespace Typed

variable {V : Type} {I : Interpretation V} {env : Environment V}

theorem constant_type_none (value : Value) : constantType value none = value.naturalType := by
  cases value <;> rfl

theorem eval_constant {e : Expr} {value : Value} {hint : Option FieldType} {t : Typed}
    (plain : value.isPlain = true) (written : constant e value hint = .ok t) :
    eval I env t.term = some (I.constant (hint.map FieldType.typeClass) value) := by
  obtain ⟨_, text, ok, rfl⟩ := constant_ok written
  exact I.literal_constant plain ok

theorem eval_null_test {op : BinaryOp} {t : Typed} {v : Option V} (equality : op.isEquality = true)
    (worth : eval I env t.term = some v) :
    eval I env (t.nullTest op).term = some (I.nullTest op v) ∧
      (t.nullTest op).type.map FieldType.typeClass = some .boolean := by
  cases op <;> cases equality
  · refine ⟨?_, rfl⟩
    change eval I env (.unary .isNull t.term) = _
    rw [eval, worth]
    rfl
  · refine ⟨?_, rfl⟩
    change eval I env (.unary .isNotNull t.term) = _
    rw [eval, worth]
    rfl

-- An integer on the right of a constant that was accepted next to it does not stand against text.
theorem constant_right_of_constant {e : Expr} {value other : Value} {l r : Typed}
    (right : constant (.constant other) other none = .ok r)
    (left : constant e value r.type = .ok l) :
    I.constant (value.naturalType.map FieldType.typeClass) other = I.constant none other := by
  cases other with
  | int i =>
      obtain ⟨_, text, _, rfl⟩ := constant_ok right
      have fits : value.fits .integer = true := (constant_ok left).1 .integer rfl
      cases value with
      | bool | text | date | moment => cases fits
      | _ => rfl
  | _ => rfl

end Typed

namespace Expr

variable {V : Type} {c : Catalog} {I : Interpretation V} {env : Environment V}

theorem meaning_binary {left right : Expr} {op : BinaryOp} {s m s' : Scope} {l r : Meaning V}
    (noRight : (op.isEquality && right.isNullConstant) = false)
    (noLeft : (op.isEquality && left.isNullConstant) = false)
    (first : (left.meaning c I env).outcome s = (.ok l, m))
    (second : (right.meaning c I env).outcome m = (.ok r, s')) :
    ((Expr.binary left op right).meaning c I env).outcome s =
      (.ok ⟨I.binary op (I.operand left l r.type) (I.operand right r l.type), some op.resultClass⟩,
        s') := by
  rw [meaning, noRight, noLeft]
  exact Steps.bind_ends.mpr ⟨l, m, first, Steps.bind_ends.mpr ⟨r, s', second, rfl⟩⟩

theorem operand_varies {e : Expr} (varies : e.constant? = none) (m : Meaning V)
    (opposite : Option TypeClass) : I.operand e m opposite = m.value := by
  rw [Interpretation.operand, varies]

end Expr

theorem Lowers.operand_beside_constant {V : Type} {I : Interpretation V} {env : Environment V}
    {c : Catalog} {clause : Clause} {e right : Expr} {value : Value} {s s' : Scope} {l r : Typed}
    {w : Option V} (lowers : Lowers c clause right s r s') (plain : right.isPlain = true)
    (worth : eval I env r.term = some w) (accepted : Typed.constant e value r.type = .ok l)
    (type : Option TypeClass) :
    I.operand right ⟨w, type⟩ (value.naturalType.map FieldType.typeClass) = w := by
  cases varies : right.constant? with
  | none => exact Expr.operand_varies varies _ _
  | some other =>
      obtain rfl := Expr.constant_of_constant? varies
      cases lowers with
      | constant written =>
          have same : some w = some (I.constant none other) :=
            worth.symm.trans (Typed.eval_constant plain written)
          rw [Option.some.inj same]
          exact Typed.constant_right_of_constant written accepted

theorem Lowers.meaning {V : Type} {c : Catalog} {clause : Clause} {e : Expr} {s s' : Scope}
    {t : Typed} (I : Interpretation V) (env : Environment V) (lowers : Lowers c clause e s t s')
    (plain : e.isPlain = true) :
    ∃ v, (e.meaning c I env).outcome s = (.ok ⟨v, t.type.map FieldType.typeClass⟩, s') ∧
      eval I env t.term = some v := by
  induction lowers with
  | member found =>
      refine ⟨_, ?_, rfl⟩
      rw [Expr.meaning]
      exact Steps.bind_ends.mpr ⟨_, _, found, rfl⟩
  | field found =>
      refine ⟨_, ?_, rfl⟩
      rw [Expr.meaning, Steps.get_bind_outcome]
      exact Steps.of_except_bind_ends.mpr ⟨_, found, rfl⟩
  | @constant value _ _ written =>
      refine ⟨_, ?_, Typed.eval_constant plain written⟩
      obtain ⟨_, text, _, rfl⟩ := Typed.constant_ok written
      rw [Typed.constant_type_none]
      rfl
  | @nullRight left op _ _ t checked equality operand ih =>
      rw [Expr.isPlain, Bool.and_eq_true] at plain
      obtain ⟨v, found, worth⟩ := ih plain.1
      obtain ⟨tested, truth⟩ := Typed.eval_null_test equality worth
      refine ⟨_, ?_, tested⟩
      rw [truth, Expr.meaning, if_pos (by simp [equality, Expr.isNullConstant])]
      exact Steps.bind_ends.mpr ⟨_, _, found, rfl⟩
  | @nullLeft op right _ _ t checked equality operand ih =>
      rw [Expr.isPlain, Bool.and_eq_true] at plain
      obtain ⟨v, found, worth⟩ := ih plain.2
      obtain ⟨tested, truth⟩ := Typed.eval_null_test equality worth
      refine ⟨_, ?_, tested⟩
      rw [truth, Expr.meaning, Expr.right_not_null equality checked, Bool.and_false,
        if_neg (by simp), if_pos (by simp [equality, Expr.isNullConstant])]
      exact Steps.bind_ends.mpr ⟨_, _, found, rfl⟩
  | @constantLeft value op right s s' l r t checked noNull other written typed ih =>
      rw [Expr.isPlain, Bool.and_eq_true] at plain
      obtain ⟨w, found, worth⟩ := ih plain.2
      obtain ⟨noRight, noLeft⟩ := Expr.null_side_none noNull
      have leftWorth : eval I env l.term = _ := Typed.eval_constant plain.1 written
      obtain ⟨whole, class_⟩ := Typed.eval_binary typed leftWorth worth
      refine ⟨_, ?_, whole⟩
      rw [class_, Expr.meaning_binary noRight noLeft rfl found,
        other.operand_beside_constant plain.2 worth written]
      rfl
  | constantRight checked noNull varies other written typed ih =>
      rw [Expr.isPlain, Bool.and_eq_true] at plain
      obtain ⟨v, found, worth⟩ := ih plain.1
      obtain ⟨noRight, noLeft⟩ := Expr.null_side_none noNull
      have rightWorth : eval I env _ = _ := Typed.eval_constant plain.2 written
      obtain ⟨whole, class_⟩ := Typed.eval_binary typed worth rightWorth
      refine ⟨_, ?_, whole⟩
      rw [class_, Expr.meaning_binary noRight noLeft found rfl, Expr.operand_varies varies]
      rfl
  | binary leftVaries rightVaries first second typed firstIh secondIh =>
      rw [Expr.isPlain, Bool.and_eq_true] at plain
      obtain ⟨v, leftFound, leftWorth⟩ := firstIh plain.1
      obtain ⟨w, rightFound, rightWorth⟩ := secondIh plain.2
      obtain ⟨whole, class_⟩ := Typed.eval_binary typed leftWorth rightWorth
      refine ⟨_, ?_, whole⟩
      rw [class_, Expr.meaning_binary (by simp [Expr.is_null_constant_of_varies rightVaries])
        (by simp [Expr.is_null_constant_of_varies leftVaries]) leftFound rightFound,
        Expr.operand_varies leftVaries, Expr.operand_varies rightVaries]
  | not inner truth ih =>
      obtain ⟨v, found, worth⟩ := ih plain
      refine ⟨I.not v, ?_, ?_⟩
      · rw [Expr.meaning, truth]
        exact Steps.bind_ends.mpr ⟨_, _, found, rfl⟩
      · rw [eval, worth]
        rfl
  | @neg operand _ _ t inner number ih =>
      obtain ⟨v, found, worth⟩ := ih plain
      refine ⟨I.negative v, ?_, ?_⟩
      · have class_ : t.type.map FieldType.typeClass = some .numeric := by
          cases isType : t.type with
          | none => simp [Typed.hasType, isType] at number
          | some type => simpa [Typed.hasType, isType, FieldType.isNumeric] using number
        rw [Expr.meaning, class_]
        exact Steps.bind_ends.mpr ⟨_, _, found, rfl⟩
      · rw [eval, worth]
        rfl
  | @membership receiver negated items text _ _ subject inner checked written ih =>
      rw [Expr.isPlain, Bool.and_eq_true] at plain
      obtain ⟨v, found, worth⟩ := ih plain.1
      have values := I.enumeration_values plain.2 (Typed.check_items_ok checked) written
      refine ⟨I.membership negated v
        (items.map (I.constant (subject.type.map FieldType.typeClass))), ?_, ?_⟩
      · rw [Expr.meaning]
        exact Steps.bind_ends.mpr ⟨_, _, found, rfl⟩
      · cases negated with
        | true =>
            change eval I env (.binary subject.term .notIn (.literal text)) = _
            rw [eval, worth, items?, values]
            rfl
        | false =>
            change eval I env (.binary subject.term .isIn (.literal text)) = _
            rw [eval, worth, items?, values]
            rfl
  | @textFunction receiver f _ _ subject inner isText ih =>
      obtain ⟨v, found, worth⟩ := ih plain
      refine ⟨I.textFunction f v, ?_, ?_⟩
      · rw [Expr.meaning]
        refine Steps.bind_ends.mpr ⟨_, _, found, ?_⟩
        cases f <;> rfl
      · rw [eval, evalAll, worth]
        cases f <;> rfl
  | @datePart receiver p _ _ subject inner isTemporal ih =>
      obtain ⟨v, found, worth⟩ := ih plain
      refine ⟨I.datePart p v, ?_, ?_⟩
      · rw [Expr.meaning]
        exact Steps.bind_ends.mpr ⟨_, _, found, rfl⟩
      · rw [eval, evalAll, worth]
        cases p <;> rfl
  | aggregate | holdsConstant | holds | pattern | countAll => cases plain

/-- Whatever the symbols mean, a plain expression that is accepted has a meaning, and the SQL term
it becomes is worth the same. -/
theorem lowering_preserves_meaning {V : Type} {c : Catalog} {clause : Clause} {e : Expr}
    {s s' : Scope} {t : Typed} (I : Interpretation V) (env : Environment V)
    (plain : e.isPlain = true) (lowered : (e.lower c clause).commit s = .ok (t, s')) :
    ∃ m, (e.meaning c I env).commit s = .ok (m, s') ∧ eval I env t.term = some m.value := by
  have lowers := Expr.lowers_of_lower c clause e (Steps.commit_ok.mp lowered)
  obtain ⟨v, found, worth⟩ := lowers.meaning I env plain
  exact ⟨_, Steps.commit_ok.mpr found, worth⟩

namespace Sample

-- Constants as values: equality compares them, and nothing else is known of them.
def interpretation : Interpretation Value where
  ofBool := .bool
  ofInt := .int
  ofText := .text
  truth
    | .bool b => some b
    | _ => none
  truth_ofBool _ := rfl
  operator
    | .eq, some v, some w => some (.bool (v.same w))
    | _, _, _ => none
  negative _ := none
  textFunction _ v := v
  datePart _ v := v

def row : Environment Value := fun label field =>
  if label = "T2" ∧ field = "name" then some (.text "7") else some (.int 3)

end Sample

theorem numbered_author_preserved :
    Sample.numberedAuthor.isPlain = true ∧
      (Sample.numberedAuthor.lower Sample.catalog .condition).commit Sample.start.scope =
        .ok (.truth Sample.numberedAuthorTerm, Sample.pagesAndAuthors) ∧
      ∃ m, (Sample.numberedAuthor.meaning Sample.catalog Sample.interpretation Sample.row).commit
          Sample.start.scope = .ok (m, Sample.pagesAndAuthors) ∧
        eval Sample.interpretation Sample.row Sample.numberedAuthorTerm = some m.value := by
  have lowered :
      (Sample.numberedAuthor.lower Sample.catalog .condition).commit Sample.start.scope =
        .ok (.truth Sample.numberedAuthorTerm, Sample.pagesAndAuthors) := rfl
  exact ⟨rfl, lowered, lowering_preserves_meaning Sample.interpretation Sample.row rfl lowered⟩

end WikiQuery
