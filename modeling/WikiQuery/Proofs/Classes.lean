import WikiQuery.Proofs.Preservation

/- Classes read off SQL terms: which classes a term belongs to, which classes the operands at each
   of its nodes must belong to, and the classes of the literals that constants are written as. -/
set_option autoImplicit false

namespace WikiQuery

open SqlText

-- A quoted text may stand for a time as well; `NULL` has no class.
def SqlText.Token.classes : Token → List TypeClass
  | .null => []
  | .truth _ => [.boolean]
  | .number _ => [.numeric]
  | .quoted _ => [.text, .temporal]

namespace Sql

inductive Signature where
  | count
  | maps (takes gives : TypeClass)
  | extreme

namespace Signature

def ofName? : String → Option Signature
  | "COUNT" => some .count
  | "SUM" | "AVG" => some (.maps .numeric .numeric)
  | "UPPER" | "LOWER" | "TRIM" => some (.maps .text .text)
  | "CHAR_LENGTH" => some (.maps .text .numeric)
  | "YEAR" | "MONTH" | "DAY" => some (.maps .temporal .numeric)
  | "MIN" | "MAX" => some .extreme
  | _ => none

def result (argument : List TypeClass) : Signature → List TypeClass
  | .count => [.numeric]
  | .maps _ gives => [gives]
  | .extreme => argument

def Accepts (argument : List TypeClass) : Signature → Prop
  | .count => True
  | .maps takes _ => takes ∈ argument
  | .extreme => ∃ k ∈ argument, k ≠ .list

end Signature

def BinaryOp.resultClass : BinaryOp → TypeClass
  | .add | .sub | .mul | .div => .numeric
  | _ => .boolean

def UnaryOp.resultClass : UnaryOp → TypeClass
  | .neg => .numeric
  | _ => .boolean

namespace Term

def literalClasses (text : String) : List TypeClass :=
  match readToken text.toList with
  | some (token, []) => token.classes
  | _ => []

mutual
def classes : Term → List TypeClass
  | .source _ => []
  | .column c => [c.type.typeClass]
  | .binary _ op _ => [op.resultClass]
  | .unary op _ => [op.resultClass]
  | .literal text => literalClasses text
  | .function name _ args =>
      match Signature.ofName? name with
      | some signature => signature.result (allClasses args)
      | none => []
  | .junction _ _ => [.boolean]
  | .ordering _ _ => []

def allClasses : List Term → List TypeClass
  | [] => []
  | t :: ts => classes t ++ allClasses ts
end

mutual
def nodes : Term → List Term
  | .source s => [.source s]
  | .column c => [.column c]
  | .binary l op r => .binary l op r :: (nodes l ++ nodes r)
  | .unary op t => .unary op t :: nodes t
  | .literal text => [.literal text]
  | .function name distinct args => .function name distinct args :: allNodes args
  | .junction k ts => .junction k ts :: allNodes ts
  | .ordering t direction => .ordering t direction :: nodes t

def allNodes : List Term → List Term
  | [] => []
  | t :: ts => nodes t ++ allNodes ts
end

def enumerated? : Term → Option (List Token)
  | .literal text =>
      match readEnumeration text.toList with
      | some (tokens, []) => some tokens
      | _ => none
  | _ => none

def Classless (t : Term) : Prop := t = .literal "NULL" ∨ ∃ tokens, t.enumerated? = some tokens

def CheckedBinary (l r : Term) : BinaryOp → Prop
  | .eq | .ne => ∃ k ∈ l.classes, k ∈ r.classes
  | .lt | .le | .gt | .ge => ∃ k ∈ l.classes, k ∈ r.classes ∧ k ≠ .list
  | .add | .sub | .mul | .div => .numeric ∈ l.classes ∧ .numeric ∈ r.classes
  | .like => .text ∈ l.classes ∧ ∃ s, r = .literal (Literal.quote s)
  | .isIn | .notIn =>
      ∃ tokens, r.enumerated? = some tokens ∧
        (l.Classless ∨ ∃ k ∈ l.classes, k ≠ .list ∧
          ∀ token ∈ tokens, token = .null ∨ k ∈ token.classes)
  | .holds => .list ∈ l.classes

/-- The operands of the outermost construction belong to the classes that it takes. -/
def Checked : Term → Prop
  | .binary l op r => CheckedBinary l r op
  | .unary .not t => .boolean ∈ t.classes
  | .unary .neg t => .numeric ∈ t.classes
  | .function name _ args =>
      ∃ signature arg, Signature.ofName? name = some signature ∧ args = [arg] ∧
        signature.Accepts arg.classes
  | .junction _ ts => ∀ t ∈ ts, .boolean ∈ t.classes
  | _ => True

def AllChecked (t : Term) : Prop := ∀ node ∈ t.nodes, node.Checked

theorem all_nodes_eq (ts : List Term) : allNodes ts = ts.flatMap nodes := by
  induction ts with
  | nil => rfl
  | cons t ts ih => rw [allNodes, ih, List.flatMap_cons]

theorem forall_nodes_binary {p : Term → Prop} {l r : Term} {op : BinaryOp} :
    (∀ node ∈ (Term.binary l op r).nodes, p node) ↔
      p (.binary l op r) ∧ (∀ node ∈ l.nodes, p node) ∧ ∀ node ∈ r.nodes, p node := by
  rw [nodes, List.forall_mem_cons, List.forall_mem_append]

theorem forall_nodes_unary {p : Term → Prop} {op : UnaryOp} {t : Term} :
    (∀ node ∈ (Term.unary op t).nodes, p node) ↔ p (.unary op t) ∧ ∀ node ∈ t.nodes, p node := by
  rw [nodes, List.forall_mem_cons]

theorem forall_nodes_junction {p : Term → Prop} {k : Connective} {ts : List Term} :
    (∀ node ∈ (Term.junction k ts).nodes, p node) ↔
      p (.junction k ts) ∧ ∀ t ∈ ts, ∀ node ∈ t.nodes, p node := by
  rw [nodes, List.forall_mem_cons, all_nodes_eq, List.forall_mem_flatMap]

theorem forall_nodes_function {p : Term → Prop} {name : String} {distinct : Bool} {arg : Term} :
    (∀ node ∈ (Term.function name distinct [arg]).nodes, p node) ↔
      p (.function name distinct [arg]) ∧ ∀ node ∈ arg.nodes, p node := by
  rw [nodes, List.forall_mem_cons, allNodes, allNodes, List.append_nil]

theorem all_checked_column (c : Column) : AllChecked (.column c) := by
  simp [AllChecked, nodes, Checked]

theorem all_checked_literal (text : String) : AllChecked (.literal text) := by
  simp [AllChecked, nodes, Checked]

theorem all_checked_binary {l r : Term} {op : BinaryOp} :
    AllChecked (.binary l op r) ↔ CheckedBinary l r op ∧ AllChecked l ∧ AllChecked r :=
  forall_nodes_binary

theorem all_checked_unary {op : UnaryOp} {t : Term} :
    AllChecked (.unary op t) ↔ Checked (.unary op t) ∧ AllChecked t :=
  forall_nodes_unary

theorem all_checked_junction {k : Connective} {ts : List Term} :
    AllChecked (.junction k ts) ↔ ∀ t ∈ ts, .boolean ∈ t.classes ∧ AllChecked t := by
  rw [AllChecked, forall_nodes_junction]
  constructor
  · rintro ⟨own, inner⟩ t member
    exact ⟨own t member, inner t member⟩
  · intro all
    exact ⟨fun t member => (all t member).1, fun t member => (all t member).2⟩

theorem all_checked_function {name : String} {distinct : Bool} {arg : Term} {signature : Signature}
    (known : Signature.ofName? name = some signature) (accepts : signature.Accepts arg.classes)
    (inner : AllChecked arg) : AllChecked (.function name distinct [arg]) := by
  exact forall_nodes_function.mpr ⟨⟨signature, arg, known, rfl, accepts⟩, inner⟩

theorem classes_function {name : String} {distinct : Bool} {arg : Term} {signature : Signature}
    (known : Signature.ofName? name = some signature) :
    (Term.function name distinct [arg]).classes = signature.result arg.classes := by
  rw [classes, known, allClasses, allClasses, List.append_nil]

theorem chain_checked (k : Connective) {t : Term} (truth : .boolean ∈ t.classes)
    (checked : AllChecked t) :
    ∀ u ∈ Typed.chainTerms k t, .boolean ∈ u.classes ∧ AllChecked u := by
  rcases Typed.chain_terms_cases k t with ⟨ts, rfl, chain⟩ | single
  · rw [chain]
    exact all_checked_junction.mp checked
  · rw [single, List.forall_mem_singleton]
    exact ⟨truth, checked⟩

theorem literal_classes_text {token : Token} (formed : token.Formed) :
    literalClasses token.text = token.classes := by
  have read := read_token_text formed ends_nil
  rw [List.append_nil] at read
  rw [literalClasses, read]

end Term

end Sql

open Sql.Term

namespace Typed

theorem fits_constant_type {value : Value} {declared : Option FieldType} {type : FieldType}
    (taken : constantType value declared = some type)
    (fits : ∀ d, declared = some d → value.fits d = true) : value.fits type = true := by
  cases declared with
  | none =>
      rw [constant_type_none] at taken
      cases value <;> cases taken <;> rfl
  | some d =>
      have same : type = d := by
        cases value <;> cases taken <;> rfl
      exact same ▸ fits d rfl

theorem constant_type_declared (value : Value) (declared : FieldType) :
    value = .null ∨ constantType value (some declared) = some declared := by
  cases value with
  | null => exact .inl rfl
  | _ => exact .inr rfl

end Typed

namespace Literal

theorem of_value_single {declared : Option FieldType} {value : Value}
    (single : value.isList = false) : ofValue declared value = scalar declared value := by
  cases value with
  | list items => cases single
  | _ => rfl

theorem quoted_class {type : FieldType} (s : String)
    (textual : (type.isText || type.isTemporal) = true) :
    type.typeClass ∈ (Token.quoted s).classes := by
  simpa [Token.classes, FieldType.isText, FieldType.isTemporal] using textual

-- A number is quoted exactly against texts, so it has the class of each type that it fits.
theorem number_token (declared : Option FieldType) {digits : String} (number : IsNumber digits) :
    ∃ token : Token, token.Formed ∧ token.text = Literal.number declared digits ∧ token ≠ .null ∧
      ∀ type : FieldType, (type.isNumeric || type.isText) = true →
        declared.any FieldType.isText = type.isText → type.typeClass ∈ token.classes := by
  rw [Literal.number]
  cases quoted : declared.any FieldType.isText with
  | true =>
      refine ⟨.quoted digits, trivial, rfl, by simp, ?_⟩
      intro type _ isText
      exact quoted_class digits (Bool.or_eq_true_iff.mpr (.inl isText.symm))
  | false =>
      refine ⟨.number digits, number, rfl, by simp, ?_⟩
      intro type fits noText
      have numeric : type.typeClass = .numeric := by
        rw [← noText, Bool.or_false] at fits
        simpa [FieldType.isNumeric] using fits
      simp [Token.classes, numeric]

theorem scalar_token {declared : Option FieldType} {value : Value} {text : String}
    (written : scalar declared value = .ok text)
    (fits : ∀ d, declared = some d → value.fits d = true) :
    ∃ token : Token, token.Formed ∧ token.text = text ∧ (token = .null ↔ value = .null) ∧
      ∀ type, Typed.constantType value declared = some type → type.typeClass ∈ token.classes := by
  have fitting : ∀ type, Typed.constantType value declared = some type → value.fits type = true :=
    fun type taken => Typed.fits_constant_type taken fits
  cases value with
  | null =>
      cases written
      refine ⟨.null, trivial, rfl, by simp, ?_⟩
      intro type taken
      cases taken
  | bool b =>
      cases written
      refine ⟨.truth b, trivial, rfl, by simp, ?_⟩
      intro type taken
      simpa [Value.fits, Token.classes] using fitting type taken
  | int i =>
      cases written
      obtain ⟨token, formed, isText, noNull, classed⟩ := number_token declared (number_int_text i)
      refine ⟨token, formed, isText, by simp [noNull], ?_⟩
      intro type taken
      refine classed type (fitting type taken) ?_
      cases declared <;> cases taken <;> rfl
  | float x =>
      by_cases finite : x.isFinite = true
      · rw [scalar, if_pos finite] at written
        cases written
        obtain ⟨token, formed, isText, noNull, classed⟩ :=
          number_token declared (number_text finite)
        refine ⟨token, formed, isText, by simp [noNull], ?_⟩
        intro type taken
        refine classed type (fitting type taken) ?_
        cases declared <;> cases taken <;> rfl
      · rw [scalar, if_neg finite] at written
        cases written
  | text s =>
      cases written
      refine ⟨.quoted s, trivial, rfl, by simp, ?_⟩
      intro type taken
      exact quoted_class s (fitting type taken)
  | date d =>
      cases written
      obtain ⟨s, isText⟩ : ∃ s, Literal.date declared d = quote s := by
        unfold Literal.date
        split <;> exact ⟨_, rfl⟩
      refine ⟨.quoted s, trivial, isText.symm, by simp, ?_⟩
      intro type taken
      exact quoted_class s (Bool.or_eq_true_iff.mpr (.inr (fitting type taken)))
  | moment m =>
      cases written
      refine ⟨.quoted m.text, trivial, rfl, by simp, ?_⟩
      intro type taken
      exact quoted_class m.text (Bool.or_eq_true_iff.mpr (.inr (fitting type taken)))
  | list items => cases written

theorem scalars_tokens {declared : Option FieldType} {items : List Value} {texts : List String}
    (written : scalars declared items = .ok texts)
    (fits : ∀ d, declared = some d → ∀ item ∈ items, item.fits d = true) :
    ∃ tokens : List Token, (∀ token ∈ tokens, token.Formed) ∧ texts = tokens.map Token.text ∧
      tokens.length = items.length ∧ (.null ∈ tokens ↔ .null ∈ items) ∧
      ∀ d, declared = some d → ∀ token ∈ tokens, token = .null ∨ d.typeClass ∈ token.classes := by
  induction items generalizing texts with
  | nil =>
      cases written
      exact ⟨[], by simp, rfl, rfl, by simp, by simp⟩
  | cons item rest ih =>
      obtain ⟨text, first, ok⟩ := bind_ok.mp written
      obtain ⟨others, later, ok⟩ := bind_ok.mp ok
      cases ok
      obtain ⟨token, formed, rfl, null, classed⟩ :=
        scalar_token first fun d same => fits d same item List.mem_cons_self
      obtain ⟨tokens, allFormed, rfl, length, nulls, allClassed⟩ :=
        ih later fun d same other member => fits d same other (List.mem_cons_of_mem item member)
      have someNull : .null ∈ token :: tokens ↔ .null ∈ item :: rest := by
        rw [List.mem_cons, List.mem_cons, eq_comm, null, nulls, eq_comm]
      refine ⟨token :: tokens, List.forall_mem_cons.mpr ⟨formed, allFormed⟩, rfl, by simp [length],
        someNull, ?_⟩
      rintro d rfl
      refine List.forall_mem_cons.mpr ⟨?_, allClassed d rfl⟩
      rcases Typed.constant_type_declared item d with isNull | taken
      · exact .inl (null.mpr isNull)
      · exact .inr (classed d taken)

theorem enumeration_tokens {declared : Option FieldType} {items : List Value} {text : String}
    (written : enumeration declared items = .ok text)
    (fits : ∀ d, declared = some d → d.isList = false ∧ ∀ item ∈ items, item.fits d = true) :
    ∃ tokens, (Sql.Term.literal text).enumerated? = some tokens ∧ (.null ∈ tokens ↔ .null ∈ items) ∧
      ∀ d, declared = some d → ∀ token ∈ tokens, token = .null ∨ d.typeClass ∈ token.classes := by
  obtain ⟨nonempty, texts, scalars, rfl⟩ :=
    enumeration_ok_single (fun d same => (fits d same).1) written
  obtain ⟨tokens, formed, rfl, length, nulls, classed⟩ :=
    scalars_tokens scalars fun d same => (fits d same).2
  have some : tokens ≠ [] := by
    rwa [← List.length_pos_iff, length, List.length_pos_iff]
  exact ⟨tokens, by rw [enumerated?, read_enumeration_whole some formed], nulls, classed⟩

end Literal

end WikiQuery
