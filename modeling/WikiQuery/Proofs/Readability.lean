import WikiQuery.Proofs.Operands
import WikiQuery.Proofs.Reachable

/- SQL text has one reading: the reader gives back every term of the shape that lowering makes, up
   to what the text does not show. -/
set_option autoImplicit false

namespace WikiQuery

open SqlText Sql.Term

namespace Sql.Term

def Atomic : Term → Prop
  | .column _ => True
  | .function _ _ _ => True
  | .literal text => IsNumeral text.toList
  | _ => False

theorem atomic_of_negatable {t : Term} (formed : Formed WordColumn t) (number : t.Negatable)
    (unsigned : t.isSigned = false) (simple : t.isComposite = false) : t.Atomic := by
  cases t with
  | source | ordering => exact formed.elim
  | column | function => trivial
  | binary | junction => cases simple
  | literal text =>
      rcases number with numeral | ⟨cs, isText, _⟩
      · exact numeral
      · simp [isSigned, isText] at unsigned
  | unary op t =>
      cases op with
      | neg => cases unsigned
      | _ => cases simple

-- A depth of as many levels as the text has characters is enough.
structure Readable (t : Term) : Prop where
  operand : ∀ depth, t.operandText.toList.length ≤ depth → Reads (readOperand depth) t
  whole : ∀ depth, t.render.toList.length ≤ depth → ReadsWhole (readOperand depth) t
  atomic : t.Atomic → ∀ depth, t.render.toList.length ≤ depth + 1 →
    ReadsAtom (readOperand depth) t

theorem readable_composite {t : Term} (composite : t.isComposite = true)
    (whole : ∀ depth, t.render.toList.length ≤ depth → ReadsWhole (readOperand depth) t) :
    Readable t where
  operand := by
    intro depth bound
    have size : t.operandText.toList.length = t.render.toList.length + 2 := by
      simp [operandText, composite, parenthesize]
    cases depth with
    | zero => omega
    | succ depth => exact reads_group composite (whole depth (by omega))
  whole := whole
  atomic := by
    intro atomic
    cases t with
    | column | function | literal => cases composite
    | _ => exact atomic.elim

theorem readable_simple {t : Term} (formed : Formed WordColumn t) (simple : t.isComposite = false)
    (nonempty : 0 < t.render.toList.length)
    (reads : ∀ depth, t.render.toList.length ≤ depth + 1 →
      Reads (operandWith (readOperand depth)) t)
    (atomic : t.Atomic → ∀ depth, t.render.toList.length ≤ depth + 1 →
      ReadsAtom (readOperand depth) t) : Readable t := by
  have operand : ∀ depth, t.render.toList.length ≤ depth → Reads (readOperand depth) t := by
    intro depth bound
    cases depth with
    | zero => omega
    | succ depth => exact reads depth bound
  refine ⟨?_, ?_, atomic⟩
  · rw [operand_text_simple simple]
    exact operand
  · intro depth bound
    exact reads_whole_of_reads formed simple (operand depth bound)

theorem readable_atom {t : Term} (formed : Formed WordColumn t) (simple : t.isComposite = false)
    (nonempty : 0 < t.render.toList.length)
    (isAtom : ∀ depth, t.render.toList.length ≤ depth + 1 → ReadsAtom (readOperand depth) t) :
    Readable t :=
  readable_simple formed simple nonempty (fun depth bound => reads_atom (isAtom depth bound))
    fun _ => isAtom

theorem length_literal {text : String} (literal : LiteralText text) : 0 < text.toList.length := by
  cases literal with
  | scalar scalar =>
      cases scalar with
      | null => decide
      | truth b => cases b <;> decide
      | number number =>
          rcases number with numeral | ⟨cs, isText, _⟩
          · obtain ⟨c, rest, isText, _⟩ := numeral_cons numeral
            simp [isText]
          · simp [isText]
      | quoted s => simp [Literal.quote]
  | enumeration => simp
  | star => decide

theorem length_operand_le (k : Connective) {ts : List Term} {t : Term} (member : t ∈ ts) :
    t.operandText.toList.length ≤ (render (.junction k ts)).toList.length := by
  rw [render_junction, String.toList_intercalate, List.map_map]
  exact length_le_of_mem_intercalate (List.mem_map_of_mem member)

mutual
-- By induction on the term; each operator asks its operands for one level less or for a shorter
-- text.
theorem readable : ∀ (t : Term), Formed WordColumn t → Readable t
  | .source _, formed => formed.elim
  | .ordering _ _, formed => formed.elim
  | .column c, formed => by
      have nonempty : 0 < (render (.column c)).toList.length := by
        simp only [render_column, Column.text, String.toList_append, List.length_append]
        exact Nat.add_pos_left (Nat.add_pos_right _ (by decide)) _
      exact readable_atom formed rfl nonempty fun _ _ => reads_atom_column formed
  | .literal text, formed => by
      refine readable_simple formed rfl (length_literal formed) ?_ ?_
      · exact fun depth _ => reads_literal formed depth
      · exact fun numeral depth _ => reads_atom_numeral numeral
  | .binary l op r, formed => by
      have left := (readable l formed.1).operand
      have right := (readable r formed.2).operand
      refine readable_composite rfl fun depth bound => ?_
      simp only [render_binary, String.toList_append, List.length_append] at bound
      exact reads_whole_binary op formed.1 (left depth (by omega)) (right depth (by omega))
  | .unary .not t, formed => by
      have inner := (readable t formed.1).operand
      refine readable_composite rfl fun depth bound => ?_
      simp only [render_not, String.toList_append, List.length_append] at bound
      exact reads_whole_not (inner depth (by omega))
  | .unary .isNull t, formed => by
      have inner := (readable t formed.1).operand
      refine readable_composite rfl fun depth bound => ?_
      simp only [render_is_null, String.toList_append, List.length_append] at bound
      exact reads_whole_is_null formed.1 (inner depth (by omega))
  | .unary .isNotNull t, formed => by
      have inner := (readable t formed.1).operand
      refine readable_composite rfl fun depth bound => ?_
      simp only [render_is_not_null, String.toList_append, List.length_append] at bound
      exact reads_whole_is_not_null formed.1 (inner depth (by omega))
  | .unary .neg t, formed => by
      have inner := readable t formed.1
      have nonempty : 0 < (render (.unary .neg t)).toList.length := by simp [render_neg]
      refine readable_simple formed rfl nonempty ?_ (fun atomic => atomic.elim)
      intro depth bound
      by_cases signed : t.isSigned = true
      · have size : (render (.unary .neg t)).toList.length = t.render.toList.length + 3 := by
          simp [render_neg, signed, parenthesize]
        exact reads_neg_whole (inner.whole depth (by omega)) (.inl signed)
      · by_cases composite : t.isComposite = true
        · have size : (render (.unary .neg t)).toList.length = t.render.toList.length + 3 := by
            simp [render_neg, signed, operandText, composite, parenthesize]
          exact reads_neg_whole (inner.whole depth (by omega)) (.inr composite)
        · have unsigned : t.isSigned = false := by simpa using signed
          have simple : t.isComposite = false := by simpa using composite
          have size : (render (.unary .neg t)).toList.length = t.render.toList.length + 1 := by
            simp [render_neg, unsigned, operandText, simple]
          have atomic := atomic_of_negatable formed.1 (formed.2 rfl) unsigned simple
          exact reads_neg_atom (inner.atomic atomic depth (by omega)) unsigned
  | .function _ _ [], formed => absurd formed.2.1 (by simp)
  | .function _ _ (_ :: _ :: _), formed => absurd formed.2.1 (by simp)
  | .function name distinct [arg], formed => by
      have inner := readable arg formed.2.2.1
      have plain := function_name_identifier name formed.1
      have size : arg.render.toList.length + 2 ≤
          (render (.function name distinct [arg])).toList.length := by
        simp [render_function]
        omega
      refine readable_atom formed rfl (by omega) fun depth bound => ?_
      exact reads_atom_function distinct plain formed.2.2.1 (inner.whole depth (by omega))
  | .junction _ [], formed => absurd formed.1 (by simp)
  | .junction _ [_], formed => absurd formed.1 (by simp)
  | .junction k (t :: u :: ts), formed => by
      have first := readable t formed.2.1
      have later := all_readable (u :: ts) formed.2.2
      refine readable_composite rfl fun depth bound => ?_
      refine reads_whole_junction k (by simp) formed.2.1 (first.operand depth ?_) ?_
      · exact Nat.le_trans (length_operand_le k List.mem_cons_self) bound
      · intro v member
        have shorter := length_operand_le k (List.mem_cons_of_mem t member)
        exact (later v member).operand depth (Nat.le_trans shorter bound)

theorem all_readable : ∀ (ts : List Term), AllFormed WordColumn ts → ∀ t ∈ ts, Readable t
  | t :: ts, formed, u, member => by
      have first := readable t formed.1
      rcases List.mem_cons.mp member with same | member
      · rw [same]
        exact first
      · exact all_readable ts formed.2 u member
end

theorem parse_render {t : Term} (formed : Formed WordColumn t) :
    parse t.render = some t.reading := by
  have bound : t.render.toList.length ≤ t.render.length :=
    Nat.le_of_eq String.length_toList
  have whole := (readable t formed).whole _ bound [] closes_nil
  rw [List.append_nil] at whole
  rw [parse, whole]

theorem parse_ordering {t : Term} (formed : Formed WordColumn t) (d : Direction) :
    parse (render (.ordering t d)) = some (reading (.ordering t d)) := by
  have text : (render (.ordering t d)).toList = t.operandText.toList ++ ' ' :: d.text.toList := by
    simp [render_ordering]
  have bound : t.operandText.toList.length ≤ (render (.ordering t d)).length := by
    rw [← String.length_toList, text, List.length_append]
    omega
  have reads := (readable t formed).operand _ bound
  rw [parse, text, expression_operand formed reads (closes_direction d)]
  cases d <;> rfl

end Sql.Term

def Catalog.PlainFields (c : Catalog) : Prop :=
  ∀ table ∈ c.tables, ∀ f ∈ table.fields, isIdentifier f.name = true

theorem Sample.plain_fields : Sample.catalog.PlainFields := by
  rw [Catalog.PlainFields]
  decide

theorem Located.word {c : Catalog} {s : Scope} {column : Column} (located : Located c s column)
    (labels : s.PlainLabels) (fields : c.PlainFields) : WordColumn column :=
  ⟨located.label_identifier labels,
    located.field_name (p := fun name => isIdentifier name = true) fields system_field_identifier⟩

theorem formed_words {c : Catalog} {s : Scope} (labels : s.PlainLabels) (fields : c.PlainFields)
    {t : Sql.Term} (formed : Formed (Located c s) t) : Formed WordColumn t :=
  formed_mono (fun _ located => located.word labels fields) t formed

inductive Produced (c : Catalog) : Sql.Term → Prop where
  | lowered {clause : Clause} {e : Expr} {s s' : Scope} {t : Typed} (labels : s.PlainLabels)
      (ends : (e.lower c clause).commit s = .ok (t, s')) : Produced c t.term
  | condition {root : Entity} {q : Query} {t : Sql.Term} (reached : Reachable c root q)
      (kept : q.condition = some t) : Produced c t
  | having {root : Entity} {q : Query} {t : Sql.Term} (reached : Reachable c root q)
      (kept : q.having = some t) : Produced c t
  | order {root : Entity} {q : Query} {t : Sql.Term} (reached : Reachable c root q)
      (kept : t ∈ q.orders) : Produced c t

theorem Produced.parse_render {c : Catalog} {t : Sql.Term} (fields : c.PlainFields)
    (produced : Produced c t) : parse t.render = some t.reading := by
  cases produced with
  | lowered labels ends =>
      have lowers := Expr.lowers_of_lower c _ _ (Steps.commit_ok.mp ends)
      have labels := lowers.grows.plain_labels labels
      exact Sql.Term.parse_render (formed_words labels fields lowers.formed)
  | condition reached kept =>
      have sound := reached.sound
      exact Sql.Term.parse_render (formed_words sound.scope.plain fields (sound.condition t kept))
  | having reached kept =>
      have sound := reached.sound
      exact Sql.Term.parse_render (formed_words sound.scope.plain fields (sound.having t kept))
  | order reached kept =>
      have sound := reached.sound
      obtain ⟨u, d, rfl, formed⟩ := sound.orders t kept
      exact parse_ordering (formed_words sound.scope.plain fields formed) d

/-- The text of a term reads back as the term, up to the types of its columns and to a minus sign
before an unsigned number; so terms with one text are the same up to these. -/
theorem rendered_text_has_one_reading {c : Catalog} {t : Sql.Term} (fields : c.PlainFields)
    (produced : Produced c t) :
    parse t.render = some t.reading ∧
      ∀ (c' : Catalog) (u : Sql.Term), c'.PlainFields → Produced c' u → u.render = t.render →
        u.reading = t.reading := by
  have first := produced.parse_render fields
  refine ⟨first, ?_⟩
  intro c' u otherFields other same
  have second := other.parse_render otherFields
  rw [same, first] at second
  exact (Option.some.inj second).symm

theorem by_author_has_one_reading :
    Sample.catalog.PlainFields ∧
      Produced Sample.catalog
        (.binary (.column ⟨"T2", "name", .string⟩) .eq (.literal "'O''Hara'")) ∧
      parse "T2.name = 'O''Hara'" =
        some (.binary (.column ⟨"T2", "name", .string⟩) .eq (.literal "'O''Hara'")) := by
  have fields := Sample.plain_fields
  have started : Query.start Sample.catalog Sample.page = .ok Sample.start := rfl
  have filtered : (Operator.filter (Sample.writtenBy "O'Hara")).apply Sample.catalog Sample.start =
      .ok Sample.byAuthor := rfl
  have produced : Produced Sample.catalog
      (.binary (.column ⟨"T2", "name", .string⟩) .eq (.literal "'O''Hara'")) :=
    .condition (.step (.start started) filtered) rfl
  exact ⟨fields, produced, (rendered_text_has_one_reading fields produced).1⟩

def Sample.signedLabels : Scope := ⟨[⟨page, "Pages", "T1"⟩, ⟨page, "Pages", "-T1"⟩], []⟩

-- A scope takes any free label. Under one that starts with a minus sign, a column has the text of
-- the negated column of another table.
theorem signed_label_reads_as_negation :
    Sample.catalog.PlainFields ∧
      Sample.start.scope.addSource ⟨Sample.page, "Pages", "-T1"⟩ = .ok Sample.signedLabels ∧
      ((Expr.member (.label "-T1") ["length"]).lower Sample.catalog .condition).commit
          Sample.signedLabels =
        .ok (.ofColumn ⟨"-T1", "length", .integer⟩, Sample.signedLabels) ∧
      ((Expr.unary .neg (.member (.label "T1") ["length"])).lower Sample.catalog .condition).commit
          Sample.signedLabels = .ok (⟨Sample.minusLength, some .integer⟩, Sample.signedLabels) ∧
      render (.column ⟨"-T1", "length", .integer⟩) = Sample.minusLength.render ∧
      parse Sample.minusLength.render = some Sample.minusLength.reading ∧
      reading (.column ⟨"-T1", "length", .integer⟩) ≠ Sample.minusLength.reading := by
  exact ⟨Sample.plain_fields, rfl, rfl, rfl, by decide, by decide, by decide⟩

end WikiQuery
