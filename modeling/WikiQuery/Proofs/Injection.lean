import WikiQuery.Proofs.Blanking
import WikiQuery.Proofs.Identifiers
import WikiQuery.Proofs.Rendering
import WikiQuery.Proofs.Sample
import WikiQuery.Proofs.Shape

/- Texts stay inside their literals. Whatever the texts of an expression hold, they change nothing
   of the SQL text but the insides of its string literals. -/
set_option autoImplicit false

namespace WikiQuery

open SqlText

namespace Sql.Term

theorem is_composite_blank (t : Term) : t.blank.isComposite = t.isComposite := by
  cases t with
  | unary op t => cases op <;> rfl
  | _ => rfl

theorem is_signed_blank {t : Term} (number : t.Negatable) : t.blank.isSigned = t.isSigned := by
  cases t with
  | literal text =>
      have same : masked text = text := masked_plain (plain_number number)
      rw [blank, same]
  | unary op t => cases op <;> rfl
  | _ => rfl

theorem masks_operand {t : Term} (masks : Masks t.render.toList t.blank.render.toList) :
    Masks t.operandText.toList t.blank.operandText.toList := by
  rw [operandText, operandText, is_composite_blank]
  split
  · simp only [parenthesize, String.toList_append]
    exact .before (.after (by decide) masks) (by decide)
  · exact masks

theorem plain_op (op : BinaryOp) : Plain op.text.toList := by
  cases op <;> decide

theorem plain_connective (k : Connective) : Plain (" " ++ k.text ++ " ").toList := by
  cases k <;> decide

theorem plain_function_name : ∀ name ∈ functionNames, Plain name.toList := by
  decide

def PlainColumn (c : Column) : Prop := Plain c.text.toList

mutual
theorem render_masks : ∀ (t : Term), Formed PlainColumn t →
    Masks t.render.toList t.blank.render.toList
  | .source _, formed => formed.elim
  | .column c, formed => masks_plain formed
  | .literal text, formed => masks_literal formed
  | .binary l op r, formed => by
      have left := masks_operand (render_masks l formed.1)
      have right := masks_operand (render_masks r formed.2)
      simp only [blank, render_binary, String.toList_append, List.append_assoc]
      exact left.append (.after (by decide) (.after (plain_op op) (.after (by decide) right)))
        (by simp)
  | .unary .not t, formed => by
      have inner := masks_operand (render_masks t formed.1)
      simp only [blank, render_not, String.toList_append]
      exact .after (by decide) inner
  | .unary .neg t, formed => by
      have inner := render_masks t formed.1
      simp only [blank, render_neg, String.toList_append, is_signed_blank (formed.2 rfl)]
      refine .after (by decide) ?_
      split
      · simp only [parenthesize, String.toList_append]
        exact .before (.after (by decide) inner) (by decide)
      · exact masks_operand inner
  | .unary .isNull t, formed => by
      have inner := masks_operand (render_masks t formed.1)
      simp only [blank, render_is_null, String.toList_append]
      exact .before inner (by decide)
  | .unary .isNotNull t, formed => by
      have inner := masks_operand (render_masks t formed.1)
      simp only [blank, render_is_not_null, String.toList_append]
      exact .before inner (by decide)
  | .function name distinct args, formed => by
      have inner := all_render_masks args formed.2.2
      have opening : Plain (if distinct then "DISTINCT " else "").toList := by
        cases distinct <;> decide
      simp only [blank, blank_all_eq, render_function, String.toList_append,
        String.toList_intercalate, List.map_map, List.append_assoc]
      refine .after (plain_function_name name formed.1) (.after (by decide) (.after opening ?_))
      exact .before (.intercalate (by decide) (by decide) inner) (by decide)
  | .junction k ts, formed => by
      have inner := all_render_masks ts formed.2
      simp only [blank, blank_all_eq, render_junction, String.toList_intercalate, List.map_map]
      refine .intercalate (plain_connective k) ?_ fun t member => masks_operand (inner t member)
      cases k <;> decide
  | .ordering _ _, formed => formed.elim

theorem all_render_masks : ∀ (ts : List Term), AllFormed PlainColumn ts →
    ∀ t ∈ ts, Masks t.render.toList t.blank.render.toList
  | t :: ts, formed, u, member => by
      have first := render_masks t formed.1
      rcases List.mem_cons.mp member with same | member
      · rw [same]
        exact first
      · exact all_render_masks ts formed.2 u member
end

end Sql.Term

open Sql.Term

theorem plain_of_words {cs : List Char} (words : ∀ c ∈ cs, isWordChar c = true) : Plain cs := by
  intro quote
  exact absurd (words _ quote) (by decide)

def Catalog.QuoteFree (c : Catalog) : Prop :=
  ∀ table ∈ c.tables, ∀ f ∈ table.fields, '\'' ∉ f.name.toList

theorem Located.plain {c : Catalog} {s : Scope} {column : Column} (located : Located c s column)
    (labels : s.PlainLabels) (fields : c.QuoteFree) : PlainColumn column := by
  have label := plain_of_words (identifier_words (located.label_identifier labels))
  have field : Plain column.field.toList :=
    located.field_name (p := fun name => Plain name.toList) fields (by decide)
  simp only [PlainColumn, Column.text, String.toList_append, Plain, List.mem_append, not_or]
  exact ⟨⟨label, by decide⟩, field⟩

theorem Lowers.render_masks {c : Catalog} {clause : Clause} {e : Expr} {s s' : Scope} {t : Typed}
    (lowers : Lowers c clause e s t s') (labels : s.PlainLabels) (fields : c.QuoteFree) :
    mask t.term.render = some t.term.blank.render := by
  have formed : Formed PlainColumn t.term := by
    refine formed_mono ?_ t.term lowers.formed
    intro column located
    exact located.plain (lowers.grows.plain_labels labels) fields
  rw [(Sql.Term.render_masks t.term formed).complete, String.ofList_toList]

def SameOutsideLiterals (x y : Typed × Scope) : Prop :=
  x.1.type = y.1.type ∧ x.2 = y.2 ∧
    ∃ text, mask x.1.term.render = some text ∧ mask y.1.term.render = some text

/-- Two expressions that differ only in what their texts hold fail with errors of one kind, or
become terms of one type over one scope, with SQL texts that are the same outside string
literals. -/
theorem texts_stay_inside_literals {c : Catalog} {s : Scope} (clause : Clause) {e e' : Expr}
    (fields : c.QuoteFree) (labels : s.PlainLabels) (same : e.blank = e'.blank) :
    Agree QueryError.kind SameOutsideLiterals ((e.lower c clause).commit s)
      ((e'.lower c clause).commit s) := by
  have left := Expr.lower_blank c clause e
  have right := Expr.lower_blank c clause e'
  rw [same] at left
  have alike := left.join right fun _ _ _ first second => first.join second
  refine (alike.commit s).with_ends.mono ?_
  rintro ⟨t, m⟩ ⟨u, m'⟩ ⟨ends, ends', ⟨types, terms⟩, scopes⟩
  have lowers := Expr.lowers_of_lower c clause e (Steps.commit_ok.mp ends)
  have lowers' := Expr.lowers_of_lower c clause e' (Steps.commit_ok.mp ends')
  refine ⟨types, scopes, t.term.blank.render, lowers.render_masks labels fields, ?_⟩
  rw [terms]
  exact lowers'.render_masks labels fields

theorem hostile_title_stays_inside :
    Sample.catalog.QuoteFree ∧ Sample.start.scope.PlainLabels ∧
      (Sample.titled "" "x").blank = (Sample.titled "\\' OR 1=1 -- " "'").blank ∧
      Agree QueryError.kind SameOutsideLiterals
        (((Sample.titled "" "x").lower Sample.catalog .condition).commit Sample.start.scope)
        (((Sample.titled "\\' OR 1=1 -- " "'").lower Sample.catalog .condition).commit
          Sample.start.scope) := by
  have fields : Sample.catalog.QuoteFree := by
    rw [Catalog.QuoteFree]
    decide
  have labels : Sample.start.scope.PlainLabels := by
    rw [Scope.PlainLabels]
    decide
  exact ⟨fields, labels, rfl, texts_stay_inside_literals .condition fields labels rfl⟩

end WikiQuery
