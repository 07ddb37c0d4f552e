import WikiQuery.Sql.Render

/- The text of a term without output names, one equation for each kind of term. Lists of terms are
   written term by term, and a term with an output name is written as its name. -/
set_option autoImplicit false

namespace WikiQuery.Sql.Term

def operandText (t : Term) : String := if t.isComposite then parenthesize t.render else t.render

theorem render_args_eq (names : Names) (ts : List Term) :
    renderArgs names ts = ts.map (renderWith names) := by
  induction ts with
  | nil => rfl
  | cons t ts ih => simp [renderArgs, ih]

theorem render_operands_eq (names : Names) (ts : List Term) :
    renderOperands names ts = ts.map fun t => operand names t (renderWith names t) := by
  induction ts with
  | nil => rfl
  | cons t ts ih => simp [renderOperands, ih]

theorem render_with_named {names : Names} {t : Term} {name : String}
    (isNamed : nameOf? names t = some name) : renderWith names t = name := by
  cases t with
  | unary op t => cases op <;> rw [renderWith, named, isNamed] <;> rfl
  | _ => rw [renderWith, named, isNamed]; rfl

theorem operand_nil (t : Term) : operand [] t (renderWith [] t) = t.operandText := by
  simp [operand, nameOf?, operandText, render]

theorem render_args_nil (ts : List Term) : renderArgs [] ts = ts.map render := render_args_eq [] ts

theorem render_operands_nil (ts : List Term) : renderOperands [] ts = ts.map operandText := by
  rw [render_operands_eq]
  exact List.map_congr_left fun t _ => operand_nil t

theorem render_column (c : Column) : render (.column c) = c.text := rfl

theorem render_literal (text : String) : render (.literal text) = text := rfl

theorem render_binary (l r : Term) (op : BinaryOp) :
    render (.binary l op r) = l.operandText ++ " " ++ op.text ++ " " ++ r.operandText := by
  simp [render, renderWith, named, nameOf?, operand_nil]

theorem render_not (t : Term) : render (.unary .not t) = "NOT " ++ t.operandText := by
  simp [render, renderWith, named, nameOf?, operand_nil]

theorem render_neg (t : Term) :
    render (.unary .neg t) =
      "-" ++ if t.isSigned then parenthesize t.render else t.operandText := by
  simp [render, renderWith, named, nameOf?, operand_nil]

theorem render_is_null (t : Term) : render (.unary .isNull t) = t.operandText ++ " IS NULL" := by
  simp [render, renderWith, named, nameOf?, operand_nil]

theorem render_is_not_null (t : Term) :
    render (.unary .isNotNull t) = t.operandText ++ " IS NOT NULL" := by
  simp [render, renderWith, named, nameOf?, operand_nil]

theorem render_function (name : String) (distinct : Bool) (args : List Term) :
    render (.function name distinct args) =
      name ++ "(" ++ (if distinct then "DISTINCT " else "") ++
        String.intercalate "," (args.map render) ++ ")" := by
  simp [render, renderWith, named, nameOf?, render_args_nil]

theorem render_junction (k : Connective) (ts : List Term) :
    render (.junction k ts) =
      String.intercalate (" " ++ k.text ++ " ") (ts.map operandText) := by
  simp [render, renderWith, named, nameOf?, render_operands_nil]

theorem render_ordering (t : Term) (d : Direction) :
    render (.ordering t d) = t.operandText ++ " " ++ d.text := by
  simp [render, renderWith, named, nameOf?, operand_nil]

end WikiQuery.Sql.Term
