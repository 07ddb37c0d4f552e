import WikiQuery.Proofs.Rendering
import WikiQuery.Proofs.Sample

/- Output names in SQL text. The printer that knows output names writes what the plain printer
   writes once each outermost term with a name has been replaced by it: names are atoms like columns
   and literals. A name under a minus sign can keep a pair of parentheses. -/
set_option autoImplicit false

namespace WikiQuery

namespace Sql

-- Terms in which names stand for subterms. Each name keeps the term that it replaces.
inductive Shown where
  | output (name : String) (replaced : Term)
  | source (s : Source)
  | column (c : Column)
  | binary (left : Shown) (op : BinaryOp) (right : Shown)
  | unary (op : UnaryOp) (operand : Shown)
  | literal (text : String)
  | function (name : String) (distinct : Bool) (args : List Shown)
  | junction (connective : Connective) (terms : List Shown)
  | ordering (term : Shown) (direction : Direction)

namespace Shown

open Term (parenthesize)

def isComposite : Shown → Bool
  | .binary _ _ _ => true
  | .junction _ _ => true
  | .unary .not _ => true
  | .unary .isNull _ => true
  | .unary .isNotNull _ => true
  | _ => false

def isSigned : Shown → Bool
  | .unary .neg _ => true
  | .literal text => text.toList.head? = some '-'
  | _ => false

def inOperator (x : Shown) (text : String) : String :=
  if x.isComposite then parenthesize text else text

mutual
def text : Shown → String
  | .output name _ => name
  | .source s => s.text
  | .column c => c.text
  | .binary l op r => l.inOperator (text l) ++ " " ++ op.text ++ " " ++ r.inOperator (text r)
  | .unary .not x => "NOT " ++ x.inOperator (text x)
  | .unary .neg x => "-" ++ if x.isSigned then parenthesize (text x) else x.inOperator (text x)
  | .unary .isNull x => x.inOperator (text x) ++ " IS NULL"
  | .unary .isNotNull x => x.inOperator (text x) ++ " IS NOT NULL"
  | .literal text => text
  | .function name distinct args =>
      name ++ "(" ++ (if distinct then "DISTINCT " else "") ++
        String.intercalate "," (argTexts args) ++ ")"
  | .junction k xs => String.intercalate (" " ++ k.text ++ " ") (operandTexts xs)
  | .ordering x d => x.inOperator (text x) ++ " " ++ d.text

def argTexts : List Shown → List String
  | [] => []
  | x :: xs => text x :: argTexts xs

def operandTexts : List Shown → List String
  | [] => []
  | x :: xs => x.inOperator (text x) :: operandTexts xs
end

mutual
def guarded : Shown → Shown
  | .unary .neg (.output name t) =>
      .unary .neg (.output (if t.isSigned then parenthesize name else name) t)
  | .unary op x => .unary op (guarded x)
  | .binary l op r => .binary (guarded l) op (guarded r)
  | .function name distinct args => .function name distinct (allGuarded args)
  | .junction k xs => .junction k (allGuarded xs)
  | .ordering x d => .ordering (guarded x) d
  | x => x

def allGuarded : List Shown → List Shown
  | [] => []
  | x :: xs => guarded x :: allGuarded xs
end

mutual
def asTerm : Shown → Term
  | .output name _ => .literal name
  | .source s => .source s
  | .column c => .column c
  | .binary l op r => .binary (asTerm l) op (asTerm r)
  | .unary op x => .unary op (asTerm x)
  | .literal text => .literal text
  | .function name distinct args => .function name distinct (allAsTerms args)
  | .junction k xs => .junction k (allAsTerms xs)
  | .ordering x d => .ordering (asTerm x) d

def allAsTerms : List Shown → List Term
  | [] => []
  | x :: xs => asTerm x :: allAsTerms xs
end

mutual
def Unsigned : Shown → Prop
  | .output name _ => name.toList.head? ≠ some '-'
  | .source _ | .column _ | .literal _ => True
  | .binary l _ r => Unsigned l ∧ Unsigned r
  | .unary _ x => Unsigned x
  | .function _ _ args => AllUnsigned args
  | .junction _ xs => AllUnsigned xs
  | .ordering x _ => Unsigned x

def AllUnsigned : List Shown → Prop
  | [] => True
  | x :: xs => Unsigned x ∧ AllUnsigned xs
end

end Shown

namespace Term

def standing (names : Names) (t : Term) (x : Shown) : Shown :=
  match nameOf? names t with
  | some name => .output name t
  | none => x

mutual
def substitute (names : Names) : Term → Shown
  | .source s => standing names (.source s) (.source s)
  | .column c => standing names (.column c) (.column c)
  | .binary l op r =>
      standing names (.binary l op r) (.binary (substitute names l) op (substitute names r))
  | .unary op t => standing names (.unary op t) (.unary op (substitute names t))
  | .literal text => standing names (.literal text) (.literal text)
  | .function name distinct args =>
      standing names (.function name distinct args)
        (.function name distinct (substituteAll names args))
  | .junction k ts => standing names (.junction k ts) (.junction k (substituteAll names ts))
  | .ordering t d => standing names (.ordering t d) (.ordering (substitute names t) d)

def substituteAll (names : Names) : List Term → List Shown
  | [] => []
  | t :: ts => substitute names t :: substituteAll names ts
end

end Term

namespace Shown

open Term

theorem is_composite_guarded (x : Shown) : x.guarded.isComposite = x.isComposite := by
  cases x with
  | unary op x => cases op <;> cases x <;> rfl
  | _ => rfl

theorem guarded_neg {x : Shown} (other : ∀ name t, x ≠ .output name t) :
    (unary .neg x).guarded = .unary .neg x.guarded := by
  rw [guarded]
  exact fun name t _ => other name t

theorem is_signed_guarded (x : Shown) : x.guarded.isSigned = x.isSigned := by
  cases x with
  | unary op x => cases op <;> cases x <;> rfl
  | _ => rfl

end Shown

namespace Term

variable {names : Names}

theorem substitute_named {t : Term} {name : String} (isNamed : nameOf? names t = some name) :
    t.substitute names = .output name t := by
  cases t <;> rw [substitute, standing, isNamed]

theorem substitute_unnamed {t : Term} (unnamed : nameOf? names t = none) (name : String)
    (u : Term) : t.substitute names ≠ .output name u := by
  cases t <;> simp [substitute, standing, unnamed]

theorem is_composite_substitute (t : Term) :
    (t.substitute names).isComposite = (t.isComposite && (nameOf? names t).isNone) := by
  cases isNamed : nameOf? names t with
  | some name =>
      rw [substitute_named isNamed]
      simp [Shown.isComposite]
  | none =>
      cases t with
      | unary op t =>
          cases op <;> simp [substitute, standing, isNamed, Shown.isComposite, isComposite]
      | _ => simp [substitute, standing, isNamed, Shown.isComposite, isComposite]

theorem is_signed_substitute {t : Term} (unnamed : nameOf? names t = none) :
    (t.substitute names).isSigned = t.isSigned := by
  cases t with
  | unary op t => cases op <;> simp [substitute, standing, unnamed, Shown.isSigned, isSigned]
  | _ => simp [substitute, standing, unnamed, Shown.isSigned, isSigned]

theorem operand_substitute {t : Term}
    (same : renderWith names t = (t.substitute names).guarded.text) :
    operand names t (renderWith names t) =
      (t.substitute names).guarded.inOperator (t.substitute names).guarded.text := by
  rw [operand, Shown.inOperator, Shown.is_composite_guarded, is_composite_substitute, same]

theorem named_standing {t : Term} {body : String} {x : Shown} (same : body = x.guarded.text) :
    named names t body = (standing names t x).guarded.text := by
  rw [named, standing]
  cases nameOf? names t with
  | none => exact same
  | some name => simp [Shown.guarded, Shown.text]

-- What stands behind a minus sign. A name of a signed term is the one place where the guard acts.
theorem neg_substitute {t : Term}
    (same : renderWith names t = (t.substitute names).guarded.text) :
    ("-" ++ if t.isSigned then parenthesize (renderWith names t)
        else operand names t (renderWith names t)) =
      (Shown.unary .neg (t.substitute names)).guarded.text := by
  cases isNamed : nameOf? names t with
  | some name =>
      rw [render_with_named isNamed, substitute_named isNamed, operand, isNamed]
      rw [Shown.guarded, Shown.text, Shown.text]
      by_cases signed : t.isSigned = true
      · simp [signed, Shown.isSigned, Shown.inOperator, Shown.isComposite]
      · simp [signed, Shown.isSigned, Shown.inOperator, Shown.isComposite]
  | none =>
      rw [Shown.guarded_neg (substitute_unnamed isNamed), Shown.text, Shown.is_signed_guarded,
        is_signed_substitute isNamed, operand_substitute same, same]

mutual
-- By induction on the term; a term that has a name is not looked into on either side.
theorem render_with_substitute (names : Names) :
    ∀ (t : Term), renderWith names t = (t.substitute names).guarded.text
  | .source s => named_standing (by simp [Shown.guarded, Shown.text])
  | .column c => named_standing (by simp [Shown.guarded, Shown.text])
  | .literal text => named_standing (by simp [Shown.guarded, Shown.text])
  | .binary l op r => by
      have left := operand_substitute (render_with_substitute names l)
      have right := operand_substitute (render_with_substitute names r)
      exact named_standing (by simp [Shown.guarded, Shown.text, left, right])
  | .unary .neg t => named_standing (neg_substitute (render_with_substitute names t))
  | .unary .not t => by
      have inner := operand_substitute (render_with_substitute names t)
      exact named_standing (by simp [Shown.guarded, Shown.text, inner])
  | .unary .isNull t => by
      have inner := operand_substitute (render_with_substitute names t)
      exact named_standing (by simp [Shown.guarded, Shown.text, inner])
  | .unary .isNotNull t => by
      have inner := operand_substitute (render_with_substitute names t)
      exact named_standing (by simp [Shown.guarded, Shown.text, inner])
  | .function name distinct args => by
      have inner := render_args_substitute names args
      exact named_standing (by simp [Shown.guarded, Shown.text, inner])
  | .junction k ts => by
      have inner := render_operands_substitute names ts
      exact named_standing (by simp [Shown.guarded, Shown.text, inner])
  | .ordering t d => by
      have inner := operand_substitute (render_with_substitute names t)
      exact named_standing (by simp [Shown.guarded, Shown.text, inner])

theorem render_args_substitute (names : Names) :
    ∀ (ts : List Term),
      renderArgs names ts = Shown.argTexts (Shown.allGuarded (substituteAll names ts))
  | [] => rfl
  | t :: ts => by
      simp [renderArgs, substituteAll, Shown.allGuarded, Shown.argTexts,
        render_with_substitute names t, render_args_substitute names ts]

theorem render_operands_substitute (names : Names) :
    ∀ (ts : List Term),
      renderOperands names ts = Shown.operandTexts (Shown.allGuarded (substituteAll names ts))
  | [] => rfl
  | t :: ts => by
      simp [renderOperands, substituteAll, Shown.allGuarded, Shown.operandTexts,
        operand_substitute (render_with_substitute names t), render_operands_substitute names ts]
end

end Term

namespace Shown

open Term

theorem is_composite_as_term (x : Shown) : x.asTerm.isComposite = x.isComposite := by
  cases x with
  | unary op x => cases op <;> rfl
  | _ => rfl

theorem is_signed_as_term {x : Shown} (unsigned : x.Unsigned) : x.asTerm.isSigned = x.isSigned := by
  cases x with
  | output name t => simpa [asTerm, Term.isSigned, isSigned, Unsigned] using unsigned
  | unary op x => cases op <;> rfl
  | _ => rfl

theorem in_operator_as_term {x : Shown} (same : x.text = x.asTerm.render) :
    x.inOperator x.text = x.asTerm.operandText := by
  rw [inOperator, operandText, is_composite_as_term, same]

mutual
theorem text_as_term : ∀ (x : Shown), x.Unsigned → x.text = x.asTerm.render
  | .output name t, _ => by simp [text, asTerm, render_literal]
  | .source s, _ => by rw [text]; rfl
  | .column c, _ => by simp [text, asTerm, render_column]
  | .literal content, _ => by simp [text, asTerm, render_literal]
  | .binary l op r, unsigned => by
      have left := in_operator_as_term (text_as_term l unsigned.1)
      have right := in_operator_as_term (text_as_term r unsigned.2)
      simp [text, asTerm, render_binary, left, right]
  | .unary .not x, unsigned => by
      have inner := in_operator_as_term (text_as_term x unsigned)
      simp [text, asTerm, render_not, inner]
  | .unary .neg x, unsigned => by
      have inner := text_as_term x unsigned
      have sign : x.asTerm.isSigned = x.isSigned := is_signed_as_term unsigned
      rw [text, in_operator_as_term inner, inner, asTerm, render_neg, sign]
  | .unary .isNull x, unsigned => by
      have inner := in_operator_as_term (text_as_term x unsigned)
      simp [text, asTerm, render_is_null, inner]
  | .unary .isNotNull x, unsigned => by
      have inner := in_operator_as_term (text_as_term x unsigned)
      simp [text, asTerm, render_is_not_null, inner]
  | .function name distinct args, unsigned => by
      have inner := arg_texts_as_terms args unsigned
      simp [text, asTerm, render_function, inner]
  | .junction k xs, unsigned => by
      have inner := operand_texts_as_terms xs unsigned
      simp [text, asTerm, render_junction, inner]
  | .ordering x d, unsigned => by
      have inner := in_operator_as_term (text_as_term x unsigned)
      simp [text, asTerm, render_ordering, inner]

theorem arg_texts_as_terms :
    ∀ (xs : List Shown), AllUnsigned xs → argTexts xs = (allAsTerms xs).map render
  | [], _ => rfl
  | x :: xs, unsigned => by
      simp [argTexts, allAsTerms, text_as_term x unsigned.1, arg_texts_as_terms xs unsigned.2]

theorem operand_texts_as_terms :
    ∀ (xs : List Shown), AllUnsigned xs → operandTexts xs = (allAsTerms xs).map operandText
  | [], _ => rfl
  | x :: xs, unsigned => by
      simp [operandTexts, allAsTerms, in_operator_as_term (text_as_term x unsigned.1),
        operand_texts_as_terms xs unsigned.2]
end

end Shown

end Sql

open Sql

/-- Printing with output names is substitution followed by plain printing. Each outermost term with
a name is replaced by the first name it has, and the name is written as it is; only right under a
minus sign it keeps the parentheses of a term with a sign of its own. Plain printing writes a name
as it writes a literal. -/
theorem output_names_substituted_then_printed (names : Names) (t : Term) :
    t.renderWith names = (t.substitute names).guarded.text ∧
      ∀ x : Shown, x.Unsigned → x.text = x.asTerm.render :=
  ⟨Term.render_with_substitute names t, Shown.text_as_term⟩

-- The inner minus sign goes into the first of its names; the parentheses around it stay.
theorem signs_named_then_printed :
    Sample.signsTerm.renderWith Sample.signNames = "-(n) - -5" ∧
      (Sample.signsTerm.substitute Sample.signNames).guarded.Unsigned ∧
      (Sample.signsTerm.substitute Sample.signNames).guarded.asTerm.render = "-(n) - -5" := by
  obtain ⟨substituted, plain⟩ :=
    output_names_substituted_then_printed Sample.signNames Sample.signsTerm
  have unsigned : (Sample.signsTerm.substitute Sample.signNames).guarded.Unsigned :=
    ⟨(by decide : "(n)".toList.head? ≠ some '-'), trivial⟩
  have written : Sample.signsTerm.renderWith Sample.signNames = "-(n) - -5" := rfl
  refine ⟨written, unsigned, ?_⟩
  rw [← plain _ unsigned, ← substituted]
  exact written

end WikiQuery
