import WikiQuery.Sql.Term

/- SQL text of terms. An operand that is itself an operator stands in parentheses, and a term that
   is projected under an output name can be replaced by that name. -/
set_option autoImplicit false

namespace WikiQuery.Sql

-- Output names of projected terms; the first entry for a term counts.
abbrev Names := List (Term × String)

def nameOf? (names : Names) (t : Term) : Option String :=
  (names.find? fun entry => entry.1 = t).map Prod.snd

namespace Term

def isComposite : Term → Bool
  | .binary _ _ _ => true
  | .junction _ _ => true
  | .unary .not _ => true
  | .unary .isNull _ => true
  | .unary .isNotNull _ => true
  | _ => false

-- Terms whose text starts with a minus sign; a second sign before it would open a comment.
def isSigned : Term → Bool
  | .unary .neg _ => true
  | .literal text => text.toList.head? = some '-'
  | _ => false

def parenthesize (text : String) : String := "(" ++ text ++ ")"

def operand (names : Names) (t : Term) (text : String) : String :=
  if t.isComposite && (nameOf? names t).isNone then parenthesize text else text

def named (names : Names) (t : Term) (text : String) : String := (nameOf? names t).getD text

mutual
def renderWith (names : Names) : Term → String
  | .source s => named names (.source s) s.text
  | .column c => named names (.column c) c.text
  | .binary l op r =>
      named names (.binary l op r)
        (operand names l (renderWith names l) ++ " " ++ op.text ++ " " ++
          operand names r (renderWith names r))
  | .unary .not t =>
      named names (.unary .not t) ("NOT " ++ operand names t (renderWith names t))
  | .unary .neg t =>
      named names (.unary .neg t)
        ("-" ++ if t.isSigned then parenthesize (renderWith names t)
          else operand names t (renderWith names t))
  | .unary .isNull t =>
      named names (.unary .isNull t) (operand names t (renderWith names t) ++ " IS NULL")
  | .unary .isNotNull t =>
      named names (.unary .isNotNull t) (operand names t (renderWith names t) ++ " IS NOT NULL")
  | .literal text => named names (.literal text) text
  | .function name distinct args =>
      named names (.function name distinct args)
        (name ++ "(" ++ (if distinct then "DISTINCT " else "") ++
          String.intercalate "," (renderArgs names args) ++ ")")
  | .junction c ts =>
      named names (.junction c ts)
        (String.intercalate (" " ++ c.text ++ " ") (renderOperands names ts))
  | .ordering t d =>
      named names (.ordering t d) (operand names t (renderWith names t) ++ " " ++ d.text)

def renderArgs (names : Names) : List Term → List String
  | [] => []
  | t :: ts => renderWith names t :: renderArgs names ts

def renderOperands (names : Names) : List Term → List String
  | [] => []
  | t :: ts => operand names t (renderWith names t) :: renderOperands names ts
end

def render (t : Term) : String := renderWith [] t

end Term

end WikiQuery.Sql
