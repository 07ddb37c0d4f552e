import WikiQuery.Proofs.Tokens
import WikiQuery.Sql.Term
import WikiQuery.Sql.Render

/- A reader for SQL terms. An operand is an atom, an atom behind a minus sign, or a compound in
   parentheses; a compound is an operand with a test, two operands around an operator, operands
   joined by one connective, or a negated operand. -/
set_option autoImplicit false

namespace WikiQuery.SqlText

open Sql Sql.Term

abbrev Reader := List Char → Option (Term × List Char)

def strip? : List Char → List Char → Option (List Char)
  | [], cs => some cs
  | _ :: _, [] => none
  | p :: ps, c :: cs => if p = c then strip? ps cs else none

inductive Follow where
  | isNull
  | isNotNull
  | connective (k : Connective)
  | operator (op : Sql.BinaryOp)

namespace Follow

def text : Follow → String
  | .isNull => " IS NULL"
  | .isNotNull => " IS NOT NULL"
  | .connective k => " " ++ k.text ++ " "
  | .operator op => " " ++ op.text ++ " "

def all : List Follow :=
  [.isNull, .isNotNull, .connective .and, .connective .or] ++
    [Sql.BinaryOp.eq, .ne, .lt, .le, .gt, .ge, .add, .sub, .mul, .div, .like, .isIn, .notIn,
      .holds].map Follow.operator

end Follow

def follow? (cs : List Char) : Option (Follow × List Char) :=
  Follow.all.findSome? fun f => (strip? f.text.toList cs).map fun rest => (f, rest)

def chain (read : Reader) (k : Connective) : Nat → List Char → Option (List Term × List Char)
  | 0, _ => none
  | bound + 1, cs => do
      let (t, rest) ← read cs
      match strip? (Follow.connective k).text.toList rest with
      | some rest => (chain read k bound rest).map fun p => (t :: p.1, p.2)
      | none => some ([t], rest)

def compound (read : Reader) (t : Term) (cs : List Char) : Option (Term × List Char) :=
  match follow? cs with
  | none => some (t, cs)
  | some (.isNull, rest) => some (.unary .isNull t, rest)
  | some (.isNotNull, rest) => some (.unary .isNotNull t, rest)
  | some (.connective k, rest) =>
      (chain read k (rest.length + 1) rest).map fun p => (.junction k (t :: p.1), p.2)
  | some (.operator op, rest) => (read rest).map fun p => (.binary t op p.1, p.2)

def expression (read : Reader) (cs : List Char) : Option (Term × List Char) :=
  match strip? "NOT ".toList cs with
  | some rest => (read rest).map fun p => (.unary .not p.1, p.2)
  | none => (read cs).bind fun p => compound read p.1 p.2

def closed : Option (Term × List Char) → Option (Term × List Char)
  | some (t, ')' :: rest) => some (t, rest)
  | _ => none

-- A minus sign before an unsigned number belongs to the number.
def negated : Term → Term
  | .literal text =>
      if text.toList.head?.any Char.isDigit then .literal ("-" ++ text)
      else .unary .neg (.literal text)
  | t => .unary .neg t

def call (read : Reader) (name : String) (cs : List Char) : Option (Term × List Char) :=
  match strip? "DISTINCT ".toList cs with
  | some rest => (closed (expression read rest)).map fun p => (.function name true [p.1], p.2)
  | none => (closed (expression read cs)).map fun p => (.function name false [p.1], p.2)

def readLiteral : Reader
  | '*' :: rest => some (.literal "*", rest)
  | cs => (readToken cs).map fun p => (.literal p.1.text, p.2)

def atom (read : Reader) (cs : List Char) : Option (Term × List Char) :=
  let word := String.ofList (cs.takeWhile isWordChar)
  match cs.dropWhile isWordChar, isIdentifier word with
  | '.' :: rest, true =>
      some (.column ⟨word, String.ofList (rest.takeWhile isWordChar), .string⟩,
        rest.dropWhile isWordChar)
  | '(' :: rest, true => call read word rest
  | _, _ => readLiteral cs

def readGroup : Reader := fun cs =>
  (readEnumeration cs).map fun p =>
    (.literal ("(" ++ String.intercalate "," (p.1.map Token.text) ++ ")"), p.2)

def group (read : Reader) (rest : List Char) : Option (Term × List Char) :=
  match closed (expression read rest) with
  | some (t, after) => if t.isComposite then some (t, after) else readGroup ('(' :: rest)
  | none => readGroup ('(' :: rest)

def operandWith (read : Reader) : Reader
  | '-' :: '(' :: rest =>
      (closed (expression read rest)).map fun p => (.unary .neg p.1, p.2)
  | '-' :: rest => (atom read rest).map fun p => (negated p.1, p.2)
  | '(' :: rest => group read rest
  | cs => atom read cs

def readOperand : Nat → Reader
  | 0 => fun _ => none
  | depth + 1 => operandWith (readOperand depth)

def parse (text : String) : Option Term :=
  match expression (readOperand text.length) text.toList with
  | some (t, []) => some t
  | some (t, [' ', 'A', 'S', 'C']) => some (.ordering t .asc)
  | some (t, [' ', 'D', 'E', 'S', 'C']) => some (.ordering t .desc)
  | _ => none

end WikiQuery.SqlText

namespace WikiQuery.Sql.Term

mutual
-- What the text of a term keeps of it: not the types of columns, nor whether a minus sign stands
-- apart from an unsigned number.
def reading : Term → Term
  | .source s => .source s
  | .column c => .column { c with type := .string }
  | .binary l op r => .binary l.reading op r.reading
  | .unary .neg t => SqlText.negated t.reading
  | .unary op t => .unary op t.reading
  | .literal text => .literal text
  | .function name distinct args => .function name distinct (readings args)
  | .junction k ts => .junction k (readings ts)
  | .ordering t d => .ordering t.reading d

def readings : List Term → List Term
  | [] => []
  | t :: ts => t.reading :: readings ts
end

theorem readings_eq (ts : List Term) : readings ts = ts.map reading := by
  induction ts with
  | nil => rfl
  | cons t ts ih => simp [readings, ih]

end WikiQuery.Sql.Term
