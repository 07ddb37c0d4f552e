import WikiQuery.Value

/- SQL literal text. Everything that a caller puts into a query reaches its text through `quote`,
   `escapeLike` or the literal of a number, a truth value or `NULL`. -/
set_option autoImplicit false

namespace WikiQuery

inductive LiteralError where
  | notFinite (x : Binary64)
  | emptyList
  | nestedList (items : Value)

namespace Literal

def double (cs : List Char) : List Char :=
  cs.flatMap fun c => if c = '\'' ∨ c = '\\' then [c, c] else [c]

def quote (s : String) : String := "'" ++ String.ofList (double s.toList) ++ "'"

def escapePattern (cs : List Char) : List Char :=
  cs.flatMap fun c => if c = '\\' ∨ c = '%' ∨ c = '_' then ['\\', c] else [c]

def escapeLike (s : String) : String := String.ofList (escapePattern s.toList)

def number (declared : Option FieldType) (digits : String) : String :=
  if declared.any FieldType.isText then quote digits else digits

def date (declared : Option FieldType) (d : Date) : String :=
  match declared with
  | some .date | none => quote d.text
  | some _ => quote (d.text ++ " 00:00:00")

def scalar (declared : Option FieldType) : Value → Except LiteralError String
  | .null => .ok "NULL"
  | .bool b => .ok (if b then "TRUE" else "FALSE")
  | .int i => .ok (number declared (Value.intText i))
  | .float x => if x.isFinite then .ok (number declared x.text) else .error (.notFinite x)
  | .text s => .ok (quote s)
  | .date d => .ok (date declared d)
  | .moment t => .ok (quote t.text)
  | .list items => .error (.nestedList (.list items))

def scalars (declared : Option FieldType) : List Value → Except LiteralError (List String)
  | [] => .ok []
  | item :: rest => do
      let text ← scalar declared item
      let texts ← scalars declared rest
      .ok (text :: texts)

def enumeration (declared : Option FieldType) (items : List Value) : Except LiteralError String :=
  match items with
  | [] => .error .emptyList
  | items => do
      let texts ← scalars (declared.map FieldType.element) items
      .ok ("(" ++ String.intercalate "," texts ++ ")")

def ofValue (declared : Option FieldType) : Value → Except LiteralError String
  | .list items => enumeration declared items
  | value => scalar declared value

end Literal

end WikiQuery
