import WikiQuery.Calendar.Moment
import WikiQuery.FieldType
import WikiQuery.Number.DecimalText
import WikiQuery.Text.Quoted

/- Constants that a query captures. -/
set_option autoImplicit false

namespace WikiQuery

inductive Value where
  | null
  | bool (b : Bool)
  | int (i : Int)
  | float (x : Binary64)
  | text (s : String)
  | date (d : Date)
  | moment (t : Moment)
  | list (items : List Value)

namespace Value

def isNull : Value → Bool
  | .null => true
  | _ => false

def isList : Value → Bool
  | .list _ => true
  | _ => false

def naturalType : Value → Option FieldType
  | .null | .list _ => none
  | .bool _ => some .boolean
  | .int _ => some .integer
  | .float _ => some .float
  | .text _ => some .string
  | .date _ => some .date
  | .moment _ => some .datetime

mutual
def fits (declared : FieldType) : Value → Bool
  | .null => true
  | .bool _ => declared.typeClass == .boolean
  | .int _ | .float _ => declared.isNumeric || declared.isText
  | .text _ => declared.isText || declared.isTemporal
  | .date _ | .moment _ => declared.isTemporal
  | .list items => allFit declared items

def allFit (declared : FieldType) : List Value → Bool
  | [] => true
  | item :: rest => fits declared item && allFit declared rest
end

def intText (i : Int) : String :=
  if i < 0 then "-" ++ Nat.repr i.natAbs else Nat.repr i.natAbs

mutual
def display : Value → String
  | .null => "null"
  | .bool b => if b then "true" else "false"
  | .int i => intText i
  | .float x => x.text
  | .text s => Text.quoted s
  | .date d => d.text
  | .moment t => t.text
  | .list items => "[" ++ itemsText items ++ "]"

def itemsText : List Value → String
  | [] => ""
  | [item] => display item
  | item :: rest => display item ++ ", " ++ itemsText rest
end

mutual
def same : Value → Value → Bool
  | .null, .null => true
  | .bool a, .bool b => a == b
  | .int a, .int b => a == b
  | .float a, .float b => a.same b
  | .text a, .text b => a == b
  | .date a, .date b => a == b
  | .moment a, .moment b => a == b
  | .list a, .list b => allSame a b
  | _, _ => false

def allSame : List Value → List Value → Bool
  | [], [] => true
  | a :: as, b :: bs => same a b && allSame as bs
  | _, _ => false
end

theorem all_fit_eq (declared : FieldType) (items : List Value) :
    allFit declared items = items.all (fits declared) := by
  induction items with
  | nil => rfl
  | cons item rest ih => simp [allFit, ih]

end Value

end WikiQuery
