import WikiQuery.Error

/- Rows of an answer. Every cell is text; `NULL` arrives as the empty text. -/
set_option autoImplicit false

namespace WikiQuery

structure Row where
  cells : List (String × String)
deriving DecidableEq

inductive CellKind where
  | integer (range : IntegerRange)
  | real
  | truth
  | text
deriving DecidableEq

inductive Cell where
  | integer (i : Int)
  | real (x : Binary64)
  | truth (b : Bool)
  | text (s : String)
deriving DecidableEq

def Cell.display : Cell → String
  | .integer i => Value.intText i
  | .real x => x.text
  | .truth b => if b then "true" else "false"
  | .text s => s

def CellKind.read (kind : CellKind) (s : String) : Except CellError Cell :=
  match kind with
  | .integer range =>
      match range.read s.toList with
      | .ok i => .ok (.integer i)
      | .error e => .error (.number e)
  | .real =>
      match Binary64.read s.toList with
      | .ok x => .ok (.real x)
      | .error e => .error (.number e)
  | .truth =>
      if s = "true" then .ok (.truth true)
      else if s = "false" then .ok (.truth false)
      else .error .truth
  | .text => .ok (.text s)

namespace Row

def empty : Row := ⟨[]⟩

def put (name cell : String) : List (String × String) → List (String × String)
  | [] => [(name, cell)]
  | (other, old) :: rest =>
      if other = name then (name, cell) :: rest else (other, old) :: put name cell rest

def insert (row : Row) (name cell : String) : Row := ⟨put name cell row.cells⟩

def ofCells (cells : List (String × String)) : Row :=
  cells.foldl (fun row c => row.insert c.1 c.2) empty

def get? (row : Row) (name : String) : Option String := row.cells.lookup name

def read (row : Row) (name : String) (kind : CellKind) : Except QueryError Cell :=
  match row.get? name with
  | none => .error (.missingCell name)
  | some raw =>
      match kind.read (Text.trim raw) with
      | .ok cell => .ok cell
      | .error e => .error (.badCell name raw e)

def read? (row : Row) (name : String) (kind : CellKind) : Except QueryError (Option Cell) :=
  match row.get? name with
  | none => .ok none
  | some raw => if (Text.trim raw).isEmpty then .ok none else (row.read name kind).map some

def items (delimiter : Char) (cell : String) : List String :=
  ((Text.split delimiter cell).map Text.trim).filter fun item => !item.isEmpty

def list (row : Row) (name : String) (delimiter : Char) : List String :=
  match row.get? name with
  | none => []
  | some cell => items delimiter cell

def truth? (row : Row) (name : String) : Option Bool :=
  match row.get? name with
  | none => none
  | some raw =>
      let word := Text.trim raw
      if word = "1" ∨ word = "true" ∨ word = "yes" then some true
      else if word = "0" ∨ word = "false" ∨ word = "no" then some false
      else none

def moment (row : Row) (name : String) : Except QueryError Moment :=
  match row.get? name with
  | none => .error (.missingCell name)
  | some raw =>
      let word := Text.trim raw
      match Calendar.readMoment word.toList with
      | .ok t => .ok t
      | .error e => .error (.badCell name word (.calendar e))

end Row

end WikiQuery
