import WikiQuery.Catalog

/- The tables and joins that a query can see. -/
set_option autoImplicit false

namespace WikiQuery

inductive JoinKind where
  | equal
  | holds
deriving DecidableEq

-- A join condition; `via` names the relation that brought it in, if one did.
structure Join where
  left : Column
  right : Column
  kind : JoinKind
  via : Option String
deriving DecidableEq

def Join.text (j : Join) : String :=
  match j.kind with
  | .equal => j.left.text ++ "=" ++ j.right.text
  | .holds => j.left.text ++ " HOLDS " ++ j.right.text

def Join.mentions (j : Join) (label : String) : Bool :=
  j.left.label == label || j.right.label == label

structure Scope where
  sources : List Source
  joins : List Join
deriving DecidableEq

def generatedLabel (n : Nat) : String := "T" ++ Nat.repr n

namespace Scope

def empty : Scope := ⟨[], []⟩

def source? (s : Scope) (label : String) : Option Source :=
  s.sources.find? fun source => source.label = label

def isFree (s : Scope) (label : String) : Bool := (s.source? label).isNone

-- The candidates for a new label: with `n` tables, one of the `n + 1` numbers from `n + 1` on is
-- free.
def candidates (s : Scope) : List Nat :=
  (List.range (s.sources.length + 1)).map fun k => s.sources.length + 1 + k

def nextLabel (s : Scope) : String :=
  generatedLabel
    ((s.candidates.find? fun k => s.isFree (generatedLabel k)).getD (2 * s.sources.length + 1))

def addSource (s : Scope) (source : Source) : Except QueryError Scope :=
  if s.isFree source.label then .ok { s with sources := s.sources ++ [source] }
  else .error (.labelTaken source.label)

def addJoin (s : Scope) (j : Join) : Scope := { s with joins := s.joins ++ [j] }

def joined? (s : Scope) (label relation : String) : Option Join :=
  s.joins.find? fun j => j.via = some relation && j.left.label == label

def sourcesOf (s : Scope) (e : Entity) : List Source :=
  s.sources.filter fun source => source.entity = e

end Scope

end WikiQuery
