import WikiQuery.Lowering

/- Queries. An operator lowers its expressions at once and gives a new query; when it fails, the
   query it was called on is left as it was. -/
set_option autoImplicit false

namespace WikiQuery

structure Output where
  term : Sql.Term
  name : Option String
deriving DecidableEq

structure Query where
  scope : Scope
  condition : Option Sql.Term
  outputs : List Output
  groups : List Sql.Term
  having : Option Sql.Term
  orders : List Sql.Term
  limit : Option UInt64
  offset : Option UInt64
  distinct : Bool
deriving DecidableEq

def isIdentifier (s : String) : Bool :=
  match s.toList with
  | [] => false
  | c :: rest => (c.isAlpha || c == '_') && rest.all fun c => c.isAlphanum || c == '_'

def checkIdentifier (s : String) : Except QueryError Unit :=
  if isIdentifier s then .ok () else .error (.badLabel s)

namespace Query

def ofSource (root : Source) : Query where
  scope := ⟨[root], []⟩
  condition := none
  outputs := []
  groups := []
  having := none
  orders := []
  limit := none
  offset := none
  distinct := false

def start (c : Catalog) (e : Entity) : Except QueryError Query := do
  let table ← c.tableOf e
  .ok (ofSource ⟨table.entity, table.name, generatedLabel 1⟩)

def combine (connective : Connective) (existing : Option Sql.Term) (predicate : Sql.Term) :
    Sql.Term :=
  match existing with
  | none => predicate
  | some t => .junction connective (Typed.chainTerms connective t ++ [predicate])

def filterBy (connective : Connective) (c : Catalog) (e : Expr) (q : Query) :
    Except QueryError Query := do
  let (predicate, scope) ← (e.lowerPredicate c .condition).commit q.scope
  .ok { q with scope := scope, condition := some (combine connective q.condition predicate) }

def filter (c : Catalog) (e : Expr) (q : Query) : Except QueryError Query := filterBy .and c e q

def orFilter (c : Catalog) (e : Expr) (q : Query) : Except QueryError Query := filterBy .or c e q

def restrictGroups (c : Catalog) (e : Expr) (q : Query) : Except QueryError Query := do
  let (predicate, scope) ← (e.lowerPredicate c .having).commit q.scope
  .ok { q with scope := scope, having := some (combine .and q.having predicate) }

def checkOutput (outputs : List Output) : Option String → Except QueryError Unit
  | none => .ok ()
  | some name => do
      checkIdentifier name
      if outputs.any fun o => o.name = some name then .error (.outputTaken name) else .ok ()

def lowerOutputs (c : Catalog) : List Output → List (Expr × Option String) → Scoped (List Output)
  | outputs, [] => pure outputs
  | outputs, (e, name) :: rest => do
      let t ← e.lower c .select
      Steps.ofExcept (checkOutput outputs name)
      lowerOutputs c (outputs ++ [⟨t.term, name⟩]) rest

def project (c : Catalog) (kept : List Output) (fields : List (Expr × Option String)) (q : Query) :
    Except QueryError Query := do
  let (outputs, scope) ← (lowerOutputs c kept fields).commit q.scope
  .ok { q with scope := scope, outputs := outputs }

def select (c : Catalog) (fields : List Expr) (q : Query) : Except QueryError Query :=
  project c [] (fields.map fun e => (e, none)) q

def selectAs (c : Catalog) (fields : List (Expr × String)) (q : Query) :
    Except QueryError Query :=
  project c [] (fields.map fun f => (f.1, some f.2)) q

def addOutput (c : Catalog) (e : Expr) (name : Option String) (q : Query) :
    Except QueryError Query :=
  project c q.outputs [(e, name)] q

def joinAs (c : Catalog) (e : Entity) (label : String) (on : Expr) (q : Query) :
    Except QueryError Query := do
  checkIdentifier label
  let table ← c.tableOf e
  let scope ← q.scope.addSource ⟨table.entity, table.name, label⟩
  let (joins, scope) ← (on.lowerJoin c .joinOn).commit scope
  if joins.any fun j => j.mentions label then
    .ok { q with scope := { scope with joins := scope.joins ++ joins } }
  else .error (.joinWithout on label)

def join (c : Catalog) (e : Entity) (on : Expr) (q : Query) : Except QueryError Query :=
  joinAs c e q.scope.nextLabel on q

def lowerTerms (c : Catalog) (clause : Clause) : List Expr → Scoped (List Sql.Term)
  | [] => pure []
  | e :: rest => do
      let t ← e.lower c clause
      let ts ← lowerTerms c clause rest
      pure (t.term :: ts)

def groupBy (c : Catalog) (exprs : List Expr) (q : Query) : Except QueryError Query := do
  let (groups, scope) ← (lowerTerms c .groupBy exprs).commit q.scope
  .ok { q with scope := scope, groups := groups }

def orderBy (c : Catalog) (e : Expr) (direction : Direction) (q : Query) :
    Except QueryError Query := do
  let (t, scope) ← (e.lower c .orderBy).commit q.scope
  .ok { q with scope := scope, orders := q.orders ++ [.ordering t.term direction] }

def take (n : UInt64) (q : Query) : Query := { q with limit := some n }

def skip (n : UInt64) (q : Query) : Query := { q with offset := some n }

def unique (q : Query) : Query := { q with distinct := true }

end Query

inductive Operator where
  | filter (e : Expr)
  | orFilter (e : Expr)
  | select (fields : List Expr)
  | selectAs (fields : List (Expr × String))
  | addOutput (e : Expr) (name : Option String)
  | join (e : Entity) (on : Expr)
  | joinAs (e : Entity) (label : String) (on : Expr)
  | groupBy (exprs : List Expr)
  | having (e : Expr)
  | orderBy (e : Expr) (direction : Direction)
  | take (n : UInt64)
  | skip (n : UInt64)
  | distinct

namespace Operator

def apply (c : Catalog) (q : Query) : Operator → Except QueryError Query
  | .filter e => q.filter c e
  | .orFilter e => q.orFilter c e
  | .select fields => q.select c fields
  | .selectAs fields => q.selectAs c fields
  | .addOutput e name => q.addOutput c e name
  | .join e on => q.join c e on
  | .joinAs e label on => q.joinAs c e label on
  | .groupBy exprs => q.groupBy c exprs
  | .having e => q.restrictGroups c e
  | .orderBy e direction => q.orderBy c e direction
  | .take n => .ok (q.take n)
  | .skip n => .ok (q.skip n)
  | .distinct => .ok q.unique

end Operator

end WikiQuery
