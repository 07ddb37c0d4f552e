import WikiQuery.Provider
import WikiQuery.Query.Pages
import WikiQuery.Text.Percent

/- Requests: the named parameters of a query, in a fixed order and without empty ones. -/
set_option autoImplicit false

namespace WikiQuery

inductive Parameter where
  | tables | fields | condition | joinOn | groupBy | having | orderBy | limit | offset
deriving DecidableEq

def Parameter.name : Parameter → String
  | .tables => "tables"
  | .fields => "fields"
  | .condition => "where"
  | .joinOn => "join_on"
  | .groupBy => "group_by"
  | .having => "having"
  | .orderBy => "order_by"
  | .limit => "limit"
  | .offset => "offset"

structure Request where
  params : List (Parameter × String)
deriving DecidableEq

namespace Request

def get? (r : Request) (name : String) : Option String :=
  (r.params.find? fun p => p.1.name = name).map Prod.snd

def queryString (r : Request) (code : Text.PercentCoder := Text.percentEncode) : String :=
  String.intercalate "&"
    (r.params.map fun p => p.1.name ++ "=" ++ code Text.AsciiSet.queryValue p.2)

def text (r : Request) : String :=
  String.intercalate "\n" (r.params.map fun p => p.1.name ++ "=" ++ p.2)

def jsonText (r : Request) : String :=
  "\x7b" ++
    String.intercalate "," (r.params.map fun p => Json.quote p.1.name ++ ":" ++ Json.quote p.2) ++
    "\x7d"

def checkWindow (provider : Provider) (q : Query) : Except QueryError Unit :=
  match q.limit, q.offset with
  | some limit, _ =>
      if provider.maxLimit < limit then .error (.limitExceeded limit provider.maxLimit)
      else .ok ()
  | none, some offset => .error (.offsetAlone offset)
  | none, none => .ok ()

def terms (q : Query) : List Sql.Term :=
  q.condition.toList ++ q.outputs.map Output.term ++ q.groups ++ q.having.toList ++ q.orders

def columns (q : Query) : List Column :=
  (terms q).flatMap Sql.Term.columns ++ q.scope.joins.flatMap fun j => [j.left, j.right]

def checkColumn (c : Catalog) (s : Scope) (column : Column) : Except QueryError Unit :=
  match s.source? column.label with
  | none => .error (.strayColumn column)
  | some source => do
      let table ← c.tableById source.entity
      if (table.field? column.field).isNone then
        .error (.unknownColumn table.name column.field)
      else .ok ()

def checkColumns (c : Catalog) (s : Scope) : List Column → Except QueryError Unit
  | [] => .ok ()
  | column :: rest => do
      checkColumn c s column
      checkColumns c s rest

def names (provider : Provider) (q : Query) : Sql.Names :=
  match provider.naming with
  | .qualified => []
  | .outputName => q.outputs.filterMap fun o => o.name.map fun name => (o.term, name)

def outputText (o : Output) : String :=
  match o.name with
  | some name => o.term.render ++ " AS " ++ name
  | none => o.term.render

def defaultFields (c : Catalog) (q : Query) : Except QueryError (List String) :=
  match q.scope.sources with
  | [] => .error .noTables
  | root :: _ => do
      let table ← c.tableById root.entity
      .ok (table.fields.map fun f => root.label ++ "." ++ f.name ++ " AS " ++ f.name)

def fieldItems (c : Catalog) (q : Query) : Except QueryError (List String) :=
  if q.outputs.isEmpty then defaultFields c q else .ok (q.outputs.map outputText)

def markDistinct (distinct : Bool) : List String → List String
  | [] => []
  | first :: rest => (if distinct then "DISTINCT " ++ first else first) :: rest

def commas (items : List String) : String := String.intercalate "," items

def nonEmpty (params : List (Parameter × String)) : List (Parameter × String) :=
  params.filter fun p => !p.2.isEmpty

def optional (p : Parameter) (value : Option String) : List (Parameter × String) :=
  value.toList.map fun v => (p, v)

def ofQuery (c : Catalog) (provider : Provider) (q : Query) : Except QueryError Request := do
  checkWindow provider q
  checkColumns c q.scope (columns q)
  let items ← fieldItems c q
  let names := names provider q
  .ok ⟨nonEmpty (
    [(.tables, commas (q.scope.sources.map Source.text)),
     (.fields, commas (markDistinct q.distinct items))] ++
    optional .condition (q.condition.map Sql.Term.render) ++
    [(.joinOn, commas (q.scope.joins.map Join.text)),
     (.groupBy, commas (q.groups.map fun t => t.renderWith names))] ++
    optional .having (q.having.map fun t => t.renderWith names) ++
    [(.orderBy, commas (q.orders.map Sql.Term.render))] ++
    optional .limit (q.limit.map fun n => Nat.repr n.toNat) ++
    optional .offset (q.offset.map fun n => Nat.repr n.toNat))⟩

end Request

end WikiQuery
