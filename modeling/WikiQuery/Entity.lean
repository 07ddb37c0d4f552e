/- Record types. A query names the table of a record type through the type, not through the
   table's own name. -/
set_option autoImplicit false

namespace WikiQuery

structure Entity where
  home : String
  name : String
deriving DecidableEq

namespace Entity

def qualified (e : Entity) : String := e.home ++ "::" ++ e.name

def identity (e : Entity) : String := "TypeId(" ++ e.name ++ ")"

end Entity

inductive TableRef where
  | entity (e : Entity)
  | label (name : String)
deriving DecidableEq

def TableRef.text : TableRef → String
  | .entity e => e.name
  | .label name => name

end WikiQuery
