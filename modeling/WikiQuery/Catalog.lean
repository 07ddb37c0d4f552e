import WikiQuery.Keyed
import WikiQuery.Steps

/- Declared tables. A draft collects tables and links between them in any order, by calls that may
   fail; a catalog is a draft whose links all lead from a field of one declared table to a
   comparable field of another. Both find a table by its record type, and a record type by the
   name of its table. -/
set_option autoImplicit false

namespace WikiQuery

structure Field where
  name : String
  type : FieldType
  nullable : Bool
deriving DecidableEq

/-- A named way from one table to another: rows go together when the local field of the one
equals the foreign field of the other. -/
structure Relation where
  name : String
  target : Entity
  localField : String
  foreignField : String
deriving DecidableEq

structure Table where
  entity : Entity
  name : String
  fields : List Field
  relations : List Relation
deriving DecidableEq

def systemFields : List Field :=
  [⟨"_pageName", .page, false⟩, ⟨"_pageTitle", .string, false⟩,
   ⟨"_pageNamespace", .integer, false⟩, ⟨"_pageID", .integer, false⟩, ⟨"_ID", .integer, false⟩]

namespace Table

def allFields (t : Table) : List Field := t.fields ++ systemFields

def field? (t : Table) (name : String) : Option Field :=
  t.allFields.find? fun f => f.name = name

def relation? (t : Table) (name : String) : Option Relation :=
  t.relations.find? fun r => r.name = name

def requireField (t : Table) (name : String) : Except QueryError Field :=
  match t.field? name with
  | some f => .ok f
  | none => .error (.unknownColumn t.name name)

end Table

abbrev Models := Keyed Table Entity Table.entity

abbrev TableNames := Keyed (String × Entity) String Prod.fst

structure Link where
  source : Entity
  relation : Relation
deriving DecidableEq

structure Catalog where
  models : Models
  tableNames : TableNames

structure Draft where
  models : Models
  tableNames : TableNames
  links : List Link

namespace Draft

def empty : Draft := ⟨.empty, .empty, []⟩

def tables (draft : Draft) : List Table := draft.models.entries

end Draft

abbrev Drafting (α : Type) := Steps Draft α

namespace Drafting

def takeFields (table : String) : List Field → List Field → Except QueryError (List Field)
  | taken, [] => .ok taken
  | taken, f :: rest =>
      if (taken ++ systemFields).any fun other => other.name = f.name then
        .error (.fieldDeclared table f.name)
      else takeFields table (taken ++ [f]) rest

def refuse (refused : Draft → Bool) (e : QueryError) : Drafting Unit := do
  let draft ← get
  if refused draft then throw e else pure ()

def declare (e : Entity) (name : String) (fields : List Field) : Drafting Unit := do
  refuse (fun draft => draft.models.contains e) (.entityDeclared e)
  refuse (fun draft => draft.tableNames.contains name) (.tableDeclared name)
  let columns ← Steps.ofExcept (takeFields name [] fields)
  modify fun draft => { draft with tableNames := draft.tableNames.insert (name, e) }
  modify fun draft => { draft with models := draft.models.insert ⟨e, name, columns, []⟩ }

-- Links are checked when the catalog is built.
def link (source : Entity) (relation : Relation) : Drafting Unit :=
  modify fun draft => { draft with links := draft.links ++ [⟨source, relation⟩] }

end Drafting

structure Schema where
  entity : Entity
  table : String
  fields : List Field

inductive Declaration where
  | table (e : Entity) (name : String) (fields : List Field)
  | schema (s : Schema)
  | relation (source : Entity) (r : Relation)

def Declaration.perform : Declaration → Drafting Unit
  | .table e name fields => Drafting.declare e name fields
  | .schema s => Drafting.declare s.entity s.table s.fields
  | .relation source r => Drafting.link source r

namespace Draft

def after (calls : List Declaration) : Draft :=
  calls.foldl (fun draft d => (d.perform.run draft).2) empty

def ofCalls (calls : List Declaration) : Except QueryError Draft :=
  ((forM calls Declaration.perform : Drafting Unit).commit empty).map Prod.snd

def declare (draft : Draft) (e : Entity) (name : String) (fields : List Field) :
    Except QueryError Draft :=
  ((Drafting.declare e name fields).commit draft).map Prod.snd

def link (draft : Draft) (source : Entity) (relation : Relation) : Draft :=
  ((Drafting.link source relation).run draft).2

def addLink (models : Models) (l : Link) : Except QueryError Models := do
  let r := l.relation
  match models.get? r.target with
  | none => .error (.unknownEntity r.target)
  | some target => do
      let foreign ← target.requireField r.foreignField
      match models.get? l.source with
      | none => .error (.unknownIdentity l.source)
      | some source => do
          let near ← source.requireField r.localField
          if near.type.comparable foreign.type = false then
            .error (.relationMismatch source.name r.name r.localField near.type foreign.type)
          else if (source.field? r.name).isSome || (source.relation? r.name).isSome then
            .error (.memberDeclared source.name r.name)
          else .ok (models.insert { source with relations := source.relations ++ [r] })

def build (draft : Draft) : Except QueryError Catalog := do
  let models ← draft.links.foldlM addLink draft.models
  .ok ⟨models, draft.tableNames⟩

end Draft

namespace Catalog

def tables (c : Catalog) : List Table := c.models.entries

def find? (c : Catalog) (e : Entity) : Option Table := c.models.get? e

def tableOf (c : Catalog) (e : Entity) : Except QueryError Table :=
  match c.find? e with
  | some t => .ok t
  | none => .error (.unknownEntity e)

def tableById (c : Catalog) (e : Entity) : Except QueryError Table :=
  match c.find? e with
  | some t => .ok t
  | none => .error (.unknownIdentity e)

def tableByName (c : Catalog) (name : String) : Except QueryError Table :=
  match (c.tableNames.get? name).bind fun entry => c.models.get? entry.2 with
  | some t => .ok t
  | none => .error (.unknownTableName name)

def names (c : Catalog) : List String := c.tableNames.keys.mergeSort fun a b => decide (a ≤ b)

end Catalog

end WikiQuery
