import WikiQuery.Scope

/- From names to columns. Walking along a relation joins its target on first use and finds the
   same table again on every later use. -/
set_option autoImplicit false

namespace WikiQuery

abbrev Scoped (α : Type) := Steps Scope α

namespace Navigation

def tableAt (c : Catalog) (s : Scope) (label : String) : Except QueryError Table :=
  match s.source? label with
  | none => .error (.noLabel label)
  | some source => c.tableById source.entity

def rootLabel (c : Catalog) (s : Scope) (expr : Expr) : TableRef → Except QueryError String
  | .entity e =>
      match s.sourcesOf e with
      | [] =>
          match c.find? e with
          | none => .error (.unknownEntityIn e expr)
          | some _ => .error (.notInQuery e expr)
      | [only] => .ok only.label
      | many => .error (.ambiguousTable expr (many.map Source.label))
  | .label name => if s.isFree name then .error (.noLabelIn name expr) else .ok name

def newJoin (c : Catalog) (s : Scope) (label : String) (r : Relation) :
    Except QueryError (Source × Join) := do
  let near ← tableAt c s label
  let target ← c.tableById r.target
  let localField ← near.requireField r.localField
  let foreignField ← target.requireField r.foreignField
  let fresh := s.nextLabel
  .ok (⟨r.target, target.name, fresh⟩,
    { left := ⟨label, localField.name, localField.type⟩
      right := ⟨fresh, foreignField.name, foreignField.type⟩
      kind := .equal
      via := some r.name })

def follow (c : Catalog) (label : String) (r : Relation) : Scoped String := do
  let s ← get
  match s.joined? label r.name with
  | some j => pure j.right.label
  | none => do
      let (source, j) ← Steps.ofExcept (newJoin c s label r)
      let s ← Steps.ofExcept (s.addSource source)
      set (s.addJoin j)
      pure source.label

def relationAt (c : Catalog) (s : Scope) (expr : Expr) (label segment : String) :
    Except QueryError Relation := do
  let table ← tableAt c s label
  match table.relation? segment with
  | some r => .ok r
  | none =>
      if (table.field? segment).isSome then
        .error (.unsupported expr (.fieldAsRelation table.name segment))
      else .error (.unknownMember table.name segment expr)

def followAll (c : Catalog) (expr : Expr) : String → List String → Scoped String
  | label, [] => pure label
  | label, segment :: rest => do
      let s ← get
      let r ← Steps.ofExcept (relationAt c s expr label segment)
      let next ← follow c label r
      followAll c expr next rest

def columnAt (c : Catalog) (s : Scope) (expr : Expr) (label name : String) :
    Except QueryError Column := do
  let table ← tableAt c s label
  match table.field? name with
  | some f => .ok ⟨label, f.name, f.type⟩
  | none =>
      if (table.relation? name).isSome then
        .error (.unsupported expr (.relationAsValue table.name name))
      else .error (.unknownMember table.name name expr)

def member (c : Catalog) (table : TableRef) (path : List String) : Scoped Column := do
  let expr := Expr.member table path
  match path.getLast? with
  | none => throw (.unsupported expr .emptyPath)
  | some last => do
      let s ← get
      let root ← Steps.ofExcept (rootLabel c s expr table)
      let label ← followAll c expr root path.dropLast
      let s ← get
      Steps.ofExcept (columnAt c s expr label last)

def candidates (c : Catalog) (name : String) : List Source → Except QueryError (List Column)
  | [] => .ok []
  | source :: rest => do
      let table ← c.tableById source.entity
      let columns ← candidates c name rest
      match table.field? name with
      | some f => .ok (⟨source.label, f.name, f.type⟩ :: columns)
      | none => .ok columns

def unqualified (c : Catalog) (s : Scope) (name : String) : Except QueryError Column := do
  match ← candidates c name s.sources with
  | [] => .error (.unknownField name)
  | [only] => .ok only
  | many => .error (.ambiguousField name many)

end Navigation

end WikiQuery
