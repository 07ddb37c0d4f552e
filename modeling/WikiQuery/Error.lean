import WikiQuery.Calendar.Reading
import WikiQuery.Expr
import WikiQuery.Json.Basic
import WikiQuery.Literal
import WikiQuery.Sql.Term

/- Everything that can go wrong, by cause, and the wording of each cause. -/
set_option autoImplicit false

namespace WikiQuery

inductive Unsupported where
  | joinShape
  | conditional
  | nullWithNull
  | unknownMethod
  | noReceiver
  | oneArgument
  | noArguments
  | patternArgument
  | setArgument
  | aggregateClause
  | aggregateArguments
  | aggregateColumn
  | nestedAggregate
  | emptyPath
  | fieldAsRelation (table segment : String)
  | relationAsValue (table segment : String)

def Unsupported.message : Unsupported → String
  | .joinShape => "join conditions must compare two columns"
  | .conditional => "conditional expressions have no translation"
  | .nullWithNull => "comparison of NULL with NULL"
  | .unknownMethod => "no translation rule for this method"
  | .noReceiver => "method requires a receiver"
  | .oneArgument => "expected exactly one argument"
  | .noArguments => "expected no arguments"
  | .patternArgument => "pattern argument must be a text constant"
  | .setArgument => "set membership needs a constant collection"
  | .aggregateClause => "aggregates are only allowed in fields, having and order_by"
  | .aggregateArguments => "aggregates take no arguments"
  | .aggregateColumn => "aggregate requires a column"
  | .nestedAggregate => "nested aggregates"
  | .emptyPath => "empty member path"
  | .fieldAsRelation table segment => table ++ "." ++ segment ++ " is a field, not a relation"
  | .relationAsValue table segment => "relation " ++ table ++ "." ++ segment ++ " used as a value"

inductive Mismatch where
  | predicate (found : Option FieldType)
  | join (left right : FieldType)
  | notHeld (list item : FieldType)
  | constant (value : Value) (declared : FieldType)
  | listOperand (value : Value) (op : BinaryOp)
  | nullOrder (whole : Expr)
  | connective (op : BinaryOp) (found : Option FieldType)
  | arithmetic (left right : Option FieldType)
  | comparison (left right : FieldType)
  | listOrder
  | negatedTruth (found : Option FieldType)
  | negatedNumber (found : Option FieldType)
  | pattern (found : Option FieldType)
  | setOfList
  | function (name : String) (found : Option FieldType)

def Mismatch.message : Mismatch → String
  | .predicate found => "predicate must be Boolean, found " ++ typeName found
  | .join left right => "cannot join " ++ left.name ++ " on " ++ right.name
  | .notHeld list item => list.name ++ " does not hold " ++ item.name
  | .constant value declared => value.display ++ " cannot be compared with " ++ declared.name
  | .listOperand value op =>
      "list " ++ value.display ++ " used with " ++ op.text ++ "; use is_in or not_in"
  | .nullOrder whole => "NULL has no order; " ++ whole.text ++ " is never true"
  | .connective op found =>
      "operand of " ++ op.text ++ " must be Boolean, found " ++ typeName found
  | .arithmetic left right => "arithmetic on " ++ typeName left ++ " and " ++ typeName right
  | .comparison left right => "cannot compare " ++ left.name ++ " with " ++ right.name
  | .listOrder => "list fields cannot be ordered"
  | .negatedTruth found => "NOT applied to " ++ typeName found
  | .negatedNumber found => "negation of " ++ typeName found
  | .pattern found => "pattern match on " ++ typeName found
  | .setOfList => "IN on a list field"
  | .function name found => name ++ " of " ++ typeName found

inductive CellError where
  | number (e : NumberError)
  | truth
  | calendar (e : CalendarError)

def CellError.message : CellError → String
  | .number e => e.message
  | .truth => "provided string was not `true` or `false`"
  | .calendar e => e.message

inductive QueryError where
  | unsupported (expr : Expr) (reason : Unsupported)
  | ambiguousTable (expr : Expr) (labels : List String)
  | ambiguousField (name : String) (candidates : List Column)
  | unknownEntity (e : Entity)
  | unknownIdentity (e : Entity)
  | unknownTableName (name : String)
  | unknownEntityIn (e : Entity) (expr : Expr)
  | unknownField (name : String)
  | unknownColumn (table field : String)
  | unknownMember (table segment : String) (expr : Expr)
  | emptySet (expr : Expr)
  | limitExceeded (requested max : UInt64)
  | mismatch (expr : Expr) (reason : Mismatch)
  | relationMismatch (table relation localField : String) (localType foreignType : FieldType)
  | literal (e : LiteralError)
  | labelTaken (label : String)
  | badLabel (label : String)
  | outputTaken (label : String)
  | noLabel (label : String)
  | noLabelIn (label : String) (expr : Expr)
  | notInQuery (e : Entity) (expr : Expr)
  | joinWithout (expr : Expr) (label : String)
  | strayColumn (column : Column)
  | offsetAlone (offset : UInt64)
  | noTables
  | entityDeclared (e : Entity)
  | tableDeclared (name : String)
  | fieldDeclared (table field : String)
  | memberDeclared (table relation : String)
  | badSettings
  | badJson
  | refused (info : String)
  | missingCell (name : String)
  | badCell (name raw : String) (reason : CellError)
  | noRows
  | malformedRow (row : Json)

inductive ErrorKind where
  | unsupportedExpression
  | ambiguousReference
  | unknownTable
  | unknownField
  | emptyInClause
  | limitExceeded
  | typeMismatch
  | invalidLiteral
  | invalidQuery
  | schema
  | config
  | backend
  | materialize
  | json
deriving DecidableEq

def LiteralError.kind : LiteralError → ErrorKind
  | .notFinite _ => .invalidLiteral
  | .emptyList => .emptyInClause
  | .nestedList _ => .invalidLiteral

def LiteralError.message : LiteralError → String
  | .notFinite x => x.text ++ " is not representable in SQL"
  | .emptyList => "IN () is not valid SQL; handle the empty case before building the query"
  | .nestedList items => "nested list " ++ items.display ++ " inside IN"

namespace QueryError

def kind : QueryError → ErrorKind
  | .unsupported _ _ => .unsupportedExpression
  | .ambiguousTable _ _ | .ambiguousField _ _ => .ambiguousReference
  | .unknownEntity _ | .unknownIdentity _ | .unknownTableName _ | .unknownEntityIn _ _ =>
      .unknownTable
  | .unknownField _ | .unknownColumn _ _ | .unknownMember _ _ _ => .unknownField
  | .emptySet _ => .emptyInClause
  | .limitExceeded _ _ => .limitExceeded
  | .mismatch _ _ | .relationMismatch _ _ _ _ _ => .typeMismatch
  | .literal e => e.kind
  | .labelTaken _ | .badLabel _ | .outputTaken _ | .noLabel _ | .noLabelIn _ _ | .notInQuery _ _
  | .joinWithout _ _ | .strayColumn _ | .offsetAlone _ | .noTables => .invalidQuery
  | .entityDeclared _ | .tableDeclared _ | .fieldDeclared _ _ | .memberDeclared _ _ => .schema
  | .badSettings => .config
  | .badJson => .json
  | .refused _ => .backend
  | .missingCell _ | .badCell _ _ _ | .noRows | .malformedRow _ => .materialize

def detail : QueryError → String
  | .unsupported expr reason => expr.text ++ " (" ++ reason.message ++ ")"
  | .ambiguousTable expr labels =>
      expr.text ++ " could refer to " ++ String.intercalate ", " labels
  | .ambiguousField name candidates =>
      name ++ " could be " ++ String.intercalate " or " (candidates.map Column.text)
  | .unknownEntity e => e.qualified
  | .unknownIdentity e => e.identity
  | .unknownTableName name => name
  | .unknownEntityIn e expr => e.name ++ " in " ++ expr.text
  | .unknownField name => name
  | .unknownColumn table field => table ++ "." ++ field
  | .unknownMember table segment expr => table ++ "." ++ segment ++ " in " ++ expr.text
  | .emptySet expr => expr.text
  | .limitExceeded requested max =>
      Nat.repr requested.toNat ++ " exceeds the provider maximum of " ++ Nat.repr max.toNat
  | .mismatch expr reason => expr.text ++ ": " ++ reason.message
  | .relationMismatch table relation localField localType foreignType =>
      "relation " ++ table ++ "." ++ relation ++ ": " ++ localField ++ " is " ++ localType.name ++
        " but the target key is " ++ foreignType.name
  | .literal e => e.message
  | .labelTaken label => "alias " ++ label ++ " is already used in this query"
  | .badLabel label => Text.quoted label ++ " is not a valid alias"
  | .outputTaken label => "output alias " ++ label ++ " used twice"
  | .noLabel label => "no table aliased " ++ label
  | .noLabelIn label expr => "no table aliased " ++ label ++ ": " ++ expr.text
  | .notInQuery e expr => e.name ++ " is not part of this query: " ++ expr.text
  | .joinWithout expr label => "join condition " ++ expr.text ++ " does not reference " ++ label
  | .strayColumn column => column.text ++ " refers to no table of this query"
  | .offsetAlone offset => "offset " ++ Nat.repr offset.toNat ++ " without a limit"
  | .noTables => "query has no tables"
  | .entityDeclared e => "Type " ++ e.qualified ++ " already registered"
  | .tableDeclared name => "Table " ++ name ++ " already registered"
  | .fieldDeclared table field => "Field " ++ table ++ "." ++ field ++ " declared twice"
  | .memberDeclared table relation =>
      "Relation " ++ table ++ "." ++ relation ++ " shadows an existing member"
  | .badSettings => ""
  | .badJson => ""
  | .refused info => info
  | .missingCell name => "missing column " ++ name
  | .badCell name raw reason =>
      "column " ++ name ++ " = " ++ Text.quoted raw ++ ": " ++ reason.message
  | .noRows => "response has no cargoquery array"
  | .malformedRow row => "malformed row " ++ row.render

end QueryError

def ErrorKind.heading : ErrorKind → String
  | .unsupportedExpression => "Unsupported expression: "
  | .ambiguousReference => "Ambiguous reference: "
  | .unknownTable => "Table not registered: "
  | .unknownField => "Unknown field: "
  | .emptyInClause => "IN clause over an empty collection: "
  | .limitExceeded => "Limit "
  | .typeMismatch => "Type mismatch: "
  | .invalidLiteral => "Invalid literal: "
  | .invalidQuery => "Invalid query: "
  | .schema => "Schema error: "
  | .config => "Config error: "
  | .backend => "Backend error: "
  | .materialize => "Materialize error: "
  | .json => "JSON error: "

def QueryError.message (e : QueryError) : String := e.kind.heading ++ e.detail

end WikiQuery
