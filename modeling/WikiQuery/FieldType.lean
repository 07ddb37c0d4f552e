/- Declared types of wiki-table fields, and the classes within which values compare. -/
set_option autoImplicit false

namespace WikiQuery

inductive FieldType where
  | string
  | text
  | page
  | wikitext
  | url
  | email
  | file
  | integer
  | float
  | boolean
  | date
  | datetime
  | list (item : FieldType)
deriving DecidableEq

inductive TypeClass where
  | text
  | numeric
  | boolean
  | temporal
  | list
deriving DecidableEq

namespace FieldType

def typeClass : FieldType → TypeClass
  | .string | .text | .page | .wikitext | .url | .email | .file => .text
  | .integer | .float => .numeric
  | .boolean => .boolean
  | .date | .datetime => .temporal
  | .list _ => .list

def isText (t : FieldType) : Bool := t.typeClass == .text
def isNumeric (t : FieldType) : Bool := t.typeClass == .numeric
def isTemporal (t : FieldType) : Bool := t.typeClass == .temporal
def isList (t : FieldType) : Bool := t.typeClass == .list

def comparable (a b : FieldType) : Bool := a.typeClass == b.typeClass

def item? : FieldType → Option FieldType
  | .list item => some item
  | _ => none

def element (t : FieldType) : FieldType := t.item?.getD t

def name : FieldType → String
  | .string => "String"
  | .text => "Text"
  | .page => "Page"
  | .wikitext => "Wikitext"
  | .url => "URL"
  | .email => "Email"
  | .file => "File"
  | .integer => "Integer"
  | .float => "Float"
  | .boolean => "Boolean"
  | .date => "Date"
  | .datetime => "Datetime"
  | .list item => "List (,) of " ++ item.name

end FieldType

def typeName : Option FieldType → String
  | some t => t.name
  | none => "NULL"

def TypeClass.name : TypeClass → String
  | .text => "Text"
  | .numeric => "Numeric"
  | .boolean => "Boolean"
  | .temporal => "Temporal"
  | .list => "List"

end WikiQuery
