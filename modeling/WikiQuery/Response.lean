import WikiQuery.Json.Reading
import WikiQuery.Row

/- Rows of a response document: `cargoquery` holds the rows, each under `title`; a document with
   an `error` member holds none. -/
set_option autoImplicit false

namespace WikiQuery.Response

def cellText : Json → String
  | .null => ""
  | .text s => s
  | other => other.render

def row? : Json → Except QueryError Row
  | item =>
      match item.member? "title" with
      | some (.object members) => .ok (Row.ofCells (members.map fun m => (m.1, cellText m.2)))
      | _ => .error (.malformedRow item)

def allRows : List Json → Except QueryError (List Row)
  | [] => .ok []
  | item :: rest => do
      let row ← row? item
      let others ← allRows rest
      .ok (row :: others)

def errorInfo (e : Json) : String :=
  match e.member? "info" with
  | some (.text info) => info
  | _ => e.render

def rows (response : Json) : Except QueryError (List Row) :=
  match response.member? "error" with
  | some e => .error (.refused (errorInfo e))
  | none =>
      match response.member? "cargoquery" with
      | some (.array items) => allRows items
      | _ => .error .noRows

def read (text : String) : Except QueryError Json :=
  match Json.read text with
  | some document => .ok document
  | none => .error .badJson

end WikiQuery.Response
