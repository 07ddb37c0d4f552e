import WikiQuery.Query.Basic

/- A small wiki to speak about: pages, each with an author. -/
set_option autoImplicit false

namespace WikiQuery.Sample

def page : Entity := ⟨"wiki", "Page"⟩
def author : Entity := ⟨"wiki", "Author"⟩

def draft : Except QueryError Draft := do
  let draft ← Draft.empty.declare page "Pages"
    [⟨"title", .string, false⟩, ⟨"length", .integer, false⟩, ⟨"writer", .integer, true⟩,
      ⟨"tags", .list .string, true⟩]
  let draft := draft.link page ⟨"author", author, "writer", "id"⟩
  draft.declare author "Authors" [⟨"id", .integer, false⟩, ⟨"name", .string, false⟩]

def catalog : Catalog where
  models :=
    ⟨[⟨page, "Pages",
        [⟨"title", .string, false⟩, ⟨"length", .integer, false⟩, ⟨"writer", .integer, true⟩,
          ⟨"tags", .list .string, true⟩],
        [⟨"author", author, "writer", "id"⟩]⟩,
      ⟨author, "Authors", [⟨"id", .integer, false⟩, ⟨"name", .string, false⟩], []⟩], by decide⟩
  tableNames := ⟨[("Pages", page), ("Authors", author)], by decide⟩

example : (draft >>= Draft.build) = .ok catalog := rfl

def writtenBy (name : String) : Expr :=
  .binary (.member (.entity page) ["author", "name"]) .eq (.constant (.text name))

def titled (text other : String) : Expr :=
  .binary (.call (.field "title") (.pattern .startsWith) [.constant (.text text)]) .or
    (.call (.field "title") (.membership false) [.constant (.list [.text other, .text text])])

def pagesAndAuthors : Scope :=
  ⟨[⟨page, "Pages", "T1"⟩, ⟨author, "Authors", "T2"⟩],
    [⟨⟨"T1", "writer", .integer⟩, ⟨"T2", "id", .integer⟩, .equal, some "author"⟩]⟩

def numberedAuthor : Expr :=
  .binary (.binary (.constant (.int 7)) .eq (.member (.entity page) ["author", "name"])) .or
    (.unary .not (.call (.field "length") (.membership false) [.constant (.list [.int 3, .null])]))

def numberedAuthorTerm : Sql.Term :=
  .junction .or
    [.binary (.literal "'7'") .eq (.column ⟨"T2", "name", .string⟩),
      .unary .not (.binary (.column ⟨"T1", "length", .integer⟩) .isIn (.literal "(3,NULL)"))]

def signs : Expr :=
  .binary (.unary .neg (.unary .neg (.field "length"))) .sub (.constant (.int (-5)))

def minusLength : Sql.Term := .unary .neg (.column ⟨"T1", "length", .integer⟩)

def signsTerm : Sql.Term := .binary (.unary .neg minusLength) .sub (.literal "-5")

def signNames : Sql.Names :=
  [(minusLength, "n"), (.column ⟨"T1", "length", .integer⟩, "m"), (minusLength, "k")]

def start : Query := Query.ofSource ⟨page, "Pages", "T1"⟩

def byAuthor : Query :=
  { start with
    scope := pagesAndAuthors
    condition := some (.binary (.column ⟨"T2", "name", .string⟩) .eq (.literal "'O''Hara'")) }

def byTitle : Query :=
  { start with orders := [.ordering (.column ⟨"T1", "title", .string⟩) .asc] }

def short : Expr :=
  .call (.field "length") (.membership false) [.constant (.list [.int 3, .int 4])]

def shortTerm : Sql.Term :=
  .binary (.column ⟨"T1", "length", .integer⟩) .isIn (.literal "(3,4)")

def countTerm : Sql.Term := .function "COUNT" false [.literal "*"]

def shelfOperators : List Operator :=
  [.selectAs [(.field "title", "heading"), (short, "short")],
    .addOutput (.constant (.text "it's (a,b")) none,
    .groupBy [.field "title", short],
    .having (.binary Expr.countAll .gt (.constant (.int 1))),
    .orderBy (.field "title") .asc,
    .orderBy Expr.countAll .desc,
    .distinct]

def shelf : Query :=
  { start with
    outputs :=
      [⟨.column ⟨"T1", "title", .string⟩, some "heading"⟩, ⟨shortTerm, some "short"⟩,
        ⟨.literal "'it''s (a,b'", none⟩]
    groups := [.column ⟨"T1", "title", .string⟩, shortTerm]
    having := some (.binary countTerm .gt (.literal "1"))
    orders := [.ordering (.column ⟨"T1", "title", .string⟩) .asc, .ordering countTerm .desc]
    distinct := true }

def sameWriter : Expr :=
  .binary (.member (.entity page) ["writer"]) .eq (.member (.label "A2") ["id"])

def authorsTwice : Scope :=
  ⟨pagesAndAuthors.sources ++ [⟨author, "Authors", "A2"⟩],
    pagesAndAuthors.joins ++
      [⟨⟨"T1", "writer", .integer⟩, ⟨"A2", "id", .integer⟩, .equal, none⟩]⟩

def byAuthorJoined : Query := { byAuthor with scope := authorsTwice }

end WikiQuery.Sample
