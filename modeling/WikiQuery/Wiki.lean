import WikiQuery.Request
import WikiQuery.Row

/- Sending queries. A wiki has its limits and answers one request after another; the history of
   requests is kept. -/
set_option autoImplicit false

namespace WikiQuery

-- Answers requests; the count tells which request of the history it is, from one on.
structure Wiki where
  provider : Provider
  answer : Nat → Request → Except QueryError (List Row)

abbrev Session (α : Type) := Steps (List Request) α

namespace Wiki

def send (w : Wiki) (r : Request) : Session (List Row) := do
  let history ← get
  set (history ++ [r])
  Steps.ofExcept (w.answer (history.length + 1) r)

def numberOf? (r : Request) (name : String) : Option Nat :=
  (r.get? name).map fun digits => digitsValue digits.toList

def window (rows : List Row) (r : Request) : List Row :=
  let kept := rows.drop ((numberOf? r Parameter.offset.name).getD 0)
  match numberOf? r Parameter.limit.name with
  | some limit => kept.take limit
  | none => kept

def ofRows (provider : Provider) (rows : List Row) (failing : Option Nat) : Wiki where
  provider := provider
  answer := fun k r =>
    if failing = some k then .error (.refused ("request " ++ Nat.repr k ++ " failed"))
    else .ok (window rows r)

end Wiki

namespace Query

def fetch (c : Catalog) (w : Wiki) (q : Query) : Session (List Row) := do
  let r ← Steps.ofExcept (Request.ofQuery c w.provider q)
  w.send r

def decodeAll {α : Type} (decode : Row → Except QueryError α) :
    List Row → Except QueryError (List α)
  | [] => .ok []
  | row :: rest => do
      let a ← decode row
      let others ← decodeAll decode rest
      .ok (a :: others)

def fetchAs {α : Type} (c : Catalog) (w : Wiki) (decode : Row → Except QueryError α)
    (q : Query) : Session (List α) := do
  let rows ← q.fetch c w
  Steps.ofExcept (decodeAll decode rows)

-- Fetches page after page until one comes back short. The count bounds the pages; none means
-- that it was used up before.
def fetchPages (c : Catalog) (w : Wiki) : Nat → Pages → Session (Option (List Row))
  | 0, _ => pure none
  | fuel + 1, p =>
      match p.next? with
      | none => pure (some [])
      | some (page, p) => do
          let batch ← page.fetch c w
          if batch.length < (page.limit.getD p.size).toNat then pure (some batch)
          else do
            let rest ← fetchPages c w fuel p
            pure (rest.map fun rows => batch ++ rows)

def fetchAll (c : Catalog) (w : Wiki) (fuel : Nat) (size : UInt64) (q : Query) :
    Session (Option (List Row)) :=
  fetchPages c w fuel (q.pages size)

end Query

end WikiQuery
