import WikiQuery.Query.Basic

/- Pages: the window of a query in pieces of a given size. Positions are 64-bit words, and sums
   that leave their range stay at its end. -/
set_option autoImplicit false

namespace WikiQuery

def lastPosition : UInt64 := UInt64.ofNat (UInt64.size - 1)

def addCapped (a b : UInt64) : UInt64 :=
  if a.toNat + b.toNat < UInt64.size then a + b else lastPosition

theorem to_nat_add_capped (a b : UInt64) :
    (addCapped a b).toNat = min (a.toNat + b.toNat) (UInt64.size - 1) := by
  unfold addCapped
  split
  next fits =>
    rw [UInt64.toNat_add, Nat.mod_eq_of_lt fits]
    omega
  next beyond =>
    have last : lastPosition.toNat = UInt64.size - 1 := by decide
    omega

/-- What is left to cut: pages of `size` rows from position `next` up to `stop`, or without end. -/
structure Pages where
  query : Query
  size : UInt64
  next : UInt64
  stop : Option UInt64

namespace Query

def pages (q : Query) (size : UInt64) : Pages :=
  let first := q.offset.getD 0
  { query := q
    size := max size 1
    next := first
    stop := q.limit.map fun limit => addCapped first limit }

end Query

namespace Pages

def nextSize? (p : Pages) : Option UInt64 :=
  match p.stop with
  | none => some p.size
  | some stop => if stop ≤ p.next then none else some (min p.size (stop - p.next))

def next? (p : Pages) : Option (Query × Pages) :=
  match p.nextSize? with
  | none => none
  | some size =>
      some ({ p.query with limit := some size, offset := some p.next },
        { p with next := addCapped p.next size })

def take : Nat → Pages → List Query × Pages
  | 0, p => ([], p)
  | n + 1, p =>
      match p.next? with
      | none => ([], p)
      | some (q, p) =>
          let (qs, p) := take n p
          (q :: qs, p)

end Pages

end WikiQuery
