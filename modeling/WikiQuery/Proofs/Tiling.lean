import Mathlib.Data.List.Chain
import WikiQuery.Proofs.Paging

/- Pages as tiles. The pages of a query with a limit cover its window from the first position to the
   last, each starting where the one before it ends; without a limit they go on for ever, and from
   the last position on they stand still. -/
set_option autoImplicit false

namespace WikiQuery

namespace Query

def position (q : Query) : Nat := (q.offset.getD 0).toNat

def span (page : Query) : Nat := (page.limit.getD 0).toNat

/-- Pages of a query that cover `total` positions from `first` on: all of them are `width` wide but
the last, which may be narrower, and together they name every position once. -/
structure Tiling (q : Query) (width first total : Nat) (pages : List Query) : Prop where
  clauses : ∀ page ∈ pages, page = { q with limit := page.limit, offset := page.offset }
  begins : ∀ page ∈ pages.head?, page.position = first
  follows : pages.IsChain fun page next => next.position = page.position + page.span
  full : ∀ page ∈ pages.dropLast, page.span = width
  last : ∀ page ∈ pages.getLast?, 1 ≤ page.span ∧ page.span ≤ width
  sum : (pages.map span).sum = total
  covers : (pages.flatMap fun page => List.range' page.position page.span) = List.range' first total

namespace Tiling

variable {q : Query} {width first total : Nat} {pages : List Query}

theorem nil : q.Tiling width first 0 [] where
  clauses := by simp
  begins := by simp
  follows := .nil
  full := by simp
  last := by simp
  sum := rfl
  covers := rfl

theorem nil_of_zero (tiling : q.Tiling width first 0 pages) : pages = [] := by
  rw [← List.getLast?_eq_none_iff, Option.eq_none_iff_forall_not_mem]
  intro page isLast
  have none : page.span = 0 :=
    List.sum_eq_zero_iff_forall_eq_nat.mp tiling.sum _
      (List.mem_map_of_mem (List.mem_of_getLast? isLast))
  have some := (tiling.last page isLast).1
  omega

theorem cons {size position : UInt64} (positive : 0 < size.toNat) (fits : size.toNat ≤ width)
    (wide : size.toNat < width → total = 0)
    (tiling : q.Tiling width (position.toNat + size.toNat) total pages) :
    q.Tiling width position.toNat (size.toNat + total)
      ({ q with limit := some size, offset := some position } :: pages) where
  clauses := List.forall_mem_cons.mpr ⟨rfl, tiling.clauses⟩
  begins := by
    rintro _ ⟨⟩
    rfl
  follows := List.isChain_cons.mpr ⟨tiling.begins, tiling.follows⟩
  full := by
    cases pages with
    | nil => simp
    | cons next rest =>
        have full : size.toNat = width := by
          by_contra narrower
          rw [wide (by omega)] at tiling
          cases tiling.nil_of_zero
        rw [List.dropLast_cons_cons]
        exact List.forall_mem_cons.mpr ⟨full, tiling.full⟩
  last := by
    cases pages with
    | nil =>
        rintro _ ⟨⟩
        exact ⟨positive, fits⟩
    | cons next rest =>
        rw [List.getLast?_cons_cons]
        exact tiling.last
  sum := by
    rw [List.map_cons, List.sum_cons, tiling.sum]
    rfl
  covers := by
    rw [List.flatMap_cons, tiling.covers]
    exact List.range'_append_1

end Tiling

end Query

namespace Pages

variable {p : Pages}

def Yields (p : Pages) (pages : List Query) : Prop :=
  ∃ enough last, last.next? = none ∧ ∀ n ≥ enough, p.take n = (pages, last)

theorem yields_nil (ended : p.next? = none) : p.Yields [] := by
  refine ⟨0, p, ended, fun n _ => ?_⟩
  cases n with
  | zero => rfl
  | succ n => rw [take, ended]

theorem Yields.cons {page : Query} {p' : Pages} {pages : List Query}
    (cut : p.next? = some (page, p')) (rest : p'.Yields pages) : p.Yields (page :: pages) := by
  obtain ⟨enough, last, ended, all⟩ := rest
  refine ⟨enough + 1, last, ended, fun n more => ?_⟩
  obtain ⟨n, rfl⟩ : ∃ m, n = m + 1 := ⟨n - 1, by omega⟩
  rw [take, cut]
  dsimp only
  rw [all n (by omega)]

-- By induction on what is left; every page takes at least one position off it.
theorem tiled {stop : UInt64} (bounded : p.stop = some stop) (sized : 0 < p.size.toNat)
    (before : p.next.toNat ≤ stop.toNat) :
    ∃ pages, p.Yields pages ∧
      p.query.Tiling p.size.toNat p.next.toNat (stop.toNat - p.next.toNat) pages := by
  induction same : stop.toNat - p.next.toNat using Nat.strongRecOn generalizing p with
  | _ left ih =>
      cases known : p.nextSize? with
      | none =>
          obtain ⟨stop', bounded', passed⟩ := next_size?_none known
          cases bounded.symm.trans bounded'
          obtain rfl : left = 0 := by omega
          exact ⟨[], yields_nil (next?_ended known), .nil⟩
      | some size =>
          rcases next_size?_some known with ⟨unbounded, _⟩ | ⟨stop', bounded', short, cut⟩
          · cases bounded.symm.trans unbounded
          cases bounded.symm.trans bounded'
          have next : (p.after size).next.toNat = p.next.toNat + size.toNat := by
            have range := stop.toNat_lt_size
            rw [after, to_nat_add_capped]
            omega
          have fewer : stop.toNat - (p.after size).next.toNat = left - size.toNat := by omega
          obtain ⟨pages, yields, tiling⟩ :=
            ih (left - size.toNat) (by omega) (p := p.after size) bounded sized (by omega) fewer
          refine ⟨p.page size :: pages, yields.cons (next?_cut known), ?_⟩
          rw [next] at tiling
          have total : left = size.toNat + (left - size.toNat) := by omega
          rw [total]
          exact .cons (by omega) (by omega) (fun narrow => by omega) tiling

-- Without an end all pages are of one size; the positions stop growing at the last one.
theorem take_unbounded (unbounded : p.stop = none) (n : Nat) :
    (p.take n).1 = (List.range n).map fun k =>
      { p.query with
        limit := some p.size
        offset := some (.ofNat (min (p.next.toNat + k * p.size.toNat) (UInt64.size - 1))) } := by
  induction n generalizing p with
  | zero => rfl
  | succ n ih =>
      have known : p.nextSize? = some p.size := by rw [nextSize?, unbounded]
      have range := p.next.toNat_lt_size
      have here : UInt64.ofNat (min p.next.toNat (UInt64.size - 1)) = p.next := by
        rw [Nat.min_eq_left (by omega), UInt64.ofNat_toNat]
      have further : ∀ k, min ((p.after p.size).next.toNat + k * p.size.toNat) (UInt64.size - 1) =
          min (p.next.toNat + (k + 1) * p.size.toNat) (UInt64.size - 1) := by
        intro k
        rw [after, to_nat_add_capped, Nat.succ_mul]
        omega
      rw [take_succ (next?_cut known), ih (p := p.after p.size) unbounded, List.range_succ_eq_map,
        List.map_cons, List.map_map]
      refine congrArg₂ _ ?_ (List.map_congr_left fun k _ => ?_)
      · rw [Nat.zero_mul, Nat.add_zero, here]
        rfl
      · have same := further k
        simp only [Function.comp]
        rw [← same]
        rfl

end Pages

/-- The pages of a query tile its window. With a limit they are finitely many, cover the positions
from the offset up to the sum of offset and limit or to the last position, and are all of the size
asked for but the last; without one, each page has that size and starts that much further on, up to
the last position. All other clauses of a page are those of the query. -/
theorem pages_tile_window (q : Query) (size : UInt64) :
    match q.limit with
    | some limit => ∃ pages, (q.pages size).Yields pages ∧
        q.Tiling (max size 1).toNat q.position
          (min limit.toNat (UInt64.size - 1 - q.position)) pages
    | none => ∀ n, ((q.pages size).take n).1 = (List.range n).map fun k =>
        { q with
          limit := some (max size 1)
          offset := some (.ofNat
            (min (q.position + k * (max size 1).toNat) (UInt64.size - 1))) } := by
  have sized := q.pages_sized size
  cases limited : q.limit with
  | none => exact Pages.take_unbounded (by simp [Query.pages, limited])
  | some limit =>
      have bounded : (q.pages size).stop = some (addCapped (q.offset.getD 0) limit) := by
        simp [Query.pages, limited]
      have stop := to_nat_add_capped (q.offset.getD 0) limit
      have range := (q.offset.getD 0).toNat_lt_size
      have total : (addCapped (q.offset.getD 0) limit).toNat - q.position =
          min limit.toNat (UInt64.size - 1 - q.position) := by
        rw [stop, Query.position]
        omega
      have before : (q.pages size).next.toNat ≤ (addCapped (q.offset.getD 0) limit).toNat := by
        rw [stop]
        change (q.offset.getD 0).toNat ≤ _
        omega
      obtain ⟨pages, yields, tiling⟩ := Pages.tiled bounded sized before
      exact ⟨pages, yields, total ▸ tiling⟩

example : (((((Sample.start.skip (lastPosition - 3)).take 10).pages 2).take 5).1.map fun page =>
    (page.position, page.span)) = [(2 ^ 64 - 4, 2), (2 ^ 64 - 2, 1)] := by decide

end WikiQuery
