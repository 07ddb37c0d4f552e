import Mathlib.Order.Bounds.Basic
import WikiQuery.Proofs.Identifiers
import WikiQuery.Proofs.Walks

/- The search for a new label. It counts up from one more than the number of tables until a label is
   free, and nothing in it bounds how far it goes. Whatever labels a scope has, it ends, and it ends
   where `nextLabel` looks. -/
set_option autoImplicit false

namespace WikiQuery

namespace Scope

-- `s.Search k found`: the search that tries the label of `k` first ends at `found`.
inductive Search (s : Scope) : Nat → Nat → Prop where
  | stop {k : Nat} (free : s.isFree (generatedLabel k) = true) : Search s k k
  | next {k found : Nat} (taken : s.isFree (generatedLabel k) = false)
      (rest : Search s (k + 1) found) : Search s k found

def freeNumbers (s : Scope) (k : Nat) : Set Nat :=
  {j | k ≤ j ∧ ∀ source ∈ s.sources, source.label ≠ "T" ++ Nat.repr j}

variable {s : Scope}

theorem mem_free_numbers {k j : Nat} :
    j ∈ s.freeNumbers k ↔ k ≤ j ∧ s.isFree (generatedLabel j) = true := by
  rw [is_free_iff]
  rfl

theorem free_numbers_next {k : Nat} (taken : s.isFree (generatedLabel k) = false) :
    s.freeNumbers (k + 1) = s.freeNumbers k := by
  ext j
  rw [mem_free_numbers, mem_free_numbers]
  constructor
  · intro ⟨above, free⟩
    exact ⟨by omega, free⟩
  · intro ⟨above, free⟩
    have other : k ≠ j := by
      intro same
      simp [← same, taken] at free
    exact ⟨by omega, free⟩

theorem Search.is_least {k found : Nat} (search : s.Search k found) :
    IsLeast (s.freeNumbers k) found := by
  induction search with
  | stop free => exact ⟨mem_free_numbers.mpr ⟨le_refl _, free⟩, fun _ member => member.1⟩
  | next taken _ ih =>
      rw [free_numbers_next taken] at ih
      exact ih

-- By induction on how many labels the search passes over.
theorem search_of_is_least {k found : Nat} (least : IsLeast (s.freeNumbers k) found) :
    s.Search k found := by
  obtain ⟨passed, rfl⟩ := Nat.exists_eq_add_of_le least.1.1
  induction passed generalizing k with
  | zero => exact .stop (mem_free_numbers.mp least.1).2
  | succ n ih =>
      have taken : s.isFree (generatedLabel k) = false := by
        by_contra freeToo
        rw [Bool.not_eq_false] at freeToo
        have bound := least.2 (mem_free_numbers.mpr ⟨le_refl k, freeToo⟩)
        omega
      have later : k + (n + 1) = k + 1 + n := by omega
      rw [← free_numbers_next taken, later] at least
      rw [later]
      exact .next taken (ih least)

theorem search_iff {k found : Nat} : s.Search k found ↔ IsLeast (s.freeNumbers k) found :=
  ⟨Search.is_least, search_of_is_least⟩

theorem candidates_eq (s : Scope) :
    s.candidates = List.range' (s.sources.length + 1) (s.sources.length + 1) :=
  List.range'_eq_map_range.symm

theorem next_label_number (s : Scope) :
    ∃ k, s.nextLabel = generatedLabel k ∧ IsLeast (s.freeNumbers (s.sources.length + 1)) k ∧
      k ≤ 2 * s.sources.length + 1 := by
  obtain ⟨k, found⟩ := Option.isSome_iff_exists.mp (List.find?_isSome.mpr s.candidate_free)
  refine ⟨k, by rw [nextLabel, found]; rfl, ?_⟩
  rw [candidates_eq, List.find?_range'_eq_some] at found
  obtain ⟨free, range, before⟩ := found
  rw [List.mem_range'_1] at range
  refine ⟨⟨mem_free_numbers.mpr ⟨range.1, free⟩, ?_⟩, by omega⟩
  -- A smaller free number would have been found before.
  intro j member
  obtain ⟨above, freeToo⟩ := mem_free_numbers.mp member
  by_contra less
  have taken := before j above (by omega)
  simp [freeToo] at taken

end Scope

/-- With `n` tables in scope, under any labels, the search for a new label ends, and only at the
least number from `n + 1` on whose label no table has, which is at most `2n + 1`. This label is an
identifier; a table can be added under it, which appends that table and nothing else and leaves
labels as distinct as they were. -/
theorem label_search_ends_fresh (s : Scope) :
    ∃ k, (∀ found, s.Search (s.sources.length + 1) found ↔ found = k) ∧
      s.nextLabel = "T" ++ Nat.repr k ∧ IsLeast (s.freeNumbers (s.sources.length + 1)) k ∧
      k ≤ 2 * s.sources.length + 1 ∧ isIdentifier s.nextLabel = true ∧
      ∀ (e : Entity) (table : String), ∃ s',
        s.addSource ⟨e, table, s.nextLabel⟩ = .ok s' ∧
        s' = ⟨s.sources ++ [⟨e, table, s.nextLabel⟩], s.joins⟩ ∧
        ((s'.sources.map Source.label).Nodup ↔ (s.sources.map Source.label).Nodup) := by
  obtain ⟨k, label, least, bounded⟩ := s.next_label_number
  have ends : ∀ found, s.Search (s.sources.length + 1) found ↔ found = k := by
    intro found
    rw [Scope.search_iff, least.isLeast_iff_eq, eq_comm]
  have identifier : isIdentifier s.nextLabel = true := by
    rw [label]
    exact generated_label_identifier k
  refine ⟨k, ends, label, least, bounded, identifier, ?_⟩
  intro e table
  have free := s.next_label_free
  exact ⟨_, Scope.add_source_of_free free, rfl, Scope.distinct_concat free⟩

example : Scope.nextLabel ⟨["T5", "T4", "T6"].map fun label => ⟨Sample.page, "Pages", label⟩, []⟩ =
    "T7" := by decide

end WikiQuery
