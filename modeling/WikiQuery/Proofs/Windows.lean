import Mathlib.Data.UInt
import WikiQuery.Wiki
import WikiQuery.Proofs.LiteralText

/- Windows. The window of a query is a piece of the rows; its request carries the window as text and
   the wiki reads it back. The pages of a query have windows of their own: the first of them and
   what is left after it make up the whole. -/
set_option autoImplicit false

namespace WikiQuery

def Query.window (rows : List Row) (q : Query) : List Row :=
  let kept := rows.drop (q.offset.getD 0).toNat
  match q.limit with
  | some limit => kept.take limit.toNat
  | none => kept

section Reading

theorem digit?_of_is_digit {c : Char} (digit : c.isDigit = true) :
    digit? c = some (c.toNat - '0'.toNat) := by
  have bounds : '0' ≤ c ∧ c ≤ '9' := by simpa [Char.isDigit, Char.le_def] using digit
  rw [digit?, if_pos bounds]

theorem digits_value_repr (n : Nat) : digitsValue n.repr.toList = n := by
  have steps : ∀ (cs : List Char) (m : Nat), (∀ c ∈ cs, c.isDigit = true) →
      cs.foldl (fun n c => 10 * n + (digit? c).getD 0) m = Nat.ofDigitChars 10 cs m := by
    intro cs
    induction cs with
    | nil => intro m _; rfl
    | cons c rest ih =>
        intro m digits
        rw [List.foldl_cons, digit?_of_is_digit (digits c List.mem_cons_self)]
        exact ih _ fun other member => digits other (.tail _ member)
  rw [digitsValue, steps _ 0 (digits_repr n).2, Nat.toList_repr, Nat.ofDigitChars_ten_toDigits]

end Reading

theorem Parameter.name_injective {a b : Parameter} (same : a.name = b.name) : a = b := by
  revert same
  cases a <;> cases b <;> decide

namespace Request

variable {c : Catalog} {provider : Provider} {q : Query} {r : Request}

theorem get?_optional {p : Parameter} {front back : List (Parameter × String)}
    {value : Option String} (absent : ∀ x ∈ front ++ back, x.1 ≠ p)
    (nonempty : ∀ text ∈ value, text.isEmpty = false) :
    get? ⟨nonEmpty (front ++ optional p value ++ back)⟩ p.name = value := by
  have others : ∀ part ⊆ front ++ back,
      (part.filter fun x => !x.2.isEmpty).find? (fun x => x.1.name = p.name) = none := by
    intro part sub
    rw [List.find?_eq_none]
    intro x member
    have different := absent x (sub (List.mem_of_mem_filter member))
    simpa using fun same => different (Parameter.name_injective same)
  rw [get?, nonEmpty, List.filter_append, List.filter_append, List.find?_append, List.find?_append,
    others front (List.subset_append_left _ _), others back (List.subset_append_right _ _)]
  cases value with
  | none => rfl
  | some text => simp [optional, nonempty text rfl]

theorem of_query_window (built : ofQuery c provider q = .ok r) :
    ∃ front : List (Parameter × String), (∀ x ∈ front, x.1 ≠ .limit ∧ x.1 ≠ .offset) ∧
      r = ⟨nonEmpty (front ++ optional .limit (q.limit.map fun n => Nat.repr n.toNat) ++
        optional .offset (q.offset.map fun n => Nat.repr n.toNat))⟩ := by
  obtain ⟨⟨⟩, _, rest⟩ := bind_ok.mp built
  obtain ⟨⟨⟩, _, rest⟩ := bind_ok.mp rest
  obtain ⟨items, _, rest⟩ := bind_ok.mp rest
  cases rest
  refine ⟨_, ?_, rfl⟩
  intro x member
  simp only [optional, List.mem_append, List.mem_cons, List.not_mem_nil, or_false, List.mem_map]
    at member
  rcases member with ((((rfl | rfl) | ⟨_, _, rfl⟩) | rfl | rfl) | ⟨_, _, rfl⟩) | rfl <;> simp

theorem word_nonempty {value : Option UInt64} {text : String}
    (member : text ∈ value.map fun n => Nat.repr n.toNat) : text.isEmpty = false := by
  obtain ⟨n, _, rfl⟩ := Option.mem_map.mp member
  simp

theorem optional_other {p other : Parameter} {value : Option String} {x : Parameter × String}
    (different : p ≠ other) (member : x ∈ optional p value) : x.1 ≠ other := by
  obtain ⟨_, _, rfl⟩ := List.mem_map.mp member
  exact different

theorem get?_limit (built : ofQuery c provider q = .ok r) :
    r.get? Parameter.limit.name = q.limit.map fun n => Nat.repr n.toNat := by
  obtain ⟨front, absent, rfl⟩ := of_query_window built
  refine get?_optional ?_ fun _ => word_nonempty
  intro x member
  rcases List.mem_append.mp member with member | member
  · exact (absent x member).1
  · exact optional_other (by simp) member

theorem get?_offset (built : ofQuery c provider q = .ok r) :
    r.get? Parameter.offset.name = q.offset.map fun n => Nat.repr n.toNat := by
  obtain ⟨front, absent, rfl⟩ := of_query_window built
  rw [← List.append_nil (front ++ _ ++ _)]
  refine get?_optional ?_ fun _ => word_nonempty
  intro x member
  rw [List.append_nil] at member
  rcases List.mem_append.mp member with member | member
  · exact (absent x member).2
  · exact optional_other (by simp) member

end Request

theorem Wiki.number_of?_word {r : Request} {name : String} {word : Option UInt64}
    (found : r.get? name = word.map fun n => Nat.repr n.toNat) :
    numberOf? r name = word.map UInt64.toNat := by
  rw [numberOf?, found, Option.map_map]
  cases word with
  | none => rfl
  | some n => exact congrArg some (digits_value_repr n.toNat)

theorem Wiki.window_of_query {c : Catalog} {provider : Provider} {q : Query} {r : Request}
    (built : Request.ofQuery c provider q = .ok r) (rows : List Row) :
    Wiki.window rows r = q.window rows := by
  rw [window, number_of?_word (Request.get?_limit built),
    number_of?_word (Request.get?_offset built), Query.window]
  cases q.limit <;> cases q.offset <;> rfl

namespace Pages

def window (rows : List Row) (p : Pages) : List Row :=
  let kept := rows.drop p.next.toNat
  match p.stop with
  | some stop => kept.take (stop.toNat - p.next.toNat)
  | none => kept

def page (p : Pages) (size : UInt64) : Query :=
  { p.query with limit := some size, offset := some p.next }

def after (p : Pages) (size : UInt64) : Pages := { p with next := addCapped p.next size }

variable {p : Pages} {rows : List Row}

theorem next?_ended (none : p.nextSize? = none) : p.next? = Option.none := by
  rw [next?, none]

theorem next?_cut {size : UInt64} (known : p.nextSize? = some size) :
    p.next? = some (p.page size, p.after size) := by
  rw [next?, known]
  rfl

theorem page_window (size : UInt64) :
    (p.page size).window rows = (rows.drop p.next.toNat).take size.toNat := rfl

theorem window_bounded {stop : UInt64} (bounded : p.stop = some stop) :
    p.window rows = (rows.drop p.next.toNat).take (stop.toNat - p.next.toNat) := by
  rw [window, bounded]

theorem window_unbounded (unbounded : p.stop = none) : p.window rows = rows.drop p.next.toNat := by
  rw [window, unbounded]

theorem next_size?_some {size : UInt64} (known : p.nextSize? = some size) :
    (p.stop = none ∧ size = p.size) ∨
      ∃ stop, p.stop = some stop ∧ p.next.toNat < stop.toNat ∧
        size.toNat = min p.size.toNat (stop.toNat - p.next.toNat) := by
  rw [nextSize?] at known
  split at known
  next unbounded =>
    cases known
    exact .inl ⟨unbounded, rfl⟩
  next stop bounded =>
    split at known
    next => cases known
    next passed =>
      cases known
      rw [UInt64.le_iff_toNat_le, Nat.not_le] at passed
      have room : (stop - p.next).toNat = stop.toNat - p.next.toNat :=
        UInt64.toNat_sub_of_le _ _ (UInt64.le_iff_toNat_le.mpr (Nat.le_of_lt passed))
      exact .inr ⟨stop, bounded, passed, by rw [UInt64.toNat_min, room]⟩

theorem next_size?_bounds {size : UInt64} (known : p.nextSize? = some size)
    (sized : 0 < p.size.toNat) :
    0 < size.toNat ∧ ∀ stop ∈ p.stop, size.toNat ≤ stop.toNat - p.next.toNat := by
  rcases next_size?_some known with ⟨unbounded, rfl⟩ | ⟨stop, bounded, before, same⟩
  · exact ⟨sized, by simp [unbounded]⟩
  · refine ⟨by omega, ?_⟩
    intro other isStop
    cases bounded.symm.trans isStop
    omega

theorem next_size?_none (none : p.nextSize? = none) :
    ∃ stop, p.stop = some stop ∧ stop.toNat ≤ p.next.toNat := by
  rw [nextSize?] at none
  split at none
  next => cases none
  next stop bounded =>
    split at none
    next passed => exact ⟨stop, bounded, UInt64.le_iff_toNat_le.mp passed⟩
    next => cases none

theorem window_ended (none : p.nextSize? = none) : p.window rows = [] := by
  obtain ⟨stop, bounded, passed⟩ := next_size?_none none
  rw [window_bounded bounded, Nat.sub_eq_zero_of_le passed, List.take_zero]

theorem window_short {size : UInt64} (known : p.nextSize? = some size) (sized : 0 < p.size.toNat)
    (short : ((p.page size).window rows).length < size.toNat) :
    p.window rows = (p.page size).window rows := by
  rw [page_window] at short ⊢
  have few : (rows.drop p.next.toNat).length < size.toNat := by
    rw [List.length_take] at short
    omega
  rw [List.take_of_length_le (Nat.le_of_lt few)]
  cases bound : p.stop with
  | none => exact window_unbounded bound
  | some stop =>
      have room := (next_size?_bounds known sized).2 stop bound
      rw [window_bounded bound, List.take_of_length_le (by omega)]

-- A full page and what the pages behind it ask for; the sum of positions is within range, since
-- there are rows up to it.
theorem window_full {size : UInt64} (known : p.nextSize? = some size) (sized : 0 < p.size.toNat)
    (finite : rows.length < UInt64.size)
    (full : ¬ ((p.page size).window rows).length < size.toNat) :
    p.next.toNat + size.toNat ≤ rows.length ∧
      (p.after size).next.toNat = p.next.toNat + size.toNat ∧
      p.window rows = (p.page size).window rows ++ (p.after size).window rows := by
  rw [page_window] at full ⊢
  obtain ⟨positive, within⟩ := next_size?_bounds known sized
  have reached : p.next.toNat + size.toNat ≤ rows.length := by
    rw [List.length_take, List.length_drop] at full
    omega
  have next : (p.after size).next.toNat = p.next.toNat + size.toNat := by
    rw [after, to_nat_add_capped]
    omega
  refine ⟨reached, next, ?_⟩
  cases bound : p.stop with
  | none =>
      rw [window_unbounded bound, window_unbounded (p := p.after size) bound, next,
        ← List.drop_drop, List.take_append_drop]
  | some stop =>
      have room := within stop bound
      rw [window_bounded bound, window_bounded (p := p.after size) bound, next,
        ← List.drop_drop, ← List.take_add]
      congr 1
      omega

theorem next_size?_antitone {size size' : UInt64} (known : p.nextSize? = some size)
    (known' : (p.after size).nextSize? = some size') :
    size'.toNat ≤ size.toNat := by
  have further := to_nat_add_capped p.next size
  have range := p.next.toNat_lt_size
  rcases next_size?_some known with ⟨unbounded, rfl⟩ | ⟨stop, bounded, before, same⟩
  · rcases next_size?_some known' with ⟨_, rfl⟩ | ⟨stop, bounded, _⟩
    · exact Nat.le_refl _
    · cases unbounded.symm.trans bounded
  · rcases next_size?_some known' with ⟨unbounded, _⟩ | ⟨stop', bounded', before', same'⟩
    · cases unbounded.symm.trans bounded
    · cases bounded.symm.trans bounded'
      change (addCapped p.next size).toNat < stop.toNat at before'
      change _ = min p.size.toNat (stop.toNat - (addCapped p.next size).toNat) at same'
      omega

end Pages

namespace Query

def extent (q : Query) : Option UInt64 :=
  q.limit.map fun limit => min limit (lastPosition - q.offset.getD 0)

def firstSize (q : Query) (size : UInt64) : UInt64 :=
  match q.extent with
  | some extent => min (max size 1) extent
  | none => max size 1

theorem to_nat_stop (first limit : UInt64) :
    (addCapped first limit).toNat - first.toNat =
      (min limit (lastPosition - first)).toNat := by
  have last : lastPosition.toNat = UInt64.size - 1 := by decide
  have range := first.toNat_lt_size
  have room : (lastPosition - first).toNat = lastPosition.toNat - first.toNat :=
    UInt64.toNat_sub_of_le _ _ (UInt64.le_iff_toNat_le.mpr (by omega))
  rw [to_nat_add_capped, UInt64.toNat_min, room]
  omega

-- No row lies behind the last position, so that cutting a limit there loses none.
theorem pages_window {rows : List Row} (finite : rows.length < UInt64.size) (q : Query)
    (size : UInt64) : (q.pages size).window rows = q.window rows := by
  cases bound : q.limit with
  | none => simp [pages, Pages.window, window, bound]
  | some limit =>
      have stop : (q.pages size).stop = some (addCapped (q.offset.getD 0) limit) := by
        simp [pages, bound]
      rw [Pages.window_bounded stop, window, bound]
      change (rows.drop (q.offset.getD 0).toNat).take _ = (rows.drop (q.offset.getD 0).toNat).take _
      rw [List.take_eq_take_iff, List.length_drop]
      have capped := to_nat_add_capped (q.offset.getD 0) limit
      change min ((addCapped (q.offset.getD 0) limit).toNat - (q.offset.getD 0).toNat) _ = _
      omega

theorem pages_first (q : Query) (size : UInt64) :
    (q.pages size).nextSize? = if q.extent = some 0 then none else some (q.firstSize size) := by
  cases bound : q.limit with
  | none => simp [Pages.nextSize?, pages, extent, firstSize, bound]
  | some limit =>
      have stop : (q.pages size).stop = some (addCapped (q.offset.getD 0) limit) := by
        simp [pages, bound]
      have isExtent : q.extent = some (min limit (lastPosition - q.offset.getD 0)) := by
        rw [extent, bound]
        rfl
      have room := to_nat_stop (q.offset.getD 0) limit
      rw [Pages.nextSize?, stop, firstSize, isExtent]
      change (if addCapped (q.offset.getD 0) limit ≤ q.offset.getD 0 then none else
        some (min (max size 1) (addCapped (q.offset.getD 0) limit - q.offset.getD 0))) = _
      generalize addCapped (q.offset.getD 0) limit = stop at room
      generalize q.offset.getD 0 = first at room
      generalize min limit (lastPosition - first) = extent at room
      by_cases passed : stop ≤ first
      · have zero : extent = 0 := by
          rw [← UInt64.toNat_inj, ← room]
          exact Nat.sub_eq_zero_of_le (UInt64.le_iff_toNat_le.mp passed)
        rw [if_pos passed, if_pos (congrArg some zero)]
      · have before : first.toNat < stop.toNat :=
          Nat.not_le.mp fun le => passed (UInt64.le_iff_toNat_le.mpr le)
        have rest : stop - first = extent := by
          rw [← UInt64.toNat_inj, ← room]
          exact UInt64.toNat_sub_of_le _ _ (UInt64.le_iff_toNat_le.mpr (Nat.le_of_lt before))
        have some_rows : extent ≠ 0 := by
          rw [Ne, ← UInt64.toNat_inj, ← room]
          exact Nat.sub_ne_zero_of_lt before
        rw [if_neg passed, rest, if_neg (by simpa using some_rows)]

end Query

end WikiQuery
