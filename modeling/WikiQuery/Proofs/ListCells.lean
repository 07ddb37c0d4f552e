import Mathlib.Data.List.DropRight
import WikiQuery.Row

/- Cells that hold lists. The items of a cell stand between delimiters, with blanks around them and
   pieces of blanks only among them; reading a cell finds the items and nothing else. Every cell is
   such a layout of the items that are read from it, so that they can be written down plainly and
   read again. -/
set_option autoImplicit false

namespace WikiQuery

namespace Text

structure Trimmed (cs : List Char) : Prop where
  first : ∀ c ∈ cs.head?, isBlank c = false
  last : ∀ c ∈ cs.getLast?, isBlank c = false

theorem drop_blanks_padded {before cs : List Char} (blank : ∀ c ∈ before, isBlank c = true)
    (first : ∀ c ∈ cs.head?, isBlank c = false) : dropBlanks (before ++ cs) = cs := by
  rw [dropBlanks, List.dropWhile_append_of_pos blank]
  cases cs with
  | nil => rfl
  | cons c rest =>
      have noBlank := first c rfl
      exact List.dropWhile_cons_of_neg (by simp [noBlank])

-- Dropping blanks from the back is dropping them from the front of the reversed text.
theorem trim_blanks_padded {before cs after : List Char} (some : cs ≠ [])
    (trimmed : Trimmed cs) (blankBefore : ∀ c ∈ before, isBlank c = true)
    (blankAfter : ∀ c ∈ after, isBlank c = true) : trimBlanks (before ++ cs ++ after) = cs := by
  have first : ∀ c ∈ (cs ++ after).head?, isBlank c = false := by
    rw [List.head?_append_of_ne_nil cs some]
    exact trimmed.first
  have last : ∀ c ∈ cs.reverse.head?, isBlank c = false := by
    rw [List.head?_reverse]
    exact trimmed.last
  have blank : ∀ c ∈ after.reverse, isBlank c = true := by simpa using blankAfter
  rw [trimBlanks, List.append_assoc, drop_blanks_padded blankBefore first, List.reverse_append,
    drop_blanks_padded blank last, List.reverse_reverse]

theorem trimmed_trim_blanks (cs : List Char) : Trimmed (trimBlanks cs) := by
  have whole : trimBlanks cs = (dropBlanks cs).rdropWhile isBlank := rfl
  constructor
  · intro c isFirst
    rw [whole] at isFirst
    obtain ⟨rest, same⟩ := List.rdropWhile_prefix isBlank (dropBlanks cs)
    have inDropped : (dropBlanks cs).head? = some c := by
      rw [← same, List.head?_append, isFirst]
      rfl
    have noBlank := List.head?_dropWhile_not isBlank cs
    rw [dropBlanks] at inDropped
    rw [inDropped] at noBlank
    exact noBlank
  · intro c isLast
    rw [whole] at isLast
    have some : (dropBlanks cs).rdropWhile isBlank ≠ [] := by
      intro none
      simp [none] at isLast
    have noBlank := List.rdropWhile_last_not isBlank (dropBlanks cs) some
    rw [List.getLast?_eq_some_getLast some, Option.mem_some_iff] at isLast
    simpa [isLast] using noBlank

theorem exists_padding (cs : List Char) :
    ∃ before after, (∀ c ∈ before, isBlank c = true) ∧ (∀ c ∈ after, isBlank c = true) ∧
      cs = before ++ trimBlanks cs ++ after := by
  refine ⟨cs.takeWhile isBlank, (dropBlanks cs).rtakeWhile isBlank, ?_, ?_, ?_⟩
  · exact fun c member => List.mem_takeWhile_imp member
  · exact fun c member => List.mem_rtakeWhile_imp member
  · have back : trimBlanks cs ++ (dropBlanks cs).rtakeWhile isBlank = dropBlanks cs :=
      List.rdropWhile_append_rtakeWhile
    rw [List.append_assoc, back]
    exact List.takeWhile_append_dropWhile.symm

theorem trim_blanks_eq_nil_iff {cs : List Char} :
    trimBlanks cs = [] ↔ ∀ c ∈ cs, isBlank c = true := by
  constructor
  · intro none c member
    obtain ⟨before, after, blankBefore, blankAfter, text⟩ := exists_padding cs
    rw [text, none, List.append_nil, List.mem_append] at member
    exact member.elim (blankBefore c) (blankAfter c)
  · intro blank
    have dropped : dropBlanks cs = [] := List.dropWhile_eq_nil_iff.mpr blank
    rw [trimBlanks, dropped]
    rfl

end Text

namespace Row

open Text

def Padding (delimiter : Char) (text : String) : Prop :=
  ∀ c ∈ text.toList, isBlank c = true ∧ c ≠ delimiter

structure IsItem (delimiter : Char) (item : String) : Prop where
  nonempty : item ≠ ""
  whole : delimiter ∉ item.toList
  trimmed : Trimmed item.toList

-- `Layout delimiter items pieces`: the pieces hold the items in order, one each with blanks around
-- it, and any number of pieces of blanks only stands before, between and behind them.
inductive Layout (delimiter : Char) : List String → List String → Prop where
  | nil : Layout delimiter [] []
  | blank {piece : String} {items pieces : List String} (padding : Padding delimiter piece)
      (rest : Layout delimiter items pieces) : Layout delimiter items (piece :: pieces)
  | item {before item after : String} {items pieces : List String} (isItem : IsItem delimiter item)
      (front : Padding delimiter before) (back : Padding delimiter after)
      (rest : Layout delimiter items pieces) :
      Layout delimiter (item :: items) ((before ++ item ++ after) :: pieces)

def kept (pieces : List String) : List String :=
  (pieces.map Text.trim).filter fun item => !item.isEmpty

theorem kept_blank {piece : String} (blank : ∀ c ∈ piece.toList, isBlank c = true)
    (pieces : List String) : kept (piece :: pieces) = kept pieces := by
  have empty : Text.trim piece = "" := by
    rw [Text.trim, trim_blanks_eq_nil_iff.mpr blank]
  simp [kept, empty]

theorem kept_item {piece item : String} (nonempty : item ≠ "") (trims : Text.trim piece = item)
    (pieces : List String) : kept (piece :: pieces) = item :: kept pieces := by
  simp [kept, trims, nonempty]

variable {delimiter : Char} {items pieces : List String}

theorem IsItem.trim_padded {before item after : String} (isItem : IsItem delimiter item)
    (front : Padding delimiter before) (back : Padding delimiter after) :
    Text.trim (before ++ item ++ after) = item := by
  have some : item.toList ≠ [] := by simpa using isItem.nonempty
  rw [Text.trim, String.toList_append, String.toList_append,
    trim_blanks_padded some isItem.trimmed (fun c member => (front c member).1)
      (fun c member => (back c member).1), String.ofList_toList]

theorem padding_of_list {cs : List Char} (blank : ∀ c ∈ cs, isBlank c = true)
    (whole : delimiter ∉ cs) : Padding delimiter (String.ofList cs) := by
  intro c member
  rw [String.toList_ofList] at member
  exact ⟨blank c member, fun same => whole (same ▸ member)⟩

theorem piece_cases {piece : String} (whole : delimiter ∉ piece.toList) :
    Padding delimiter piece ∨ ∃ before item after, IsItem delimiter item ∧
      Padding delimiter before ∧ Padding delimiter after ∧ piece = before ++ item ++ after := by
  obtain ⟨before, after, blankBefore, blankAfter, text⟩ := exists_padding piece.toList
  have apart : delimiter ∉ before ∧ delimiter ∉ trimBlanks piece.toList ∧ delimiter ∉ after := by
    rwa [text, List.append_assoc, List.mem_append, List.mem_append, not_or, not_or] at whole
  have front := padding_of_list blankBefore apart.1
  have back := padding_of_list blankAfter apart.2.2
  by_cases none : trimBlanks piece.toList = []
  · have blank := trim_blanks_eq_nil_iff.mp none
    exact .inl fun c member => ⟨blank c member, fun same => whole (same ▸ member)⟩
  · right
    refine ⟨_, String.ofList (trimBlanks piece.toList), _, ⟨?_, ?_, ?_⟩, front, back, ?_⟩
    · simpa using none
    · simpa using apart.2.1
    · rw [String.toList_ofList]
      exact trimmed_trim_blanks piece.toList
    · apply String.toList_injective
      simpa using text

namespace Layout

theorem kept_pieces (layout : Layout delimiter items pieces) : kept pieces = items := by
  induction layout with
  | nil => rfl
  | blank padding _ ih => rw [kept_blank (fun c member => (padding c member).1), ih]
  | item isItem front back _ ih =>
      rw [kept_item isItem.nonempty (isItem.trim_padded front back), ih]

theorem whole (layout : Layout delimiter items pieces) :
    ∀ piece ∈ pieces, delimiter ∉ piece.toList := by
  induction layout with
  | nil => simp
  | blank padding _ ih =>
      rw [List.forall_mem_cons]
      exact ⟨fun member => (padding delimiter member).2 rfl, ih⟩
  | item isItem front back _ ih =>
      rw [List.forall_mem_cons]
      refine ⟨?_, ih⟩
      intro member
      rw [String.toList_append, String.toList_append, List.mem_append, List.mem_append] at member
      rcases member with (member | member) | member
      · exact (front delimiter member).2 rfl
      · exact isItem.whole member
      · exact (back delimiter member).2 rfl

theorem is_item (layout : Layout delimiter items pieces) :
    ∀ item ∈ items, IsItem delimiter item := by
  induction layout with
  | nil => simp
  | blank _ _ ih => exact ih
  | item isItem _ _ _ ih => exact List.forall_mem_cons.mpr ⟨isItem, ih⟩

theorem plain (each : ∀ item ∈ items, IsItem delimiter item) : Layout delimiter items items := by
  induction items with
  | nil => exact .nil
  | cons item rest ih =>
      rw [List.forall_mem_cons] at each
      have padding : Padding delimiter "" := by simp [Padding]
      simpa using Layout.item each.1 padding padding (ih each.2)

theorem of_pieces (each : ∀ piece ∈ pieces, delimiter ∉ piece.toList) :
    Layout delimiter (kept pieces) pieces := by
  induction pieces with
  | nil => exact .nil
  | cons piece rest ih =>
      rw [List.forall_mem_cons] at each
      rcases piece_cases each.1 with padding | ⟨before, item, after, isItem, front, back, rfl⟩
      · rw [kept_blank fun c member => (padding c member).1]
        exact .blank padding (ih each.2)
      · rw [kept_item isItem.nonempty (isItem.trim_padded front back)]
        exact .item isItem front back (ih each.2)

-- No piece at all and one empty piece are written alike, and neither holds an item.
theorem items_cell (layout : Layout delimiter items pieces) :
    Row.items delimiter (String.intercalate (String.singleton delimiter) pieces) = items := by
  cases pieces with
  | nil =>
      cases layout
      rfl
  | cons piece rest =>
      have back := split_intercalate (by simp) layout.whole
      rw [Row.items, back]
      exact layout.kept_pieces

theorem of_cell (delimiter : Char) (cell : String) :
    Layout delimiter (Row.items delimiter cell) (Text.split delimiter cell) :=
  of_pieces fun _ member => not_mem_split member

end Layout

theorem list_of_get? {row : Row} {name cell : String} (found : row.get? name = some cell)
    (delimiter : Char) : row.list name delimiter = Row.items delimiter cell := by
  rw [list, found]

end Row

/-- A cell in which items are laid out between delimiters, with blanks around them and blank pieces
among them, reads as these items, in order. Every cell is such a layout of the items that it reads
as; so these, joined by the delimiter alone, read as themselves. -/
theorem list_cells_read_as_items (delimiter : Char) :
    (∀ items pieces, Row.Layout delimiter items pieces → ∀ (row : Row) (name : String),
      row.get? name = some (String.intercalate (String.singleton delimiter) pieces) →
        row.list name delimiter = items) ∧
    ∀ (row : Row) (name cell : String), row.get? name = some cell →
      (∃ pieces, cell = String.intercalate (String.singleton delimiter) pieces ∧
        Row.Layout delimiter (row.list name delimiter) pieces) ∧
      ∀ (row' : Row) (name' : String), row'.get? name' =
          some (String.intercalate (String.singleton delimiter) (row.list name delimiter)) →
        row'.list name' delimiter = row.list name delimiter := by
  have reads : ∀ items pieces, Row.Layout delimiter items pieces → ∀ (row : Row) (name : String),
      row.get? name = some (String.intercalate (String.singleton delimiter) pieces) →
        row.list name delimiter = items := by
    intro items pieces layout row name found
    rw [Row.list_of_get? found, layout.items_cell]
  refine ⟨reads, ?_⟩
  intro row name cell found
  have layout := Row.Layout.of_cell delimiter cell
  rw [← Row.list_of_get? found] at layout
  exact ⟨⟨_, (Text.intercalate_split delimiter cell).symm, layout⟩,
    fun row' name' found' => reads _ _ (.plain layout.is_item) row' name' found'⟩

-- The delimiter is a blank itself. There is a tab in front of the first item, an empty piece behind
-- it, and a wide blank behind the last item.
theorem spaced_tags_read_as_items :
    Row.Layout ' ' ["birds", "sql"] ["\tbirds", "", "sql\u3000", ""] ∧
      (Row.ofCells [("tags", "\tbirds  sql\u3000 ")]).get? "tags" =
        some (String.intercalate (String.singleton ' ') ["\tbirds", "", "sql\u3000", ""]) ∧
      (Row.ofCells [("tags", "\tbirds  sql\u3000 ")]).list "tags" ' ' = ["birds", "sql"] ∧
      (Row.ofCells [("tags", "birds sql")]).list "tags" ' ' =
        (Row.ofCells [("tags", "\tbirds  sql\u3000 ")]).list "tags" ' ' := by
  have birds : Row.IsItem ' ' "birds" := by
    refine ⟨by decide, by decide, ?_, ?_⟩ <;> intro c isEnd <;> cases isEnd <;> rfl
  have sql : Row.IsItem ' ' "sql" := by
    refine ⟨by decide, by decide, ?_, ?_⟩ <;> intro c isEnd <;> cases isEnd <;> rfl
  have none : Row.Padding ' ' "" := by simp [Row.Padding]
  have tab : Row.Padding ' ' "\t" := List.forall_mem_singleton.mpr (by decide)
  have wide : Row.Padding ' ' "\u3000" := List.forall_mem_singleton.mpr (by decide)
  have layout : Row.Layout ' ' ["birds", "sql"] ["\tbirds", "", "sql\u3000", ""] := by
    have parts := Row.Layout.item sql none wide (.blank none .nil)
    exact Row.Layout.item birds tab none (.blank none parts)
  have found : (Row.ofCells [("tags", "\tbirds  sql\u3000 ")]).get? "tags" =
      some (String.intercalate (String.singleton ' ') ["\tbirds", "", "sql\u3000", ""]) := by decide
  obtain ⟨reads, again⟩ := list_cells_read_as_items ' '
  have first := reads _ _ layout _ _ found
  refine ⟨layout, found, first, (again _ _ _ found).2 _ _ ?_⟩
  rw [first]
  decide

end WikiQuery
