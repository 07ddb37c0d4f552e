import WikiQuery.Proofs.LiteralText
import WikiQuery.Proofs.Navigation

/- Identifiers. Generated labels and the names of built-in fields are identifiers, and walking
   along relations adds no label that is not one. -/
set_option autoImplicit false

namespace WikiQuery

def isWordChar (c : Char) : Bool := c.isAlphanum || c == '_'

theorem ne_of_class {p : Char → Bool} {c d : Char} (inside : p c = true) (outside : p d = false) :
    c ≠ d := by
  rintro rfl
  rw [inside] at outside
  cases outside

theorem word_char_of_is_digit {c : Char} (digit : c.isDigit = true) : isWordChar c = true := by
  simp [isWordChar, Char.isAlphanum, digit]

theorem not_letter_of_is_digit {c : Char} (digit : c.isDigit = true) :
    (c.isAlpha || c == '_') = false := by
  have noUnderscore : c ≠ '_' := ne_of_class digit rfl
  have below : ∀ first : UInt32, 57 < first.toNat → ¬ c.val ≥ first := by
    intro first large above
    have digitBound : c.val.toNat ≤ 57 := (Char.isDigit_iff_toNat.mp digit).2
    have bound : first.toNat ≤ c.val.toNat := UInt32.le_iff_toNat_le.mp above
    omega
  have noUpper : c.isUpper = false := decide_eq_false fun range => below _ (by decide) range.1
  have noLower : c.isLower = false := by
    change (decide (c.val ≥ 'a'.val) && decide (c.val ≤ 'z'.val)) = false
    rw [decide_eq_false (below _ (by decide)), Bool.false_and]
  have noAlpha : c.isAlpha = false := by
    change (c.isUpper || c.isLower) = false
    rw [noUpper, noLower, Bool.or_false]
  simp [noAlpha, noUnderscore]

theorem identifier_cons {s : String} (plain : isIdentifier s = true) :
    ∃ c rest, s.toList = c :: rest ∧ (c.isAlpha || c == '_') = true ∧
      ∀ d ∈ rest, isWordChar d = true := by
  rw [isIdentifier] at plain
  split at plain
  next => cases plain
  next c rest text =>
    rw [Bool.and_eq_true, List.all_eq_true] at plain
    exact ⟨c, rest, text, plain.1, plain.2⟩

theorem identifier_words {s : String} (plain : isIdentifier s = true) :
    ∀ c ∈ s.toList, isWordChar c = true := by
  obtain ⟨c, rest, text, first, later⟩ := identifier_cons plain
  rw [text]
  intro d member
  rcases List.mem_cons.mp member with rfl | member
  · rw [Bool.or_eq_true] at first
    rcases first with letter | underscore
    · simp [isWordChar, Char.isAlphanum, letter]
    · simp [isWordChar, underscore]
  · exact later d member

theorem generated_label_identifier (n : Nat) : isIdentifier (generatedLabel n) = true := by
  have text : (generatedLabel n).toList = 'T' :: n.repr.toList := by
    rw [generatedLabel, String.toList_append]
    rfl
  have rest : (n.repr.toList.all isWordChar) = true := by
    rw [List.all_eq_true]
    intro c member
    exact word_char_of_is_digit ((digits_repr n).2 c member)
  rw [isIdentifier, text]
  change (('T'.isAlpha || 'T' == '_') && n.repr.toList.all isWordChar) = true
  rw [rest]
  decide

theorem system_field_identifier : ∀ f ∈ systemFields, isIdentifier f.name = true := by
  decide

def Scope.PlainLabels (s : Scope) : Prop := ∀ source ∈ s.sources, isIdentifier source.label = true

theorem Grows.plain_labels {c : Catalog} {s s' : Scope} (grows : Grows c s s')
    (plain : s.PlainLabels) : s'.PlainLabels := by
  induction grows with
  | refl => exact plain
  | join _ _ _ _ fresh _ ih =>
      obtain ⟨near, target, localField, foreignField, _, _, _, _, rfl, rfl⟩ :=
        Navigation.new_join_ok fresh
      intro source member
      rcases List.mem_append.mp member with member | member
      · exact ih source member
      · rw [List.mem_singleton.mp member]
        exact generated_label_identifier _

theorem Located.field_name {c : Catalog} {s : Scope} {column : Column} {p : String → Prop}
    (located : Located c s column) (declared : ∀ table ∈ c.tables, ∀ f ∈ table.fields, p f.name)
    (system : ∀ f ∈ systemFields, p f.name) : p column.field := by
  obtain ⟨source, _, _, table, known, field, found, _⟩ := located
  obtain ⟨member, name⟩ := Table.field_of_field? found
  rw [← name]
  rcases List.mem_append.mp member with member | member
  · exact declared table (List.mem_of_find?_eq_some known) field member
  · exact system field member

theorem Located.label_identifier {c : Catalog} {s : Scope} {column : Column}
    (located : Located c s column) (plain : s.PlainLabels) : isIdentifier column.label = true := by
  obtain ⟨source, member, label, _⟩ := located
  rw [← label]
  exact plain source member

end WikiQuery
