import WikiQuery.Proofs.Compounds
import WikiQuery.Proofs.Rendering

/- Phrases: the texts that the printer writes, whatever output names it is given. A phrase is made
   of words, symbols and quoted texts with blanks between them; parentheses hold phrases with commas
   between them, and a minus sign stands before a phrase that has none. What holds of every
   rendered text is shown by induction on phrases. -/
set_option autoImplicit false

namespace WikiQuery

open Sql Sql.Term

namespace SqlText

def symbols : List (List Char) :=
  ["=", "!=", "<", "<=", ">", ">=", "+", "-", "*", "/"].map String.toList

-- The flag tells whether commas may stand outside parentheses.
inductive Phrase : Bool → List Char → Prop where
  | word {cs : List Char} (some : cs ≠ []) (words : ∀ c ∈ cs, isWordChar c = true ∨ c = '.') :
      Phrase false cs
  | symbol {cs : List Char} (known : cs ∈ symbols) : Phrase false cs
  | quoted (s : String) : Phrase false (Literal.quote s).toList
  | minus {cs : List Char} (phrase : Phrase false cs) (unsigned : cs.head? ≠ some '-') :
      Phrase false ('-' :: cs)
  | spaced {l r : List Char} (left : Phrase false l) (right : Phrase false r) :
      Phrase false (l ++ ' ' :: r)
  | listed {commas : Bool} {l r : List Char} (left : Phrase false l) (right : Phrase commas r) :
      Phrase true (l ++ ',' :: r)
  | group {commas : Bool} {name cs : List Char} (words : ∀ c ∈ name, isWordChar c = true)
      (inner : Phrase commas cs) : Phrase false (name ++ '(' :: (cs ++ [')']))

theorem word_not_mem {marks : List Char}
    (others : (marks.any fun d => isWordChar d || d == '.') = false) {c : Char}
    (word : isWordChar c = true ∨ c = '.') : c ∉ marks := by
  intro mark
  rw [List.any_eq_false] at others
  exact others c mark (by simpa using word)

theorem phrase_identifier {s : String} (plain : isIdentifier s = true) : Phrase false s.toList := by
  obtain ⟨c, rest, text, _⟩ := identifier_cons plain
  exact .word (by simp [text]) fun d member => .inl (identifier_words plain d member)

theorem phrase_parenthesize {commas : Bool} {text : String} (phrase : Phrase commas text.toList) :
    Phrase false (parenthesize text).toList := by
  have grouped : Phrase false ([] ++ '(' :: (text.toList ++ [')'])) := .group (by simp) phrase
  simpa [parenthesize] using grouped

theorem phrase_numeral {cs : List Char} (numeral : IsNumeral cs) : Phrase false cs := by
  have digits : ∀ {ds : List Char}, IsDigits ds → ∀ c ∈ ds, isWordChar c = true ∨ c = '.' :=
    fun isDigits c member => .inl (word_char_of_is_digit (isDigits.2 c member))
  rcases numeral with whole | ⟨whole, fraction, wholeDigits, fractionDigits, rfl⟩
  · exact .word whole.1 (digits whole)
  · refine .word (by simp) ?_
    intro c member
    rcases List.mem_append.mp member with member | member
    · exact digits wholeDigits c member
    · rcases List.mem_cons.mp member with point | member
      · exact .inr point
      · exact digits fractionDigits c member

theorem phrase_number {text : String} (number : IsNumber text) : Phrase false text.toList := by
  rcases number with numeral | ⟨cs, isText, numeral⟩
  · exact phrase_numeral numeral
  · obtain ⟨c, rest, rfl, digit⟩ := numeral_cons numeral
    rw [isText]
    refine .minus (phrase_numeral numeral) ?_
    simpa using ne_of_class digit (d := '-') rfl

theorem phrase_scalar {text : String} (scalar : ScalarText text) : Phrase false text.toList := by
  cases scalar with
  | null => exact phrase_identifier (by decide)
  | truth b => exact phrase_identifier (by cases b <;> decide)
  | number number => exact phrase_number number
  | quoted s => exact .quoted s

theorem phrase_list {items : List (List Char)} (some : items ≠ [])
    (each : ∀ cs ∈ items, Phrase false cs) : ∃ commas, Phrase commas ([','].intercalate items) := by
  induction items with
  | nil => exact absurd rfl some
  | cons cs items ih =>
      have first := each cs List.mem_cons_self
      cases items with
      | nil => exact ⟨false, by simpa using first⟩
      | cons next items =>
          obtain ⟨commas, later⟩ := ih (by simp) fun other member => each other (.tail _ member)
          refine ⟨true, ?_⟩
          rw [List.intercalate_cons_cons, List.append_assoc]
          exact .listed first later

theorem phrase_literal {text : String} (literal : LiteralText text) : Phrase false text.toList := by
  cases literal with
  | scalar scalar => exact phrase_scalar scalar
  | @enumeration texts nonempty scalars =>
      have each : ∀ cs ∈ texts.map String.toList, Phrase false cs := by
        intro cs member
        obtain ⟨text, inTexts, rfl⟩ := List.mem_map.mp member
        exact phrase_scalar (scalars text inTexts)
      obtain ⟨commas, inner⟩ := phrase_list (by simpa using nonempty) each
      have written : Phrase commas (String.intercalate "," texts).toList := by
        rw [String.toList_intercalate]
        exact inner
      exact phrase_parenthesize written
  | star => exact .symbol (by decide)

theorem phrase_op (op : Sql.BinaryOp) : Phrase false op.text.toList := by
  cases op with
  | like | isIn | holds => exact phrase_identifier (by decide)
  | notIn =>
      have first : Phrase false "NOT".toList := phrase_identifier (by decide)
      have second : Phrase false "IN".toList := phrase_identifier (by decide)
      exact first.spaced second
  | _ => exact .symbol (by decide)

theorem phrase_column {c : Column} (words : WordColumn c) : Phrase false c.text.toList := by
  refine .word (by simp [Column.text]) ?_
  intro d member
  simp only [Column.text, String.toList_append, List.mem_append] at member
  rcases member with (member | member) | member
  · exact .inl (identifier_words words.1 d member)
  · exact .inr (by simpa using member)
  · exact .inl (identifier_words words.2 d member)

theorem phrase_chain (k : Connective) {texts : List (List Char)} (some : texts ≠ [])
    (each : ∀ cs ∈ texts, Phrase false cs) :
    Phrase false ((" " ++ k.text ++ " ").toList.intercalate texts) := by
  have word : Phrase false k.text.toList := phrase_identifier (by cases k <;> decide)
  induction texts with
  | nil => exact absurd rfl some
  | cons cs texts ih =>
      have first := each cs List.mem_cons_self
      cases texts with
      | nil => simpa using first
      | cons next texts =>
          have later := ih (by simp) fun other member => each other (.tail _ member)
          have longer := first.spaced (word.spaced later)
          simpa [List.intercalate_cons_cons] using longer

end SqlText

namespace Sql.Term

open SqlText

def PlainNames (names : Names) : Prop := ∀ entry ∈ names, isIdentifier entry.2 = true

variable {names : Names}

theorem PlainNames.identifier (plain : PlainNames names) {t : Term} {name : String}
    (named : nameOf? names t = some name) : isIdentifier name = true := by
  obtain ⟨entry, found, rfl⟩ := Option.map_eq_some_iff.mp named
  exact plain entry (List.mem_of_find?_eq_some found)

theorem phrase_named (plain : PlainNames names) (t : Term) {text : String}
    (phrase : Phrase false text.toList) : Phrase false (named names t text).toList := by
  rw [named]
  cases isNamed : nameOf? names t with
  | none => exact phrase
  | some name => exact phrase_identifier (plain.identifier isNamed)

theorem phrase_operand {t : Term} (phrase : Phrase false (renderWith names t).toList) :
    Phrase false (operand names t (renderWith names t)).toList := by
  rw [operand]
  split
  · exact phrase_parenthesize phrase
  · exact phrase

theorem head_identifier {s : String} (plain : isIdentifier s = true) (rest : List Char) :
    (s.toList ++ rest).head? ≠ some '-' := by
  obtain ⟨c, tail, text, letter, _⟩ := identifier_cons plain
  rw [text]
  simpa using ne_of_class (p := fun c => c.isAlpha || c == '_') letter (d := '-') rfl

theorem head_operand (plain : PlainNames names) {t : Term} (formed : Formed WordColumn t)
    (unsigned : t.isSigned = false) :
    (operand names t (renderWith names t)).toList.head? ≠ some '-' := by
  cases isNamed : nameOf? names t with
  | some name =>
      have text : operand names t (renderWith names t) = name := by
        rw [render_with_named isNamed, operand, isNamed]
        simp
      rw [text, ← List.append_nil name.toList]
      exact head_identifier (plain.identifier isNamed) []
  | none =>
      by_cases composite : t.isComposite = true
      · simp [operand, composite, isNamed, parenthesize]
      · have bare : operand names t (renderWith names t) = renderWith names t := by
          simp [operand, composite]
        rw [bare]
        cases t with
        | source | ordering => exact formed.elim
        | binary | junction => exact absurd rfl composite
        | column c =>
            rw [renderWith, named, isNamed]
            simp only [Option.getD_none, Column.text, String.toList_append, List.append_assoc]
            exact head_identifier formed.1 _
        | literal text =>
            rw [renderWith, named, isNamed]
            simpa [isSigned] using unsigned
        | function name distinct args =>
            rw [renderWith, named, isNamed]
            simp only [Option.getD_none, String.toList_append, List.append_assoc]
            exact head_identifier (function_name_identifier name formed.1) _
        | unary op t =>
            cases op with
            | neg => cases unsigned
            | _ => exact absurd rfl composite

mutual
-- By induction on the term; an output name is a word wherever it stands.
theorem render_with_phrase (plain : PlainNames names) :
    ∀ (t : Term), Formed WordColumn t → Phrase false (renderWith names t).toList
  | .source _, formed => formed.elim
  | .ordering _ _, formed => formed.elim
  | .column c, formed => phrase_named plain _ (phrase_column formed)
  | .literal text, formed => phrase_named plain _ (phrase_literal formed)
  | .binary l op r, formed => by
      have left := phrase_operand (render_with_phrase plain l formed.1)
      have right := phrase_operand (render_with_phrase plain r formed.2)
      refine phrase_named plain _ ?_
      simpa using left.spaced ((phrase_op op).spaced right)
  | .unary .not t, formed => by
      have inner := phrase_operand (render_with_phrase plain t formed.1)
      have word : Phrase false "NOT".toList := phrase_identifier (by decide)
      refine phrase_named plain _ ?_
      simpa using word.spaced inner
  | .unary .neg t, formed => by
      have inner := render_with_phrase plain t formed.1
      refine phrase_named plain _ ?_
      rw [String.toList_append]
      split
      next => exact .minus (phrase_parenthesize inner) (by simp [parenthesize])
      next unsigned =>
        refine .minus (phrase_operand inner) (head_operand plain formed.1 ?_)
        simpa using unsigned
  | .unary .isNull t, formed => by
      have inner := phrase_operand (render_with_phrase plain t formed.1)
      have words : Phrase false ("IS".toList ++ ' ' :: "NULL".toList) :=
        .spaced (phrase_identifier (by decide)) (phrase_identifier (by decide))
      refine phrase_named plain _ ?_
      simpa using inner.spaced words
  | .unary .isNotNull t, formed => by
      have inner := phrase_operand (render_with_phrase plain t formed.1)
      have words : Phrase false ("IS".toList ++ ' ' :: ("NOT".toList ++ ' ' :: "NULL".toList)) :=
        .spaced (phrase_identifier (by decide))
          (.spaced (phrase_identifier (by decide)) (phrase_identifier (by decide)))
      refine phrase_named plain _ ?_
      simpa using inner.spaced words
  | .function _ _ [], formed => absurd formed.2.1 (by simp)
  | .function _ _ (_ :: _ :: _), formed => absurd formed.2.1 (by simp)
  | .function name distinct [arg], formed => by
      have inner := render_with_phrase plain arg formed.2.2.1
      have words := identifier_words (function_name_identifier name formed.1)
      have marked : Phrase false
          ((if distinct then "DISTINCT " else "") ++ renderWith names arg).toList := by
        cases distinct with
        | false => simpa using inner
        | true =>
            have word : Phrase false "DISTINCT".toList := phrase_identifier (by decide)
            simpa using word.spaced inner
      refine phrase_named plain _ ?_
      simpa [renderArgs] using Phrase.group words marked
  | .junction k ts, formed => by
      have inner := all_render_with_phrase plain ts formed.2
      have some : ts ≠ [] := by
        rintro rfl
        exact absurd formed.1 (by simp)
      refine phrase_named plain _ ?_
      rw [String.toList_intercalate, render_operands_eq, List.map_map]
      refine phrase_chain k (by simpa using some) ?_
      intro cs member
      obtain ⟨t, inTerms, rfl⟩ := List.mem_map.mp member
      exact phrase_operand (inner t inTerms)

theorem all_render_with_phrase (plain : PlainNames names) :
    ∀ (ts : List Term), AllFormed WordColumn ts → ∀ t ∈ ts, Phrase false (renderWith names t).toList
  | t :: ts, formed, u, member => by
      have first := render_with_phrase plain t formed.1
      rcases List.mem_cons.mp member with same | member
      · rw [same]
        exact first
      · exact all_render_with_phrase plain ts formed.2 u member
end

end Sql.Term

end WikiQuery
