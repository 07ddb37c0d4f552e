import Mathlib.Data.List.Chain
import WikiQuery.Proofs.Phrases
import WikiQuery.Proofs.Readability
import WikiQuery.Proofs.StringLiterals

/- No comment is opened. What a rendered text holds outside its string literals has no two minus
   signs, no slash and star next to each other, and no hash sign. -/
set_option autoImplicit false

namespace WikiQuery

open SqlText Sql Sql.Term

namespace SqlText

def openers : List String := ["--", "/*", "#"]

def OpensNoComment (text : String) : Prop :=
  ∃ kept, mask text = some kept ∧ ∀ opener ∈ openers, ¬ opener.toList <:+: kept.toList

def Apart (a b : Char) : Prop := ¬ (a = '-' ∧ b = '-') ∧ ¬ (a = '/' ∧ b = '*')

instance : DecidableRel Apart := fun a b =>
  inferInstanceAs (Decidable (¬ (a = '-' ∧ b = '-') ∧ ¬ (a = '/' ∧ b = '*')))

def marks : List Char := ['\'', '-', '/', '*', '#']

theorem apart_of_left {a : Char} (other : a ∉ marks) (b : Char) : Apart a b := by
  constructor
  · rintro ⟨rfl, _⟩
    exact other (by decide)
  · rintro ⟨rfl, _⟩
    exact other (by decide)

theorem apart_of_right {b : Char} (other : b ∉ marks) (a : Char) : Apart a b := by
  constructor
  · rintro ⟨_, rfl⟩
    exact other (by decide)
  · rintro ⟨_, rfl⟩
    exact other (by decide)

-- A scan of the characters, with what it keeps of them. The first character is kept, so that a
-- minus sign in front can tell what follows it.
structure Quiet (cs kept : List Char) : Prop where
  masks : Masks cs kept
  head : kept.head? = cs.head?
  apart : kept.IsChain Apart
  clean : '#' ∉ kept

theorem quiet_unmarked {cs : List Char} (unmarked : ∀ c ∈ cs, c ∉ marks) : Quiet cs cs where
  masks := masks_plain fun quote => unmarked _ quote (by decide)
  head := rfl
  apart := by
    induction cs with
    | nil => exact .nil
    | cons c cs ih =>
        rw [List.isChain_cons]
        exact ⟨fun d _ => apart_of_left (unmarked c List.mem_cons_self) d,
          ih fun d member => unmarked d (.tail _ member)⟩
  clean := fun hash => unmarked _ hash (by decide)

theorem quiet_words {cs : List Char} (words : ∀ c ∈ cs, isWordChar c = true ∨ c = '.') :
    Quiet cs cs :=
  quiet_unmarked fun c member => word_not_mem (by decide) (words c member)

theorem quiet_symbol : ∀ cs ∈ symbols, Quiet cs cs := by
  have plain : ∀ cs ∈ symbols, Plain cs ∧ cs.IsChain Apart ∧ '#' ∉ cs := by decide
  intro cs known
  obtain ⟨noQuote, apart, clean⟩ := plain cs known
  exact ⟨masks_plain noQuote, rfl, apart, clean⟩

theorem quiet_quote (s : String) : Quiet (Literal.quote s).toList ['\'', '\''] where
  masks := masks_quote s
  head := by simp [Literal.quote]
  apart := by decide
  clean := by decide

theorem Quiet.across {a b keptA keptB : List Char} {c : Char} (other : c ∉ marks)
    (first : Quiet a keptA) (second : Quiet b keptB) :
    Quiet (a ++ c :: b) (keptA ++ c :: keptB) where
  masks := by
    have noQuote : c ≠ '\'' := fun same => other (by simp [same, marks])
    have plain : Plain [c] := by simpa [Plain] using noQuote.symm
    exact first.masks.append (.after plain second.masks) (by simpa using noQuote)
  head := by simp [List.head?_append, first.head]
  apart := by
    refine first.apart.append ?_ ?_
    · rw [List.isChain_cons]
      exact ⟨fun d _ => apart_of_left other d, second.apart⟩
    · intro d _ e isFirst
      cases isFirst
      exact apart_of_right other d
  clean := by
    intro hash
    rcases List.mem_append.mp hash with hash | hash
    · exact first.clean hash
    · rcases List.mem_cons.mp hash with rfl | hash
      · exact other (by decide)
      · exact second.clean hash

theorem Quiet.minus {cs kept : List Char} (quiet : Quiet cs kept) (unsigned : cs.head? ≠ some '-') :
    Quiet ('-' :: cs) ('-' :: kept) where
  masks := .after (a := ['-']) (by decide) quiet.masks
  head := rfl
  apart := by
    rw [List.isChain_cons]
    refine ⟨fun d isFirst => ⟨?_, by simp⟩, quiet.apart⟩
    rintro ⟨_, rfl⟩
    exact unsigned (quiet.head ▸ isFirst)
  clean := by
    intro hash
    rcases List.mem_cons.mp hash with same | hash
    · exact absurd same (by decide)
    · exact quiet.clean hash

theorem Phrase.quiet {commas : Bool} {cs : List Char} (phrase : Phrase commas cs) :
    ∃ kept, Quiet cs kept := by
  induction phrase with
  | word _ words => exact ⟨_, quiet_words words⟩
  | symbol known => exact ⟨_, quiet_symbol _ known⟩
  | quoted s => exact ⟨_, quiet_quote s⟩
  | minus _ unsigned ih =>
      obtain ⟨kept, quiet⟩ := ih
      exact ⟨_, quiet.minus unsigned⟩
  | spaced _ _ leftIh rightIh =>
      obtain ⟨keptLeft, left⟩ := leftIh
      obtain ⟨keptRight, right⟩ := rightIh
      exact ⟨_, left.across (by decide) right⟩
  | listed _ _ leftIh rightIh =>
      obtain ⟨keptLeft, left⟩ := leftIh
      obtain ⟨keptRight, right⟩ := rightIh
      exact ⟨_, left.across (by decide) right⟩
  | group words _ ih =>
      obtain ⟨kept, inner⟩ := ih
      have opening := quiet_words fun c member => .inl (words c member)
      have closing : Quiet [] [] := quiet_unmarked (by simp)
      exact ⟨_, opening.across (by decide) (inner.across (by decide) closing)⟩

theorem Quiet.opens_no_comment {text : String} {kept : List Char} (quiet : Quiet text.toList kept) :
    OpensNoComment text := by
  refine ⟨String.ofList kept, quiet.masks.complete, ?_⟩
  intro opener known inside
  rw [String.toList_ofList] at inside
  have chain := quiet.apart.infix inside
  simp only [openers, List.mem_cons, List.not_mem_nil, or_false] at known
  rcases known with rfl | rfl | rfl
  · exact absurd chain (by decide)
  · exact absurd chain (by decide)
  · exact quiet.clean (inside.subset (by decide))

end SqlText

/-- Whatever an expression holds, and whatever identifiers stand for the terms in it, its SQL text
opens no comment outside its string literals. -/
theorem rendered_text_opens_no_comment {c : Catalog} {s s' : Scope} {clause : Clause} {e : Expr}
    {t : Typed} (fields : c.PlainFields) (labels : s.PlainLabels)
    (ends : (e.lower c clause).commit s = .ok (t, s')) :
    OpensNoComment t.term.render ∧
      ∀ names, PlainNames names → OpensNoComment (t.term.renderWith names) := by
  have lowers := Expr.lowers_of_lower c clause e (Steps.commit_ok.mp ends)
  have formed : Formed WordColumn t.term :=
    formed_words (lowers.grows.plain_labels labels) fields lowers.formed
  have quiet : ∀ names, PlainNames names → OpensNoComment (t.term.renderWith names) := by
    intro names plain
    obtain ⟨kept, quiet⟩ := (render_with_phrase plain t.term formed).quiet
    exact quiet.opens_no_comment
  exact ⟨quiet [] (by simp [PlainNames]), quiet⟩

-- The texts are `-(-T1.length) - -5` and `-(n) - -5`.
theorem signs_open_no_comment :
    Sample.catalog.PlainFields ∧ Sample.start.scope.PlainLabels ∧
      (Sample.signs.lower Sample.catalog .select).commit Sample.start.scope =
        .ok (⟨Sample.signsTerm, some .integer⟩, Sample.start.scope) ∧
      PlainNames Sample.signNames ∧ OpensNoComment Sample.signsTerm.render ∧
      OpensNoComment (Sample.signsTerm.renderWith Sample.signNames) := by
  have fields := Sample.plain_fields
  have labels : Sample.start.scope.PlainLabels := by
    rw [Scope.PlainLabels]
    decide
  have lowered : (Sample.signs.lower Sample.catalog .select).commit Sample.start.scope =
      .ok (⟨Sample.signsTerm, some .integer⟩, Sample.start.scope) := rfl
  have names : PlainNames Sample.signNames := by
    rw [PlainNames]
    decide
  obtain ⟨plain, named⟩ := rendered_text_opens_no_comment fields labels lowered
  exact ⟨fields, labels, lowered, names, plain, named _ names⟩

end WikiQuery
