import WikiQuery.Proofs.LiteralText

/- String literals inside SQL text, found by a scan from left to right. A literal opens with a
   quote and ends at the first quote that is not doubled; a backslash takes the character behind
   it along. -/
set_option autoImplicit false

namespace WikiQuery.SqlText

mutual
def outside : List Char → Option (List Char)
  | [] => some []
  | '\'' :: rest => inside rest
  | c :: rest => (outside rest).map (c :: ·)

def inside : List Char → Option (List Char)
  | [] => none
  | '\\' :: _ :: rest => inside rest
  | '\'' :: '\'' :: rest => inside rest
  | '\'' :: rest => (outside rest).map (['\'', '\''] ++ ·)
  | _ :: rest => inside rest
end

def mask (text : String) : Option String := (outside text.toList).map String.ofList

-- The scan of these characters is complete, whatever comes behind them. A quote behind them could
-- still be the second half of a doubled one.
def Masks (cs kept : List Char) : Prop :=
  ∀ rest, rest.head? ≠ some '\'' → outside (cs ++ rest) = (outside rest).map (kept ++ ·)

def Plain (cs : List Char) : Prop := '\'' ∉ cs

instance (cs : List Char) : Decidable (Plain cs) := inferInstanceAs (Decidable ('\'' ∉ cs))

theorem Plain.head {cs : List Char} (plain : Plain cs) : cs.head? ≠ some '\'' := by
  intro quote
  exact plain (List.mem_of_mem_head? quote)

theorem outside_cons {c : Char} (other : c ≠ '\'') (rest : List Char) :
    outside (c :: rest) = (outside rest).map (c :: ·) := by
  rw [outside]
  simpa using other

theorem inside_cons {c : Char} (noQuote : c ≠ '\'') (noSlash : c ≠ '\\') (rest : List Char) :
    inside (c :: rest) = inside rest := by
  rw [inside]
  · exact fun _ _ same => absurd same noSlash
  · exact fun _ same => absurd same noQuote
  · simpa using noQuote

theorem inside_close {rest : List Char} (stop : rest.head? ≠ some '\'') :
    inside ('\'' :: rest) = (outside rest).map (['\'', '\''] ++ ·) := by
  rw [inside]
  intro tail same
  rw [same] at stop
  exact stop rfl

theorem inside_double (cs : List Char) {rest : List Char} (stop : rest.head? ≠ some '\'') :
    inside (Literal.double cs ++ '\'' :: rest) = (outside rest).map (['\'', '\''] ++ ·) := by
  induction cs with
  | nil => exact inside_close stop
  | cons c cs ih =>
      by_cases quote : c = '\''
      · subst quote
        exact ih
      · by_cases slash : c = '\\'
        · subst slash
          exact ih
        · have single : Literal.double (c :: cs) = c :: Literal.double cs := by
            simp [Literal.double, quote, slash]
          rw [single, List.cons_append, inside_cons quote slash]
          exact ih

theorem masks_quote (s : String) : Masks (Literal.quote s).toList ['\'', '\''] := by
  intro rest stop
  have text : (Literal.quote s).toList ++ rest =
      '\'' :: (Literal.double s.toList ++ '\'' :: rest) := by
    simp [Literal.quote]
  rw [text, outside]
  exact inside_double s.toList stop

theorem masks_plain {cs : List Char} (plain : Plain cs) : Masks cs cs := by
  intro rest _
  induction cs with
  | nil => simp
  | cons c cs ih =>
      have other : c ≠ '\'' := fun same => plain (by simp [same])
      have later : Plain cs := fun member => plain (List.mem_cons_of_mem c member)
      rw [List.cons_append, outside_cons other, ih later, Option.map_map]
      rfl

namespace Masks

theorem append {a b keptA keptB : List Char} (first : Masks a keptA) (second : Masks b keptB)
    (apart : b.head? ≠ some '\'') : Masks (a ++ b) (keptA ++ keptB) := by
  intro rest stop
  have between : (b ++ rest).head? ≠ some '\'' := by
    cases b with
    | nil => exact stop
    | cons c b => exact apart
  rw [List.append_assoc, first (b ++ rest) between, second rest stop, Option.map_map]
  congr 1
  funext tail
  simp

theorem after {a b kept : List Char} (plain : Plain a) (second : Masks b kept) :
    Masks (a ++ b) (a ++ kept) := by
  induction a with
  | nil => exact second
  | cons c a ih =>
      have other : c ≠ '\'' := fun same => plain (by simp [same])
      have later : Plain a := fun member => plain (List.mem_cons_of_mem c member)
      intro rest stop
      rw [List.cons_append, List.cons_append, outside_cons other, ih later rest stop,
        Option.map_map]
      rfl

theorem before {a b kept : List Char} (first : Masks a kept) (plain : Plain b) :
    Masks (a ++ b) (kept ++ b) := first.append (masks_plain plain) plain.head

theorem complete {text : String} {kept : List Char} (masks : Masks text.toList kept) :
    mask text = some (String.ofList kept) := by
  have whole := masks [] (by simp)
  rw [List.append_nil] at whole
  rw [mask, whole]
  simp [outside]

theorem intercalate {α : Type} {between : List Char} (plain : Plain between) (some : between ≠ [])
    {text kept : α → List Char} {pieces : List α} (each : ∀ x ∈ pieces, Masks (text x) (kept x)) :
    Masks (between.intercalate (pieces.map text)) (between.intercalate (pieces.map kept)) := by
  induction pieces with
  | nil => exact masks_plain (by simp [Plain])
  | cons x pieces ih =>
      have first := each x List.mem_cons_self
      cases pieces with
      | nil => simpa using first
      | cons y pieces =>
          have later := ih fun z member => each z (List.mem_cons_of_mem x member)
          simp only [List.map_cons, List.intercalate_cons_cons, List.append_assoc]
          refine first.append (after plain later) ?_
          cases between with
          | nil => exact absurd rfl some
          | cons c between => exact plain.head

end Masks

def masked (text : String) : String := (mask text).getD text

def SameMask (a b : String) : Prop := masked a = masked b

theorem SameMask.refl (text : String) : SameMask text text := rfl

theorem Masks.masked_eq {text : String} {kept : List Char} (masks : Masks text.toList kept) :
    masked text = String.ofList kept := by
  rw [masked, masks.complete]
  rfl

theorem Masks.masked {text : String} {kept : List Char} (masks : Masks text.toList kept) :
    Masks text.toList (SqlText.masked text).toList := by
  rw [masks.masked_eq, String.toList_ofList]
  exact masks

theorem masked_quote (s : String) : masked (Literal.quote s) = "\'\'" := (masks_quote s).masked_eq

theorem plain_numeral {cs : List Char} (numeral : IsNumeral cs) : Plain cs := by
  have digits : ∀ {ds : List Char}, IsDigits ds → Plain ds := by
    intro ds isDigits quote
    exact absurd (isDigits.2 _ quote) (by decide)
  rcases numeral with isDigits | ⟨whole, fraction, wholeDigits, fractionDigits, rfl⟩
  · exact digits isDigits
  · simp only [Plain, List.mem_append, List.mem_cons, not_or]
    exact ⟨digits wholeDigits, by decide, digits fractionDigits⟩

theorem plain_number {text : String} (number : IsNumber text) : Plain text.toList := by
  rcases number with numeral | ⟨cs, text, numeral⟩
  · exact plain_numeral numeral
  · rw [text]
    simp only [Plain, List.mem_cons, not_or]
    exact ⟨by decide, plain_numeral numeral⟩

theorem masked_plain {text : String} (plain : Plain text.toList) : masked text = text := by
  rw [(masks_plain plain).masked_eq, String.ofList_toList]

theorem masks_scalar {text : String} (scalar : ScalarText text) :
    Masks text.toList (masked text).toList := by
  cases scalar with
  | null => exact (masks_plain (by decide)).masked
  | truth b => exact (masks_plain (by cases b <;> decide)).masked
  | number number => exact (masks_plain (plain_number number)).masked
  | quoted s => exact (masks_quote s).masked

theorem masks_enumeration {texts : List String} (scalars : ∀ text ∈ texts, ScalarText text) :
    Masks ("(" ++ String.intercalate "," texts ++ ")").toList
      ("(" ++ String.intercalate "," (texts.map masked) ++ ")").toList := by
  simp only [String.toList_append, String.toList_intercalate, List.map_map]
  refine .before (.after (by decide) ?_) (by decide)
  exact .intercalate (by decide) (by decide) fun text member => masks_scalar (scalars text member)

theorem masked_enumeration {texts : List String} (scalars : ∀ text ∈ texts, ScalarText text) :
    masked ("(" ++ String.intercalate "," texts ++ ")") =
      "(" ++ String.intercalate "," (texts.map masked) ++ ")" := by
  rw [(masks_enumeration scalars).masked_eq, String.ofList_toList]

theorem masks_literal {text : String} (literal : LiteralText text) :
    Masks text.toList (masked text).toList := by
  cases literal with
  | scalar scalar => exact masks_scalar scalar
  | enumeration _ scalars => exact (masks_enumeration scalars).masked
  | star => exact (masks_plain (by decide)).masked

end WikiQuery.SqlText
