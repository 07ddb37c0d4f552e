import WikiQuery.Literal
import WikiQuery.Proofs.Steps

/- The texts that literals have: truth values, `NULL`, numbers, quoted texts, and enumerations of
   these in parentheses. -/
set_option autoImplicit false

namespace WikiQuery

def IsDigits (cs : List Char) : Prop := cs ≠ [] ∧ ∀ c ∈ cs, c.isDigit = true

def IsNumeral (cs : List Char) : Prop :=
  IsDigits cs ∨ ∃ whole fraction, IsDigits whole ∧ IsDigits fraction ∧ cs = whole ++ '.' :: fraction

def IsNumber (text : String) : Prop :=
  IsNumeral text.toList ∨ ∃ cs, text.toList = '-' :: cs ∧ IsNumeral cs

theorem digits_append {cs ds : List Char} (some : cs ≠ [] ∨ ds ≠ [])
    (first : ∀ c ∈ cs, c.isDigit = true) (second : ∀ c ∈ ds, c.isDigit = true) :
    IsDigits (cs ++ ds) := by
  constructor
  · intro empty
    obtain ⟨noFirst, noSecond⟩ := List.append_eq_nil_iff.mp empty
    exact some.elim (fun ne => ne noFirst) (fun ne => ne noSecond)
  · intro c member
    rcases List.mem_append.mp member with member | member
    · exact first c member
    · exact second c member

theorem IsDigits.point {cs : List Char} (digits : IsDigits cs) {n : Nat} (some : 0 < n)
    (fewer : n < cs.length) : IsNumeral (cs.take n ++ '.' :: cs.drop n) := by
  refine .inr ⟨cs.take n, cs.drop n, ⟨?_, ?_⟩, ⟨?_, ?_⟩, rfl⟩
  · intro empty
    have length := congrArg List.length empty
    rw [List.length_take, List.length_nil] at length
    omega
  · intro c member
    exact digits.2 c (List.mem_of_mem_take member)
  · intro empty
    have length := congrArg List.length empty
    rw [List.length_drop, List.length_nil] at length
    omega
  · intro c member
    exact digits.2 c (List.mem_of_mem_drop member)

theorem digits_repr (n : Nat) : IsDigits n.repr.toList := by
  rw [Nat.toList_repr]
  refine ⟨Nat.toDigits_ne_nil, ?_⟩
  intro c member
  exact Nat.isDigit_of_mem_toDigits (by decide) (by decide) member

theorem number_int_text (i : Int) : IsNumber (Value.intText i) := by
  rw [Value.intText]
  split
  · refine .inr ⟨i.natAbs.repr.toList, ?_, .inl (digits_repr _)⟩
    rw [String.toList_append]
    rfl
  · exact .inl (.inl (digits_repr _))

namespace Decimal

theorem zeros_digits {n : Nat} {c : Char} (member : c ∈ (zeros n).toList) : c.isDigit = true := by
  have zero : c = '0' := by
    rw [zeros, String.toList_ofList] at member
    exact (List.mem_replicate.mp member).2
  rw [zero]
  decide

theorem positional_numeral (d : Decimal) : IsNumeral d.positional.toList := by
  have digits := digits_repr d.coefficient
  have size : (Nat.repr d.coefficient).length = (Nat.repr d.coefficient).toList.length :=
    String.length_toList.symm
  have padding : ∀ n, ∀ c ∈ (zeros n).toList, c.isDigit = true := fun n c => zeros_digits
  rw [positional]
  dsimp only
  split
  next =>
    rw [String.toList_append]
    exact .inl (digits_append (.inl digits.1) digits.2 (padding _))
  next fractional =>
    split
    next short =>
      rw [size] at short ⊢
      generalize (Nat.repr d.coefficient).toList = cs at *
      have point := digits.point (n := cs.length - (-d.power).toNat) (by omega) (by omega)
      simpa using point
    next =>
      have fraction := digits_append (.inr digits.1)
        (padding ((-d.power).toNat - (Nat.repr d.coefficient).length)) digits.2
      refine .inr ⟨['0'], _, ⟨by simp, by simp⟩, fraction, ?_⟩
      simp

end Decimal

theorem number_signed (negative : Bool) {text : String} (unsigned : IsNumeral text.toList) :
    IsNumber (Binary64.signText negative ++ text) := by
  cases negative with
  | false => exact .inl (by simpa [Binary64.signText] using unsigned)
  | true => exact .inr ⟨text.toList, by simp [Binary64.signText], unsigned⟩

theorem number_text {x : Binary64} (finite : x.isFinite = true) : IsNumber x.text := by
  cases x with
  | nan => cases finite
  | infinite negative => cases finite
  | finite negative mantissa exponent =>
      unfold Binary64.text
      split
      next => contradiction
      next => contradiction
      next =>
        exact number_signed _ (.inl ⟨by simp, by simp⟩)
      next => exact number_signed _ (Decimal.positional_numeral _)

inductive ScalarText : String → Prop where
  | null : ScalarText "NULL"
  | truth (b : Bool) : ScalarText (if b then "TRUE" else "FALSE")
  | number {text : String} (number : IsNumber text) : ScalarText text
  | quoted (s : String) : ScalarText (Literal.quote s)

-- The star stands for all rows in a count.
inductive LiteralText : String → Prop where
  | scalar {text : String} (scalar : ScalarText text) : LiteralText text
  | enumeration {texts : List String} (some : texts ≠ [])
      (scalars : ∀ text ∈ texts, ScalarText text) :
      LiteralText ("(" ++ String.intercalate "," texts ++ ")")
  | star : LiteralText "*"

namespace Literal

theorem number_scalar (declared : Option FieldType) {digits : String} (number : IsNumber digits) :
    ScalarText (Literal.number declared digits) := by
  rw [Literal.number]
  split
  · exact .quoted digits
  · exact .number number

theorem scalar_text {declared : Option FieldType} {value : Value} {text : String}
    (written : scalar declared value = .ok text) : ScalarText text := by
  cases value with
  | null =>
      cases written
      exact .null
  | bool b =>
      cases written
      exact .truth b
  | int i =>
      cases written
      exact number_scalar declared (number_int_text i)
  | float x =>
      by_cases finite : x.isFinite = true
      · rw [scalar, if_pos finite] at written
        cases written
        exact number_scalar declared (number_text finite)
      · rw [scalar, if_neg finite] at written
        cases written
  | text s =>
      cases written
      exact .quoted s
  | date d =>
      cases written
      unfold date
      split
      · exact .quoted _
      · exact .quoted _
      · exact .quoted _
  | moment t =>
      cases written
      exact .quoted t.text
  | list items => cases written

theorem scalars_texts {declared : Option FieldType} {items : List Value} {texts : List String}
    (written : scalars declared items = .ok texts) :
    texts.length = items.length ∧ ∀ text ∈ texts, ScalarText text := by
  induction items generalizing texts with
  | nil =>
      cases written
      simp
  | cons item rest ih =>
      obtain ⟨text, first, ok⟩ := bind_ok.mp written
      obtain ⟨others, later, ok⟩ := bind_ok.mp ok
      cases ok
      obtain ⟨length, scalars⟩ := ih later
      refine ⟨by simp [length], ?_⟩
      intro x member
      rcases List.mem_cons.mp member with rfl | member
      · exact scalar_text first
      · exact scalars x member

theorem enumeration_ok {declared : Option FieldType} {items : List Value} {text : String}
    (written : enumeration declared items = .ok text) :
    items ≠ [] ∧ ∃ texts, scalars (declared.map FieldType.element) items = .ok texts ∧
      text = "(" ++ String.intercalate "," texts ++ ")" := by
  cases items with
  | nil => cases written
  | cons item rest =>
      obtain ⟨texts, scalars, ok⟩ := bind_ok.mp written
      cases ok
      exact ⟨by simp, texts, scalars, rfl⟩

theorem enumeration_ok_single {declared : Option FieldType} {items : List Value} {text : String}
    (single : ∀ d, declared = some d → d.isList = false)
    (written : enumeration declared items = .ok text) :
    items ≠ [] ∧ ∃ texts, scalars declared items = .ok texts ∧
      text = "(" ++ String.intercalate "," texts ++ ")" := by
  have element : declared.map FieldType.element = declared := by
    cases declared with
    | none => rfl
    | some d =>
        have noList := single d rfl
        cases d with
        | list item => cases noList
        | _ => rfl
  obtain ⟨nonempty, texts, scalars, rfl⟩ := enumeration_ok written
  exact ⟨nonempty, texts, element ▸ scalars, rfl⟩

theorem enumeration_text {declared : Option FieldType} {items : List Value} {text : String}
    (written : enumeration declared items = .ok text) : LiteralText text := by
  obtain ⟨some, texts, scalars, rfl⟩ := enumeration_ok written
  obtain ⟨length, each⟩ := scalars_texts scalars
  refine .enumeration ?_ each
  rintro rfl
  exact some (List.eq_nil_of_length_eq_zero length.symm)

theorem of_value_text {declared : Option FieldType} {value : Value} {text : String}
    (written : ofValue declared value = .ok text) : LiteralText text := by
  unfold ofValue at written
  split at written
  next items => exact enumeration_text written
  next => exact .scalar (scalar_text written)

end Literal

end WikiQuery
