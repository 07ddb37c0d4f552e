import Mathlib.Data.List.Infix
import WikiQuery.Proofs.Derivation
import WikiQuery.Proofs.Sample
import WikiQuery.Proofs.Tokens

/- Patterns of `LIKE`. A text in which every wildcard is escaped matches itself and nothing else, so
   the pattern methods find a text as a prefix, as a suffix or anywhere, whatever characters it
   has. -/
set_option autoImplicit false

namespace WikiQuery

namespace SqlText

-- Matching with a backslash for the escape: `%` stands for any run of characters, `_` for any one
-- character, and a backslash makes the character behind it stand for itself.
def likes : List Char → List Char → Bool
  | [], subject => subject.isEmpty
  | '%' :: pattern, subject => subject.tails.any fun rest => likes pattern rest
  | '_' :: pattern, subject => !subject.isEmpty && likes pattern subject.tail
  | '\\' :: c :: pattern, subject => subject.head? == some c && likes pattern subject.tail
  | c :: pattern, subject => subject.head? == some c && likes pattern subject.tail

theorem likes_run (pattern subject : List Char) :
    likes ('%' :: pattern) subject = true ↔
      ∃ run rest, subject = run ++ rest ∧ likes pattern rest = true := by
  rw [likes, List.any_eq_true]
  constructor
  · rintro ⟨rest, member, matched⟩
    obtain ⟨run, same⟩ := (List.mem_tails _ _).mp member
    exact ⟨run, rest, same.symm, matched⟩
  · rintro ⟨run, rest, rfl, matched⟩
    exact ⟨rest, (List.mem_tails _ _).mpr (List.suffix_append _ _), matched⟩

theorem likes_any (subject : List Char) : likes ['%'] subject = true :=
  (likes_run [] subject).mpr ⟨subject, [], by simp, rfl⟩

theorem likes_escaped (c : Char) (pattern subject : List Char) :
    likes (Literal.escapePattern [c] ++ pattern) subject = true ↔
      ∃ rest, subject = c :: rest ∧ likes pattern rest = true := by
  have step : likes (Literal.escapePattern [c] ++ pattern) subject =
      (subject.head? == some c && likes pattern subject.tail) := by
    by_cases special : c = '\\' ∨ c = '%' ∨ c = '_'
    · have escaped : Literal.escapePattern [c] = ['\\', c] := by
        simp [Literal.escapePattern, special]
      rw [escaped, List.cons_append, List.cons_append, List.nil_append, likes]
    · have plain : Literal.escapePattern [c] = [c] := by simp [Literal.escapePattern, special]
      simp only [not_or] at special
      rw [plain, List.cons_append, List.nil_append, likes]
      · exact special.2.1
      · exact special.2.2
      · exact fun _ _ same => absurd same special.1
  rw [step]
  cases subject with
  | nil => simp
  | cons d rest => simp [and_assoc]

theorem likes_escape_pattern (text pattern subject : List Char) :
    likes (Literal.escapePattern text ++ pattern) subject = true ↔
      ∃ rest, subject = text ++ rest ∧ likes pattern rest = true := by
  induction text generalizing subject with
  | nil => simp [Literal.escapePattern]
  | cons c text ih =>
      have split : Literal.escapePattern (c :: text) ++ pattern =
          Literal.escapePattern [c] ++ (Literal.escapePattern text ++ pattern) := by
        simp [Literal.escapePattern]
      rw [split, likes_escaped]
      constructor
      · rintro ⟨tail, rfl, matched⟩
        obtain ⟨rest, rfl, ended⟩ := (ih tail).mp matched
        exact ⟨rest, rfl, ended⟩
      · rintro ⟨rest, rfl, matched⟩
        exact ⟨text ++ rest, rfl, (ih _).mpr ⟨rest, rfl, matched⟩⟩

end SqlText

open SqlText

namespace PatternMethod

def Finds : PatternMethod → List Char → List Char → Prop
  | .startsWith, text, subject => text <+: subject
  | .endsWith, text, subject => text <:+ subject
  | .contains, text, subject => text <:+: subject
  | .like, text, subject => likes text subject = true

theorem likes_pattern_text (p : PatternMethod) (text : String) (subject : List Char) :
    likes (Typed.patternText p text).toList subject = true ↔ p.Finds text.toList subject := by
  cases p with
  | like => rfl
  | startsWith =>
      have pattern : (Typed.patternText .startsWith text).toList =
          Literal.escapePattern text.toList ++ ['%'] := by
        simp [Typed.patternText, Literal.escapeLike]
      rw [pattern, likes_escape_pattern]
      constructor
      · rintro ⟨rest, rfl, _⟩
        exact List.prefix_append _ _
      · rintro ⟨rest, rfl⟩
        exact ⟨rest, rfl, likes_any rest⟩
  | endsWith =>
      have pattern : (Typed.patternText .endsWith text).toList =
          '%' :: (Literal.escapePattern text.toList ++ []) := by
        simp [Typed.patternText, Literal.escapeLike]
      rw [pattern, likes_run]
      constructor
      · rintro ⟨run, _, rfl, matched⟩
        obtain ⟨rest, rfl, ended⟩ := (likes_escape_pattern _ _ _).mp matched
        obtain rfl : rest = [] := List.isEmpty_iff.mp ended
        rw [List.append_nil]
        exact List.suffix_append _ _
      · rintro ⟨run, rfl⟩
        exact ⟨run, _, rfl, (likes_escape_pattern _ _ _).mpr ⟨[], by simp, rfl⟩⟩
  | contains =>
      have pattern : (Typed.patternText .contains text).toList =
          '%' :: (Literal.escapePattern text.toList ++ ['%']) := by
        simp [Typed.patternText, Literal.escapeLike]
      rw [pattern, likes_run]
      constructor
      · rintro ⟨run, _, rfl, matched⟩
        obtain ⟨rest, rfl, _⟩ := (likes_escape_pattern _ _ _).mp matched
        exact ⟨run, rest, by simp⟩
      · rintro ⟨run, rest, rfl⟩
        exact ⟨run, text.toList ++ rest, by simp,
          (likes_escape_pattern _ _ _).mpr ⟨rest, rfl, likes_any rest⟩⟩

end PatternMethod

/-- On a text operand, the literal that a pattern method writes is one quoted text, and as a pattern
that text matches a subject exactly when the method's text is a prefix of it, a suffix of it or a
part of it. -/
theorem pattern_methods_match_literally {c : Catalog} {clause : Clause} {receiver : Expr}
    {s s' : Scope} {subject : Typed}
    (lowered : (receiver.lower c clause).commit s = .ok (subject, s'))
    (isText : subject.hasType FieldType.isText = true) (p : PatternMethod) (text : String) :
    ∃ literal pattern,
      ((Expr.call receiver (.pattern p) [.constant (.text text)]).lower c clause).commit s =
          .ok (.truth (.binary subject.term .like (.literal literal)), s') ∧
        readToken literal.toList = some (.quoted pattern, []) ∧
        ∀ x : String, likes pattern.toList x.toList = true ↔ p.Finds text.toList x.toList := by
  have whole := Expr.lower_pattern (Steps.commit_ok.mp lowered) isText p text
  have formed : (Token.quoted (Typed.patternText p text)).Formed := trivial
  have read := read_token_text formed ends_nil
  rw [List.append_nil] at read
  exact ⟨_, _, Steps.commit_ok.mpr whole, read, fun x => p.likes_pattern_text text x.toList⟩

theorem hostile_text_matches_literally :
    ((Expr.field "title").lower Sample.catalog .condition).commit Sample.start.scope =
        .ok (.ofColumn ⟨"T1", "title", .string⟩, Sample.start.scope) ∧
      ∃ literal pattern,
        ((Expr.call (.field "title") (.pattern .contains) [.constant (.text "%_'\\")]).lower
            Sample.catalog .condition).commit Sample.start.scope =
          .ok (.truth (.binary (.column ⟨"T1", "title", .string⟩) .like (.literal literal)),
            Sample.start.scope) ∧
        readToken literal.toList = some (.quoted pattern, []) ∧
        ∀ x : String, likes pattern.toList x.toList = true ↔ "%_'\\".toList <:+: x.toList := by
  have lowered : ((Expr.field "title").lower Sample.catalog .condition).commit
      Sample.start.scope = .ok (.ofColumn ⟨"T1", "title", .string⟩, Sample.start.scope) := rfl
  exact ⟨lowered, pattern_methods_match_literally lowered rfl .contains "%_'\\"⟩

end WikiQuery
