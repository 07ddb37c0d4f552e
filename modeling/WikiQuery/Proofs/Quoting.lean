import Mathlib.Logic.Function.Defs
import WikiQuery.Proofs.Tokens

/- Quoted texts under the scanner of string literals. Unlike `unquote`, which reads only what
   `quote` writes, the scanner takes every escape there is; on a quoted text it still gives the
   text back and stops at its last quote. -/
set_option autoImplicit false

namespace WikiQuery

namespace SqlText

-- What a backslash makes of the character behind it. It stays in front of a wildcard of `LIKE`.
def escaped : Char → List Char
  | '0' => ['\x00']
  | 'b' => ['\x08']
  | 'n' => ['\n']
  | 'r' => ['\r']
  | 't' => ['\t']
  | 'Z' => ['\x1a']
  | '%' => ['\\', '%']
  | '_' => ['\\', '_']
  | c => [c]

def scanInside : List Char → Option (List Char × List Char)
  | [] => none
  | '\\' :: c :: rest => (scanInside rest).map fun p => (escaped c ++ p.1, p.2)
  | '\\' :: [] => none
  | '\'' :: '\'' :: rest => (scanInside rest).map fun p => ('\'' :: p.1, p.2)
  | '\'' :: rest => some ([], rest)
  | c :: rest => (scanInside rest).map fun p => (c :: p.1, p.2)

def scanString : List Char → Option (String × List Char)
  | '\'' :: rest => (scanInside rest).map fun p => (String.ofList p.1, p.2)
  | _ => none

theorem scan_inside_of_unquote {cs : List Char} {p : List Char × List Char}
    (read : unquote cs = some p) : scanInside cs = some p := by
  fun_induction unquote cs generalizing p with
  | case1 rest ih =>
      obtain ⟨q, inner, rfl⟩ := Option.map_eq_some_iff.mp read
      rw [scanInside, ih inner]
      rfl
  | case2 rest single =>
      cases read
      rw [scanInside]
      exact single
  | case3 rest ih =>
      obtain ⟨q, inner, rfl⟩ := Option.map_eq_some_iff.mp read
      rw [scanInside, ih inner]
      rfl
  | case4 => cases read
  | case5 c rest noPair noQuote noSlashes noSlash ih =>
      obtain ⟨q, inner, rfl⟩ := Option.map_eq_some_iff.mp read
      rw [scanInside, ih inner]
      · rfl
      · exact fun _ _ same => absurd same noSlash
      · exact fun same => absurd same noSlash
      · exact noPair
      · exact noQuote
  | case6 => cases read

theorem scan_string_quote (s : String) {rest : List Char} (stop : rest.head? ≠ some '\'') :
    scanString ((Literal.quote s).toList ++ rest) = some (s, rest) := by
  have text : (Literal.quote s).toList ++ rest =
      '\'' :: (Literal.double s.toList ++ '\'' :: rest) := by
    simp [Literal.quote]
  rw [text, scanString, scan_inside_of_unquote (unquote_double s.toList stop)]
  exact congrArg (fun t => some (t, rest)) String.ofList_toList

def replaceAll (c : Char) (text cs : List Char) : List Char :=
  cs.flatMap fun d => if d = c then text else [d]

-- The second pass over a text leaves the doubled backslashes of the first alone.
theorem double_eq_replace_all (cs : List Char) :
    Literal.double cs =
      replaceAll '\'' ['\'', '\''] (replaceAll '\\' ['\\', '\\'] cs) := by
  rw [Literal.double, replaceAll, replaceAll, List.flatMap_assoc]
  congr 1
  funext c
  by_cases slash : c = '\\'
  · simp [slash]
  · by_cases quote : c = '\''
    · simp [quote]
    · simp [slash, quote]

end SqlText

open SqlText

/-- Quoting doubles the backslashes of a text, then its quotes, and stands between two quotes. What
the scanner of string literals reads of it is the text, whatever comes behind it but a quote; so
different texts have different quotations, and a quotation and what follows can be told apart in
one way only. -/
theorem quoted_text_scans_exactly :
    (∀ s : String, (Literal.quote s).toList =
      '\'' :: replaceAll '\'' ['\'', '\''] (replaceAll '\\' ['\\', '\\'] s.toList) ++ ['\'']) ∧
    (∀ (s : String) (rest : List Char), rest.head? ≠ some '\'' →
      scanString ((Literal.quote s).toList ++ rest) = some (s, rest)) ∧
    Function.Injective Literal.quote ∧
    ∀ (s s' : String) (rest rest' : List Char), rest.head? ≠ some '\'' → rest'.head? ≠ some '\'' →
      (Literal.quote s).toList ++ rest = (Literal.quote s').toList ++ rest' →
        s = s' ∧ rest = rest' := by
  have apart : ∀ (s s' : String) (rest rest' : List Char), rest.head? ≠ some '\'' →
      rest'.head? ≠ some '\'' →
      (Literal.quote s).toList ++ rest = (Literal.quote s').toList ++ rest' →
      s = s' ∧ rest = rest' := by
    intro s s' rest rest' stop stop' same
    have scans := scan_string_quote s stop
    rw [same, scan_string_quote s' stop', Option.some.injEq, Prod.mk.injEq] at scans
    exact ⟨scans.1.symm, scans.2.symm⟩
  refine ⟨?_, fun s rest stop => scan_string_quote s stop, ?_, apart⟩
  · intro s
    rw [← double_eq_replace_all]
    simp [Literal.quote]
  · intro s s' same
    exact (apart s s' [] [] (by simp) (by simp) (by rw [same])).1

theorem hostile_text_scans_exactly :
    (" OR 1=1".toList.head? ≠ some '\'' ∧
      scanString ((Literal.quote "\\\\'").toList ++ " OR 1=1".toList) =
        some ("\\\\'", " OR 1=1".toList)) ∧
    ∀ s : String, ∀ rest : List Char, rest.head? ≠ some '\'' →
      (Literal.quote "\\\\'").toList ++ " OR 1=1".toList = (Literal.quote s).toList ++ rest →
      "\\\\'" = s ∧ " OR 1=1".toList = rest := by
  obtain ⟨_, scans, _, apart⟩ := quoted_text_scans_exactly
  have stop : " OR 1=1".toList.head? ≠ some '\'' := by decide
  exact ⟨⟨stop, scans _ _ stop⟩, fun s rest => apart _ s _ rest stop⟩

end WikiQuery
