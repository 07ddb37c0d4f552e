/- Cutting text at a delimiter. No piece holds the delimiter, and the pieces joined by it are the
   text. -/
set_option autoImplicit false

namespace WikiQuery.Text

def pieces (delimiter : Char) : List Char → List (List Char)
  | [] => [[]]
  | c :: rest =>
      if c = delimiter then [] :: pieces delimiter rest
      else
        match pieces delimiter rest with
        | [] => [[c]]
        | piece :: others => (c :: piece) :: others

def split (delimiter : Char) (s : String) : List String :=
  (pieces delimiter s.toList).map String.ofList

theorem pieces_ne_nil (delimiter : Char) (cs : List Char) : pieces delimiter cs ≠ [] := by
  cases cs with
  | nil => simp [pieces]
  | cons c rest =>
      by_cases same : c = delimiter
      · simp [pieces, same]
      · cases tail : pieces delimiter rest <;> simp [pieces, same, tail]

theorem not_mem_pieces {delimiter : Char} {cs piece : List Char}
    (member : piece ∈ pieces delimiter cs) : delimiter ∉ piece := by
  induction cs generalizing piece with
  | nil =>
      rw [pieces, List.mem_singleton] at member
      simp [member]
  | cons c rest ih =>
      by_cases same : c = delimiter
      · rw [pieces, if_pos same] at member
        rcases List.mem_cons.mp member with rfl | member
        · simp
        · exact ih member
      · cases tail : pieces delimiter rest with
        | nil => exact absurd tail (pieces_ne_nil delimiter rest)
        | cons first others =>
            rw [tail] at ih
            simp only [pieces, if_neg same, tail] at member
            rcases List.mem_cons.mp member with rfl | member
            · simp [Ne.symm same, ih List.mem_cons_self]
            · exact ih (.tail _ member)

theorem pieces_eq_split_on (delimiter : Char) (cs : List Char) :
    pieces delimiter cs = cs.splitOn delimiter := by
  induction cs with
  | nil => simp [pieces]
  | cons c rest ih =>
      rw [List.splitOn_cons_eq_if_modifyHead, ← ih, pieces]
      by_cases same : c = delimiter
      · simp [same]
      · cases tail : pieces delimiter rest with
        | nil => exact absurd tail (pieces_ne_nil delimiter rest)
        | cons piece others => simp [same]

theorem not_mem_split {delimiter : Char} {s piece : String} (member : piece ∈ split delimiter s) :
    delimiter ∉ piece.toList := by
  obtain ⟨cs, inPieces, rfl⟩ := List.mem_map.mp member
  rw [String.toList_ofList]
  exact not_mem_pieces inPieces

theorem intercalate_split (delimiter : Char) (s : String) :
    String.intercalate (String.singleton delimiter) (split delimiter s) = s := by
  apply String.toList_injective
  rw [String.toList_intercalate, String.toList_singleton, split, List.map_map, pieces_eq_split_on]
  simp [Function.comp_def, List.intercalate_splitOn]

theorem split_intercalate {delimiter : Char} {pieces : List String} (some : pieces ≠ [])
    (each : ∀ piece ∈ pieces, delimiter ∉ piece.toList) :
    split delimiter (String.intercalate (String.singleton delimiter) pieces) = pieces := by
  have back : ([delimiter].intercalate (pieces.map String.toList)).splitOn delimiter =
      pieces.map String.toList :=
    List.splitOn_intercalate delimiter (by simpa using each) (by simpa using some)
  rw [split, pieces_eq_split_on, String.toList_intercalate, String.toList_singleton, back]
  simp

end WikiQuery.Text
