import WikiQuery.Number.Reading
import WikiQuery.Proofs.Identifiers
import WikiQuery.Request

/- Query strings and their reading. A query string is cut at every `&`, and each piece at its first
   `=`; what stands behind that is percent code for the bytes of a text. The code of a value holds
   no `&`, and a name neither mark, so that every parameter is found again, whatever its value. -/
set_option autoImplicit false

namespace WikiQuery

namespace Text

def isUnreservedChar (c : Char) : Bool :=
  c.isAlphanum || c == '-' || c == '_' || c == '.' || c == '~'

-- `Coded bytes text`: the percent code of bytes. A byte that stands for an unreserved character is
-- written as that character, and every other one as a percent sign with two digits.
inductive Coded : List UInt8 → List Char → Prop where
  | nil : Coded [] []
  | plain {c : Char} {bytes : List UInt8} {text : List Char}
      (unreserved : isUnreservedChar c = true) (rest : Coded bytes text) :
      Coded (String.utf8EncodeChar c ++ bytes) (c :: text)
  | triple {high low : Char} {h l : Nat} {bytes : List UInt8} {text : List Char}
      (highDigit : hexDigit? high = some h) (lowDigit : hexDigit? low = some l)
      (reserved : isUnreservedChar (Char.ofNat (16 * h + l)) = false) (rest : Coded bytes text) :
      Coded (UInt8.ofNat (16 * h + l) :: bytes) ('%' :: high :: low :: text)

-- `Escaped set bytes text`: the text writes the bytes, each byte of the ASCII range outside the set
-- as it is and every other one as a percent sign with two digits.
inductive Escaped (set : AsciiSet) : List UInt8 → List Char → Prop where
  | nil : Escaped set [] []
  | kept {b : UInt8} {bytes : List UInt8} {text : List Char} (ascii : b < 128)
      (outside : set b = false) (rest : Escaped set bytes text) :
      Escaped set (b :: bytes) (Char.ofNat b.toNat :: text)
  | triple {b : UInt8} {high low : Char} {bytes : List UInt8} {text : List Char}
      (inside : ¬ b < 128 ∨ set b = true) (highDigit : hexDigit? high = some (b.toNat / 16))
      (lowDigit : hexDigit? low = some (b.toNat % 16)) (rest : Escaped set bytes text) :
      Escaped set (b :: bytes) ('%' :: high :: low :: text)

/-- What is known of a percent coder, whatever it does inside. -/
def PercentCoder.Escapes (code : PercentCoder) : Prop :=
  ∀ set s, Escaped set (utf8 s.toList) (code set s).toList

-- The bytes that a text stands for. A percent sign without two digits behind it stands for itself,
-- like every other character.
def decodedBytes : List Char → List UInt8
  | [] => []
  | '%' :: high :: low :: rest =>
      match hexDigit? high, hexDigit? low with
      | some h, some l => UInt8.ofNat (16 * h + l) :: decodedBytes rest
      | _, _ => String.utf8EncodeChar '%' ++ decodedBytes (high :: low :: rest)
  | c :: rest => String.utf8EncodeChar c ++ decodedBytes rest

def percentDecode? (s : String) : Option String :=
  String.fromUTF8? (decodedBytes s.toList).toByteArray

def cutAt? (mark : Char) (s : String) : Option (String × String) :=
  match s.toList.dropWhile (· ≠ mark) with
  | [] => none
  | _ :: rest => some (String.ofList (s.toList.takeWhile (· ≠ mark)), String.ofList rest)

theorem hex_digit_upper : ∀ n < 16, hexDigit? (upperHex n) = some n := by
  decide

theorem unreserved_eq : ∀ n < 256, isUnreservedChar (Char.ofNat n) =
    (decide (UInt8.ofNat n < 128) && !AsciiSet.queryValue (UInt8.ofNat n)) := by
  decide +kernel

theorem utf8_single : ∀ n < 128, String.utf8EncodeChar (Char.ofNat n) = [UInt8.ofNat n] := by
  decide +kernel

theorem Escaped.coded {bytes : List UInt8} {text : List Char}
    (escaped : Escaped AsciiSet.queryValue bytes text) : Coded bytes text := by
  induction escaped with
  | nil => exact .nil
  | @kept b _ _ ascii outside _ ih =>
      have unreserved : isUnreservedChar (Char.ofNat b.toNat) = true := by
        rw [unreserved_eq b.toNat b.toNat_lt_size, UInt8.ofNat_toNat, outside]
        simpa using ascii
      have single := utf8_single b.toNat (UInt8.lt_iff_toNat_lt.mp ascii)
      rw [UInt8.ofNat_toNat] at single
      have coded := Coded.plain unreserved ih
      rwa [single] at coded
  | @triple b _ _ _ _ inside highDigit lowDigit _ ih =>
      have sum : 16 * (b.toNat / 16) + b.toNat % 16 = b.toNat := Nat.div_add_mod _ _
      have reserved :
          isUnreservedChar (Char.ofNat (16 * (b.toNat / 16) + b.toNat % 16)) = false := by
        rw [sum, unreserved_eq b.toNat b.toNat_lt_size, UInt8.ofNat_toNat]
        rcases inside with high | inside
        · simp [high]
        · simp [inside]
      have coded := Coded.triple highDigit lowDigit reserved ih
      rwa [sum, UInt8.ofNat_toNat] at coded

theorem PercentCoder.Escapes.coded {code : PercentCoder} (escapes : code.Escapes) (s : String) :
    Coded (utf8 s.toList) (code AsciiSet.queryValue s).toList :=
  (escapes _ s).coded

theorem escaped_byte {set : AsciiSet} (b : UInt8) {bytes : List UInt8} {text : List Char}
    (rest : Escaped set bytes text) : Escaped set (b :: bytes) (percentByte set b ++ text) := by
  by_cases kept : (b < 128 && !set b) = true
  · rw [percentByte, if_pos kept]
    simp only [Bool.and_eq_true, decide_eq_true_eq, Bool.not_eq_true'] at kept
    exact .kept kept.1 kept.2 rest
  · rw [percentByte, if_neg kept]
    have inside : ¬ b < 128 ∨ set b = true := by
      simpa [Decidable.or_iff_not_imp_left] using kept
    have range : b.toNat < 256 := b.toNat_lt_size
    exact .triple inside (hex_digit_upper _ (by omega)) (hex_digit_upper _ (by omega)) rest

theorem percent_encode_escapes : PercentCoder.Escapes percentEncode := by
  intro set s
  rw [percentEncode, String.toList_ofList]
  induction utf8 s.toList with
  | nil => exact .nil
  | cons b rest ih =>
      rw [List.flatMap_cons]
      exact escaped_byte b ih

theorem Coded.decoded_bytes {bytes : List UInt8} {text : List Char} (coded : Coded bytes text) :
    decodedBytes text = bytes := by
  induction coded with
  | nil => rfl
  | @plain c _ _ unreserved _ ih =>
      have noPercent : c ≠ '%' := ne_of_class unreserved (by decide)
      rw [Text.decodedBytes, ih]
      exact fun _ _ _ same => absurd same noPercent
  | triple highDigit lowDigit _ _ ih =>
      rw [Text.decodedBytes, highDigit, lowDigit, ih]

theorem Coded.unmarked {bytes : List UInt8} {text : List Char} (coded : Coded bytes text) :
    '&' ∉ text := by
  induction coded with
  | nil => simp
  | plain unreserved _ ih =>
      have other := ne_of_class unreserved (show isUnreservedChar '&' = false by decide)
      simp [other.symm, ih]
  | @triple high low _ _ _ _ highDigit lowDigit _ _ ih =>
      have digit : ∀ {c : Char} {n : Nat}, hexDigit? c = some n → '&' ≠ c := by
        intro c n isDigit same
        rw [← same] at isDigit
        cases isDigit
      simp [digit highDigit, digit lowDigit, ih]

theorem PercentCoder.Escapes.decoded {code : PercentCoder} (escapes : code.Escapes) (s : String) :
    percentDecode? (code AsciiSet.queryValue s) = some s := by
  have bytes : (utf8 s.toList).toByteArray = s.toByteArray := String.utf8Encode_toList
  rw [percentDecode?, (escapes.coded s).decoded_bytes, bytes, String.fromUTF8?,
    dif_pos s.isValidUTF8]
  rfl

theorem cut_at?_append {mark : Char} {before : String} (apart : mark ∉ before.toList)
    (after : String) :
    cutAt? mark (before ++ String.singleton mark ++ after) = some (before, after) := by
  have others : ∀ c ∈ before.toList, decide (c ≠ mark) = true := by
    intro c member
    exact decide_eq_true fun same => apart (same ▸ member)
  rw [cutAt?, String.toList_append, String.toList_append, String.toList_singleton,
    List.append_assoc, List.dropWhile_append_of_pos others, List.takeWhile_append_of_pos others]
  simp

end Text

namespace Request

def cutQuery? (text : String) : Option (List (String × String)) :=
  if text = "" then some [] else (Text.split '&' text).mapM (Text.cutAt? '=')

def decodePart? (part : String × String) : Option (String × String) :=
  (Text.percentDecode? part.2).map fun value => (part.1, value)

def readQuery? (text : String) : Option (List (String × String)) :=
  (cutQuery? text).bind fun parts => parts.mapM decodePart?

theorem name_unmarked (p : Parameter) : '&' ∉ p.name.toList ∧ '=' ∉ p.name.toList := by
  cases p <;> decide

theorem map_m_each {α β γ : Type} {f : α → β} {g : β → Option γ} {h : α → γ}
    (each : ∀ x, g (f x) = some (h x)) (xs : List α) : (xs.map f).mapM g = some (xs.map h) := by
  have same : g ∘ f = fun x => pure (h x) := funext each
  rw [List.mapM_map, same]
  exact List.mapM_pure

variable {r : Request} {code : Text.PercentCoder}

theorem split_query_string (escapes : code.Escapes) (some : r.params ≠ []) :
    Text.split '&' (r.queryString code) =
      r.params.map fun p => p.1.name ++ "=" ++ code Text.AsciiSet.queryValue p.2 := by
  refine Text.split_intercalate (by simpa using some) ?_
  intro piece member
  obtain ⟨p, _, rfl⟩ := List.mem_map.mp member
  simp [(name_unmarked p.1).1, (escapes.coded p.2).unmarked]

theorem query_string_nonempty (escapes : code.Escapes) (some : r.params ≠ []) :
    r.queryString code ≠ "" := by
  intro empty
  have pieces := split_query_string escapes some
  rw [empty] at pieces
  obtain ⟨p, rest, isParams⟩ := List.exists_cons_of_ne_nil some
  have single : Text.split '&' "" = [""] := rfl
  simp [single, isParams] at pieces

theorem cut_query_string (escapes : code.Escapes) (r : Request) :
    cutQuery? (r.queryString code) =
      some (r.params.map fun p => (p.1.name, code Text.AsciiSet.queryValue p.2)) := by
  by_cases none : r.params = []
  · have empty : r.queryString code = "" := by
      rw [queryString, none]
      rfl
    rw [cutQuery?, if_pos empty, none]
    rfl
  · have cut : ∀ p : Parameter × String,
        Text.cutAt? '=' (p.1.name ++ "=" ++ code Text.AsciiSet.queryValue p.2) =
          some (p.1.name, code Text.AsciiSet.queryValue p.2) :=
      fun p => Text.cut_at?_append (name_unmarked p.1).2 _
    rw [cutQuery?, if_neg (query_string_nonempty escapes none), split_query_string escapes none]
    exact map_m_each cut r.params

theorem read_query_string (escapes : code.Escapes) (r : Request) :
    readQuery? (r.queryString code) = some (r.params.map fun p => (p.1.name, p.2)) := by
  have decoded : ∀ p : Parameter × String,
      decodePart? (p.1.name, code Text.AsciiSet.queryValue p.2) = some (p.1.name, p.2) := by
    intro p
    rw [decodePart?, escapes.decoded]
    rfl
  rw [readQuery?, cut_query_string escapes, Option.bind_some]
  exact map_m_each decoded r.params

end Request

/-- With a coder that escapes just the bytes outside the ASCII range and those of the set it is
given, the query string of a request, cut at every `&` and each piece at its first `=`, gives the
names of the parameters in order, each with the code of its value; decoded, these are the values.
Whatever characters a text has, its code consists of unreserved characters and of percent signs with
two digits. -/
theorem query_string_reads_as_parameters {code : Text.PercentCoder} (escapes : code.Escapes)
    (r : Request) :
    Request.cutQuery? (r.queryString code) =
        some (r.params.map fun p => (p.1.name, code Text.AsciiSet.queryValue p.2)) ∧
      Request.readQuery? (r.queryString code) = some (r.params.map fun p => (p.1.name, p.2)) ∧
      ∀ value : String,
        Text.Coded (Text.utf8 value.toList) (code Text.AsciiSet.queryValue value).toList :=
  ⟨Request.cut_query_string escapes r, Request.read_query_string escapes r, escapes.coded⟩

-- A value that holds both marks, a percent sign with digits behind it, and more than one byte for a
-- character.
theorem hostile_condition_reads_as_parameters :
    Text.PercentCoder.Escapes Text.percentEncode ∧
      Request.queryString ⟨[(.condition, "a&b=%41€"), (.limit, "5")]⟩ Text.percentEncode =
        "where=a%26b%3D%2541%E2%82%AC&limit=5" ∧
      Request.readQuery? "where=a%26b%3D%2541%E2%82%AC&limit=5" =
        some [("where", "a&b=%41€"), ("limit", "5")] := by
  have text : Request.queryString ⟨[(.condition, "a&b=%41€"), (.limit, "5")]⟩ Text.percentEncode =
      "where=a%26b%3D%2541%E2%82%AC&limit=5" := by decide +kernel
  have reads := (query_string_reads_as_parameters Text.percent_encode_escapes
    ⟨[(.condition, "a&b=%41€"), (.limit, "5")]⟩).2.1
  rw [text] at reads
  exact ⟨Text.percent_encode_escapes, text, reads⟩

end WikiQuery
