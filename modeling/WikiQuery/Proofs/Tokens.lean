import WikiQuery.Proofs.Identifiers

/- Literals read back from their text: `NULL`, truth values, numbers, quoted texts, and
   enumerations of these. A reader takes its part off the front of a text and gives the rest. -/
set_option autoImplicit false

namespace WikiQuery.SqlText

inductive Token where
  | null
  | truth (b : Bool)
  | number (text : String)
  | quoted (s : String)
deriving DecidableEq

namespace Token

def text : Token → String
  | .null => "NULL"
  | .truth b => if b then "TRUE" else "FALSE"
  | .number text => text
  | .quoted s => Literal.quote s

def Formed : Token → Prop
  | .number text => IsNumber text
  | _ => True

end Token

def unquote : List Char → Option (List Char × List Char)
  | '\'' :: '\'' :: rest => (unquote rest).map fun p => ('\'' :: p.1, p.2)
  | '\'' :: rest => some ([], rest)
  | '\\' :: '\\' :: rest => (unquote rest).map fun p => ('\\' :: p.1, p.2)
  | '\\' :: _ => none
  | c :: rest => (unquote rest).map fun p => (c :: p.1, p.2)
  | [] => none

def readNumeral (cs : List Char) : Option (List Char × List Char) :=
  let whole := cs.takeWhile Char.isDigit
  if whole = [] then none
  else
    match cs.dropWhile Char.isDigit with
    | '.' :: rest =>
        let fraction := rest.takeWhile Char.isDigit
        if fraction = [] then none
        else some (whole ++ '.' :: fraction, rest.dropWhile Char.isDigit)
    | rest => some (whole, rest)

def keyword? (word : List Char) : Option Token :=
  if word = "NULL".toList then some .null
  else if word = "TRUE".toList then some (.truth true)
  else if word = "FALSE".toList then some (.truth false)
  else none

def readToken : List Char → Option (Token × List Char)
  | [] => none
  | '\'' :: rest => (unquote rest).map fun p => (.quoted (String.ofList p.1), p.2)
  | '-' :: rest => (readNumeral rest).map fun p => (.number (String.ofList ('-' :: p.1)), p.2)
  | c :: rest =>
      if c.isDigit then (readNumeral (c :: rest)).map fun p => (.number (String.ofList p.1), p.2)
      else
        (keyword? ((c :: rest).takeWhile isWordChar)).map fun token =>
          (token, (c :: rest).dropWhile isWordChar)

def readItems : Nat → List Char → Option (List Token × List Char)
  | 0, _ => none
  | bound + 1, cs => do
      let (token, rest) ← readToken cs
      match rest with
      | ')' :: rest => some ([token], rest)
      | ',' :: rest => (readItems bound rest).map fun p => (token :: p.1, p.2)
      | _ => none

def readEnumeration : List Char → Option (List Token × List Char)
  | '(' :: rest => readItems rest.length rest
  | _ => none

def Ends (rest : List Char) : Prop := ∀ c, rest.head? = some c → c = ' ' ∨ c = ',' ∨ c = ')'

theorem ends_nil : Ends [] := by
  intro c head
  cases head

theorem ends_cons {c : Char} (known : c = ' ' ∨ c = ',' ∨ c = ')') (rest : List Char) :
    Ends (c :: rest) := by
  intro d head
  cases head
  exact known

theorem Ends.rejected {rest : List Char} (ends : Ends rest) {p : Char → Bool}
    (space : p ' ' = false) (comma : p ',' = false) (close : p ')' = false) :
    ∀ c, rest.head? = some c → p c = false := by
  intro c head
  rcases ends c head with rfl | rfl | rfl
  · exact space
  · exact comma
  · exact close

theorem take_while_stop {p : Char → Bool} {cs rest : List Char} (all : ∀ c ∈ cs, p c = true)
    (stop : ∀ c, rest.head? = some c → p c = false) : (cs ++ rest).takeWhile p = cs := by
  rw [List.takeWhile_append_of_pos all]
  cases rest with
  | nil => simp
  | cons c rest => simp [stop c rfl]

theorem drop_while_stop {p : Char → Bool} {cs rest : List Char} (all : ∀ c ∈ cs, p c = true)
    (stop : ∀ c, rest.head? = some c → p c = false) : (cs ++ rest).dropWhile p = rest := by
  rw [List.dropWhile_append_of_pos all]
  cases rest with
  | nil => rfl
  | cons c rest => simp [stop c rfl]

theorem unquote_cons {c : Char} (noQuote : c ≠ '\'') (noSlash : c ≠ '\\') (rest : List Char) :
    unquote (c :: rest) = (unquote rest).map fun p => (c :: p.1, p.2) := by
  rw [unquote]
  · exact fun _ same => absurd same noQuote
  · exact fun same => absurd same noQuote
  · exact fun _ same => absurd same noSlash
  · exact fun same => absurd same noSlash

theorem unquote_double (cs : List Char) {rest : List Char} (stop : rest.head? ≠ some '\'') :
    unquote (Literal.double cs ++ '\'' :: rest) = some (cs, rest) := by
  induction cs with
  | nil =>
      change unquote ('\'' :: rest) = _
      rw [unquote]
      intro tail same
      rw [same] at stop
      exact stop rfl
  | cons c cs ih =>
      by_cases quote : c = '\''
      · subst quote
        change (unquote (Literal.double cs ++ '\'' :: rest)).map _ = _
        rw [ih]
        rfl
      · by_cases slash : c = '\\'
        · subst slash
          change (unquote (Literal.double cs ++ '\'' :: rest)).map _ = _
          rw [ih]
          rfl
        · have single : Literal.double (c :: cs) = c :: Literal.double cs := by
            simp [Literal.double, quote, slash]
          rw [single, List.cons_append, unquote_cons quote slash, ih]
          rfl

theorem read_numeral_append {cs rest : List Char} (numeral : IsNumeral cs) (ends : Ends rest) :
    readNumeral (cs ++ rest) = some (cs, rest) := by
  have noDigit := ends.rejected (p := Char.isDigit) (by decide) (by decide) (by decide)
  rcases numeral with digits | ⟨whole, fraction, wholeDigits, fractionDigits, rfl⟩
  · rw [readNumeral]
    dsimp only
    rw [take_while_stop digits.2 noDigit, drop_while_stop digits.2 noDigit, if_neg digits.1]
    split
    next tail => exact absurd (ends '.' rfl) (by decide)
    next => rfl
  · have point : ∀ c, ('.' :: (fraction ++ rest)).head? = some c → c.isDigit = false := by
      intro c head
      cases head
      decide
    rw [readNumeral]
    dsimp only
    rw [List.append_assoc, List.cons_append, take_while_stop wholeDigits.2 point,
      drop_while_stop wholeDigits.2 point, if_neg wholeDigits.1]
    simp only [take_while_stop fractionDigits.2 noDigit, drop_while_stop fractionDigits.2 noDigit,
      if_neg fractionDigits.1]

theorem numeral_cons {cs : List Char} (numeral : IsNumeral cs) :
    ∃ c rest, cs = c :: rest ∧ c.isDigit = true := by
  have first : ∀ {ds : List Char}, IsDigits ds → ∃ c rest, ds = c :: rest ∧ c.isDigit = true := by
    intro ds digits
    cases ds with
    | nil => exact absurd rfl digits.1
    | cons c rest => exact ⟨c, rest, rfl, digits.2 c List.mem_cons_self⟩
  rcases numeral with digits | ⟨whole, fraction, wholeDigits, _, rfl⟩
  · exact first digits
  · obtain ⟨c, rest, rfl, digit⟩ := first wholeDigits
    exact ⟨c, rest ++ '.' :: fraction, rfl, digit⟩

theorem read_token_numeral {cs rest : List Char} (numeral : IsNumeral cs) (ends : Ends rest) :
    readToken (cs ++ rest) = some (.number (String.ofList cs), rest) := by
  have read := read_numeral_append numeral ends
  obtain ⟨c, digits, rfl, digit⟩ := numeral_cons numeral
  have noQuote : c ≠ '\'' := ne_of_class digit rfl
  have noMinus : c ≠ '-' := ne_of_class digit rfl
  rw [List.cons_append] at read ⊢
  rw [readToken, if_pos digit, read]
  · rfl
  · exact noQuote
  · exact noMinus

-- A word is read by its letters; the first one tells it from numbers and quoted texts.
theorem read_token_word {c : Char} {tail rest : List Char} {token : Token}
    (noDigit : ¬ c.isDigit = true) (words : ∀ d ∈ c :: tail, isWordChar d = true)
    (known : keyword? (c :: tail) = some token) (ends : Ends rest) :
    readToken (c :: tail ++ rest) = some (token, rest) := by
  have noWord := ends.rejected (p := isWordChar) (by decide) (by decide) (by decide)
  have first := words c List.mem_cons_self
  have noQuote : c ≠ '\'' := ne_of_class first rfl
  have noMinus : c ≠ '-' := ne_of_class first rfl
  rw [List.cons_append, readToken, if_neg noDigit, ← List.cons_append, take_while_stop words noWord,
    drop_while_stop words noWord, known]
  · rfl
  · exact noQuote
  · exact noMinus

theorem read_token_text {token : Token} (formed : token.Formed) {rest : List Char}
    (ends : Ends rest) : readToken (token.text.toList ++ rest) = some (token, rest) := by
  cases token with
  | null => exact read_token_word (by decide) (identifier_words (s := "NULL") rfl) rfl ends
  | truth b =>
      cases b with
      | false => exact read_token_word (by decide) (identifier_words (s := "FALSE") rfl) rfl ends
      | true => exact read_token_word (by decide) (identifier_words (s := "TRUE") rfl) rfl ends
  | number text =>
      rcases formed with numeral | ⟨cs, isText, numeral⟩
      · have read := read_token_numeral numeral ends
        rwa [String.ofList_toList] at read
      · rw [Token.text, isText, List.cons_append, readToken, read_numeral_append numeral ends,
          Option.map_some, ← isText, String.ofList_toList]
  | quoted s =>
      have text : (Literal.quote s).toList ++ rest =
          '\'' :: (Literal.double s.toList ++ '\'' :: rest) := by
        simp [Literal.quote]
      have stop : rest.head? ≠ some '\'' := by
        intro head
        exact absurd (ends _ head) (by decide)
      rw [Token.text, text, readToken, unquote_double s.toList stop, Option.map_some,
        String.ofList_toList]

theorem read_items_append {tokens : List Token} (some : tokens ≠ [])
    (formed : ∀ token ∈ tokens, token.Formed) (rest : List Char) {bound : Nat}
    (enough : tokens.length ≤ bound) :
    readItems bound ([','].intercalate (tokens.map fun token => token.text.toList) ++
      ')' :: rest) = .some (tokens, rest) := by
  induction tokens generalizing bound with
  | nil => exact absurd rfl some
  | cons token tokens ih =>
      cases bound with
      | zero => simp at enough
      | succ bound =>
          have first := formed token List.mem_cons_self
          cases tokens with
          | nil =>
              have read := read_token_text first (ends_cons (c := ')') (by decide) rest)
              simp [readItems, read]
          | cons next tokens =>
              have later := ih (by simp) (fun t member => formed t (List.mem_cons_of_mem _ member))
                (Nat.le_of_succ_le_succ enough)
              rw [List.map_cons] at later
              rw [List.map_cons, List.map_cons, List.intercalate_cons_cons, List.append_assoc,
                List.append_assoc, List.singleton_append]
              have read : ∀ tail, readToken (token.text.toList ++ ',' :: tail) =
                  .some (token, ',' :: tail) :=
                fun tail => read_token_text first (ends_cons (by decide) tail)
              rw [readItems, read]
              change (readItems bound _).map _ = _
              rw [later]
              rfl

theorem length_le_intercalate {between : List Char} (some : between ≠ [])
    (pieces : List (List Char)) : pieces.length ≤ (between.intercalate pieces).length + 1 := by
  have size : 0 < between.length := List.length_pos_iff.mpr some
  induction pieces with
  | nil => simp
  | cons piece pieces ih =>
      cases pieces with
      | nil => simp
      | cons next pieces =>
          rw [List.intercalate_cons_cons]
          simp only [List.length_cons, List.length_append] at ih ⊢
          omega

theorem length_le_of_mem_intercalate {between piece : List Char} {pieces : List (List Char)}
    (member : piece ∈ pieces) : piece.length ≤ (between.intercalate pieces).length := by
  induction pieces with
  | nil => cases member
  | cons first pieces ih =>
      cases pieces with
      | nil => simp [List.mem_singleton.mp member]
      | cons next pieces =>
          rw [List.intercalate_cons_cons, List.length_append, List.length_append]
          rcases List.mem_cons.mp member with rfl | member
          · omega
          · have later := ih member
            omega

theorem enumeration_append (tokens : List Token) (rest : List Char) :
    ("(" ++ String.intercalate "," (tokens.map Token.text) ++ ")").toList ++ rest =
      '(' :: ([','].intercalate (tokens.map fun token => token.text.toList) ++ ')' :: rest) := by
  simp [String.toList_intercalate, Function.comp_def]

theorem read_enumeration_append {tokens : List Token} (some : tokens ≠ [])
    (formed : ∀ token ∈ tokens, token.Formed) (rest : List Char) :
    readEnumeration
      (("(" ++ String.intercalate "," (tokens.map Token.text) ++ ")").toList ++ rest) =
        .some (tokens, rest) := by
  have enough :=
    length_le_intercalate (by simp : [','] ≠ []) (tokens.map fun token => token.text.toList)
  rw [enumeration_append, readEnumeration]
  refine read_items_append some formed rest ?_
  simp only [List.length_map, List.length_append, List.length_cons] at enough ⊢
  omega

theorem read_enumeration_whole {tokens : List Token} (some : tokens ≠ [])
    (formed : ∀ token ∈ tokens, token.Formed) :
    readEnumeration ("(" ++ String.intercalate "," (tokens.map Token.text) ++ ")").toList =
      .some (tokens, []) := by
  have read := read_enumeration_append some formed []
  rwa [List.append_nil] at read

theorem Token.Formed.is_scalar_text {token : Token} (formed : token.Formed) :
    ScalarText token.text := by
  cases token with
  | null => exact .null
  | truth b => exact .truth b
  | number text => exact .number formed
  | quoted s => exact .quoted s

theorem token_of_scalar_text {text : String} (scalar : ScalarText text) :
    ∃ token : Token, token.Formed ∧ token.text = text := by
  cases scalar with
  | null => exact ⟨.null, trivial, rfl⟩
  | truth b => exact ⟨.truth b, trivial, rfl⟩
  | number number => exact ⟨.number text, number, rfl⟩
  | quoted s => exact ⟨.quoted s, trivial, rfl⟩

theorem tokens_of_scalar_texts {texts : List String} (scalars : ∀ text ∈ texts, ScalarText text) :
    ∃ tokens : List Token, (∀ token ∈ tokens, token.Formed) ∧ tokens.map Token.text = texts := by
  induction texts with
  | nil => exact ⟨[], by simp, rfl⟩
  | cons text texts ih =>
      obtain ⟨token, formed, isText⟩ := token_of_scalar_text (scalars text List.mem_cons_self)
      obtain ⟨tokens, allFormed, isTexts⟩ :=
        ih fun other member => scalars other (List.mem_cons_of_mem text member)
      refine ⟨token :: tokens, ?_, by rw [List.map_cons, isText, isTexts]⟩
      intro other member
      rcases List.mem_cons.mp member with rfl | member
      · exact formed
      · exact allFormed other member

end WikiQuery.SqlText
