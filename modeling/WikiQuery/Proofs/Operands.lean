import WikiQuery.Proofs.Compounds

/- Reading atoms, signs and literals back, given that the expressions inside them read back. -/
set_option autoImplicit false

namespace WikiQuery.Sql.Term

open SqlText

section Operands

variable {read : Reader}

structure ReadsAtom (read : Reader) (t : Term) : Prop where
  simple : t.isComposite = false
  bare : ∃ c tail, t.render.toList = c :: tail ∧ c ≠ '-' ∧ c ≠ '('
  reads : ∀ rest, Ends rest → atom read (t.render.toList ++ rest) = some (t.reading, rest)

theorem reads_atom {t : Term} (isAtom : ReadsAtom read t) : Reads (operandWith read) t := by
  intro rest ends
  have reads := isAtom.reads rest ends
  obtain ⟨c, tail, text, noMinus, noOpen⟩ := isAtom.bare
  rw [operand_text_simple isAtom.simple]
  rw [text, List.cons_append] at reads ⊢
  rw [operandWith, reads]
  · exact fun _ same => absurd (List.cons.inj same).1 noMinus
  · exact fun _ same => absurd (List.cons.inj same).1 noMinus
  · exact fun _ same => absurd (List.cons.inj same).1 noOpen

theorem reads_neg_atom {t : Term} (isAtom : ReadsAtom read t) (unsigned : t.isSigned = false) :
    Reads (operandWith read) (.unary .neg t) := by
  intro rest ends
  have reads := isAtom.reads rest ends
  obtain ⟨c, tail, text, noMinus, noOpen⟩ := isAtom.bare
  rw [operand_text_simple rfl, render_neg, unsigned, if_neg (by simp),
    operand_text_simple isAtom.simple, String.toList_append, text]
  rw [text, List.cons_append] at reads
  change operandWith read ('-' :: c :: (tail ++ rest)) = _
  rw [operandWith, reads]
  · rfl
  · exact fun _ same => absurd (List.cons.inj same).1 noOpen

theorem identifier_bare {s : String} (plain : isIdentifier s = true) (rest : List Char) :
    ∃ c tail, s.toList ++ rest = c :: tail ∧ c ≠ '-' ∧ c ≠ '(' := by
  obtain ⟨c, tail, text, _, _⟩ := identifier_cons plain
  have word : isWordChar c = true := identifier_words plain c (by simp [text])
  have noMinus : c ≠ '-' := ne_of_class word rfl
  have noOpen : c ≠ '(' := ne_of_class word rfl
  exact ⟨c, tail ++ rest, by rw [text, List.cons_append], noMinus, noOpen⟩

theorem atom_word {s : String} (plain : isIdentifier s = true) {c : Char}
    (noWord : isWordChar c = false) (rest : List Char) :
    atom read (s.toList ++ c :: rest) =
      match c :: rest with
      | '.' :: rest =>
          some (.column ⟨s, String.ofList (rest.takeWhile isWordChar), .string⟩,
            rest.dropWhile isWordChar)
      | '(' :: rest => call read s rest
      | _ => readLiteral (s.toList ++ c :: rest) := by
  have words := identifier_words plain
  have stop : ∀ d, (c :: rest).head? = some d → isWordChar d = false := by simpa using noWord
  simp only [atom, take_while_stop words stop, drop_while_stop words stop, String.ofList_toList,
    plain]
  split <;> simp_all

theorem reads_atom_column {c : Column} (words : WordColumn c) : ReadsAtom read (.column c) where
  simple := rfl
  bare := by
    obtain ⟨d, tail, text, bare⟩ := identifier_bare words.1 ('.' :: c.field.toList)
    refine ⟨d, tail, ?_, bare⟩
    rw [← text]
    simp [render_column, Column.text]
  reads := by
    intro rest ends
    have text : (render (.column c)).toList ++ rest =
        c.label.toList ++ '.' :: (c.field.toList ++ rest) := by
      simp [render_column, Column.text]
    have noWord := ends.rejected (p := isWordChar) (by decide) (by decide) (by decide)
    have field := identifier_words words.2
    rw [text, atom_word words.1 (by decide)]
    change some (column ⟨_, String.ofList (List.takeWhile isWordChar _), _⟩, _) = _
    rw [take_while_stop field noWord, drop_while_stop field noWord, String.ofList_toList]
    rfl

theorem reads_atom_function {name : String} (distinct : Bool) {arg : Term}
    (plain : isIdentifier name = true) (formed : Formed WordColumn arg)
    (whole : ReadsWhole read arg) : ReadsAtom read (.function name distinct [arg]) where
  simple := rfl
  bare := by
    obtain ⟨d, tail, text, bare⟩ := identifier_bare plain
      ('(' :: ((if distinct then "DISTINCT " else "").toList ++ arg.render.toList ++ [')']))
    refine ⟨d, tail, ?_, bare⟩
    rw [← text]
    simp [render_function]
  reads := by
    intro rest ends
    have text : (render (.function name distinct [arg])).toList ++ rest =
        name.toList ++ '(' :: ((if distinct then "DISTINCT " else "").toList ++
          (arg.render.toList ++ ')' :: rest)) := by
      simp [render_function]
    rw [text, atom_word plain (by decide)]
    cases distinct with
    | true =>
        change call read name ("DISTINCT ".toList ++ (arg.render.toList ++ ')' :: rest)) = _
        rw [call, strip_append]
        change (closed _).map _ = _
        rw [closed_whole whole]
        rfl
    | false =>
        change call read name (arg.render.toList ++ ')' :: rest) = _
        rw [call, render_opens formed]
        change (closed _).map _ = _
        rw [closed_whole whole]
        rfl

theorem atom_end {s : String} (plain : isIdentifier s = true) {rest : List Char}
    (ends : Ends rest) : atom read (s.toList ++ rest) = readLiteral (s.toList ++ rest) := by
  cases rest with
  | nil =>
      have words := identifier_words plain
      have stop : ∀ d, ([] : List Char).head? = some d → isWordChar d = false := by simp
      simp only [atom, drop_while_stop words stop]
  | cons c rest =>
      rcases ends c rfl with rfl | rfl | rfl
      · exact atom_word plain (by decide) rest
      · exact atom_word plain (by decide) rest
      · exact atom_word plain (by decide) rest

theorem atom_other {cs : List Char}
    (noWord : isIdentifier (String.ofList (cs.takeWhile isWordChar)) = false) :
    atom read cs = readLiteral cs := by
  unfold atom
  dsimp only
  rw [noWord]
  split
  · contradiction
  · contradiction
  · rfl

theorem read_literal_token {token : Token} (formed : token.Formed) {rest : List Char}
    (ends : Ends rest) :
    readLiteral (token.text.toList ++ rest) = some (.literal token.text, rest) := by
  have read := read_token_text formed ends
  have star : ∀ tail, token.text.toList ++ rest ≠ '*' :: tail := by
    intro tail same
    have none : readToken ('*' :: tail) = none := rfl
    rw [same, none] at read
    cases read
  rw [readLiteral, read]
  · rfl
  · exact star

theorem reads_atom_keyword {token : Token} (formed : token.Formed)
    (plain : isIdentifier token.text = true) : ReadsAtom read (.literal token.text) where
  simple := rfl
  bare := by
    obtain ⟨c, tail, text, bare⟩ := identifier_bare plain []
    rw [List.append_nil] at text
    exact ⟨c, tail, text, bare⟩
  reads := by
    intro rest ends
    rw [render_literal, atom_end plain ends]
    exact read_literal_token formed ends

theorem reads_atom_other {token : Token} (formed : token.Formed) {c : Char} {tail : List Char}
    (text : token.text.toList = c :: tail) (noLetter : (c.isAlpha || c == '_') = false)
    (noMinus : c ≠ '-') (noOpen : c ≠ '(') : ReadsAtom read (.literal token.text) where
  simple := rfl
  bare := ⟨c, tail, text, noMinus, noOpen⟩
  reads := by
    intro rest ends
    have noWord : isIdentifier (String.ofList ((token.text.toList ++ rest).takeWhile isWordChar)) =
        false := by
      rw [text, List.cons_append, List.takeWhile_cons]
      split
      · simp [isIdentifier, noLetter]
      · rfl
    rw [render_literal, atom_other noWord]
    exact read_literal_token formed ends

theorem reads_atom_numeral {text : String} (numeral : IsNumeral text.toList) :
    ReadsAtom read (.literal text) := by
  obtain ⟨c, tail, isText, digit⟩ := numeral_cons numeral
  have formed : (Token.number text).Formed := .inl numeral
  have noMinus : c ≠ '-' := ne_of_class digit rfl
  have noOpen : c ≠ '(' := ne_of_class digit rfl
  exact reads_atom_other formed isText (not_letter_of_is_digit digit) noMinus noOpen

theorem reads_atom_star : ReadsAtom read (.literal "*") where
  simple := rfl
  bare := ⟨'*', [], rfl, by decide, by decide⟩
  reads := fun _ _ => rfl

theorem reads_atom_quoted (s : String) : ReadsAtom read (.literal (Literal.quote s)) := by
  have text : (Token.quoted s).text.toList = '\'' :: (Literal.double s.toList ++ ['\'']) := by
    simp [Token.text, Literal.quote]
  have formed : (Token.quoted s).Formed := trivial
  exact reads_atom_other formed text (by decide) (by decide) (by decide)

theorem negated_signed {t : Term} (signed : t.isSigned = true) :
    negated t.reading = .unary .neg t.reading := by
  have literal : ∀ {text : String}, text.toList.head? = some '-' →
      negated (.literal text) = .unary .neg (.literal text) := by
    intro text head
    have noDigit : ¬ text.toList.head?.any Char.isDigit = true := by simp [head]
    rw [negated, if_neg noDigit]
  cases t with
  | literal text => exact literal (by simpa [isSigned] using signed)
  | unary op t =>
      cases op with
      | neg =>
          change negated (negated t.reading) = .unary .neg (negated t.reading)
          generalize t.reading = u
          cases u with
          | literal text =>
              by_cases digit : text.toList.head?.any Char.isDigit = true
              · rw [negated, if_pos digit]
                exact literal (by simp)
              · rw [negated, if_neg digit]
                rfl
          | _ => rfl
      | _ => cases signed
  | _ => cases signed

theorem negated_composite {t : Term} (composite : t.isComposite = true) :
    negated t.reading = .unary .neg t.reading := by
  have same := is_composite_reading t
  rw [composite] at same
  cases read : t.reading with
  | literal text =>
      rw [read] at same
      cases same
  | _ => rfl

theorem reads_neg_whole {t : Term} (whole : ReadsWhole read t)
    (wrapped : t.isSigned = true ∨ t.isComposite = true) :
    Reads (operandWith read) (.unary .neg t) := by
  intro rest _
  have text : (operandText (.unary .neg t)).toList ++ rest =
      '-' :: '(' :: (t.render.toList ++ ')' :: rest) := by
    rw [operand_text_simple rfl, render_neg]
    by_cases signed : t.isSigned = true
    · simp [signed, parenthesize]
    · have composite := wrapped.resolve_left signed
      simp [signed, operandText, composite, parenthesize]
  have value : reading (.unary .neg t) = .unary .neg t.reading :=
    wrapped.elim negated_signed negated_composite
  rw [text, operandWith, closed_whole whole, value]
  rfl

theorem reads_negative {cs : List Char} {text : String} (isText : text.toList = '-' :: cs)
    (numeral : IsNumeral cs) : Reads (operandWith read) (.literal text) := by
  obtain ⟨c, tail, rfl, digit⟩ := numeral_cons numeral
  have isAtom : ReadsAtom read (.literal (String.ofList (c :: tail))) :=
    reads_atom_numeral (by simpa using numeral)
  have value : negated (.literal (String.ofList (c :: tail))) = .literal text := by
    have same : "-" ++ String.ofList (c :: tail) = text := by
      rw [← String.toList_inj, isText]
      simp
    rw [negated, if_pos (by simp [digit]), same]
  intro rest ends
  have reads := isAtom.reads rest ends
  rw [render_literal, String.toList_ofList, List.cons_append] at reads
  rw [operand_text_simple rfl, render_literal, isText, List.cons_append, List.cons_append,
    operandWith, reads]
  · exact congrArg (fun t => some (t, rest)) value
  · rintro _ same
    have isOpen : c = '(' := (List.cons.inj same).1
    exact absurd isOpen (ne_of_class digit rfl)

-- An enumeration is tried as a compound first. Its first item is no compound, if it is read at all.
theorem expression_item {token : Token} (formed : token.Formed) {rest : List Char}
    (closes : Closes rest)
    (item : read (token.text.toList ++ rest) = none ∨
      read (token.text.toList ++ rest) = some (.literal token.text, rest)) :
    ∀ t after, closed (expression read (token.text.toList ++ rest)) = some (t, after) →
      t.isComposite = false := by
  intro t after found
  have opens := opens_literal (.scalar formed.is_scalar_text) rest
  rw [expression, opens.1] at found
  rcases item with missing | first
  · rw [missing] at found
    cases found
  · rw [first] at found
    change closed (compound read (.literal token.text) rest) = _ at found
    rw [compound, closes.2] at found
    cases rest with
    | nil => cases found
    | cons c rest =>
        by_cases close : c = ')'
        · subst close
          cases found
          rfl
        · rw [closed] at found
          · cases found
          · intro _ _ same
            cases same
            exact close rfl

theorem expression_items {tokens : List Token} (some : tokens ≠ [])
    (formed : ∀ token ∈ tokens, token.Formed) (rest : List Char)
    (items : ∀ token : Token, token.Formed → ∀ rest, Ends rest →
      read (token.text.toList ++ rest) = none ∨
        read (token.text.toList ++ rest) = .some (.literal token.text, rest)) :
    ∀ t after, closed (expression read
      ([','].intercalate (tokens.map fun token => token.text.toList) ++ ')' :: rest)) =
        .some (t, after) → t.isComposite = false := by
  cases tokens with
  | nil => exact absurd rfl some
  | cons token tokens =>
      have first := formed token List.mem_cons_self
      cases tokens with
      | nil =>
          rw [List.map_singleton, List.intercalate_singleton]
          have closes := closes_parenthesis rest
          exact expression_item first closes (items token first _ closes.1)
      | cons next tokens =>
          rw [List.map_cons, List.map_cons, List.intercalate_cons_cons, List.append_assoc,
            List.append_assoc, List.singleton_append]
          have closes := closes_comma
          exact expression_item first (closes _) (items token first _ (closes _).1)

theorem reads_enumeration {tokens : List Token} (some : tokens ≠ [])
    (formed : ∀ token ∈ tokens, token.Formed)
    (items : ∀ token : Token, token.Formed → ∀ rest, Ends rest →
      read (token.text.toList ++ rest) = none ∨
        read (token.text.toList ++ rest) = .some (.literal token.text, rest)) :
    Reads (operandWith read)
      (.literal ("(" ++ String.intercalate "," (tokens.map Token.text) ++ ")")) := by
  intro rest _
  have whole := read_enumeration_append some formed rest
  rw [enumeration_append] at whole
  have list : readGroup ('(' :: ([','].intercalate (tokens.map fun token => token.text.toList) ++
      ')' :: rest)) =
        .some (.literal ("(" ++ String.intercalate "," (tokens.map Token.text) ++ ")"), rest) := by
    rw [readGroup, whole]
    rfl
  rw [operand_text_simple rfl, render_literal, enumeration_append, operandWith, group]
  split
  next t after found =>
    rw [expression_items some formed rest items t after found]
    exact list
  next => exact list

theorem reads_token {token : Token} (formed : token.Formed) :
    Reads (operandWith read) (.literal token.text) := by
  cases token with
  | null => exact reads_atom (reads_atom_keyword formed (by decide))
  | truth b => exact reads_atom (reads_atom_keyword formed (by cases b <;> decide))
  | number text =>
      rcases formed with numeral | ⟨cs, isText, numeral⟩
      · exact reads_atom (reads_atom_numeral numeral)
      · exact reads_negative isText numeral
  | quoted s => exact reads_atom (reads_atom_quoted s)

end Operands

theorem reads_literal {text : String} (literal : LiteralText text) (depth : Nat) :
    Reads (operandWith (readOperand depth)) (.literal text) := by
  cases literal with
  | scalar scalar =>
      obtain ⟨token, formed, rfl⟩ := token_of_scalar_text scalar
      exact reads_token formed
  | enumeration nonempty scalars =>
      obtain ⟨tokens, formed, rfl⟩ := tokens_of_scalar_texts scalars
      refine reads_enumeration (fun empty => nonempty (by rw [empty]; rfl)) formed ?_
      intro token isFormed rest ends
      cases depth with
      | zero => exact .inl rfl
      | succ depth => exact .inr (reads_token isFormed rest ends)
  | star => exact reads_atom reads_atom_star

end WikiQuery.Sql.Term
