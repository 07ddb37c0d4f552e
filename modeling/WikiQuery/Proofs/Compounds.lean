import WikiQuery.Proofs.Grammar
import WikiQuery.Proofs.Shape
import WikiQuery.Proofs.Rendering

/- Reading expressions back: which texts start an operand, what may stand behind one, and the
   compounds over operands that read back. -/
set_option autoImplicit false

namespace WikiQuery

open SqlText Sql.Term

namespace SqlText

theorem strip_append (p rest : List Char) : strip? p (p ++ rest) = some rest := by
  induction p with
  | nil => rfl
  | cons c p ih => rw [List.cons_append, strip?, if_pos rfl, ih]

theorem strip_cons {p c : Char} (different : p ≠ c) (ps cs : List Char) :
    strip? (p :: ps) (c :: cs) = none := by
  rw [strip?, if_neg different]

theorem append_of_strip {p cs rest : List Char} (stripped : strip? p cs = some rest) :
    cs = p ++ rest := by
  induction p generalizing cs with
  | nil =>
      cases stripped
      rfl
  | cons c p ih =>
      cases cs with
      | nil => cases stripped
      | cons d cs =>
          by_cases same : c = d
          · subst same
            rw [strip?, if_pos rfl] at stripped
            rw [ih stripped, List.cons_append]
          · rw [strip_cons same] at stripped
            cases stripped

theorem follow_text (f : Follow) (rest : List Char) :
    follow? (f.text.toList ++ rest) = some (f, rest) := by
  cases f with
  | isNull => rfl
  | isNotNull => rfl
  | connective k => cases k <;> rfl
  | operator op => cases op <;> rfl

theorem ends_follow (f : Follow) (rest : List Char) : Ends (f.text.toList ++ rest) := by
  have first : (f.text.toList ++ rest).head? = some ' ' := by
    cases f with
    | isNull | isNotNull => rfl
    | connective k => cases k <;> rfl
    | operator op => cases op <;> rfl
  intro c head
  rw [first] at head
  cases head
  exact .inl rfl

def Closes (rest : List Char) : Prop := Ends rest ∧ follow? rest = none

theorem closes_nil : Closes [] := ⟨ends_nil, rfl⟩

theorem closes_parenthesis (rest : List Char) : Closes (')' :: rest) :=
  ⟨ends_cons (.inr (.inr rfl)) rest, rfl⟩

theorem closes_comma (rest : List Char) : Closes (',' :: rest) :=
  ⟨ends_cons (.inr (.inl rfl)) rest, rfl⟩

theorem closes_direction (d : Direction) : Closes (' ' :: d.text.toList) := by
  cases d <;> exact ⟨ends_cons (.inl rfl) _, rfl⟩

theorem Closes.strip {rest : List Char} (closes : Closes rest) (k : Connective) :
    strip? (Follow.connective k).text.toList rest = none := by
  have each := List.findSome?_eq_none_iff.mp closes.2 (.connective k)
  cases k <;> simpa using each (by simp [Follow.all])

def Opens (cs : List Char) : Prop :=
  strip? "NOT ".toList cs = none ∧ strip? "DISTINCT ".toList cs = none

theorem opens_cons {c : Char} (noN : 'N' ≠ c) (noD : 'D' ≠ c) (cs : List Char) :
    Opens (c :: cs) := ⟨strip_cons noN _ _, strip_cons noD _ _⟩

theorem opens_word {word : List Char} (words : ∀ c ∈ word, isWordChar c = true) {c : Char}
    (noWord : isWordChar c = false) (noSpace : c ≠ ' ') (cs : List Char) :
    Opens (word ++ c :: cs) := by
  have apart : ∀ keyword : String, isIdentifier keyword = true →
      strip? (keyword.toList ++ [' ']) (word ++ c :: cs) = none := by
    intro keyword plain
    cases stripped : strip? (keyword.toList ++ [' ']) (word ++ c :: cs) with
    | none => rfl
    | some rest =>
        have space : ∀ d, (' ' :: rest).head? = some d → isWordChar d = false := by
          intro d head
          cases head
          decide
        have same := congrArg (List.dropWhile isWordChar) (append_of_strip stripped)
        rw [List.append_assoc, List.singleton_append, drop_while_stop words (by simpa using noWord),
          drop_while_stop (identifier_words plain) space] at same
        exact absurd (List.cons.inj same).1 noSpace
  exact ⟨apart "NOT" rfl, apart "DISTINCT" rfl⟩

theorem opens_number {text : String} (number : IsNumber text) (rest : List Char) :
    Opens (text.toList ++ rest) := by
  rcases number with numeral | ⟨cs, isText, _⟩
  · obtain ⟨c, tail, isText, digit⟩ := numeral_cons numeral
    rw [isText, List.cons_append]
    exact opens_cons (ne_of_class digit rfl).symm (ne_of_class digit rfl).symm _
  · rw [isText, List.cons_append]
    exact opens_cons (by decide) (by decide) _

theorem opens_literal {text : String} (literal : LiteralText text) (rest : List Char) :
    Opens (text.toList ++ rest) := by
  cases literal with
  | scalar scalar =>
      cases scalar with
      | null => exact ⟨rfl, rfl⟩
      | truth b => cases b <;> exact ⟨rfl, rfl⟩
      | number number => exact opens_number number rest
      | quoted s =>
          simp only [Literal.quote, String.toList_append, List.append_assoc]
          exact opens_cons (by decide) (by decide) _
  | enumeration =>
      simp only [String.toList_append, List.append_assoc]
      exact opens_cons (by decide) (by decide) _
  | star => exact ⟨rfl, rfl⟩

end SqlText

namespace Sql.Term

def WordColumn (c : Column) : Prop := isIdentifier c.label = true ∧ isIdentifier c.field = true

theorem function_name_identifier : ∀ name ∈ functionNames, isIdentifier name = true := by
  decide

theorem operand_text_composite {t : Term} (composite : t.isComposite = true) (rest : List Char) :
    t.operandText.toList ++ rest = '(' :: (t.render.toList ++ ')' :: rest) := by
  rw [operandText, if_pos composite]
  simp [parenthesize]

theorem operand_text_simple {t : Term} (simple : t.isComposite = false) :
    t.operandText = t.render := by
  simp [operandText, simple]

theorem operand_opens {t : Term} (formed : Formed WordColumn t) (rest : List Char) :
    Opens (t.operandText.toList ++ rest) := by
  by_cases composite : t.isComposite = true
  · rw [operand_text_composite composite]
    exact opens_cons (by decide) (by decide) _
  · rw [operand_text_simple (by simpa using composite)]
    cases t with
    | source | ordering => exact formed.elim
    | binary | junction => exact absurd rfl composite
    | column c =>
        simp only [render_column, Column.text, String.toList_append, List.append_assoc]
        exact opens_word (identifier_words formed.1) (by decide) (by decide) _
    | literal text => exact opens_literal formed rest
    | function name distinct args =>
        have words := identifier_words (function_name_identifier name formed.1)
        simp only [render_function, String.toList_append, List.append_assoc]
        exact opens_word words (by decide) (by decide) _
    | unary op t =>
        cases op with
        | not | isNull | isNotNull => exact absurd rfl composite
        | neg =>
            simp only [render_neg, String.toList_append, List.append_assoc]
            exact opens_cons (by decide) (by decide) _

def Reads (read : Reader) (t : Term) : Prop :=
  ∀ rest, Ends rest → read (t.operandText.toList ++ rest) = some (t.reading, rest)

def ReadsWhole (read : Reader) (t : Term) : Prop :=
  ∀ rest, Closes rest → expression read (t.render.toList ++ rest) = some (t.reading, rest)

section Compounds

variable {read : Reader}

theorem expression_follow {t : Term} (formed : Formed WordColumn t) (reads : Reads read t)
    (f : Follow) (rest : List Char) :
    expression read (t.operandText.toList ++ (f.text.toList ++ rest)) =
      compound read t.reading (f.text.toList ++ rest) := by
  rw [expression, (operand_opens formed _).1]
  change (read _).bind _ = _
  rw [reads _ (ends_follow f rest)]
  rfl

theorem reads_whole_binary {l r : Term} (op : BinaryOp) (formed : Formed WordColumn l)
    (left : Reads read l) (right : Reads read r) : ReadsWhole read (.binary l op r) := by
  intro rest closes
  have text : (render (.binary l op r)).toList ++ rest =
      l.operandText.toList ++ ((Follow.operator op).text.toList ++
        (r.operandText.toList ++ rest)) := by
    simp [render_binary, Follow.text]
  rw [text, expression_follow formed left, compound, follow_text]
  change (read _).map _ = _
  rw [right rest closes.1]
  rfl

theorem reads_whole_test {t u : Term} (formed : Formed WordColumn t) (reads : Reads read t)
    (f : Follow) (text : u.render = t.operandText ++ f.text)
    (value : ∀ rest, compound read t.reading (f.text.toList ++ rest) = some (u.reading, rest)) :
    ReadsWhole read u := by
  intro rest _
  rw [text, String.toList_append, List.append_assoc, expression_follow formed reads]
  exact value rest

theorem reads_whole_is_null {t : Term} (formed : Formed WordColumn t) (reads : Reads read t) :
    ReadsWhole read (.unary .isNull t) := by
  refine reads_whole_test formed reads .isNull (render_is_null t) ?_
  intro rest
  rw [compound, follow_text]
  rfl

theorem reads_whole_is_not_null {t : Term} (formed : Formed WordColumn t) (reads : Reads read t) :
    ReadsWhole read (.unary .isNotNull t) := by
  refine reads_whole_test formed reads .isNotNull (render_is_not_null t) ?_
  intro rest
  rw [compound, follow_text]
  rfl

theorem reads_whole_not {t : Term} (reads : Reads read t) : ReadsWhole read (.unary .not t) := by
  intro rest closes
  rw [render_not, String.toList_append, List.append_assoc, expression, strip_append]
  change (read _).map _ = _
  rw [reads rest closes.1]
  rfl

theorem chain_last {k : Connective} {bound : Nat} {cs rest : List Char} {t : Term}
    (first : read cs = some (t, rest))
    (stop : strip? (Follow.connective k).text.toList rest = none) :
    chain read k (bound + 1) cs = some ([t], rest) := by
  rw [chain, first]
  simp [stop]

theorem chain_more {k : Connective} {bound : Nat} {cs rest : List Char} {t : Term}
    (first : read cs = some (t, (Follow.connective k).text.toList ++ rest)) :
    chain read k (bound + 1) cs = (chain read k bound rest).map fun p => (t :: p.1, p.2) := by
  rw [chain, first]
  simp [strip_append]

theorem chain_operands (k : Connective) {ts : List Term} (some : ts ≠ [])
    (reads : ∀ t ∈ ts, Reads read t) {rest : List Char} (closes : Closes rest) {bound : Nat}
    (enough : ts.length ≤ bound) :
    chain read k bound ((Follow.connective k).text.toList.intercalate
      (ts.map fun t => t.operandText.toList) ++ rest) = .some (ts.map reading, rest) := by
  induction ts generalizing bound with
  | nil => exact absurd rfl some
  | cons t ts ih =>
      have first := reads t List.mem_cons_self
      cases bound with
      | zero => simp at enough
      | succ bound =>
          cases ts with
          | nil =>
              rw [List.map_singleton, List.intercalate_singleton]
              exact chain_last (first rest closes.1) (closes.strip k)
          | cons u ts =>
              have later := ih (by simp) (fun v member => reads v (List.mem_cons_of_mem t member))
                (Nat.le_of_succ_le_succ enough)
              rw [List.map_cons] at later
              rw [List.map_cons, List.map_cons, List.intercalate_cons_cons, List.append_assoc,
                List.append_assoc, chain_more (first _ (ends_follow (.connective k) _)), later]
              rfl

theorem reads_whole_junction (k : Connective) {t : Term} {ts : List Term} (some : ts ≠ [])
    (formed : Formed WordColumn t) (first : Reads read t) (later : ∀ u ∈ ts, Reads read u) :
    ReadsWhole read (.junction k (t :: ts)) := by
  intro rest closes
  have text : (render (.junction k (t :: ts))).toList ++ rest =
      t.operandText.toList ++ ((Follow.connective k).text.toList ++
        ((Follow.connective k).text.toList.intercalate (ts.map fun u => u.operandText.toList) ++
          rest)) := by
    cases ts with
    | nil => exact absurd rfl some
    | cons u ts =>
        simp [render_junction, String.toList_intercalate, Follow.text, Function.comp_def]
  have between : (Follow.connective k).text.toList ≠ [] := by cases k <;> decide
  have size := length_le_intercalate between (ts.map fun u => u.operandText.toList)
  rw [List.length_map] at size
  rw [text, expression_follow formed first, compound, follow_text]
  change (chain read k _ _).map _ = _
  rw [chain_operands k some later closes]
  · simp [reading, readings_eq]
  · rw [List.length_append]
    omega

end Compounds

theorem is_composite_negated (t : Term) : (negated t).isComposite = false := by
  cases t with
  | literal text =>
      simp only [negated]
      split <;> rfl
  | _ => rfl

theorem is_composite_reading (t : Term) : t.reading.isComposite = t.isComposite := by
  cases t with
  | unary op t =>
      cases op with
      | neg => exact is_composite_negated t.reading
      | _ => rfl
  | _ => rfl

theorem render_opens {t : Term} (formed : Formed WordColumn t) (rest : List Char) :
    strip? "DISTINCT ".toList (t.render.toList ++ rest) = none := by
  by_cases composite : t.isComposite = true
  · cases t with
    | source | ordering => exact formed.elim
    | column | literal | function => cases composite
    | binary l op r =>
        simp only [render_binary, String.toList_append, List.append_assoc]
        exact (operand_opens formed.1 _).2
    | junction k ts =>
        obtain ⟨length, allFormed⟩ := formed
        match ts, length, allFormed with
        | t :: u :: ts, _, allFormed =>
            simp only [render_junction, List.map_cons, String.toList_intercalate,
              List.intercalate_cons_cons, List.append_assoc]
            exact (operand_opens allFormed.1 _).2
    | unary op t =>
        cases op with
        | neg => cases composite
        | not => rw [render_not, String.toList_append, List.append_assoc]; rfl
        | isNull =>
            rw [render_is_null, String.toList_append, List.append_assoc]
            exact (operand_opens formed.1 _).2
        | isNotNull =>
            rw [render_is_not_null, String.toList_append, List.append_assoc]
            exact (operand_opens formed.1 _).2
  · have opens := operand_opens formed rest
    rw [operand_text_simple (by simpa using composite)] at opens
    exact opens.2

section Operands

variable {read : Reader}

theorem expression_operand {t : Term} (formed : Formed WordColumn t) (reads : Reads read t)
    {rest : List Char} (closes : Closes rest) :
    expression read (t.operandText.toList ++ rest) = some (t.reading, rest) := by
  rw [expression, (operand_opens formed rest).1]
  change (read _).bind _ = _
  rw [reads rest closes.1]
  change compound read t.reading rest = _
  rw [compound, closes.2]

theorem reads_whole_of_reads {t : Term} (formed : Formed WordColumn t)
    (simple : t.isComposite = false) (reads : Reads read t) : ReadsWhole read t := by
  intro rest closes
  have whole := expression_operand formed reads closes
  rw [operand_text_simple simple] at whole
  exact whole

theorem closed_whole {t : Term} (whole : ReadsWhole read t) (rest : List Char) :
    closed (expression read (t.render.toList ++ ')' :: rest)) = some (t.reading, rest) := by
  rw [whole _ (closes_parenthesis rest)]
  rfl

theorem reads_group {t : Term} (composite : t.isComposite = true) (whole : ReadsWhole read t) :
    Reads (operandWith read) t := by
  intro rest _
  rw [operand_text_composite composite, operandWith, group, closed_whole whole]
  change (if t.reading.isComposite then _ else _) = _
  rw [is_composite_reading, if_pos composite]

end Operands

end Sql.Term

end WikiQuery
