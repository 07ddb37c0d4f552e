import WikiQuery.Proofs.Parameters

/- Clauses and their items. The fields, the groups and the orders of a request are items with commas
   between them. Items hold commas of their own, but only inside string literals and parentheses,
   so that a scan which passes over these finds every item again. -/
set_option autoImplicit false

namespace WikiQuery

open SqlText Sql Sql.Term

namespace SqlText

def prepend (cs : List Char) (pieces : List (List Char)) : List (List Char) :=
  pieces.modifyHead (cs ++ ·)

mutual
def cut (depth : Nat) : List Char → List (List Char)
  | [] => [[]]
  | '(' :: rest => prepend ['('] (cut (depth + 1) rest)
  | ')' :: rest => prepend [')'] (cut (depth - 1) rest)
  | ',' :: rest => if depth = 0 then [] :: cut 0 rest else prepend [','] (cut depth rest)
  | '\'' :: rest => prepend ['\''] (cutInside '\'' depth rest)
  | '"' :: rest => prepend ['"'] (cutInside '"' depth rest)
  | c :: rest => prepend [c] (cut depth rest)

-- The same from inside a literal. It ends at the first quote of its kind that is not doubled; a
-- backslash takes the character behind it along.
def cutInside (quote : Char) (depth : Nat) : List Char → List (List Char)
  | [] => [[]]
  | [c] => [[c]]
  | '\\' :: c :: rest => prepend ['\\', c] (cutInside quote depth rest)
  | c :: d :: rest =>
      if c = quote then
        if d = quote then prepend [c, d] (cutInside quote depth rest)
        else prepend [c] (cut depth (d :: rest))
      else prepend [c] (cutInside quote depth (d :: rest))
end

def pieces (text : String) : List String := (cut 0 text.toList).map String.ofList

def stops : List Char := ['(', ')', ',', '\'', '"']

theorem prepend_nil (pieces : List (List Char)) : prepend [] pieces = pieces := by
  cases pieces <;> rfl

theorem prepend_prepend (a b : List Char) (pieces : List (List Char)) :
    prepend a (prepend b pieces) = prepend (a ++ b) pieces := by
  cases pieces with
  | nil => rfl
  | cons piece pieces => simp [prepend]

theorem cut_cons {c : Char} (other : c ∉ stops) (depth : Nat) (rest : List Char) :
    cut depth (c :: rest) = prepend [c] (cut depth rest) := by
  rw [cut] <;>
  · rintro rfl
    exact other (by decide)

theorem cut_comma {depth : Nat} (within : 0 < depth) (rest : List Char) :
    cut depth (',' :: rest) = prepend [','] (cut depth rest) := by
  rw [cut, if_neg (Nat.ne_of_gt within)]

theorem cut_unstopped {cs : List Char} (unstopped : ∀ c ∈ cs, c ∉ stops) (depth : Nat)
    (rest : List Char) : cut depth (cs ++ rest) = prepend cs (cut depth rest) := by
  induction cs with
  | nil => rw [prepend_nil, List.nil_append]
  | cons c cs ih =>
      rw [List.cons_append, cut_cons (unstopped c List.mem_cons_self),
        ih fun d member => unstopped d (.tail _ member), prepend_prepend]
      rfl

theorem cut_inside_close (depth : Nat) {rest : List Char} (stop : rest.head? ≠ some '\'') :
    cutInside '\'' depth ('\'' :: rest) = prepend ['\''] (cut depth rest) := by
  cases rest with
  | nil => rfl
  | cons d rest =>
      have other : d ≠ '\'' := by simpa using stop
      rw [cutInside, if_pos rfl, if_neg other]
      decide

theorem cut_inside_cons {c : Char} (noQuote : c ≠ '\'') (noSlash : c ≠ '\\') (depth : Nat)
    {rest : List Char} (some : rest ≠ []) :
    cutInside '\'' depth (c :: rest) = prepend [c] (cutInside '\'' depth rest) := by
  cases rest with
  | nil => exact absurd rfl some
  | cons d rest =>
      rw [cutInside, if_neg noQuote]
      exact noSlash

theorem cut_inside_double (cs : List Char) (depth : Nat) {rest : List Char}
    (stop : rest.head? ≠ some '\'') :
    cutInside '\'' depth (Literal.double cs ++ '\'' :: rest) =
      prepend (Literal.double cs ++ ['\'']) (cut depth rest) := by
  induction cs with
  | nil => exact cut_inside_close depth stop
  | cons c cs ih =>
      by_cases quote : c = '\''
      · subst quote
        exact (congrArg (prepend ['\'', '\'']) ih).trans (prepend_prepend _ _ _)
      · by_cases slash : c = '\\'
        · subst slash
          exact (congrArg (prepend ['\\', '\\']) ih).trans (prepend_prepend _ _ _)
        · have single : Literal.double (c :: cs) = c :: Literal.double cs := by
            simp [Literal.double, quote, slash]
          rw [single, List.cons_append, cut_inside_cons quote slash depth (by simp), ih,
            prepend_prepend]
          rfl

theorem words_unstopped {cs : List Char} (words : ∀ c ∈ cs, isWordChar c = true ∨ c = '.') :
    ∀ c ∈ cs, c ∉ stops :=
  fun c member => word_not_mem (by decide) (words c member)

theorem symbols_unstopped : ∀ cs ∈ symbols, ∀ c ∈ cs, c ∉ stops := by
  simp [symbols, stops]

-- A phrase is in one piece; one with commas is, inside parentheses. A quote right behind a quoted
-- text would double its last one, and the literal would go on.
theorem Phrase.uncut {commas : Bool} {cs : List Char} (phrase : Phrase commas cs) {depth : Nat}
    (within : commas = true → 0 < depth) {rest : List Char} (stop : rest.head? ≠ some '\'') :
    cut depth (cs ++ rest) = prepend cs (cut depth rest) := by
  induction phrase generalizing depth rest with
  | word _ words => exact cut_unstopped (words_unstopped words) depth rest
  | symbol known => exact cut_unstopped (symbols_unstopped _ known) depth rest
  | quoted s =>
      have text : (Literal.quote s).toList = '\'' :: (Literal.double s.toList ++ ['\'']) := by
        simp [Literal.quote]
      rw [text, List.cons_append, List.append_assoc, List.singleton_append, cut,
        cut_inside_double s.toList depth stop, prepend_prepend]
      rfl
  | minus _ _ ih =>
      rw [List.cons_append, cut_cons (by decide), ih within stop, prepend_prepend]
      rfl
  | spaced _ _ leftIh rightIh =>
      rw [List.append_assoc, List.cons_append, leftIh (by simp) (by simp), cut_cons (by decide),
        rightIh (by simp) stop, prepend_prepend, prepend_prepend, List.append_assoc]
      rfl
  | listed _ _ leftIh rightIh =>
      have inside := within rfl
      rw [List.append_assoc, List.cons_append, leftIh (by simp) (by simp), cut_comma inside,
        rightIh (fun _ => inside) stop, prepend_prepend, prepend_prepend, List.append_assoc]
      rfl
  | @group _ name cs words _ ih =>
      have named := words_unstopped fun c member => .inl (words c member)
      have text : name ++ '(' :: (cs ++ [')']) ++ rest = name ++ '(' :: (cs ++ ')' :: rest) := by
        simp
      rw [text, cut_unstopped named, cut, ih (fun _ => Nat.succ_pos depth) (by simp), cut,
        Nat.succ_sub_one, prepend_prepend, prepend_prepend, prepend_prepend]
      simp

-- By induction on the items; the comma behind an item stands outside all parentheses.
theorem cut_intercalate {items : List (List Char)} (some : items ≠ [])
    (each : ∀ cs ∈ items, Phrase false cs) : cut 0 ([','].intercalate items) = items := by
  induction items with
  | nil => exact absurd rfl some
  | cons cs items ih =>
      have first := each cs List.mem_cons_self
      cases items with
      | nil =>
          have whole : cut 0 (cs ++ []) = prepend cs (cut 0 []) := first.uncut (by simp) (by simp)
          simpa [cut, prepend] using whole
      | cons next items =>
          have later := ih (by simp) fun other member => each other (.tail _ member)
          rw [List.intercalate_cons_cons, List.append_assoc, List.singleton_append,
            first.uncut (by simp) (by simp), cut, if_pos rfl, later]
          simp [prepend]

theorem pieces_commas {items : List String} (some : items ≠ [])
    (each : ∀ item ∈ items, Phrase false item.toList) : pieces (Request.commas items) = items := by
  have each' : ∀ cs ∈ items.map String.toList, Phrase false cs := by
    simpa using each
  have whole := cut_intercalate (by simpa using some) each'
  rw [pieces, Request.commas, String.toList_intercalate]
  exact (congrArg (List.map String.ofList) whole).trans (by simp)

example :
    pieces "MAX(a,b),\"c,\",'it''s (\\',',d" = ["MAX(a,b)", "\"c,\"", "'it''s (\\','", "d"] := rfl

end SqlText

namespace Request

variable {c : Catalog} {root : Entity} {provider : Provider} {q : Query} {r : Request}

def pieces (r : Request) (p : Parameter) : List String := (r.get? p.name).elim [] SqlText.pieces

theorem pieces_clause {items : List String} (each : ∀ item ∈ items, Phrase false item.toList) :
    (clause items).elim [] SqlText.pieces = items := by
  cases items with
  | nil => rfl
  | cons first rest => exact pieces_commas (by simp) each

theorem pieces_said {items xs : List String} (params : r.params = listing (said provider q items))
    {p : Parameter} (isClause : said provider q items p = clause xs)
    (each : ∀ x ∈ xs, Phrase false x.toList) : r.pieces p = xs := by
  rw [pieces, get?_listing params, isClause]
  exact pieces_clause each

theorem phrase_aliased {text name : String} (phrase : Phrase false text.toList)
    (plain : isIdentifier name = true) : Phrase false (text ++ " AS " ++ name).toList := by
  have word : Phrase false "AS".toList := phrase_identifier (by decide)
  simpa using phrase.spaced (word.spaced (phrase_identifier plain))

theorem phrase_marked (item : String) (phrase : Phrase false item.toList) :
    Phrase false ("DISTINCT " ++ item).toList := by
  have word : Phrase false "DISTINCT".toList := phrase_identifier (by decide)
  simpa using word.spaced phrase

theorem phrase_term (sound : q.Sound c root) (fields : c.PlainFields) {names : Names}
    (plain : PlainNames names) {t : Term} (formed : Formed (Located c q.scope) t) :
    Phrase false (renderWith names t).toList :=
  render_with_phrase plain t (formed_words sound.scope.plain fields formed)

theorem phrase_render (sound : q.Sound c root) (fields : c.PlainFields) {t : Term}
    (formed : Formed (Located c q.scope) t) : Phrase false t.render.toList :=
  phrase_term sound fields (by simp [PlainNames]) formed

theorem phrase_field_items (sound : q.Sound c root) (fields : c.PlainFields) {items : List String}
    (found : fieldItems c q = .ok items) : ∀ item ∈ items, Phrase false item.toList := by
  intro item member
  rcases field_items_cases sound found with ⟨_, rfl⟩ | ⟨_, table, known, rfl⟩
  · obtain ⟨o, inOutputs, rfl⟩ := List.mem_map.mp member
    have shown := phrase_render sound fields (sound.outputs o inOutputs)
    rw [outputText]
    split
    next name isName =>
      exact phrase_aliased shown
        (sound.names.plain name (List.mem_filterMap.mpr ⟨o, inOutputs, isName⟩))
    next => exact shown
  · obtain ⟨f, inFields, rfl⟩ := List.mem_map.mp member
    have declared : table ∈ c.tables := List.mem_of_find?_eq_some known
    have plain := fields table declared f inFields
    have label : isIdentifier "T1" = true := by decide
    have column : Phrase false ("T1" ++ "." ++ f.name).toList :=
      phrase_column (c := ⟨"T1", f.name, f.type⟩) ⟨label, plain⟩
    exact phrase_aliased column plain

theorem phrase_order (sound : q.Sound c root) (fields : c.PlainFields) {t : Term}
    (member : t ∈ q.orders) : Phrase false t.render.toList := by
  obtain ⟨u, d, rfl, formed⟩ := sound.orders t member
  have inner := phrase_operand (phrase_render sound fields formed)
  have word : Phrase false d.text.toList := phrase_identifier (by cases d <;> decide)
  rw [render_ordering, ← operand_nil]
  simpa using inner.spaced word

/-- The pieces of a clause are its items: the outputs under their names or the fields of the root
table, with the mark for distinct rows on the first of them, the groups and the orders. -/
structure SplitsBack (c : Catalog) (root : Entity) (provider : Provider) (q : Query)
    (r : Request) : Prop where
  outputs : q.outputs ≠ [] → r.pieces .fields = markDistinct q.distinct (q.outputs.map outputText)
  defaults : q.outputs = [] → ∃ table, c.find? root = some table ∧
    r.pieces .fields = markDistinct q.distinct
      (table.fields.map fun f => "T1" ++ "." ++ f.name ++ " AS " ++ f.name)
  groups : r.pieces .groupBy = q.groups.map (renderWith (names provider q))
  orders : r.pieces .orderBy = q.orders.map Term.render

end Request

/-- Whatever the items of a clause hold, cutting its text at the commas outside string literals and
parentheses gives the items back, one for one and in order. -/
theorem reachable_clauses_split_back {c : Catalog} {root : Entity} {q : Query} {provider : Provider}
    {r : Request} (fields : c.PlainFields) (reached : Reachable c root q)
    (built : Request.ofQuery c provider q = .ok r) : r.SplitsBack c root provider q := by
  have sound := reached.sound
  obtain ⟨items, found, params⟩ := Request.of_query_params sound built
  have shown : r.pieces .fields = Request.markDistinct q.distinct items := by
    refine Request.pieces_said params rfl ?_
    have each := Request.phrase_field_items sound fields found
    exact Request.mark_distinct_forall Request.phrase_marked q.distinct each
  refine ⟨?_, ?_, ?_, ?_⟩
  · intro outputs
    rcases Request.field_items_cases sound found with ⟨_, rfl⟩ | ⟨noOutputs, _⟩
    · exact shown
    · exact absurd noOutputs outputs
  · intro noOutputs
    rcases Request.field_items_cases sound found with ⟨outputs, _⟩ | ⟨_, table, known, rfl⟩
    · exact absurd noOutputs outputs
    · exact ⟨table, known, shown⟩
  · refine Request.pieces_said params rfl ?_
    intro item member
    obtain ⟨t, inGroups, rfl⟩ := List.mem_map.mp member
    exact Request.phrase_term sound fields (Request.names_plain sound provider)
      (sound.groups t inGroups)
  · refine Request.pieces_said params rfl ?_
    intro item member
    obtain ⟨t, inOrders, rfl⟩ := List.mem_map.mp member
    exact Request.phrase_order sound fields inOrders

theorem shelf_clauses_split_back :
    Sample.catalog.PlainFields ∧ Reachable Sample.catalog Sample.page Sample.shelf ∧
      Request.ofQuery Sample.catalog ⟨5000, .outputName⟩ Sample.shelf =
        .ok (Sample.shelfRequest "heading,short") ∧
      (Sample.shelfRequest "heading,short").SplitsBack Sample.catalog Sample.page
        ⟨5000, .outputName⟩ Sample.shelf := by
  have fields := Sample.plain_fields
  have reached := Sample.shelf_reachable
  have built : Request.ofQuery Sample.catalog ⟨5000, .outputName⟩ Sample.shelf =
      .ok (Sample.shelfRequest "heading,short") := rfl
  exact ⟨fields, reached, built, reachable_clauses_split_back fields reached built⟩

end WikiQuery
