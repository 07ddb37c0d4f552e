import WikiQuery.Proofs.Derivation
import WikiQuery.Proofs.LiteralText
import WikiQuery.Proofs.Navigation

/- The shape of lowered terms. They hold no tables and no orders, their functions take one
   argument, their chains have at least two members, and their leaves are columns and literals. -/
set_option autoImplicit false

namespace WikiQuery

namespace Sql.Term

def functionNames : List String :=
  ["UPPER", "LOWER", "TRIM", "CHAR_LENGTH", "YEAR", "MONTH", "DAY", "COUNT", "SUM", "AVG", "MIN",
    "MAX"]

def Negatable : Term → Prop
  | .literal text => IsNumber text
  | _ => True

mutual
def Formed (column : Column → Prop) : Term → Prop
  | .source _ => False
  | .column c => column c
  | .binary l _ r => Formed column l ∧ Formed column r
  | .unary op t => Formed column t ∧ (op = .neg → t.Negatable)
  | .literal text => LiteralText text
  | .function name _ args =>
      name ∈ functionNames ∧ args.length = 1 ∧ AllFormed column args
  | .junction _ ts => 2 ≤ ts.length ∧ AllFormed column ts
  | .ordering _ _ => False

def AllFormed (column : Column → Prop) : List Term → Prop
  | [] => True
  | t :: ts => Formed column t ∧ AllFormed column ts
end

theorem all_formed_iff (column : Column → Prop) (ts : List Term) :
    AllFormed column ts ↔ ∀ t ∈ ts, Formed column t := by
  induction ts with
  | nil => simp [AllFormed]
  | cons t ts ih => simp [AllFormed, ih]

mutual
theorem formed_mono {p q : Column → Prop} (weaker : ∀ c, p c → q c) :
    ∀ (t : Term), Formed p t → Formed q t
  | .source _, formed => formed
  | .column c, formed => weaker c formed
  | .binary l _ r, formed => ⟨formed_mono weaker l formed.1, formed_mono weaker r formed.2⟩
  | .unary _ t, formed => ⟨formed_mono weaker t formed.1, formed.2⟩
  | .literal _, formed => formed
  | .function _ _ args, formed => ⟨formed.1, formed.2.1, all_formed_mono weaker args formed.2.2⟩
  | .junction _ ts, formed => ⟨formed.1, all_formed_mono weaker ts formed.2⟩
  | .ordering _ _, formed => formed

theorem all_formed_mono {p q : Column → Prop} (weaker : ∀ c, p c → q c) :
    ∀ (ts : List Term), AllFormed p ts → AllFormed q ts
  | [], _ => trivial
  | t :: ts, formed => ⟨formed_mono weaker t formed.1, all_formed_mono weaker ts formed.2⟩
end

mutual
theorem formed_columns {p : Column → Prop} :
    ∀ (t : Term), Formed p t → ∀ c ∈ t.columns, p c
  | .source _, formed, _, _ => formed.elim
  | .column _, formed, c, member => by
      rw [columns, List.mem_singleton] at member
      exact member ▸ formed
  | .binary l _ r, formed, c, member => by
      rw [columns, List.mem_append] at member
      rcases member with member | member
      · exact formed_columns l formed.1 c member
      · exact formed_columns r formed.2 c member
  | .unary _ t, formed, c, member => formed_columns t formed.1 c member
  | .literal _, _, c, member => by
      rw [columns] at member
      cases member
  | .function _ _ args, formed, c, member => all_formed_columns args formed.2.2 c member
  | .junction _ ts, formed, c, member => all_formed_columns ts formed.2 c member
  | .ordering _ _, formed, _, _ => formed.elim

theorem all_formed_columns {p : Column → Prop} :
    ∀ (ts : List Term), AllFormed p ts → ∀ c ∈ allColumns ts, p c
  | [], _, c, member => by
      rw [allColumns] at member
      cases member
  | t :: ts, formed, c, member => by
      rw [allColumns, List.mem_append] at member
      rcases member with member | member
      · exact formed_columns t formed.1 c member
      · exact all_formed_columns ts formed.2 c member
end

theorem formed_chain {p : Column → Prop} (k : Connective) {t : Term} (formed : Formed p t) :
    1 ≤ (Typed.chainTerms k t).length ∧ ∀ u ∈ Typed.chainTerms k t, Formed p u := by
  rcases Typed.chain_terms_cases k t with ⟨ts, rfl, chain⟩ | single
  · have length : 2 ≤ ts.length := formed.1
    rw [chain]
    exact ⟨by omega, (all_formed_iff p ts).mp formed.2⟩
  · rw [single, List.forall_mem_singleton]
    exact ⟨Nat.le_refl 1, formed⟩

theorem formed_junction {p : Column → Prop} (k : Connective) {l r : Term} (left : Formed p l)
    (right : Formed p r) :
    Formed p (.junction k (Typed.chainTerms k l ++ Typed.chainTerms k r)) := by
  obtain ⟨leftLength, leftFormed⟩ := formed_chain k left
  obtain ⟨rightLength, rightFormed⟩ := formed_chain k right
  refine ⟨by rw [List.length_append]; omega, (all_formed_iff p _).mpr ?_⟩
  intro t member
  rcases List.mem_append.mp member with member | member
  · exact leftFormed t member
  · exact rightFormed t member

end Sql.Term

open Sql.Term

namespace Typed

theorem constant_formed {p : Column → Prop} {e : Expr} {value : Value} {hint : Option FieldType}
    {t : Typed} (written : constant e value hint = .ok t) : Formed p t.term := by
  obtain ⟨_, text, ok, rfl⟩ := constant_ok written
  exact Literal.of_value_text ok

theorem binary_formed {p : Column → Prop} {left right : Expr} {op : BinaryOp} {l r t : Typed}
    (leftFormed : Formed p l.term) (rightFormed : Formed p r.term)
    (typed : binary left op right l r = .ok t) : Formed p t.term := by
  rcases binary_ok typed with ⟨k, _, _, _, rfl⟩ | ⟨o, a, b, _, _, _, _, _, rfl⟩ | ⟨o, _, _, rfl⟩
  · exact formed_junction k leftFormed rightFormed
  · exact ⟨leftFormed, rightFormed⟩
  · exact ⟨leftFormed, rightFormed⟩

theorem null_test_formed {p : Column → Prop} (op : BinaryOp) {t : Typed}
    (formed : Formed p t.term) : Formed p (t.nullTest op).term := by
  unfold nullTest
  split
  · exact ⟨formed, by simp⟩
  · exact ⟨formed, by simp⟩

theorem null_test_not_literal (op : BinaryOp) (t : Typed) (text : String) :
    (t.nullTest op).term ≠ .literal text := by
  cases op <;> simp [nullTest, truth]

theorem binary_not_literal {left right : Expr} {op : BinaryOp} {l r t : Typed}
    (typed : binary left op right l r = .ok t) (text : String) : t.term ≠ .literal text := by
  rcases binary_ok typed with ⟨k, _, _, _, rfl⟩ | ⟨o, a, b, _, _, _, _, _, rfl⟩ | ⟨o, _, _, rfl⟩ <;>
    simp [truth]

end Typed

theorem Grows.formed {c : Catalog} {s s' : Scope} (grows : Grows c s s') {t : Sql.Term}
    (formed : Formed (Located c s) t) : Formed (Located c s') t :=
  formed_mono (fun _ located => located.mono grows.sources_prefix.subset) t formed

namespace Lowers

theorem grows {c : Catalog} {clause : Clause} {e : Expr} {s s' : Scope} {t : Typed}
    (lowers : Lowers c clause e s t s') : Grows c s s' := by
  induction lowers with
  | member found => exact (Navigation.member_ends found).1
  | field | constant | countAll => exact .refl
  | binary _ _ _ _ _ first second => exact first.trans second
  | holds _ _ _ _ first second => exact first.trans second
  | _ => assumption

theorem constant_of_literal {c : Catalog} {clause : Clause} {e : Expr} {s s' : Scope} {t : Typed}
    {text : String} (lowers : Lowers c clause e s t s') (isLiteral : t.term = .literal text) :
    ∃ value, e = .constant value ∧ Typed.constant e value none = .ok t := by
  cases lowers with
  | constant written => exact ⟨_, rfl, written⟩
  | nullRight => exact absurd isLiteral (Typed.null_test_not_literal _ _ _)
  | nullLeft => exact absurd isLiteral (Typed.null_test_not_literal _ _ _)
  | constantLeft _ _ _ _ typed => exact absurd isLiteral (Typed.binary_not_literal typed _)
  | constantRight _ _ _ _ _ typed => exact absurd isLiteral (Typed.binary_not_literal typed _)
  | binary _ _ _ _ typed => exact absurd isLiteral (Typed.binary_not_literal typed _)
  | _ => cases isLiteral

theorem negatable {c : Catalog} {clause : Clause} {e : Expr} {s s' : Scope} {t : Typed}
    (lowers : Lowers c clause e s t s') (number : t.hasType FieldType.isNumeric = true) :
    t.term.Negatable := by
  cases isTerm : t.term with
  | literal text =>
      obtain ⟨value, rfl, written⟩ := lowers.constant_of_literal isTerm
      obtain ⟨_, text', ok, rfl⟩ := Typed.constant_ok written
      cases isTerm
      cases value with
      | int i =>
          cases ok
          exact number_int_text i
      | float x =>
          by_cases finite : x.isFinite = true
          · rw [Literal.ofValue, Literal.scalar, if_pos finite] at ok
            · cases ok
              exact number_text finite
            · simp
          · rw [Literal.ofValue, Literal.scalar, if_neg finite] at ok
            · cases ok
            · simp
      | _ => cases number
  | _ => trivial

theorem formed {c : Catalog} {clause : Clause} {e : Expr} {s s' : Scope} {t : Typed}
    (lowers : Lowers c clause e s t s') : Formed (Located c s') t.term := by
  induction lowers with
  | member found => exact (Navigation.member_ends found).2
  | field found => exact Navigation.unqualified_ok found
  | constant written => exact Typed.constant_formed written
  | nullRight _ _ _ ih => exact Typed.null_test_formed _ ih
  | nullLeft _ _ _ ih => exact Typed.null_test_formed _ ih
  | constantLeft _ _ _ written typed ih =>
      exact Typed.binary_formed (Typed.constant_formed written) ih typed
  | constantRight _ _ _ _ written typed ih =>
      exact Typed.binary_formed ih (Typed.constant_formed written) typed
  | binary _ _ _ second typed firstIh secondIh =>
      exact Typed.binary_formed (second.grows.formed firstIh) secondIh typed
  | not _ _ ih => exact ⟨ih, by simp⟩
  | neg inner number ih => exact ⟨ih, fun _ => inner.negatable number⟩
  | @aggregate _ a _ _ _ _ _ _ _ _ ih => exact ⟨by cases a <;> decide, rfl, ih, trivial⟩
  | holdsConstant _ _ written ih => exact ⟨ih, Typed.constant_formed written⟩
  | holds _ _ _ sought listIh needleIh => exact ⟨sought.grows.formed listIh, needleIh⟩
  | pattern _ _ ih => exact ⟨ih, .scalar (.quoted _)⟩
  | membership _ _ written ih => exact ⟨ih, Literal.enumeration_text written⟩
  | @textFunction _ f _ _ _ _ _ ih => exact ⟨by cases f <;> decide, rfl, ih, trivial⟩
  | @datePart _ p _ _ _ _ _ ih => exact ⟨by cases p <;> decide, rfl, ih, trivial⟩
  | countAll => exact ⟨by decide, rfl, .star, trivial⟩

end Lowers

end WikiQuery
