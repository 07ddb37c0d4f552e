import WikiQuery.Navigation
import WikiQuery.Proofs.Steps

/- Two runs side by side. They agree when both end well with related values, or both fail with
   errors of one kind. -/
set_option autoImplicit false

namespace WikiQuery

section Except

variable {ε α β : Type}

inductive Agree (kind : ε → ErrorKind) (related : α → α → Prop) :
    Except ε α → Except ε α → Prop where
  | ok {a b : α} (same : related a b) : Agree kind related (.ok a) (.ok b)
  | error {e e' : ε} (same : kind e = kind e') : Agree kind related (.error e) (.error e')

namespace Agree

variable {kind : ε → ErrorKind} {first : α → α → Prop} {second : β → β → Prop}

theorem refl (reflexive : ∀ a, first a a) (x : Except ε α) : Agree kind first x x := by
  cases x with
  | ok a => exact .ok (reflexive a)
  | error e => exact .error rfl

theorem bind {x y : Except ε α} {f g : α → Except ε β} (start : Agree kind first x y)
    (next : ∀ a b, first a b → Agree kind second (f a) (g b)) :
    Agree kind second (x >>= f) (y >>= g) := by
  cases start with
  | ok same => exact next _ _ same
  | error same => exact .error same

theorem with_ends {x y : Except ε α} (agree : Agree kind first x y) :
    Agree kind (fun a b => x = .ok a ∧ y = .ok b ∧ first a b) x y := by
  cases agree with
  | ok same => exact .ok ⟨rfl, rfl, same⟩
  | error same => exact .error same

theorem mono {x y : Except ε α} {other : α → α → Prop} (agree : Agree kind first x y)
    (weaker : ∀ a b, first a b → other a b) : Agree kind other x y := by
  cases agree with
  | ok same => exact .ok (weaker _ _ same)
  | error same => exact .error same

theorem join {x y z : Except ε α} (left : Agree kind first x z) (right : Agree kind first y z)
    (joined : ∀ a b c, first a c → first b c → first a b) : Agree kind first x y := by
  cases left with
  | ok same =>
      cases right with
      | ok same' => exact .ok (joined _ _ _ same same')
  | error same =>
      cases right with
      | error same' => exact .error (same.trans same'.symm)

end Agree

end Except

namespace Scoped

variable {α β : Type}

def Agree (related : α → α → Prop) (x y : Scoped α) : Prop :=
  ∀ s, WikiQuery.Agree QueryError.kind related (x.outcome s).1 (y.outcome s).1 ∧
    (x.outcome s).2 = (y.outcome s).2

namespace Agree

variable {first : α → α → Prop} {second : β → β → Prop}

theorem refl (reflexive : ∀ a, first a a) (x : Scoped α) : Agree first x x :=
  fun _ => ⟨.refl reflexive _, rfl⟩

theorem of_except {x y : Except QueryError α}
    (agree : WikiQuery.Agree QueryError.kind first x y) :
    Agree first (Steps.ofExcept x) (Steps.ofExcept y) := fun _ => ⟨agree, rfl⟩

theorem pure {a b : α} (same : first a b) : Agree first (Pure.pure a) (Pure.pure b) :=
  fun _ => ⟨.ok same, rfl⟩

theorem throw {e e' : QueryError} (same : e.kind = e'.kind) :
    Agree first (throwThe QueryError e) (throwThe QueryError e') := fun _ => ⟨.error same, rfl⟩

theorem bind {x y : Scoped α} {f g : α → Scoped β} (start : Agree first x y)
    (next : ∀ a b, first a b → Agree second (f a) (g b)) : Agree second (x >>= f) (y >>= g) := by
  intro s
  obtain ⟨agree, scopes⟩ := start s
  rw [Steps.outcome_bind, Steps.outcome_bind]
  generalize x.outcome s = left at agree scopes
  generalize y.outcome s = right at agree scopes
  obtain ⟨result, m⟩ := left
  obtain ⟨result', m'⟩ := right
  cases scopes
  cases agree with
  | ok same => exact next _ _ same m
  | error same => exact ⟨.error same, rfl⟩

theorem join {x y z : Scoped α} (left : Agree first x z) (right : Agree first y z)
    (joined : ∀ a b c, first a c → first b c → first a b) : Agree first x y :=
  fun s => ⟨(left s).1.join (right s).1 joined, (left s).2.trans (right s).2.symm⟩

theorem commit {x y : Scoped α} (agree : Agree first x y) (s : Scope) :
    WikiQuery.Agree QueryError.kind (fun a b => first a.1 b.1 ∧ a.2 = b.2) (x.commit s)
      (y.commit s) := by
  obtain ⟨results, scopes⟩ := agree s
  rw [Steps.commit_eq, Steps.commit_eq]
  generalize x.outcome s = left at results scopes
  generalize y.outcome s = right at results scopes
  obtain ⟨result, m⟩ := left
  obtain ⟨result', m'⟩ := right
  cases scopes
  cases results with
  | ok same => exact .ok ⟨same, rfl⟩
  | error same => exact .error same

end Agree

end Scoped

end WikiQuery
