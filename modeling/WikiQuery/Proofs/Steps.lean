import WikiQuery.Steps

/- Runs of steps. A run that ends well is taken apart step by step; what one step leaves behind is
   the state of the next. -/
set_option autoImplicit false

namespace WikiQuery

theorem bind_ok {ε α β : Type} {x : Except ε α} {f : α → Except ε β} {b : β} :
    (x >>= f) = .ok b ↔ ∃ a, x = .ok a ∧ f a = .ok b := by
  cases x <;> simp [Bind.bind, Except.bind]

namespace Steps

variable {σ α β : Type}

def outcome (x : Steps σ α) (s : σ) : Except QueryError α × σ := x.run s

@[simp] theorem outcome_of_except (x : Except QueryError α) (s : σ) :
    (ofExcept x).outcome s = (x, s) := rfl

@[simp] theorem outcome_pure (a : α) (s : σ) : (pure a : Steps σ α).outcome s = (.ok a, s) := rfl

@[simp] theorem outcome_throw (e : QueryError) (s : σ) :
    (throw e : Steps σ α).outcome s = (.error e, s) := rfl

@[simp] theorem outcome_set (t s : σ) : (set t : Steps σ PUnit).outcome s = (.ok ⟨⟩, t) := rfl

theorem outcome_bind (x : Steps σ α) (f : α → Steps σ β) (s : σ) :
    (x >>= f).outcome s =
      match x.outcome s with
      | (.ok a, m) => (f a).outcome m
      | (.error e, m) => (.error e, m) := by
  change (ExceptT.bindCont f (x.outcome s).1) (x.outcome s).2 = _
  rcases x.outcome s with ⟨_ | a, m⟩ <;> rfl

theorem bind_ends {x : Steps σ α} {f : α → Steps σ β} {s s' : σ} {b : β} :
    (x >>= f).outcome s = (.ok b, s') ↔
      ∃ a m, x.outcome s = (.ok a, m) ∧ (f a).outcome m = (.ok b, s') := by
  rw [outcome_bind]
  rcases x.outcome s with ⟨e | a, m⟩
  · simp
  · constructor
    · intro rest
      exact ⟨a, m, rfl, rest⟩
    · rintro ⟨_, _, same, rest⟩
      cases same
      exact rest

theorem of_except_bind_ends {x : Except QueryError α} {f : α → Steps σ β} {s s' : σ} {b : β} :
    (ofExcept x >>= f).outcome s = (.ok b, s') ↔
      ∃ a, x = .ok a ∧ (f a).outcome s = (.ok b, s') := by
  rw [bind_ends]
  constructor
  · rintro ⟨a, m, step, rest⟩
    cases step
    exact ⟨a, rfl, rest⟩
  · rintro ⟨a, step, rest⟩
    exact ⟨a, s, by rw [step, outcome_of_except], rest⟩

theorem of_except_ends {x : Except QueryError α} {s s' : σ} {a : α} :
    (ofExcept x).outcome s = (.ok a, s') ↔ x = .ok a ∧ s' = s := by
  rw [outcome_of_except, Prod.mk.injEq, eq_comm (a := s)]

theorem pure_ends {a b : α} {s s' : σ} :
    (pure a : Steps σ α).outcome s = (.ok b, s') ↔ b = a ∧ s' = s := by
  rw [outcome_pure, Prod.mk.injEq, Except.ok.injEq, eq_comm (a := a), eq_comm (a := s)]

theorem throw_ends {e : QueryError} {a : α} {s s' : σ} :
    ¬ (throw e : Steps σ α).outcome s = (.ok a, s') := by
  simp

theorem get_bind_outcome (f : σ → Steps σ β) (s : σ) :
    ((get : Steps σ σ) >>= f).outcome s = (f s).outcome s := rfl

theorem commit_eq (x : Steps σ α) (s : σ) :
    x.commit s =
      match x.outcome s with
      | (.ok a, s) => .ok (a, s)
      | (.error e, _) => .error e := rfl

theorem commit_ok {x : Steps σ α} {s s' : σ} {a : α} :
    x.commit s = .ok (a, s') ↔ x.outcome s = (.ok a, s') := by
  rw [commit_eq]
  rcases x.outcome s with ⟨e | b, m⟩ <;> simp

end Steps

end WikiQuery
