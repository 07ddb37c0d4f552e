import WikiQuery.Error

/- Steps over a state. A step that fails leaves the state as it had made it until then. -/
set_option autoImplicit false

namespace WikiQuery

abbrev Steps (σ α : Type) := ExceptT QueryError (StateM σ) α

namespace Steps

variable {σ α : Type}

def ofExcept (x : Except QueryError α) : Steps σ α := ExceptT.mk (pure x)

def commit (x : Steps σ α) (s : σ) : Except QueryError (α × σ) :=
  match x.run s with
  | (.ok a, s) => .ok (a, s)
  | (.error e, _) => .error e

end Steps

end WikiQuery
