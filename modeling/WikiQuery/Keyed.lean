/- Finite maps whose entries carry their own keys. -/
set_option autoImplicit false

namespace WikiQuery

@[ext] structure Keyed (α κ : Type) (key : α → κ) where
  entries : List α
  distinct : (entries.map key).Nodup

namespace Keyed

variable {α κ : Type} [DecidableEq κ] {key : α → κ}

def empty : Keyed α κ key := ⟨[], List.nodup_nil⟩

def get? (m : Keyed α κ key) (k : κ) : Option α := m.entries.find? fun a => key a = k

def contains (m : Keyed α κ key) (k : κ) : Bool := (m.get? k).isSome

def keys (m : Keyed α κ key) : List κ := m.entries.map key

def placed (m : Keyed α κ key) (a : α) : List α :=
  if m.contains (key a) then m.entries.map fun b => if key b = key a then a else b
  else m.entries ++ [a]

theorem contains_iff {m : Keyed α κ key} {k : κ} : m.contains k = true ↔ k ∈ m.keys := by
  simp [contains, get?, keys]

theorem placed_distinct (m : Keyed α κ key) (a : α) : ((m.placed a).map key).Nodup := by
  by_cases known : m.contains (key a) = true
  · have same : (key ∘ fun b => if key b = key a then a else b) = key := by
      funext b
      by_cases own : key b = key a <;> simp [own]
    rw [placed, if_pos known, List.map_map, same]
    exact m.distinct
  · rw [placed, if_neg known, List.map_append, List.nodup_append]
    refine ⟨m.distinct, by simp, ?_⟩
    intro k member k' last same
    rw [List.map_singleton, List.mem_singleton] at last
    rw [same, last] at member
    exact known (contains_iff.mpr member)

def insert (m : Keyed α κ key) (a : α) : Keyed α κ key := ⟨m.placed a, m.placed_distinct a⟩

theorem insert_new {m : Keyed α κ key} {a : α} (new : key a ∉ m.keys) :
    (m.insert a).entries = m.entries ++ [a] :=
  if_neg (mt contains_iff.mp new)

theorem insert_known {m : Keyed α κ key} {a : α} (known : key a ∈ m.keys) :
    (m.insert a).entries = m.entries.map fun b => if key b = key a then a else b :=
  if_pos (contains_iff.mpr known)

end Keyed

end WikiQuery
