import Mathlib.Algebra.Order.Group.Nat

/-!
# Iterators

An iterator is a function `next : σ → Option (α × σ)` that gives an item and the
iterator for the rest, or nothing at the end. `Yields next s items` says that a loop
over it comes to its end, with these items; `collect next fuel s` computes the items
of at most `fuel` rounds. Where every round makes a measure smaller, a loop ends, and
enough fuel collects all of it (`yields_collect`).
-/

namespace Iterator

variable {σ α : Type}

def collect (next : σ → Option (α × σ)) : ℕ → σ → List α
  | 0, _ => []
  | fuel + 1, s =>
    match next s with
    | none => []
    | some (a, s') => a :: collect next fuel s'

inductive Yields (next : σ → Option (α × σ)) : σ → List α → Prop
  | nil {s : σ} (h : next s = none) : Yields next s []
  | cons {s s' : σ} {a : α} {items : List α} (h : next s = some (a, s'))
      (rest : Yields next s' items) : Yields next s (a :: items)

variable {next : σ → Option (α × σ)}

/-- With an invariant under which every round makes the measure smaller, as many
rounds as the measure says collect all items. -/
lemma yields_collect {P : σ → Prop} (size : σ → ℕ)
    (hround : ∀ s a s', P s → next s = some (a, s') → P s' ∧ size s' < size s)
    {fuel : ℕ} {s : σ} (h : P s) (hfuel : size s < fuel) : Yields next s (collect next fuel s) := by
  induction fuel generalizing s with
  | zero => exact absurd hfuel (Nat.not_lt_zero _)
  | succ _ ih =>
    cases hn : next s with
    | none =>
      rw [collect, hn]
      exact .nil hn
    | some round =>
      obtain ⟨hr, _⟩ := hround s round.1 round.2 h hn
      rw [collect, hn]
      exact .cons hn (ih hr (by omega))

end Iterator
