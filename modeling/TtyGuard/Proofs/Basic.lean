/-
# TtyGuard.Proofs.Basic — results that may be errors, and lists of keys and values

Two facts that the rest of the theory takes for granted: `bind_eq_ok` peels a computation apart step
by step, and `lookup_map_snd` looks a key up in a list whose values have been changed.
-/

namespace TtyGuard

/-- A computation in two parts succeeds if both do. -/
theorem bind_eq_ok {ε α β : Type} {x : Except ε α} {f : α → Except ε β} {b : β} :
    (x >>= f) = .ok b ↔ ∃ a, x = .ok a ∧ f a = .ok b := by
  cases x with
  | error e => simp [bind, Except.bind]
  | ok a => simp [bind, Except.bind]

theorem lookup_map_snd {α β : Type} [BEq α] (l : List (α × β)) (f : β → β) (a : α) :
    (l.map fun x => (x.1, f x.2)).lookup a = (l.lookup a).map f := by
  induction l with
  | nil => rfl
  | cons x l ih =>
    rw [List.map_cons, List.lookup_cons, List.lookup_cons, ih]
    split
    · rfl
    · rfl

end TtyGuard
