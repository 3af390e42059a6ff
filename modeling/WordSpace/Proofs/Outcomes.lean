import Mathlib.Data.List.Forall2

/-!
Outcomes: values, or errors in their place.

A function that is applied to an outcome leaves errors as they are (`exists_of_map_eq_ok`). A list
that is gone through has an outcome for each member (`mapM_eq_ok_iff_forall₂`), or is gone through
in vain if there is an error for one of them (`mapM_eq_error_iff`).
-/

namespace WordSpace

variable {ε α β : Type}

theorem exists_of_map_eq_ok {f : α → β} {x : Except ε α} {b : β} (ok : f <$> x = .ok b) :
    ∃ a, x = .ok a ∧ f a = b := by
  cases x with
  | error error => cases ok
  | ok a => exact ⟨a, rfl, Except.ok.inj ok⟩

theorem exists_eq_ok_iff {x : Except ε α} : (∃ a, x = .ok a) ↔ ¬∃ error, x = .error error := by
  cases x with
  | error error => simp
  | ok a => simp

theorem mapM_eq_ok_iff_forall₂ {f : α → Except ε β} {xs : List α} {ys : List β} :
    xs.mapM f = .ok ys ↔ List.Forall₂ (fun x y => f x = .ok y) xs ys := by
  induction xs generalizing ys with
  | nil =>
    rw [List.mapM_nil, List.forall₂_nil_left_iff]
    exact ⟨fun h => (Except.ok.inj h).symm, fun h => congrArg Except.ok h.symm⟩
  | cons x xs ih =>
    rw [List.mapM_cons, List.forall₂_cons_left_iff]
    cases head : f x with
    | error error => simp [bind, Except.bind]
    | ok y =>
      cases tail : xs.mapM f with
      | error error =>
        have none (ys : List β) : ¬List.Forall₂ (fun x y => f x = .ok y) xs ys := fun all => by
          rw [ih.2 all] at tail
          cases tail
        simp [bind, Except.bind, none]
      | ok rest =>
        have rests (ys : List β) : List.Forall₂ (fun x y => f x = .ok y) xs ys ↔ rest = ys := by
          rw [← ih, tail, Except.ok.injEq]
        simp [bind, Except.bind, pure, Except.pure, rests, eq_comm]

theorem exists_of_forall₂ {R : α → β → Prop} {xs : List α} {ys : List β}
    (all : List.Forall₂ R xs ys) {x : α} (member : x ∈ xs) : ∃ y, R x y := by
  induction all with
  | nil => cases member
  | cons head _ ih =>
    cases member with
    | head => exact ⟨_, head⟩
    | tail _ member => exact ih member

/-- A list is gone through in vain as soon as there is an error for one of its members, if there is
one error only. -/
theorem mapM_eq_error_iff [Subsingleton ε] {f : α → Except ε β} {error : ε} {xs : List α} :
    xs.mapM f = .error error ↔ ∃ x ∈ xs, f x = .error error := by
  induction xs with
  | nil => simp [pure, Except.pure]
  | cons x xs ih =>
    rw [List.mapM_cons, List.exists_mem_cons_iff, ← ih]
    cases f x with
    | error other => simp [bind, Except.bind, Subsingleton.elim other error]
    | ok y =>
      cases xs.mapM f with
      | error other => simp [bind, Except.bind]
      | ok ys => simp [bind, Except.bind, pure, Except.pure]

end WordSpace
