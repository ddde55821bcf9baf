import Mathlib

/-! Deleting from a list while walking it by index: `for j in range(j0, j0 + k): del xs[j]`. -/
namespace Sweep

variable {α : Type}

/-- The elements at the odd places of a list: the second, the fourth, and so on. -/
def oddPlaces : List α → List α
  | _ :: b :: rest => b :: oddPlaces rest
  | _ => []

/-- `for j in range(j, j + k): del xs[j]`: the list left, and whether every index was in range
(`false` for the `IndexError` that ends the loop). -/
def sweep : List α → Nat → Nat → List α × Bool
  | xs, _, 0 => (xs, true)
  | xs, j, k + 1 => if j < xs.length then sweep (xs.eraseIdx j) (j + 1) k else (xs, false)

@[simp] theorem oddPlaces_nil : oddPlaces ([] : List α) = [] := rfl

@[simp] theorem oddPlaces_singleton (a : α) : oddPlaces [a] = [] := rfl

@[simp] theorem oddPlaces_cons_cons (a b : α) (rest : List α) :
    oddPlaces (a :: b :: rest) = b :: oddPlaces rest := rfl

theorem oddPlaces_map {β : Type} (f : α → β) :
    ∀ xs : List α, oddPlaces (xs.map f) = (oddPlaces xs).map f
  | [] => rfl
  | [_] => rfl
  | _ :: _ :: rest => by simp [oddPlaces_map f rest]

theorem oddPlaces_eq_nil_iff (xs : List α) : oddPlaces xs = [] ↔ xs.length ≤ 1 := by
  match xs with
  | [] => simp
  | [_] => simp
  | _ :: _ :: _ => simp

theorem eraseIdx_length_append (pre : List α) (a : α) (rest : List α) :
    (pre ++ a :: rest).eraseIdx pre.length = pre ++ rest := by
  rw [List.eraseIdx_append_of_length_le (le_refl _), Nat.sub_self, List.eraseIdx_cons_zero]

/-- The walk with `pre` already walked: of the rest, the elements at odd places are kept, and the
loop ends in range exactly when nothing is left. -/
theorem sweep_append : ∀ (rest pre : List α),
    sweep (pre ++ rest) pre.length (pre.length + rest.length) =
      (pre ++ oddPlaces rest, decide (pre ++ oddPlaces rest = []))
  | [], pre => by
    cases pre with
    | nil => rfl
    | cons b pre =>
      -- one pass is left and its index is the length of the list
      simp [sweep]
  | [a], pre => by
    have hdel : sweep (pre ++ [a]) pre.length (pre.length + 1) = sweep pre (pre.length + 1)
        pre.length := by
      rw [sweep, if_pos (by simp), eraseIdx_length_append, List.append_nil]
    rw [List.length_singleton, hdel]
    cases pre with
    | nil => rfl
    | cons b pre => simp [sweep]
  | a :: b :: rest, pre => by
    -- the element after the deleted one joins the part already walked
    have hdel : sweep (pre ++ a :: b :: rest) pre.length (pre.length + (rest.length + 2)) =
        sweep ((pre ++ [b]) ++ rest) (pre ++ [b]).length ((pre ++ [b]).length + rest.length) := by
      rw [show pre.length + (rest.length + 2) = (pre.length + rest.length + 1) + 1 by omega, sweep,
        if_pos (by simp), eraseIdx_length_append]
      simp only [List.append_assoc, List.singleton_append, List.length_append,
        List.length_singleton]
      rw [show pre.length + 1 + rest.length = pre.length + rest.length + 1 by omega]
    rw [List.length_cons, List.length_cons, show rest.length + 1 + 1 = rest.length + 2 by omega,
      hdel, sweep_append rest (pre ++ [b])]
    simp

theorem sweep_zero (xs : List α) :
    sweep xs 0 xs.length = (oddPlaces xs, decide (xs.length ≤ 1)) := by
  have h := sweep_append xs []
  simp only [List.length_nil, Nat.zero_add, List.nil_append] at h
  rw [h, decide_eq_decide.mpr (oddPlaces_eq_nil_iff xs)]

end Sweep
