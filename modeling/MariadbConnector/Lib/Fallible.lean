import Mathlib

/-! Fallible maps over a list in the `Except` monad: where every step succeeds, so does the map,
with one result per element. -/

namespace Fallible

variable {ε α β : Type}

/-- A fallible map succeeds where each step does; it returns one result per element, and each
result has the property the steps' results have. -/
theorem mapM_ok {f : α → Except ε β} {P : β → Prop} :
    ∀ l : List α, (∀ a ∈ l, ∃ b, f a = .ok b ∧ P b) →
      ∃ bs, l.mapM f = .ok bs ∧ bs.length = l.length ∧ ∀ b ∈ bs, P b
  | [], _ => ⟨[], rfl, rfl, by simp⟩
  | a :: l, h => by
    obtain ⟨b, hb, hP⟩ := h a List.mem_cons_self
    obtain ⟨bs, hbs, hlen, hPs⟩ := mapM_ok l fun a ha => h a (List.mem_cons_of_mem _ ha)
    refine ⟨b :: bs, ?_, by simp [hlen], List.forall_mem_cons.mpr ⟨hP, hPs⟩⟩
    rw [List.mapM_cons, hb, hbs]
    rfl

end Fallible
