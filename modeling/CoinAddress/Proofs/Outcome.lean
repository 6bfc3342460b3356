import CoinAddress.Outcome
import Mathlib.Data.List.Forall2

/-!
# Outcomes of traversals

A traversal succeeds or fails as the computation does on the elements, one after another.
-/

namespace CoinAddress.Outcome

variable {ε α β : Type}

/-- A traversal succeeds if the computation does on every element, with the results in order. -/
lemma mapM_eq_ok_iff {f : α → Except ε β} {as : List α} {bs : List β} :
    as.mapM f = .ok bs ↔ List.Forall₂ (fun a b => f a = .ok b) as bs := by
  induction as generalizing bs with
  | nil =>
    rw [List.mapM_nil, List.forall₂_nil_left_iff]
    exact ⟨fun eq => (Except.ok.inj eq).symm, fun eq => eq ▸ rfl⟩
  | cons a as ih =>
    rw [List.mapM_cons, bind_eq_ok_iff]
    constructor
    · rintro ⟨b, first, eq⟩
      obtain ⟨rest, others, eq⟩ := bind_eq_ok_iff.mp eq
      rw [← Except.ok.inj eq]
      exact .cons first (ih.mp others)
    · intro all
      cases all with
      | cons first others => exact ⟨_, first, bind_eq_ok_iff.mpr ⟨_, ih.mpr others, rfl⟩⟩

/-- A traversal fails with the error of the first element on which the computation fails. -/
lemma mapM_eq_error_iff {f : α → Except ε β} {as : List α} {e : ε} :
    as.mapM f = .error e ↔ ∃ earlier a later, as = earlier ++ a :: later ∧
      (∀ other ∈ earlier, ∃ b, f other = .ok b) ∧ f a = .error e := by
  induction as with
  | nil => exact ⟨nofun, fun ⟨_, _, _, split, _⟩ => absurd split.symm (by simp)⟩
  | cons a as ih =>
    rw [List.mapM_cons, bind_eq_error_iff]
    constructor
    · rintro (first | ⟨b, first, failure⟩)
      · exact ⟨[], a, as, rfl, nofun, first⟩
      · rcases bind_eq_error_iff.mp failure with rest | ⟨_, _, none⟩
        · obtain ⟨earlier, a', later, rfl, passed, failed⟩ := ih.mp rest
          have passed := List.forall_mem_cons.mpr ⟨⟨b, first⟩, passed⟩
          exact ⟨a :: earlier, a', later, rfl, passed, failed⟩
        · cases none
    · rintro ⟨earlier, a', later, split, passed, failed⟩
      cases earlier with
      | nil =>
        cases split
        exact .inl failed
      | cons head earlier =>
        cases split
        obtain ⟨⟨b, first⟩, passed⟩ := List.forall_mem_cons.mp passed
        have rest := ih.mpr ⟨earlier, a', later, rfl, passed, failed⟩
        exact .inr ⟨b, first, bind_eq_error_iff.mpr (.inl rest)⟩

end CoinAddress.Outcome
