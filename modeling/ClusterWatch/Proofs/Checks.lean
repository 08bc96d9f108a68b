import Mathlib.Data.List.Forall2

/-!
Computations that can be refused: what follows when one succeeds.
-/

namespace ClusterWatch

variable {ε α β : Type}

theorem bind_eq_ok_iff {x : Except ε α} {f : α → Except ε β} {b : β} :
    (x >>= f) = .ok b ↔ ∃ a, x = .ok a ∧ f a = .ok b := by
  cases x with
  | error e =>
      constructor
      · intro h
        cases h
      · rintro ⟨a, ha, _⟩
        cases ha
  | ok a =>
      constructor
      · intro h
        exact ⟨a, rfl, h⟩
      · rintro ⟨a', ha, hf⟩
        cases ha
        exact hf

theorem throw_bind_ne_ok {e : ε} {f : α → Except ε β} {b : β} :
    (throw e >>= f) ≠ .ok b := by
  intro h
  cases h

theorem ite_error_eq_ok_iff {bad : Prop} [Decidable bad] {e : ε} {x : Except ε β} {b : β} :
    (if bad then .error e else x) = .ok b ↔ ¬bad ∧ x = .ok b := by
  split
  · next hbad => exact ⟨nofun, fun h => absurd hbad h.1⟩
  · next hgood => exact (and_iff_right hgood).symm

theorem mapError_eq_ok_iff {ε' : Type} {x : Except ε α} {f : ε → ε'} {a : α} :
    x.mapError f = .ok a ↔ x = .ok a := by
  cases x <;> simp [Except.mapError]

theorem toOption_eq_some_iff {x : Except ε α} {a : α} : x.toOption = some a ↔ x = .ok a := by
  cases x <;> simp [Except.toOption]

/-- Where all checks of a list succeed, each gives its element's result. -/
theorem forall₂_of_mapM_eq_ok {f : α → Except ε β} {as : List α} {bs : List β}
    (h : as.mapM f = .ok bs) : List.Forall₂ (fun a b => f a = .ok b) as bs := by
  induction as generalizing bs with
  | nil =>
      cases h
      exact List.Forall₂.nil
  | cons a as ih =>
      rw [List.mapM_cons, bind_eq_ok_iff] at h
      obtain ⟨b, hb, hrest⟩ := h
      obtain ⟨bs', hbs, hcons⟩ := bind_eq_ok_iff.1 hrest
      cases hcons
      exact List.Forall₂.cons hb (ih hbs)

end ClusterWatch
