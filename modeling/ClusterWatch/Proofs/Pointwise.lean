import ClusterWatch.FirstMatch
import Mathlib.Data.List.Forall2

/-!
Lists compared place by place: what a step that keeps every element in its place does to the whole.
-/

namespace ClusterWatch

variable {α β γ : Type}

theorem forall₂_trans {R : α → β → Prop} {S : β → γ → Prop} {T : α → γ → Prop}
    (htrans : ∀ a b c, R a b → S b c → T a c) {as : List α} {bs : List β} {cs : List γ}
    (hR : List.Forall₂ R as bs) (hS : List.Forall₂ S bs cs) : List.Forall₂ T as cs := by
  induction hR generalizing cs with
  | nil =>
      cases hS
      exact List.Forall₂.nil
  | cons hab _ ih =>
      cases hS with
      | cons hbc hrest => exact List.Forall₂.cons (htrans _ _ _ hab hbc) (ih hrest)

theorem map_eq_self {f : α → α} {as : List α} (h : ∀ a ∈ as, f a = a) : as.map f = as :=
  (List.map_congr_left h).trans (List.map_id as)

/-- Changing the first element that satisfies a test relates all elements to themselves and that
one to what it became. -/
theorem forall₂_modifyFirst {R : α → α → Prop} {p : α → Bool} {f : α → α} {as : List α}
    (hrefl : ∀ a, R a a) (hchange : ∀ a, as.find? p = some a → R a (f a)) :
    List.Forall₂ R as (modifyFirst p f as) := by
  induction as with
  | nil => exact List.Forall₂.nil
  | cons a as ih =>
      rw [modifyFirst]
      by_cases hp : p a = true
      · rw [if_pos hp]
        exact List.Forall₂.cons (hchange a (List.find?_cons_of_pos hp))
          (List.forall₂_same.2 fun b _ => hrefl b)
      · rw [if_neg hp]
        refine List.Forall₂.cons (hrefl a) (ih fun b hb => hchange b ?_)
        rw [List.find?_cons_of_neg hp, hb]

/-- Changing the first element that satisfies a test, in two related lists whose elements satisfy it
in the same places. -/
theorem forall₂_modifyFirst_modifyFirst {R : α → β → Prop} {p : α → Bool} {q : β → Bool}
    {f : α → α} {g : β → β} {as : List α} {bs : List β} (h : List.Forall₂ R as bs)
    (htest : ∀ a b, R a b → p a = q b) (hchange : ∀ a b, R a b → R (f a) (g b)) :
    List.Forall₂ R (modifyFirst p f as) (modifyFirst q g bs) := by
  induction h with
  | nil => exact List.Forall₂.nil
  | @cons a b _ _ hab hrest ih =>
      rw [modifyFirst, modifyFirst, htest a b hab]
      split
      · exact List.Forall₂.cons (hchange a b hab) hrest
      · exact List.Forall₂.cons hab ih

/-- A view that related elements share is the same for the whole lists. -/
theorem map_eq_of_forall₂ {R : α → β → Prop} {f : α → γ} {g : β → γ} {as : List α} {bs : List β}
    (h : List.Forall₂ R as bs) (hfg : ∀ a b, R a b → f a = g b) : as.map f = bs.map g := by
  induction h with
  | nil => rfl
  | cons hab _ ih => rw [List.map_cons, List.map_cons, hfg _ _ hab, ih]

/-- Lists with the same keys in the same places look the same if they do key by key. -/
theorem map_eq_of_filter_map_eq {κ : Type} [DecidableEq κ] (key : α → κ) {f : α → β}
    {as bs : List α} (hkeys : as.map key = bs.map key)
    (h : ∀ k, (as.filter (key · = k)).map f = (bs.filter (key · = k)).map f) :
    as.map f = bs.map f := by
  induction as generalizing bs with
  | nil => rw [List.map_eq_nil_iff.1 hkeys.symm]
  | cons a as ih =>
      cases bs with
      | nil => cases hkeys
      | cons b bs =>
          obtain ⟨hkey, hrest⟩ := List.cons.inj hkeys
          have hhead := h (key a)
          rw [List.filter_cons_of_pos (by simp), List.filter_cons_of_pos (by simp [hkey])] at hhead
          rw [List.map_cons, List.map_cons, (List.cons.inj hhead).1, ih hrest]
          intro k
          have hk := h k
          rw [List.filter_cons, List.filter_cons] at hk
          by_cases heq : key a = k
          · rw [if_pos (by simp [heq]), if_pos (by simp [← hkey, heq])] at hk
            exact (List.cons.inj hk).2
          · rwa [if_neg (by simp [heq]), if_neg (by simp [← hkey, heq])] at hk

/-- What related elements share, both lists hold or neither. -/
theorem exists_mem_iff_of_forall₂ {R : α → β → Prop} {P : α → Prop} {Q : β → Prop} {as : List α}
    {bs : List β} (h : List.Forall₂ R as bs) (hPQ : ∀ a b, R a b → (P a ↔ Q b)) :
    (∃ a ∈ as, P a) ↔ ∃ b ∈ bs, Q b := by
  induction h with
  | nil => simp
  | cons hab _ ih => simp only [List.exists_mem_cons_iff, ih, hPQ _ _ hab]

end ClusterWatch
