/-!
Changing the first element of a list that satisfies a test.

Snapshots keep named entries in lists, where a lookup means the first entry of a name. Changing
that entry leaves all others, and the order, alone.
-/

namespace ClusterWatch

variable {α β : Type}

/-- Changes the first element that satisfies `p`, if there is one. -/
def modifyFirst (p : α → Bool) (f : α → α) : List α → List α
  | [] => []
  | a :: as => if p a then f a :: as else a :: modifyFirst p f as

@[simp]
theorem length_modifyFirst (p : α → Bool) (f : α → α) (as : List α) :
    (modifyFirst p f as).length = as.length := by
  induction as with
  | nil => rfl
  | cons a as ih =>
    rw [modifyFirst]
    split
    · rfl
    · simp [ih]

/-- The changed element is in the place where the test finds the first. -/
theorem modifyFirst_eq_modify {p : α → Bool} {as : List α} {place : Nat}
    (h : as.findIdx? p = some place) (f : α → α) : modifyFirst p f as = as.modify place f := by
  induction as generalizing place with
  | nil => cases h
  | cons a as ih =>
      rw [List.findIdx?_cons] at h
      rw [modifyFirst]
      split at h
      · next hp =>
          obtain rfl := Option.some.inj h
          rw [if_pos hp, List.modify_zero_cons]
      · next hp =>
          obtain ⟨behind, hbehind, rfl⟩ := Option.map_eq_some_iff.1 h
          rw [if_neg hp, ih hbehind, List.modify_succ_cons]

/-- Elements in front that fail the test stay as they are. -/
theorem modifyFirst_append_of_all_not {p : α → Bool} {as : List α} (h : ∀ a ∈ as, p a = false)
    (f : α → α) (bs : List α) : modifyFirst p f (as ++ bs) = as ++ modifyFirst p f bs := by
  induction as with
  | nil => rfl
  | cons a as ih =>
      rw [List.cons_append, modifyFirst, if_neg (by simp [h a List.mem_cons_self]),
        ih fun b hb => h b (List.mem_cons_of_mem a hb)]
      rfl

/-- Only the change of the first element that satisfies the test matters. -/
theorem modifyFirst_congr {p : α → Bool} {f g : α → α} {as : List α}
    (h : (as.find? p).map f = (as.find? p).map g) : modifyFirst p f as = modifyFirst p g as := by
  induction as with
  | nil => rfl
  | cons a as ih =>
      rw [modifyFirst, modifyFirst]
      by_cases hp : p a
      · simpa [hp] using h
      · simpa [hp] using ih (by simpa [hp] using h)

/-- If the change is none, the list stays as it is. -/
theorem modifyFirst_of_fixed {p : α → Bool} {f : α → α} {as : List α}
    (h : ∀ a, as.find? p = some a → f a = a) : modifyFirst p f as = as := by
  induction as with
  | nil => rfl
  | cons a as ih =>
      rw [modifyFirst]
      by_cases hp : p a = true
      · rw [if_pos hp, h a (List.find?_cons_of_pos hp)]
      · rw [if_neg hp, ih fun b hb => h b (by rw [List.find?_cons_of_neg hp, hb])]

/-- What satisfies the test first is what has changed. -/
theorem find?_modifyFirst_self {p : α → Bool} {f : α → α} (hf : ∀ a, p a → p (f a))
    (as : List α) : (modifyFirst p f as).find? p = (as.find? p).map f := by
  induction as with
  | nil => rfl
  | cons a as ih =>
      rw [modifyFirst]
      by_cases hp : p a
      · simp [hp, hf a hp]
      · simp [hp, ih]

/-- A test that fails before and after the change finds what it found. -/
theorem find?_modifyFirst_of_not {p q : α → Bool} {f : α → α}
    (hq : ∀ a, p a → q a = false ∧ q (f a) = false) (as : List α) :
    (modifyFirst p f as).find? q = as.find? q := by
  induction as with
  | nil => rfl
  | cons a as ih =>
      rw [modifyFirst]
      by_cases hp : p a
      · simp [hp, hq a hp]
      · simp [hp, List.find?_cons, ih]

/-- A test that the change keeps finds what it found, or what has become of that. -/
theorem find?_modifyFirst_cases {p q : α → Bool} {f : α → α} (hq : ∀ a, q (f a) = q a)
    (as : List α) :
    (modifyFirst p f as).find? q = as.find? q ∨
      (modifyFirst p f as).find? q = (as.find? q).map f := by
  induction as with
  | nil => exact Or.inl rfl
  | cons a as ih =>
      rw [modifyFirst]
      cases hp : p a <;> cases hqa : q a <;> simp [hq, hqa, ih]

theorem key_of_find? {κ : Type} [DecidableEq κ] {key : α → κ} {k : κ} {as : List α} {a : α}
    (h : as.find? (fun a => decide (key a = k)) = some a) : key a = k := by
  have hsome := List.find?_some h
  exact of_decide_eq_true hsome

theorem mem_modifyFirst {p : α → Bool} {f : α → α} {as : List α} {b : α}
    (h : b ∈ modifyFirst p f as) : b ∈ as ∨ (as.find? p).map f = some b := by
  induction as with
  | nil => exact Or.inl h
  | cons a as ih =>
      rw [modifyFirst] at h
      split at h
      · next hp =>
          rcases List.mem_cons.1 h with rfl | h
          · exact Or.inr (by simp [hp])
          · exact Or.inl (List.mem_cons_of_mem a h)
      · next hp =>
          rcases List.mem_cons.1 h with rfl | h
          · exact Or.inl List.mem_cons_self
          · rcases ih h with h | h
            · exact Or.inl (List.mem_cons_of_mem a h)
            · exact Or.inr (by simpa [hp] using h)

/-- An element that fails the test stays in its place. -/
theorem getElem?_modifyFirst_of_not {p : α → Bool} {as : List α} {place : Nat} {a : α}
    (hget : as[place]? = some a) (ha : p a = false) (f : α → α) :
    (modifyFirst p f as)[place]? = some a := by
  induction as generalizing place with
  | nil => cases hget
  | cons b bs ih =>
      rw [modifyFirst]
      cases place with
      | zero =>
          obtain rfl := Option.some.inj hget
          rw [if_neg (by simp [ha])]
          rfl
      | succ place =>
          split
          · exact hget
          · exact ih hget

/-- An element stays, unless it is the changed one. -/
theorem mem_modifyFirst_of_mem {p : α → Bool} {f : α → α} {as : List α} {b : α} (h : b ∈ as) :
    b ∈ modifyFirst p f as ∨ f b ∈ modifyFirst p f as := by
  induction as with
  | nil => cases h
  | cons a as ih =>
      rw [modifyFirst]
      split
      · rcases List.mem_cons.1 h with rfl | h
        · exact Or.inr List.mem_cons_self
        · exact Or.inl (List.mem_cons_of_mem _ h)
      · rcases List.mem_cons.1 h with rfl | h
        · exact Or.inl List.mem_cons_self
        · exact (ih h).imp (List.mem_cons_of_mem a) (List.mem_cons_of_mem a)

/-- An element in front that satisfies the test leaves what follows as it is. -/
theorem modifyFirst_append_of_exists {p : α → Bool} {as : List α} (h : ∃ a ∈ as, p a = true)
    (f : α → α) (bs : List α) : modifyFirst p f (as ++ bs) = modifyFirst p f as ++ bs := by
  induction as with
  | nil =>
      obtain ⟨a, ha, -⟩ := h
      cases ha
  | cons a as ih =>
      rw [List.cons_append, modifyFirst, modifyFirst]
      by_cases hp : p a = true
      · rw [if_pos hp, if_pos hp, List.cons_append]
      · have hrest : ∃ b ∈ as, p b = true := by
          obtain ⟨b, hb, hpb⟩ := h
          rcases List.mem_cons.1 hb with rfl | hb
          · exact absurd hpb hp
          · exact ⟨b, hb, hpb⟩
        rw [if_neg hp, if_neg hp, ih hrest, List.cons_append]

/-- One element in its place: it changes if it is the first that satisfies the test, and else only
others do. -/
theorem modifyFirst_append_cons_cases (p : α → Bool) (f : α → α) (as : List α) (a : α)
    (bs : List α) :
    (((∀ x ∈ as, p x = false) ∧ p a = true) ∧
        modifyFirst p f (as ++ a :: bs) = as ++ f a :: bs) ∨
      (¬((∀ x ∈ as, p x = false) ∧ p a = true) ∧
        ∃ as' bs', modifyFirst p f (as ++ a :: bs) = as' ++ a :: bs' ∧
          as'.length = as.length ∧
          ∀ x ∈ as' ++ bs', x ∈ as ++ bs ∨ ∃ y ∈ as ++ bs, x = f y) := by
  by_cases has : ∀ x ∈ as, p x = false
  · rw [modifyFirst_append_of_all_not has, modifyFirst]
    by_cases hp : p a = true
    · exact Or.inl ⟨⟨has, hp⟩, by rw [if_pos hp]⟩
    · refine Or.inr ⟨fun h => hp h.2, as, modifyFirst p f bs, by rw [if_neg hp], rfl, ?_⟩
      intro x hx
      rcases List.mem_append.1 hx with hx | hx
      · exact Or.inl (List.mem_append_left bs hx)
      · rcases mem_modifyFirst hx with hx | hx
        · exact Or.inl (List.mem_append_right as hx)
        · obtain ⟨y, hy, rfl⟩ := Option.map_eq_some_iff.1 hx
          have hmem := List.mem_of_find?_eq_some hy
          exact Or.inr ⟨y, List.mem_append_right as hmem, rfl⟩
  · have hexists : ∃ x ∈ as, p x = true := by
      simpa using has
    rw [modifyFirst_append_of_exists hexists]
    refine Or.inr ⟨fun h => has h.1, modifyFirst p f as, bs, rfl, length_modifyFirst p f as, ?_⟩
    intro x hx
    rcases List.mem_append.1 hx with hx | hx
    · rcases mem_modifyFirst hx with hx | hx
      · exact Or.inl (List.mem_append_left bs hx)
      · obtain ⟨y, hy, rfl⟩ := Option.map_eq_some_iff.1 hx
        have hmem := List.mem_of_find?_eq_some hy
        exact Or.inr ⟨y, List.mem_append_left bs hmem, rfl⟩
    · exact Or.inl (List.mem_append_right as hx)

/-- Seen through a filter that passes all that the test finds, the change is the same. -/
theorem filter_modifyFirst {p q : α → Bool} {f : α → α}
    (hq : ∀ a, p a = true → q a = true ∧ q (f a) = true) (as : List α) :
    (modifyFirst p f as).filter q = modifyFirst p f (as.filter q) := by
  induction as with
  | nil => rfl
  | cons a as ih =>
      rw [modifyFirst]
      by_cases hp : p a = true
      · rw [if_pos hp, List.filter_cons_of_pos (hq a hp).2, List.filter_cons_of_pos (hq a hp).1,
          modifyFirst, if_pos hp]
      · rw [if_neg hp, List.filter_cons, List.filter_cons, ih]
        split
        · rw [modifyFirst, if_neg hp]
        · rfl

/-- Through a filter that passes nothing of that, the change is not seen. -/
theorem filter_modifyFirst_of_not {p q : α → Bool} {f : α → α}
    (hq : ∀ a, p a = true → q a = false ∧ q (f a) = false) (as : List α) :
    (modifyFirst p f as).filter q = as.filter q := by
  induction as with
  | nil => rfl
  | cons a as ih =>
      rw [modifyFirst]
      by_cases hp : p a = true
      · simp [hp, hq a hp]
      · simp [hp, List.filter_cons, ih]

theorem map_modifyFirst {p : α → Bool} {f : α → α} {g : α → β} (hg : ∀ a, p a → g (f a) = g a)
    (as : List α) : (modifyFirst p f as).map g = as.map g := by
  induction as with
  | nil => rfl
  | cons a as ih =>
      rw [modifyFirst]
      by_cases hp : p a
      · simp [hp, hg a hp]
      · simp [hp, ih]

/-- A change over another change of the same element is seen as if it were alone, where the view
does not tell them apart. -/
theorem map_modifyFirst_modifyFirst {p : α → Bool} {f g : α → α} {v : α → β}
    (hf : ∀ a, p a = true → p (f a) = true) (hv : ∀ a, p a = true → v (g (f a)) = v (g a))
    (as : List α) :
    (modifyFirst p g (modifyFirst p f as)).map v = (modifyFirst p g as).map v := by
  induction as with
  | nil => rfl
  | cons a as ih =>
      rw [modifyFirst, modifyFirst]
      by_cases hp : p a = true
      · rw [if_pos hp, if_pos hp, modifyFirst, if_pos (hf a hp), List.map_cons, List.map_cons,
          hv a hp]
      · rw [if_neg hp, if_neg hp, modifyFirst, if_neg hp, List.map_cons, List.map_cons, ih]

end ClusterWatch
