import ClusterWatch.Proofs.Text.Padding
import ClusterWatch.Text.WordEnd

/-!
Raised and lowered letters.

Raising and lowering ASCII letters is not seen by a test that tells no two letters apart. The small
letters of the capitals beyond ASCII are again beyond ASCII, except that of the Kelvin sign, and no
letter is a blank: so lowering a text keeps its blanks, and a text beyond ASCII keeps a character
beyond ASCII or comes to have a `k`. Of the sigmas matters only that all are beyond ASCII.
Main statements: `trim_lowercaseText` and `exists_mem_lowercaseText`.
-/

namespace ClusterWatch.Text

variable {c d : Char} {cs : List Char} {r : CaseRange} {n : Nat}

/-- What is decided for 128 numbers holds of the ASCII characters. -/
theorem forall_ascii {P : Char → Prop} (h : ∀ n < 0x80, P (Char.ofNat n)) (hc : c.toNat < 0x80) :
    P c := by
  rw [← Char.ofNat_toNat c]
  exact h c.toNat hc

theorem toUpper_of_wide (h : 0x80 ≤ c.toNat) : c.toUpper = c := by
  have hlower : ¬('a'.val ≤ c.val ∧ c.val ≤ 'z'.val) := by
    simp [UInt32.le_iff_toNat_le]
    omega
  exact dif_neg hlower

theorem toLower_of_wide (h : 0x80 ≤ c.toNat) : c.toLower = c := by
  have hupper : ¬('A'.val ≤ c.val ∧ c.val ≤ 'Z'.val) := by
    simp [UInt32.le_iff_toNat_le]
    omega
  exact dif_neg hupper

/-- Small letters are raised to letters, and nothing else is raised. -/
theorem toUpper_cases (c : Char) :
    c.toUpper = c ∨ c.isAlpha = true ∧ c.toUpper.isAlpha = true := by
  by_cases hascii : c.toNat < 0x80
  · exact forall_ascii
      (P := fun c => c.toUpper = c ∨ c.isAlpha = true ∧ c.toUpper.isAlpha = true) (by decide) hascii
  · exact Or.inl (toUpper_of_wide (Nat.not_lt.1 hascii))

/-- Capital letters are lowered to letters, and of ASCII nothing else is lowered. -/
theorem toLower_cases (c : Char) :
    c.toLower = c ∨ c.isUpper = true ∧ c.toLower.isAlpha = true := by
  by_cases hascii : c.toNat < 0x80
  · exact forall_ascii
      (P := fun c => c.toLower = c ∨ c.isUpper = true ∧ c.toLower.isAlpha = true) (by decide) hascii
  · exact Or.inl (toLower_of_wide (Nat.not_lt.1 hascii))

theorem isAlpha_of_isUpper (h : c.isUpper = true) : c.isAlpha = true := by
  have halpha : c.isAlpha = (c.isUpper || c.isLower) := rfl
  rw [halpha, h, Bool.true_or]

/-- A test that tells no two letters apart does not see raising. -/
theorem apply_toUpper {α : Type} {p : Char → α} {a : α} (h : ∀ c, c.isAlpha = true → p c = a)
    (c : Char) : p c.toUpper = p c := by
  rcases toUpper_cases c with heq | ⟨hletter, hraised⟩
  · rw [heq]
  · rw [h c hletter, h c.toUpper hraised]

theorem apply_toLower {α : Type} {p : Char → α} {a : α} (h : ∀ c, c.isAlpha = true → p c = a)
    (c : Char) : p c.toLower = p c := by
  rcases toLower_cases c with heq | ⟨hletter, hlowered⟩
  · rw [heq]
  · rw [h c (isAlpha_of_isUpper hletter), h c.toLower hlowered]

theorem isUpper_iff : c.isUpper = true ↔ 65 ≤ c.toNat ∧ c.toNat ≤ 90 := by
  have hupper : c.isUpper = decide ('A'.val ≤ c.val ∧ c.val ≤ 'Z'.val) := rfl
  simp [hupper, UInt32.le_iff_toNat_le]

theorem isLower_iff : c.isLower = true ↔ 97 ≤ c.toNat ∧ c.toNat ≤ 122 := by
  have hlower : c.isLower = (decide ('a'.val ≤ c.val) && decide (c.val ≤ 'z'.val)) := rfl
  simp [hlower, UInt32.le_iff_toNat_le]

theorem bounds_of_isAlpha (h : c.isAlpha = true) :
    (65 ≤ c.toNat ∧ c.toNat ≤ 90) ∨ (97 ≤ c.toNat ∧ c.toNat ≤ 122) := by
  have halpha : c.isAlpha = (c.isUpper || c.isLower) := rfl
  rwa [halpha, Bool.or_eq_true, isUpper_iff, isLower_iff] at h

theorem isBlank_of_isAlpha (h : c.isAlpha = true) : isBlank c = false := by
  have hbounds := bounds_of_isAlpha h
  simp [isBlank]
  omega

theorem isBlank_toUpper (c : Char) : isBlank c.toUpper = isBlank c :=
  apply_toUpper (fun _ => isBlank_of_isAlpha) c

def wideBlanks : List Nat :=
  [0x85, 0xA0, 0x1680] ++ List.range' 0x2000 11 ++ [0x2028, 0x2029, 0x202F, 0x205F, 0x3000]

theorem mem_wideBlanks (hblank : isBlank c = true) (hwide : 0x80 ≤ c.toNat) :
    c.toNat ∈ wideBlanks := by
  simp [isBlank] at hblank
  simp [wideBlanks, List.mem_range'_1]
  omega

/-- The number is that of none of the range's letters, capital or small. -/
def CaseRange.Avoids (r : CaseRange) (n : Nat) : Prop :=
  (n < r.first ∨ r.last < n) ∧ ((n : Int) < r.first + r.shift ∨ r.last + r.shift < (n : Int))

instance (r : CaseRange) (n : Nat) : Decidable (r.Avoids n) :=
  inferInstanceAs (Decidable (_ ∧ _))

theorem avoids_of_mem_wideBlanks : ∀ r ∈ caseRanges, ∀ n ∈ wideBlanks, r.Avoids n := by
  decide +kernel

/-- The small letters are characters beyond ASCII, except that of the Kelvin sign. -/
theorem small_of_mem_caseRanges : ∀ r ∈ caseRanges,
    (0x80 ≤ r.first + r.shift ∧ r.last + r.shift < 0xD800) ∨
      (0xDFFF < r.first + r.shift ∧ r.last + r.shift < 0x110000) ∨
      (r.first = 0x212A ∧ r.last = 0x212A ∧ r.shift = 0x6B - 0x212A) := by
  decide +kernel

theorem bounds_of_holds (h : r.holds n = true) : r.first ≤ n ∧ n ≤ r.last := by
  simp only [CaseRange.holds, Bool.and_eq_true, decide_eq_true_eq] at h
  exact h.1

theorem toNat_small (hr : r ∈ caseRanges) (h : r.holds n = true) :
    ((Char.ofNat ((n : Int) + r.shift).toNat).toNat : Int) = n + r.shift := by
  obtain ⟨hfirst, hlast⟩ := bounds_of_holds h
  have hsmall := small_of_mem_caseRanges r hr
  have hvalid : ((n : Int) + r.shift).toNat.isValidChar := by
    rw [Nat.isValidChar]
    omega
  have hnumber : (Char.ofNat ((n : Int) + r.shift).toNat).toNat = ((n : Int) + r.shift).toNat := by
    rw [Char.ofNat, dif_pos hvalid]
    rfl
  rw [hnumber]
  omega

/-- The small letter of a range is beyond ASCII, or that of the Kelvin sign. -/
theorem eq_k_or_wide (hr : r ∈ caseRanges) (hfirst : r.first ≤ n) (hlast : n ≤ r.last)
    (hd : (d.toNat : Int) = n + r.shift) : d = 'k' ∨ 0x80 ≤ d.toNat := by
  have hnumber : d.toNat = 0x6B ∨ 0x80 ≤ d.toNat := by
    have hsmall := small_of_mem_caseRanges r hr
    omega
  exact hnumber.imp_left fun hk => Char.toNat_inj.1 hk

/-- The lower case of a character: by the rules of ASCII, or two characters, or the small letter of
a range, or the character itself. -/
inductive Lowers (c : Char) : List Char → Prop
  | ascii (h : c.toNat < 0x80) : Lowers c [c.toLower]
  | dotted (h : c.toNat = 0x130) : Lowers c ['i', '\u0307']
  | range {r : CaseRange} {d : Char} (hwide : 0x80 ≤ c.toNat) (hr : r ∈ caseRanges)
      (hfirst : r.first ≤ c.toNat) (hlast : c.toNat ≤ r.last)
      (hd : (d.toNat : Int) = c.toNat + r.shift) : Lowers c [d]
  | same (h : 0x80 ≤ c.toNat) : Lowers c [c]

theorem lowers_lowercase (c : Char) : Lowers c (lowercase c) := by
  by_cases hascii : c.toNat < 0x80
  · rw [lowercase_of_ascii hascii]
    exact .ascii hascii
  · have hwide := Nat.not_lt.1 hascii
    by_cases hdotted : c.toNat = 0x130
    · have hlower : lowercase c = ['i', '\u0307'] := by
        simp [lowercase, hdotted]
      rw [hlower]
      exact .dotted hdotted
    · simp only [lowercase, hascii, hdotted, if_false]
      split
      · next r hrange =>
          have hr := List.mem_of_find?_eq_some hrange
          have hholds := List.find?_some hrange
          obtain ⟨hfirst, hlast⟩ := bounds_of_holds hholds
          exact .range hwide hr hfirst hlast (toNat_small hr hholds)
      · exact .same hwide

namespace Lowers

variable {ds : List Char}

theorem ne_nil (h : Lowers c ds) : ds ≠ [] := by
  cases h <;> exact List.cons_ne_nil _ _

theorem eq_of_isBlank (h : Lowers c ds) (hc : isBlank c = true) : ds = [c] := by
  cases h with
  | ascii =>
      rcases toLower_cases c with heq | ⟨hupper, -⟩
      · rw [heq]
      · rw [isBlank_of_isAlpha (isAlpha_of_isUpper hupper)] at hc
        cases hc
  | dotted hdotted =>
      have hmem := mem_wideBlanks hc (by omega)
      rw [hdotted] at hmem
      exact absurd hmem (by decide)
  | range hwide hr hfirst hlast =>
      have havoids := avoids_of_mem_wideBlanks _ hr _ (mem_wideBlanks hc hwide)
      exact absurd havoids.1 (by omega)
  | same => rfl

theorem isBlank_eq_false (h : Lowers c ds) (hc : isBlank c = false) (hd : d ∈ ds) :
    isBlank d = false := by
  cases h with
  | ascii =>
      rw [List.mem_singleton.1 hd, apply_toLower fun _ => isBlank_of_isAlpha, hc]
  | dotted => rcases List.mem_pair.1 hd with rfl | rfl <;> decide
  | @range r small hwide hr hfirst hlast hsmall =>
      rw [List.mem_singleton.1 hd, Bool.eq_false_iff]
      intro hblank
      rcases eq_k_or_wide hr hfirst hlast hsmall with rfl | hbeyond
      · exact absurd hblank (by decide)
      · have havoids := avoids_of_mem_wideBlanks r hr _ (mem_wideBlanks hblank hbeyond)
        exact absurd havoids.2 (by omega)
  | same => rw [List.mem_singleton.1 hd, hc]

/-- A character beyond ASCII is not lowered to ASCII, except to a `k`. -/
theorem exists_of_wide (h : Lowers c ds) (hc : 0x80 ≤ c.toNat) :
    ∃ d ∈ ds, d = 'k' ∨ 0x80 ≤ d.toNat := by
  cases h with
  | ascii hascii => exact absurd hc (Nat.not_le.2 hascii)
  | dotted => exact ⟨'\u0307', by decide, Or.inr (by decide)⟩
  | @range r small hwide hr hfirst hlast hsmall =>
      exact ⟨small, List.mem_singleton_self small, eq_k_or_wide hr hfirst hlast hsmall⟩
  | same => exact ⟨c, List.mem_singleton_self c, Or.inr hc⟩

end Lowers

/-- Lowering a text keeps its blanks, so it may come before or after trimming. -/
theorem trim_lowercaseAll (cs : List Char) : trim (lowercaseAll cs) = lowercaseAll (trim cs) := by
  apply trim_flatMap
  · intro c hc
    rw [(lowers_lowercase c).eq_of_isBlank hc]
    exact List.forall_mem_singleton.2 hc
  · exact fun c _ => (lowers_lowercase c).ne_nil
  · exact fun c hc d => (lowers_lowercase c).isBlank_eq_false hc

theorem lowercaseAll_of_ascii (h : ∀ c ∈ cs, c.toNat < 0x80) :
    lowercaseAll cs = cs.map Char.toLower := by
  rw [lowercaseAll, List.map_eq_flatMap]
  exact List.flatMap_congr fun c hc => lowercase_of_ascii (h c hc)

/-- A text beyond ASCII, when it is lowered, is beyond ASCII or has a `k`. -/
theorem exists_mem_lowercaseAll (hmem : c ∈ cs) (hwide : 0x80 ≤ c.toNat) :
    ∃ d ∈ lowercaseAll cs, d = 'k' ∨ 0x80 ≤ d.toNat := by
  obtain ⟨d, hd, hodd⟩ := (lowers_lowercase c).exists_of_wide hwide
  exact ⟨d, List.mem_flatMap.2 ⟨c, hmem, hd⟩, hodd⟩

/-- A test that tells no two sigmas apart does not see where words end. -/
theorem map_settleSigmas {α : Type} {p : Char → α} (h : p 'ς' = p 'Σ') (before cs : List Char) :
    (settleSigmas before cs).map p = cs.map p := by
  induction cs generalizing before with
  | nil => rfl
  | cons c cs ih =>
      have hhead : p (if c = 'Σ' ∧ endsWord before cs then 'ς' else c) = p c := by
        split
        · next hsigma => rw [h, hsigma.1]
        · rfl
      rw [settleSigmas, List.map_cons, List.map_cons, hhead, ih]

theorem settleSigmas_of_ascii (h : ∀ c ∈ cs, c.toNat < 0x80) (before : List Char) :
    settleSigmas before cs = cs := by
  induction cs generalizing before with
  | nil => rfl
  | cons c cs ih =>
      have hsigma : ¬(c = 'Σ' ∧ endsWord before cs) := by
        rintro ⟨rfl, -⟩
        exact absurd (h 'Σ' List.mem_cons_self) (by decide)
      rw [settleSigmas, if_neg hsigma, ih fun d hd => h d (List.mem_cons_of_mem c hd)]

theorem trim_lowercaseText (h : IsTrimmed cs) : trim (lowercaseText cs) = lowercaseText cs := by
  have hsettled : IsTrimmed (settleSigmas [] cs) := h.of_map (map_settleSigmas (by decide) [] cs)
  rw [lowercaseText, trim_lowercaseAll, hsettled.trim_eq]

theorem lowercaseText_of_ascii (h : ∀ c ∈ cs, c.toNat < 0x80) :
    lowercaseText cs = cs.map Char.toLower := by
  rw [lowercaseText, settleSigmas_of_ascii h, lowercaseAll_of_ascii h]

theorem exists_mem_lowercaseText (hmem : c ∈ cs) (hwide : 0x80 ≤ c.toNat) :
    ∃ d ∈ lowercaseText cs, d = 'k' ∨ 0x80 ≤ d.toNat := by
  have hsigmas := map_settleSigmas (p := fun d => decide (0x80 ≤ d.toNat)) (by decide) [] cs
  have hsettled : true ∈ (settleSigmas [] cs).map fun d => decide (0x80 ≤ d.toNat) := by
    rw [hsigmas]
    exact List.mem_map.2 ⟨c, hmem, decide_eq_true hwide⟩
  obtain ⟨d, hd, hdwide⟩ := List.mem_map.1 hsettled
  exact exists_mem_lowercaseAll hd (of_decide_eq_true hdwide)

end ClusterWatch.Text
