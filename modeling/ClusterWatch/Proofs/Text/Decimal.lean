import ClusterWatch.Proofs.Pointwise
import ClusterWatch.Proofs.Text.Trimming
import ClusterWatch.Text.Decimal
import Mathlib.Data.List.Basic

/-!
The digits of a number.

A number has one spelling in decimal digits without leading zeros, and digits are neither blanks nor
letters. Main statements: `toDigits_value` and `read?_eq_some_iff`.
-/

namespace ClusterWatch.Decimal

variable {cs : List Char} {c : Char} {n : Nat}

theorem head?_toDigits_ne_zero (h : 0 < n) : (Nat.toDigits 10 n).head? ≠ some '0' := by
  induction n using Nat.strongRecOn with
  | ind n ih =>
      by_cases hlt : n < 10
      · have hdigit : ∀ d < 10, 0 < d → Nat.digitChar d ≠ '0' := by
          decide
        rw [Nat.toDigits_of_lt_base hlt, List.head?_cons]
        exact fun heq => hdigit n hlt h (Option.some.inj heq)
      · rw [Nat.toDigits_of_base_le (by decide) (Nat.not_lt.1 hlt),
          List.head?_append_of_ne_nil _ Nat.toDigits_ne_nil]
        exact ih (n / 10) (by omega) (by omega)

/-- A number is not written with a zero in front of other digits. -/
theorem not_zero_before_toDigits (n : Nat) :
    ¬((Nat.toDigits 10 n).head? = some '0' ∧ (Nat.toDigits 10 n).length ≠ 1) := by
  rintro ⟨hhead, hlength⟩
  rcases Nat.eq_zero_or_pos n with rfl | hpos
  · exact hlength rfl
  · exact head?_toDigits_ne_zero hpos hhead

theorem bounds_of_isDigit (h : c.isDigit = true) : 48 ≤ c.toNat ∧ c.toNat ≤ 57 :=
  Char.isDigit_iff_toNat.1 h

/-- A digit is that of the number it writes. -/
theorem digitChar_of_isDigit (h : c.isDigit = true) :
    c.toNat - '0'.toNat < 10 ∧ Nat.digitChar (c.toNat - '0'.toNat) = c := by
  have hbounds := bounds_of_isDigit h
  have hzero : '0'.toNat = 48 := rfl
  have hlt : c.toNat - '0'.toNat < 10 := by
    omega
  refine ⟨hlt, Char.toNat_inj.1 ?_⟩
  rw [Nat.toNat_digitChar_of_lt_ten hlt]
  omega

/-- Digits behind those of a positive number go on writing a number, whose digits they all are. -/
theorem toDigits_append (hn : 0 < n) (h : ∀ c ∈ cs, c.isDigit = true) :
    Nat.toDigits 10 n ++ cs = Nat.toDigits 10 (Nat.ofDigitChars 10 cs n) := by
  induction cs generalizing n with
  | nil => rw [List.append_nil, Nat.ofDigitChars_nil]
  | cons c cs ih =>
      obtain ⟨hc, hcs⟩ := List.forall_mem_cons.1 h
      obtain ⟨hlt, hdigit⟩ := digitChar_of_isDigit hc
      have hpos : 0 < 10 * n + (c.toNat - '0'.toNat) := by omega
      calc
        Nat.toDigits 10 n ++ c :: cs
            = Nat.toDigits 10 n ++ Nat.toDigits 10 (c.toNat - '0'.toNat) ++ cs := by
              rw [Nat.toDigits_of_lt_base hlt, hdigit, List.append_assoc, List.singleton_append]
        _ = Nat.toDigits 10 (10 * n + (c.toNat - '0'.toNat)) ++ cs := by
              rw [Nat.toDigits_append_toDigits (by decide) hn hlt]
        _ = Nat.toDigits 10 (Nat.ofDigitChars 10 (c :: cs) n) := by
              rw [ih hpos hcs, Nat.ofDigitChars_cons]

/-- Digits without leading zeros are those of the number that they write. -/
theorem toDigits_value (h : isNumeral cs = true) (hzero : ¬(cs.head? = some '0' ∧ cs.length ≠ 1)) :
    Nat.toDigits 10 (value cs) = cs := by
  rw [isNumeral, Bool.and_eq_true, List.all_eq_true] at h
  cases cs with
  | nil => cases h.1
  | cons c cs =>
      obtain ⟨hc, hcs⟩ := List.forall_mem_cons.1 h.2
      obtain ⟨hlt, hdigit⟩ := digitChar_of_isDigit hc
      rw [value, Nat.ofDigitChars_cons, Nat.mul_zero, Nat.zero_add]
      rcases Nat.eq_zero_or_pos (c.toNat - '0'.toNat) with hnone | hpos
      · have hc0 : c = '0' := by
          rw [← hdigit, hnone]
          rfl
        have hlast : cs = [] := by
          simpa [hc0] using hzero
        rw [hlast, Nat.ofDigitChars_nil, Nat.toDigits_of_lt_base hlt, hdigit]
      · rw [← toDigits_append hpos hcs, Nat.toDigits_of_lt_base hlt, hdigit,
          List.singleton_append]

theorem not_mem_toDigits (h : c.isDigit = false) (n : Nat) : c ∉ Nat.toDigits 10 n := by
  intro hmem
  have hdigit := Nat.isDigit_of_mem_toDigits (by decide) (by decide) hmem
  rw [h] at hdigit
  cases hdigit

theorem read?_toDigits (n : Nat) : read? (Nat.toDigits 10 n) = some n := by
  unfold read?
  split
  · next cs hplus =>
      have hmem : '+' ∈ Nat.toDigits 10 n := hplus ▸ List.mem_cons_self
      exact absurd hmem (not_mem_toDigits (by decide) n)
  · exact readDigits?_toDigits n

theorem readUInt64?_toDigits (n : UInt64) : readUInt64? (Nat.toDigits 10 n.toNat) = some n := by
  rw [readUInt64?, read?_toDigits, Option.bind_some, if_pos n.toNat_lt, UInt64.ofNat_toNat]

theorem isBlank_of_isDigit (h : c.isDigit = true) : Text.isBlank c = false := by
  have hbounds := bounds_of_isDigit h
  simp [Text.isBlank]
  omega

theorem toUpper_of_isDigit (h : c.isDigit = true) : c.toUpper = c := by
  have hbounds := bounds_of_isDigit h
  have hletter : ¬('a'.val ≤ c.val ∧ c.val ≤ 'z'.val) := by
    rintro ⟨hlow, -⟩
    have hlow : 97 ≤ c.toNat := hlow
    omega
  exact dif_neg hletter

theorem isNumeral_iff : isNumeral cs = true ↔ cs ≠ [] ∧ ∀ c ∈ cs, c.isDigit = true := by
  simp [isNumeral]

theorem isDigit_of_isNumeral (h : isNumeral cs = true) : ∀ c ∈ cs, c.isDigit = true :=
  (isNumeral_iff.1 h).2

theorem map_toUpper_of_isNumeral (h : isNumeral cs = true) : cs.map Char.toUpper = cs :=
  map_eq_self fun c hc => toUpper_of_isDigit (isDigit_of_isNumeral h c hc)

/-- A run of digits is not blank in front. -/
theorem trimStart_numeral (h : isNumeral cs = true) (rest : List Char) :
    Text.trimStart (cs ++ rest) = cs ++ rest := by
  cases cs with
  | nil => cases h
  | cons c cs =>
      exact Text.trimStart_cons (isBlank_of_isDigit (isDigit_of_isNumeral h c List.mem_cons_self))

theorem trim_numeral (h : isNumeral cs = true) : Text.trim cs = cs :=
  Text.trim_eq_self fun c hc => isBlank_of_isDigit (isDigit_of_isNumeral h c hc)

theorem readDigits?_eq_some_iff :
    readDigits? cs = some n ↔ isNumeral cs = true ∧ Nat.ofDigitChars 10 cs 0 = n := by
  rw [readDigits?, Option.ite_none_right_eq_some, Option.some.injEq, value]

theorem read?_eq_readDigits? (h : cs.head? ≠ some '+') : read? cs = readDigits? cs := by
  unfold read?
  split
  · exact absurd rfl h
  · rfl

/-- A number is read from digits with at most one plus sign in front. -/
theorem read?_eq_some_iff : read? cs = some n ↔
    ∃ sign digits, cs = sign ++ digits ∧ (sign = [] ∨ sign = ['+']) ∧ isNumeral digits = true ∧
      Nat.ofDigitChars 10 digits 0 = n := by
  constructor
  · intro h
    unfold read? at h
    split at h
    · next digits => exact ⟨['+'], digits, rfl, Or.inr rfl, readDigits?_eq_some_iff.1 h⟩
    · exact ⟨[], cs, rfl, Or.inl rfl, readDigits?_eq_some_iff.1 h⟩
  · rintro ⟨sign, digits, rfl, rfl | rfl, hdigits⟩
    · have hhead : digits.head? ≠ some '+' := by
        intro hplus
        have hdigit := isDigit_of_isNumeral hdigits.1 '+' (List.mem_of_mem_head? hplus)
        exact absurd hdigit (by decide)
      rw [List.nil_append, read?_eq_readDigits? hhead]
      exact readDigits?_eq_some_iff.2 hdigits
    · exact readDigits?_eq_some_iff.2 hdigits

end ClusterWatch.Decimal
