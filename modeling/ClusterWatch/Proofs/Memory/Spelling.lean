import ClusterWatch.Proofs.Memory.Overrides
import ClusterWatch.Proofs.Text.Casing
import Mathlib.Data.UInt

/-!
How a size is written.

A size is a number of bytes in digits, or a number with a unit, which may have a plus sign. Letters
of both cases make a unit, and blanks may stand around the number and the unit. Nothing else is a
size, nor is a number of bytes that does not fit into 64 bits.
Main statement: `grammar_parseSize`.
-/

namespace ClusterWatch

namespace Decimal

variable {cs : List Char} {n : Nat}

theorem isDigit_of_isAlpha {c : Char} (h : c.isAlpha = true) : c.isDigit = false := by
  have hletter := Text.bounds_of_isAlpha h
  rw [Bool.eq_false_iff]
  intro hdigit
  have hbounds := bounds_of_isDigit hdigit
  omega

/-- Raising letters does not make digits, nor spoil them. -/
theorem readDigits?_map_toUpper (cs : List Char) :
    readDigits? (cs.map Char.toUpper) = readDigits? cs := by
  by_cases hnumeral : isNumeral cs = true
  · rw [map_toUpper_of_isNumeral hnumeral]
  · have hdigit : Char.isDigit ∘ Char.toUpper = Char.isDigit :=
      funext fun c => Text.apply_toUpper (fun _ => isDigit_of_isAlpha) c
    have hraised : ¬isNumeral (cs.map Char.toUpper) = true := by
      rwa [isNumeral, List.isEmpty_map, List.all_map, hdigit, ← isNumeral]
    rw [readDigits?, readDigits?, if_neg hnumeral, if_neg hraised]

theorem read?_map_toUpper (cs : List Char) : read? (cs.map Char.toUpper) = read? cs := by
  have hplus : ∀ c : Char, c.isAlpha = true → (c == '+') = false := by
    rintro c hc
    rw [beq_eq_false_iff_ne]
    rintro rfl
    exact absurd hc (by decide)
  cases cs with
  | nil => rfl
  | cons c cs =>
      have hraised := Text.apply_toUpper hplus c
      by_cases hc : c = '+'
      · rw [hc]
        exact readDigits?_map_toUpper cs
      · rw [read?_eq_readDigits?, readDigits?_map_toUpper, read?_eq_readDigits?]
        · simpa using hc
        · rw [beq_eq_false_iff_ne.2 hc, beq_eq_false_iff_ne] at hraised
          simpa using hraised

end Decimal

namespace Memory

variable {cs : List Char} {n : Nat}

/-- The units, in capital letters, with their bytes. -/
def units : List (String × Nat) :=
  [("G", 2 ^ 30), ("GB", 2 ^ 30), ("GI", 2 ^ 30), ("M", 2 ^ 20), ("MB", 2 ^ 20), ("MI", 2 ^ 20)]

/-- The text is a size of `n` bytes, however many that are. -/
inductive Spells : List Char → Nat → Prop
  /-- Digits alone. -/
  | bytes {before digits after : List Char} (hbefore : Text.AllBlank before) (hne : digits ≠ [])
      (hdigits : ∀ c ∈ digits, c.isDigit = true) (hafter : Text.AllBlank after) :
      Spells (before ++ digits ++ after) (Nat.ofDigitChars 10 digits 0)
  /-- Digits with a unit, and with at most one plus sign directly in front. -/
  | withUnit {before sign digits between unit after : List Char} {factor : Nat}
      (hbefore : Text.AllBlank before) (hsign : sign = [] ∨ sign = ['+']) (hne : digits ≠ [])
      (hdigits : ∀ c ∈ digits, c.isDigit = true) (hbetween : Text.AllBlank between)
      (hunit : (String.ofList (unit.map Char.toUpper), factor) ∈ units)
      (hafter : Text.AllBlank after) :
      Spells (before ++ (sign ++ digits ++ between ++ unit) ++ after)
        (Nat.ofDigitChars 10 digits 0 * factor)

theorem unitOfReversed_eq_some_iff {rest : List Char} {factor : Nat} :
    unitOfReversed cs = some (rest, factor) ↔
      ∃ name, (name, factor) ∈ units ∧ cs = name.toList.reverse ++ rest := by
  constructor
  · intro h
    unfold unitOfReversed at h
    split at h <;> cases h
    · exact ⟨"GI", by decide, rfl⟩
    · exact ⟨"GB", by decide, rfl⟩
    · exact ⟨"G", by decide, rfl⟩
    · exact ⟨"MI", by decide, rfl⟩
    · exact ⟨"MB", by decide, rfl⟩
    · exact ⟨"M", by decide, rfl⟩
  · rintro ⟨name, hname, rfl⟩
    simp only [units, List.mem_cons, Prod.mk.injEq, List.not_mem_nil, or_false] at hname
    obtain ⟨rfl, rfl⟩ | ⟨rfl, rfl⟩ | ⟨rfl, rfl⟩ | ⟨rfl, rfl⟩ | ⟨rfl, rfl⟩ | ⟨rfl, rfl⟩ := hname <;>
      rfl

theorem isAlpha_of_mem_unit {unit : List Char} {factor : Nat}
    (h : (String.ofList (unit.map Char.toUpper), factor) ∈ units) :
    unit ≠ [] ∧ ∀ c ∈ unit, c.isAlpha = true := by
  have hnames : ∀ entry ∈ units, entry.1 ≠ "" ∧ (entry.1.toList.all Char.isAlpha) = true := by
    decide
  obtain ⟨hne, hletters⟩ := hnames _ h
  rw [String.toList_ofList, List.all_map, List.all_eq_true] at hletters
  refine ⟨?_, fun c hc => ?_⟩
  · rintro rfl
    exact hne rfl
  · have hraised : c.toUpper.isAlpha = true := hletters c hc
    rcases Text.toUpper_cases c with heq | ⟨hletter, -⟩
    · rwa [heq] at hraised
    · exact hletter

section

variable {sign digits between : List Char}

theorem isTrimmed_number (hsign : sign = [] ∨ sign = ['+'])
    (hdigits : ∀ c ∈ digits, c.isDigit = true) : Text.IsTrimmed (sign ++ digits) := by
  apply Text.IsTrimmed.of_forall
  intro c hc
  rcases List.mem_append.1 hc with hc | hc
  · rcases hsign with rfl | rfl
    · cases hc
    · rw [List.mem_singleton.1 hc]
      decide
  · exact Decimal.isBlank_of_isDigit (hdigits c hc)

/-- The number in front of a unit is read without the blanks between them. -/
theorem read?_trim_number (hsign : sign = [] ∨ sign = ['+']) (hne : digits ≠ [])
    (hdigits : ∀ c ∈ digits, c.isDigit = true) (hbetween : Text.AllBlank between) :
    Decimal.read? (Text.trim (sign ++ digits ++ between)) =
      some (Nat.ofDigitChars 10 digits 0) := by
  rw [(isTrimmed_number hsign hdigits).trim_append hbetween]
  exact Decimal.read?_eq_some_iff.2
    ⟨sign, digits, rfl, hsign, Decimal.isNumeral_iff.2 ⟨hne, hdigits⟩, rfl⟩

/-- A number with a unit is cut between the two. -/
theorem unitOfReversed_append {front unit : List Char} {factor : Nat}
    (hunit : (String.ofList (unit.map Char.toUpper), factor) ∈ units) :
    unitOfReversed ((front ++ unit).map Char.toUpper).reverse =
      some ((front.map Char.toUpper).reverse, factor) := by
  refine unitOfReversed_eq_some_iff.2 ⟨_, hunit, ?_⟩
  rw [List.map_append, List.reverse_append, String.toList_ofList]

end

theorem spells_of_bytes? (h : bytes? cs = some n) : Spells cs n := by
  obtain ⟨before, after, hbefore, hafter, hcs⟩ := Text.exists_eq_pad cs
  rw [bytes?] at h
  rw [hcs]
  split at h
  · next number factor hreversed =>
      obtain ⟨m, hm, rfl⟩ := Option.map_eq_some_iff.1 h
      obtain ⟨name, hname, hraised⟩ := unitOfReversed_eq_some_iff.1 hreversed
      rw [List.reverse_eq_append_iff, List.reverse_reverse] at hraised
      obtain ⟨front, unit, hparts, hfront, hunit⟩ := List.map_eq_append_iff.1 hraised
      -- the number may have blanks behind it, in front of the unit
      obtain ⟨pad, between, hpad, hbetween, hnumber⟩ := Text.exists_eq_pad front
      rw [← hfront, Text.trim_map Text.isBlank_toUpper, Decimal.read?_map_toUpper] at hm
      obtain ⟨sign, digits, htrim, hsign, hnumeral, rfl⟩ := Decimal.read?_eq_some_iff.1 hm
      obtain ⟨hne, hdigits⟩ := Decimal.isNumeral_iff.1 hnumeral
      have htext : before ++ Text.trim cs ++ after =
          (before ++ pad) ++ (sign ++ digits ++ between ++ unit) ++ after := by
        rw [hparts, hnumber, htrim]
        simp only [List.append_assoc]
      rw [htext]
      refine .withUnit (hbefore.append hpad) hsign hne hdigits hbetween ?_ hafter
      rwa [hunit, String.ofList_toList]
  · rw [Decimal.readDigits?_map_toUpper] at h
    obtain ⟨hnumeral, rfl⟩ := Decimal.readDigits?_eq_some_iff.1 h
    obtain ⟨hne, hdigits⟩ := Decimal.isNumeral_iff.1 hnumeral
    exact .bytes hbefore hne hdigits hafter

theorem bytes?_of_spells (h : Spells cs n) : bytes? cs = some n := by
  cases h with
  | @bytes before digits after hbefore hne hdigits hafter =>
      have hnumeral := Decimal.isNumeral_iff.2 ⟨hne, hdigits⟩
      have hunit : unitOfReversed digits.reverse = none :=
        unitOfReversed_of_digits fun c hc => hdigits c (List.mem_reverse.1 hc)
      rw [bytes?, Text.trim_pad hbefore hafter, Decimal.trim_numeral hnumeral]
      simp only [Decimal.map_toUpper_of_isNumeral hnumeral, hunit]
      exact Decimal.readDigits?_eq_some_iff.2 ⟨hnumeral, rfl⟩
  | @withUnit before sign digits between unit after factor hbefore hsign hne hdigits hbetween hunit
      hafter =>
      obtain ⟨hunitne, hletters⟩ := isAlpha_of_mem_unit hunit
      have hlast : Text.IsTrimmed unit :=
        Text.IsTrimmed.of_forall fun c hc => Text.isBlank_of_isAlpha (hletters c hc)
      have hwhole : Text.IsTrimmed (sign ++ digits ++ between ++ unit) :=
        (isTrimmed_number hsign hdigits).around (List.append_ne_nil_of_right_ne_nil sign hne)
          hlast hunitne between
      rw [bytes?, Text.trim_pad hbefore hafter, hwhole.trim_eq]
      simp only [unitOfReversed_append hunit, List.reverse_reverse]
      rw [Text.trim_map Text.isBlank_toUpper, Decimal.read?_map_toUpper,
        read?_trim_number hsign hne hdigits hbetween, Option.map_some]

/-- The sizes that are read are those that are written. -/
theorem size?_eq_some_iff {value : String} {n : UInt64} :
    size? value = some n ↔ Spells value.toList n.toNat := by
  rw [size?, Option.bind_eq_some_iff]
  constructor
  · rintro ⟨m, hm, h⟩
    split at h
    · next hlt =>
        cases h
        rw [UInt64.toNat_ofNat_of_lt' hlt]
        exact spells_of_bytes? hm
    · cases h
  · intro h
    exact ⟨n.toNat, bytes?_of_spells h, by rw [if_pos n.toNat_lt, UInt64.ofNat_toNat]⟩

end Memory

namespace ClusterSpec

open Memory

/-- A text is read as a size exactly if it is one and the size fits into 64 bits. Any other text is
refused, as it is, for the field. -/
theorem grammar_parseSize (field value : String) :
    (∀ n, parseSize field value = .ok n ↔ Spells value.toList n.toNat) ∧
      ∀ e, parseSize field value = .error e ↔
        e = .invalidQuantity field value ∧ ∀ n < 2 ^ 64, ¬Spells value.toList n := by
  have hnone : size? value = none ↔ ∀ n < 2 ^ 64, ¬Spells value.toList n := by
    rw [Option.eq_none_iff_forall_ne_some]
    constructor
    · intro h n hn hspells
      apply h (UInt64.ofNat n)
      rwa [size?_eq_some_iff, UInt64.toNat_ofNat_of_lt' hn]
    · intro h n hn
      exact h n.toNat n.toNat_lt (size?_eq_some_iff.1 hn)
  rw [← hnone]
  simp only [← size?_eq_some_iff]
  rw [parseSize]
  cases size? value with
  | none => simp [eq_comm]
  | some n => simp

theorem grammar_parseSize_spellings :
    parseSize "sgaSize" " +016 gI\n" = .ok (16 * 2 ^ 30) ∧
      parseSize "sgaSize" " 17179869184G" = .error (.invalidQuantity "sgaSize" " 17179869184G") ∧
      ∀ n < 2 ^ 64, ¬Spells " 17179869184G".toList n := by
  have hspells : Spells ([' '] ++ (['+'] ++ ['0', '1', '6'] ++ [' '] ++ ['g', 'I']) ++ ['\n'])
      (Nat.ofDigitChars 10 ['0', '1', '6'] 0 * 2 ^ 30) :=
    .withUnit (by decide) (Or.inr rfl) (List.cons_ne_nil _ _) (List.all_eq_true.1 (by decide))
      (by decide) (by decide) (by decide)
  have herror : parseSize "sgaSize" " 17179869184G" =
      .error (.invalidQuantity "sgaSize" " 17179869184G") := by
    decide
  obtain ⟨hok, -⟩ := grammar_parseSize "sgaSize" " +016 gI\n"
  obtain ⟨-, hrefused⟩ := grammar_parseSize "sgaSize" " 17179869184G"
  exact ⟨(hok _).2 hspells, herror, ((hrefused _).1 herror).2⟩

end ClusterSpec

end ClusterWatch
