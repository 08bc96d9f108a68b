import ClusterWatch.Proofs.Text.Decimal
import ClusterWatch.Timestamp
import Mathlib.Algebra.Group.Nat.Defs
import Mathlib.Data.List.TakeWhile

/-!
A rendered time reads back as itself.

Every number of it is written in as many digits as the reader takes, or before a character that is
no digit, and nothing in it is blank. Main statement: `parse?_render`.
-/

namespace ClusterWatch

namespace Decimal

theorem isNumeral_padded (width n : Nat) : isNumeral (padded width n).toList = true := by
  have hdigits := isNumeral_toDigits n
  rw [isNumeral, Bool.and_eq_true] at hdigits ⊢
  rw [padded, String.toList_ofList, List.all_append, hdigits.2, Bool.and_true]
  constructor
  · simp
  · rw [List.all_eq_true]
    intro c hc
    obtain rfl := List.eq_of_mem_replicate hc
    rfl

theorem value_padded (width n : Nat) : value (padded width n).toList = n := by
  rw [value, padded, String.toList_ofList, Nat.ofDigitChars_append,
    Nat.ofDigitChars_replicate_zero, Nat.mul_zero, Nat.ofDigitChars_ten_toDigits]

theorem length_padded {width n : Nat} (hwidth : 0 < width) (h : n < 10 ^ width) :
    (padded width n).toList.length = width := by
  have hdigits : (Nat.toDigits 10 n).length ≤ width :=
    (Nat.length_toDigits_le_iff (by decide) hwidth).2 h
  rw [padded, String.toList_ofList, List.length_append, List.length_replicate]
  omega

end Decimal

namespace Timestamp

variable {cs rest : List Char} {c : Char} {most width n : Nat}

/-- A run of digits is read whole, if it may be so long and no digit follows that may be read
too. -/
theorem readDigits_append (h : Decimal.isNumeral cs = true) (hmost : cs.length ≤ most)
    (hstop : ((rest.take (most - cs.length)).takeWhile Char.isDigit) = []) :
    readDigits most (cs ++ rest) = some (Decimal.value cs, rest) := by
  rw [Decimal.isNumeral, Bool.and_eq_true, List.all_eq_true] at h
  have hrun : ((cs ++ rest).take most).takeWhile Char.isDigit = cs := by
    rw [List.take_append, List.take_of_length_le hmost, List.takeWhile_append_of_pos h.2, hstop,
      List.append_nil]
  rw [readDigits, hrun]
  cases cs with
  | nil => cases h.1
  | cons c cs => simp

theorem readField_padded (h : n < 100) (rest : List Char) :
    readField ((Decimal.padded 2 n).toList ++ rest) = some (n, rest) := by
  have hlength : (Decimal.padded 2 n).toList.length = 2 := Decimal.length_padded (by decide) h
  have hnumeral := Decimal.isNumeral_padded 2 n
  rw [readField, Decimal.trimStart_numeral hnumeral,
    readDigits_append hnumeral hlength.le (by simp [hlength]), Decimal.value_padded]

/-- A year without a sign is one of up to four digits. -/
theorem readYear_numeral (h : Decimal.isNumeral cs = true) (rest : List Char) :
    readYear (cs ++ rest) =
      (readDigits 4 (cs ++ rest)).map fun (n, rest) => ((n : Int), rest) := by
  have hsign : ∀ sign tail, sign.isDigit = false → cs ++ rest ≠ sign :: tail := by
    intro sign tail hsign heq
    cases cs with
    | nil => cases h
    | cons c cs =>
        obtain ⟨rfl, -⟩ := List.cons.inj heq
        rw [Decimal.isNumeral, List.all_cons, hsign] at h
        cases h
  rw [readYear, Decimal.trimStart_numeral h]
  split
  · next tail heq => exact absurd heq (hsign '-' tail (by decide))
  · next tail heq => exact absurd heq (hsign '+' tail (by decide))
  · rfl

theorem readYear_minus (cs : List Char) : readYear ('-' :: cs) =
    (readDigits cs.length cs).map fun (n, rest) => (-(n : Int), rest) := by
  rw [readYear, Text.trimStart_cons (by decide)]
  rfl

theorem readYear_plus (cs : List Char) : readYear ('+' :: cs) =
    (readDigits cs.length cs).map fun (n, rest) => ((n : Int), rest) := by
  rw [readYear, Text.trimStart_cons (by decide)]
  rfl

/-- A year is read, whatever its sign and however many digits it has. -/
theorem readYear_yearText (year : Int) (rest : List Char) :
    readYear ((yearText year).toList ++ '-' :: rest) = some (year, '-' :: rest) := by
  have hread : ∀ n most, (Decimal.padded 4 n).toList.length ≤ most →
      readDigits most ((Decimal.padded 4 n).toList ++ '-' :: rest) = some (n, '-' :: rest) := by
    intro n most hmost
    have hstop : ((('-' :: rest).take (most - (Decimal.padded 4 n).toList.length)).takeWhile
        Char.isDigit) = [] := by
      cases most - (Decimal.padded 4 n).toList.length <;> rfl
    rw [readDigits_append (Decimal.isNumeral_padded 4 n) hmost hstop, Decimal.value_padded]
  have hwhole : ∀ n, (Decimal.padded 4 n).toList.length ≤
      ((Decimal.padded 4 n).toList ++ '-' :: rest).length := by
    simp
  rw [yearText]
  split
  · next hshort =>
      have hlength : (Decimal.padded 4 year.toNat).toList.length = 4 :=
        Decimal.length_padded (by decide) (by omega)
      have hyear : (year.toNat : Int) = year := Int.toNat_of_nonneg hshort.1
      rw [readYear_numeral (Decimal.isNumeral_padded 4 _), hread _ _ hlength.le]
      simp only [Option.map_some, hyear]
  · split
    · next hneg =>
        have htext : ("-" ++ Decimal.padded 4 year.natAbs).toList =
            '-' :: (Decimal.padded 4 year.natAbs).toList := by
          simp
        have hyear : -(year.natAbs : Int) = year := by
          omega
        rw [htext, List.cons_append, readYear_minus, hread _ _ (hwhole _)]
        simp only [Option.map_some, hyear]
    · next hpos =>
        have htext : ("+" ++ Decimal.padded 4 year.natAbs).toList =
            '+' :: (Decimal.padded 4 year.natAbs).toList := by
          simp
        have hyear : (year.natAbs : Int) = year := by
          omega
        rw [htext, List.cons_append, readYear_plus, hread _ _ (hwhole _)]
        simp only [Option.map_some, hyear]

theorem readSeparator_cons (h : Text.isBlank c = false) (rest : List Char) :
    readSeparator c (c :: rest) = some rest := by
  rw [readSeparator, Text.trimStart_cons h]
  exact if_pos rfl

/-- Up to nine digits of a fraction are read. -/
theorem readFraction_padded (hwidth : 0 < width) (hnine : width ≤ 9) (h : n < 10 ^ width) :
    readFraction ('.' :: ((Decimal.padded width n).toList ++ ['Z'])) =
      some (n * Nat.pow 10 (9 - width), ['Z']) := by
  have hlength : (Decimal.padded width n).toList.length = width := Decimal.length_padded hwidth h
  have hnumeral := Decimal.isNumeral_padded width n
  have hvalue := Decimal.value_padded width n
  rw [Decimal.isNumeral, Bool.and_eq_true, List.all_eq_true] at hnumeral
  have hrun : ((Decimal.padded width n).toList ++ ['Z']).takeWhile Char.isDigit =
      (Decimal.padded width n).toList := by
    rw [List.takeWhile_append_of_pos hnumeral.2]
    exact List.append_nil _
  have hrest : ((Decimal.padded width n).toList ++ ['Z']).dropWhile Char.isDigit = ['Z'] :=
    List.dropWhile_append_of_pos hnumeral.2
  rw [readFraction, hrun, hrest, List.take_of_length_le (hlength.le.trans hnine)]
  split
  · next hnil =>
      rw [hnil] at hlength
      exact absurd hlength hwidth.ne
  · rw [hvalue, hlength]

/-- A fraction of a second is read, in however many digits it is written. -/
theorem readFraction_fractionText (h : n < 1000000000) :
    readFraction ((fractionText n).toList ++ ['Z']) = some (n, ['Z']) := by
  rw [fractionText]
  split
  · next hzero =>
      rw [hzero]
      rfl
  · have htext : ∀ width m, ("." ++ Decimal.padded width m).toList ++ ['Z'] =
        '.' :: ((Decimal.padded width m).toList ++ ['Z']) := by
      simp
    split
    · rw [htext, readFraction_padded (by decide) (by decide) (by omega)]
      congr 2
      change n / 1000000 * 1000000 = n
      omega
    · split
      · rw [htext, readFraction_padded (by decide) (by decide) (by omega)]
        congr 2
        change n / 1000 * 1000 = n
        omega
      · rw [htext, readFraction_padded (by decide) (by decide) (by omega)]
        congr 2
        exact Nat.mul_one n

theorem takeOffset_zero {t : Timestamp} (hhour : t.hour ≤ 23) (hminute : t.minute ≤ 59) :
    t.takeOffset 0 = t := by
  have hclock : (((t.hour : Int) * 60 + t.minute - 0) % 1440).toNat = t.hour * 60 + t.minute := by
    omega
  have hlow : ¬((t.hour : Int) * 60 + t.minute - 0 < 0) := by
    omega
  have hhigh : ¬(1440 ≤ (t.hour : Int) * 60 + t.minute - 0) := by
    omega
  have hdiv : (t.hour * 60 + t.minute) / 60 = t.hour := by
    omega
  have hmod : (t.hour * 60 + t.minute) % 60 = t.minute := by
    omega
  simp only [takeOffset, hclock, hdiv, hmod, if_neg hlow, if_neg hhigh]

theorem daysInMonth_le (year : Int) (month : Nat) : daysInMonth year month ≤ 31 := by
  unfold daysInMonth
  split
  · split <;> decide
  all_goals decide

/-- The parts of a rendered time and the characters between them. -/
theorem toList_render (t : Timestamp) : t.render.toList = (yearText t.year).toList ++ '-' ::
    ((Decimal.padded 2 t.month).toList ++ '-' :: ((Decimal.padded 2 t.day).toList ++ 'T' ::
      ((Decimal.padded 2 t.hour).toList ++ ':' :: ((Decimal.padded 2 t.minute).toList ++ ':' ::
        ((Decimal.padded 2 t.second).toList ++
          ((fractionText t.nanosecond).toList ++ ['Z'])))))) := by
  simp [render]

theorem parse?_render {t : Timestamp} (h : t.isValid = true) : parse? t.render = some t := by
  have hfields := h
  simp only [isValid, Bool.and_eq_true, decide_eq_true_eq] at hfields
  obtain ⟨⟨⟨⟨⟨⟨⟨-, hmonth⟩, -⟩, hday⟩, hhour⟩, hminute⟩, hsecond⟩, hnanosecond⟩ := hfields
  have hdays := daysInMonth_le t.year t.month
  have hdash : Text.isBlank '-' = false := by
    decide
  have hcolon : Text.isBlank ':' = false := by
    decide
  have hend : readOffset (Text.trimStart ['Z']) = some (0, []) := by
    rw [Text.trimStart_cons (by decide)]
    rfl
  have hutc := takeOffset_zero hhour hminute
  rw [parse?, toList_render]
  -- One step for each part of the text.
  refine Option.bind_eq_some_iff.2 ⟨_, readYear_yearText t.year _, ?_⟩
  refine Option.bind_eq_some_iff.2 ⟨_, readSeparator_cons hdash _, ?_⟩
  refine Option.bind_eq_some_iff.2 ⟨_, readField_padded (show t.month < 100 by omega) _, ?_⟩
  refine Option.bind_eq_some_iff.2 ⟨_, readSeparator_cons hdash _, ?_⟩
  refine Option.bind_eq_some_iff.2 ⟨_, readField_padded (show t.day < 100 by omega) _, ?_⟩
  refine Option.bind_eq_some_iff.2 ⟨_, rfl, ?_⟩
  refine Option.bind_eq_some_iff.2 ⟨_, readField_padded (show t.hour < 100 by omega) _, ?_⟩
  refine Option.bind_eq_some_iff.2 ⟨_, readSeparator_cons hcolon _, ?_⟩
  refine Option.bind_eq_some_iff.2 ⟨_, readField_padded (show t.minute < 100 by omega) _, ?_⟩
  refine Option.bind_eq_some_iff.2 ⟨_, readSeparator_cons hcolon _, ?_⟩
  refine Option.bind_eq_some_iff.2 ⟨_, readField_padded (show t.second < 100 by omega) _, ?_⟩
  refine Option.bind_eq_some_iff.2 ⟨_, readFraction_fractionText hnanosecond, ?_⟩
  refine Option.bind_eq_some_iff.2 ⟨_, hend, ?_⟩
  simp only [hutc, h]
  rfl

theorem isValid_of_parse? {s : String} {t : Timestamp} (h : parse? s = some t) :
    t.isValid = true := by
  rw [parse?, ofChars?] at h
  -- One step for each of the thirteen parts of the text; what is left tests the time.
  iterate 13 obtain ⟨_, -, h⟩ := Option.bind_eq_some_iff.1 h
  obtain ⟨htests, hutc⟩ := Option.ite_none_right_eq_some.1 h
  obtain rfl := Option.some.inj hutc
  exact (Bool.and_eq_true_iff.1 htests).2

end Timestamp

end ClusterWatch
