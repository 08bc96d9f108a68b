import ClusterWatch.Json.Printer
import ClusterWatch.Json.Reader
import ClusterWatch.Proofs.Text.Decimal
import Mathlib.Data.List.TakeWhile

/-!
Reading back single numbers and strings.

A whole number is written in digits without a leading zero, and ends where nothing follows that
could continue it. Every character of a string is written as one piece, itself or an escape, which
reads as the character again.
-/

namespace ClusterWatch.Json

variable {rest : List Char}

/-- The character could belong to a number that has begun. -/
def continuesNumber (c : Char) : Bool :=
  c.isDigit || c == '.' || c == 'e' || c == 'E'

/-- A number before these characters ends with them. -/
def EndsNumber (rest : List Char) : Prop :=
  ∀ c ∈ rest.head?, continuesNumber c = false

theorem dropFraction_of_endsNumber (h : EndsNumber rest) : dropFraction rest = some rest := by
  cases rest with
  | nil => rfl
  | cons c rest =>
      have hc := h c rfl
      have hpoint : c ≠ '.' := by
        rintro rfl
        cases hc
      simp [dropFraction, hpoint]

theorem dropExponent_of_endsNumber (h : EndsNumber rest) : dropExponent rest = some rest := by
  cases rest with
  | nil => rfl
  | cons c rest =>
      have hc := h c rfl
      have hletter : ¬(c = 'e' ∨ c = 'E') := by
        rintro (rfl | rfl) <;> cases hc
      simp [dropExponent, hletter]

theorem span_isDigit_of_endsNumber (h : EndsNumber rest) :
    rest.takeWhile Char.isDigit = [] ∧ rest.dropWhile Char.isDigit = rest := by
  cases rest with
  | nil => exact ⟨rfl, rfl⟩
  | cons c rest =>
      have hc : c.isDigit = false := by
        have hother := h c rfl
        simp only [continuesNumber, Bool.or_eq_false_iff] at hother
        exact hother.1.1.1
      simp [hc]

/-- The digits of a number, read up to where it ends. -/
theorem digits_append (n : Nat) (h : EndsNumber rest) :
    (Nat.toDigits 10 n ++ rest).takeWhile Char.isDigit = Nat.toDigits 10 n ∧
      (Nat.toDigits 10 n ++ rest).dropWhile Char.isDigit = rest := by
  have hdigits : ∀ c ∈ Nat.toDigits 10 n, c.isDigit = true :=
    fun c hc => Nat.isDigit_of_mem_toDigits (by decide) (by decide) hc
  obtain ⟨htake, hdrop⟩ := span_isDigit_of_endsNumber h
  rw [List.takeWhile_append_of_pos hdigits, List.dropWhile_append_of_pos hdigits, htake, hdrop,
    List.append_nil]
  exact ⟨rfl, rfl⟩

/-- The digits of a number have the form that the reader asks for. -/
theorem toDigits_accepted (n : Nat) :
    ¬((Nat.toDigits 10 n).isEmpty = true ∨
      ((Nat.toDigits 10 n).head? = some '0' ∧ (Nat.toDigits 10 n).length ≠ 1)) := by
  rintro (hempty | hzero)
  · exact Nat.toDigits_ne_nil (List.isEmpty_iff.1 hempty)
  · exact Decimal.not_zero_before_toDigits n hzero

theorem readNumber_toDigits (n : Nat) (h : EndsNumber rest) :
    readNumber (Nat.toDigits 10 n ++ rest) = some (.integer n, rest) := by
  obtain ⟨htake, hdrop⟩ := digits_append n h
  have hsign : ∀ body, Nat.toDigits 10 n ++ rest ≠ '-' :: body := by
    intro body heq
    rw [heq] at htake
    exact Nat.toDigits_ne_nil htake.symm
  unfold readNumber
  split
  next negative body hbody =>
    split at hbody
    · next heq => exact absurd heq (hsign _)
    · obtain ⟨rfl, rfl⟩ := Prod.mk.inj hbody
      simp only [htake, hdrop, if_neg (toDigits_accepted n), dropFraction_of_endsNumber h,
        Decimal.value, Nat.ofDigitChars_ten_toDigits]
      simp [dropExponent_of_endsNumber h]

theorem readNumber_neg_toDigits {n : Nat} (hn : n ≠ 0) (h : EndsNumber rest) :
    readNumber ('-' :: (Nat.toDigits 10 n ++ rest)) = some (.integer (-n), rest) := by
  obtain ⟨htake, hdrop⟩ := digits_append n h
  simp only [readNumber, htake, hdrop, if_neg (toDigits_accepted n), dropFraction_of_endsNumber h,
    Decimal.value, Nat.ofDigitChars_ten_toDigits]
  simp [hn, dropExponent_of_endsNumber h]

/-- A whole number reads back where it ends. -/
theorem readNumber_toString (n : Int) (h : EndsNumber rest) :
    readNumber ((toString n).toList ++ rest) = some (.integer n, rest) := by
  rw [Int.toString_eq_repr, Int.repr_eq_if]
  split
  · next hpos =>
      rw [Nat.repr_eq_ofList_toDigits, String.toList_ofList, readNumber_toDigits _ h,
        Int.toNat_of_nonneg hpos]
  · next hneg =>
      have hne : (-n).toNat ≠ 0 := by
        omega
      have htext : ("-" ++ (-n).toNat.repr).toList = '-' :: Nat.toDigits 10 (-n).toNat := by
        simp [Nat.repr_eq_ofList_toDigits]
      rw [htext, List.cons_append, readNumber_neg_toDigits hne h, Int.toNat_of_nonneg (by omega),
        Int.neg_neg]

theorem readNumber_inexact (h : EndsNumber rest) :
    readNumber ('0' :: 'e' :: '0' :: rest) = some (.inexact, rest) := by
  have hexponent : dropExponent ('e' :: '0' :: rest) = some rest := by
    simp [dropExponent, (span_isDigit_of_endsNumber h).2]
  have hfraction : dropFraction ('e' :: '0' :: rest) = some ('e' :: '0' :: rest) := by
    simp [dropFraction]
  have htake : ('0' :: 'e' :: '0' :: rest).takeWhile Char.isDigit = ['0'] := by
    simp
  have hdrop : ('0' :: 'e' :: '0' :: rest).dropWhile Char.isDigit = 'e' :: '0' :: rest := by
    simp
  have hlonger : rest.length ≠ rest.length + 1 + 1 := by
    omega
  simp [readNumber, htake, hdrop, hfraction, hexponent, hlonger]

/-- A whole number begins with a minus sign or a digit. -/
theorem exists_toString_eq_cons (n : Int) :
    ∃ c cs, (toString n).toList = c :: cs ∧ (c = '-' ∨ c.isDigit = true) := by
  rw [Int.toString_eq_repr, Int.repr_eq_if]
  split
  · obtain ⟨c, cs, hcs⟩ := List.exists_cons_of_ne_nil (@Nat.toDigits_ne_nil n.toNat 10)
    refine ⟨c, cs, by rw [Nat.repr_eq_ofList_toDigits, String.toList_ofList, hcs], Or.inr ?_⟩
    exact Nat.isDigit_of_mem_toDigits (by decide) (by decide) (hcs ▸ List.mem_cons_self)
  · exact ⟨'-', (-n).toNat.repr.toList, by simp, Or.inl rfl⟩

/-- The piece of a string stands for the character, whatever pieces follow it. -/
def Piece.StandsFor (piece : Piece) (c : Char) : Prop :=
  ∀ pieces, resolve (piece :: pieces) = (resolve pieces).map (c :: ·)

theorem standsFor_char (c : Char) : (Piece.char c).StandsFor c :=
  fun _ => rfl

theorem standsFor_unit {c : Char} (h : c.toNat < 0xD800) : (Piece.unit c.toNat).StandsFor c := by
  have hhigh : ¬(0xD800 ≤ c.toNat ∧ c.toNat < 0xDC00) := by
    omega
  have hlow : ¬(0xDC00 ≤ c.toNat ∧ c.toNat < 0xE000) := by
    omega
  have hhalf : ¬(0xD800 ≤ c.toNat ∧ c.toNat < 0xE000) := by
    omega
  intro pieces
  cases pieces with
  | nil => simp [resolve, hhalf]
  | cons piece pieces =>
      cases piece with
      | char other => simp [resolve, hhalf]
      | unit low => simp [resolve, hhigh, hlow]

theorem hexDigit?_hexDigit {n : Nat} (h : n < 16) : hexDigit? (hexDigit n) = some n := by
  have hall : ∀ n < 16, hexDigit? (hexDigit n) = some n := by
    decide
  exact hall n h

/-- A letter after a backslash is read as the character that it stands for. -/
theorem readPieces_escaped {e c : Char} (h : escaped? e = some c) (rest : List Char) :
    readPieces ('\\' :: e :: rest) =
      (readPieces rest).map fun p => (.char c :: p.1, p.2) := by
  have hletter : e ≠ 'u' := by
    rintro rfl
    cases h
  rw [readPieces, h, Option.map_eq_bind]
  · rfl
  · exact fun _ _ _ _ _ heq _ => hletter heq

theorem readPieces_unit {n : Nat} (h : n < 0x20) (rest : List Char) :
    readPieces ('\\' :: 'u' :: '0' :: '0' :: hexDigit (n / 0x10) :: hexDigit (n % 0x10) :: rest) =
      (readPieces rest).map fun p => (.unit n :: p.1, p.2) := by
  have hzero : hexDigit? '0' = some 0 := rfl
  have hunit : 0x1000 * 0 + 0x100 * 0 + 0x10 * (n / 0x10) + n % 0x10 = n := by
    omega
  rw [readPieces, hzero, hexDigit?_hexDigit (by omega), hexDigit?_hexDigit (by omega),
    Option.map_eq_bind]
  simp only [Option.bind_eq_bind, Option.bind_some, hunit]
  rfl

theorem readPieces_plain {c : Char} (hquote : c ≠ '"') (hbackslash : c ≠ '\\')
    (hprinted : ¬c.toNat < 0x20) (rest : List Char) :
    readPieces (c :: rest) = (readPieces rest).map fun p => (.char c :: p.1, p.2) := by
  have hplain : ¬(c = '\\' ∨ c.toNat < 0x20) := by
    simp [hbackslash, hprinted]
  rw [readPieces, if_neg hplain, Option.map_eq_bind]
  · rfl
  · exact hquote
  · exact fun _ _ _ _ _ heq _ => hbackslash heq
  · exact fun _ _ heq _ => hbackslash heq

/-- A written character is read as one piece, which stands for it. -/
theorem exists_readPieces_escape (c : Char) : ∃ piece : Piece, piece.StandsFor c ∧
    ∀ rest, readPieces (escape c ++ rest) =
      (readPieces rest).map fun p => (piece :: p.1, p.2) := by
  unfold escape
  split
  any_goals exact ⟨.char _, standsFor_char _, readPieces_escaped rfl⟩
  next hquote hbackslash _ _ _ _ _ =>
    split
    · next hcontrol =>
        exact ⟨.unit c.toNat, standsFor_unit (by omega), readPieces_unit hcontrol⟩
    · next hprinted =>
        exact ⟨.char c, standsFor_char c, readPieces_plain hquote hbackslash hprinted⟩

/-- A written string is read up to its closing quote and has its text. -/
theorem readText_escape (cs rest : List Char) :
    readText (cs.flatMap escape ++ '"' :: rest) = some (some (String.ofList cs), rest) := by
  have hpieces : ∃ pieces, readPieces (cs.flatMap escape ++ '"' :: rest) = some (pieces, rest) ∧
      resolve pieces = some cs := by
    induction cs with
    | nil => exact ⟨[], by simp [readPieces], rfl⟩
    | cons c cs ih =>
        obtain ⟨pieces, hread, hresolve⟩ := ih
        obtain ⟨piece, hstands, hescape⟩ := exists_readPieces_escape c
        refine ⟨piece :: pieces, ?_, ?_⟩
        · rw [List.flatMap_cons, List.append_assoc, hescape, hread]
          rfl
        · rw [hstands, hresolve]
          rfl
  obtain ⟨pieces, hread, hresolve⟩ := hpieces
  simp [readText, hread, hresolve]

/-- A quoted text, and the written form of a string without one, read back. -/
theorem readText_quotedName (name : Option String) (rest : List Char) :
    ∃ cs, (quotedName name).toList = '"' :: cs ∧ readText (cs ++ rest) = some (name, rest) := by
  cases name with
  | some name =>
      refine ⟨name.toList.flatMap escape ++ ['"'], ?_, ?_⟩
      · rw [quotedName, quoted, String.toList_ofList, List.cons_append]
      · rw [List.append_assoc, List.singleton_append, readText_escape, String.ofList_toList]
  | none =>
      refine ⟨['\\', 'u', 'd', '8', '0', '0', '"'], rfl, ?_⟩
      simp [readText, readPieces, resolve, hexDigit?]

end ClusterWatch.Json
