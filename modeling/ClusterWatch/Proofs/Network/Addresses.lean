import ClusterWatch.Network.Address
import ClusterWatch.Proofs.Text.Cutting
import ClusterWatch.Proofs.Text.Decimal
import Mathlib.Algebra.Group.Nat.Defs

/-!
IPv4 addresses as texts and as numbers.

An address is read from exactly the texts that write its number in four decimal bytes, and advancing
it adds to that number, back to zero behind the last. Main statements: `ofChars?_eq_some_iff` and
`toNat_advance`.
-/

namespace ClusterWatch.Network

/-- The text writes the number as four bytes in decimal, the most significant first, with points
between them. -/
def IsDottedQuad (text : String) (n : Nat) : Prop :=
  ∃ a b c d : Nat, a < 256 ∧ b < 256 ∧ c < 256 ∧ d < 256 ∧
    text = ".".intercalate [toString a, toString b, toString c, toString d] ∧
      n = ((a * 256 + b) * 256 + c) * 256 + d

namespace Address

theorem octet?_eq_some_iff {cs : List Char} {n : Nat} :
    octet? cs = some n ↔ n < 256 ∧ cs = Nat.toDigits 10 n := by
  rw [octet?]
  split
  · next hzeros =>
      refine iff_of_false nofun ?_
      rintro ⟨-, rfl⟩
      exact Decimal.not_zero_before_toDigits n hzeros
  · next hzeros =>
      rw [Option.filter_eq_some_iff, decide_eq_true_iff]
      constructor
      · rintro ⟨hread, hbyte⟩
        rw [Decimal.readDigits?] at hread
        split at hread
        · next hnumeral =>
            cases hread
            exact ⟨hbyte, (Decimal.toDigits_value hnumeral hzeros).symm⟩
        · cases hread
      · rintro ⟨hbyte, rfl⟩
        exact ⟨Decimal.readDigits?_toDigits n, hbyte⟩

theorem toNat_ofOctets {a b c d : Nat} (ha : a < 256) (hb : b < 256) (hc : c < 256)
    (hd : d < 256) : (ofOctets a b c d).bits.toNat = ((a * 256 + b) * 256 + c) * 256 + d := by
  rw [ofOctets, UInt32.toNat_ofNat']
  omega

theorem toList_dottedQuad (a b c d : Nat) :
    (".".intercalate [toString a, toString b, toString c, toString d]).toList =
      List.intercalate ['.'] [Nat.toDigits 10 a, Nat.toDigits 10 b, Nat.toDigits 10 c,
        Nat.toDigits 10 d] := by
  simp

theorem splitAt_dottedQuad (a b c d : Nat) :
    Text.splitAt '.' (".".intercalate [toString a, toString b, toString c, toString d]).toList =
      [Nat.toDigits 10 a, Nat.toDigits 10 b, Nat.toDigits 10 c, Nat.toDigits 10 d] := by
  rw [toList_dottedQuad, Text.splitAt_intercalate (List.cons_ne_nil _ _)]
  intro piece hpiece
  simp only [List.mem_cons, List.not_mem_nil, or_false] at hpiece
  rcases hpiece with rfl | rfl | rfl | rfl <;> exact Decimal.not_mem_toDigits (by decide) _

/-- An address is read from the texts that write its number. -/
theorem ofChars?_eq_some_iff {text : String} {x : Address} :
    ofChars? text.toList = some x ↔ IsDottedQuad text x.bits.toNat := by
  constructor
  · intro h
    rw [ofChars?] at h
    split at h
    · next p q r s hpieces =>
        simp only [Option.bind_eq_bind, Option.bind_eq_some_iff, Option.pure_def,
          Option.some.injEq, octet?_eq_some_iff] at h
        obtain ⟨a, ⟨ha, rfl⟩, b, ⟨hb, rfl⟩, c, ⟨hc, rfl⟩, d, ⟨hd, rfl⟩, rfl⟩ := h
        refine ⟨a, b, c, d, ha, hb, hc, hd, String.toList_inj.1 ?_, toNat_ofOctets ha hb hc hd⟩
        rw [toList_dottedQuad, ← hpieces, Text.intercalate_splitAt]
    · cases h
  · rintro ⟨a, b, c, d, ha, hb, hc, hd, rfl, hn⟩
    have hbits : ofOctets a b c d = x := by
      have heq := (toNat_ofOctets ha hb hc hd).trans hn.symm
      cases x
      exact congrArg mk (UInt32.toNat_inj.1 heq)
    rw [ofChars?, splitAt_dottedQuad]
    simp only [octet?_eq_some_iff.2 ⟨ha, rfl⟩, octet?_eq_some_iff.2 ⟨hb, rfl⟩,
      octet?_eq_some_iff.2 ⟨hc, rfl⟩, octet?_eq_some_iff.2 ⟨hd, rfl⟩, ← hbits]
    rfl

theorem isDottedQuad_render (x : Address) : IsDottedQuad x.render x.bits.toNat := by
  have hlt := x.bits.toNat_lt
  refine ⟨_, _, _, _, ?_, ?_, ?_, ?_, rfl, ?_⟩ <;> omega

theorem ofChars?_render (x : Address) : ofChars? x.render.toList = some x :=
  ofChars?_eq_some_iff.2 (isDottedQuad_render x)

theorem toNat_advance (x : Address) (offset : UInt32) :
    (x.advance offset).bits.toNat = (x.bits.toNat + offset.toNat) % 2 ^ 32 :=
  UInt32.toNat_add x.bits offset

end Address

/-- A text that writes a number is read as the address with that number, which has 32 bits. -/
theorem IsDottedQuad.ofChars?_eq {text : String} {n : Nat} (h : IsDottedQuad text n) :
    Address.ofChars? text.toList = some ⟨UInt32.ofNat n⟩ ∧ n < 2 ^ 32 := by
  have hlt : n < 2 ^ 32 := by
    obtain ⟨a, b, c, d, ha, hb, hc, hd, -, rfl⟩ := h
    omega
  refine ⟨Address.ofChars?_eq_some_iff.2 ?_, hlt⟩
  rwa [UInt32.toNat_ofNat_of_lt' hlt]

end ClusterWatch.Network
