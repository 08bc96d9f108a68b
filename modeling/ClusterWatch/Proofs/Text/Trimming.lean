import ClusterWatch.Health
import Mathlib.Data.List.Infix

/-!
Trimming once is enough.

What is left of a text without the blanks at its ends is a part of it with no blanks at the ends, so
that trimming, raising and searching it say the same as for the whole. An answer of an instance is
therefore read the same when what was read of it is read again.
-/

namespace ClusterWatch

namespace Text

variable {cs part : List Char} {c : Char}

theorem trimStart_cons (h : isBlank c = false) : trimStart (c :: cs) = c :: cs := by
  rw [trimStart, List.dropWhile_cons_of_neg]
  rw [h]
  exact Bool.false_ne_true

theorem trimEnd_isPrefix (cs : List Char) : trimEnd cs <+: cs := by
  induction cs with
  | nil => exact List.prefix_rfl
  | cons c cs ih =>
      rw [trimEnd]
      split
      · split
        · exact List.nil_prefix
        · exact List.prefix_append [c] cs
      · next d ds heq =>
          rw [heq] at ih
          exact (List.prefix_cons_inj c).2 ih

theorem trimEnd_trimEnd (cs : List Char) : trimEnd (trimEnd cs) = trimEnd cs := by
  induction cs with
  | nil => rfl
  | cons c cs ih =>
      rw [trimEnd]
      split
      · split
        · rfl
        · next hc => simp [trimEnd, hc]
      · next d ds heq => rw [trimEnd, ← heq, ih, heq]

/-- Trimming the back leaves a front that is not blank. -/
theorem trimStart_trimEnd_cons (h : isBlank c = false) :
    trimStart (trimEnd (c :: cs)) = trimEnd (c :: cs) := by
  rw [trimEnd]
  split
  · rw [h]
    exact trimStart_cons h
  · exact trimStart_cons h

theorem trim_trim (cs : List Char) : trim (trim cs) = trim cs := by
  have hfront : trimStart (trim cs) = trim cs := by
    rw [trim]
    cases hcs : trimStart cs with
    | nil => rfl
    | cons c rest =>
        have hblank : isBlank c = false := by
          have hhead := List.head?_dropWhile_not isBlank cs
          rw [← trimStart, hcs] at hhead
          simpa using hhead
        exact trimStart_trimEnd_cons hblank
  rw [trim, hfront, trim, trimEnd_trimEnd]

theorem trim_eq_self (h : ∀ c ∈ cs, isBlank c = false) : trim cs = cs := by
  have hfront : trimStart cs = cs := by
    cases cs with
    | nil => rfl
    | cons c cs => exact trimStart_cons (h c List.mem_cons_self)
  rw [trim, hfront]
  rcases List.eq_nil_or_concat cs with rfl | ⟨front, last, rfl⟩
  · rfl
  · rw [List.concat_eq_append] at h ⊢
    exact trimEnd_concat_of_not_blank front
      (h last (List.mem_append_right front List.mem_cons_self))

theorem trim_isInfix (cs : List Char) : trim cs <:+: cs :=
  (trimEnd_isPrefix _).isInfix.trans (List.dropWhile_suffix isBlank).isInfix

theorem holds_iff : holds part cs = true ↔ part <:+: cs := by
  induction cs with
  | nil => rw [holds, List.isEmpty_iff, List.infix_nil]
  | cons c cs ih =>
      rw [holds, Bool.or_eq_true, ih, List.isPrefixOf_iff_prefix, List.infix_cons_iff]

theorem trimmed_trimmed (s : String) : trimmed (trimmed s) = trimmed s := by
  rw [trimmed, trimmed, String.toList_ofList, trim_trim]

theorem raised_trimmed (s : String) : raised (trimmed s) = raised s := by
  rw [raised, trimmed, String.toList_ofList, trim_trim, raised]

/-- What a trimmed text holds, the whole text holds. -/
theorem holds_of_holds_trimmed {s : String} (h : holds part (trimmed s).toList = true) :
    holds part s.toList = true := by
  rw [trimmed, String.toList_ofList, holds_iff] at h
  exact holds_iff.2 (h.trans (trim_isInfix s.toList))

end Text

namespace InstanceState

/-- A mode that was kept as it was reported is kept again: it has no blanks at its ends, and these
are dropped before it is compared. -/
theorem parse_of_parse_eq_other {output mode : String} (h : parse output = other mode) :
    parse mode = other mode := by
  rw [parse] at h
  split at h
  · cases h
  · next herror =>
      have htrimmed : ¬Text.holds "ERROR".toList (Text.trimmed output).toList = true :=
        fun hholds => herror (Text.holds_of_holds_trimmed hholds)
      split at h
      case h_6 hopened hmounted hpending hempty hmissing =>
        cases h
        rw [parse, if_neg htrimmed, Text.raised_trimmed, Text.trimmed_trimmed]
        split
        · next heq => exact absurd heq hopened
        · next heq => exact absurd heq hmounted
        · next heq => exact absurd heq hpending
        · next heq => exact absurd heq hempty
        · next heq => exact absurd heq hmissing
        · rfl
      all_goals cases h

theorem parse_keyword_parse (output : String) : parse (parse output).keyword = parse output := by
  cases hmode : parse output with
  | other mode => exact parse_of_parse_eq_other hmode
  | _ => decide

end InstanceState

end ClusterWatch
