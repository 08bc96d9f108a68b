import ClusterWatch.Proofs.Text.Trimming
import Mathlib.Data.List.DropRight

/-!
Text with blanks around it.

A text is what trimming leaves of it, with blanks on both sides, and these do not count: what is
left is the same for all of them. A change of single characters that tells blanks and others apart
may come before the trimming or after it.
Main statements: `exists_eq_pad`, `trim_pad`, `mem_trim_iff` and `trim_flatMap`.
-/

namespace ClusterWatch.Text

variable {cs before after part : List Char} {c : Char}

/-- The text holds blanks alone. -/
def AllBlank (cs : List Char) : Prop :=
  ∀ c ∈ cs, isBlank c = true

instance (cs : List Char) : Decidable (AllBlank cs) :=
  List.decidableBAll _ cs

/-- The text neither begins nor ends with a blank. -/
structure IsTrimmed (cs : List Char) : Prop where
  head : ∀ c ∈ cs.head?, isBlank c = false
  last : ∀ c ∈ cs.getLast?, isBlank c = false

theorem allBlank_nil : AllBlank [] :=
  fun _ h => absurd h List.not_mem_nil

theorem AllBlank.append (h : AllBlank before) (hafter : AllBlank after) :
    AllBlank (before ++ after) :=
  List.forall_mem_append.2 ⟨h, hafter⟩

theorem trimEnd_eq_rdropWhile (cs : List Char) : trimEnd cs = cs.rdropWhile isBlank := by
  induction cs using List.reverseRecOn with
  | nil => rfl
  | append_singleton front last ih =>
      cases hlast : isBlank last with
      | true => rw [trimEnd_concat_of_blank front hlast, ih, List.rdropWhile_concat_pos _ _ _ hlast]
      | false =>
          have hnot : ¬isBlank last = true := by
            rw [hlast]
            exact Bool.false_ne_true
          rw [trimEnd_concat_of_not_blank front hlast, List.rdropWhile_concat_neg _ _ _ hnot]

theorem trimStart_append (h : AllBlank before) (cs : List Char) :
    trimStart (before ++ cs) = trimStart cs :=
  List.dropWhile_append_of_pos h

theorem trimEnd_append (h : AllBlank after) (cs : List Char) :
    trimEnd (cs ++ after) = trimEnd cs := by
  rw [trimEnd_eq_rdropWhile, trimEnd_eq_rdropWhile, List.rdropWhile, List.rdropWhile,
    List.reverse_append, List.dropWhile_append_of_pos fun c hc => h c (List.mem_reverse.1 hc)]

/-- Blanks around a text do not count. -/
theorem trim_pad (hbefore : AllBlank before) (hafter : AllBlank after) (cs : List Char) :
    trim (before ++ cs ++ after) = trim cs := by
  rw [List.append_assoc, trim, trimStart_append hbefore, trim, trimStart, List.dropWhile_append]
  split
  · next hempty =>
      -- only blanks: nothing is left on either side of the equation
      have hrest : List.dropWhile isBlank after = [] :=
        List.dropWhile_eq_nil_iff.2 hafter
      rw [hrest, trimStart, List.isEmpty_iff.1 hempty]
  · exact trimEnd_append hafter _

/-- A text is what trimming leaves of it, with blanks around. -/
theorem exists_eq_pad (cs : List Char) :
    ∃ before after, AllBlank before ∧ AllBlank after ∧ cs = before ++ trim cs ++ after := by
  refine ⟨cs.takeWhile isBlank, (trimStart cs).rtakeWhile isBlank,
    fun c => List.mem_takeWhile_imp, fun c => List.mem_rtakeWhile_imp, ?_⟩
  rw [List.append_assoc, trim, trimEnd_eq_rdropWhile, List.rdropWhile_append_rtakeWhile, trimStart,
    List.takeWhile_append_dropWhile]

/-- What stands between two characters that are not blank is not trimmed away. -/
theorem trim_append_cons (hbefore : ¬AllBlank before) (hafter : ¬AllBlank after) (c : Char) :
    trim (before ++ c :: after) = trimStart before ++ c :: trimEnd after := by
  have hstart : (before.dropWhile isBlank).isEmpty = false := by
    rw [List.isEmpty_eq_false_iff, Ne, List.dropWhile_eq_nil_iff]
    exact hbefore
  have hend : (after.reverse.dropWhile isBlank).isEmpty = false := by
    rw [List.isEmpty_eq_false_iff, Ne, List.dropWhile_eq_nil_iff]
    exact fun hall => hafter fun d hd => hall d (List.mem_reverse.2 hd)
  rw [trim, trimStart, List.dropWhile_append, hstart, if_neg Bool.false_ne_true, ← trimStart,
    trimEnd_eq_rdropWhile, trimEnd_eq_rdropWhile, List.rdropWhile, List.rdropWhile]
  simp only [List.reverse_append, List.reverse_cons, List.append_assoc]
  rw [List.dropWhile_append, hend, if_neg Bool.false_ne_true]
  simp

theorem isTrimmed_trim (cs : List Char) : IsTrimmed (trim cs) where
  head := by
    intro c hc
    have hhead : (trimStart cs).head? = some c := by
      obtain ⟨rest, hrest⟩ := trimEnd_isPrefix (trimStart cs)
      rw [← hrest, List.head?_append, ← trim, hc, Option.some_or]
    have hnot := List.head?_dropWhile_not isBlank cs
    rw [← trimStart, hhead] at hnot
    exact hnot
  last := by
    intro c hc
    rw [trim, trimEnd_eq_rdropWhile] at hc
    obtain ⟨hne, rfl⟩ := List.mem_getLast?_eq_getLast hc
    simpa using List.rdropWhile_last_not isBlank _ hne

theorem IsTrimmed.trim_eq (h : IsTrimmed cs) : trim cs = cs := by
  have hfront : trimStart cs = cs := by
    cases cs with
    | nil => rfl
    | cons c cs => exact trimStart_cons (h.head c rfl)
  rw [trim, hfront]
  rcases List.eq_nil_or_concat cs with rfl | ⟨front, last, rfl⟩
  · rfl
  · rw [List.concat_eq_append] at h ⊢
    exact trimEnd_concat_of_not_blank front (h.last last List.getLast?_concat)

theorem isTrimmed_iff_trim_eq : IsTrimmed cs ↔ trim cs = cs := by
  refine ⟨IsTrimmed.trim_eq, fun h => ?_⟩
  rw [← h]
  exact isTrimmed_trim cs

instance (cs : List Char) : Decidable (IsTrimmed cs) :=
  decidable_of_iff _ isTrimmed_iff_trim_eq.symm

/-- Blanks behind a trimmed text are trimmed away again. -/
theorem IsTrimmed.trim_append (h : IsTrimmed cs) (hafter : AllBlank after) :
    trim (cs ++ after) = cs := by
  have hpad := trim_pad allBlank_nil hafter cs
  rwa [List.nil_append, h.trim_eq] at hpad

/-- A blank in a trimmed text has something that is not blank on each side. -/
theorem IsTrimmed.not_allBlank {front back : List Char} (h : IsTrimmed (front ++ c :: back))
    (hc : isBlank c = true) : ¬AllBlank front ∧ ¬AllBlank back := by
  constructor
  · intro hblank
    have hhead : ∃ d ∈ (front ++ c :: back).head?, isBlank d = true := by
      cases front with
      | nil => exact ⟨c, rfl, hc⟩
      | cons d front => exact ⟨d, rfl, hblank d List.mem_cons_self⟩
    obtain ⟨d, hd, hdblank⟩ := hhead
    rw [h.head d hd] at hdblank
    cases hdblank
  · intro hblank
    have hlast : ∃ d ∈ (front ++ c :: back).getLast?, isBlank d = true := by
      rcases List.eq_nil_or_concat back with rfl | ⟨rest, d, rfl⟩
      · exact ⟨c, List.getLast?_concat, hc⟩
      · rw [List.concat_eq_append] at hblank ⊢
        rw [← List.cons_append, ← List.append_assoc]
        exact ⟨d, List.getLast?_concat, hblank d (List.mem_append_right rest List.mem_cons_self)⟩
    obtain ⟨d, hd, hdblank⟩ := hlast
    rw [h.last d hd] at hdblank
    cases hdblank

/-- A blank is kept if something that is not blank comes before it and behind it, and not else. -/
theorem mem_trim_iff (hc : isBlank c = true) : c ∈ trim cs ↔
    ∃ front back, cs = front ++ c :: back ∧ ¬AllBlank front ∧ ¬AllBlank back := by
  constructor
  · intro hmem
    obtain ⟨before, after, -, -, heq⟩ := exists_eq_pad cs
    obtain ⟨front, back, hparts⟩ := List.append_of_mem hmem
    have htrimmed := isTrimmed_trim cs
    rw [hparts] at htrimmed heq
    obtain ⟨hfront, hback⟩ := htrimmed.not_allBlank hc
    refine ⟨before ++ front, back ++ after, by simpa using heq, fun hblank => ?_, fun hblank => ?_⟩
    · exact hfront fun d hd => hblank d (List.mem_append_right before hd)
    · exact hback fun d hd => hblank d (List.mem_append_left after hd)
  · rintro ⟨front, back, rfl, hfront, hback⟩
    rw [trim_append_cons hfront hback]
    exact List.mem_append_right _ List.mem_cons_self

theorem IsTrimmed.of_forall (h : ∀ c ∈ cs, isBlank c = false) : IsTrimmed cs where
  head := fun c hc => h c (List.mem_of_mem_head? hc)
  last := fun c hc => h c (List.mem_of_mem_getLast? hc)

theorem IsTrimmed.of_map (h : IsTrimmed cs) (hmap : part.map isBlank = cs.map isBlank) :
    IsTrimmed part where
  head := by
    intro c hc
    have hhead : isBlank c ∈ (cs.map isBlank).head? := by
      rw [← hmap, List.head?_map]
      exact Option.mem_map_of_mem isBlank hc
    rw [List.head?_map] at hhead
    obtain ⟨d, hd, hsame⟩ := Option.map_eq_some_iff.1 hhead
    rw [← hsame, h.head d hd]
  last := by
    intro c hc
    have hlast : isBlank c ∈ (cs.map isBlank).getLast? := by
      rw [← hmap, List.getLast?_map]
      exact Option.mem_map_of_mem isBlank hc
    rw [List.getLast?_map] at hlast
    obtain ⟨d, hd, hsame⟩ := Option.map_eq_some_iff.1 hlast
    rw [← hsame, h.last d hd]

/-- What stands between two trimmed texts makes no difference to the ends. -/
theorem IsTrimmed.around (h : IsTrimmed before) (hne : before ≠ []) (hafter : IsTrimmed after)
    (hafterne : after ≠ []) (part : List Char) : IsTrimmed (before ++ part ++ after) where
  head := by
    intro c hc
    rw [List.append_assoc, List.head?_append_of_ne_nil _ hne] at hc
    exact h.head c hc
  last := by
    intro c hc
    rw [List.getLast?_append_of_ne_nil _ hafterne] at hc
    exact hafter.last c hc

theorem AllBlank.flatMap {f : Char → List Char} (h : AllBlank cs)
    (hblank : ∀ c, isBlank c = true → AllBlank (f c)) : AllBlank (cs.flatMap f) := by
  intro d hd
  obtain ⟨c, hc, hdc⟩ := List.mem_flatMap.1 hd
  exact hblank c (h c hc) d hdc

theorem IsTrimmed.flatMap {f : Char → List Char} (h : IsTrimmed cs)
    (hne : ∀ c, isBlank c = false → f c ≠ [])
    (hkept : ∀ c, isBlank c = false → ∀ d ∈ f c, isBlank d = false) : IsTrimmed (cs.flatMap f) where
  head := by
    intro d hd
    cases cs with
    | nil => cases hd
    | cons c rest =>
        have hc := h.head c rfl
        rw [List.flatMap_cons, List.head?_append_of_ne_nil _ (hne c hc)] at hd
        exact hkept c hc d (List.mem_of_mem_head? hd)
  last := by
    intro d hd
    rcases List.eq_nil_or_concat cs with rfl | ⟨front, c, rfl⟩
    · cases hd
    · rw [List.concat_eq_append] at h hd
      have hc := h.last c List.getLast?_concat
      rw [List.flatMap_append, List.flatMap_singleton,
        List.getLast?_append_of_ne_nil _ (hne c hc)] at hd
      exact hkept c hc d (List.mem_of_mem_getLast? hd)

/-- A change that keeps blanks blank and others not may come before or after trimming. -/
theorem trim_flatMap {f : Char → List Char} (hblank : ∀ c, isBlank c = true → AllBlank (f c))
    (hne : ∀ c, isBlank c = false → f c ≠ [])
    (hkept : ∀ c, isBlank c = false → ∀ d ∈ f c, isBlank d = false) (cs : List Char) :
    trim (cs.flatMap f) = (trim cs).flatMap f := by
  obtain ⟨before, after, hbefore, hafter, heq⟩ := exists_eq_pad cs
  calc
    trim (cs.flatMap f)
        = trim (before.flatMap f ++ (trim cs).flatMap f ++ after.flatMap f) := by
          rw [← List.flatMap_append, ← List.flatMap_append, ← heq]
    _ = trim ((trim cs).flatMap f) := trim_pad (hbefore.flatMap hblank) (hafter.flatMap hblank) _
    _ = (trim cs).flatMap f := ((isTrimmed_trim cs).flatMap hne hkept).trim_eq

theorem trim_map {f : Char → Char} (h : ∀ c, isBlank (f c) = isBlank c) (cs : List Char) :
    trim (cs.map f) = (trim cs).map f := by
  rw [List.map_eq_flatMap, List.map_eq_flatMap]
  apply trim_flatMap
  · intro c hc d hd
    rw [List.mem_singleton.1 hd, h, hc]
  · exact fun c _ => List.cons_ne_nil _ _
  · intro c hc d hd
    rw [List.mem_singleton.1 hd, h, hc]

end ClusterWatch.Text
