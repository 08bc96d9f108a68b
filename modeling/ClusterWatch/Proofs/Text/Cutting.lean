import ClusterWatch.Text.Segments

/-!
Text put together with separators is cut where it was put together.

Cutting is local: a separator between two texts keeps the pieces of both apart. Two cuts, the one
within the other, are one cut at either separator, and a function of lines that a carriage return at
the end makes no difference to sees just what stands between line feeds.
Main statements: `splitAt_append_cons`, `splitAt_intercalate`, `flatMap_splitAt`, `flatMap_lines`,
`cutFirst_append` and `cutLast_append`.
-/

namespace ClusterWatch.Text

variable {sep c : Char} {cs : List Char}

theorem splitAt_cons_of_ne (h : c ≠ sep) (cs : List Char) :
    splitAt sep (c :: cs) = (splitAt sep cs).modifyHead (c :: ·) := by
  rw [splitAt, if_neg h]
  split
  · next hnil => exact absurd hnil (splitAt_ne_nil sep cs)
  · next piece pieces hpieces => rw [hpieces, List.modifyHead_cons]

theorem splitAt_eq_splitOnP (sep : Char) (cs : List Char) :
    splitAt sep cs = cs.splitOnP (· == sep) := by
  induction cs with
  | nil => rfl
  | cons c cs ih =>
      rw [List.splitOnP_cons_eq_if_modifyHead, ← ih]
      split
      · next hc => rw [beq_iff_eq.1 hc, splitAt_sep]
      · next hc => exact splitAt_cons_of_ne (fun heq => hc (beq_iff_eq.2 heq)) cs

theorem splitAt_append_cons (sep : Char) (cs rest : List Char) :
    splitAt sep (cs ++ sep :: rest) = splitAt sep cs ++ splitAt sep rest := by
  simp only [splitAt_eq_splitOnP]
  exact List.splitOnP_append_cons cs rest (beq_self_eq_true sep)

theorem splitAt_of_not_mem (h : sep ∉ cs) : splitAt sep cs = [cs] := by
  induction cs with
  | nil => rfl
  | cons c cs ih =>
      obtain ⟨hc, hcs⟩ := List.ne_and_not_mem_of_not_mem_cons h
      rw [splitAt, if_neg (Ne.symm hc), ih hcs]

theorem splitAt_append (h : sep ∉ cs) (rest : List Char) :
    splitAt sep (cs ++ sep :: rest) = cs :: splitAt sep rest := by
  rw [splitAt_append_cons, splitAt_of_not_mem h, List.singleton_append]

/-- Pieces without the separator come back from the text that they make with it between them. -/
theorem splitAt_intercalate {pieces : List (List Char)} (hne : pieces ≠ [])
    (h : ∀ piece ∈ pieces, sep ∉ piece) : splitAt sep (List.intercalate [sep] pieces) = pieces := by
  induction pieces with
  | nil => exact absurd rfl hne
  | cons piece pieces ih =>
      obtain ⟨hpiece, hpieces⟩ := List.forall_mem_cons.1 h
      cases pieces with
      | nil =>
          rw [List.intercalate_singleton]
          exact splitAt_of_not_mem hpiece
      | cons next pieces =>
          rw [List.intercalate_cons_cons, List.append_assoc, List.singleton_append,
            splitAt_append hpiece, ih (List.cons_ne_nil _ _) hpieces]

/-- Text put together holds what its pieces hold, and else only separators. -/
theorem of_mem_intercalate {between : List Char} {pieces : List (List Char)} {c : Char}
    (h : c ∈ List.intercalate between pieces) : c ∈ between ∨ ∃ piece ∈ pieces, c ∈ piece := by
  induction pieces with
  | nil => cases h
  | cons piece pieces ih =>
      cases pieces with
      | nil =>
          rw [List.intercalate_singleton] at h
          exact Or.inr ⟨piece, List.mem_cons_self, h⟩
      | cons next pieces =>
          rw [List.intercalate_cons_cons, List.append_assoc, List.mem_append, List.mem_append] at h
          rcases h with h | h | h
          · exact Or.inr ⟨piece, List.mem_cons_self, h⟩
          · exact Or.inl h
          · exact (ih h).imp_right fun ⟨other, hother, hc⟩ =>
              ⟨other, List.mem_cons_of_mem piece hother, hc⟩

theorem mem_intercalate {between piece : List Char} {pieces : List (List Char)} {c : Char}
    (h : piece ∈ pieces) (hc : c ∈ piece) : c ∈ List.intercalate between pieces := by
  induction pieces with
  | nil => cases h
  | cons first pieces ih =>
      cases pieces with
      | nil =>
          rw [List.intercalate_singleton]
          exact List.mem_singleton.1 h ▸ hc
      | cons next pieces =>
          rw [List.intercalate_cons_cons, List.append_assoc]
          rcases List.mem_cons.1 h with rfl | h
          · exact List.mem_append_left _ hc
          · exact List.mem_append_right _ (List.mem_append_right _ (ih h))

theorem mem_of_mem_splitAt {piece : List Char} {c : Char} (h : piece ∈ splitAt sep cs)
    (hc : c ∈ piece) : c ∈ cs := by
  rw [← intercalate_splitAt sep cs]
  exact mem_intercalate h hc

/-- Characters taken out of a text, but no separators, are taken out of its pieces. -/
theorem splitAt_filter {p : Char → Bool} (h : p sep = true) (cs : List Char) :
    splitAt sep (cs.filter p) = (splitAt sep cs).map (·.filter p) := by
  induction cs with
  | nil => rfl
  | cons c cs ih =>
      obtain ⟨piece, pieces, hpieces⟩ := List.exists_cons_of_ne_nil (splitAt_ne_nil sep cs)
      rw [hpieces, List.map_cons] at ih
      by_cases hc : c = sep
      · rw [hc, List.filter_cons_of_pos h, splitAt_sep, splitAt_sep, ih, hpieces]
        rfl
      · rw [splitAt_cons_of_ne hc, hpieces, List.modifyHead_cons, List.map_cons]
        by_cases hp : p c = true
        · rw [List.filter_cons_of_pos hp, List.filter_cons_of_pos hp, splitAt_cons_of_ne hc, ih,
            List.modifyHead_cons]
        · rw [List.filter_cons_of_neg hp, List.filter_cons_of_neg hp, ih]

/-- Pieces cut once more are those of one cut at both separators. -/
theorem flatMap_splitAt (outer inner : Char) (cs : List Char) :
    (splitAt outer cs).flatMap (splitAt inner) =
      cs.splitOnP fun c => c == outer || c == inner := by
  induction cs with
  | nil => rfl
  | cons c cs ih =>
      obtain ⟨piece, pieces, hpieces⟩ := List.exists_cons_of_ne_nil (splitAt_ne_nil outer cs)
      rw [List.splitOnP_cons_eq_if_modifyHead, ← ih]
      by_cases houter : c = outer
      · rw [houter, splitAt_sep, List.flatMap_cons, if_pos (by simp)]
        rfl
      · rw [splitAt_cons_of_ne houter, hpieces, List.modifyHead_cons, List.flatMap_cons,
          List.flatMap_cons]
        by_cases hinner : c = inner
        · rw [hinner, splitAt_sep, if_pos (by simp), List.cons_append]
        · obtain ⟨first, rest, hfirst⟩ := List.exists_cons_of_ne_nil (splitAt_ne_nil inner piece)
          rw [splitAt_cons_of_ne hinner, hfirst, if_neg (by simp [houter, hinner])]
          rfl

section lines

variable {β : Type} {f : List Char → List β}

theorem dropFinalReturn_cases (cs : List Char) :
    cs = dropFinalReturn cs ∨ cs = dropFinalReturn cs ++ ['\r'] := by
  fun_induction dropFinalReturn cs with
  | case1 => exact Or.inl rfl
  | case2 => exact Or.inr rfl
  | case3 c cs _ ih => exact ih.imp (congrArg (c :: ·)) (congrArg (c :: ·))

/-- Where a carriage return at its end makes no difference to a line and an empty one counts for
nothing, the lines of a text are the pieces between line feeds. -/
theorem flatMap_lines (hnil : f [] = []) (hreturn : ∀ piece, f (piece ++ ['\r']) = f piece)
    (cs : List Char) : (lines cs).flatMap f = (splitAt '\n' cs).flatMap f := by
  have hdrop : ∀ piece, f (dropFinalReturn piece) = f piece := by
    intro piece
    rcases dropFinalReturn_cases piece with heq | heq
    · rw [← heq]
    · calc
        f (dropFinalReturn piece) = f (dropFinalReturn piece ++ ['\r']) := (hreturn _).symm
        _ = f piece := by rw [← heq]
  rw [lines]
  generalize splitAt '\n' cs = pieces
  fun_induction linesOfPieces pieces with
  | case1 => rfl
  | case2 last hempty =>
      rw [List.isEmpty_iff.1 hempty, List.flatMap_singleton, hnil, List.flatMap_nil]
  | case3 last hsome => rfl
  | case4 piece pieces _ ih => rw [List.flatMap_cons, List.flatMap_cons, hdrop, ih]

end lines

theorem cutFirst_append (h : sep ∉ cs) (rest : List Char) :
    cutFirst sep (cs ++ sep :: rest) = some (cs, rest) := by
  induction cs with
  | nil => rw [List.nil_append, cutFirst, if_pos rfl]
  | cons c cs ih =>
      obtain ⟨hc, hcs⟩ := List.ne_and_not_mem_of_not_mem_cons h
      rw [List.cons_append, cutFirst, if_neg (Ne.symm hc), ih hcs, Option.map_some]

theorem cutLast_append {rest : List Char} (h : sep ∉ rest) (cs : List Char) :
    cutLast sep (cs ++ sep :: rest) = some (cs, rest) := by
  induction cs with
  | nil => rw [List.nil_append, cutLast, cutLast_eq_none_iff.2 h, if_pos rfl]
  | cons c cs ih => rw [List.cons_append, cutLast, ih]

end ClusterWatch.Text
