/-!
Cutting text at separators.

`splitAt sep` cuts at every occurrence of one character, `cutFirst sep` at the first one only, and
`lines` at line feeds, where a carriage return directly before a line feed belongs to the line
break and a final line break opens no further line.
-/

namespace ClusterWatch.Text

/-- The pieces between the occurrences of `sep`; always at least one piece. -/
def splitAt (sep : Char) : List Char → List (List Char)
  | [] => [[]]
  | c :: cs =>
    if c = sep then [] :: splitAt sep cs
    else
      match splitAt sep cs with
      | [] => [[c]]
      | piece :: pieces => (c :: piece) :: pieces

/-- What stands before and after the first `sep`, if there is one. -/
def cutFirst (sep : Char) : List Char → Option (List Char × List Char)
  | [] => none
  | c :: cs =>
    if c = sep then some ([], cs)
    else (cutFirst sep cs).map fun (before, after) => (c :: before, after)

/-- What stands before and after the last `sep`, if there is one. -/
def cutLast (sep : Char) : List Char → Option (List Char × List Char)
  | [] => none
  | c :: cs =>
    match cutLast sep cs with
    | some (before, after) => some (c :: before, after)
    | none => if c = sep then some ([], cs) else none

/-- Drops one carriage return at the back. -/
def dropFinalReturn : List Char → List Char
  | [] => []
  | ['\r'] => []
  | c :: cs => c :: dropFinalReturn cs

/-- The lines among pieces cut at line feeds: the last piece is a line only if it holds something,
and it keeps its carriage return, since no line feed ends it. -/
def linesOfPieces : List (List Char) → List (List Char)
  | [] => []
  | [last] => if last.isEmpty then [] else [last]
  | piece :: pieces => dropFinalReturn piece :: linesOfPieces pieces

/-- The lines of a text, without their line breaks. -/
def lines (cs : List Char) : List (List Char) :=
  linesOfPieces (splitAt '\n' cs)

theorem splitAt_ne_nil (sep : Char) (cs : List Char) : splitAt sep cs ≠ [] := by
  cases cs with
  | nil => simp [splitAt]
  | cons c cs =>
    rw [splitAt]
    split
    · simp
    · split <;> simp

theorem splitAt_sep (sep : Char) (cs : List Char) :
    splitAt sep (sep :: cs) = [] :: splitAt sep cs := by
  rw [splitAt, if_pos rfl]

theorem intercalate_splitAt (sep : Char) (cs : List Char) :
    List.intercalate [sep] (splitAt sep cs) = cs := by
  induction cs with
  | nil => rfl
  | cons c cs ih =>
    rw [splitAt]
    cases h : splitAt sep cs with
    | nil => exact absurd h (splitAt_ne_nil sep cs)
    | cons piece pieces =>
      rw [h] at ih
      split
      · next hc => simp [List.intercalate_cons_cons, ih, hc]
      · cases pieces with
        | nil => simp_all
        | cons next pieces => simp_all [List.intercalate_cons_cons]

theorem not_mem_of_mem_splitAt {sep : Char} {cs piece : List Char} (h : piece ∈ splitAt sep cs) :
    sep ∉ piece := by
  induction cs generalizing piece with
  | nil =>
    rw [splitAt, List.mem_singleton] at h
    rw [h]
    exact List.not_mem_nil
  | cons c cs ih =>
    rw [splitAt] at h
    split at h
    · rcases List.mem_cons.1 h with rfl | hrest
      · exact List.not_mem_nil
      · exact ih hrest
    · next hc =>
      split at h
      · next hnone => exact absurd hnone (splitAt_ne_nil sep cs)
      · next first rest hs =>
        rcases List.mem_cons.1 h with rfl | hrest
        · have hfirst : sep ∉ first := ih (hs ▸ List.mem_cons_self)
          exact List.not_mem_cons_of_ne_of_not_mem (Ne.symm hc) hfirst
        · exact ih (hs ▸ List.mem_cons_of_mem _ hrest)

theorem eq_of_cutFirst {sep : Char} {cs before after : List Char}
    (h : cutFirst sep cs = some (before, after)) : cs = before ++ sep :: after ∧ sep ∉ before := by
  induction cs generalizing before with
  | nil => simp [cutFirst] at h
  | cons c cs ih =>
    rw [cutFirst] at h
    split at h
    · next hc => simp_all
    · next hc =>
      obtain ⟨⟨b, a⟩, hba, heq⟩ := Option.map_eq_some_iff.1 h
      cases heq
      obtain ⟨rfl, hb⟩ := ih hba
      exact ⟨rfl, by simp [hb, Ne.symm hc]⟩

theorem cutLast_eq_none_iff {sep : Char} {cs : List Char} : cutLast sep cs = none ↔ sep ∉ cs := by
  induction cs with
  | nil => simp [cutLast]
  | cons c cs ih =>
    rw [cutLast]
    split
    · next h =>
      have : sep ∈ cs := by
        by_cases hm : sep ∈ cs
        · exact hm
        · simp [ih.2 hm] at h
      simp [this]
    · next h =>
      have : sep ∉ cs := ih.1 h
      split
      · next hc => simp [hc]
      · next hc => simp [this, Ne.symm hc]

theorem eq_of_cutLast {sep : Char} {cs before after : List Char}
    (h : cutLast sep cs = some (before, after)) : cs = before ++ sep :: after ∧ sep ∉ after := by
  induction cs generalizing before with
  | nil => simp [cutLast] at h
  | cons c cs ih =>
    rw [cutLast] at h
    split at h
    · next b a hba =>
      cases h
      obtain ⟨rfl, ha⟩ := ih hba
      exact ⟨rfl, ha⟩
    · next hn =>
      split at h
      · next hc =>
        cases h
        exact ⟨by rw [hc, List.nil_append], cutLast_eq_none_iff.1 hn⟩
      · simp at h

example : lines "a\r\nb\n\nc\r".toList = ["a".toList, "b".toList, [], "c\r".toList] := by decide
example : lines "a\n".toList = ["a".toList] := by decide
example : lines [] = [] := by decide
example : splitAt ',' ",a,".toList = [[], ['a'], []] := by decide

end ClusterWatch.Text
