import ClusterWatch.Proofs.Pointwise
import ClusterWatch.Proofs.Storage.Names
import ClusterWatch.Proofs.Text.Casing
import ClusterWatch.Proofs.Text.Cutting

/-!
What sanitizing keeps of a text.

The text in lower case falls apart into runs of letters and digits, each as long as it can be, and
what separates them. A sanitized text is these runs with one hyphen between them, so it falls apart
into the same runs when it is sanitized again.
Main statement: `sanitize_by_runs`.
-/

namespace ClusterWatch.Storage

variable {cs gap run : List Char} {runs : List (List Char)} {c : Char} {pending : Bool}

/-- The runs of name characters in a text, in their order. None is empty or goes on behind its end,
and all else is no name character. -/
inductive Runs : List Char → List (List Char) → Prop
  | none {gap : List Char} (hgap : ∀ c ∈ gap, isNameChar c = false) : Runs gap []
  | cons {gap run rest : List Char} {runs : List (List Char)}
      (hgap : ∀ c ∈ gap, isNameChar c = false) (hne : run ≠ [])
      (hrun : ∀ c ∈ run, isNameChar c = true) (hends : ∀ c ∈ rest.head?, isNameChar c = false)
      (hrest : Runs rest runs) : Runs (gap ++ (run ++ rest)) (run :: runs)

namespace Runs

theorem of_mem (h : Runs cs runs) (hmem : run ∈ runs) :
    run ≠ [] ∧ ∀ c ∈ run, isNameChar c = true := by
  induction h with
  | none => cases hmem
  | cons _ hne hrun _ _ ih =>
      rcases List.mem_cons.1 hmem with rfl | hmem
      · exact ⟨hne, hrun⟩
      · exact ih hmem

theorem skip (hc : isNameChar c = false) (h : Runs cs runs) : Runs (c :: cs) runs := by
  cases h with
  | none hgap => exact .none (List.forall_mem_cons.2 ⟨hc, hgap⟩)
  | cons hgap hne hrun hends hrest =>
      rw [← List.cons_append]
      exact .cons (List.forall_mem_cons.2 ⟨hc, hgap⟩) hne hrun hends hrest

/-- A text that begins with a run. -/
theorem start {rest : List Char} (hne : run ≠ []) (hrun : ∀ c ∈ run, isNameChar c = true)
    (hends : ∀ c ∈ rest.head?, isNameChar c = false) (hrest : Runs rest runs) :
    Runs (run ++ rest) (run :: runs) := by
  rw [← List.nil_append (run ++ rest)]
  exact .cons nofun hne hrun hends hrest

/-- A name character in front makes the first run longer or is a run of its own. -/
theorem exists_cons (hc : isNameChar c = true) (h : Runs cs runs) :
    ∃ runs', Runs (c :: cs) runs' := by
  by_cases hends : ∀ d ∈ cs.head?, isNameChar d = false
  · exact ⟨[c] :: runs, start (List.cons_ne_nil c []) (List.forall_mem_singleton.2 hc) hends h⟩
  · cases h with
    | none hgap => exact absurd (fun d hd => hgap d (List.mem_of_mem_head? hd)) hends
    | @cons gap run rest runs hgap _ hrun hrestEnds hrest =>
        cases gap with
        | cons d gap => exact absurd (by simpa using hgap d List.mem_cons_self) hends
        | nil => exact ⟨(c :: run) :: runs, start (List.cons_ne_nil c run)
            (List.forall_mem_cons.2 ⟨hc, hrun⟩) hrestEnds hrest⟩

end Runs

theorem exists_runs (cs : List Char) : ∃ runs, Runs cs runs := by
  induction cs with
  | nil => exact ⟨[], .none nofun⟩
  | cons c cs ih =>
      obtain ⟨runs, hruns⟩ := ih
      cases hc : isNameChar c with
      | false => exact ⟨runs, hruns.skip hc⟩
      | true => exact hruns.exists_cons hc

theorem hyphenate_gap (hgap : ∀ c ∈ gap, isNameChar c = false) (started pending : Bool)
    (cs : List Char) :
    hyphenate started pending (gap ++ cs) = hyphenate started (pending || !gap.isEmpty) cs := by
  induction gap generalizing pending with
  | nil => simp
  | cons c gap ih =>
      obtain ⟨hc, hgap⟩ := List.forall_mem_cons.1 hgap
      rw [List.cons_append, hyphenate, hc, if_neg Bool.false_ne_true, ih hgap]
      simp

/-- Behind a kept character a run is kept as it is. -/
theorem hyphenate_run (hrun : ∀ c ∈ run, isNameChar c = true) (cs : List Char) :
    hyphenate true false (run ++ cs) = run ++ hyphenate true false cs := by
  induction run with
  | nil => rfl
  | cons c run ih =>
      obtain ⟨hc, hrun⟩ := List.forall_mem_cons.1 hrun
      rw [List.cons_append, hyphenate, if_pos hc, Bool.and_false, if_neg Bool.false_ne_true,
        ih hrun, List.cons_append]

theorem hyphenate_run_of_ne_nil (hne : run ≠ []) (hrun : ∀ c ∈ run, isNameChar c = true)
    (started pending : Bool) (cs : List Char) :
    hyphenate started pending (run ++ cs) =
      (if started && pending then ['-'] else []) ++ (run ++ hyphenate true false cs) := by
  cases run with
  | nil => exact absurd rfl hne
  | cons c run =>
      obtain ⟨hc, hrun⟩ := List.forall_mem_cons.1 hrun
      rw [List.cons_append, hyphenate, if_pos hc, hyphenate_run hrun]
      split <;> rfl

/-- Once something is kept, every run that does not go on with it comes with a hyphen in front. -/
theorem Runs.hyphenate_started (h : Runs cs runs)
    (hends : pending = true ∨ ∀ c ∈ cs.head?, isNameChar c = false) :
    hyphenate true pending cs = runs.flatMap ('-' :: ·) := by
  induction h generalizing pending with
  | @none gap hgap =>
      rw [← List.append_nil gap, hyphenate_gap hgap, hyphenate, List.flatMap_nil]
  | @cons gap run rest runs hgap hne hrun hrestEnds hrest ih =>
      have hpending : (pending || !gap.isEmpty) = true := by
        rcases hends with rfl | hhead
        · rfl
        · cases gap with
          | cons d gap => simp
          | nil =>
              -- the text would begin with the run
              obtain ⟨d, run, rfl⟩ := List.exists_cons_of_ne_nil hne
              have hd := hrun d List.mem_cons_self
              rw [hhead d rfl] at hd
              cases hd
      rw [hyphenate_gap hgap, hpending, hyphenate_run_of_ne_nil hne hrun,
        ih (Or.inr hrestEnds), List.flatMap_cons]
      rfl

theorem intercalate_cons_eq_append_flatMap (sep : Char) (first : List Char)
    (rest : List (List Char)) :
    List.intercalate [sep] (first :: rest) = first ++ rest.flatMap (sep :: ·) := by
  induction rest generalizing first with
  | nil => simp
  | cons next rest ih => simp [List.intercalate_cons_cons, ih]

/-- Hyphenating puts one hyphen between the runs, and none before the first. -/
theorem Runs.hyphenate_eq (h : Runs cs runs) (pending : Bool) :
    hyphenate false pending cs = List.intercalate ['-'] runs := by
  cases h with
  | none hgap => rw [← List.append_nil cs, hyphenate_gap hgap, hyphenate, List.intercalate_nil]
  | cons hgap hne hrun hends hrest =>
      rw [hyphenate_gap hgap, hyphenate_run_of_ne_nil hne hrun,
        hrest.hyphenate_started (Or.inr hends), intercalate_cons_eq_append_flatMap]
      rfl

/-- The hyphens cut a sanitized text into its runs again, so a text has no others. -/
theorem Runs.unique {runs' : List (List Char)} (h : Runs cs runs) (h' : Runs cs runs') :
    runs = runs' := by
  have hcut : ∀ {runs}, Runs cs runs →
      (Text.splitAt '-' (hyphenate false false cs)).filter (!·.isEmpty) = runs := by
    intro runs h
    rw [h.hyphenate_eq]
    by_cases hnil : runs = []
    · subst hnil
      rfl
    · have hfree : ∀ run ∈ runs, '-' ∉ run := fun run hrun hmem =>
        ne_hyphen_of_isNameChar ((h.of_mem hrun).2 '-' hmem) rfl
      rw [Text.splitAt_intercalate hnil hfree, List.filter_eq_self]
      intro run hrun
      simpa using (h.of_mem hrun).1
  rw [← hcut h, hcut h']

/-- Runs with a hyphen between them are the runs of what they make. -/
theorem runs_intercalate (h : ∀ run ∈ runs, run ≠ [] ∧ ∀ c ∈ run, isNameChar c = true) :
    Runs (List.intercalate ['-'] runs) runs := by
  induction runs with
  | nil => exact .none nofun
  | cons run runs ih =>
      obtain ⟨⟨hne, hrun⟩, hruns⟩ := List.forall_mem_cons.1 h
      have hhyphen : isNameChar '-' = false := by
        decide
      cases runs with
      | nil =>
          have hone : Runs (run ++ []) [run] := .start hne hrun nofun (.none nofun)
          rw [List.append_nil] at hone
          rwa [List.intercalate_singleton]
      | cons next runs =>
          have hrest := (ih hruns).skip hhyphen
          have hends : ∀ c ∈ ('-' :: List.intercalate ['-'] (next :: runs)).head?,
              isNameChar c = false := by
            simpa using hhyphen
          rw [List.intercalate_cons_cons, List.append_assoc, List.singleton_append]
          exact Runs.start hne hrun hends hrest

theorem lowercaseAll_of_plain (h : ∀ c ∈ cs, isNameChar c = true ∨ c = '-') :
    Text.lowercaseAll cs = cs := by
  have hsmall : ∀ c ∈ cs, c.toNat < 0x80 ∧ ¬c.isUpper = true := by
    intro c hc
    rcases h c hc with hname | rfl
    · rw [isNameChar, Bool.or_eq_true, Text.isLower_iff, Char.isDigit_iff_toNat] at hname
      have hdigits : '0'.toNat = 48 ∧ '9'.toNat = 57 := ⟨rfl, rfl⟩
      rw [Text.isUpper_iff]
      omega
    · decide
  rw [Text.lowercaseAll_of_ascii fun c hc => (hsmall c hc).1]
  exact map_eq_self fun c hc =>
    (Text.toLower_cases c).resolve_right fun hupper => (hsmall c hc).2 hupper.1

/-- What was sanitized falls apart into the same runs, so it stays as it is. -/
theorem sanitizeChars_sanitizeChars (cs : List Char) :
    sanitizeChars (sanitizeChars cs) = sanitizeChars cs := by
  obtain ⟨runs, hruns⟩ := exists_runs (Text.lowercaseAll cs)
  have heq : sanitizeChars cs = List.intercalate ['-'] runs := hruns.hyphenate_eq false
  have hplain : ∀ c ∈ sanitizeChars cs, isNameChar c = true ∨ c = '-' := fun c hc =>
    isNameChar_or_eq_hyphen_of_mem hc
  have hagain : Runs (sanitizeChars cs) runs := by
    rw [heq]
    exact runs_intercalate fun run hrun => hruns.of_mem hrun
  calc
    sanitizeChars (sanitizeChars cs)
        = hyphenate false false (sanitizeChars cs) := by
          rw [sanitizeChars, lowercaseAll_of_plain hplain]
    _ = List.intercalate ['-'] runs := hagain.hyphenate_eq false
    _ = sanitizeChars cs := heq.symm

theorem head?_hyphenate_ne (pending : Bool) (cs : List Char) :
    (hyphenate false pending cs).head? ≠ some '-' := by
  induction cs generalizing pending with
  | nil => exact nofun
  | cons c cs ih =>
      rw [hyphenate, Bool.false_and, if_neg Bool.false_ne_true]
      split
      · next hc => simpa using ne_hyphen_of_isNameChar hc
      · exact ih true

/-- A text is sanitized to the runs of letters and digits that it has in lower case, with a hyphen
between two of them. It then holds nothing else, neither begins nor ends with a hyphen, has no two
of them side by side, and is sanitized to itself. -/
theorem sanitize_by_runs (name : String) :
    (∃ runs, Runs (Text.lowercaseAll name.toList) runs ∧
      (∀ other, Runs (Text.lowercaseAll name.toList) other → other = runs) ∧
      (sanitize name).toList = List.intercalate ['-'] runs) ∧
    (∀ c ∈ (sanitize name).toList, isNameChar c = true ∨ c = '-') ∧
    (sanitize name).toList.head? ≠ some '-' ∧ (sanitize name).toList.getLast? ≠ some '-' ∧
    SingleHyphens (sanitize name).toList ∧
    sanitize (sanitize name) = sanitize name := by
  have hchars : (sanitize name).toList = sanitizeChars name.toList := by
    rw [sanitize, String.toList_ofList]
  rw [hchars]
  obtain ⟨runs, hruns⟩ := exists_runs (Text.lowercaseAll name.toList)
  refine ⟨⟨runs, hruns, fun other hother => hother.unique hruns, hruns.hyphenate_eq false⟩,
    fun c hc => isNameChar_or_eq_hyphen_of_mem hc, head?_hyphenate_ne _ _,
    getLast?_hyphenate_ne _ _ _, singleHyphens_hyphenate _ _ _, ?_⟩
  rw [sanitize, hchars, sanitizeChars_sanitizeChars, ← sanitize]

example : sanitize "\u212Aay\u0130o__1" = "kayi-o-1" := by decide

end ClusterWatch.Storage
