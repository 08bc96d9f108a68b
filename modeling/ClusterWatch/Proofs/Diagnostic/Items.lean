import ClusterWatch.Diagnostic.Output
import ClusterWatch.Proofs.Text.Cutting
import ClusterWatch.Proofs.Text.Padding

/-!
Items between characters that cut a text.

A character that cuts keeps the items on its sides apart, and blanks at the ends of an item do not
belong to it. So whatever consists of both may stand before a text and behind it, and makes no
difference between its items either.
Main statements: `itemsBetween_append_cons` and `itemsBetween_pad`.
-/

namespace ClusterWatch.Diagnostic

variable {cuts : Char → Bool} {before after cs : List Char} {c : Char}

/-- The items between the characters that cut, without blanks around them; empty ones are left
out. -/
def itemsBetween (cuts : Char → Bool) (cs : List Char) : List String :=
  (((cs.splitOnP cuts).map Text.trim).filter (!·.isEmpty)).map String.ofList

theorem commaItems_eq (cs : List Char) : commaItems cs = itemsBetween (· == ',') cs := by
  rw [commaItems, Text.splitAt_eq_splitOnP, itemsBetween]

theorem dropReturns_append (cs rest : List Char) :
    dropReturns (cs ++ rest) = dropReturns cs ++ dropReturns rest :=
  List.filter_append cs rest

theorem itemsBetween_append_cons (hcut : cuts c = true) (cs rest : List Char) :
    itemsBetween cuts (cs ++ c :: rest) = itemsBetween cuts cs ++ itemsBetween cuts rest := by
  simp only [itemsBetween, List.splitOnP_append_cons cs rest hcut, List.map_append,
    List.filter_append]

/-- Without a cut there is one item, or none if there are only blanks. -/
theorem itemsBetween_of_uncut (h : ∀ c ∈ cs, cuts c = false) :
    itemsBetween cuts cs =
      if (Text.trim cs).isEmpty then [] else [String.ofList (Text.trim cs)] := by
  rw [itemsBetween, List.splitOnP_eq_singleton h, List.map_singleton, List.filter_singleton]
  cases (Text.trim cs).isEmpty <;> rfl

theorem itemsBetween_nil (cuts : Char → Bool) : itemsBetween cuts [] = [] :=
  itemsBetween_of_uncut nofun

/-- The text consists of blanks and characters that cut. -/
def IsFiller (cuts : Char → Bool) (cs : List Char) : Prop :=
  ∀ c ∈ cs, Text.isBlank c = true ∨ cuts c = true

instance (cuts : Char → Bool) (cs : List Char) : Decidable (IsFiller cuts cs) :=
  List.decidableBAll _ cs

theorem isFiller_nil (cuts : Char → Bool) : IsFiller cuts [] :=
  fun _ h => absurd h List.not_mem_nil

/-- The place of the last cut, if there is one. -/
theorem exists_last_cut (cuts : Char → Bool) (cs : List Char) :
    (∀ c ∈ cs, cuts c = false) ∨
      ∃ front c back, cs = front ++ c :: back ∧ cuts c = true ∧ ∀ d ∈ back, cuts d = false := by
  induction cs with
  | nil => exact Or.inl nofun
  | cons c cs ih =>
      rcases ih with huncut | ⟨front, d, back, rfl, hd, hback⟩
      · cases hc : cuts c with
        | false => exact Or.inl (List.forall_mem_cons.2 ⟨hc, huncut⟩)
        | true => exact Or.inr ⟨[], c, cs, rfl, hc, huncut⟩
      · exact Or.inr ⟨c :: front, d, back, rfl, hd, hback⟩

theorem itemsBetween_cons (hc : Text.isBlank c = true ∨ cuts c = true) (cs : List Char) :
    itemsBetween cuts (c :: cs) = itemsBetween cuts cs := by
  cases hcut : cuts c with
  | true =>
      rw [← List.nil_append (c :: cs), itemsBetween_append_cons hcut, itemsBetween_nil,
        List.nil_append]
  | false =>
      have hblank : Text.isBlank c = true := by
        simpa [hcut] using hc
      obtain ⟨piece, pieces, hpieces⟩ :=
        List.exists_cons_of_ne_nil (List.splitOnP_ne_nil cuts cs)
      have htrim : Text.trim (c :: piece) = Text.trim piece := by
        rw [Text.trim, Text.trimStart, List.dropWhile_cons_of_pos hblank, Text.trim, Text.trimStart]
      rw [itemsBetween, List.splitOnP_cons_eq_if_modifyHead, hcut, if_neg Bool.false_ne_true,
        hpieces, List.modifyHead_cons, List.map_cons, htrim, ← List.map_cons, ← hpieces,
        itemsBetween]

theorem itemsBetween_concat (hc : Text.isBlank c = true ∨ cuts c = true) (cs : List Char) :
    itemsBetween cuts (cs ++ [c]) = itemsBetween cuts cs := by
  cases hcut : cuts c with
  | true => rw [itemsBetween_append_cons hcut, itemsBetween_nil, List.append_nil]
  | false =>
      have hblank : Text.AllBlank [c] :=
        List.forall_mem_singleton.2 (by simpa [hcut] using hc)
      -- the blank goes to the last piece, which no cut divides
      have huncut : ∀ back : List Char, (∀ d ∈ back, cuts d = false) →
          itemsBetween cuts (back ++ [c]) = itemsBetween cuts back := by
        intro back hback
        have htrim : Text.trim (back ++ [c]) = Text.trim back :=
          Text.trim_pad Text.allBlank_nil hblank back
        have hall : ∀ d ∈ back ++ [c], cuts d = false :=
          List.forall_mem_append.2 ⟨hback, List.forall_mem_singleton.2 hcut⟩
        rw [itemsBetween_of_uncut hall, itemsBetween_of_uncut hback, htrim]
      rcases exists_last_cut cuts cs with hcs | ⟨front, d, back, rfl, hd, hback⟩
      · exact huncut cs hcs
      · rw [List.append_assoc, List.cons_append, itemsBetween_append_cons hd, huncut back hback,
          itemsBetween_append_cons hd]

/-- What cuts or is blank adds nothing before a text and behind it. -/
theorem itemsBetween_pad (hbefore : IsFiller cuts before) (hafter : IsFiller cuts after)
    (cs : List Char) : itemsBetween cuts (before ++ cs ++ after) = itemsBetween cuts cs := by
  have hback : ∀ cs, itemsBetween cuts (cs ++ after) = itemsBetween cuts cs := by
    induction after using List.reverseRecOn with
    | nil => exact fun cs => by rw [List.append_nil]
    | append_singleton front last ih =>
        obtain ⟨hfront, hlast⟩ := List.forall_mem_append.1 hafter
        intro cs
        rw [← List.append_assoc, itemsBetween_concat (hlast last (List.mem_singleton_self last)),
          ih hfront]
  rw [hback]
  induction before with
  | nil => rfl
  | cons c before ih =>
      obtain ⟨hc, hbefore⟩ := List.forall_mem_cons.1 hbefore
      rw [List.cons_append, itemsBetween_cons hc, ih hbefore]

end ClusterWatch.Diagnostic
