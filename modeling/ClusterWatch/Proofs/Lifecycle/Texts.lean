import ClusterWatch.Proofs.Lifecycle.Precedence
import ClusterWatch.Proofs.Text.Casing

/-!
The state of a cluster from the texts of its nodes' states.

Texts are lowered before they are read. A keyword has ASCII letters only, and no `k`, so that a text
names the same state after it: no character beyond ASCII is lowered to a letter of a keyword.
Main statement: `aggregateRaw_by_named`.
-/

namespace ClusterWatch

namespace NodeState

variable {texts others unknown : List String} {cs : List Char} {c : Char} {state : NodeState}

/-- The states that texts name, each text read as it is given. -/
def named (texts : List String) : List NodeState :=
  texts.filterMap fun s => (parse s).toOption

theorem toOption_parse (s : String) : (parse s).toOption = ofChars? s.toList := by
  rw [parse]
  split
  · next state h => rw [h]; rfl
  · next h => rw [h]; rfl

theorem mem_named_iff : state ∈ named texts ↔ ∃ s ∈ texts, ofChars? s.toList = some state := by
  simp only [named, List.mem_filterMap, toOption_parse]

/-- A keyword has capital letters other than `K`. -/
theorem letters_of_ofKeyword? {keyword : String} (h : ofKeyword? keyword = some state) :
    (keyword.toList.all fun c => c.isUpper && c != 'K') = true := by
  unfold ofKeyword? at h
  split at h
  case h_14 => cases h
  all_goals decide

theorem isKept_of_isAlpha (c : Char) (h : c.isAlpha = true) :
    decide (c ≠ '_' ∧ c ≠ '-') = true := by
  rw [decide_eq_true_eq]
  constructor <;> rintro rfl <;> exact absurd h (by decide)

/-- A text with a `k` or a character beyond ASCII names no state. -/
theorem ofChars?_eq_none (hmem : c ∈ Text.trim cs) (h : c = 'k' ∨ 0x80 ≤ c.toNat) :
    ofChars? cs = none := by
  have hkept : c.toUpper ∈ (String.ofList (normalize cs)).toList := by
    rw [String.toList_ofList, normalize]
    refine List.mem_map_of_mem (List.mem_filter.2 ⟨hmem, ?_⟩)
    rw [decide_eq_true_eq]
    constructor <;> rintro rfl <;> exact absurd h (by decide)
  cases hstate : ofKeyword? (String.ofList (normalize cs)) with
  | none => rw [ofChars?, hstate]
  | some state =>
      have hletter := List.all_eq_true.1 (letters_of_ofKeyword? hstate) _ hkept
      rcases h with rfl | hwide
      · exact absurd hletter (by decide)
      · rw [Text.toUpper_of_wide hwide, Bool.and_eq_true] at hletter
        have hbounds := Text.bounds_of_isAlpha (Text.isAlpha_of_isUpper hletter.1)
        omega

theorem trim_lowered (s : String) : Text.trim (lowered s) = lowered s :=
  Text.trim_lowercaseText (Text.isTrimmed_trim s.toList)

/-- ASCII letters are raised to the same keyword before they are lowered and after it. -/
theorem normalize_lowered {s : String} (hascii : ∀ c ∈ Text.trim s.toList, c.toNat < 0x80) :
    normalize (lowered s) = normalize s.toList := by
  have hraised : ∀ c ∈ Text.trim s.toList, c.toLower.toUpper = c.toUpper := fun c hc =>
    Text.forall_ascii (P := fun c => c.toLower.toUpper = c.toUpper) (by decide) (hascii c hc)
  have hkept : (Text.trim s.toList).filter ((fun c => decide (c ≠ '_' ∧ c ≠ '-')) ∘ Char.toLower) =
      (Text.trim s.toList).filter fun c => c ≠ '_' ∧ c ≠ '-' :=
    List.filter_congr fun c _ => Text.apply_toLower isKept_of_isAlpha c
  rw [normalize, trim_lowered, lowered, Text.lowercaseText_of_ascii hascii, List.filter_map,
    List.map_map, hkept, normalize]
  exact List.map_congr_left fun c hc => hraised c (List.mem_of_mem_filter hc)

/-- A text names the same state when it is lowered. -/
theorem ofChars?_lowered (s : String) : ofChars? (lowered s) = ofChars? s.toList := by
  by_cases hascii : ∀ c ∈ Text.trim s.toList, c.toNat < 0x80
  · rw [ofChars?, ofChars?, normalize_lowered hascii]
  · push Not at hascii
    obtain ⟨c, hc, hwide⟩ := hascii
    obtain ⟨d, hd, hodd⟩ := Text.exists_mem_lowercaseText hc hwide
    rw [← lowered, ← trim_lowered] at hd
    rw [ofChars?_eq_none hd hodd, ofChars?_eq_none hc (Or.inr hwide)]

theorem aggregateRaw_eq (texts : List String) :
    aggregateRaw texts =
      if texts = [] then pending else if named texts = [] then available
      else aggregate (named texts) := by
  have hnamed : texts.filterMap (fun s => ofChars? (lowered s)) = named texts := by
    simp only [named, toOption_parse, ofChars?_lowered]
  simp only [aggregateRaw, hnamed, List.isEmpty_iff]

theorem aggregateRaw_append (hunknown : named unknown = []) (hne : named texts ≠ []) :
    aggregateRaw (texts ++ unknown) = aggregateRaw texts := by
  have hnamed : named (texts ++ unknown) = named texts := by
    rw [named, List.filterMap_append, ← named, ← named, hunknown, List.append_nil]
  have htexts : texts ≠ [] := by
    rintro rfl
    exact hne rfl
  rw [aggregateRaw_eq, aggregateRaw_eq, hnamed, if_neg htexts,
    if_neg (List.append_ne_nil_of_left_ne_nil htexts unknown)]

/-- It is enough to read each of the lowered texts once, in any order. -/
theorem aggregateRaw_of_distinct {distinct : List (List Char)}
    (h : ∀ cs, cs ∈ distinct ↔ ∃ s ∈ texts, lowered s = cs) :
    aggregateRaw texts =
      if distinct = [] then pending else if distinct.filterMap ofChars? = [] then available
      else aggregate (distinct.filterMap ofChars?) := by
  have hempty : texts = [] ↔ distinct = [] := by
    simp [List.eq_nil_iff_forall_not_mem, h]
  have hmem : ∀ state, state ∈ named texts ↔ state ∈ distinct.filterMap ofChars? := by
    intro state
    simp only [mem_named_iff, List.mem_filterMap, h, exists_exists_and_eq_and, ofChars?_lowered]
  have hnone : named texts = [] ↔ distinct.filterMap ofChars? = [] := by
    simp only [List.eq_nil_iff_forall_not_mem, hmem]
  simp only [aggregateRaw_eq, hempty, hnone, aggregate_congr hmem]

theorem aggregateRaw_congr (h : ∀ s, s ∈ texts ↔ s ∈ others) :
    aggregateRaw texts = aggregateRaw others := by
  have hlowered : ∀ cs, cs ∈ others.map lowered ↔ ∃ s ∈ texts, lowered s = cs := by
    simp only [List.mem_map, h, implies_true]
  rw [aggregateRaw_of_distinct hlowered, ← aggregateRaw_of_distinct fun _ => List.mem_map]

/-- The state of a cluster from texts is that from the states that the texts name as they are given:
pending without texts, available if none names a state. Texts that name none do not matter beside
one that does, and of all texts only matters which occur. -/
theorem aggregateRaw_by_named (texts : List String) :
    aggregateRaw texts =
        (if texts = [] then pending else if named texts = [] then available
        else aggregate (named texts)) ∧
      (∀ unknown, named unknown = [] → named texts ≠ [] →
        aggregateRaw (texts ++ unknown) = aggregateRaw texts) ∧
      (∀ others, (∀ s, s ∈ texts ↔ s ∈ others) → aggregateRaw texts = aggregateRaw others) :=
  ⟨aggregateRaw_eq texts, fun _ => aggregateRaw_append, fun _ => aggregateRaw_congr⟩

theorem aggregateRaw_by_named_spellings :
    let texts := ["\u212A", " Rac_Inst-Addition\n", "podAvailable"]
    let unknown := ["", "FA\u0130LED"]
    let others := ["podAvailable", "\u212A", " Rac_Inst-Addition\n", "\u212A"]
    named texts = [addNode, podAvailable] ∧ aggregateRaw texts = aggregate [addNode, podAvailable] ∧
      aggregateRaw (texts ++ unknown) = aggregateRaw texts ∧
      aggregateRaw texts = aggregateRaw others := by
  intro texts unknown others
  obtain ⟨hstates, happend, hsame⟩ := aggregateRaw_by_named texts
  have hnamed : named texts = [addNode, podAvailable] := by
    decide
  have hne : named texts ≠ [] := by
    rw [hnamed]
    exact List.cons_ne_nil _ _
  refine ⟨hnamed, ?_, happend unknown (by decide) hne, hsame others fun s => ?_⟩
  · rw [hstates, if_neg (List.cons_ne_nil _ _), if_neg hne, hnamed]
  · simp only [texts, others, List.mem_cons, List.not_mem_nil, or_false]
    tauto

end NodeState

end ClusterWatch
