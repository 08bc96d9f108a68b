import ClusterWatch.Json.Basic
import ClusterWatch.Proofs.Dict
import Mathlib.Data.List.Forall2
import Mathlib.Data.List.Nodup

/-!
Values taken out of JSON as they were put in.

Lists, optional values, dictionaries and counts are taken out again if their parts are, and a record
of distinct names has one value in the slot of each field.
-/

namespace ClusterWatch

namespace Json

variable {α β : Type}

@[simp]
theorem text?_text (s : String) : (text s).text? = some s :=
  rfl

@[simp]
theorem bool?_bool (b : Bool) : (bool b).bool? = some b :=
  rfl

theorem text?_eq_some_iff {json : Json} {s : String} : json.text? = some s ↔ json = text s := by
  cases json <;> simp [text?]

theorem bool?_eq_some_iff {json : Json} {b : Bool} : json.bool? = some b ↔ json = bool b := by
  cases json <;> simp [bool?]

theorem uint64?_eq_some_iff {json : Json} {n : UInt64} :
    json.uint64? = some n ↔ json = integer n.toNat := by
  cases json with
  | integer i =>
      rw [uint64?, Option.ite_none_right_eq_some, Option.some.injEq, integer.injEq]
      constructor
      · rintro ⟨⟨hpos, hlt⟩, rfl⟩
        have hsmall : i.toNat < UInt64.size := (Int.toNat_lt hpos).2 hlt
        rw [UInt64.toNat_ofNat_of_lt' hsmall, Int.toNat_of_nonneg hpos]
      · rintro rfl
        have hsmall : n.toNat < UInt64.size := n.toNat_lt
        refine ⟨⟨Int.natCast_nonneg _, by exact_mod_cast hsmall⟩, ?_⟩
        rw [Int.toNat_natCast, UInt64.ofNat_toNat]
  | _ => simp [uint64?]

theorem default?_eq_some_iff {decode : Json → Option α} {value a : α}
    {slot : Option Json} :
    default? value decode slot = some a ↔
      (∃ json, slot = some json ∧ decode json = some a) ∨ slot = none ∧ a = value := by
  cases slot <;> simp [default?, eq_comm]

theorem mapM_eq_some_iff {f : α → Option β} {as : List α} {bs : List β} :
    as.mapM f = some bs ↔ List.Forall₂ (fun a b => f a = some b) as bs := by
  constructor
  · intro h
    induction as generalizing bs with
    | nil =>
        obtain rfl := Option.some.inj h
        exact List.Forall₂.nil
    | cons a as ih =>
        simp only [List.mapM_cons, Option.bind_eq_bind, Option.bind_eq_some_iff] at h
        obtain ⟨b, hab, rest, hrest, heq⟩ := h
        obtain rfl := Option.some.inj heq
        exact List.Forall₂.cons hab (ih hrest)
  · intro h
    induction h with
    | nil => rfl
    | cons hab _ ih => simp [List.mapM_cons, hab, ih]

theorem list?_array_map {decode : Json → Option α} {encode : α → Json} {as : List α}
    (h : ∀ a ∈ as, decode (encode a) = some a) :
    list? decode (array (as.map encode)) = some as := by
  apply mapM_eq_some_iff.2
  rw [List.forall₂_map_left_iff, List.forall₂_same]
  exact h

/-- What an array decodes to was decoded one by one. -/
theorem exists_of_list? {decode : Json → Option α} {json : Json} {as : List α}
    (h : list? decode json = some as) : ∀ a ∈ as, ∃ item, decode item = some a := by
  cases json with
  | array items =>
      have hitems := mapM_eq_some_iff.1 h
      induction hitems with
      | nil => exact nofun
      | cons hitem hrest ih =>
          intro a ha
          rcases List.mem_cons.1 ha with rfl | ha
          · exact ⟨_, hitem⟩
          · exact ih (mapM_eq_some_iff.2 hrest) a ha
  | _ => cases h

theorem list?_texts (items : List String) : list? text? (texts items) = some items :=
  list?_array_map fun _ _ => rfl

/-- An optional value, if `null` stands for no value. -/
theorem absent?_nullable {decode : Json → Option α} {encode : α → Json} {value : Option α}
    (hnull : decode null = none) (h : ∀ a ∈ value, decode (encode a) = some a) :
    absent? decode (some (nullable encode value)) = some value := by
  cases value with
  | none => rfl
  | some a =>
      have hdecode := h a rfl
      have hne : encode a ≠ null := by
        intro heq
        rw [heq, hnull] at hdecode
        cases hdecode
      rw [absent?, nullable, optional?]
      · rw [hdecode]
        rfl
      · exact hne

/-- A value that was there was decoded. -/
theorem exists_of_absent? {decode : Json → Option α} {slot : Option Json} {a : α}
    (h : absent? decode slot = some (some a)) : ∃ json, decode json = some a := by
  cases slot with
  | none => cases h
  | some json =>
      rw [absent?] at h
      unfold optional? at h
      split at h
      · cases h
      · obtain ⟨b, hb, heq⟩ := Option.map_eq_some_iff.1 h
        obtain rfl := Option.some.inj heq
        exact ⟨_, hb⟩

theorem absent?_nullable_text (value : Option String) :
    absent? text? (some (nullable text value)) = some value :=
  absent?_nullable rfl fun _ _ => rfl

theorem dict?_ofDict (d : Dict String) : dict? (ofDict d) = some d := by
  rw [ofDict, record, dict?]
  refine Option.map_eq_some_iff.2 ⟨d.entries, mapM_eq_some_iff.2 ?_, d.ofList_entries⟩
  rw [List.forall₂_map_left_iff, List.forall₂_map_left_iff, List.forall₂_same]
  exact fun _ _ => rfl

theorem uint64?_count (n : UInt64) : uint64? (count n.toNat) = some n :=
  uint64?_eq_some_iff.2 rfl

/-- One member of a record of distinct names has the name of a field. -/
theorem slotByName_record {members : List (String × Json)} (hnames : (members.map (·.1)).Nodup)
    {member : String × Json} (hmember : member ∈ members) {field : Field}
    (hfield : field.name = member.1) :
    slotByName (members.map fun (name, value) => (some name, value)) field =
      some (some member.2) := by
  obtain ⟨before, after, rfl⟩ := List.append_of_mem hmember
  have hother : ∀ other ∈ before ++ after, other.1 ≠ member.1 := by
    intro other hmem heq
    rw [List.map_append, List.map_cons, List.nodup_middle, ← List.map_append] at hnames
    exact (List.nodup_cons.1 hnames).1 (heq ▸ List.mem_map_of_mem hmem)
  have hnone : ∀ part : List (String × Json), (∀ other ∈ part, other.1 ≠ member.1) →
      (part.map fun (name, value) => (some name, value)).filter (·.1 == some field.name) = [] := by
    intro part hpart
    rw [List.filter_eq_nil_iff]
    intro other hmem
    obtain ⟨entry, hentry, rfl⟩ := List.mem_map.1 hmem
    simpa [hfield] using hpart entry hentry
  have hfilter : ((before ++ member :: after).map fun (name, value) => (some name, value)).filter
      (·.1 == some field.name) = [(some member.1, member.2)] := by
    rw [List.map_append, List.map_cons, List.filter_append,
      List.filter_cons_of_pos (by simp [hfield]),
      hnone before fun other h => hother other (List.mem_append_left after h),
      hnone after fun other h => hother other (List.mem_append_right before h)]
    rfl
  rw [slotByName, hfilter]

/-- The slots of a record's own fields are its values. -/
theorem slots_record {fields : List Field} {members : List (String × Json)}
    (hfields : fields.map (·.name) = members.map (·.1)) (hnames : (members.map (·.1)).Nodup) :
    slots fields (record members) = some (members.map fun member => some member.2) := by
  have hreadable :
      (members.map fun (name, value) => (some name, value)).all (·.1.isSome) = true := by
    simp
  rw [record, slots, if_pos hreadable, mapM_eq_some_iff, List.forall₂_map_right_iff]
  have hsame : List.Forall₂ (· = ·) (fields.map (·.name)) (members.map (·.1)) := by
    rw [hfields, List.forall₂_same]
    exact fun _ _ => rfl
  rw [List.forall₂_map_left_iff, List.forall₂_map_right_iff] at hsame
  rw [List.forall₂_iff_zip] at hsame ⊢
  refine ⟨hsame.1, fun hmem => ?_⟩
  exact slotByName_record hnames (List.of_mem_zip hmem).2 (hsame.2 hmem)

end Json

end ClusterWatch
