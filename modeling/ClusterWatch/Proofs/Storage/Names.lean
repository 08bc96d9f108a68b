import ClusterWatch.Storage.Name
import Mathlib.Data.List.Chain
import Mathlib.Data.List.DropRight

/-!
Names of storage objects: what they look like, and when two of them are the same.

A sanitized text never has two hyphens side by side, so at most one of them ends up at a cut. The
digits of the digest stand in a fixed place behind the tag, and the tag of a claim goes on where
that of a volume has its hyphen, so a name tells its kind and its digits whatever the cluster is
called.
Main statement: `named_resourceName`.
-/

namespace ClusterWatch.Storage

section hyphens

variable {cs whole fit : List Char} {c : Char} {started gap : Bool}

/-- No two hyphens stand side by side. -/
def SingleHyphens (cs : List Char) : Prop :=
  cs.IsChain fun a b => ¬(a = '-' ∧ b = '-')

theorem ne_hyphen_of_isNameChar (h : isNameChar c = true) : c ≠ '-' := by
  rintro rfl
  exact absurd h (by decide)

theorem SingleHyphens.cons (hc : c ≠ '-') (h : SingleHyphens cs) : SingleHyphens (c :: cs) := by
  apply List.isChain_cons.2
  exact ⟨fun _ _ hboth => hc hboth.1, h⟩

theorem SingleHyphens.hyphen_cons_cons (hc : c ≠ '-') (h : SingleHyphens cs) :
    SingleHyphens ('-' :: c :: cs) := by
  apply List.isChain_cons_cons.2
  exact ⟨fun hboth => hc hboth.2, h.cons hc⟩

theorem isNameChar_or_eq_hyphen_of_mem (h : c ∈ hyphenate started gap cs) :
    isNameChar c = true ∨ c = '-' := by
  induction cs generalizing started gap with
  | nil => cases h
  | cons first rest ih =>
      rw [hyphenate] at h
      split at h
      · next hfirst =>
          split at h
          · rcases List.mem_cons.1 h with rfl | h
            · exact Or.inr rfl
            · rcases List.mem_cons.1 h with rfl | h
              · exact Or.inl hfirst
              · exact ih h
          · rcases List.mem_cons.1 h with rfl | h
            · exact Or.inl hfirst
            · exact ih h
      · exact ih h

theorem singleHyphens_hyphenate (started gap : Bool) (cs : List Char) :
    SingleHyphens (hyphenate started gap cs) := by
  induction cs generalizing started gap with
  | nil => exact List.isChain_nil
  | cons first rest ih =>
      rw [hyphenate]
      split
      · next hfirst =>
          have hne := ne_hyphen_of_isNameChar hfirst
          split
          · exact (ih true false).hyphen_cons_cons hne
          · exact (ih true false).cons hne
      · exact ih started true

theorem getLast?_hyphenate_ne (started gap : Bool) (cs : List Char) :
    (hyphenate started gap cs).getLast? ≠ some '-' := by
  induction cs generalizing started gap with
  | nil => exact nofun
  | cons first rest ih =>
      have hkept : isNameChar first = true →
          (first :: hyphenate true false rest).getLast? ≠ some '-' := by
        intro hfirst
        rw [List.getLast?_cons]
        cases hlast : (hyphenate true false rest).getLast? with
        | none => simpa using ne_hyphen_of_isNameChar hfirst
        | some last => exact hlast ▸ ih true false
      rw [hyphenate]
      split
      · next hfirst =>
          split
          · rw [List.getLast?_cons_cons]
            exact hkept hfirst
          · exact hkept hfirst
      · exact ih started true

theorem dropFinalHyphens_eq_self (h : cs.getLast? ≠ some '-') : dropFinalHyphens cs = cs := by
  apply List.rdropWhile_eq_self_iff.2
  intro hne hlast
  apply h
  rw [List.getLast?_eq_some_getLast hne, beq_iff_eq.1 hlast]

/-- Of single hyphens at most one is dropped at the back. -/
theorem dropFinalHyphens_cases (h : SingleHyphens cs) :
    cs = dropFinalHyphens cs ∨ cs = dropFinalHyphens cs ++ ['-'] := by
  rcases List.eq_nil_or_concat cs with rfl | ⟨front, last, rfl⟩
  · exact Or.inl rfl
  · rw [List.concat_eq_append] at h ⊢
    by_cases hlast : last = '-'
    · subst hlast
      have hfront : front.getLast? ≠ some '-' := by
        intro hhyphen
        obtain ⟨-, -, hjoin⟩ := List.isChain_append.1 h
        exact hjoin '-' hhyphen '-' rfl ⟨rfl, rfl⟩
      have hdrop : dropFinalHyphens (front ++ ['-']) = front :=
        (List.rdropWhile_concat_pos (· == '-') front '-' rfl).trans
          (dropFinalHyphens_eq_self hfront)
      exact Or.inr (by rw [hdrop])
    · have hkeep : (front ++ [last]).getLast? ≠ some '-' := by
        simpa using hlast
      exact Or.inl (dropFinalHyphens_eq_self hkeep).symm

theorem getLast?_dropFinalHyphens_ne (cs : List Char) :
    (dropFinalHyphens cs).getLast? ≠ some '-' := by
  intro hlast
  obtain ⟨hne, heq⟩ := List.mem_getLast?_eq_getLast hlast
  exact List.rdropWhile_last_not (· == '-') cs hne (beq_iff_eq.2 heq.symm)

/-- `kept` is the longest part at the front of `whole` that fits into `room` characters, less a
hyphen at its end. -/
structure IsCut (room : Nat) (whole kept : List Char) : Prop where
  fit : ∃ fit, fit <+: whole ∧ fit.length ≤ room ∧
    (∀ other, other <+: whole → other.length ≤ room → other.length ≤ fit.length) ∧
    (fit = kept ∨ fit = kept ++ ['-'])
  getLast?_ne : kept.getLast? ≠ some '-'

theorem isCut_shorten (room : Nat) (hsingle : SingleHyphens whole)
    (hlast : whole.getLast? ≠ some '-') : IsCut room whole (shorten room whole) := by
  have hlongest : ∀ other, other <+: whole → other.length ≤ room →
      other.length ≤ (whole.take room).length := by
    intro other hother hroom
    rw [List.length_take]
    exact Nat.le_min.2 ⟨hroom, hother.length_le⟩
  have hfit : whole.take room = shorten room whole ∨
      whole.take room = shorten room whole ++ ['-'] := by
    rw [shorten]
    split
    · exact dropFinalHyphens_cases (hsingle.take room)
    · next hroom => exact Or.inl (List.take_of_length_le (Nat.le_of_not_lt hroom))
  refine ⟨⟨whole.take room, List.take_prefix room whole, List.length_take_le room whole,
    hlongest, hfit⟩, ?_⟩
  rw [shorten]
  split
  · exact getLast?_dropFinalHyphens_ne _
  · exact hlast

theorem IsCut.length_le {room : Nat} {kept : List Char} (h : IsCut room whole kept) :
    kept.length ≤ room := by
  obtain ⟨fit, -, hroom, -, hfit⟩ := h.fit
  rcases hfit with rfl | rfl
  · exact hroom
  · rw [List.length_append] at hroom
    omega

theorem IsCut.mem {room : Nat} {kept : List Char} (h : IsCut room whole kept) (hc : c ∈ kept) :
    c ∈ whole := by
  obtain ⟨fit, hwhole, -, -, hfit⟩ := h.fit
  apply hwhole.subset
  rcases hfit with rfl | rfl
  · exact hc
  · exact List.mem_append_left _ hc

end hyphens

section digits

def hexDigits : List Char :=
  "0123456789abcdef".toList

theorem mem_hexDigits_of_mem_hex {path : String} {c : Char} (h : c ∈ Sha1.hex path) :
    c ∈ hexDigits := by
  have hdigit : ∀ n, n < 16 → Nat.digitChar n ∈ hexDigits := by
    decide
  rw [Sha1.hex] at h
  obtain ⟨word, -, hword⟩ := List.mem_flatMap.1 h
  obtain ⟨shift, -, rfl⟩ := List.mem_map.1 hword
  exact hdigit _ (Nat.mod_lt _ (by decide))

theorem isNameChar_of_mem_hexDigits {c : Char} (h : c ∈ hexDigits) : isNameChar c = true := by
  have hall : hexDigits.all isNameChar = true := by
    decide
  exact List.all_eq_true.1 hall c h

theorem mem_hexDigits_of_mem_shortHash {path : String} {c : Char} (h : c ∈ shortHash path) :
    c ∈ hexDigits :=
  mem_hexDigits_of_mem_hex (List.mem_of_mem_take h)

theorem length_shortHash (path : String) : (shortHash path).length = hashLength := by
  rw [shortHash, List.length_take, Sha1.length_hex]
  rfl

end digits

section names

variable {kind kind' : Kind} {path path' cluster cluster' : String} {c : Char}

/-- What a name begins with: the tag of its kind and the digits that it keeps of the digest. -/
def stem (kind : Kind) (path : String) : List Char :=
  kind.tag.toList ++ '-' :: shortHash path

/-- The characters that a name has left for its cluster, behind the stem and a hyphen. -/
def room (kind : Kind) (path : String) : Nat :=
  maxLength - ((stem kind path).length + 1)

theorem length_stem_lt (kind : Kind) (path : String) : (stem kind path).length < maxLength := by
  rw [stem, List.length_append, List.length_cons, length_shortHash]
  cases kind <;> decide

theorem isNameChar_or_eq_hyphen_of_mem_stem (h : c ∈ stem kind path) :
    isNameChar c = true ∨ c = '-' := by
  rcases List.mem_append.1 h with htag | hhash
  · have htags : kind.tag.toList.all (fun c => isNameChar c || c == '-') = true := by
      cases kind <;> decide
    simpa using List.all_eq_true.1 htags c htag
  · rcases List.mem_cons.1 hhash with rfl | hhash
    · exact Or.inr rfl
    · exact Or.inl (isNameChar_of_mem_hexDigits (mem_hexDigits_of_mem_shortHash hhash))

theorem getLast?_stem_ne (kind : Kind) (path : String) : (stem kind path).getLast? ≠ some '-' := by
  intro hlast
  have hne : shortHash path ≠ [] := by
    rw [← List.length_pos_iff, length_shortHash]
    decide
  rw [stem, List.getLast?_append_of_ne_nil _ (List.cons_ne_nil _ _),
    List.getLast?_cons_of_ne_nil hne] at hlast
  have hdigit := mem_hexDigits_of_mem_shortHash (List.mem_of_getLast? hlast)
  exact absurd hdigit (by decide)

/-- The characters are a name that the platform accepts, made of the stem and, behind a hyphen, as
much of the sanitized cluster as fits. -/
structure IsNameOf (kind : Kind) (path cluster : String) (name : List Char) : Prop where
  length_le : name.length ≤ maxLength
  plain : ∀ c ∈ name, isNameChar c = true ∨ c = '-'
  getLast?_ne : name.getLast? ≠ some '-'
  parts : ∃ kept, IsCut (room kind path) (sanitizeChars cluster.toList) kept ∧
    name = stem kind path ++ if kept = [] then [] else '-' :: kept

/-- What a name keeps of its cluster. -/
def keptCluster (kind : Kind) (path cluster : String) : List Char :=
  shorten (room kind path) (sanitizeChars cluster.toList)

theorem nameChars_eq (kind : Kind) (path cluster : String) :
    nameChars kind path cluster =
      stem kind path ++
        if keptCluster kind path cluster = [] then []
        else '-' :: keptCluster kind path cluster := by
  have hparts : nameChars kind path cluster =
      if (keptCluster kind path cluster).isEmpty then stem kind path
      else stem kind path ++ '-' :: keptCluster kind path cluster :=
    rfl
  rw [hparts]
  cases keptCluster kind path cluster with
  | nil => exact (List.append_nil _).symm
  | cons first rest => rfl

theorem isCut_keptCluster (kind : Kind) (path cluster : String) :
    IsCut (room kind path) (sanitizeChars cluster.toList) (keptCluster kind path cluster) :=
  isCut_shorten _ (singleHyphens_hyphenate _ _ _) (getLast?_hyphenate_ne _ _ _)

theorem isNameOf_nameChars (kind : Kind) (path cluster : String) :
    IsNameOf kind path cluster (nameChars kind path cluster) := by
  have hcut := isCut_keptCluster kind path cluster
  have hstem := length_stem_lt kind path
  have hkept := hcut.length_le
  rw [room] at hkept
  rw [nameChars_eq]
  generalize keptCluster kind path cluster = kept at hcut hkept
  refine ⟨?_, ?_, ?_, kept, hcut, rfl⟩
  · split
    · rw [List.append_nil]
      exact hstem.le
    · rw [List.length_append, List.length_cons]
      omega
  · intro c hc
    rcases List.mem_append.1 hc with hc | hc
    · exact isNameChar_or_eq_hyphen_of_mem_stem hc
    · split at hc
      · cases hc
      · rcases List.mem_cons.1 hc with rfl | hc
        · exact Or.inr rfl
        · exact isNameChar_or_eq_hyphen_of_mem (hcut.mem hc)
  · split
    · rw [List.append_nil]
      exact getLast?_stem_ne kind path
    · next hne =>
        rw [List.getLast?_append_of_ne_nil _ (List.cons_ne_nil _ _),
          List.getLast?_cons_of_ne_nil hne]
        exact hcut.getLast?_ne

/-- A stem with anything behind it tells the kind and the digits. -/
theorem eq_of_stem_append_eq {rest rest' : List Char}
    (h : stem kind path ++ rest = stem kind' path' ++ rest') :
    kind = kind' ∧ shortHash path = shortHash path' := by
  have hkind : kind = kind' := by
    cases kind <;> cases kind'
    · rfl
    · exact absurd (congrArg (·[6]?) h) (by simp [stem, Kind.tag])
    · exact absurd (congrArg (·[6]?) h) (by simp [stem, Kind.tag])
    · rfl
  subst hkind
  refine ⟨rfl, ?_⟩
  have hlength : (stem kind path).length = (stem kind path').length := by
    simp only [stem, List.length_append, List.length_cons, length_shortHash]
  have hstem := List.append_inj_left h hlength
  exact (List.cons.inj (List.append_cancel_left hstem)).2

theorem eq_of_resourceName_eq
    (h : resourceName kind path cluster = resourceName kind' path' cluster') :
    kind = kind' ∧ shortHash path = shortHash path' := by
  have hchars := String.ofList_injective h
  rw [nameChars_eq, nameChars_eq] at hchars
  exact eq_of_stem_append_eq hchars

/-- The path matters only through the digits kept of its digest, and the cluster only through its
sanitized name. -/
theorem resourceName_congr (kind : Kind) (hpath : shortHash path = shortHash path')
    (hcluster : sanitize cluster = sanitize cluster') :
    resourceName kind path cluster = resourceName kind path' cluster' := by
  have hchars := String.ofList_injective hcluster
  simp only [resourceName, nameChars, hpath, hchars]

/-- Names of storage objects are at most as long as the platform accepts, hold small letters, digits
and hyphens, end in no hyphen, and are made of their stem and as much of the sanitized cluster as
fits. They depend on the cluster through its sanitized name alone; equal names have one kind and the
same digits of the digest; and for one cluster, names of a kind are equal exactly if these digits
are. -/
theorem named_resourceName :
    (∀ kind path cluster,
      IsNameOf kind path cluster (resourceName kind path cluster).toList) ∧
    (∀ path, (shortHash path).length = 8 ∧ (∀ c ∈ shortHash path, c ∈ hexDigits) ∧
      shortHash path <+: Sha1.hex path) ∧
    (∀ kind path cluster cluster', sanitize cluster = sanitize cluster' →
      resourceName kind path cluster = resourceName kind path cluster') ∧
    (∀ kind kind' path path' cluster cluster',
      resourceName kind path cluster = resourceName kind' path' cluster' →
        kind = kind' ∧ shortHash path = shortHash path') ∧
    ∀ kind path path' cluster,
      resourceName kind path cluster = resourceName kind path' cluster ↔
        shortHash path = shortHash path' := by
  refine ⟨?_, ?_, ?_, ?_, ?_⟩
  · intro kind path cluster
    rw [resourceName, String.toList_ofList]
    exact isNameOf_nameChars kind path cluster
  · intro path
    refine ⟨length_shortHash path, ?_, List.take_prefix hashLength (Sha1.hex path)⟩
    intro c hc
    exact mem_hexDigits_of_mem_shortHash hc
  · intro kind path cluster cluster' hcluster
    exact resourceName_congr kind rfl hcluster
  · intro kind kind' path path' cluster cluster' h
    exact eq_of_resourceName_eq h
  · intro kind path path' cluster
    constructor
    · intro h
      exact (eq_of_resourceName_eq h).2
    · intro h
      exact resourceName_congr kind h rfl

/-- Two spellings of one cluster give one name, and a volume is never named like a claim. -/
theorem named_resourceName_spellings :
    sanitize "Sales_DB" = sanitize " sales db" ∧
      resourceName .volume "/dev/sdb" "Sales_DB" = resourceName .volume "/dev/sdb" " sales db" ∧
      resourceName .volumeClaim "/dev/sdb" "Sales_DB" ≠
        resourceName .volume "/dev/sdb" "Sales_DB" := by
  have hspelling : sanitize "Sales_DB" = sanitize " sales db" := by
    decide
  obtain ⟨-, -, hcluster, hkind, -⟩ := named_resourceName
  refine ⟨hspelling, hcluster .volume "/dev/sdb" _ _ hspelling, fun h => ?_⟩
  obtain ⟨hclaim, -⟩ := hkind _ _ _ _ _ _ h
  cases hclaim

end names

end ClusterWatch.Storage
