import ClusterWatch.Proofs.Dict
import ClusterWatch.Proofs.Memory.Acceptance
import ClusterWatch.Proofs.Text.Decimal
import ClusterWatch.Spec.Sysctls

/-!
What becomes of a declared limit.

Two declared limits are passed on as they are written. A single one enters the computation as a
number and is written anew, so that it has to read back as that number. Where there is no memory to
compute from, nothing is tuned, and the single limit is left out. Main statement:
`declaredLimits_kernelParameters`.
-/

namespace ClusterWatch

namespace Memory

theorem unitOfReversed_of_digits {cs : List Char} (h : ∀ c ∈ cs, c.isDigit = true) :
    unitOfReversed cs = none := by
  unfold unitOfReversed
  split
  case h_7 => rfl
  all_goals
    have hdigit := h _ List.mem_cons_self
    exact absurd hdigit (by decide)

theorem trim_ne_nil_of_size? {value : String} {n : UInt64} (h : size? value = some n) :
    Text.trim value.toList ≠ [] := by
  intro hblank
  have hnone : bytes? value.toList = none := by
    rw [bytes?, hblank]
    rfl
  rw [size?, hnone] at h
  cases h

theorem size?_toString (n : UInt64) : size? (toString n) = some n := by
  have hdigits : (toString n).toList = Nat.toDigits 10 n.toNat := Nat.toList_repr
  have hnumeral := Decimal.isNumeral_toDigits n.toNat
  have hdigit := Decimal.isDigit_of_isNumeral hnumeral
  have hunit : unitOfReversed (Nat.toDigits 10 n.toNat).reverse = none :=
    unitOfReversed_of_digits fun c hc => hdigit c (List.mem_reverse.1 hc)
  have hbytes : bytes? (toString n).toList = some n.toNat := by
    rw [hdigits, bytes?, Decimal.trim_numeral hnumeral]
    simp only [Decimal.map_toUpper_of_isNumeral hnumeral, hunit]
    exact Decimal.readDigits?_toDigits n.toNat
  rw [size?, hbytes, Option.bind_some, if_pos n.toNat_lt, UInt64.ofNat_toNat]

def pages? (value : String) : Option UInt64 :=
  Decimal.readUInt64? (Text.trim value.toList)

theorem pages?_toString (n : UInt64) : pages? (toString n) = some n := by
  have hdigits : (toString n).toList = Nat.toDigits 10 n.toNat := Nat.toList_repr
  rw [pages?, hdigits, Decimal.trim_numeral (Decimal.isNumeral_toDigits n.toNat),
    Decimal.readUInt64?_toDigits]

namespace Sysctls

/-- The parameters give a value under a name, and it reads as the number. -/
def Gives (c : Sysctls) (name : String) (read? : String → Option UInt64) (n : UInt64) : Prop :=
  ∃ text, (name, text) ∈ c.toPairs ∧ read? text = some n

theorem nodup_names_toPairs (c : Sysctls) : (c.toPairs.map (·.1)).Nodup := by
  rw [toPairs]
  split
  · have hone : ∀ {α : Type} (given : Option α) (name : String) (text : α → String),
        ((given.toList.map fun value => (name, text value)).map (·.1)).Sublist [name] := by
      intro α given name text
      cases given with
      | none => exact List.nil_sublist _
      | some value => exact List.Sublist.refl _
    have hnames : [shmmaxName, shmallName, semName, shmmniName].Nodup := by
      decide
    apply List.Nodup.sublist _ hnames
    simp only [List.map_append]
    exact (((hone c.shmmax _ _).append (hone c.shmall _ _)).append (hone c.sem _ _)).append
      (hone c.shmmni _ _)
  · exact c.overrides.nodup_keys

theorem gives_shmmax_computed (shmmax shmall : UInt64) :
    (computed shmmax shmall).Gives shmmaxName size? shmmax :=
  ⟨_, List.mem_cons_self, size?_toString shmmax⟩

theorem gives_shmall_computed (shmmax shmall : UInt64) :
    (computed shmmax shmall).Gives shmallName pages? shmall :=
  ⟨_, List.mem_cons_of_mem _ List.mem_cons_self, pages?_toString shmall⟩

/-- Parameters that are passed on are given as they are written. -/
theorem mem_toPairs_of_find? {declared : Dict String} {name value : String}
    (h : declared.find? name = some value) :
    (name, value) ∈ ({ overrides := declared } : Sysctls).toPairs := by
  rw [toPairs, if_neg]
  · exact Dict.mem_entries_of_find? h
  · rw [Dict.isEmpty_eq_false_of_find? h]
    exact Bool.false_ne_true

end Sysctls

end Memory

namespace ClusterSpec

open Memory

variable {spec : ClusterSpec} {s : Sizing} {c : Sysctls} {size : Option String}
  {field value : String} {n pages : UInt64}

/-- No size is declared: there is no text, or it is blank or reads as zero. -/
def DeclaresNoSize (size : Option String) : Prop :=
  ∀ text, size = some text → Text.trim text.toList = [] ∨ size? text = some 0

def DeclaresBothLimits (spec : ClusterSpec) : Prop :=
  spec.sysctls.contains shmmaxName = true ∧ spec.sysctls.contains shmallName = true

/-- A limit alone, if any, is declared, and no memory to compute the other from. -/
structure LeavesLimitsOut (spec : ClusterSpec) : Prop where
  incomplete : ¬spec.DeclaresBothLimits
  container : DeclaresNoSize spec.memory.containerLimit
  sga : DeclaresNoSize spec.memory.sgaSize
  pga : DeclaresNoSize spec.memory.pgaSize

theorem parseOptionalSize_of_size? (h : size? value = some n) :
    parseOptionalSize field (some value) = .ok n := by
  have hblank : (Text.trim value.toList).isEmpty = false :=
    List.isEmpty_eq_false_iff.2 (trim_ne_nil_of_size? h)
  simp only [parseOptionalSize, hblank, Bool.false_eq_true, if_false, parseSize, h]

/-- A size that can be read is zero exactly if none is declared. -/
theorem eq_zero_iff_declaresNoSize (h : parseOptionalSize field size = .ok n) :
    n = 0 ↔ DeclaresNoSize size := by
  cases size with
  | none =>
      cases h
      exact iff_of_true rfl nofun
  | some text =>
      rw [parseOptionalSize] at h
      split at h
      · next hblank =>
          cases h
          refine iff_of_true rfl fun other hother => ?_
          cases hother
          exact Or.inl (List.isEmpty_iff.1 hblank)
      · next hblank =>
          rw [List.isEmpty_iff] at hblank
          have hread : size? text = some n := by
            rw [parseSize] at h
            split at h
            · next hsize => rw [hsize, Except.ok.inj h]
            · cases h
          constructor
          · rintro rfl other hother
            cases hother
            exact Or.inr hread
          · intro hnone
            rcases hnone text rfl with htrim | hzero
            · exact absurd htrim hblank
            · exact Option.some.inj (hread.symm.trans hzero)

/-- What the sizes of a declaration are read from. -/
theorem of_sizing (h : spec.sizing = .ok s) :
    parseOptionalSize "sgaSize" spec.memory.sgaSize = .ok s.sga ∧
      parseOptionalSize "pgaSize" spec.memory.pgaSize = .ok s.pga ∧
      parseOptionalSize "memory limit" spec.memory.containerLimit = .ok s.container ∧
      parseOptionalSize shmmaxName (spec.sysctls.find? shmmaxName) = .ok s.userShmmax ∧
      parseOptionalPages shmallName (spec.sysctls.find? shmallName) = .ok s.userShmall := by
  obtain ⟨sga, hsga, h⟩ := bind_eq_ok_iff.1 h
  obtain ⟨pga, hpga, h⟩ := bind_eq_ok_iff.1 h
  obtain ⟨container, hcontainer, h⟩ := bind_eq_ok_iff.1 h
  obtain ⟨hugePages, -, h⟩ := bind_eq_ok_iff.1 h
  obtain ⟨userShmmax, hshmmax, h⟩ := bind_eq_ok_iff.1 h
  obtain ⟨userShmall, hshmall, h⟩ := bind_eq_ok_iff.1 h
  cases h
  exact ⟨hsga, hpga, hcontainer, hshmmax, hshmall⟩

theorem declaresNothing_iff (h : spec.sizing = .ok s) : s.DeclaresNothing ↔
    DeclaresNoSize spec.memory.containerLimit ∧ DeclaresNoSize spec.memory.sgaSize ∧
      DeclaresNoSize spec.memory.pgaSize := by
  obtain ⟨hsga, hpga, hcontainer, -⟩ := of_sizing h
  rw [Sizing.DeclaresNothing, eq_zero_iff_declaresNoSize hcontainer,
    eq_zero_iff_declaresNoSize hsga, eq_zero_iff_declaresNoSize hpga]

theorem userShmmax_of_sizing (h : spec.sizing = .ok s)
    (hvalue : spec.sysctls.find? shmmaxName = some value) (hn : size? value = some n) :
    s.userShmmax = n := by
  obtain ⟨-, -, -, hshmmax, -⟩ := of_sizing h
  rw [hvalue, parseOptionalSize_of_size? hn] at hshmmax
  exact (Except.ok.inj hshmmax).symm

theorem userShmall_of_sizing (h : spec.sizing = .ok s)
    (hvalue : spec.sysctls.find? shmallName = some value)
    (hpages : pages? value = some pages) : s.userShmall = pages := by
  obtain ⟨-, -, -, -, hshmall⟩ := of_sizing h
  rw [pages?] at hpages
  simp only [hvalue, parseOptionalPages, hpages] at hshmall
  exact (Except.ok.inj hshmall).symm

/-- The parameters are those declared, if both limits are, or else follow from the sizes. -/
theorem cases_of_kernelParameters (h : spec.kernelParameters = .ok c) :
    (spec.DeclaresBothLimits ∧ c = { overrides := spec.sysctls }) ∨
      (¬spec.DeclaresBothLimits ∧ ∃ s, spec.sizing = .ok s ∧ s.sysctls = .ok c) := by
  rw [kernelParameters] at h
  split at h
  · next hboth => exact Or.inl ⟨Bool.and_eq_true_iff.1 hboth, (Except.ok.inj h).symm⟩
  · next hboth =>
      exact Or.inr ⟨fun hcomplete => hboth (Bool.and_eq_true_iff.2 hcomplete), bind_eq_ok_iff.1 h⟩

/-- With a single limit or none, the parameters are empty where there is no memory to compute from,
and elsewhere computed with the declared limit in its place. -/
theorem cases_of_incomplete (h : spec.kernelParameters = .ok c) (hincomplete :
    ¬spec.DeclaresBothLimits) :
    (spec.LeavesLimitsOut ∧ c = {}) ∨
      (¬spec.LeavesLimitsOut ∧ ∃ s shmmax shmall, spec.sizing = .ok s ∧
        c = Sysctls.computed shmmax shmall ∧ s.IsAnswer shmmax shmall) := by
  rcases cases_of_kernelParameters h with ⟨hboth, -⟩ | ⟨-, s, hsizing, hc⟩
  · exact absurd hboth hincomplete
  · obtain ⟨-, ⟨hnothing, rfl⟩ | ⟨hsome, hfits, shmmax, shmall, rfl, hlimit, hpages⟩⟩ :=
      Sizing.sysctls_eq_ok_iff.1 hc
    · obtain ⟨hcontainer, hsga, hpga⟩ := (declaresNothing_iff hsizing).1 hnothing
      exact Or.inl ⟨⟨hincomplete, hcontainer, hsga, hpga⟩, rfl⟩
    · refine Or.inr ⟨fun hleft => hsome ?_, s, shmmax, shmall, hsizing, rfl,
        Sizing.isAnswer_of_fits hfits hlimit hpages⟩
      exact (declaresNothing_iff hsizing).2 ⟨hleft.container, hleft.sga, hleft.pga⟩

/-- A declared limit is given exactly if it is not left out, provided that a computation keeps
it. -/
theorem gives_iff {name : String} {read? : String → Option UInt64}
    (h : spec.kernelParameters = .ok c) (hvalue : spec.sysctls.find? name = some value)
    (hn : read? value = some n)
    (hcomputed : ∀ s shmmax shmall, spec.sizing = .ok s → s.IsAnswer shmmax shmall →
      (Sysctls.computed shmmax shmall).Gives name read? n) :
    c.Gives name read? n ↔ ¬spec.LeavesLimitsOut := by
  by_cases hboth : spec.DeclaresBothLimits
  · rcases cases_of_kernelParameters h with ⟨-, rfl⟩ | ⟨hincomplete, -⟩
    · exact iff_of_true ⟨value, Sysctls.mem_toPairs_of_find? hvalue, hn⟩
        fun hleft => hleft.incomplete hboth
    · exact absurd hboth hincomplete
  · rcases cases_of_incomplete h hboth with
      ⟨hleft, rfl⟩ | ⟨hkept, s, shmmax, shmall, hsizing, rfl, hanswer⟩
    · refine iff_of_false ?_ (not_not_intro hleft)
      rintro ⟨text, htext, -⟩
      cases htext
    · exact iff_of_true (hcomputed s shmmax shmall hsizing hanswer) hkept

theorem gives_shmmax_iff (h : spec.kernelParameters = .ok c)
    (hvalue : spec.sysctls.find? shmmaxName = some value) (hn : size? value = some n)
    (hpos : 0 < n) : c.Gives shmmaxName size? n ↔ ¬spec.LeavesLimitsOut := by
  apply gives_iff h hvalue hn
  intro s shmmax shmall hsizing hanswer
  have huser := userShmmax_of_sizing hsizing hvalue hn
  rw [← huser, ← hanswer.declared (huser ▸ hpos)]
  exact Sysctls.gives_shmmax_computed shmmax shmall

theorem gives_shmall_iff (h : spec.kernelParameters = .ok c)
    (hvalue : spec.sysctls.find? shmallName = some value) (hpages : pages? value = some pages)
    (hpos : 0 < pages) : c.Gives shmallName pages? pages ↔ ¬spec.LeavesLimitsOut := by
  apply gives_iff h hvalue hpages
  intro s shmmax shmall hsizing hanswer
  have huser := userShmall_of_sizing hsizing hvalue hpages
  rw [← huser, ← hanswer.chosen (huser ▸ hpos)]
  exact Sysctls.gives_shmall_computed shmmax shmall

theorem eq_empty_of_leavesLimitsOut (h : spec.kernelParameters = .ok c)
    (hleft : spec.LeavesLimitsOut) : c = {} := by
  rcases cases_of_incomplete h hleft.incomplete with ⟨-, hc⟩ | ⟨hkept, -⟩
  · exact hc
  · exact absurd hleft hkept

/-- Parameters that are accepted give each name once, and under the name of a declared limit its
value, except where the limit is declared without the other one and without memory to compute from:
then there are no parameters. -/
theorem declaredLimits_kernelParameters (h : spec.kernelParameters = .ok c) :
    (c.toPairs.map (·.1)).Nodup ∧
      (∀ value n, spec.sysctls.find? shmmaxName = some value → size? value = some n → 0 < n →
        (c.Gives shmmaxName size? n ↔ ¬spec.LeavesLimitsOut)) ∧
      (∀ value pages, spec.sysctls.find? shmallName = some value → pages? value = some pages →
        0 < pages → (c.Gives shmallName pages? pages ↔ ¬spec.LeavesLimitsOut)) ∧
      (spec.LeavesLimitsOut → c = {}) :=
  ⟨c.nodup_names_toPairs, fun _ _ => gives_shmmax_iff h, fun _ _ => gives_shmall_iff h,
    eq_empty_of_leavesLimitsOut h⟩

/-- A cluster of one node with declared memory and declared parameters. -/
def tuned (memory : MemorySpec) (sysctls : Dict String) : ClusterSpec where
  name := "prod"
  topology := .cluster { nodeCount := 1, nodeName := "racnode" }
  memory := memory
  sysctls := sysctls

/-- A limit of sixteen gibibytes for a segment. -/
def sixteen : Dict String :=
  Dict.ofList [(shmmaxName, "16 gi")]

theorem declaredLimits_kernelParameters_sixteen :
    let spec := tuned { sgaSize := some "8Gi", containerLimit := some "32Gi" } sixteen
    spec.kernelParameters = .ok (Sysctls.computed 17179869184 4194304) ∧
      spec.sysctls.find? shmmaxName = some "16 gi" ∧ size? "16 gi" = some 17179869184 ∧
      (Sysctls.computed 17179869184 4194304).Gives shmmaxName size? 17179869184 := by
  intro spec
  have hok : spec.kernelParameters = .ok (Sysctls.computed 17179869184 4194304) := by
    rfl
  have hvalue : spec.sysctls.find? shmmaxName = some "16 gi" := by
    decide
  have hn : size? "16 gi" = some 17179869184 := by
    decide
  have hkept : ¬spec.LeavesLimitsOut := by
    intro hleft
    rcases hleft.sga "8Gi" rfl with hblank | hzero
    · exact absurd hblank (by decide)
    · exact absurd hzero (by decide)
  obtain ⟨-, hshmmax, -⟩ := declaredLimits_kernelParameters hok
  exact ⟨hok, hvalue, hn, (hshmmax _ _ hvalue hn (by decide)).2 hkept⟩

/-- Some accepted declarations of a limit do not give it. -/
theorem not_forall_declaredLimits_given :
    ¬∀ (spec : ClusterSpec) (c : Sysctls) (value : String) (n : UInt64),
      spec.kernelParameters = .ok c → spec.sysctls.find? shmmaxName = some value →
        size? value = some n → 0 < n → c.Gives shmmaxName size? n := by
  intro hall
  obtain ⟨text, htext, -⟩ :=
    hall (tuned {} sixteen) {} "16 gi" 17179869184 rfl (by decide) (by decide) (by decide)
  cases htext

end ClusterSpec

end ClusterWatch
