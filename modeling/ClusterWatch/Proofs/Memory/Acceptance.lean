import ClusterWatch.Proofs.Memory.Sizing

/-!
Which declared sizes are accepted, and what is computed from them.

The computation works on words of 64 bits and checks before it adds or subtracts. It is compared
here with the conditions and the values on natural numbers: none of its operations leaves the 64
bits, it succeeds exactly for the acceptable sizes, and its answer is the limit on natural numbers
with the least pages that hold it, or the declared ones. Main statement: `sysctls_verdict`.
-/

namespace ClusterWatch.Memory

theorem toNat_pagesOf (size : UInt64) : (pagesOf size).toNat = (size.toNat + 4095) / 4096 := by
  have hsize := size.toNat_lt
  have hpage : pageSize.toNat = 4096 := rfl
  have hrest : size % pageSize = 0 ↔ size.toNat % 4096 = 0 := by
    rw [← UInt64.toNat_inj, UInt64.toNat_mod, hpage]
    rfl
  rw [pagesOf, UInt64.toNat_add, UInt64.toNat_div, hpage]
  split
  · next hwhole =>
      have hzero : size.toNat % 4096 = 0 := hrest.1 hwhole
      rw [UInt64.toNat_zero]
      omega
  · next hpart =>
      have hsome : size.toNat % 4096 ≠ 0 := fun hzero => hpart (hrest.2 hzero)
      rw [UInt64.toNat_one]
      omega

/-- So many pages hold a size exactly if they are as many as the size has. -/
theorem pagesOf_le_iff {size pages : UInt64} :
    pagesOf size ≤ pages ↔ size.toNat ≤ pages.toNat * 4096 := by
  rw [UInt64.le_iff_toNat_le, toNat_pagesOf]
  omega

namespace Sizing

variable {s : Sizing} {limit pages : UInt64}

/-- Nothing is declared that parameters could be computed from. -/
def DeclaresNothing (s : Sizing) : Prop :=
  s.container = 0 ∧ s.sga = 0 ∧ s.pga = 0

instance (s : Sizing) : Decidable s.DeclaresNothing :=
  inferInstanceAs (Decidable (_ ∧ _))

/-- The limit of one segment that the declarations ask for inside a container. -/
def wantedLimit (s : Sizing) : Nat :=
  if 0 < s.userShmmax then s.userShmmax.toNat
  else if 0 < s.hugePages then s.hugePages.toNat
  else if s.sga.toNat < s.container.toNat / 2 then s.container.toNat / 2
  else s.sga.toNat + gibibyte

/-- The limit of one segment. -/
def segmentLimit (s : Sizing) : Nat :=
  if s.container = 0 then
    if 0 < s.userShmmax then s.userShmmax.toNat else s.sga.toNat + gibibyte
  else if s.container.toNat ≤ s.wantedLimit then s.container.toNat - gibibyte
  else s.wantedLimit

/-- Without a container the declared limit holds the SGA, or the SGA with headroom fits into 64
bits. -/
def FitsUnlimited (s : Sizing) : Prop :=
  if 0 < s.userShmmax then s.sga.toNat ≤ s.userShmmax.toNat
  else s.sga.toNat + gibibyte < 2 ^ 64

/-- A limit can be chosen inside the container: the declared one holds the SGA and the huge pages
and leaves the container one gibibyte, or else the huge pages hold the SGA, or else the SGA takes
less than half of the container or fits into 64 bits with headroom. -/
def LimitFits (s : Sizing) : Prop :=
  if 0 < s.userShmmax then
    s.sga.toNat ≤ s.userShmmax.toNat ∧ s.hugePages.toNat ≤ s.userShmmax.toNat ∧
      s.userShmmax.toNat + gibibyte ≤ s.container.toNat
  else if 0 < s.hugePages then s.sga.toNat ≤ s.hugePages.toNat
  else s.sga.toNat < s.container.toNat / 2 ∨ s.sga.toNat + gibibyte < 2 ^ 64

/-- The declared sizes agree with each other. -/
structure Fits (s : Sizing) : Prop where
  unlimited : s.container = 0 → s.FitsUnlimited
  limited : 0 < s.container →
    s.pga.toNat ≤ s.container.toNat ∧ s.sga.toNat ≤ s.container.toNat ∧ s.LimitFits
  pages : s.userShmall = 0 ∨ s.segmentLimit ≤ s.userShmall.toNat * 4096

/-- A container is large enough, and nothing else is declared or it all agrees. -/
def IsAcceptable (s : Sizing) : Prop :=
  (s.container = 0 ∨ 16 * gibibyte ≤ s.container.toNat) ∧ (s.DeclaresNothing ∨ s.Fits)

/-- The limit and the pages are those that the sizes ask for. -/
structure IsAnswer (s : Sizing) (shmmax shmall : UInt64) : Prop where
  limit : shmmax.toNat = s.segmentLimit
  below : 0 < s.container → shmmax < s.container
  declared : 0 < s.userShmmax → shmmax = s.userShmmax
  holds : shmmax.toNat ≤ shmall.toNat * 4096
  least : s.userShmall = 0 → ∀ pages, shmmax.toNat ≤ pages * 4096 → shmall.toNat ≤ pages
  chosen : 0 < s.userShmall → shmall = s.userShmall

/-- Each operation that could leave the 64 bits gives the number that it stands for. The headroom is
taken only from a container that has been found large enough, and added only where it fits. -/
structure ComputesExactly (s : Sizing) : Prop where
  refused : 0 < s.container → s.container.toNat < 16 * gibibyte →
    s.sysctls = .error (.containerMemoryBelowMinimum s.container)
  difference : 16 * gibibyte ≤ s.container.toNat →
    (s.container - headroom).toNat + gibibyte = s.container.toNat
  sum : ∀ limit, sgaWithHeadroom s.sga = .ok limit ↔
    s.sga.toNat + gibibyte < 2 ^ 64 ∧ limit.toNat = s.sga.toNat + gibibyte
  rounding : ∀ limit, (pagesOf limit).toNat = (limit.toNat + 4095) / 4096

theorem toNat_limit_add_gibibyte (h : 16 * gibibyte ≤ s.container.toNat) :
    (s.container - headroom).toNat + gibibyte = s.container.toNat := by
  rw [gibibyte_eq] at h ⊢
  have hminimum : minContainerMemory ≤ s.container := by
    rw [UInt64.le_iff_toNat_le, toNat_minContainerMemory]
    omega
  rw [toNat_container_sub_headroom hminimum, toNat_headroom]
  omega

theorem shmmaxUnlimited_eq_ok_iff : s.shmmaxUnlimited = .ok limit ↔ s.FitsUnlimited ∧
    limit.toNat = if 0 < s.userShmmax then s.userShmmax.toNat else s.sga.toNat + gibibyte := by
  rw [shmmaxUnlimited, FitsUnlimited]
  by_cases hdeclared : 0 < s.userShmmax
  · simp only [if_pos hdeclared]
    rw [ite_error_eq_ok_iff, Except.ok.injEq, UInt64.lt_iff_toNat_lt, ← UInt64.toNat_inj]
    omega
  · simp only [if_neg hdeclared]
    exact sgaWithHeadroom_eq_ok_iff

theorem shmmaxWanted_eq_ok_iff (hmin : 16 * gibibyte ≤ s.container.toNat) :
    s.shmmaxWanted = .ok limit ↔ s.LimitFits ∧ limit.toNat = s.wantedLimit := by
  have hroom := toNat_limit_add_gibibyte hmin
  have hhalf : (s.container / 2).toNat = s.container.toNat / 2 := UInt64.toNat_div _ _
  have hsmall : s.sga < s.container / 2 ↔ s.sga.toNat < s.container.toNat / 2 := by
    rw [UInt64.lt_iff_toNat_lt, hhalf]
  rw [shmmaxWanted, LimitFits, wantedLimit]
  by_cases hdeclared : 0 < s.userShmmax
  · simp only [if_pos hdeclared]
    rw [ite_error_eq_ok_iff, ite_error_eq_ok_iff, ite_error_eq_ok_iff, Except.ok.injEq]
    simp only [UInt64.lt_iff_toNat_lt, UInt64.toNat_zero, ← UInt64.toNat_inj]
    omega
  · simp only [if_neg hdeclared]
    by_cases hpages : 0 < s.hugePages
    · simp only [if_pos hpages]
      rw [ite_error_eq_ok_iff, Except.ok.injEq, UInt64.lt_iff_toNat_lt, ← UInt64.toNat_inj]
      omega
    · simp only [if_neg hpages, hsmall]
      by_cases hsga : s.sga.toNat < s.container.toNat / 2
      · simp only [if_pos hsga]
        rw [Except.ok.injEq, ← UInt64.toNat_inj, hhalf, and_iff_right (Or.inl hsga), eq_comm]
      · simp only [if_neg hsga]
        rw [sgaWithHeadroom_eq_ok_iff, or_iff_right hsga]

theorem wantedLimit_lt (h : s.LimitFits) : s.wantedLimit < 2 ^ 64 := by
  have huser := s.userShmmax.toNat_lt
  have hpages := s.hugePages.toNat_lt
  have hcontainer := s.container.toNat_lt
  rw [LimitFits] at h
  rw [wantedLimit]
  split_ifs at h ⊢ <;> omega

/-- The limit wanted is cut below the container in words as in numbers. -/
theorem toNat_cut (hmin : 16 * gibibyte ≤ s.container.toNat) (wanted : UInt64) :
    (if s.container ≤ wanted then s.container - headroom else wanted).toNat =
      if s.container.toNat ≤ wanted.toNat then s.container.toNat - gibibyte else wanted.toNat := by
  have hroom := toNat_limit_add_gibibyte hmin
  by_cases hreaches : s.container ≤ wanted
  · rw [if_pos hreaches, if_pos (UInt64.le_iff_toNat_le.1 hreaches)]
    omega
  · rw [if_neg hreaches, if_neg fun hle => hreaches (UInt64.le_iff_toNat_le.2 hle)]

theorem shmmaxLimited_eq (s : Sizing) : s.shmmaxLimited =
    if s.container < s.pga then .error (.pgaExceedsContainer s.pga s.container)
    else if s.container < s.sga then .error (.sgaExceedsContainer s.sga s.container)
    else s.shmmaxWanted >>= fun wanted =>
      .ok (if s.container ≤ wanted then s.container - headroom else wanted) := by
  rw [shmmaxLimited]
  split
  · rfl
  · split <;> rfl

theorem shmmaxLimited_eq_ok_iff (hmin : 16 * gibibyte ≤ s.container.toNat) :
    s.shmmaxLimited = .ok limit ↔
      (s.pga.toNat ≤ s.container.toNat ∧ s.sga.toNat ≤ s.container.toNat ∧ s.LimitFits) ∧
        limit.toNat = if s.container.toNat ≤ s.wantedLimit then s.container.toNat - gibibyte
          else s.wantedLimit := by
  rw [shmmaxLimited_eq, ite_error_eq_ok_iff, ite_error_eq_ok_iff, bind_eq_ok_iff,
    UInt64.not_lt, UInt64.not_lt, UInt64.le_iff_toNat_le, UInt64.le_iff_toNat_le]
  constructor
  · rintro ⟨hpga, hsga, wanted, hwanted, hcut⟩
    obtain ⟨hfits, hvalue⟩ := (shmmaxWanted_eq_ok_iff hmin).1 hwanted
    rw [← Except.ok.inj hcut, toNat_cut hmin, hvalue]
    exact ⟨⟨hpga, hsga, hfits⟩, rfl⟩
  · rintro ⟨⟨hpga, hsga, hfits⟩, hvalue⟩
    have hword : (UInt64.ofNat s.wantedLimit).toNat = s.wantedLimit :=
      UInt64.toNat_ofNat_of_lt (wantedLimit_lt hfits)
    refine ⟨hpga, hsga, _, (shmmaxWanted_eq_ok_iff hmin).2 ⟨hfits, hword⟩, ?_⟩
    rw [Except.ok.injEq, ← UInt64.toNat_inj, toNat_cut hmin, hword, hvalue]

/-- The declared pages are taken if they hold the limit; without them the least that do are. -/
theorem shmallFor_eq_ok_iff : s.shmallFor limit = .ok pages ↔
    (s.userShmall = 0 ∨ limit.toNat ≤ s.userShmall.toNat * 4096) ∧
      pages = if s.userShmall = 0 then pagesOf limit else s.userShmall := by
  rw [shmallFor]
  by_cases hnone : s.userShmall = 0
  · rw [hnone, if_neg (by decide), if_pos rfl, Except.ok.injEq, eq_comm]
    exact (and_iff_right (Or.inl rfl)).symm
  · rw [if_pos (UInt64.pos_iff_ne_zero.2 hnone), if_neg hnone, ite_error_eq_ok_iff, UInt64.not_lt,
      pagesOf_le_iff, Except.ok.injEq, or_iff_right hnone, eq_comm]

theorem sysctls_eq (s : Sizing) : s.sysctls =
    if 0 < s.container ∧ s.container < minContainerMemory then
      .error (.containerMemoryBelowMinimum s.container)
    else if s.DeclaresNothing then .ok {}
    else (if s.container = 0 then s.shmmaxUnlimited else s.shmmaxLimited) >>= fun shmmax =>
      s.shmallFor shmmax >>= fun shmall => .ok (Sysctls.computed shmmax shmall) := by
  rw [sysctls]
  split
  · rfl
  · split
    · next hnothing => exact (if_pos (show s.DeclaresNothing from hnothing)).symm
    · next hsome =>
        rw [if_neg (show ¬s.DeclaresNothing from hsome)]
        split <;> rfl

theorem segmentLimit_lt (h : s.Fits) : s.segmentLimit < 2 ^ 64 := by
  have huser := s.userShmmax.toNat_lt
  have hcontainer := s.container.toNat_lt
  rw [segmentLimit]
  split
  · next hzero =>
      have hfits := h.unlimited hzero
      rw [FitsUnlimited] at hfits
      split_ifs at hfits ⊢ <;> omega
  · next hsome =>
      have hwanted := wantedLimit_lt (h.limited (UInt64.pos_iff_ne_zero.2 hsome)).2.2
      split <;> omega

/-- The limit that is chosen is the one on natural numbers. -/
theorem chosenLimit_eq_ok_iff (hmin : s.container = 0 ∨ 16 * gibibyte ≤ s.container.toNat) :
    (if s.container = 0 then s.shmmaxUnlimited else s.shmmaxLimited) = .ok limit ↔
      (s.container = 0 → s.FitsUnlimited) ∧
      (0 < s.container →
        s.pga.toNat ≤ s.container.toNat ∧ s.sga.toNat ≤ s.container.toNat ∧ s.LimitFits) ∧
      limit.toNat = s.segmentLimit := by
  rw [segmentLimit]
  by_cases hzero : s.container = 0
  · have hnot : ¬0 < s.container := fun hpos => UInt64.pos_iff_ne_zero.1 hpos hzero
    rw [if_pos hzero, if_pos hzero, shmmaxUnlimited_eq_ok_iff]
    exact ⟨fun h => ⟨fun _ => h.1, fun hpos => absurd hpos hnot, h.2⟩,
      fun h => ⟨h.1 hzero, h.2.2⟩⟩
  · have hpos : 0 < s.container := UInt64.pos_iff_ne_zero.2 hzero
    rw [if_neg hzero, if_neg hzero, shmmaxLimited_eq_ok_iff (hmin.resolve_left hzero)]
    exact ⟨fun h => ⟨fun hnone => absurd hnone hzero, fun _ => h.1, h.2⟩,
      fun h => ⟨h.2.1 hpos, h.2.2⟩⟩

/-- The check of the container passes exactly if there is none or it is large enough. -/
theorem not_tooSmall_iff : ¬(0 < s.container ∧ s.container < minContainerMemory) ↔
    s.container = 0 ∨ 16 * gibibyte ≤ s.container.toNat := by
  rw [UInt64.pos_iff_ne_zero, UInt64.lt_iff_toNat_lt, toNat_minContainerMemory, gibibyte_eq]
  by_cases hzero : s.container = 0
  · simp only [hzero, ne_eq, not_true_eq_false, false_and, not_false_eq_true, true_or]
  · simp only [hzero, ne_eq, not_false_eq_true, true_and, false_or, Nat.not_lt, Nat.reduceMul]

/-- The parameters are computed from the limit and the pages on natural numbers. -/
theorem sysctls_eq_ok_iff {c : Sysctls} : s.sysctls = .ok c ↔
    (s.container = 0 ∨ 16 * gibibyte ≤ s.container.toNat) ∧
      ((s.DeclaresNothing ∧ c = {}) ∨
        (¬s.DeclaresNothing ∧ s.Fits ∧ ∃ shmmax shmall, c = Sysctls.computed shmmax shmall ∧
          shmmax.toNat = s.segmentLimit ∧
          shmall = if s.userShmall = 0 then pagesOf shmmax else s.userShmall)) := by
  rw [sysctls_eq, ite_error_eq_ok_iff, not_tooSmall_iff, and_congr_right_iff]
  intro hmin
  by_cases hnothing : s.DeclaresNothing
  · rw [if_pos hnothing, Except.ok.injEq, eq_comm]
    simp only [hnothing, true_and, not_true_eq_false, false_and, or_false]
  · rw [if_neg hnothing]
    simp only [hnothing, false_and, not_false_eq_true, true_and, false_or, bind_eq_ok_iff,
      chosenLimit_eq_ok_iff hmin, shmallFor_eq_ok_iff, Except.ok.injEq]
    constructor
    · rintro ⟨shmmax, ⟨hunlimited, hlimited, hvalue⟩, shmall, ⟨hpages, hshmall⟩, hc⟩
      exact ⟨⟨hunlimited, hlimited, hvalue ▸ hpages⟩, shmmax, shmall, hc.symm, hvalue, hshmall⟩
    · rintro ⟨hfits, shmmax, shmall, hc, hvalue, hshmall⟩
      exact ⟨shmmax, ⟨hfits.unlimited, hfits.limited, hvalue⟩, shmall,
        ⟨hvalue ▸ hfits.pages, hshmall⟩, hc.symm⟩

theorem wantedLimit_of_declared (h : 0 < s.userShmmax) : s.wantedLimit = s.userShmmax.toNat :=
  if_pos h

/-- A declared limit is the limit: it is less than the container, if there is one. -/
theorem segmentLimit_of_declared (hfits : s.Fits) (h : 0 < s.userShmmax) :
    s.segmentLimit = s.userShmmax.toNat := by
  rw [segmentLimit, wantedLimit_of_declared h]
  by_cases hzero : s.container = 0
  · rw [if_pos hzero, if_pos h]
  · have hlimit := (hfits.limited (UInt64.pos_iff_ne_zero.2 hzero)).2.2
    rw [LimitFits, if_pos h, gibibyte_eq] at hlimit
    rw [if_neg hzero, if_neg (by omega)]

/-- The limit is less than the container, if there is one. -/
theorem segmentLimit_lt_container (h : 0 < s.container) : s.segmentLimit < s.container.toNat := by
  have hpos : 0 < s.container.toNat := UInt64.lt_iff_toNat_lt.1 h
  rw [segmentLimit, if_neg (UInt64.pos_iff_ne_zero.1 h), gibibyte_eq]
  split <;> omega

/-- What is computed for sizes that fit is their answer. -/
theorem isAnswer_of_fits (hfits : s.Fits) (hlimit : limit.toNat = s.segmentLimit)
    (hpages : pages = if s.userShmall = 0 then pagesOf limit else s.userShmall) :
    s.IsAnswer limit pages where
  limit := hlimit
  below hcontainer := by
    rw [UInt64.lt_iff_toNat_lt, hlimit]
    exact segmentLimit_lt_container hcontainer
  declared hdeclared := by
    rw [← UInt64.toNat_inj, hlimit, segmentLimit_of_declared hfits hdeclared]
  holds := by
    rw [hpages]
    split
    · exact pagesOf_le_iff.1 (UInt64.le_refl _)
    · next hsome =>
        rw [hlimit]
        exact hfits.pages.resolve_left hsome
  least hnone n hn := by
    rw [hpages, if_pos hnone, toNat_pagesOf]
    omega
  chosen hsome := by
    rw [hpages, if_neg (UInt64.pos_iff_ne_zero.1 hsome)]

theorem computesExactly (s : Sizing) : s.ComputesExactly where
  refused hpos hsmall := by
    have hcheck : 0 < s.container ∧ s.container < minContainerMemory := by
      refine ⟨hpos, ?_⟩
      rw [UInt64.lt_iff_toNat_lt, toNat_minContainerMemory]
      rwa [gibibyte_eq] at hsmall
    rw [sysctls_eq, if_pos hcheck]
  difference := toNat_limit_add_gibibyte
  sum _ := sgaWithHeadroom_eq_ok_iff
  rounding := toNat_pagesOf

/-- No operation leaves the 64 bits, the acceptable sizes are those that are accepted, and the
answer is empty when nothing is declared, or else the limit with the pages for it. -/
theorem sysctls_verdict (s : Sizing) :
    s.ComputesExactly ∧ ((∃ c, s.sysctls = .ok c) ↔ s.IsAcceptable) ∧
      ∀ c, s.sysctls = .ok c → (s.DeclaresNothing ∧ c = {}) ∨ (¬s.DeclaresNothing ∧
        ∃ shmmax shmall, c = Sysctls.computed shmmax shmall ∧ s.IsAnswer shmmax shmall) := by
  refine ⟨computesExactly s, ⟨?_, ?_⟩, ?_⟩
  · rintro ⟨c, hc⟩
    obtain ⟨hmin, ⟨hnothing, -⟩ | ⟨-, hfits, -⟩⟩ := sysctls_eq_ok_iff.1 hc
    · exact ⟨hmin, Or.inl hnothing⟩
    · exact ⟨hmin, Or.inr hfits⟩
  · rintro ⟨hmin, hcases⟩
    by_cases hnothing : s.DeclaresNothing
    · exact ⟨_, sysctls_eq_ok_iff.2 ⟨hmin, Or.inl ⟨hnothing, rfl⟩⟩⟩
    · have hfits : s.Fits := hcases.resolve_left hnothing
      have hword : (UInt64.ofNat s.segmentLimit).toNat = s.segmentLimit :=
        UInt64.toNat_ofNat_of_lt (segmentLimit_lt hfits)
      exact ⟨_, sysctls_eq_ok_iff.2
        ⟨hmin, Or.inr ⟨hnothing, hfits, _, _, rfl, hword, rfl⟩⟩⟩
  · intro c hc
    obtain ⟨-, hnothing | ⟨hsome, hfits, shmmax, shmall, hvalue, hlimit, hpages⟩⟩ :=
      sysctls_eq_ok_iff.1 hc
    · exact Or.inl hnothing
    · exact Or.inr ⟨hsome, shmmax, shmall, hvalue, isAnswer_of_fits hfits hlimit hpages⟩

/-- A container of 32 gibibytes with 40 gibibytes of huge pages. -/
def oversizedPages : Sizing where
  sga := 8589934592
  container := 34359738368
  hugePages := 42949672960

theorem sysctls_verdict_oversizedPages :
    oversizedPages.sysctls = .ok (Sysctls.computed 33285996544 8126464) ∧
      oversizedPages.ComputesExactly ∧ oversizedPages.IsAcceptable ∧
      ∃ shmmax shmall, Sysctls.computed 33285996544 8126464 = Sysctls.computed shmmax shmall ∧
        oversizedPages.IsAnswer shmmax shmall := by
  have hok : oversizedPages.sysctls = .ok (Sysctls.computed 33285996544 8126464) := by
    rfl
  obtain ⟨hexact, haccepts, hanswer⟩ := sysctls_verdict oversizedPages
  refine ⟨hok, hexact, haccepts.1 ⟨_, hok⟩, ?_⟩
  rcases hanswer _ hok with ⟨hnothing, -⟩ | ⟨-, hcomputed⟩
  · exact absurd hnothing (by decide)
  · exact hcomputed

end Sizing

end ClusterWatch.Memory
