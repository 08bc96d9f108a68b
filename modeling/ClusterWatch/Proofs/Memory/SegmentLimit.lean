import ClusterWatch.Proofs.Memory.Sizing

/-!
The limit of one segment against the SGA that has to fit into it.

A computed limit is at least the SGA, with one exception: inside a container, a limit that nothing
declares is cut to one gibibyte less than the container after it was compared with the SGA. An SGA
in that last gibibyte then exceeds its limit. Main statement: `sga_le_shmmax_iff`.
-/

namespace ClusterWatch.Memory.Sizing

variable {s : Sizing} {limit : UInt64}

/-- The SGA reaches into the last gibibyte of the container, no limit is declared, and huge pages do
not keep the limit below the container. -/
structure OverfillsContainer (s : Sizing) : Prop where
  container : 0 < s.container
  undeclared : s.userShmmax = 0
  sga : s.container - headroom < s.sga
  pages : s.hugePages = 0 ∨ s.container ≤ s.hugePages

theorem sga_le_of_shmmaxUnlimited (h : s.shmmaxUnlimited = .ok limit) : s.sga ≤ limit := by
  rcases cases_of_shmmaxUnlimited h with ⟨-, hsga, rfl⟩ | ⟨-, hgiven⟩
  · exact hsga
  · rw [UInt64.le_iff_toNat_le, toNat_of_sgaWithHeadroom hgiven]
    omega

/-- Every way to choose a limit chooses one that is at least the SGA. A choice that reaches the
container is an undeclared one, and a choice below it leaves room for the SGA. -/
theorem of_shmmaxWanted (hminimum : minContainerMemory ≤ s.container)
    (h : s.shmmaxWanted = .ok limit) :
    s.sga ≤ limit ∧
      (s.container ≤ limit → s.userShmmax = 0 ∧ (s.hugePages = 0 ∨ s.container ≤ s.hugePages)) ∧
        (¬s.container ≤ limit → ¬s.OverfillsContainer) := by
  have hsub := toNat_container_sub_headroom hminimum
  have hmin := UInt64.le_iff_toNat_le.1 hminimum
  have hhead := toNat_headroom
  rw [toNat_minContainerMemory] at hmin
  rcases cases_of_shmmaxWanted h with
    ⟨hdeclared, hsga, -, hlimit, rfl⟩ | ⟨huser, hpages, hsga, rfl⟩ | ⟨huser, hpages, hsga, rfl⟩ |
      ⟨huser, hpages, hsga, hgiven⟩
  · -- a declared limit, which is at most the container less one gibibyte
    refine ⟨hsga, fun hcut => ?_, fun _ hover => by simp [hover.undeclared] at hdeclared⟩
    rw [UInt64.le_iff_toNat_le] at hcut hlimit
    omega
  · -- the huge pages
    refine ⟨hsga, fun hcut => ⟨huser, Or.inr hcut⟩, fun hbelow hover => ?_⟩
    rcases hover.pages with hzero | hlarge
    · simp [hzero] at hpages
    · exact hbelow hlarge
  · -- half of the container
    have hhalf : (s.container / 2).toNat = s.container.toNat / 2 := UInt64.toNat_div _ _
    rw [UInt64.lt_iff_toNat_lt] at hsga
    refine ⟨UInt64.le_iff_toNat_le.2 (Nat.le_of_lt hsga), fun hcut => ?_, fun _ hover => ?_⟩
    · rw [UInt64.le_iff_toNat_le] at hcut
      omega
    · have hlast := UInt64.lt_iff_toNat_lt.1 hover.sga
      omega
  · -- one gibibyte more than the SGA
    have hsum := toNat_of_sgaWithHeadroom hgiven
    refine ⟨UInt64.le_iff_toNat_le.2 (by omega), fun _ => ⟨huser, Or.inl hpages⟩,
      fun hbelow hover => ?_⟩
    have hlast := UInt64.lt_iff_toNat_lt.1 hover.sga
    rw [UInt64.le_iff_toNat_le] at hbelow
    omega

/-- Inside a container the limit is at least the SGA, unless the SGA overfills the container: then
it is the container less one gibibyte. -/
theorem sga_le_or_overfills (hminimum : minContainerMemory ≤ s.container)
    (h : s.shmmaxLimited = .ok limit) :
    (s.sga ≤ limit ∧ ¬s.OverfillsContainer) ∨
      (s.OverfillsContainer ∧ limit = s.container - headroom) := by
  obtain ⟨-, -, wanted, hwanted, rfl⟩ := of_shmmaxLimited h
  obtain ⟨hsga, hcut, hbelow⟩ := of_shmmaxWanted hminimum hwanted
  by_cases hreaches : s.container ≤ wanted
  · rw [if_pos hreaches]
    obtain ⟨huser, hpages⟩ := hcut hreaches
    by_cases hlast : s.container - headroom < s.sga
    · have hpos : 0 < s.container := by
        have hmin := UInt64.le_iff_toNat_le.1 hminimum
        rw [toNat_minContainerMemory] at hmin
        rw [UInt64.lt_iff_toNat_lt, UInt64.toNat_zero]
        omega
      exact Or.inr ⟨⟨hpos, huser, hlast, hpages⟩, rfl⟩
    · exact Or.inl ⟨UInt64.not_lt.1 hlast, fun hover => hlast hover.sga⟩
  · rw [if_neg hreaches]
    exact Or.inl ⟨hsga, hbelow hreaches⟩

/-- A computed limit is at least the SGA exactly if the SGA does not overfill the container, and
else it is the container less one gibibyte. -/
theorem sga_le_shmmax_iff {c : Sysctls} {shmmax : UInt64} (hok : s.sysctls = .ok c)
    (hshmmax : c.shmmax = some shmmax) :
    (s.sga ≤ shmmax ↔ ¬s.OverfillsContainer) ∧
      (s.OverfillsContainer → shmmax = s.container - headroom) := by
  rcases cases_of_sysctls hok with ⟨-, -, -, rfl⟩ | ⟨limit, pages, rfl, -, hlimit⟩
  · cases hshmmax
  · have hcases : (s.sga ≤ limit ∧ ¬s.OverfillsContainer) ∨
        (s.OverfillsContainer ∧ limit = s.container - headroom) := by
      rcases hlimit with ⟨hzero, hunlimited⟩ | ⟨hminimum, hlimited⟩
      · refine Or.inl ⟨sga_le_of_shmmaxUnlimited hunlimited, fun hover => ?_⟩
        simpa [hzero] using hover.container
      · exact sga_le_or_overfills hminimum hlimited
    obtain rfl : limit = shmmax := Option.some.inj hshmmax
    rcases hcases with ⟨hsga, hfits⟩ | ⟨hover, hcut⟩
    · exact ⟨⟨fun _ => hfits, fun _ => hsga⟩, fun hover => absurd hover hfits⟩
    · refine ⟨⟨fun hsga _ => ?_, fun hfits => absurd hover hfits⟩, fun _ => hcut⟩
      exact UInt64.not_le.2 hover.sga (hcut ▸ hsga)

/-- The sizes of a node whose SGA is as large as its container, here of 32 gibibytes. -/
def fullContainer : Sizing where
  sga := 34359738368
  container := 34359738368

theorem sga_le_shmmax_iff_fullContainer :
    fullContainer.sysctls = .ok (Sysctls.computed 33285996544 8126464) ∧
      (fullContainer.sga ≤ 33285996544 ↔ ¬fullContainer.OverfillsContainer) ∧
      (fullContainer.OverfillsContainer →
        33285996544 = fullContainer.container - headroom) := by
  have hok : fullContainer.sysctls = .ok (Sysctls.computed 33285996544 8126464) := by
    rfl
  exact ⟨hok, sga_le_shmmax_iff hok rfl⟩

/-- Some accepted sizes are given a limit below their SGA. -/
theorem not_forall_sga_le_shmmax :
    ¬∀ (s : Sizing) (c : Sysctls) (shmmax : UInt64),
      s.sysctls = .ok c → c.shmmax = some shmmax → s.sga ≤ shmmax := by
  intro hall
  have hsga := hall fullContainer (Sysctls.computed 33285996544 8126464) 33285996544 rfl rfl
  exact absurd hsga (by decide)

end ClusterWatch.Memory.Sizing
