import ClusterWatch.Memory.Sysctl
import ClusterWatch.Proofs.Checks
import Mathlib.Algebra.Group.Nat.Defs

/-!
What a computation of kernel parameters that succeeds has found: which of its checks hold and which
of the ways to choose the limit of one segment was taken.
-/

namespace ClusterWatch.Memory

theorem toNat_headroom : headroom.toNat = 1073741824 := by
  decide

theorem toNat_minContainerMemory : minContainerMemory.toNat = 17179869184 := by
  decide

theorem eq_zero_of_not_pos {size : UInt64} (h : ¬0 < size) : size = 0 :=
  UInt64.le_zero_iff.1 (UInt64.not_lt.1 h)

theorem gibibyte_eq : gibibyte = 1073741824 := by
  decide

/-- The SGA has headroom exactly if the sum fits into 64 bits, and then the sum is exact. -/
theorem sgaWithHeadroom_eq_ok_iff {sga limit : UInt64} : sgaWithHeadroom sga = .ok limit ↔
    sga.toNat + gibibyte < 2 ^ 64 ∧ limit.toNat = sga.toNat + gibibyte := by
  have hsize : UInt64.size = 2 ^ 64 := rfl
  rw [sgaWithHeadroom, toNat_headroom, ← gibibyte_eq, hsize]
  by_cases hfit : sga.toNat + gibibyte < 2 ^ 64
  · have hsum : (sga + headroom).toNat = sga.toNat + gibibyte := by
      rw [UInt64.toNat_add, toNat_headroom, ← gibibyte_eq, Nat.mod_eq_of_lt hfit]
    rw [if_pos hfit, Except.ok.injEq, ← UInt64.toNat_inj, hsum, eq_comm]
    exact (and_iff_right hfit).symm
  · rw [if_neg hfit]
    exact ⟨nofun, fun h => absurd h.1 hfit⟩

theorem toNat_of_sgaWithHeadroom {sga limit : UInt64} (h : sgaWithHeadroom sga = .ok limit) :
    limit.toNat = sga.toNat + headroom.toNat := by
  rw [toNat_headroom, ← gibibyte_eq]
  exact (sgaWithHeadroom_eq_ok_iff.1 h).2

namespace Sizing

variable {s : Sizing} {limit wanted : UInt64}

theorem toNat_container_sub_headroom (h : minContainerMemory ≤ s.container) :
    (s.container - headroom).toNat = s.container.toNat - headroom.toNat := by
  have hminimum := UInt64.le_iff_toNat_le.1 h
  rw [toNat_minContainerMemory] at hminimum
  apply UInt64.toNat_sub_of_le
  rw [UInt64.le_iff_toNat_le, toNat_headroom]
  omega

/-- Without a container the limit is the declared one, or the SGA with headroom. -/
theorem cases_of_shmmaxUnlimited (h : s.shmmaxUnlimited = .ok limit) :
    (0 < s.userShmmax ∧ s.sga ≤ s.userShmmax ∧ limit = s.userShmmax) ∨
      (s.userShmmax = 0 ∧ sgaWithHeadroom s.sga = .ok limit) := by
  rw [shmmaxUnlimited] at h
  split at h
  · next hdeclared =>
      split at h
      · cases h
      · next hsga => exact Or.inl ⟨hdeclared, UInt64.not_lt.1 hsga, (Except.ok.inj h).symm⟩
  · next hdeclared => exact Or.inr ⟨eq_zero_of_not_pos hdeclared, h⟩

/-- The four ways to choose a limit inside a container, with the checks that each has passed. -/
theorem cases_of_shmmaxWanted (h : s.shmmaxWanted = .ok wanted) :
    (0 < s.userShmmax ∧ s.sga ≤ s.userShmmax ∧ s.hugePages ≤ s.userShmmax ∧
        s.userShmmax ≤ s.container - headroom ∧ wanted = s.userShmmax) ∨
      (s.userShmmax = 0 ∧ 0 < s.hugePages ∧ s.sga ≤ s.hugePages ∧ wanted = s.hugePages) ∨
      (s.userShmmax = 0 ∧ s.hugePages = 0 ∧ s.sga < s.container / 2 ∧
        wanted = s.container / 2) ∨
      (s.userShmmax = 0 ∧ s.hugePages = 0 ∧ s.container / 2 ≤ s.sga ∧
        sgaWithHeadroom s.sga = .ok wanted) := by
  rw [shmmaxWanted] at h
  split at h
  · next hdeclared =>
      split at h
      · cases h
      · next hsga =>
          split at h
          · cases h
          · next hpages =>
              split at h
              · cases h
              · next hlimit =>
                  have hhuge : s.hugePages ≤ s.userShmmax := by
                    by_cases hzero : 0 < s.hugePages
                    · exact UInt64.not_lt.1 fun hlt => hpages ⟨hzero, hlt⟩
                    · rw [eq_zero_of_not_pos hzero]
                      exact UInt64.zero_le
                  exact Or.inl ⟨hdeclared, UInt64.not_lt.1 hsga, hhuge,
                    UInt64.not_lt.1 hlimit, (Except.ok.inj h).symm⟩
  · next hdeclared =>
      have huser := eq_zero_of_not_pos hdeclared
      split at h
      · next hpages =>
          split at h
          · cases h
          · next hsga =>
              exact Or.inr (Or.inl
                ⟨huser, hpages, UInt64.not_lt.1 hsga, (Except.ok.inj h).symm⟩)
      · next hpages =>
          have hzero := eq_zero_of_not_pos hpages
          split at h
          · next hsga =>
              exact Or.inr (Or.inr (Or.inl ⟨huser, hzero, hsga, (Except.ok.inj h).symm⟩))
          · next hsga =>
              exact Or.inr (Or.inr (Or.inr ⟨huser, hzero, UInt64.not_lt.1 hsga, h⟩))

/-- Inside a container that is large enough, the wanted limit is cut below the container. -/
theorem of_shmmaxLimited (h : s.shmmaxLimited = .ok limit) :
    s.pga ≤ s.container ∧ s.sga ≤ s.container ∧
      ∃ wanted, s.shmmaxWanted = .ok wanted ∧
        limit = if s.container ≤ wanted then s.container - headroom else wanted := by
  rw [shmmaxLimited] at h
  dsimp only at h
  split at h
  · exact absurd h throw_bind_ne_ok
  · next hpga =>
      split at h
      · exact absurd h throw_bind_ne_ok
      · next hsga =>
          obtain ⟨wanted, hwanted, hcut⟩ := bind_eq_ok_iff.1 h
          exact ⟨UInt64.not_lt.1 hpga, UInt64.not_lt.1 hsga, wanted, hwanted,
            (Except.ok.inj hcut).symm⟩

/-- Parameters are empty when nothing is declared, or else computed from one of the two limits. -/
theorem cases_of_sysctls {c : Sysctls} (h : s.sysctls = .ok c) :
    (s.container = 0 ∧ s.sga = 0 ∧ s.pga = 0 ∧ c = {}) ∨
      ∃ limit pages, c = Sysctls.computed limit pages ∧ s.shmallFor limit = .ok pages ∧
        ((s.container = 0 ∧ s.shmmaxUnlimited = .ok limit) ∨
          (minContainerMemory ≤ s.container ∧ s.shmmaxLimited = .ok limit)) := by
  rw [sysctls] at h
  dsimp only at h
  split at h
  · exact absurd h throw_bind_ne_ok
  · next hminimum =>
      split at h
      · next hnone => exact Or.inl ⟨hnone.1, hnone.2.1, hnone.2.2, (Except.ok.inj h).symm⟩
      · split at h
        · next hzero =>
            obtain ⟨limit, hlimit, hrest⟩ := bind_eq_ok_iff.1 h
            obtain ⟨pages, hpages, hc⟩ := bind_eq_ok_iff.1 hrest
            exact Or.inr ⟨limit, pages, (Except.ok.inj hc).symm, hpages,
              Or.inl ⟨hzero, hlimit⟩⟩
        · next hzero =>
            obtain ⟨limit, hlimit, hrest⟩ := bind_eq_ok_iff.1 h
            obtain ⟨pages, hpages, hc⟩ := bind_eq_ok_iff.1 hrest
            have hpos : 0 < s.container :=
              Decidable.byContradiction fun hnot => hzero (eq_zero_of_not_pos hnot)
            have hminimal : minContainerMemory ≤ s.container :=
              UInt64.not_lt.1 fun hlt => hminimum ⟨hpos, hlt⟩
            exact Or.inr ⟨limit, pages, (Except.ok.inj hc).symm, hpages,
              Or.inr ⟨hminimal, hlimit⟩⟩

end Sizing

end ClusterWatch.Memory
