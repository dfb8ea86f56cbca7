import CxlSpeckv.Memory.Residency
import CxlSpeckv.Memory.VirtualLayout

/-!
# What the L1 check counts

`can_fit_in_tier` takes `l1_pages_.size() * page_size_` as the bytes in use in L1, and
`allocate` pushes one base onto `l1_pages_` per allocation, however many pages it creates. So
an allocation of `k` pages that passes the check adds `k` pages of L1 to the table but one
entry to the list the check reads, and L1 can end beyond its size although every allocation
into it passed the check.
-/

namespace CxlSpeckv.Memory

open CXLMemoryManager

section Insert

variable {t : PageTable} {va pa ps : BitVec 64} {tier : MemoryTier} {layer : BitVec 32}

theorem mem_insertPages {n : Nat} {k : BitVec 64} (hk : k ∈ insertPages t va pa ps tier layer n) :
    k ∈ t ∨ ∃ i < n, k = (newPage va pa ps tier layer i).virtualAddr := by
  obtain ⟨p, hp⟩ := Option.isSome_iff_exists.1 (AList.lookup_isSome.2 hk)
  rcases lookup_insertPages hp with ⟨i, hi, rfl, rfl⟩ | hp
  · exact .inr ⟨i, hi, rfl⟩
  · exact .inl (AList.lookup_isSome.1 (by rw [hp]; rfl))

/-- Inserting `n` pages of one tier under fresh, distinct keys adds `n` entries of that tier. -/
theorem countTier_insertPages {n : Nat}
    (hfresh : ∀ i < n, (newPage va pa ps tier layer i).virtualAddr ∉ t)
    (hdist : ∀ i j, i < j → j < n →
      (newPage va pa ps tier layer i).virtualAddr ≠ (newPage va pa ps tier layer j).virtualAddr) :
    ((insertPages t va pa ps tier layer n).entries.filter fun e => decide (e.2.tier = tier)).length =
      (t.entries.filter fun e => decide (e.2.tier = tier)).length + n := by
  induction n with
  | zero => rfl
  | succ n ih =>
      have hnot : (newPage va pa ps tier layer n).virtualAddr ∉
          insertPages t va pa ps tier layer n := fun hm => by
        rcases mem_insertPages hm with hm | ⟨i, hi, he⟩
        · exact hfresh n (Nat.lt_succ_self n) hm
        · exact hdist i n hi (Nat.lt_succ_self n) he.symm
      rw [insertPages, AList.insert_entries_of_neg hnot,
        List.filter_cons_of_pos (by simp [newPage]), List.length_cons,
        ih (fun i hi => hfresh i (Nat.lt_succ_of_lt hi))
          (fun i j hij hj => hdist i j hij (Nat.lt_succ_of_lt hj)), Nat.add_assoc]

end Insert

/-- An allocation that passes the L1 check adds one base to `l1_pages_`, the list the check
counts, and all of its `ceil(n / page_size)` pages to the bytes resident in L1. -/
theorem l1_check_counts_one_page_per_allocation (c : Config) (m : CXLMemoryManager) (n : BitVec 64)
    (layer : BitVec 32) (hv : VirtLayout c m) (hf : VirtFits c m n)
    (hg : canFitInTier c m .l1GpuLocal (numPages c n * c.pageSize) = true) :
    (allocate c m n layer .l1GpuLocal).2.l1Pages = m.l1Pages ++ [m.nextVirtualAddr] ∧
      residentBytes c (allocate c m n layer .l1GpuLocal).2 .l1GpuLocal =
        residentBytes c m .l1GpuLocal + (numPages c n).toNat * c.pageSize.toNat := by
  have ht : actualTier c m n .l1GpuLocal = .l1GpuLocal := actualTier_eq_l1_iff.2 ⟨rfl, hg⟩
  refine ⟨by simp [allocate, ht, reserve], ?_⟩
  unfold residentBytes
  rw [allocate_pageTable, ht, countTier_insertPages ?fresh ?dist, Nat.add_mul]
  case fresh =>
    intro i hi hm
    obtain ⟨p, hp⟩ := Option.isSome_iff_exists.1 (AList.lookup_isSome.2 hm)
    have := hv.below_cursor _ p hp
    rw [toNat_newPage_virtualAddr hf hi] at this
    have := pageSize_pos_of_lt_numPages hi
    omega
  case dist =>
    intro i j hij hj he
    have he' := congrArg BitVec.toNat he
    rw [toNat_newPage_virtualAddr hf (hij.trans hj), toNat_newPage_virtualAddr hf hj] at he'
    have := pageSize_pos_of_lt_numPages hj
    have := offsets_apart m.nextVirtualAddr.toNat c.pageSize.toNat (Nat.ne_of_lt hij)
    omega

/-- With 1 GiB pages and a 2 GiB L1, an allocation of two pages into L1 passes the check, and
so does a second one of one page: L1 then holds 3 GiB. -/
theorem l1_overcommitted_after_two_allocations :
    ∃ m, run { l1SizeGb := 2, pageSize := 0x40000000 } [.allocate 0x80000000 0 .l1GpuLocal]
        init = some m ∧
      VirtLayout { l1SizeGb := 2, pageSize := 0x40000000 } m ∧
      VirtFits { l1SizeGb := 2, pageSize := 0x40000000 } m 0x40000000 ∧
      canFitInTier { l1SizeGb := 2, pageSize := 0x40000000 } m .l1GpuLocal
        (numPages { l1SizeGb := 2, pageSize := 0x40000000 } 0x40000000 * 0x40000000) = true ∧
      (allocate { l1SizeGb := 2, pageSize := 0x40000000 } m 0x40000000 0 .l1GpuLocal).2.l1Pages =
        m.l1Pages ++ [m.nextVirtualAddr] ∧
      residentBytes { l1SizeGb := 2, pageSize := 0x40000000 }
          (allocate { l1SizeGb := 2, pageSize := 0x40000000 } m 0x40000000 0 .l1GpuLocal).2
          .l1GpuLocal =
        residentBytes { l1SizeGb := 2, pageSize := 0x40000000 } m .l1GpuLocal +
          (numPages { l1SizeGb := 2, pageSize := 0x40000000 } 0x40000000).toNat *
            (0x40000000 : BitVec 64).toNat ∧
      ¬ WithinCapacity { l1SizeGb := 2, pageSize := 0x40000000 }
        (allocate { l1SizeGb := 2, pageSize := 0x40000000 } m 0x40000000 0 .l1GpuLocal).2 := by
  obtain ⟨m, h⟩ : ∃ m, run { l1SizeGb := 2, pageSize := 0x40000000 }
      [.allocate 0x80000000 0 .l1GpuLocal] init = some m := ⟨_, rfl⟩
  have hv := ((virtLayout_init _).run (by decide) h).1
  have hf : VirtFits { l1SizeGb := 2, pageSize := 0x40000000 } m 0x40000000 := by
    cases h; unfold VirtFits; decide
  have hg : canFitInTier { l1SizeGb := 2, pageSize := 0x40000000 } m .l1GpuLocal
      (numPages { l1SizeGb := 2, pageSize := 0x40000000 } 0x40000000 * 0x40000000) = true := by
    cases h; decide
  obtain ⟨hl, hr⟩ := l1_check_counts_one_page_per_allocation _ m 0x40000000 0 hv hf hg
  refine ⟨m, h, hv, hf, hg, hl, hr, fun hw => absurd (hw .l1GpuLocal) ?_⟩
  cases h
  decide

end CxlSpeckv.Memory
