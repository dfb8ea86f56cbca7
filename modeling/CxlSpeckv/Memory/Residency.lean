import CxlSpeckv.Memory.Allocation

/-!
# What the tier lists and the LRU list record

Only L1 is capacity-gated, and only by `allocate` and `promote_to_l1`: an allocation whose
preferred tier is L1 goes to L3 when `can_fit_in_tier` fails, while L2 and L3 take any
allocation. `can_fit_in_tier` itself measures a tier by its list of allocation bases, one
`page_size_` per entry, while `allocate` creates one page-table entry per page.

`allocate` never touches `l1_lru_list_`: a page allocated straight into L1 is missing from
the LRU list, and `update_access_tracking` appends pages of any tier to it. What every call
does keep is that the list holds each address at most once.
-/

namespace CxlSpeckv.Memory

open CXLMemoryManager

/-- Bytes held by the pages of the table that lie in a tier. -/
def residentBytes (c : Config) (m : CXLMemoryManager) (T : MemoryTier) : Nat :=
  (m.pageTable.entries.filter (fun e => decide (e.2.tier = T))).length * c.pageSize.toNat

/-- Every tier holds no more bytes than its configured size. -/
def WithinCapacity (c : Config) (m : CXLMemoryManager) : Prop :=
  ∀ T, residentBytes c m T ≤ (c.tierSizeBytes T).toNat

/-- With 4 GiB pages, one page goes into the 3 GiB L2 tier: nothing checks L2. -/
theorem l2_accepts_allocation_beyond_capacity :
    let c : Config := { pageSize := 0x100000000 }
    ∃ m, run c [.allocate 0x100000000 0 .l2Prefetch] init = some m ∧
      residentBytes c m .l2Prefetch = 0x100000000 ∧ ¬ WithinCapacity c m :=
  ⟨_, rfl, by decide, fun h => absurd (h .l2Prefetch) (by decide)⟩

/-- The tier `allocate` chooses is L1 only when L1 was asked for and passes
`can_fit_in_tier`; any other preferred tier is taken as it is. -/
theorem actualTier_eq_l1_iff {c : Config} {m : CXLMemoryManager} {n : BitVec 64}
    {pref : MemoryTier} :
    actualTier c m n pref = .l1GpuLocal ↔
      pref = .l1GpuLocal ∧ canFitInTier c m .l1GpuLocal (numPages c n * c.pageSize) = true := by
  unfold actualTier
  split_ifs with h <;> cases pref <;> simp_all

/-- Only L1 is gated: `allocate` puts every page in one tier, L1 only after `can_fit_in_tier`
passed and L3 for a refused L1, and takes L2 or L3 unchecked. -/
theorem allocate_gates_only_l1 (c : Config) (m : CXLMemoryManager) (n : BitVec 64)
    (layer : BitVec 32) (pref : MemoryTier) :
    (∀ k p, (allocate c m n layer pref).2.pageTable.lookup k = some p →
        m.pageTable.lookup k = some p ∨ p.tier = actualTier c m n pref) ∧
      (actualTier c m n pref = .l1GpuLocal ↔
        pref = .l1GpuLocal ∧ canFitInTier c m .l1GpuLocal (numPages c n * c.pageSize) = true) ∧
      (pref = .l1GpuLocal → canFitInTier c m .l1GpuLocal (numPages c n * c.pageSize) = false →
        actualTier c m n pref = .l3CxlPool) ∧
      (pref ≠ .l1GpuLocal → actualTier c m n pref = pref) := by
  refine ⟨fun k p h => ?_, actualTier_eq_l1_iff, fun h₁ h₂ => if_pos ⟨h₁, h₂⟩,
    fun h => if_neg fun h' => h h'.1⟩
  rw [allocate_pageTable] at h
  obtain ⟨i, -, rfl, -⟩ | h := lookup_insertPages h
  exacts [.inr rfl, .inl h]

/-- The LRU list holds, once each, exactly the keys of the L1 pages. -/
def LruExact (m : CXLMemoryManager) : Prop :=
  m.l1LruList.Nodup ∧
    ∀ k, k ∈ m.l1LruList ↔ ∃ p, m.pageTable.lookup k = some p ∧ p.tier = .l1GpuLocal

/-- A one-page allocation into L1 puts its page in L1 and leaves the LRU list empty. -/
theorem l1_allocation_missing_from_lru :
    ∃ m, run {} [.allocate 4096 0 .l1GpuLocal] init = some m ∧
      m.pageTable.lookup 0x100000000 =
        some ⟨0x100000000, 0x8000000000, .l1GpuLocal, .exclusive, 0, false, 0⟩ ∧
      m.l1LruList = [] ∧ ¬ LruExact m :=
  ⟨_, rfl, rfl, rfl, fun h => absurd ((h.2 0x100000000).2 ⟨_, rfl, rfl⟩) (by decide)⟩

/-- What one call can do to the LRU list: keep it, remove every copy of one address, or
move one address to the back. -/
def LruMove (l l' : List (BitVec 64)) : Prop :=
  l' = l ∨ ∃ va, l' = eraseAll l va ∨ l' = eraseAll l va ++ [va]

theorem LruMove.nodup {l l' : List (BitVec 64)} (h : LruMove l l') (hl : l.Nodup) :
    l'.Nodup := by
  obtain rfl | ⟨va, rfl | rfl⟩ := h
  · exact hl
  · exact hl.filter _
  · refine List.nodup_append.2 ⟨hl.filter _, List.nodup_singleton va, ?_⟩
    simp [List.disjoint_singleton, eraseAll]

variable {c : Config} {m m' : CXLMemoryManager} {va : BitVec 64}

theorem lruMove_updateLru (m : CXLMemoryManager) (va : BitVec 64) :
    LruMove m.l1LruList (updateLru m va).l1LruList :=
  .inr ⟨va, .inr rfl⟩

@[simp] theorem allocate_l1LruList (n : BitVec 64) (layer : BitVec 32) (pref : MemoryTier) :
    (allocate c m n layer pref).2.l1LruList = m.l1LruList := by
  simp only [allocate]
  cases actualTier c m n pref <;> rfl

theorem promoteToL1_lruMove {b : Bool} (h : promoteToL1 c m va = some (b, m')) :
    LruMove m.l1LruList m'.l1LruList := by
  obtain rfl | ⟨p, -, rfl⟩ := promoteToL1_eq_some h
  · exact .inl rfl
  · unfold moveToL1
    split <;> exact lruMove_updateLru _ va

theorem exec_lruMove {r : Request} (h : r.exec c m = some m') :
    LruMove m.l1LruList m'.l1LruList := by
  cases r with
  | allocate n layer pref => cases h; exact .inl (allocate_l1LruList n layer pref)
  | deallocate va =>
      cases h
      unfold deallocate
      split
      · exact .inl rfl
      · split
        · exact .inr ⟨va, .inl rfl⟩
        all_goals exact .inl rfl
  | promoteToL1 va =>
      obtain ⟨⟨b, m''⟩, hp, rfl⟩ := Option.map_eq_some'.1 h
      exact promoteToL1_lruMove hp
  | demoteToL3 va =>
      cases h
      unfold demoteToL3
      split
      · exact .inl rfl
      · split_ifs
        · exact .inl rfl
        · split
          · exact .inr ⟨va, .inl rfl⟩
          all_goals exact .inl rfl
  | invalidatePage va => cases h; unfold invalidatePage; split <;> exact .inl rfl
  | markModified va => cases h; unfold markModified; split <;> exact .inl rfl
  | updateAccessTracking va =>
      cases h
      unfold updateAccessTracking
      split
      · exact .inl rfl
      · exact lruMove_updateLru _ va
  | isHotPage va => cases h; unfold isHotPage; split <;> exact .inl rfl
  | resetStatistics => cases h; exact .inl rfl

theorem run_l1LruList_nodup {rs : List Request} (hl : m.l1LruList.Nodup)
    (h : run c rs m = some m') : m'.l1LruList.Nodup := by
  induction rs generalizing m with
  | nil => cases h; exact hl
  | cons r rs ih =>
      simp only [run, Option.bind_eq_some] at h
      obtain ⟨m₁, h₁, h⟩ := h
      exact ih ((exec_lruMove h₁).nodup hl) h

/-- From the constructor, every run keeps `l1_lru_list_` free of repeated addresses. -/
theorem lru_list_nodup (c : Config) (rs : List Request) (m : CXLMemoryManager)
    (h : run c rs init = some m) : m.l1LruList.Nodup :=
  run_l1LruList_nodup List.nodup_nil h

/-- Touching two L3 pages, one of them twice, lists each once, most recent last. -/
theorem lru_list_nodup_after_touch :
    ∃ m, run {} [.allocate 8192 0 .l3CxlPool, .updateAccessTracking 0x100001000,
        .updateAccessTracking 0x100000000, .updateAccessTracking 0x100001000] init = some m ∧
      m.l1LruList = [0x100000000, 0x100001000] ∧ m.l1LruList.Nodup :=
  ⟨_, rfl, rfl, lru_list_nodup {} [.allocate 8192 0 .l3CxlPool,
    .updateAccessTracking 0x100001000, .updateAccessTracking 0x100000000,
    .updateAccessTracking 0x100001000] _ rfl⟩

end CxlSpeckv.Memory
