import CxlSpeckv.Memory.Manager

/-!
# Allocation and deallocation

What the allocation loop puts in the page table, how far the cursors move, and what
`deallocate` removes. `deallocate` is given the base of an allocation but erases only the
page-table entry under that exact key; the allocation's other pages stay in the table.
-/

namespace CxlSpeckv.Memory

open CXLMemoryManager

section Loop

variable {t : PageTable} {va pa ps : BitVec 64} {tier : MemoryTier} {layer : BitVec 32}

/-- Every entry after the loop is one of its new pages, under its own address, or an old
entry. -/
theorem lookup_insertPages {n : Nat} {k : BitVec 64} {p : MemoryPage}
    (h : (insertPages t va pa ps tier layer n).lookup k = some p) :
    (∃ i < n, p = newPage va pa ps tier layer i ∧ k = p.virtualAddr) ∨ t.lookup k = some p := by
  induction n with
  | zero => exact .inr h
  | succ n ih =>
      simp only [insertPages] at h
      by_cases hk : k = (newPage va pa ps tier layer n).virtualAddr
      · subst hk
        rw [AList.lookup_insert] at h
        obtain rfl := Option.some.inj h
        exact .inl ⟨n, Nat.lt_succ_self n, rfl, rfl⟩
      · rw [AList.lookup_insert_ne hk] at h
        obtain ⟨i, hi, hp⟩ | h := ih h
        · exact .inl ⟨i, Nat.lt_succ_of_lt hi, hp⟩
        · exact .inr h

theorem lookup_insertPages_of_forall_ne {n : Nat} {k : BitVec 64}
    (h : ∀ i < n, k ≠ (newPage va pa ps tier layer i).virtualAddr) :
    (insertPages t va pa ps tier layer n).lookup k = t.lookup k := by
  induction n with
  | zero => rfl
  | succ n ih =>
      simp only [insertPages]
      rw [AList.lookup_insert_ne (h n (Nat.lt_succ_self n)),
        ih fun i hi => h i (Nat.lt_succ_of_lt hi)]

end Loop

/-- The rounded page count never overflows when multiplied back by the page size. -/
theorem numPages_mul_lt (c : Config) (s : BitVec 64) :
    (numPages c s).toNat * c.pageSize.toNat < 2 ^ 64 := by
  simp only [numPages, BitVec.toNat_udiv]
  exact lt_of_le_of_lt (Nat.div_mul_le_self _ _) (BitVec.isLt _)

theorem toNat_requiredBytes (c : Config) (s : BitVec 64) :
    (numPages c s * c.pageSize).toNat = (numPages c s).toNat * c.pageSize.toNat := by
  rw [BitVec.toNat_mul, Nat.mod_eq_of_lt (numPages_mul_lt c s)]

/-- The rounded page count as `size_t` computes it: the sum wraps before the division. -/
theorem toNat_numPages {c : Config} (s : BitVec 64) (hps : 0 < c.pageSize.toNat) :
    (numPages c s).toNat = (s.toNat + c.pageSize.toNat - 1) % 2 ^ 64 / c.pageSize.toNat := by
  have h1 : (1 : BitVec 64).toNat = 1 := rfl
  simp only [numPages, BitVec.toNat_udiv, BitVec.toNat_sub, BitVec.toNat_add, h1]
  congr 1
  have := c.pageSize.isLt
  have := s.isLt
  omega

/-- The rounded page count is zero exactly for the empty size and for the sizes whose
rounding sum wraps. -/
theorem numPages_eq_zero_iff {c : Config} {n : BitVec 64} (hps : 0 < c.pageSize.toNat) :
    numPages c n = 0 ↔ n.toNat = 0 ∨ 2 ^ 64 - c.pageSize.toNat < n.toNat := by
  rw [BitVec.toNat_eq, toNat_numPages n hps, show (0 : BitVec 64).toNat = 0 from rfl,
    Nat.div_eq_zero_iff hps]
  have := c.pageSize.isLt
  have := n.isLt
  omega

namespace CXLMemoryManager

variable {c : Config} {m : CXLMemoryManager} {tier tier' : MemoryTier} {va bytes : BitVec 64}

@[simp] theorem reserve_fst : (reserve m tier va bytes).1 = m.cursor tier := by
  cases tier <;> rfl

@[simp] theorem reserve_pageTable : (reserve m tier va bytes).2.pageTable = m.pageTable := by
  cases tier <;> rfl

@[simp] theorem reserve_nextVirtualAddr :
    (reserve m tier va bytes).2.nextVirtualAddr = m.nextVirtualAddr := by
  cases tier <;> rfl

theorem cursor_reserve (m : CXLMemoryManager) (tier : MemoryTier) (va bytes : BitVec 64)
    (tier' : MemoryTier) :
    (reserve m tier va bytes).2.cursor tier' =
      if tier' = tier then m.cursor tier + bytes else m.cursor tier' := by
  cases tier <;> cases tier' <;> rfl

theorem allocate_fst (n : BitVec 64) (layer : BitVec 32) (pref : MemoryTier) :
    (allocate c m n layer pref).1 = m.nextVirtualAddr := rfl

/-- The table after `allocate`: the loop run from the chosen tier's cursor. -/
theorem allocate_pageTable (n : BitVec 64) (layer : BitVec 32) (pref : MemoryTier) :
    (allocate c m n layer pref).2.pageTable =
      insertPages m.pageTable m.nextVirtualAddr (m.cursor (actualTier c m n pref)) c.pageSize
        (actualTier c m n pref) layer (numPages c n).toNat := by
  simp [allocate]

theorem cursor_allocate (n : BitVec 64) (layer : BitVec 32) (pref : MemoryTier) :
    (allocate c m n layer pref).2.cursor tier' =
      if tier' = actualTier c m n pref then m.cursor tier' + numPages c n * c.pageSize
      else m.cursor tier' := by
  have h : (allocate c m n layer pref).2.cursor tier' =
      (reserve m (actualTier c m n pref) m.nextVirtualAddr (numPages c n * c.pageSize)).2.cursor
        tier' := by
    cases tier' <;> rfl
  rw [h, cursor_reserve]
  split_ifs with h' <;> simp [h']

/-- An allocation whose rounded page count is zero creates no page and leaves the next base
where it was. -/
theorem allocate_of_numPages_eq_zero {n : BitVec 64} {layer : BitVec 32} {pref : MemoryTier}
    (h : numPages c n = 0) :
    (allocate c m n layer pref).2.pageTable = m.pageTable ∧
      (allocate c m n layer pref).2.nextVirtualAddr = m.nextVirtualAddr := by
  refine ⟨by rw [allocate_pageTable, h]; rfl, ?_⟩
  simp [allocate, h]

/-- `deallocate` erases the entry under the exact key it is given, and no other. -/
theorem lookup_deallocate (k : BitVec 64) :
    (deallocate m va).pageTable.lookup k = if k = va then none else m.pageTable.lookup k := by
  unfold deallocate
  cases h : m.pageTable.lookup va with
  | none =>
      split_ifs with hk
      · exact hk ▸ h
      · rfl
  | some p =>
      dsimp only
      split_ifs with hk
      · subst hk; split <;> exact AList.lookup_erase _ _
      · split <;> exact AList.lookup_erase_ne hk

end CXLMemoryManager

/-- A two-page allocation, deallocated by its base, leaves its second page in the table. -/
theorem deallocate_leaves_second_page :
    (CXLMemoryManager.allocate {} CXLMemoryManager.init 8192 0 .l3CxlPool).1 = 0x100000000 ∧
      ∃ m, run {} [.allocate 8192 0 .l3CxlPool, .deallocate 0x100000000]
          CXLMemoryManager.init = some m ∧
        m.pageTable.lookup 0x100001000 =
          some ⟨0x100001000, 0x20000001000, .l3CxlPool, .exclusive, 0, false, 0⟩ :=
  ⟨rfl, _, rfl, by decide⟩

end CxlSpeckv.Memory
