import CxlSpeckv.Integration.Allocator

/-!
# What `cxl_access` touches

`cxl_access` never compares the offset with the allocation's size. For every live handle and
every offset, when it returns, it returns `virtual_addr + offset` and counts one access of
the page at that address, whichever allocation the page belongs to.

The count is the `uint32_t` `access_count`, and `update_access_tracking` increments it with
`++`: it wraps rather than saturates, so a page that `is_hot_page` reported hot is reported
cold again after `2^32 - 11` further accesses, while it is still live.
-/

namespace CxlSpeckv.Memory.CXLMemoryManager

variable {c : Config} {m m' : CXLMemoryManager} {va : BitVec 64}

theorem getPage_setPage_self (p : MemoryPage) : getPage c (setPage c m va p) va = some p :=
  AList.lookup_insert _

/-- `update_access_tracking` adds one to the access count of the page of `va`. -/
theorem getPage_updateAccessTracking :
    getPage c (updateAccessTracking c m va) va =
      (getPage c m va).map fun p => { p with accessCount := p.accessCount + 1 } := by
  unfold updateAccessTracking
  split
  · next hp => rw [hp]; rfl
  · next p hp => rw [hp]; exact getPage_setPage_self _

theorem accessCount_isHotPage :
    (getPage c (isHotPage c m va).2 va).map MemoryPage.accessCount =
      (getPage c m va).map MemoryPage.accessCount := by
  unfold isHotPage
  split
  · rfl
  · next p hp => rw [getPage_setPage_self, hp]; rfl

theorem getPage_moveToL1 (p : MemoryPage) :
    getPage c (moveToL1 c m va p) va = some { p with tier := .l1GpuLocal } := by
  unfold moveToL1
  split <;> exact AList.lookup_insert _

theorem accessCount_promoteToL1 {b : Bool} (h : promoteToL1 c m va = some (b, m')) :
    (getPage c m' va).map MemoryPage.accessCount = (getPage c m va).map MemoryPage.accessCount := by
  obtain rfl | ⟨p, hp, rfl⟩ := promoteToL1_eq_some h
  · rfl
  · rw [getPage_moveToL1, hp]; rfl

/-- `is_hot_page` answers whether the page of `va` has been counted more than ten times. -/
theorem isHotPage_fst :
    (isHotPage c m va).1 = ((getPage c m va).map fun p => decide (10 < p.accessCount)).getD false := by
  unfold isHotPage
  split <;> next hp => rw [hp]; rfl

/-- `n` calls of `update_access_tracking` on a live page add `n` to its count, modulo `2^32`,
and change nothing else about it. -/
theorem run_replicate_updateAccessTracking {p : MemoryPage} (hp : getPage c m va = some p)
    (n : Nat) : ∃ m', run c (List.replicate n (.updateAccessTracking va)) m = some m' ∧
      getPage c m' va = some { p with accessCount := p.accessCount + BitVec.ofNat 32 n } := by
  induction n generalizing m p with
  | zero => exact ⟨m, rfl, by rw [hp, BitVec.add_zero]⟩
  | succ n ih =>
      have hp₁ : getPage c (updateAccessTracking c m va) va =
          some { p with accessCount := p.accessCount + 1 } := by
        rw [getPage_updateAccessTracking, hp]
        rfl
      obtain ⟨m', hr, hm'⟩ := ih hp₁
      refine ⟨m', hr, by rw [hm']; congr 2; bv_omega⟩

end CxlSpeckv.Memory.CXLMemoryManager

namespace CxlSpeckv.Integration.CXLMemoryAllocator

open CxlSpeckv.Memory CXLMemoryManager

/-- `cxl_access` returns `virtual_addr + offset` and counts an access of the page there, keeping
the handle map and the statistics; nothing bounds the offset by the allocation's size. -/
theorem cxl_access_ignores_bounds {s s' : CXLMemoryAllocator} {handle offset len x : BitVec 64}
    {al : AllocationHandle} (hi : s.initialized = true) (hh : handle ≠ 0)
    (hl : s.handleMap.lookup handle = some al) (he : cxlAccess s handle offset len = some (x, s')) :
    x = al.virtualAddr + offset ∧ s'.handleMap = s.handleMap ∧ s'.stats = s.stats ∧
      (getPage s.config s'.memoryManager x).map MemoryPage.accessCount =
        (getPage s.config s.memoryManager x).map (·.accessCount + 1) := by
  unfold cxlAccess at he
  rw [if_neg (by simpa only [hi, Bool.not_true, Bool.false_or, decide_eq_true_eq] using hh),
    hl] at he
  dsimp only at he
  have hmm : (getPage s.config (updateAccessTracking s.config s.memoryManager
      (al.virtualAddr + offset)) (al.virtualAddr + offset)).map MemoryPage.accessCount =
      (getPage s.config s.memoryManager (al.virtualAddr + offset)).map (·.accessCount + 1) := by
    rw [getPage_updateAccessTracking, Option.map_map]
    rfl
  split_ifs at he with hL1 hL2 hhot
  · cases he
    exact ⟨rfl, rfl, rfl, hmm⟩
  · obtain ⟨⟨b, m'⟩, hp, he⟩ := Option.map_eq_some'.1 he
    cases he
    exact ⟨rfl, rfl, rfl, by rw [accessCount_promoteToL1 hp, accessCount_isHotPage, hmm]⟩
  · cases he
    exact ⟨rfl, rfl, rfl, by rw [accessCount_isHotPage, hmm]⟩
  · obtain ⟨⟨b, m'⟩, hp, he⟩ := Option.map_eq_some'.1 he
    cases he
    exact ⟨rfl, rfl, rfl, by rw [accessCount_promoteToL1 hp, hmm]⟩

/-- After `initialize(12, 3, 128)` and two `cxl_malloc(4096)`, `cxl_access` of the first handle
at offset 4096 returns the second base and counts an access of its page. -/
theorem cxl_access_past_end_touches_next_allocation :
    let s := (cxlMalloc (cxlMalloc (initializeTiers init 12 3 128).2 4096 0).2 4096 0).2
    s.handleMap.lookup 0x100001000 = some ⟨0x100001000, 4096, 0⟩ ∧
      ∃ s', cxlAccess s 0x100000000 4096 1 = some (0x100001000, s') ∧
        (getPage s.config s'.memoryManager 0x100001000).map MemoryPage.accessCount =
          (getPage s.config s.memoryManager 0x100001000).map (·.accessCount + 1) := by
  intro s
  have hl : s.handleMap.lookup 0x100000000 = some ⟨0x100000000, 4096, 0⟩ := by
    unfold s; decide
  have hs : (cxlAccess s 0x100000000 4096 1).isSome = true := by unfold s; decide
  obtain ⟨⟨x, s'⟩, he⟩ := Option.isSome_iff_exists.1 hs
  obtain ⟨rfl, -, -, hc⟩ := cxl_access_ignores_bounds (by unfold s; decide) (by decide) hl he
  exact ⟨by unfold s; decide, s', he, hc⟩

end CxlSpeckv.Integration.CXLMemoryAllocator

namespace CxlSpeckv.Memory

open CXLMemoryManager

/-- `n` calls of `update_access_tracking` on a live page add `n` to its count modulo `2^32`, and
`is_hot_page` answers from the wrapped count. -/
theorem access_count_wraps (c : Config) (m : CXLMemoryManager) (va : BitVec 64) (p : MemoryPage)
    (hp : getPage c m va = some p) (n : Nat) :
    ∃ m', run c (List.replicate n (.updateAccessTracking va)) m = some m' ∧
      (getPage c m' va).map MemoryPage.accessCount = some (p.accessCount + BitVec.ofNat 32 n) ∧
      (isHotPage c m' va).1 = decide (10 < p.accessCount + BitVec.ofNat 32 n) := by
  obtain ⟨m', hr, hm'⟩ := run_replicate_updateAccessTracking hp n
  exact ⟨m', hr, by rw [hm']; rfl, by rw [isHotPage_fst, hm']; rfl⟩

/-- A page allocated in L3 and accessed eleven times is hot; `2^32 - 11` further accesses bring
its count back to 0, and `is_hot_page` reports it cold. -/
theorem hot_page_turns_cold_after_counter_wraps :
    ∃ m₁ m₂, run {} (.allocate 4096 0 .l3CxlPool ::
        List.replicate 11 (.updateAccessTracking 0x100000000)) init = some m₁ ∧
      (isHotPage {} m₁ 0x100000000).1 = true ∧
      run {} (List.replicate (2 ^ 32 - 11) (.updateAccessTracking 0x100000000))
        (isHotPage {} m₁ 0x100000000).2 = some m₂ ∧
      (getPage {} m₂ 0x100000000).map MemoryPage.accessCount = some 0 ∧
      (isHotPage {} m₂ 0x100000000).1 = false := by
  let m₁ := (run {} (.allocate 4096 0 .l3CxlPool ::
    List.replicate 11 (.updateAccessTracking 0x100000000)) init).getD init
  obtain ⟨m₂, hr, hc, hh⟩ := access_count_wraps {} (isHotPage {} m₁ 0x100000000).2 0x100000000
    ⟨0x100000000, 0x20000000000, .l3CxlPool, .exclusive, 11, true, 0⟩ (by decide) (2 ^ 32 - 11)
  exact ⟨m₁, m₂, rfl, by decide, hr, hc, hh⟩

end CxlSpeckv.Memory
