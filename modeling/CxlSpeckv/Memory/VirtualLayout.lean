import CxlSpeckv.Memory.PhysicalLayout

/-!
# Virtual layout of the page table

`allocate` hands out virtual pages from one cursor, `next_virtual_addr_`, which starts at
4 GiB and grows by each allocation's size rounded up to whole pages; no other call moves it
or adds a key to the table. As long as the cursor does not wrap, every entry is stored under
its own virtual address and ends below the cursor, and no two entries' virtual pages
overlap, so a new allocation never replaces a live page.

## Implementation notes

The cursor condition is stated once for a whole run, as a bound on the bytes its
allocations reserve: unlike the physical windows, it does not depend on the state.
-/

namespace CxlSpeckv.Memory

open CXLMemoryManager

/-- Each entry is stored under its own virtual address and ends below the virtual cursor, and
distinct entries hold disjoint virtual pages. -/
structure VirtLayout (c : Config) (m : CXLMemoryManager) : Prop where
  /-- The key of an entry is its page's `virtual_addr`. -/
  key_eq : ∀ k p, m.pageTable.lookup k = some p → p.virtualAddr = k
  /-- Every page ends at or below `next_virtual_addr_`. -/
  below_cursor : ∀ k p, m.pageTable.lookup k = some p →
    k.toNat + c.pageSize.toNat ≤ m.nextVirtualAddr.toNat
  /-- Distinct keys hold disjoint virtual pages. -/
  disjoint : ∀ k₁ k₂ p₁ p₂, m.pageTable.lookup k₁ = some p₁ → m.pageTable.lookup k₂ = some p₂ →
    k₁ ≠ k₂ → k₁.toNat + c.pageSize.toNat ≤ k₂.toNat ∨ k₂.toNat + c.pageSize.toNat ≤ k₁.toNat

/-- The bytes a call reserves in the virtual space: an allocation's size rounded up to whole
pages, as `allocate` adds it to `next_virtual_addr_`. -/
def Request.virtualBytes (c : Config) : Request → Nat
  | .allocate n _ _ => (numPages c n).toNat * c.pageSize.toNat
  | _ => 0

/-- The bytes the allocations of a run reserve in the virtual space. -/
def runVirtualBytes (c : Config) : List Request → Nat
  | [] => 0
  | r :: rs => r.virtualBytes c + runVirtualBytes c rs

/-- The allocation ends inside the 64-bit virtual space. -/
def VirtFits (c : Config) (m : CXLMemoryManager) (n : BitVec 64) : Prop :=
  m.nextVirtualAddr.toNat + (numPages c n).toNat * c.pageSize.toNat < 2 ^ 64

variable {c : Config} {m m' : CXLMemoryManager}

theorem virtLayout_init (c : Config) : VirtLayout c init where
  key_eq k p h := by simp [init, AList.lookup_empty] at h
  below_cursor k p h := by simp [init, AList.lookup_empty] at h
  disjoint k₁ _ _ _ h := by simp [init, AList.lookup_empty] at h

theorem VirtLayout.keeps (h : VirtLayout c m) (hk : KeepsLayout m m') : VirtLayout c m' where
  key_eq k p' hp' := by
    obtain ⟨p, hp, hv, -⟩ := hk.entry k p' hp'
    exact hv.trans (h.key_eq k p hp)
  below_cursor k p' hp' := by
    obtain ⟨p, hp, -⟩ := hk.entry k p' hp'
    exact hk.nextVirtualAddr ▸ h.below_cursor k p hp
  disjoint k₁ k₂ p₁' p₂' h₁ h₂ := by
    obtain ⟨p₁, hp₁, -⟩ := hk.entry k₁ p₁' h₁
    obtain ⟨p₂, hp₂, -⟩ := hk.entry k₂ p₂' h₂
    exact h.disjoint k₁ k₂ p₁ p₂ hp₁ hp₂

section Allocate

variable {n : BitVec 64} {layer : BitVec 32} {pref : MemoryTier}

/-- A zero page size gives a zero page count, so an allocation with a page has a positive
page size. -/
theorem pageSize_pos_of_lt_numPages {i : Nat} (hi : i < (numPages c n).toNat) :
    0 < c.pageSize.toNat := by
  rw [numPages, BitVec.toNat_udiv] at hi
  exact Nat.pos_of_ne_zero fun h0 => by simp [h0] at hi

/-- Page `i` of a new allocation sits `i` pages above the virtual cursor. -/
theorem toNat_newPage_virtualAddr (hf : VirtFits c m n) {i : Nat}
    (hi : i < (numPages c n).toNat) {pa : BitVec 64} {T : MemoryTier} :
    (newPage m.nextVirtualAddr pa c.pageSize T layer i).virtualAddr.toNat =
      m.nextVirtualAddr.toNat + i * c.pageSize.toNat := by
  have := Nat.mul_le_mul_right c.pageSize.toNat hi.le
  unfold VirtFits at hf
  exact toNat_add_ofNat_mul (hi.trans (BitVec.isLt _)) (by omega)

theorem toNat_nextVirtualAddr_allocate (hf : VirtFits c m n) :
    (allocate c m n layer pref).2.nextVirtualAddr.toNat =
      m.nextVirtualAddr.toNat + (numPages c n).toNat * c.pageSize.toNat := by
  have h : (allocate c m n layer pref).2.nextVirtualAddr =
      m.nextVirtualAddr + numPages c n * c.pageSize := by
    simp [allocate]
  rw [h, BitVec.toNat_add, toNat_requiredBytes, Nat.mod_eq_of_lt hf]

theorem VirtLayout.allocate (h : VirtLayout c m) (hf : VirtFits c m n) :
    VirtLayout c (allocate c m n layer pref).2 := by
  refine ⟨fun k p hp => ?_, fun k p hp => ?_, fun k₁ k₂ p₁ p₂ h₁ h₂ hne => ?_⟩
  · rw [allocate_pageTable] at hp
    rcases lookup_insertPages hp with ⟨i, -, rfl, rfl⟩ | hp
    · rfl
    · exact h.key_eq k p hp
  · rw [allocate_pageTable] at hp
    rw [toNat_nextVirtualAddr_allocate hf]
    rcases lookup_insertPages hp with ⟨i, hi, rfl, rfl⟩ | hp
    · rw [toNat_newPage_virtualAddr hf hi]
      have := page_end_le c.pageSize.toNat hi
      omega
    · have := h.below_cursor k p hp
      omega
  · rw [allocate_pageTable] at h₁ h₂
    rcases lookup_insertPages h₁ with ⟨i, hi, rfl, rfl⟩ | h₁ <;>
      rcases lookup_insertPages h₂ with ⟨j, hj, rfl, rfl⟩ | h₂
    · rw [toNat_newPage_virtualAddr hf hi, toNat_newPage_virtualAddr hf hj]
      exact offsets_apart _ _ fun hij => hne (hij ▸ rfl)
    · rw [toNat_newPage_virtualAddr hf hi]
      have := h.below_cursor k₂ p₂ h₂
      omega
    · rw [toNat_newPage_virtualAddr hf hj]
      have := h.below_cursor k₁ p₁ h₁
      omega
    · exact h.disjoint k₁ k₂ p₁ p₂ h₁ h₂ hne

/-- The new pages start at the virtual cursor, above every live page, so none of them lands
on a live key. -/
theorem VirtLayout.lookup_allocate (h : VirtLayout c m) (hf : VirtFits c m n) {k : BitVec 64}
    {p : MemoryPage} (hk : m.pageTable.lookup k = some p) :
    (CXLMemoryManager.allocate c m n layer pref).2.pageTable.lookup k = some p := by
  rw [allocate_pageTable]
  refine (lookup_insertPages_of_forall_ne fun i hi heq => ?_).trans hk
  have hkey := congrArg BitVec.toNat heq
  rw [toNat_newPage_virtualAddr hf hi] at hkey
  have := h.below_cursor k p hk
  have := pageSize_pos_of_lt_numPages hi
  omega

end Allocate

/-- One call that returns keeps the layout and moves the virtual cursor by at most the bytes
it reserves. -/
theorem VirtLayout.exec {r : Request} (h : VirtLayout c m)
    (hb : m.nextVirtualAddr.toNat + r.virtualBytes c < 2 ^ 64) (he : r.exec c m = some m') :
    VirtLayout c m' ∧ m'.nextVirtualAddr.toNat ≤ m.nextVirtualAddr.toNat + r.virtualBytes c := by
  rcases exec_allocates_or_keepsLayout he with ⟨n, layer, pref, rfl, rfl⟩ | hk
  · exact ⟨h.allocate hb, (toNat_nextVirtualAddr_allocate hb).le⟩
  · exact ⟨h.keeps hk, by rw [hk.nextVirtualAddr]; omega⟩

theorem VirtLayout.run {rs : List Request} (h : VirtLayout c m)
    (hb : m.nextVirtualAddr.toNat + runVirtualBytes c rs < 2 ^ 64)
    (hr : run c rs m = some m') :
    VirtLayout c m' ∧ m'.nextVirtualAddr.toNat ≤ m.nextVirtualAddr.toNat + runVirtualBytes c rs := by
  induction rs generalizing m with
  | nil => cases hr; exact ⟨h, Nat.le_add_right _ _⟩
  | cons r rs ih =>
      simp only [CxlSpeckv.Memory.run, Option.bind_eq_some] at hr
      obtain ⟨m₁, h₁, hr⟩ := hr
      rw [runVirtualBytes] at hb ⊢
      obtain ⟨hl₁, hc₁⟩ := h.exec (by omega) h₁
      obtain ⟨hl, hc⟩ := ih hl₁ (by omega) hr
      exact ⟨hl, by omega⟩

/-- Over any run that fits in the virtual space above 4 GiB, every entry sits under its own
address, below `next_virtual_addr_`, and distinct entries hold disjoint pages. -/
theorem run_keeps_virtual_layout (c : Config) (rs : List Request) (m : CXLMemoryManager)
    (hb : 0x100000000 + runVirtualBytes c rs < 2 ^ 64)
    (h : run c rs init = some m) : VirtLayout c m :=
  ((virtLayout_init c).run hb h).1

theorem two_allocations_virtual_layout :
    0x100000000 + runVirtualBytes {} [.allocate 8192 0 .l1GpuLocal, .allocate 4096 0 .l3CxlPool] <
        2 ^ 64 ∧
      ∃ m, run {} [.allocate 8192 0 .l1GpuLocal, .allocate 4096 0 .l3CxlPool] init = some m ∧
        VirtLayout {} m :=
  ⟨by decide, _, rfl,
    run_keeps_virtual_layout {} [.allocate 8192 0 .l1GpuLocal, .allocate 4096 0 .l3CxlPool] _
      (by decide) rfl⟩

/-- From the constructor, as long as the allocations fit in the 64-bit virtual space above
4 GiB, an allocation leaves every live page of the table where it was. -/
theorem allocate_keeps_live_pages (c : Config) (rs : List Request) (m : CXLMemoryManager)
    (n : BitVec 64) (layer : BitVec 32) (pref : MemoryTier)
    (hb : 0x100000000 + runVirtualBytes c rs + (Request.allocate n layer pref).virtualBytes c <
      2 ^ 64)
    (h : run c rs init = some m) (k : BitVec 64) (p : MemoryPage)
    (hk : m.pageTable.lookup k = some p) :
    (allocate c m n layer pref).2.pageTable.lookup k = some p := by
  have h0 : init.nextVirtualAddr.toNat = 0x100000000 := rfl
  have hn : (Request.allocate n layer pref).virtualBytes c =
      (numPages c n).toNat * c.pageSize.toNat := rfl
  obtain ⟨hl, hc⟩ := (virtLayout_init c).run (by omega) h
  exact hl.lookup_allocate (by unfold VirtFits; omega) hk

theorem second_allocation_keeps_first_page :
    0x100000000 + runVirtualBytes {} [.allocate 8192 0 .l3CxlPool] +
        (Request.allocate 4096 0 .l1GpuLocal).virtualBytes {} < 2 ^ 64 ∧
      ∃ m, run {} [.allocate 8192 0 .l3CxlPool] init = some m ∧
        m.pageTable.lookup 0x100000000 =
          some ⟨0x100000000, 0x20000000000, .l3CxlPool, .exclusive, 0, false, 0⟩ ∧
        (allocate {} m 4096 0 .l1GpuLocal).2.pageTable.lookup 0x100000000 =
          some ⟨0x100000000, 0x20000000000, .l3CxlPool, .exclusive, 0, false, 0⟩ :=
  ⟨by decide, _, rfl, by decide,
    allocate_keeps_live_pages {} [.allocate 8192 0 .l3CxlPool] _ 4096 0 .l1GpuLocal (by decide)
      rfl _ _ (by decide)⟩

end CxlSpeckv.Memory
