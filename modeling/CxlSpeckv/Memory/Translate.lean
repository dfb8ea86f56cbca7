import CxlSpeckv.Memory.PhysicalLayout

/-!
# Translation through page-aligned keys

`translate_virtual_to_physical`, `is_in_cache` and `get_page` round an address down to a
multiple of `page_size_` and look that key up. The lookup finds the page holding the address
because every key is a multiple of the page size: the virtual cursor starts at 4 GiB and only
grows by whole pages, so with a page size that divides `2^32` it stays aligned through every
wrap of the 64-bit word, and each new page sits a whole number of pages above it.
-/

namespace CxlSpeckv.Memory

open CXLMemoryManager

/-- Every entry is stored under its page's `virtual_addr`, and every key and the virtual
cursor are multiples of the page size. -/
structure KeysAligned (c : Config) (m : CXLMemoryManager) : Prop where
  /-- The key of an entry is its page's `virtual_addr`. -/
  key_eq : ∀ k p, m.pageTable.lookup k = some p → p.virtualAddr = k
  /-- Every key is a multiple of the page size. -/
  key_dvd : ∀ k p, m.pageTable.lookup k = some p → c.pageSize.toNat ∣ k.toNat
  /-- So is `next_virtual_addr_`. -/
  cursor_dvd : c.pageSize.toNat ∣ m.nextVirtualAddr.toNat

variable {c : Config} {m m' : CXLMemoryManager}

section Words

variable {d : Nat} (hd : d ∣ 2 ^ 64)
include hd

/-- A divisor of `2^64` divides a wrapped sum of words it divides. -/
theorem dvd_toNat_add {x y : BitVec 64} (hx : d ∣ x.toNat) (hy : d ∣ y.toNat) :
    d ∣ (x + y).toNat := by
  rw [BitVec.toNat_add, Nat.dvd_mod_iff hd]
  exact Nat.dvd_add hx hy

/-- A divisor of `2^64` divides a wrapped product with a word it divides. -/
theorem dvd_toNat_mul (x : BitVec 64) {y : BitVec 64} (hy : d ∣ y.toNat) :
    d ∣ (x * y).toNat := by
  rw [BitVec.toNat_mul, Nat.dvd_mod_iff hd]
  exact Nat.dvd_trans hy (Nat.dvd_mul_left _ _)

end Words

section PageAddr

/-- Rounding down never wraps. -/
theorem toNat_pageAddr (va : BitVec 64) :
    (pageAddr c va).toNat = va.toNat / c.pageSize.toNat * c.pageSize.toNat := by
  rw [pageAddr, BitVec.toNat_mul, BitVec.toNat_udiv,
    Nat.mod_eq_of_lt ((Nat.div_mul_le_self _ _).trans_lt va.isLt)]

/-- An address rounds down to the aligned start of the page it lies in. -/
theorem pageAddr_eq_of_mem {k va : BitVec 64} (hk : c.pageSize.toNat ∣ k.toNat)
    (h₁ : k.toNat ≤ va.toNat) (h₂ : va.toNat < k.toNat + c.pageSize.toNat) : pageAddr c va = k := by
  obtain ⟨q, hq⟩ := hk
  have hva : va.toNat = c.pageSize.toNat * q + (va.toNat - k.toNat) := by omega
  apply BitVec.eq_of_toNat_eq
  rw [toNat_pageAddr, hva, Nat.mul_add_div (by omega), Nat.div_eq_of_lt (by omega), Nat.add_zero,
    Nat.mul_comm, hq]

/-- An address lies in the page its rounded-down key starts. -/
theorem mem_pageAddr (hps : 0 < c.pageSize.toNat) (va : BitVec 64) :
    (pageAddr c va).toNat ≤ va.toNat ∧ va.toNat < (pageAddr c va).toNat + c.pageSize.toNat := by
  rw [toNat_pageAddr]
  exact ⟨Nat.div_mul_le_self _ _, Nat.lt_div_mul_add hps⟩

end PageAddr

section Invariant

theorem keysAligned_init (h32 : c.pageSize.toNat ∣ 2 ^ 32) : KeysAligned c init :=
  ⟨fun k p h => by simp [init, AList.lookup_empty] at h,
    fun k p h => by simp [init, AList.lookup_empty] at h, h32⟩

theorem KeysAligned.keeps (h : KeysAligned c m) (hk : KeepsLayout m m') : KeysAligned c m' where
  key_eq k p' hp' := by
    obtain ⟨p, hp, hv, -⟩ := hk.entry k p' hp'
    exact hv.trans (h.key_eq k p hp)
  key_dvd k p' hp' := by
    obtain ⟨p, hp, -⟩ := hk.entry k p' hp'
    exact h.key_dvd k p hp
  cursor_dvd := hk.nextVirtualAddr ▸ h.cursor_dvd

variable (hd : c.pageSize.toNat ∣ 2 ^ 64)
include hd

theorem KeysAligned.allocate (h : KeysAligned c m) {n : BitVec 64} {layer : BitVec 32}
    {pref : MemoryTier} : KeysAligned c (CXLMemoryManager.allocate c m n layer pref).2 := by
  have hcur : (CXLMemoryManager.allocate c m n layer pref).2.nextVirtualAddr =
      m.nextVirtualAddr + numPages c n * c.pageSize := by
    simp [CXLMemoryManager.allocate]
  refine ⟨fun k p hp => ?_, fun k p hp => ?_, ?_⟩
  · rw [allocate_pageTable] at hp
    rcases lookup_insertPages hp with ⟨i, -, rfl, rfl⟩ | hp
    · rfl
    · exact h.key_eq k p hp
  · rw [allocate_pageTable] at hp
    rcases lookup_insertPages hp with ⟨i, -, rfl, rfl⟩ | hp
    · exact dvd_toNat_add hd h.cursor_dvd (dvd_toNat_mul hd _ (Nat.dvd_refl _))
    · exact h.key_dvd k p hp
  · rw [hcur]
    exact dvd_toNat_add hd h.cursor_dvd (dvd_toNat_mul hd _ (Nat.dvd_refl _))

theorem KeysAligned.exec {r : Request} (h : KeysAligned c m) (he : r.exec c m = some m') :
    KeysAligned c m' := by
  rcases exec_allocates_or_keepsLayout he with ⟨n, layer, pref, rfl, rfl⟩ | hk
  · exact h.allocate hd
  · exact h.keeps hk

theorem KeysAligned.run {rs : List Request} (h : KeysAligned c m) (hr : run c rs m = some m') :
    KeysAligned c m' := by
  induction rs generalizing m with
  | nil => cases hr; exact h
  | cons r rs ih =>
      simp only [CxlSpeckv.Memory.run, Option.bind_eq_some] at hr
      obtain ⟨m₁, h₁, hr⟩ := hr
      exact ih (h.exec hd h₁) hr

end Invariant

section Lookup

variable (h : KeysAligned c m)
include h

/-- An address inside a live page translates into that page and reports its tier. -/
theorem translate_of_mem {k va : BitVec 64} {p : MemoryPage} (hk : m.pageTable.lookup k = some p)
    (h₁ : p.virtualAddr.toNat ≤ va.toNat) (h₂ : va.toNat < p.virtualAddr.toNat + c.pageSize.toNat) :
    translateVirtualToPhysical c m va = p.physicalAddr + (va - p.virtualAddr) ∧
      ∀ T, isInCache c m va T = true ↔ p.tier = T := by
  have hv := h.key_eq k p hk
  have hpage : pageAddr c va = p.virtualAddr :=
    pageAddr_eq_of_mem (hv ▸ h.key_dvd k p hk) h₁ h₂
  have hl : m.pageTable.lookup (pageAddr c va) = some p := by rw [hpage, hv]; exact hk
  refine ⟨by rw [translateVirtualToPhysical, hl, hpage], fun T => ?_⟩
  rw [isInCache, hl, decide_eq_true_iff]

/-- An address inside no live page translates to 0 and is in no tier. -/
theorem translate_of_not_mem (hps : 0 < c.pageSize.toNat) {va : BitVec 64}
    (hno : ∀ k p, m.pageTable.lookup k = some p →
      ¬ (p.virtualAddr.toNat ≤ va.toNat ∧ va.toNat < p.virtualAddr.toNat + c.pageSize.toNat)) :
    translateVirtualToPhysical c m va = 0 ∧ ∀ T, isInCache c m va T = false := by
  cases hl : m.pageTable.lookup (pageAddr c va) with
  | none => exact ⟨by rw [translateVirtualToPhysical, hl], fun T => by rw [isInCache, hl]⟩
  | some p =>
      refine absurd ?_ (hno _ p hl)
      rw [h.key_eq _ p hl]
      exact mem_pageAddr hps va

end Lookup

/-- After every run, an address in a live page translates to the page's physical address plus
the offset, in the page's tier; an address in no live page translates to 0. -/
theorem translation_follows_live_pages (c : Config) (hps : ∃ j ≤ 32, c.pageSize.toNat = 2 ^ j)
    (rs : List Request) (m : CXLMemoryManager) (hr : run c rs init = some m) :
    (∀ k p va, m.pageTable.lookup k = some p → p.virtualAddr.toNat ≤ va.toNat →
        va.toNat < p.virtualAddr.toNat + c.pageSize.toNat →
        translateVirtualToPhysical c m va = p.physicalAddr + (va - p.virtualAddr) ∧
          ∀ T, isInCache c m va T = true ↔ p.tier = T) ∧
      ∀ va, (∀ k p, m.pageTable.lookup k = some p →
          ¬ (p.virtualAddr.toNat ≤ va.toNat ∧ va.toNat < p.virtualAddr.toNat + c.pageSize.toNat)) →
        translateVirtualToPhysical c m va = 0 ∧ ∀ T, isInCache c m va T = false := by
  obtain ⟨j, hj, hpow⟩ := hps
  have h32 : c.pageSize.toNat ∣ 2 ^ 32 := hpow ▸ Nat.pow_dvd_pow 2 hj
  have h64 : c.pageSize.toNat ∣ 2 ^ 64 := Nat.dvd_trans h32 (Nat.pow_dvd_pow 2 (by decide))
  have h := (keysAligned_init h32).run h64 hr
  exact ⟨fun k p va hk h₁ h₂ => translate_of_mem h hk h₁ h₂,
    fun va hno => translate_of_not_mem h (hpow ▸ Nat.pos_pow_of_pos j (by decide)) hno⟩

/-- Two pages of 4 KiB in L1: every address of either translates into its page. -/
theorem translation_follows_two_pages :
    (∃ j ≤ 32, ({} : Config).pageSize.toNat = 2 ^ j) ∧
      ∃ m, run {} [.allocate 8192 0 .l1GpuLocal] init = some m ∧
        (∀ k p va, m.pageTable.lookup k = some p → p.virtualAddr.toNat ≤ va.toNat →
            va.toNat < p.virtualAddr.toNat + ({} : Config).pageSize.toNat →
            translateVirtualToPhysical {} m va = p.physicalAddr + (va - p.virtualAddr) ∧
              ∀ T, isInCache {} m va T = true ↔ p.tier = T) ∧
          ∀ va, (∀ k p, m.pageTable.lookup k = some p → ¬ (p.virtualAddr.toNat ≤ va.toNat ∧
              va.toNat < p.virtualAddr.toNat + ({} : Config).pageSize.toNat)) →
            translateVirtualToPhysical {} m va = 0 ∧ ∀ T, isInCache {} m va T = false :=
  have hps : ∃ j ≤ 32, ({} : Config).pageSize.toNat = 2 ^ j := ⟨12, by decide, rfl⟩
  ⟨hps, _, rfl, translation_follows_live_pages {} hps [.allocate 8192 0 .l1GpuLocal] _ rfl⟩

end CxlSpeckv.Memory
