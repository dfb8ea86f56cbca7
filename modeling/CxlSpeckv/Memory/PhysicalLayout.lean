import CxlSpeckv.Memory.Allocation

/-!
# Physical layout of the tiers

Each tier hands out physical pages from its own cursor, which starts at a fixed base and
only grows; `deallocate` never gives space back. The cursors are not checked against the
next tier's base, so after enough allocation in one tier its pages run into the next tier's
pages. As long as every allocation keeps its tier's cursor inside the tier's window, no two
pages of the table share a physical byte.
-/

namespace CxlSpeckv.Memory

open CXLMemoryManager

/-- Where a tier's cursor starts. -/
def MemoryTier.physBase : MemoryTier → Nat
  | .l1GpuLocal => 0x8000000000
  | .l2Prefetch => 0x10000000000
  | .l3CxlPool => 0x20000000000

/-- How far a tier's cursor may go before its pages reach the next tier's window; L3 stops
before its 64-bit cursor wraps. -/
def MemoryTier.physLimit : MemoryTier → Nat
  | .l1GpuLocal => 0x10000000000
  | .l2Prefetch => 0x20000000000
  | .l3CxlPool => 2 ^ 64 - 1

theorem MemoryTier.windows_apart {T T' : MemoryTier} (h : T ≠ T') :
    T.physLimit ≤ T'.physBase ∨ T'.physLimit ≤ T.physBase := by
  cases T <;> cases T' <;> simp_all [physBase, physLimit]

/-- No two pages of the table share a physical byte. -/
def PhysicallyDisjoint (c : Config) (m : CXLMemoryManager) : Prop :=
  ∀ k₁ k₂ p₁ p₂, m.pageTable.lookup k₁ = some p₁ → m.pageTable.lookup k₂ = some p₂ → k₁ ≠ k₂ →
    p₁.physicalAddr.toNat + c.pageSize.toNat ≤ p₂.physicalAddr.toNat ∨
      p₂.physicalAddr.toNat + c.pageSize.toNat ≤ p₁.physicalAddr.toNat

/-- Each cursor lies in its window, each page lies below the cursor of a window, and the
pages are disjoint. -/
structure PhysLayout (c : Config) (m : CXLMemoryManager) : Prop where
  cursor_mem : ∀ T : MemoryTier, T.physBase ≤ (m.cursor T).toNat ∧ (m.cursor T).toNat ≤ T.physLimit
  page_mem : ∀ k p, m.pageTable.lookup k = some p → ∃ T : MemoryTier,
    T.physBase ≤ p.physicalAddr.toNat ∧ p.physicalAddr.toNat + c.pageSize.toNat ≤ (m.cursor T).toNat
  disjoint : PhysicallyDisjoint c m

theorem physLayout_init (c : Config) : PhysLayout c init where
  cursor_mem T := by cases T <;> decide
  page_mem k p h := by simp [init, AList.lookup_empty] at h
  disjoint k₁ _ _ _ h := by simp [init, AList.lookup_empty] at h

/-- A step that keeps the cursors, virtual and physical, and keeps each page at its key with
its addresses or removes it. Every call but `allocate` is such a step. -/
structure KeepsLayout (m m' : CXLMemoryManager) : Prop where
  cursor : ∀ T : MemoryTier, m'.cursor T = m.cursor T
  nextVirtualAddr : m'.nextVirtualAddr = m.nextVirtualAddr
  entry : ∀ k p', m'.pageTable.lookup k = some p' → ∃ p, m.pageTable.lookup k = some p ∧
    p'.virtualAddr = p.virtualAddr ∧ p'.physicalAddr = p.physicalAddr

variable {c : Config} {m m' m'' : CXLMemoryManager} {va : BitVec 64}

theorem PhysLayout.keeps (h : PhysLayout c m) (hk : KeepsLayout m m') : PhysLayout c m' where
  cursor_mem T := hk.cursor T ▸ h.cursor_mem T
  page_mem k p' hp' := by
    obtain ⟨p, hp, -, he⟩ := hk.entry k p' hp'
    obtain ⟨T, hT⟩ := h.page_mem k p hp
    exact ⟨T, by rw [he, hk.cursor T]; exact hT⟩
  disjoint k₁ k₂ p₁' p₂' h₁ h₂ hne := by
    obtain ⟨p₁, hp₁, -, he₁⟩ := hk.entry k₁ p₁' h₁
    obtain ⟨p₂, hp₂, -, he₂⟩ := hk.entry k₂ p₂' h₂
    rw [he₁, he₂]
    exact h.disjoint k₁ k₂ p₁ p₂ hp₁ hp₂ hne

theorem KeepsLayout.refl (m : CXLMemoryManager) : KeepsLayout m m :=
  ⟨fun _ => rfl, rfl, fun _ p h => ⟨p, h, rfl, rfl⟩⟩

/-- Only the table and the cursors matter. -/
theorem KeepsLayout.congr (h : KeepsLayout m m') (ht : m''.pageTable = m'.pageTable)
    (h1 : m''.nextPhysicalAddrL1 = m'.nextPhysicalAddrL1)
    (h2 : m''.nextPhysicalAddrL2 = m'.nextPhysicalAddrL2)
    (h3 : m''.nextPhysicalAddrL3 = m'.nextPhysicalAddrL3)
    (hv : m''.nextVirtualAddr = m'.nextVirtualAddr) : KeepsLayout m m'' where
  cursor T := by
    cases T
    exacts [h1.trans (h.cursor .l1GpuLocal), h2.trans (h.cursor .l2Prefetch),
      h3.trans (h.cursor .l3CxlPool)]
  nextVirtualAddr := hv.trans h.nextVirtualAddr
  entry k p h' := h.entry k p (ht ▸ h')

theorem keepsLayout_setPage {p : MemoryPage} (p' : MemoryPage) (hp : getPage c m va = some p)
    (hv : p'.virtualAddr = p.virtualAddr) (he : p'.physicalAddr = p.physicalAddr) :
    KeepsLayout m (setPage c m va p') := by
  refine ⟨fun T => by cases T <;> rfl, rfl, fun k q hq => ?_⟩
  by_cases hk : k = pageAddr c va
  · subst hk
    simp only [setPage, AList.lookup_insert, Option.some.injEq] at hq
    exact ⟨p, hp, hq ▸ hv, hq ▸ he⟩
  · simp only [setPage, AList.lookup_insert_ne hk] at hq
    exact ⟨q, hq, rfl, rfl⟩

theorem deallocate_keepsLayout : KeepsLayout m (deallocate m va) := by
  have hc : ∀ T, (deallocate m va).cursor T = m.cursor T ∧
      (deallocate m va).nextVirtualAddr = m.nextVirtualAddr := fun T => by
    unfold deallocate; split
    · exact ⟨rfl, rfl⟩
    · dsimp only; split <;> cases T <;> exact ⟨rfl, rfl⟩
  refine ⟨fun T => (hc T).1, (hc .l1GpuLocal).2, fun k q hq => ?_⟩
  rw [lookup_deallocate] at hq
  split_ifs at hq
  exact ⟨q, hq, rfl, rfl⟩

theorem invalidatePage_keepsLayout : KeepsLayout m (invalidatePage c m va) := by
  unfold invalidatePage
  split
  · next p hp => exact keepsLayout_setPage _ hp rfl rfl
  · exact .refl m

theorem markModified_keepsLayout : KeepsLayout m (markModified c m va) := by
  unfold markModified
  split
  · next p hp => exact keepsLayout_setPage _ hp rfl rfl
  · exact .refl m

theorem updateAccessTracking_keepsLayout : KeepsLayout m (updateAccessTracking c m va) := by
  unfold updateAccessTracking
  split
  · exact .refl m
  · next p hp =>
      exact (keepsLayout_setPage { p with accessCount := p.accessCount + 1 } hp rfl rfl).congr
        rfl rfl rfl rfl rfl

theorem isHotPage_keepsLayout : KeepsLayout m (isHotPage c m va).2 := by
  unfold isHotPage
  split
  · exact .refl m
  · next p hp => exact keepsLayout_setPage _ hp rfl rfl

theorem demoteToL3_keepsLayout : KeepsLayout m (demoteToL3 c m va).2 := by
  unfold demoteToL3
  split
  · exact .refl m
  · next p hp =>
      split_ifs
      · exact .refl m
      · have := keepsLayout_setPage { p with tier := .l3CxlPool } hp rfl rfl
        split <;> exact this.congr rfl rfl rfl rfl rfl

theorem moveToL1_keepsLayout {p : MemoryPage} (hp : getPage c m va = some p) :
    KeepsLayout m (moveToL1 c m va p) := by
  have hs := keepsLayout_setPage { p with tier := .l1GpuLocal } hp rfl rfl
  unfold moveToL1
  split <;> exact hs.congr rfl rfl rfl rfl rfl

theorem promoteToL1_keepsLayout {b : Bool} (h : promoteToL1 c m va = some (b, m')) :
    KeepsLayout m m' := by
  obtain rfl | ⟨p, hp, rfl⟩ := promoteToL1_eq_some h
  exacts [.refl _, moveToL1_keepsLayout hp]

theorem MemoryTier.physLimit_lt (T : MemoryTier) : T.physLimit < 2 ^ 64 := by
  cases T <;> decide

/-- The address of page `i` of an allocation, `base + i * page_size_` in `size_t`, when it
does not wrap. -/
theorem toNat_add_ofNat_mul {x ps : BitVec 64} {i : Nat} (hi : i < 2 ^ 64)
    (h : x.toNat + i * ps.toNat < 2 ^ 64) :
    (x + BitVec.ofNat 64 i * ps).toNat = x.toNat + i * ps.toNat := by
  simp only [BitVec.toNat_add, BitVec.toNat_mul, BitVec.toNat_ofNat, Nat.mod_eq_of_lt hi]
  rw [Nat.mod_eq_of_lt (by omega : i * ps.toNat < 2 ^ 64), Nat.mod_eq_of_lt h]

/-- Page `i < n` of an allocation ends within its `n` pages. -/
theorem page_end_le {i n : Nat} (ps : Nat) (hi : i < n) : i * ps + ps ≤ n * ps := by
  simpa [Nat.succ_mul] using Nat.mul_le_mul_right ps hi

/-- Pages `i ≠ j` of one allocation, a page size apart from a common base, do not overlap. -/
theorem offsets_apart (a ps : Nat) {i j : Nat} (hij : i ≠ j) :
    a + i * ps + ps ≤ a + j * ps ∨ a + j * ps + ps ≤ a + i * ps := by
  rcases Nat.lt_or_gt_of_ne hij with h | h <;> have := page_end_le ps h <;> omega

section Allocate

variable {n : BitVec 64} {layer : BitVec 32} {pref : MemoryTier}

/-- The allocation ends inside its tier's window. -/
def AllocFits (c : Config) (m : CXLMemoryManager) (n : BitVec 64) (pref : MemoryTier) : Prop :=
  (m.cursor (actualTier c m n pref)).toNat + (numPages c n).toNat * c.pageSize.toNat ≤
    (actualTier c m n pref).physLimit

theorem toNat_cursor_allocate (hf : AllocFits c m n pref) (T : MemoryTier) :
    ((allocate c m n layer pref).2.cursor T).toNat =
      if T = actualTier c m n pref then
        (m.cursor T).toNat + (numPages c n).toNat * c.pageSize.toNat
      else (m.cursor T).toNat := by
  rw [cursor_allocate]
  split_ifs with hT
  · subst hT
    rw [BitVec.toNat_add, toNat_requiredBytes,
      Nat.mod_eq_of_lt (lt_of_le_of_lt hf (MemoryTier.physLimit_lt _))]
  · rfl

/-- A page of the new allocation and a page below an old cursor do not overlap. -/
theorem new_old_apart (h : PhysLayout c m) (hf : AllocFits c m n pref) {i : Nat}
    (hi : i < (numPages c n).toNat) {T : MemoryTier} {lo : Nat} (hlo : T.physBase ≤ lo)
    (hhi : lo + c.pageSize.toNat ≤ (m.cursor T).toNat) :
    (m.cursor (actualTier c m n pref)).toNat + i * c.pageSize.toNat + c.pageSize.toNat ≤ lo ∨
      lo + c.pageSize.toNat ≤ (m.cursor (actualTier c m n pref)).toNat + i * c.pageSize.toNat := by
  have hend := page_end_le c.pageSize.toNat hi
  unfold AllocFits at hf
  have hT := h.cursor_mem T
  have hA := h.cursor_mem (actualTier c m n pref)
  by_cases hTA : T = actualTier c m n pref
  · subst hTA; omega
  · rcases MemoryTier.windows_apart hTA with hw | hw <;> omega

theorem PhysLayout.allocate (h : PhysLayout c m) (hf : AllocFits c m n pref) :
    PhysLayout c (allocate c m n layer pref).2 := by
  have hnew : ∀ i < (numPages c n).toNat,
      (newPage m.nextVirtualAddr (m.cursor (actualTier c m n pref)) c.pageSize
        (actualTier c m n pref) layer i).physicalAddr.toNat =
        (m.cursor (actualTier c m n pref)).toNat + i * c.pageSize.toNat := fun i hi => by
    have := Nat.mul_le_mul_right c.pageSize.toNat hi.le
    have := (actualTier c m n pref).physLimit_lt
    unfold AllocFits at hf
    exact toNat_add_ofNat_mul (hi.trans (BitVec.isLt _)) (by omega)
  refine ⟨fun T => ?_, fun k p hp => ?_, fun k₁ k₂ p₁ p₂ h₁ h₂ hne => ?_⟩
  · rw [toNat_cursor_allocate hf]
    have := h.cursor_mem T
    unfold AllocFits at hf
    split_ifs with hT
    · subst hT; omega
    · exact this
  · rw [allocate_pageTable] at hp
    rcases lookup_insertPages hp with ⟨i, hi, rfl, -⟩ | hp
    · refine ⟨actualTier c m n pref, ?_, ?_⟩ <;> rw [hnew i hi]
      · have := (h.cursor_mem (actualTier c m n pref)).1; omega
      · have := page_end_le c.pageSize.toNat hi
        rw [toNat_cursor_allocate hf, if_pos rfl]; omega
    · obtain ⟨T, hT⟩ := h.page_mem k p hp
      refine ⟨T, hT.1, ?_⟩
      rw [toNat_cursor_allocate hf]
      split_ifs <;> omega
  · rw [allocate_pageTable] at h₁ h₂
    rcases lookup_insertPages h₁ with ⟨i, hi, rfl, rfl⟩ | h₁ <;>
      rcases lookup_insertPages h₂ with ⟨j, hj, rfl, rfl⟩ | h₂
    · rw [hnew i hi, hnew j hj]
      exact offsets_apart _ _ fun hij => hne (hij ▸ rfl)
    · obtain ⟨T, hlo, hhi⟩ := h.page_mem k₂ p₂ h₂
      rw [hnew i hi]; exact new_old_apart h hf hi hlo hhi
    · obtain ⟨T, hlo, hhi⟩ := h.page_mem k₁ p₁ h₁
      rw [hnew j hj]; exact (new_old_apart h hf hj hlo hhi).symm
    · exact h.disjoint k₁ k₂ p₁ p₂ h₁ h₂ hne

end Allocate

instance (c : Config) (m : CXLMemoryManager) (n : BitVec 64) (pref : MemoryTier) :
    Decidable (AllocFits c m n pref) :=
  inferInstanceAs (Decidable (_ ≤ _))

/-- Whether a call keeps its tier's cursor inside the tier's window; only `allocate` moves a
cursor. -/
def Request.fitsWindow (c : Config) : Request → CXLMemoryManager → Bool
  | .allocate n _ pref, m => decide (AllocFits c m n pref)
  | _, _ => true

/-- Whether every call of a run keeps its tier's cursor inside the tier's window. -/
def windowsRespected (c : Config) : List Request → CXLMemoryManager → Bool
  | [], _ => true
  | r :: rs, m =>
      r.fitsWindow c m &&
        match r.exec c m with
        | none => true
        | some m' => windowsRespected c rs m'

/-- What one call that returns does to the layout: `allocate` reserves, every other call
keeps it. -/
theorem exec_allocates_or_keepsLayout {r : Request} (he : r.exec c m = some m') :
    (∃ n layer pref, r = .allocate n layer pref ∧ m' = (allocate c m n layer pref).2) ∨
      KeepsLayout m m' := by
  cases r with
  | allocate n layer pref => cases he; exact .inl ⟨n, layer, pref, rfl, rfl⟩
  | deallocate va => cases he; exact .inr deallocate_keepsLayout
  | promoteToL1 va =>
      obtain ⟨⟨b, m''⟩, hp, rfl⟩ := Option.map_eq_some'.1 he
      exact .inr (promoteToL1_keepsLayout hp)
  | demoteToL3 va => cases he; exact .inr demoteToL3_keepsLayout
  | invalidatePage va => cases he; exact .inr invalidatePage_keepsLayout
  | markModified va => cases he; exact .inr markModified_keepsLayout
  | updateAccessTracking va => cases he; exact .inr updateAccessTracking_keepsLayout
  | isHotPage va => cases he; exact .inr isHotPage_keepsLayout
  | resetStatistics => cases he; exact .inr ((KeepsLayout.refl m).congr rfl rfl rfl rfl rfl)

theorem PhysLayout.exec {r : Request} (h : PhysLayout c m) (hf : r.fitsWindow c m = true)
    (he : r.exec c m = some m') : PhysLayout c m' := by
  rcases exec_allocates_or_keepsLayout he with ⟨n, layer, pref, rfl, rfl⟩ | hk
  · exact h.allocate (of_decide_eq_true hf)
  · exact h.keeps hk

theorem PhysLayout.run {rs : List Request} (h : PhysLayout c m)
    (hw : windowsRespected c rs m = true) (hr : run c rs m = some m') : PhysLayout c m' := by
  induction rs generalizing m with
  | nil => cases hr; exact h
  | cons r rs ih =>
      simp only [CxlSpeckv.Memory.run, Option.bind_eq_some] at hr
      obtain ⟨m₁, h₁, hr⟩ := hr
      simp only [windowsRespected, h₁, Bool.and_eq_true] at hw
      exact ih (h.exec hw.1 h₁) hw.2 hr

/-- From the constructor, as long as every allocation keeps its tier's cursor inside the
tier's window, distinct pages occupy disjoint physical ranges. -/
theorem physically_disjoint_within_windows (c : Config) (rs : List Request)
    (m : CXLMemoryManager) (hw : windowsRespected c rs init = true)
    (h : run c rs init = some m) : PhysicallyDisjoint c m :=
  ((physLayout_init c).run hw h).disjoint

theorem physically_disjoint_l1_and_l3 :
    ∃ m, run {} [.allocate 8192 0 .l1GpuLocal, .allocate 4096 0 .l3CxlPool] init = some m ∧
      PhysicallyDisjoint {} m :=
  ⟨_, rfl, physically_disjoint_within_windows {}
    [.allocate 8192 0 .l1GpuLocal, .allocate 4096 0 .l3CxlPool] _ (by decide) rfl⟩

/-- With 1 TiB pages, two pages of L2 reach the base of L3, and the first L3 page lands on
the second L2 page. -/
theorem l2_pages_run_into_l3 :
    let c : Config := { pageSize := 0x10000000000 }
    ∃ m, run c [.allocate 0x20000000000 0 .l2Prefetch, .allocate 0x10000000000 0 .l3CxlPool]
        init = some m ∧ ¬ PhysicallyDisjoint c m := by
  refine ⟨_, rfl, fun h => ?_⟩
  exact absurd (h 0x10100000000 0x20100000000 _ _ rfl rfl (by decide)) (by decide)

end CxlSpeckv.Memory
