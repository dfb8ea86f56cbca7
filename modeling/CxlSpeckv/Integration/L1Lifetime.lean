import CxlSpeckv.Integration.ProcessTokens

/-!
# How far `process_tokens` can go

Every iteration of the layer loop whose allocation has a page, and whose `cxl_access` returns,
moves that page from L3 into L1: `promote_to_l1` has found room, appended the base to
`l1_pages_`, and nothing in the system takes one out again. So the bases in L1 count the
iterations done, and `can_fit_in_tier` keeps them within the tier's size. From a fresh system a
configuration of `l1_size_gb` GiB allows `l1_size_gb * 2^18` iterations of 4 KiB pages over the
system's whole life; the one after hangs in `promote_to_l1`.
-/

namespace CxlSpeckv.Memory.CXLMemoryManager

variable {c : Config} {m : CXLMemoryManager} {va : BitVec 64} {p : MemoryPage}

@[simp] theorem moveToL1_l1Pages : (moveToL1 c m va p).l1Pages = m.l1Pages ++ [va] := by
  unfold moveToL1
  split <;> rfl

/-- A promotion from L3 that returns, with the LRU list non-empty, found room in L1 and moved
the page. -/
theorem promoteToL1_of_l3 {q : Bool × CXLMemoryManager} (hp : getPage c m va = some p)
    (ht : p.tier = .l3CxlPool) (hl : m.l1LruList ≠ []) (h : promoteToL1 c m va = some q) :
    canFitInTier c m .l1GpuLocal c.pageSize = true ∧ q.2 = moveToL1 c m va p := by
  unfold promoteToL1 at h
  rw [hp] at h
  obtain ⟨x, xs, hx⟩ := List.exists_cons_of_ne_nil hl
  cases hf : canFitInTier c m .l1GpuLocal c.pageSize
  · simp [ht, hf, evictL1Lru, hx] at h
  · simp only [ht, reduceCtorEq, ↓reduceIte, hf, Option.bind_eq_bind, Option.some_bind,
      Option.some.injEq] at h
    exact ⟨rfl, by rw [← h]⟩

/-- A page that passed `can_fit_in_tier` keeps the bases of L1 within the tier's size, when
that size leaves the 64-bit word room for one more page. -/
theorem succ_mul_le_of_canFitInTier (hf : canFitInTier c m .l1GpuLocal c.pageSize = true)
    (hb : m.l1Pages.length * c.pageSize.toNat ≤ c.l1SizeBytes.toNat)
    (hw : c.l1SizeBytes.toNat + c.pageSize.toNat < 2 ^ 64) :
    (m.l1Pages.length + 1) * c.pageSize.toNat ≤ c.l1SizeBytes.toNat := by
  rcases Nat.eq_zero_or_pos c.pageSize.toNat with h0 | hps
  · simp [h0]
  have hlen : m.l1Pages.length < 2 ^ 64 := lt_of_le_of_lt (Nat.le_mul_of_pos_right _ hps)
    (lt_of_le_of_lt hb c.l1SizeBytes.isLt)
  simp only [canFitInTier, tierPages, Config.tierSizeBytes, decide_eq_true_eq, BitVec.le_def,
    BitVec.toNat_add, BitVec.toNat_mul, BitVec.toNat_ofNat, Nat.mod_eq_of_lt hlen] at hf
  rw [Nat.add_mul, Nat.one_mul]
  generalize m.l1Pages.length * c.pageSize.toNat = X at hf hb
  have := c.pageSize.isLt
  rw [Nat.mod_eq_of_lt (by omega), Nat.mod_eq_of_lt (by omega)] at hf
  exact hf

end CxlSpeckv.Memory.CXLMemoryManager

namespace CxlSpeckv.Integration

open CxlSpeckv.Memory CxlSpeckv.Prefetch CXLMemoryManager

namespace CXLMemoryAllocator

variable {s s' : CXLMemoryAllocator} {n : BitVec 64} {l : BitVec 32}

/-- A `cxl_access` that returns on a known page in L3 has moved it to L1, after
`can_fit_in_tier` passed. -/
theorem cxlAccess_promotes {handle offset len x : BitVec 64} (al : AllocationHandle)
    {p : MemoryPage} (hi : s.initialized = true) (h0 : handle ≠ 0)
    (hl : s.handleMap.lookup handle = some al)
    (hp : getPage s.config s.memoryManager (al.virtualAddr + offset) = some p)
    (ht : p.tier = .l3CxlPool) (h : s.cxlAccess handle offset len = some (x, s')) :
    canFitInTier s.config s.memoryManager .l1GpuLocal s.config.pageSize = true ∧
      s'.memoryManager.l1Pages = s.memoryManager.l1Pages ++ [al.virtualAddr + offset] := by
  have hp' : getPage s.config (updateAccessTracking s.config s.memoryManager
      (al.virtualAddr + offset)) (al.virtualAddr + offset) =
        some { p with accessCount := p.accessCount + 1 } := by
    rw [getPage_updateAccessTracking, hp]
    rfl
  simp only [cxlAccess, hi, hl, isInCache_of_getPage hp', ht, Bool.not_true, Bool.false_or,
    decide_eq_true_eq, h0, ↓reduceIte, reduceCtorEq, decide_False, Bool.false_eq_true] at h
  obtain ⟨q, hq, he⟩ := Option.map_eq_some'.1 h
  cases he
  obtain ⟨hf, hq2⟩ := promoteToL1_of_l3 hp' ht (l1LruList_updateAccessTracking_ne_nil hp) hq
  refine ⟨(canFitInTier_l1_congr updateAccessTracking_l1Pages _).symm.trans hf, ?_⟩
  show q.2.l1Pages = _
  rw [hq2, moveToL1_l1Pages, updateAccessTracking_l1Pages]

end CXLMemoryAllocator

/-- What `process_tokens` keeps of an allocator: its manager's keys and cursor page-aligned, and
the bases in L1 within the tier's size. -/
structure L1Room (s : CXLMemoryAllocator) : Prop where
  aligned : KeysAligned s.config s.memoryManager
  within : s.memoryManager.l1Pages.length * s.config.pageSize.toNat ≤ s.config.l1SizeBytes.toNat

namespace CXLSpecKVSystem

variable {α : Type} [LinearOrder α] (sort : ConfidenceSort α)

section Iteration

variable {config : SystemConfig} {tokens : List (BitVec 32)} {fuel : Nat} {l : BitVec 32}
  {a a' : PrefetchingAllocator α}
  (hd : a.allocator.config.pageSize.toNat ∣ 2 ^ 64)
  (hw : a.allocator.config.l1SizeBytes.toNat + a.allocator.config.pageSize.toNat < 2 ^ 64)
  (hn : numPages a.allocator.config (kvSize config tokens) ≠ 0)
include hd hw hn

omit [LinearOrder α] in
/-- One iteration of the layer loop that returns, on an allocation with a page, adds one base to
L1 and keeps the room. -/
theorem L1Room.iteration {x : BitVec 64} {s₁ : CXLMemoryAllocator} (h : L1Room a.allocator)
    (h0 : (a.allocator.cxlMalloc (kvSize config tokens) l).1 ≠ 0)
    (hq : (a.allocator.cxlMalloc (kvSize config tokens) l).2.cxlAccess
      (a.allocator.cxlMalloc (kvSize config tokens) l).1 0 (kvSize config tokens) = some (x, s₁)) :
    L1Room s₁ ∧ s₁.config = a.allocator.config ∧
      s₁.memoryManager.l1Pages.length = a.allocator.memoryManager.l1Pages.length + 1 := by
  obtain ⟨hi, hv⟩ := CXLMemoryAllocator.ne_zero_of_cxlMalloc h0
  obtain ⟨h1, hmap, p, hp, ht⟩ := CXLMemoryAllocator.cxlMalloc_base_page
    (n := kvSize config tokens) (l := l) hi hv h.aligned.cursor_dvd hn
  have hc := CXLMemoryAllocator.cxlMalloc_config (s := a.allocator) (n := kvSize config tokens)
    (l := l)
  have hm := CXLMemoryAllocator.cxlMalloc_memoryManager (n := kvSize config tokens) (l := l) hi
  rw [h1] at hq
  obtain ⟨hf, hl1⟩ := CXLMemoryAllocator.cxlAccess_promotes _
    (CXLMemoryAllocator.cxlMalloc_initialized.trans hi) hv hmap hp ht hq
  obtain ⟨he, rs, hrun, -⟩ := CXLMemoryAllocator.cxlAccess_eq_some hq
  have hc₁ : s₁.config = a.allocator.config := by rw [he]; exact hc
  have hk : KeysAligned s₁.config s₁.memoryManager := by
    rw [hc₁]
    rw [hc, hm] at hrun
    exact (h.aligned.allocate hd).run hd hrun
  have hlen : s₁.memoryManager.l1Pages.length = a.allocator.memoryManager.l1Pages.length + 1 := by
    rw [hl1, hm, allocate_l3_l1Pages, List.length_append, List.length_singleton]
  rw [hc, hm, canFitInTier_l1_congr allocate_l3_l1Pages] at hf
  refine ⟨⟨hk, ?_⟩, hc₁, hlen⟩
  rw [hlen, hc₁]
  exact succ_mul_le_of_canFitInTier hf h.within hw

/-- A layer loop that reaches `num_layers` from `layer_id = l`, on a batch whose allocations
have a page, has added `num_layers - l` bases to L1 and kept the room. -/
theorem L1Room.of_layerLoop (h : L1Room a.allocator)
    (hr : layerLoop sort config tokens fuel l a = some (true, a'))
    (hl : l.toNat ≤ config.numLayers.toNat) :
    L1Room a'.allocator ∧ a'.allocator.config = a.allocator.config ∧
      a'.allocator.memoryManager.l1Pages.length =
        a.allocator.memoryManager.l1Pages.length + (config.numLayers.toNat - l.toNat) := by
  induction fuel generalizing l a with
  | zero => cases hr
  | succ fuel ih =>
      rcases layerLoop_true_cases sort hr hl with ⟨h0, rfl⟩ | ⟨hlt, hl₁, x, s₁, h0, hq, h'⟩
      · exact ⟨h, rfl, by omega⟩
      · obtain ⟨h₁, hc₁, hlen₁⟩ := L1Room.iteration hd hw hn h h0 hq
        rw [← hc₁] at hd hw hn
        obtain ⟨h₂, hc₂, hlen₂⟩ := ih (l := l + 1) (a := { hinted sort tokens l a with allocator := s₁ })
          hd hw hn h₁ h' (by omega)
        refine ⟨h₂, hc₂.trans hc₁, ?_⟩
        rw [hlen₂, hl₁]
        dsimp only
        omega

end Iteration

/-- The batch loop over batches whose allocations each have a page: one base per batch and
layer. -/
theorem L1Room.of_batchLoop {config : SystemConfig} {fuel : Nat} {a a' : PrefetchingAllocator α}
    {batches : List (List (BitVec 32))} (hd : a.allocator.config.pageSize.toNat ∣ 2 ^ 64)
    (hw : a.allocator.config.l1SizeBytes.toNat + a.allocator.config.pageSize.toNat < 2 ^ 64)
    (hn : ∀ t ∈ batches, numPages a.allocator.config (kvSize config t) ≠ 0)
    (h : L1Room a.allocator) (hr : batchLoop sort config fuel batches a = some (true, a')) :
    L1Room a'.allocator ∧ a'.allocator.memoryManager.l1Pages.length =
      a.allocator.memoryManager.l1Pages.length + batches.length * config.numLayers.toNat := by
  induction batches generalizing a with
  | nil => cases hr; exact ⟨h, by simp⟩
  | cons t rest ih =>
      obtain ⟨⟨b₁, a₁⟩, hl, hr⟩ := Option.bind_eq_some.1 hr
      dsimp only at hr
      split_ifs at hr with hb
      · subst hb
        obtain ⟨h₁, hc₁, hlen₁⟩ := L1Room.of_layerLoop sort hd hw (hn t (List.mem_cons_self _ _)) h hl
          (Nat.zero_le _)
        rw [← hc₁] at hd hw
        obtain ⟨h₂, hlen₂⟩ := ih hd hw
          (fun t' ht' => hc₁ ▸ hn t' (List.mem_cons_of_mem _ ht')) h₁ hr
        refine ⟨h₂, ?_⟩
        have h0 : (0 : BitVec 32).toNat = 0 := rfl
        rw [hlen₂, hlen₁, List.length_cons, Nat.add_mul, Nat.one_mul, h0]
        omega
      · cases hr

/-- A call of `process_tokens` that returns `true` adds one base to L1 per batch and layer and
keeps the bases within the L1 size, so L1 bounds the iterations of a system's life. -/
theorem process_tokens_promotes_one_page_per_layer (s : CXLSpecKVSystem α)
    (batches : List (List (BitVec 32))) (fuel : Nat) {s' : CXLSpecKVSystem α}
    (hd : s.allocator.allocator.config.pageSize.toNat ∣ 2 ^ 64)
    (hw : s.allocator.allocator.config.l1SizeBytes.toNat +
      s.allocator.allocator.config.pageSize.toNat < 2 ^ 64)
    (hr : L1Room s.allocator.allocator)
    (hn : ∀ t ∈ batches, numPages s.allocator.allocator.config (kvSize s.config t) ≠ 0)
    (h : s.processTokens sort batches fuel = some (true, s')) :
    L1Room s'.allocator.allocator ∧
      s'.allocator.allocator.memoryManager.l1Pages.length =
        s.allocator.allocator.memoryManager.l1Pages.length + batches.length * s.config.numLayers.toNat := by
  unfold processTokens at h
  split_ifs at h
  · cases h
  obtain ⟨⟨b, a'⟩, h₁, he⟩ := Option.map_eq_some'.1 h
  cases he
  exact L1Room.of_batchLoop sort hd hw hn hr h₁

theorem process_tokens_promotes_two_pages :
    ∃ s', (CXLSpecKVSystem.new.initializeSystem (fun _ _ => (0 : Nat))
        { numLayers := 2, hiddenDim := 1 }).2.processTokens ConfidenceSort.idsDescending
          [[1, 2]] 3 = some (true, s') ∧
      L1Room s'.allocator.allocator ∧
      s'.allocator.allocator.memoryManager.l1Pages.length =
        (CXLSpecKVSystem.new.initializeSystem (fun _ _ => (0 : Nat))
          { numLayers := 2, hiddenDim := 1 }).2.allocator.allocator.memoryManager.l1Pages.length +
          [[(1 : BitVec 32), 2]].length * (CXLSpecKVSystem.new.initializeSystem (fun _ _ => (0 : Nat))
            { numLayers := 2, hiddenDim := 1 }).2.config.numLayers.toNat := by
  obtain ⟨s', h⟩ : ∃ s', (CXLSpecKVSystem.new.initializeSystem (fun _ _ => (0 : Nat))
      { numLayers := 2, hiddenDim := 1 }).2.processTokens ConfidenceSort.idsDescending
        [[1, 2]] 3 = some (true, s') := ⟨_, rfl⟩
  exact ⟨s', h, process_tokens_promotes_one_page_per_layer ConfidenceSort.idsDescending _ [[1, 2]] 3
    (by decide) (by decide) ⟨keysAligned_init (by decide), by decide⟩ (by simp; decide) h⟩

end CXLSpecKVSystem

end CxlSpeckv.Integration
