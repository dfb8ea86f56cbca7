import CxlSpeckv.Integration.System
import CxlSpeckv.Integration.Access
import CxlSpeckv.Memory.Translate
import CxlSpeckv.Memory.VirtualLayout

/-!
# What `process_tokens` does to the allocator

Each iteration of the layer loop allocates the batch's K and V bytes in L3 and accesses the
first page, which moves it to L1: nothing is ever freed and no page is ever demoted. The loop's
`uint32_t` index never reaches a `num_layers` of `2^32` or more, so such a loop ends only
through a failed `cxl_malloc`. Once L1 cannot take one more page, the access of a new page runs
into the self-deadlock of `promote_to_l1`, and `process_tokens` never returns.
-/

namespace CxlSpeckv.Memory

open CXLMemoryManager

section Base

variable {t : PageTable} {va pa ps : BitVec 64} {tier : MemoryTier} {layer : BitVec 32}

@[simp] theorem newPage_zero_virtualAddr : (newPage va pa ps tier layer 0).virtualAddr = va := by
  simp [newPage]

/-- A page of index `i` with `0 < i * page_size < 2^64` does not sit at the base. -/
theorem newPage_virtualAddr_ne {i : Nat} (hi : 0 < i * ps.toNat) (hb : i * ps.toNat < 2 ^ 64) :
    (newPage va pa ps tier layer i).virtualAddr ≠ va := by
  intro h
  have hy : (BitVec.ofNat 64 i * ps).toNat = i * ps.toNat := by
    rw [BitVec.toNat_mul, BitVec.toNat_ofNat, Nat.mod_eq_of_lt (lt_of_le_of_lt
      (Nat.le_mul_of_pos_right i (Nat.pos_of_mul_pos_left hi)) hb), Nat.mod_eq_of_lt hb]
  have h' := congrArg BitVec.toNat h
  simp only [newPage, BitVec.toNat_add, hy] at h'
  have := va.isLt
  omega

/-- The loop of `allocate` leaves its first page under the base. -/
theorem lookup_insertPages_base {n : Nat} (hn : 0 < n) (hps : 0 < ps.toNat)
    (hb : n * ps.toNat < 2 ^ 64) :
    (insertPages t va pa ps tier layer n).lookup va = some (newPage va pa ps tier layer 0) := by
  induction n with
  | zero => omega
  | succ n ih =>
      rcases Nat.eq_zero_or_pos n with rfl | hn'
      · simp only [insertPages, newPage_zero_virtualAddr, AList.lookup_insert]
      · have hb' : n * ps.toNat < 2 ^ 64 := lt_of_le_of_lt (Nat.mul_le_mul_right _ n.le_succ) hb
        rw [insertPages, AList.lookup_insert_ne
          (newPage_virtualAddr_ne (Nat.mul_pos hn' hps) hb').symm, ih hn' hb']

end Base

namespace CXLMemoryManager

variable {c : Config} {m : CXLMemoryManager} {va n : BitVec 64} {layer : BitVec 32}
  {p : MemoryPage}

/-- An allocation with a page puts its first page under the base, where an aligned base is
its own page's key. -/
theorem getPage_allocate_base (layer : BitVec 32) (pref : MemoryTier) (hn : numPages c n ≠ 0)
    (ha : c.pageSize.toNat ∣ m.nextVirtualAddr.toNat) :
    getPage c (allocate c m n layer pref).2 m.nextVirtualAddr =
      some (newPage m.nextVirtualAddr (m.cursor (actualTier c m n pref)) c.pageSize
        (actualTier c m n pref) layer 0) := by
  have hn' : 0 < (numPages c n).toNat :=
    Nat.pos_of_ne_zero fun h => hn (BitVec.eq_of_toNat_eq h)
  have hps := pageSize_pos_of_lt_numPages hn'
  rw [getPage, pageAddr_eq_of_mem ha le_rfl (by omega), allocate_pageTable]
  exact lookup_insertPages_base hn' hps (numPages_mul_lt c n)

@[simp] theorem actualTier_l3 : actualTier c m n .l3CxlPool = .l3CxlPool := by
  simp [actualTier]

@[simp] theorem allocate_l3_l1Pages : (allocate c m n layer .l3CxlPool).2.l1Pages = m.l1Pages := by
  simp [allocate, reserve]

@[simp] theorem updateAccessTracking_l1Pages : (updateAccessTracking c m va).l1Pages = m.l1Pages := by
  unfold updateAccessTracking
  split <;> rfl

/-- Whether L1 has room depends on its page list alone. -/
theorem canFitInTier_l1_congr {m' : CXLMemoryManager} (h : m'.l1Pages = m.l1Pages) (x : BitVec 64) :
    canFitInTier c m' .l1GpuLocal x = canFitInTier c m .l1GpuLocal x := by
  simp [canFitInTier, tierPages, h]

theorem isInCache_of_getPage (hp : getPage c m va = some p) (T : MemoryTier) :
    isInCache c m va T = decide (p.tier = T) := by
  unfold isInCache
  unfold getPage at hp
  rw [hp]

/-- Tracking an access to a known page puts it in the LRU list. -/
theorem l1LruList_updateAccessTracking_ne_nil (hp : getPage c m va = some p) :
    (updateAccessTracking c m va).l1LruList ≠ [] := by
  unfold updateAccessTracking
  rw [hp]
  simp [updateLru]

/-- With L1 full and the LRU list non-empty, promoting a page from below L1 takes
`page_table_mutex_` twice and never returns. -/
theorem promoteToL1_eq_none (hp : getPage c m va = some p) (ht : p.tier ≠ .l1GpuLocal)
    (hf : canFitInTier c m .l1GpuLocal c.pageSize = false) (hl : m.l1LruList ≠ []) :
    promoteToL1 c m va = none := by
  unfold promoteToL1
  rw [hp]
  obtain ⟨x, xs, hx⟩ := List.exists_cons_of_ne_nil hl
  simp [ht, hf, evictL1Lru, hx]

end CXLMemoryManager

/-- The manager calls `cxl_access` makes. -/
def Request.madeByCxlAccess : Request → Bool
  | .updateAccessTracking _ | .isHotPage _ | .promoteToL1 _ => true
  | _ => false

theorem run_append (c : Config) (rs rs' : List Request) (m : CXLMemoryManager) :
    run c (rs ++ rs') m = (run c rs m).bind (run c rs') := by
  induction rs generalizing m with
  | nil => rfl
  | cons r rs ih =>
      show (r.exec c m).bind (run c (rs ++ rs')) = ((r.exec c m).bind (run c rs)).bind (run c rs')
      simp only [ih, Option.bind_assoc]

end CxlSpeckv.Memory

namespace CxlSpeckv.Integration

open CxlSpeckv.Memory CxlSpeckv.Prefetch CXLMemoryManager

namespace CXLMemoryAllocator

variable {s s' : CXLMemoryAllocator} {n : BitVec 64} {l : BitVec 32}

theorem cxlMalloc_totalAllocations (h : (cxlMalloc s n l).1 ≠ 0) :
    (cxlMalloc s n l).2.stats.totalAllocations = s.stats.totalAllocations + 1 := by
  unfold cxlMalloc at h ⊢
  dsimp only at h ⊢
  split_ifs at h ⊢ <;> first | rfl | exact absurd rfl h

@[simp] theorem cxlMalloc_totalDeallocations :
    (cxlMalloc s n l).2.stats.totalDeallocations = s.stats.totalDeallocations := by
  unfold cxlMalloc
  dsimp only
  split_ifs <;> rfl

theorem mem_cxlMalloc_handleMap {k : BitVec 64} (hk : k ∈ s.handleMap) :
    k ∈ (cxlMalloc s n l).2.handleMap := by
  unfold cxlMalloc
  dsimp only
  split_ifs <;> first | exact hk | exact (AList.mem_insert _).2 (.inr hk)

/-- A call that returns a pointer was made on an initialized allocator whose manager's next
base is not `0`. -/
theorem ne_zero_of_cxlMalloc (h : (cxlMalloc s n l).1 ≠ 0) :
    s.initialized = true ∧ s.memoryManager.nextVirtualAddr ≠ 0 := by
  unfold cxlMalloc at h
  dsimp only at h
  split_ifs at h with hi hv <;> first | exact absurd rfl h | exact ⟨by simpa using hi, hv⟩

/-- What the layer loop's `cxl_access` at offset `0` reaches on a fresh allocation with a page:
the pointer's handle, and under its base a page in L3. -/
theorem cxlMalloc_base_page (hi : s.initialized = true) (hv : s.memoryManager.nextVirtualAddr ≠ 0)
    (ha : s.config.pageSize.toNat ∣ s.memoryManager.nextVirtualAddr.toNat)
    (hn : numPages s.config n ≠ 0) :
    (cxlMalloc s n l).1 = s.memoryManager.nextVirtualAddr ∧
      (cxlMalloc s n l).2.handleMap.lookup s.memoryManager.nextVirtualAddr =
        some ⟨s.memoryManager.nextVirtualAddr, n, l⟩ ∧
      ∃ p, getPage (cxlMalloc s n l).2.config (cxlMalloc s n l).2.memoryManager
        (s.memoryManager.nextVirtualAddr + 0) = some p ∧ p.tier = .l3CxlPool := by
  obtain ⟨h1, hmap⟩ := cxlMalloc_of_ne_zero (n := n) (l := l) hi hv
  have h0 : s.memoryManager.nextVirtualAddr + 0 = s.memoryManager.nextVirtualAddr :=
    BitVec.add_zero _
  refine ⟨h1, by rw [hmap, AList.lookup_insert], ?_⟩
  rw [cxlMalloc_config, cxlMalloc_memoryManager hi, h0]
  exact ⟨_, getPage_allocate_base l .l3CxlPool hn ha, by simp [newPage]⟩

/-- A `cxl_access` that returns changes the manager alone, by `update_access_tracking`,
possibly `is_hot_page`, and possibly `promote_to_l1`. -/
theorem cxlAccess_eq_some {handle offset len x : BitVec 64}
    (h : s.cxlAccess handle offset len = some (x, s')) :
    s' = { s with memoryManager := s'.memoryManager } ∧ ∃ rs, Memory.run s.config rs
      s.memoryManager = some s'.memoryManager ∧ ∀ q ∈ rs, q.madeByCxlAccess = true := by
  unfold cxlAccess at h
  split_ifs at h
  · cases h; exact ⟨rfl, [], rfl, by simp⟩
  split at h
  · cases h; exact ⟨rfl, [], rfl, by simp⟩
  next al _ =>
  dsimp only at h
  split_ifs at h
  · cases h
    exact ⟨rfl, [.updateAccessTracking (al.virtualAddr + offset)], rfl,
      by simp [Request.madeByCxlAccess]⟩
  · obtain ⟨q, hq, he⟩ := Option.map_eq_some'.1 h
    cases he
    exact ⟨rfl, [.updateAccessTracking (al.virtualAddr + offset), .isHotPage (al.virtualAddr + offset),
      .promoteToL1 (al.virtualAddr + offset)], by simp [CxlSpeckv.Memory.run, Memory.Request.exec, hq],
      by simp [Request.madeByCxlAccess]⟩
  · cases h
    exact ⟨rfl, [.updateAccessTracking (al.virtualAddr + offset),
      .isHotPage (al.virtualAddr + offset)], rfl, by simp [Request.madeByCxlAccess]⟩
  · obtain ⟨q, hq, he⟩ := Option.map_eq_some'.1 h
    cases he
    exact ⟨rfl, [.updateAccessTracking (al.virtualAddr + offset),
      .promoteToL1 (al.virtualAddr + offset)], by simp [CxlSpeckv.Memory.run, Memory.Request.exec, hq],
      by simp [Request.madeByCxlAccess]⟩

/-- With L1 full, accessing a known page in L3 never returns. -/
theorem cxlAccess_eq_none_of_l1_full {handle offset : BitVec 64} (len : BitVec 64)
    (al : AllocationHandle) {p : MemoryPage} (hi : s.initialized = true) (h0 : handle ≠ 0)
    (hl : s.handleMap.lookup handle = some al)
    (hp : getPage s.config s.memoryManager (al.virtualAddr + offset) = some p)
    (ht : p.tier = .l3CxlPool)
    (hf : canFitInTier s.config s.memoryManager .l1GpuLocal s.config.pageSize = false) :
    s.cxlAccess handle offset len = none := by
  have hp' : getPage s.config (updateAccessTracking s.config s.memoryManager
      (al.virtualAddr + offset)) (al.virtualAddr + offset) =
        some { p with accessCount := p.accessCount + 1 } := by
    rw [getPage_updateAccessTracking, hp]
    rfl
  have hnone := promoteToL1_eq_none hp' (by simp [ht])
    ((canFitInTier_l1_congr updateAccessTracking_l1Pages _).trans hf)
    (l1LruList_updateAccessTracking_ne_nil hp)
  simp only [cxlAccess, hi, hl, isInCache_of_getPage hp', ht, hnone, Bool.not_true,
    Bool.false_or, decide_eq_true_eq, h0, ↓reduceIte, reduceCtorEq, decide_False,
    Bool.false_eq_true, Option.map_none']

end CXLMemoryAllocator

namespace CXLSpecKVSystem

variable {α : Type} [LinearOrder α] (sort : ConfidenceSort α)

section Loop

variable {config : SystemConfig} {tokens : List (BitVec 32)} {fuel : Nat} {l : BitVec 32}
  {a a' : PrefetchingAllocator α} {b : Bool}

/-- A call of the layer loop that returns stopped at `num_layers`, stopped at a failed
`cxl_malloc`, or ran one iteration whose `cxl_access` returned and went on. -/
theorem layerLoop_cases (h : layerLoop sort config tokens fuel l a = some (b, a')) :
    (¬ l.setWidth 64 < config.numLayers ∧ b = true ∧ a' = a) ∨
      (l.setWidth 64 < config.numLayers ∧ ∃ fuel', fuel = fuel' + 1 ∧
        ((a.allocator.cxlMalloc (kvSize config tokens) l).1 = 0 ∧ b = false ∧
            a' = { hinted sort tokens l a with
              allocator := (a.allocator.cxlMalloc (kvSize config tokens) l).2 } ∨
          ∃ x s₁, (a.allocator.cxlMalloc (kvSize config tokens) l).1 ≠ 0 ∧
            (a.allocator.cxlMalloc (kvSize config tokens) l).2.cxlAccess
              (a.allocator.cxlMalloc (kvSize config tokens) l).1 0 (kvSize config tokens) =
                some (x, s₁) ∧
            layerLoop sort config tokens fuel' (l + 1) { hinted sort tokens l a with allocator := s₁ } =
              some (b, a'))) := by
  cases fuel with
  | zero => cases h
  | succ fuel =>
      by_cases hl : l.setWidth 64 < config.numLayers
      · rw [layerLoop_succ_of_lt sort hl] at h
        dsimp only at h
        refine .inr ⟨hl, fuel, rfl, ?_⟩
        split_ifs at h with h0
        · cases h; exact .inl ⟨h0, rfl, rfl⟩
        · obtain ⟨⟨x, s₁⟩, hq, h⟩ := Option.bind_eq_some.1 h
          exact .inr ⟨x, s₁, h0, hq, h⟩
      · rw [layerLoop_succ_of_le sort hl] at h
        cases h
        exact .inl ⟨hl, rfl, rfl⟩

variable (R : PrefetchingAllocator α → PrefetchingAllocator α → Prop)
  (hrefl : ∀ a, R a a) (htrans : ∀ a₁ a₂ a₃, R a₁ a₂ → R a₂ a₃ → R a₁ a₃)
  (hmalloc : ∀ a n l, R a { a with allocator := (a.allocator.cxlMalloc n l).2 })
  (haccess : ∀ a h o n x s₁, a.allocator.cxlAccess h o n = some (x, s₁) →
    R a { a with allocator := s₁ })
include hrefl htrans hmalloc haccess

/-- A relation that every hint of the batch, every `cxl_malloc` and every `cxl_access` that
returns establish, and that composes, relates the start of the layer loop to its result. -/
theorem layerLoop_rel (hhint : ∀ l a, R a (hinted sort tokens l a))
    (h : layerLoop sort config tokens fuel l a = some (b, a')) : R a a' := by
  induction fuel generalizing l a with
  | zero => cases h
  | succ fuel ih =>
      have hm := hmalloc (hinted sort tokens l a) (kvSize config tokens) l
      rw [hinted_allocator] at hm
      have h₁ := htrans _ _ _ (hhint l a) hm
      rcases layerLoop_cases sort h with ⟨-, -, rfl⟩ | ⟨-, fuel', hf, ⟨-, -, rfl⟩ | ⟨x, s₁, -, hq, h'⟩⟩
      · exact hrefl _
      · exact h₁
      · obtain rfl := Nat.succ.inj hf
        exact htrans _ _ _ (htrans _ _ _ h₁ (haccess _ _ _ _ x s₁ hq)) (ih h')

/-- The same relation over the batch loop, given for every batch's hints. -/
theorem batchLoop_rel {batches : List (List (BitVec 32))}
    (hhint : ∀ t ∈ batches, ∀ l a, R a (hinted sort t l a))
    (h : batchLoop sort config fuel batches a = some (b, a')) : R a a' := by
  induction batches generalizing a with
  | nil => cases h; exact hrefl _
  | cons t rest ih =>
      obtain ⟨⟨b₁, a₁⟩, h₁, h⟩ := Option.bind_eq_some.1 h
      have hr := layerLoop_rel sort R hrefl htrans hmalloc haccess
        (hhint t (List.mem_cons_self _ _)) h₁
      dsimp only at h
      split_ifs at h
      · exact htrans _ _ _ hr (ih (fun t' ht' => hhint t' (List.mem_cons_of_mem _ ht')) h)
      · cases h; exact hr

/-- The same relation over `process_tokens`, which keeps the configuration and the flag. -/
theorem processTokens_rel {s s' : CXLSpecKVSystem α} {batches : List (List (BitVec 32))}
    (hhint : ∀ t ∈ batches, ∀ l a, R a (hinted sort t l a))
    (h : s.processTokens sort batches fuel = some (b, s')) :
    R s.allocator s'.allocator ∧ s'.config = s.config ∧ s'.initialized = s.initialized := by
  unfold processTokens at h
  split_ifs at h
  · cases h; exact ⟨hrefl _, rfl, rfl⟩
  · obtain ⟨⟨b₁, a₁⟩, h₁, he⟩ := Option.map_eq_some'.1 h
    cases he
    exact ⟨batchLoop_rel sort R hrefl htrans hmalloc haccess hhint h₁, rfl, rfl⟩

end Loop

section Layers

variable {config : SystemConfig} {tokens : List (BitVec 32)} {fuel : Nat} {l : BitVec 32}
  {a a' : PrefetchingAllocator α}

/-- The layer loop stops with `true` only at a `layer_id` no below `num_layers`, which a
`uint32_t` reaches only when `num_layers < 2^32`. -/
theorem numLayers_lt_of_layerLoop (h : layerLoop sort config tokens fuel l a = some (true, a')) :
    config.numLayers.toNat < 2 ^ 32 := by
  induction fuel generalizing l a with
  | zero => cases h
  | succ fuel ih =>
      rcases layerLoop_cases sort h with ⟨hl, -, -⟩ | ⟨-, fuel', hf, ⟨-, hb, -⟩ | ⟨_, _, -, -, h'⟩⟩
      · rw [BitVec.lt_def, BitVec.toNat_setWidth] at hl
        have := l.isLt
        omega
      · cases hb
      · obtain rfl := Nat.succ.inj hf
        exact ih h'

theorem toNat_ofNat_add_sub {x : BitVec 64} {N k : Nat} (hk : k < N) :
    x + 1 + BitVec.ofNat 64 (N - (k + 1)) = x + BitVec.ofNat 64 (N - k) := by
  rw [BitVec.add_assoc]
  congr 1
  apply BitVec.eq_of_toNat_eq
  simp only [BitVec.toNat_add, BitVec.toNat_ofNat, show (1 : BitVec 64).toNat = 1 from rfl]
  omega

/-- A layer loop from `l ≤ num_layers` that returns `true` stopped at `num_layers`, or made an
iteration with a non-zero pointer and went on from `l + 1` without wrapping. -/
theorem layerLoop_true_cases (h : layerLoop sort config tokens (fuel + 1) l a = some (true, a'))
    (hl : l.toNat ≤ config.numLayers.toNat) :
    (config.numLayers.toNat - l.toNat = 0 ∧ a' = a) ∨
      (l.toNat < config.numLayers.toNat ∧ (l + 1).toNat = l.toNat + 1 ∧
        ∃ x s₁, (a.allocator.cxlMalloc (kvSize config tokens) l).1 ≠ 0 ∧
          (a.allocator.cxlMalloc (kvSize config tokens) l).2.cxlAccess
            (a.allocator.cxlMalloc (kvSize config tokens) l).1 0 (kvSize config tokens) =
              some (x, s₁) ∧
          layerLoop sort config tokens fuel (l + 1) { hinted sort tokens l a with allocator := s₁ } =
            some (true, a')) := by
  have hl32 := l.isLt
  rcases layerLoop_cases sort h with ⟨hl', -, rfl⟩ | ⟨hlt, fuel', hf, ⟨-, hb, -⟩ | ⟨x, s₁, h0, hq, h'⟩⟩
  · rw [BitVec.lt_def, BitVec.toNat_setWidth, Nat.mod_eq_of_lt (by omega)] at hl'
    exact .inl ⟨by omega, rfl⟩
  · cases hb
  · obtain rfl := Nat.succ.inj hf
    have hN := numLayers_lt_of_layerLoop sort h'
    rw [BitVec.lt_def, BitVec.toNat_setWidth, Nat.mod_eq_of_lt (by omega)] at hlt
    refine .inr ⟨hlt, ?_, x, s₁, h0, hq, h'⟩
    rw [BitVec.toNat_add, show (1 : BitVec 32).toNat = 1 from rfl, Nat.mod_eq_of_lt (by omega)]

/-- A layer loop that reaches `num_layers` from `layer_id = l` has made `num_layers - l`
allocations. -/
theorem layerLoop_totalAllocations (h : layerLoop sort config tokens fuel l a = some (true, a'))
    (hl : l.toNat ≤ config.numLayers.toNat) :
    a'.allocator.stats.totalAllocations =
      a.allocator.stats.totalAllocations + BitVec.ofNat 64 (config.numLayers.toNat - l.toNat) := by
  induction fuel generalizing l a with
  | zero => cases h
  | succ fuel ih =>
      rcases layerLoop_true_cases sort h hl with ⟨h0, rfl⟩ | ⟨hlt, hl₁, x, s₁, h0, hq, h'⟩
      · rw [h0]
        exact (BitVec.add_zero _).symm
      · rw [ih h' (by omega), (CXLMemoryAllocator.cxlAccess_eq_some hq).1, hl₁]
        dsimp only
        rw [CXLMemoryAllocator.cxlMalloc_totalAllocations h0, toNat_ofNat_add_sub hlt]

/-- Every batch's layer loop runs from layer 0 to `num_layers` when the batch loop ends with
`true`. -/
theorem batchLoop_totalAllocations {batches : List (List (BitVec 32))}
    (h : batchLoop sort config fuel batches a = some (true, a')) :
    a'.allocator.stats.totalAllocations = a.allocator.stats.totalAllocations +
      BitVec.ofNat 64 (batches.length * config.numLayers.toNat) := by
  induction batches generalizing a with
  | nil => cases h; simp
  | cons t rest ih =>
      obtain ⟨⟨b₁, a₁⟩, h₁, h⟩ := Option.bind_eq_some.1 h
      dsimp only at h
      split_ifs at h with hb
      · subst hb
        rw [ih h, layerLoop_totalAllocations sort h₁ (Nat.zero_le _), BitVec.add_assoc]
        congr 1
        apply BitVec.eq_of_toNat_eq
        simp only [BitVec.toNat_add, BitVec.toNat_ofNat, List.length_cons]
        rw [show (0 : BitVec 32).toNat = 0 from rfl, Nat.sub_zero, Nat.add_mul, Nat.one_mul,
          Nat.add_mod, Nat.mod_mod, Nat.mod_mod, ← Nat.add_mod, Nat.add_comm]
      · cases h

/-- With L1 unable to take one more page, an iteration whose allocation has a page never
returns. -/
theorem layerLoop_eq_none_of_l1_full (hi : a.allocator.initialized = true)
    (hl : l.setWidth 64 < config.numLayers) (hv : a.allocator.memoryManager.nextVirtualAddr ≠ 0)
    (ha : a.allocator.config.pageSize.toNat ∣ a.allocator.memoryManager.nextVirtualAddr.toNat)
    (hn : numPages a.allocator.config (kvSize config tokens) ≠ 0)
    (hf : canFitInTier a.allocator.config a.allocator.memoryManager .l1GpuLocal
      a.allocator.config.pageSize = false) :
    layerLoop sort config tokens fuel l a = none := by
  cases fuel with
  | zero => rfl
  | succ fuel =>
      rw [layerLoop_succ_of_lt sort hl]
      dsimp only
      obtain ⟨h1, hmap, p, hp, ht⟩ := CXLMemoryAllocator.cxlMalloc_base_page
        (n := kvSize config tokens) (l := l) hi hv ha hn
      have hacc := CXLMemoryAllocator.cxlAccess_eq_none_of_l1_full (kvSize config tokens) _
        (CXLMemoryAllocator.cxlMalloc_initialized.trans hi) hv hmap hp ht
        (by rw [CXLMemoryAllocator.cxlMalloc_config, CXLMemoryAllocator.cxlMalloc_memoryManager hi,
          canFitInTier_l1_congr allocate_l3_l1Pages]; exact hf)
      rw [h1, if_neg hv, hacc, Option.none_bind]

end Layers

variable {s s' : CXLSpecKVSystem α} {fuel : Nat}

/-- With `num_layers` at `2^32` or more, `process_tokens` never reports success on a non-empty
batch list: the `uint32_t` layer index wraps before it reaches `num_layers`. -/
theorem process_tokens_fails_from_2_pow_32_layers (s : CXLSpecKVSystem α)
    (batches : List (List (BitVec 32))) (fuel : Nat) (hl : 2 ^ 32 ≤ s.config.numLayers.toNat)
    (hb : batches ≠ []) : ∀ r ∈ s.processTokens sort batches fuel, r.1 = false := by
  intro r hr
  rw [Option.mem_def] at hr
  obtain ⟨t, rest, rfl⟩ := List.exists_cons_of_ne_nil hb
  unfold processTokens at hr
  split_ifs at hr
  · cases hr; rfl
  obtain ⟨⟨b, a'⟩, h, rfl⟩ := Option.map_eq_some'.1 hr
  obtain ⟨⟨b₁, a₁⟩, h₁, h⟩ := Option.bind_eq_some.1 h
  dsimp only at h
  split_ifs at h with hb₁
  · subst hb₁
    exact absurd (numLayers_lt_of_layerLoop sort h₁) (by omega)
  · cases h; rfl

theorem process_tokens_fails_with_2_pow_32_layers :
    2 ^ 32 ≤ (CXLSpecKVSystem.new.initializeSystem (fun _ _ => (0 : Nat))
        { numLayers := 0x100000000 }).2.config.numLayers.toNat ∧ [[(1 : BitVec 32)]] ≠ [] ∧
      ∀ r ∈ (CXLSpecKVSystem.new.initializeSystem (fun _ _ => (0 : Nat))
        { numLayers := 0x100000000 }).2.processTokens ConfidenceSort.idsDescending [[1]] 2,
        r.1 = false :=
  ⟨by decide, by simp, process_tokens_fails_from_2_pow_32_layers _ _ [[1]] 2 (by decide) (by simp)⟩

/-- A call of `process_tokens` that returns frees nothing, also when it fails partway, and when
it returns `true` it has made one allocation per batch and layer. -/
theorem process_tokens_allocates_every_layer_frees_nothing (s : CXLSpecKVSystem α)
    (batches : List (List (BitVec 32))) (fuel : Nat) {r : Bool} {s' : CXLSpecKVSystem α}
    (h : s.processTokens sort batches fuel = some (r, s')) :
    s'.allocator.allocator.stats.totalDeallocations =
        s.allocator.allocator.stats.totalDeallocations ∧
      (∀ k ∈ s.allocator.allocator.handleMap, k ∈ s'.allocator.allocator.handleMap) ∧
      (r = true → s'.allocator.allocator.stats.totalAllocations =
        s.allocator.allocator.stats.totalAllocations +
          BitVec.ofNat 64 (batches.length * s.config.numLayers.toNat)) := by
  have hkeep := processTokens_rel sort
    (fun a a' => a'.allocator.stats.totalDeallocations = a.allocator.stats.totalDeallocations ∧
      ∀ k ∈ a.allocator.handleMap, k ∈ a'.allocator.handleMap)
    (fun _ => ⟨rfl, fun _ hk => hk⟩)
    (fun _ _ _ h₁ h₂ => ⟨h₂.1.trans h₁.1, fun k hk => h₂.2 k (h₁.2 k hk)⟩)
    (fun _ _ _ => ⟨CXLMemoryAllocator.cxlMalloc_totalDeallocations,
      fun _ hk => CXLMemoryAllocator.mem_cxlMalloc_handleMap hk⟩)
    (fun _ _ _ _ _ _ hq => by
      rw [(CXLMemoryAllocator.cxlAccess_eq_some hq).1]; exact ⟨rfl, fun _ hk => hk⟩)
    (fun _ _ _ _ => by simp) h
  refine ⟨hkeep.1.1, hkeep.1.2, fun hr => ?_⟩
  subst hr
  unfold processTokens at h
  split_ifs at h
  · cases h
  · obtain ⟨⟨b, a'⟩, h₁, he⟩ := Option.map_eq_some'.1 h
    cases he
    exact batchLoop_totalAllocations sort h₁

theorem process_tokens_allocates_two_layers :
    ∃ s', (CXLSpecKVSystem.new.initializeSystem (fun _ _ => (0 : Nat))
        { numLayers := 2, hiddenDim := 1 }).2.processTokens ConfidenceSort.idsDescending
          [[1, 2]] 3 = some (true, s') ∧
      s'.allocator.allocator.stats.totalDeallocations =
          (CXLSpecKVSystem.new.initializeSystem (fun _ _ => (0 : Nat))
            { numLayers := 2, hiddenDim := 1 }).2.allocator.allocator.stats.totalDeallocations ∧
        (∀ k ∈ (CXLSpecKVSystem.new.initializeSystem (fun _ _ => (0 : Nat))
            { numLayers := 2, hiddenDim := 1 }).2.allocator.allocator.handleMap,
          k ∈ s'.allocator.allocator.handleMap) ∧
        (true = true → s'.allocator.allocator.stats.totalAllocations =
          (CXLSpecKVSystem.new.initializeSystem (fun _ _ => (0 : Nat))
            { numLayers := 2, hiddenDim := 1 }).2.allocator.allocator.stats.totalAllocations +
            BitVec.ofNat 64 ([[(1 : BitVec 32), 2]].length *
              (CXLSpecKVSystem.new.initializeSystem (fun _ _ => (0 : Nat))
                { numLayers := 2, hiddenDim := 1 }).2.config.numLayers.toNat)) :=
  by
    obtain ⟨s', h⟩ : ∃ s', (CXLSpecKVSystem.new.initializeSystem (fun _ _ => (0 : Nat))
        { numLayers := 2, hiddenDim := 1 }).2.processTokens ConfidenceSort.idsDescending
          [[1, 2]] 3 = some (true, s') := ⟨_, rfl⟩
    exact ⟨s', h, process_tokens_allocates_every_layer_frees_nothing ConfidenceSort.idsDescending _
      [[1, 2]] 3 h⟩

/-- Once L1 cannot take one more page, `process_tokens` never returns on batches whose first
needs a page: `promote_to_l1` calls `evict_l1_lru`, which takes the mutex it holds. -/
theorem process_tokens_hangs_once_l1_full (s : CXLSpecKVSystem α) (tokens : List (BitVec 32))
    (rest : List (List (BitVec 32))) (fuel : Nat) (hs : s.initialized = true)
    (hi : s.allocator.allocator.initialized = true) (hl : 0 < s.config.numLayers)
    (hv : s.allocator.allocator.memoryManager.nextVirtualAddr ≠ 0)
    (ha : s.allocator.allocator.config.pageSize.toNat ∣
      s.allocator.allocator.memoryManager.nextVirtualAddr.toNat)
    (hn : numPages s.allocator.allocator.config (kvSize s.config tokens) ≠ 0)
    (hf : canFitInTier s.allocator.allocator.config s.allocator.allocator.memoryManager
      .l1GpuLocal s.allocator.allocator.config.pageSize = false) :
    s.processTokens sort (tokens :: rest) fuel = none := by
  have h : layerLoop sort s.config tokens fuel 0 s.allocator = none :=
    layerLoop_eq_none_of_l1_full sort hi hl hv ha hn hf
  simp only [processTokens, hs, Bool.not_true, Bool.false_eq_true, ↓reduceIte, batchLoop, h,
    Option.none_bind, Option.map_none']

theorem process_tokens_hangs_without_l1 :
    (CXLSpecKVSystem.new.initializeSystem (fun _ _ => (0 : Nat))
        { l1SizeGb := 0, numLayers := 1, hiddenDim := 1 }).2.processTokens
      ConfidenceSort.idsDescending [[1]] 5 = none :=
  process_tokens_hangs_once_l1_full ConfidenceSort.idsDescending _ [1] [] 5 rfl rfl (by decide)
    (by decide) (by decide) (by decide) rfl

end CXLSpecKVSystem

end CxlSpeckv.Integration
