import CxlSpeckv.Integration.ProcessTokens

/-!
# The allocator's statistics over a run

`cxl_malloc` adds its size to `current_allocated_bytes` and one to `total_allocations` when it
records a handle; `cxl_free` takes the handle's size and one deallocation off when it erases
one; `cxl_access` changes neither. So the counters follow the handle map as long as no
`cxl_malloc` records its handle over a live one. That holds while every allocation has a page
and the virtual cursor does not wrap: the cursor then grows past every live pointer.

## Implementation notes

The sums are in `size_t` and wrap. The live sizes are summed over the handle map's entries.
-/

namespace CxlSpeckv.Integration

open CxlSpeckv.Memory CXLMemoryManager

namespace CXLMemoryAllocator

/-- The calls of the allocator that change it after `initialize`. -/
inductive Call
  | cxlMalloc (sizeBytes : BitVec 64) (layerId : BitVec 32)
  | cxlFree (ptr : BitVec 64)
  | cxlAccess (handle offset sizeBytes : BitVec 64)

/-- One call; `none` where `cxl_access` never returns. -/
def Call.exec : Call → CXLMemoryAllocator → Option CXLMemoryAllocator
  | .cxlMalloc n l, s => some (s.cxlMalloc n l).2
  | .cxlFree p, s => some (s.cxlFree p)
  | .cxlAccess h o n, s => (s.cxlAccess h o n).map Prod.snd

/-- The allocator after a sequence of calls, if every call returns. -/
def runCalls : List Call → CXLMemoryAllocator → Option CXLMemoryAllocator
  | [], s => some s
  | r :: rs, s => (r.exec s).bind (runCalls rs)

/-- The virtual bytes a call reserves: a `cxl_malloc`'s size rounded up to whole pages. -/
def Call.virtualBytes (c : Config) : Call → Nat
  | .cxlMalloc n _ => (numPages c n).toNat * c.pageSize.toNat
  | _ => 0

/-- The virtual bytes the allocations of a run reserve. -/
def callBytes (c : Config) : List Call → Nat
  | [] => 0
  | r :: rs => r.virtualBytes c + callBytes c rs

/-- The sizes of the live handles, summed in `size_t`. -/
def liveBytes : List (Sigma fun _ : BitVec 64 => AllocationHandle) → BitVec 64
  | [] => 0
  | e :: es => e.2.sizeBytes + liveBytes es

/-- Erasing a live handle takes its size and one entry off. -/
theorem liveBytes_kerase {k : BitVec 64} {v : AllocationHandle} :
    ∀ {l : List (Sigma fun _ : BitVec 64 => AllocationHandle)}, l.dlookup k = some v →
      liveBytes (l.kerase k) + v.sizeBytes = liveBytes l ∧ (l.kerase k).length + 1 = l.length
  | [], h => by cases h
  | ⟨k', v'⟩ :: es, h => by
      by_cases hk : k = k'
      · subst hk
        rw [List.dlookup_cons_eq] at h
        cases h
        have he : (⟨k, v⟩ :: es : List (Sigma fun _ : BitVec 64 => AllocationHandle)).kerase k = es :=
          List.kerase_cons_eq rfl
        rw [he, liveBytes, BitVec.add_comm]
        exact ⟨rfl, rfl⟩
      · rw [List.dlookup_cons_ne _ _ hk] at h
        obtain ⟨hb, hl⟩ := liveBytes_kerase h
        have he : (⟨k', v'⟩ :: es : List (Sigma fun _ : BitVec 64 => AllocationHandle)).kerase k =
            ⟨k', v'⟩ :: es.kerase k := List.kerase_cons_ne hk
        rw [he, liveBytes, liveBytes, BitVec.add_assoc, hb]
        exact ⟨rfl, by simp [hl]⟩

/-- What the counters keep of the handle map: the live bytes, the number of live handles, and
every live pointer below the virtual cursor. -/
structure Accounted (s : CXLMemoryAllocator) : Prop where
  current : s.stats.currentAllocatedBytes = liveBytes s.handleMap.entries
  count : s.stats.totalAllocations - s.stats.totalDeallocations =
    BitVec.ofNat 64 s.handleMap.entries.length
  below : ∀ k ∈ s.handleMap, k.toNat < s.memoryManager.nextVirtualAddr.toNat

variable {s s' : CXLMemoryAllocator}

theorem accounted_initializeTiers (l1SizeGb l2SizeGb l3SizeGb : BitVec 64) :
    Accounted (init.initializeTiers l1SizeGb l2SizeGb l3SizeGb).2 where
  current := rfl
  count := by simp [initializeTiers, init, AllocatorStatistics.zero]
  below k h := absurd h (AList.not_mem_empty k)

/-- The calls of `cxl_access` reserve no virtual bytes and keep the cursor. -/
theorem run_madeByCxlAccess {c : Config} {ms : List Request} {m m' : CXLMemoryManager}
    (hm : ∀ q ∈ ms, q.madeByCxlAccess = true) (hr : Memory.run c ms m = some m') :
    m'.nextVirtualAddr = m.nextVirtualAddr ∧ runVirtualBytes c ms = 0 := by
  induction ms generalizing m with
  | nil => cases hr; exact ⟨rfl, rfl⟩
  | cons q ms ih =>
      simp only [CxlSpeckv.Memory.run, Option.bind_eq_some] at hr
      obtain ⟨m₁, h₁, hr⟩ := hr
      have hq := hm q (List.mem_cons_self _ _)
      rcases exec_allocates_or_keepsLayout h₁ with ⟨n, l, T, rfl, -⟩ | hk
      · cases hq
      · obtain ⟨hv, hb⟩ := ih (fun q' h' => hm q' (List.mem_cons_of_mem _ h')) hr
        refine ⟨hv.trans hk.nextVirtualAddr, ?_⟩
        rw [runVirtualBytes, hb]
        cases q <;> first | rfl | cases hq

/-- A `cxl_access` that returns keeps the cursor. -/
theorem cxlAccess_nextVirtualAddr {handle offset len x : BitVec 64}
    (h : s.cxlAccess handle offset len = some (x, s')) :
    s'.memoryManager.nextVirtualAddr = s.memoryManager.nextVirtualAddr := by
  obtain ⟨-, ms, hr, hm⟩ := cxlAccess_eq_some h
  exact (run_madeByCxlAccess hm hr).1

theorem Accounted.cxlAccess (h : Accounted s) {handle offset len x : BitVec 64}
    (hq : s.cxlAccess handle offset len = some (x, s')) : Accounted s' := by
  obtain ⟨he, -⟩ := cxlAccess_eq_some hq
  have hv := cxlAccess_nextVirtualAddr hq
  rw [he]
  exact ⟨h.current, h.count, fun k hk => hv ▸ h.below k hk⟩

@[simp] theorem cxlFree_config (p : BitVec 64) : (s.cxlFree p).config = s.config := by
  unfold CXLMemoryAllocator.cxlFree
  split_ifs
  · rfl
  · split <;> rfl

theorem cxlFree_nextVirtualAddr (p : BitVec 64) :
    (s.cxlFree p).memoryManager.nextVirtualAddr = s.memoryManager.nextVirtualAddr := by
  unfold CXLMemoryAllocator.cxlFree
  split_ifs
  · rfl
  · split
    · rfl
    · exact deallocate_keepsLayout.nextVirtualAddr

theorem Accounted.cxlFree (h : Accounted s) (p : BitVec 64) : Accounted (s.cxlFree p) := by
  unfold CXLMemoryAllocator.cxlFree
  split_ifs
  · exact h
  split
  · exact h
  next v hv =>
  obtain ⟨hb, hl⟩ := liveBytes_kerase hv
  have hc := h.count
  refine ⟨?_, ?_, fun k hk => ?_⟩
  · show s.stats.currentAllocatedBytes - v.sizeBytes = liveBytes (s.handleMap.entries.kerase p)
    rw [h.current, ← hb, BitVec.add_sub_cancel]
  · show s.stats.totalAllocations - (s.stats.totalDeallocations + 1) =
      BitVec.ofNat 64 (s.handleMap.entries.kerase p).length
    rw [← hl] at hc
    bv_omega
  · exact (deallocate_keepsLayout (m := s.memoryManager)).nextVirtualAddr ▸
      h.below k (AList.mem_erase.1 hk).2

/-- A `cxl_malloc` of at least one page that fits in the virtual space records its handle under
a pointer no live handle has, and moves the cursor past it by the bytes it reserves. -/
theorem Accounted.cxlMalloc (h : Accounted s) {n : BitVec 64} {l : BitVec 32}
    (hn : numPages s.config n ≠ 0) (hb : VirtFits s.config s.memoryManager n) :
    Accounted (s.cxlMalloc n l).2 ∧
      (s.cxlMalloc n l).2.memoryManager.nextVirtualAddr.toNat ≤
        s.memoryManager.nextVirtualAddr.toNat + (numPages s.config n).toNat * s.config.pageSize.toNat := by
  have hpos : 0 < (numPages s.config n).toNat * s.config.pageSize.toNat := by
    have hn' : 0 < (numPages s.config n).toNat :=
      Nat.pos_of_ne_zero fun h0 => hn (BitVec.eq_of_toNat_eq h0)
    exact Nat.mul_pos hn' (pageSize_pos_of_lt_numPages hn')
  have hgrow : (allocate s.config s.memoryManager n l .l3CxlPool).2.nextVirtualAddr.toNat = _ :=
    toNat_nextVirtualAddr_allocate hb
  unfold CXLMemoryAllocator.cxlMalloc
  dsimp only
  split_ifs with hi hv
  · exact ⟨h, Nat.le_add_right _ _⟩
  · rw [allocate_fst] at hv
    refine ⟨⟨h.current, h.count, fun k hk => absurd (h.below k hk) (by rw [hv]; simp)⟩, hgrow.le⟩
  all_goals
    rw [allocate_fst] at hv ⊢
    have hfresh : s.memoryManager.nextVirtualAddr ∉ s.handleMap := fun hm =>
      Nat.lt_irrefl _ (h.below _ hm)
    refine ⟨⟨?_, ?_, fun k hk => ?_⟩, hgrow.le⟩
    · show s.stats.currentAllocatedBytes + n =
        liveBytes (s.handleMap.insert s.memoryManager.nextVirtualAddr _).entries
      rw [AList.insert_entries_of_neg hfresh, liveBytes, h.current, BitVec.add_comm]
    · show s.stats.totalAllocations + 1 - s.stats.totalDeallocations =
        BitVec.ofNat 64 (s.handleMap.insert s.memoryManager.nextVirtualAddr _).entries.length
      rw [AList.insert_entries_of_neg hfresh, List.length_cons]
      have hc := h.count
      bv_omega
    · show k.toNat < (allocate s.config s.memoryManager n l .l3CxlPool).2.nextVirtualAddr.toNat
      rw [hgrow]
      rcases (AList.mem_insert _).1 hk with rfl | hk
      · omega
      · have := h.below k hk
        omega

/-- One call that returns, with a `cxl_malloc` of at least one page that fits, keeps the
counters on the handle map and moves the cursor by at most the bytes it reserves. -/
theorem Accounted.exec (h : Accounted s) {r : Call}
    (hn : ∀ n l, r = .cxlMalloc n l → numPages s.config n ≠ 0)
    (hb : s.memoryManager.nextVirtualAddr.toNat + r.virtualBytes s.config < 2 ^ 64)
    (he : r.exec s = some s') :
    Accounted s' ∧ s'.config = s.config ∧
      s'.memoryManager.nextVirtualAddr.toNat ≤
        s.memoryManager.nextVirtualAddr.toNat + r.virtualBytes s.config := by
  cases r with
  | cxlMalloc n l =>
      cases he
      exact ⟨(h.cxlMalloc (hn n l rfl) hb).1, cxlMalloc_config, (h.cxlMalloc (hn n l rfl) hb).2⟩
  | cxlFree p =>
      cases he
      refine ⟨h.cxlFree p, cxlFree_config p, ?_⟩
      rw [cxlFree_nextVirtualAddr]
      exact Nat.le_add_right _ _
  | cxlAccess handle o len =>
      obtain ⟨⟨x, s₁⟩, hq, rfl⟩ := Option.map_eq_some'.1 he
      obtain ⟨he', -⟩ := cxlAccess_eq_some hq
      refine ⟨h.cxlAccess hq, by rw [he'], ?_⟩
      rw [cxlAccess_nextVirtualAddr hq]
      exact Nat.le_add_right _ _

theorem Accounted.run {rs : List Call} (h : Accounted s)
    (hn : ∀ n l, Call.cxlMalloc n l ∈ rs → numPages s.config n ≠ 0)
    (hb : s.memoryManager.nextVirtualAddr.toNat + callBytes s.config rs < 2 ^ 64)
    (hr : runCalls rs s = some s') : Accounted s' := by
  induction rs generalizing s with
  | nil => cases hr; exact h
  | cons r rs ih =>
      obtain ⟨s₁, h₁, hr⟩ := Option.bind_eq_some.1 hr
      rw [callBytes] at hb
      obtain ⟨ha₁, hc₁, hv₁⟩ := h.exec (fun n l hr => hn n l (hr ▸ List.mem_cons_self _ _))
        (by omega) h₁
      exact ih ha₁ (fun n l hm => hc₁ ▸ hn n l (List.mem_cons_of_mem _ hm)) (by rw [hc₁]; omega) hr

/-- Over runs from `initialize` that fit in the virtual space, `current_allocated_bytes` is the
sum of the live handles' sizes, and allocations minus deallocations is their number. -/
theorem statistics_track_live_handles (l1SizeGb l2SizeGb l3SizeGb : BitVec 64) (rs : List Call)
    {s : CXLMemoryAllocator}
    (hn : ∀ n l, Call.cxlMalloc n l ∈ rs → numPages { l1SizeGb, l2SizeGb, l3SizeGb } n ≠ 0)
    (hb : 0x100000000 + callBytes { l1SizeGb, l2SizeGb, l3SizeGb } rs < 2 ^ 64)
    (h : runCalls rs (init.initializeTiers l1SizeGb l2SizeGb l3SizeGb).2 = some s) :
    s.getStatistics.currentAllocatedBytes = liveBytes s.handleMap.entries ∧
      s.getStatistics.totalAllocations - s.getStatistics.totalDeallocations =
        BitVec.ofNat 64 s.handleMap.entries.length :=
  have ha := (accounted_initializeTiers l1SizeGb l2SizeGb l3SizeGb).run hn hb h
  ⟨ha.current, ha.count⟩

theorem statistics_track_two_handles_after_free :
    ∃ s, runCalls [.cxlMalloc 4096 0, .cxlMalloc 8192 1, .cxlFree 0x100000000,
        .cxlAccess 0x100001000 0 8] (init.initializeTiers 12 3 128).2 = some s ∧
      s.getStatistics.currentAllocatedBytes = liveBytes s.handleMap.entries ∧
      s.getStatistics.totalAllocations - s.getStatistics.totalDeallocations =
        BitVec.ofNat 64 s.handleMap.entries.length := by
  obtain ⟨s, h⟩ : ∃ s, runCalls [.cxlMalloc 4096 0, .cxlMalloc 8192 1, .cxlFree 0x100000000,
      .cxlAccess 0x100001000 0 8] (init.initializeTiers 12 3 128).2 = some s := ⟨_, rfl⟩
  refine ⟨s, h, statistics_track_live_handles 12 3 128 _ (fun n l hm => ?_) (by decide) h⟩
  simp only [List.mem_cons, Call.cxlMalloc.injEq, reduceCtorEq, List.mem_nil_iff, or_false] at hm
  rcases hm with ⟨rfl, -⟩ | ⟨rfl, -⟩ <;> decide

end CXLMemoryAllocator

end CxlSpeckv.Integration
