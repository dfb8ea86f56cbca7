import CxlSpeckv.Memory.Allocation

/-!
# The allocator front end

`CXLMemoryAllocator` hands out the manager's virtual bases as pointers and keeps one handle
per pointer in `handle_map_`. `cxl_malloc` always asks for the default tier, L3, and treats
a base of `0` as failure.

## Implementation notes

Before `initialize` (`initializeTiers`) there is no manager; every operation checks `initialized_` first, so the
model keeps a manager of the default configuration there and never reads it. The prefetcher
that `initialize` also builds and `prefetch_hint` are modelled with the system, in `System`. The
cache engine, which no call reads, the `hint` argument of `cxl_malloc` and the floating-point
`prefetch_hit_rate` are not modelled.
-/

namespace CxlSpeckv.Integration

open CxlSpeckv.Memory

structure AllocationHandle where
  virtualAddr : BitVec 64
  sizeBytes : BitVec 64
  layerId : BitVec 32
  deriving DecidableEq, Repr

/-- The `size_t` counters of `AllocatorStatistics`. -/
structure AllocatorStatistics where
  totalAllocations : BitVec 64
  totalDeallocations : BitVec 64
  currentAllocatedBytes : BitVec 64
  peakAllocatedBytes : BitVec 64
  deriving DecidableEq, Repr

/-- `AllocatorStatistics{}`. -/
def AllocatorStatistics.zero : AllocatorStatistics := ⟨0, 0, 0, 0⟩

abbrev HandleMap := AList (fun _ : BitVec 64 => AllocationHandle)

structure CXLMemoryAllocator where
  initialized : Bool
  config : Config
  memoryManager : CXLMemoryManager
  handleMap : HandleMap
  stats : AllocatorStatistics
  deriving DecidableEq

namespace CXLMemoryAllocator

/-- The constructor. -/
def init : CXLMemoryAllocator := ⟨false, {}, CXLMemoryManager.init, ∅, .zero⟩

/-- `initialize`: a fresh manager of the given tier sizes and the default page size; the
handle map and the statistics are kept. -/
def initializeTiers (s : CXLMemoryAllocator) (l1SizeGb l2SizeGb l3SizeGb : BitVec 64) :
    Bool × CXLMemoryAllocator :=
  (true, { s with initialized := true, config := { l1SizeGb, l2SizeGb, l3SizeGb },
                  memoryManager := CXLMemoryManager.init })

def cxlMalloc (s : CXLMemoryAllocator) (sizeBytes : BitVec 64) (layerId : BitVec 32) :
    BitVec 64 × CXLMemoryAllocator :=
  if !s.initialized then (0, s)
  else
    let r := CXLMemoryManager.allocate s.config s.memoryManager sizeBytes layerId
    let virtualAddr := r.1
    let s := { s with memoryManager := r.2 }
    if virtualAddr = 0 then (0, s)
    else
      let handle : AllocationHandle := ⟨virtualAddr, sizeBytes, layerId⟩
      let current := s.stats.currentAllocatedBytes + sizeBytes
      let stats := { s.stats with
        totalAllocations := s.stats.totalAllocations + 1,
        currentAllocatedBytes := current,
        peakAllocatedBytes :=
          if s.stats.peakAllocatedBytes < current then current else s.stats.peakAllocatedBytes }
      (virtualAddr, { s with handleMap := s.handleMap.insert virtualAddr handle, stats })

def cxlFree (s : CXLMemoryAllocator) (ptr : BitVec 64) : CXLMemoryAllocator :=
  if !s.initialized || ptr = 0 then s
  else
    match s.handleMap.lookup ptr with
    | none => s
    | some handle =>
        { s with
          memoryManager := CXLMemoryManager.deallocate s.memoryManager handle.virtualAddr,
          stats := { s.stats with
            totalDeallocations := s.stats.totalDeallocations + 1,
            currentAllocatedBytes := s.stats.currentAllocatedBytes - handle.sizeBytes },
          handleMap := s.handleMap.erase ptr }

/-- The pointer `cxl_access` returns after its tier moves; `none` where `promote_to_l1`
never returns. The length argument is not read. -/
def cxlAccess (s : CXLMemoryAllocator) (handle offset _sizeBytes : BitVec 64) :
    Option (BitVec 64 × CXLMemoryAllocator) :=
  if !s.initialized || handle = 0 then some (0, s)
  else
    match s.handleMap.lookup handle with
    | none => some (0, s)
    | some alloc =>
        let virtualAddr := alloc.virtualAddr + offset
        let c := s.config
        let mm := CXLMemoryManager.updateAccessTracking c s.memoryManager virtualAddr
        let promote (mm : CXLMemoryManager) : Option (BitVec 64 × CXLMemoryAllocator) :=
          (CXLMemoryManager.promoteToL1 c mm virtualAddr).map
            fun r => (virtualAddr, { s with memoryManager := r.2 })
        if CXLMemoryManager.isInCache c mm virtualAddr .l1GpuLocal then
          some (virtualAddr, { s with memoryManager := mm })
        else if CXLMemoryManager.isInCache c mm virtualAddr .l2Prefetch then
          let hot := CXLMemoryManager.isHotPage c mm virtualAddr
          if hot.1 then promote hot.2 else some (virtualAddr, { s with memoryManager := hot.2 })
        else promote mm

def getStatistics (s : CXLMemoryAllocator) : AllocatorStatistics := s.stats

section Malloc

variable {s : CXLMemoryAllocator} {n : BitVec 64} {l : BitVec 32}

@[simp] theorem cxlMalloc_initialized : (cxlMalloc s n l).2.initialized = s.initialized := by
  unfold cxlMalloc; dsimp only; split_ifs <;> rfl

@[simp] theorem cxlMalloc_config : (cxlMalloc s n l).2.config = s.config := by
  unfold cxlMalloc; dsimp only; split_ifs <;> rfl

theorem cxlMalloc_memoryManager (hi : s.initialized = true) :
    (cxlMalloc s n l).2.memoryManager =
      (CXLMemoryManager.allocate s.config s.memoryManager n l).2 := by
  simp only [cxlMalloc, hi, Bool.not_true, Bool.false_eq_true, ↓reduceIte]
  split_ifs <;> rfl

/-- A call on a manager whose next base is not `0` returns that base and records its
handle under it. -/
theorem cxlMalloc_of_ne_zero (hi : s.initialized = true)
    (hv : s.memoryManager.nextVirtualAddr ≠ 0) :
    (cxlMalloc s n l).1 = s.memoryManager.nextVirtualAddr ∧
      (cxlMalloc s n l).2.handleMap =
        s.handleMap.insert s.memoryManager.nextVirtualAddr ⟨s.memoryManager.nextVirtualAddr, n, l⟩ := by
  simp only [cxlMalloc, hi, Bool.not_true, Bool.false_eq_true, ↓reduceIte,
    CXLMemoryManager.allocate_fst]
  rw [if_neg hv]
  exact ⟨rfl, rfl⟩

/-- An empty request, or one whose rounding wraps, creates no page, so the next call returns
the same pointer again and replaces the handle stored under it. -/
theorem cxl_malloc_repeats_pointer (s : CXLMemoryAllocator) (n n' : BitVec 64) (l l' : BitVec 32)
    (hi : s.initialized = true) (hps : 0 < s.config.pageSize.toNat)
    (hn : n.toNat = 0 ∨ 2 ^ 64 - s.config.pageSize.toNat < n.toNat)
    (hv : s.memoryManager.nextVirtualAddr ≠ 0) :
    let r₁ := cxlMalloc s n l
    let r₂ := cxlMalloc r₁.2 n' l'
    r₁.1 = s.memoryManager.nextVirtualAddr ∧ r₁.2.handleMap.lookup r₁.1 = some ⟨r₁.1, n, l⟩ ∧
      r₂.1 = r₁.1 ∧ r₂.2.handleMap.lookup r₁.1 = some ⟨r₁.1, n', l'⟩ := by
  intro r₁ r₂
  have hnext : r₁.2.memoryManager.nextVirtualAddr = s.memoryManager.nextVirtualAddr := by
    rw [cxlMalloc_memoryManager hi]
    exact (CXLMemoryManager.allocate_of_numPages_eq_zero ((numPages_eq_zero_iff hps).2 hn)).2
  have hi₁ : r₁.2.initialized = true := cxlMalloc_initialized.trans hi
  obtain ⟨h₁, hm₁⟩ := cxlMalloc_of_ne_zero (n := n) (l := l) hi hv
  obtain ⟨h₂, hm₂⟩ := cxlMalloc_of_ne_zero (n := n') (l := l') hi₁ (hnext ▸ hv)
  refine ⟨h₁, ?_, h₂.trans (hnext.trans h₁.symm), ?_⟩
  · rw [hm₁, h₁, AList.lookup_insert]
  · rw [hm₂, hnext, h₁, AList.lookup_insert]

/-- After `initialize(12, 3, 128)`, `cxl_malloc(0)` and then `cxl_malloc(4096)` both return
`0x100000000`, and the second handle replaces the first. -/
theorem cxl_malloc_zero_then_page :
    let s := (initializeTiers init 12 3 128).2
    (cxlMalloc s 0 0).1 = 0x100000000 ∧
      (cxlMalloc s 0 0).2.handleMap.lookup (cxlMalloc s 0 0).1 =
        some ⟨(cxlMalloc s 0 0).1, 0, 0⟩ ∧
      (cxlMalloc (cxlMalloc s 0 0).2 4096 0).1 = (cxlMalloc s 0 0).1 ∧
      (cxlMalloc (cxlMalloc s 0 0).2 4096 0).2.handleMap.lookup (cxlMalloc s 0 0).1 =
        some ⟨(cxlMalloc s 0 0).1, 4096, 0⟩ :=
  cxl_malloc_repeats_pointer _ 0 4096 0 0 rfl (by decide) (.inl rfl) (by decide)

end Malloc

end CXLMemoryAllocator

end CxlSpeckv.Integration
