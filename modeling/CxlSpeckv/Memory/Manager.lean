import Mathlib.Data.List.AList
import Mathlib.Algebra.Group.Nat.Basic

/-!
# The tiered page allocator

`CXLMemoryManager` keeps a page table keyed by page-aligned virtual address, one list of
addresses per tier, an LRU list for L1, and one monotonic physical cursor per tier.
`size_t` and `uint64_t` values are `BitVec 64`, so every sum and product wraps as in the
source; `uint32_t` counters are `BitVec 32`.

## Implementation notes

The constructor's arguments are never reassigned and form a `Config`. Every public
operation takes `page_table_mutex_`. The only nested acquisition is `promote_to_l1` →
`evict_l1_lru` → `demote_to_l3`; the mutex is not recursive, so that call never returns and
the model answers `none` there. Clock readings (`last_access_time`) and the floating-point
hit rates of `get_statistics` are not modelled.
-/

namespace CxlSpeckv.Memory

inductive MemoryTier
  | l1GpuLocal
  | l2Prefetch
  | l3CxlPool
  deriving DecidableEq, Repr

inductive PageState
  | invalid
  | shared
  | exclusive
  | modified
  deriving DecidableEq, Repr

/-- A page-table entry. -/
structure MemoryPage where
  virtualAddr : BitVec 64
  physicalAddr : BitVec 64
  tier : MemoryTier
  state : PageState
  accessCount : BitVec 32
  isHot : Bool
  layerId : BitVec 32
  deriving DecidableEq, Repr

/-- The integer counters of `Statistics`, taken to be unbounded. -/
structure Statistics where
  l1Hits : Nat
  l1Misses : Nat
  l2Hits : Nat
  l2Misses : Nat
  l3Accesses : Nat
  migrationsL1ToL3 : Nat
  migrationsL3ToL1 : Nat
  deriving DecidableEq, Repr

/-- `Statistics{}`. -/
def Statistics.zero : Statistics := ⟨0, 0, 0, 0, 0, 0, 0⟩

abbrev PageTable := AList (fun _ : BitVec 64 => MemoryPage)

/-- The constructor's arguments, with their defaults. -/
structure Config where
  l1SizeGb : BitVec 64 := 12
  l2SizeGb : BitVec 64 := 3
  l3SizeGb : BitVec 64 := 128
  pageSize : BitVec 64 := 4096
  deriving DecidableEq, Repr

namespace Config

def l1SizeBytes (c : Config) : BitVec 64 := c.l1SizeGb * 1024 * 1024 * 1024

def l2SizeBytes (c : Config) : BitVec 64 := c.l2SizeGb * 1024 * 1024 * 1024

def l3SizeBytes (c : Config) : BitVec 64 := c.l3SizeGb * 1024 * 1024 * 1024

/-- The `available` bytes of `can_fit_in_tier`. -/
def tierSizeBytes (c : Config) : MemoryTier → BitVec 64
  | .l1GpuLocal => c.l1SizeBytes
  | .l2Prefetch => c.l2SizeBytes
  | .l3CxlPool => c.l3SizeBytes

end Config

structure CXLMemoryManager where
  pageTable : PageTable
  l1Pages : List (BitVec 64)
  l2Pages : List (BitVec 64)
  l3Pages : List (BitVec 64)
  nextVirtualAddr : BitVec 64
  nextPhysicalAddrL1 : BitVec 64
  nextPhysicalAddrL2 : BitVec 64
  nextPhysicalAddrL3 : BitVec 64
  l1LruList : List (BitVec 64)
  stats : Statistics
  deriving DecidableEq

/-- `v.erase(std::remove(v.begin(), v.end(), x), v.end())` removes every copy of `x`. -/
def eraseAll (l : List (BitVec 64)) (x : BitVec 64) : List (BitVec 64) :=
  l.filter (· ≠ x)

/-- The page the loop of `allocate` creates at index `i`. -/
def newPage (va pa pageSize : BitVec 64) (tier : MemoryTier) (layerId : BitVec 32) (i : Nat) :
    MemoryPage :=
  let offset := BitVec.ofNat 64 i * pageSize
  ⟨va + offset, pa + offset, tier, .exclusive, 0, false, layerId⟩

/-- The page-creation loop of `allocate`: indices `0, ..., n - 1` in that order, so a later
page replaces an earlier one at the same key. -/
def insertPages (table : PageTable) (va pa pageSize : BitVec 64) (tier : MemoryTier)
    (layerId : BitVec 32) : Nat → PageTable
  | 0 => table
  | i + 1 =>
      let p := newPage va pa pageSize tier layerId i
      (insertPages table va pa pageSize tier layerId i).insert p.virtualAddr p

namespace CXLMemoryManager

/-- The constructor: cursors at 4 GiB (virtual) and 512 GiB, 1 TiB, 2 TiB (physical). -/
def init : CXLMemoryManager :=
  ⟨∅, [], [], [], 0x100000000, 0x8000000000, 0x10000000000, 0x20000000000, [],
    Statistics.zero⟩

/-- The list `allocate` appends a tier's allocations to: `l1_pages_`, `l2_pages_` or
`l3_pages_`. -/
def tierPages (m : CXLMemoryManager) : MemoryTier → List (BitVec 64)
  | .l1GpuLocal => m.l1Pages
  | .l2Prefetch => m.l2Pages
  | .l3CxlPool => m.l3Pages

section Operations

variable (c : Config)

/-- The page-aligned key of an address. -/
def pageAddr (va : BitVec 64) : BitVec 64 := (va / c.pageSize) * c.pageSize

def getPage (m : CXLMemoryManager) (va : BitVec 64) : Option MemoryPage :=
  m.pageTable.lookup (pageAddr c va)

/-- Writing through the pointer `get_page` returned. -/
def setPage (m : CXLMemoryManager) (va : BitVec 64) (p : MemoryPage) : CXLMemoryManager :=
  { m with pageTable := m.pageTable.insert (pageAddr c va) p }

/-- Used bytes count one `page_size_` per list entry. -/
def canFitInTier (m : CXLMemoryManager) (tier : MemoryTier) (sizeBytes : BitVec 64) : Bool :=
  let used := BitVec.ofNat 64 (m.tierPages tier).length * c.pageSize
  decide (used + sizeBytes ≤ c.tierSizeBytes tier)

/-- `(size_bytes + page_size_ - 1) / page_size_` in `size_t`. -/
def numPages (sizeBytes : BitVec 64) : BitVec 64 := (sizeBytes + c.pageSize - 1) / c.pageSize

/-- The tier `allocate` chooses: L1 only if it fits, and L3 in its place. -/
def actualTier (m : CXLMemoryManager) (sizeBytes : BitVec 64) (preferredTier : MemoryTier) :
    MemoryTier :=
  if preferredTier = .l1GpuLocal ∧
      canFitInTier c m .l1GpuLocal (numPages c sizeBytes * c.pageSize) = false then .l3CxlPool
  else preferredTier

/-- The cursor of a tier. -/
def cursor (m : CXLMemoryManager) : MemoryTier → BitVec 64
  | .l1GpuLocal => m.nextPhysicalAddrL1
  | .l2Prefetch => m.nextPhysicalAddrL2
  | .l3CxlPool => m.nextPhysicalAddrL3

/-- The `switch (actual_tier)` of `allocate`: take the tier's cursor as the physical base,
advance the cursor by the allocation, and record the virtual base in the tier's list. -/
def reserve (m : CXLMemoryManager) (tier : MemoryTier) (va bytes : BitVec 64) :
    BitVec 64 × CXLMemoryManager :=
  match tier with
  | .l1GpuLocal => (m.nextPhysicalAddrL1,
      { m with nextPhysicalAddrL1 := m.nextPhysicalAddrL1 + bytes, l1Pages := m.l1Pages ++ [va] })
  | .l2Prefetch => (m.nextPhysicalAddrL2,
      { m with nextPhysicalAddrL2 := m.nextPhysicalAddrL2 + bytes, l2Pages := m.l2Pages ++ [va] })
  | .l3CxlPool => (m.nextPhysicalAddrL3,
      { m with nextPhysicalAddrL3 := m.nextPhysicalAddrL3 + bytes, l3Pages := m.l3Pages ++ [va] })

def allocate (m : CXLMemoryManager) (sizeBytes : BitVec 64) (layerId : BitVec 32)
    (preferredTier : MemoryTier := .l3CxlPool) : BitVec 64 × CXLMemoryManager :=
  let numPages := numPages c sizeBytes
  let requiredBytes := numPages * c.pageSize
  let tier := actualTier c m sizeBytes preferredTier
  let va := m.nextVirtualAddr
  let (physBase, m) := reserve m tier va requiredBytes
  let table := insertPages m.pageTable va physBase c.pageSize tier layerId numPages.toNat
  (va, { m with pageTable := table, nextVirtualAddr := va + requiredBytes })

/-- Looks up the exact address, unaligned, and removes that one entry. -/
def deallocate (m : CXLMemoryManager) (va : BitVec 64) : CXLMemoryManager :=
  match m.pageTable.lookup va with
  | none => m
  | some p =>
      let m :=
        match p.tier with
        | .l1GpuLocal => { m with l1Pages := eraseAll m.l1Pages va,
                                  l1LruList := eraseAll m.l1LruList va }
        | .l2Prefetch => { m with l2Pages := eraseAll m.l2Pages va }
        | .l3CxlPool => { m with l3Pages := eraseAll m.l3Pages va }
      { m with pageTable := m.pageTable.erase va }

def translateVirtualToPhysical (m : CXLMemoryManager) (va : BitVec 64) : BitVec 64 :=
  match m.pageTable.lookup (pageAddr c va) with
  | some p => p.physicalAddr + (va - pageAddr c va)
  | none => 0

def isInCache (m : CXLMemoryManager) (va : BitVec 64) (tier : MemoryTier) : Bool :=
  match m.pageTable.lookup (pageAddr c va) with
  | some p => decide (p.tier = tier)
  | none => false

/-- `update_lru`: move the address to the most-recent end. -/
def updateLru (m : CXLMemoryManager) (va : BitVec 64) : CXLMemoryManager :=
  { m with l1LruList := eraseAll m.l1LruList va ++ [va] }

/-- Fails on unknown pages and on pages already in L3. The lists are searched for the
address as given, not for its page. -/
def demoteToL3 (m : CXLMemoryManager) (va : BitVec 64) : Bool × CXLMemoryManager :=
  match getPage c m va with
  | none => (false, m)
  | some p =>
      if p.tier = .l3CxlPool then (false, m)
      else
        let m := setPage c m va { p with tier := .l3CxlPool }
        let m :=
          match p.tier with
          | .l1GpuLocal => { m with
              l1Pages := eraseAll m.l1Pages va, l1LruList := eraseAll m.l1LruList va,
              stats := { m.stats with migrationsL1ToL3 := m.stats.migrationsL1ToL3 + 1 } }
          | .l2Prefetch => { m with l2Pages := eraseAll m.l2Pages va }
          | .l3CxlPool => m
        (true, { m with l3Pages := m.l3Pages ++ [va] })

/-- `evict_l1_lru`, whose only caller `promote_to_l1` holds `page_table_mutex_`. On a
non-empty list it calls `demote_to_l3`, which takes the same mutex again: `none`. -/
def evictL1Lru (m : CXLMemoryManager) : Option CXLMemoryManager :=
  match m.l1LruList with
  | [] => some m
  | _ :: _ => none

/-- The part of `promote_to_l1` after the eviction: retarget the page to L1, move the
address from its old tier's list to `l1_pages_`, and touch it in the LRU list. -/
def moveToL1 (m : CXLMemoryManager) (va : BitVec 64) (p : MemoryPage) : CXLMemoryManager :=
  let m := setPage c m va { p with tier := .l1GpuLocal }
  let m :=
    match p.tier with
    | .l2Prefetch => { m with l2Pages := eraseAll m.l2Pages va }
    | .l3CxlPool =>
        { m with l3Pages := eraseAll m.l3Pages va,
                 stats := { m.stats with migrationsL3ToL1 := m.stats.migrationsL3ToL1 + 1 } }
    | .l1GpuLocal => m
  updateLru ({ m with l1Pages := m.l1Pages ++ [va] }) va

/-- Fails on unknown pages and on pages already in L1. -/
def promoteToL1 (m : CXLMemoryManager) (va : BitVec 64) : Option (Bool × CXLMemoryManager) :=
  match getPage c m va with
  | none => some (false, m)
  | some p =>
      if p.tier = .l1GpuLocal then some (false, m)
      else do
        let m ← if canFitInTier c m .l1GpuLocal c.pageSize then some m else evictL1Lru m
        some (true, moveToL1 c m va p)

def invalidatePage (m : CXLMemoryManager) (va : BitVec 64) : CXLMemoryManager :=
  match getPage c m va with
  | some p => setPage c m va { p with state := .invalid }
  | none => m

def markModified (m : CXLMemoryManager) (va : BitVec 64) : CXLMemoryManager :=
  match getPage c m va with
  | some p => setPage c m va { p with state := .modified }
  | none => m

def getPageState (m : CXLMemoryManager) (va : BitVec 64) : PageState :=
  match getPage c m va with
  | some p => p.state
  | none => .invalid

/-- Counts the access and moves the address to the LRU end, whatever the page's tier. -/
def updateAccessTracking (m : CXLMemoryManager) (va : BitVec 64) : CXLMemoryManager :=
  match getPage c m va with
  | none => m
  | some p =>
      let m := setPage c m va { p with accessCount := p.accessCount + 1 }
      let stats :=
        match p.tier with
        | .l1GpuLocal => { m.stats with l1Hits := m.stats.l1Hits + 1 }
        | .l2Prefetch => { m.stats with l2Hits := m.stats.l2Hits + 1 }
        | .l3CxlPool => { m.stats with l3Accesses := m.stats.l3Accesses + 1 }
      updateLru ({ m with stats := stats }) va

/-- Stores and returns `access_count > 10`. -/
def isHotPage (m : CXLMemoryManager) (va : BitVec 64) : Bool × CXLMemoryManager :=
  match getPage c m va with
  | none => (false, m)
  | some p =>
      let hot := decide (10 < p.accessCount)
      (hot, setPage c m va { p with isHot := hot })

def getStatistics (m : CXLMemoryManager) : Statistics := m.stats

def resetStatistics (m : CXLMemoryManager) : CXLMemoryManager :=
  { m with stats := Statistics.zero }

end Operations

variable {c : Config} {m m' : CXLMemoryManager} {va : BitVec 64}

theorem evictL1Lru_eq (h : evictL1Lru m = some m') : m' = m := by
  unfold evictL1Lru at h
  split at h
  · exact (Option.some.inj h).symm
  · cases h

/-- A call of `promote_to_l1` that returns either leaves the manager as it was or moves a
known page to L1. -/
theorem promoteToL1_eq_some {b : Bool} (h : promoteToL1 c m va = some (b, m')) :
    m' = m ∨ ∃ p, getPage c m va = some p ∧ m' = moveToL1 c m va p := by
  unfold promoteToL1 at h
  split at h
  · cases h; exact .inl rfl
  · next p hp =>
      split_ifs at h
      · cases h; exact .inl rfl
      · cases h; exact .inr ⟨p, hp, rfl⟩
      · simp only [Option.bind_eq_bind, Option.bind_eq_some, Option.some.injEq,
          Prod.mk.injEq] at h
        obtain ⟨m₁, hm₁, -, rfl⟩ := h
        obtain rfl := evictL1Lru_eq hm₁
        exact .inr ⟨p, hp, rfl⟩

end CXLMemoryManager

/-- The public operations that change the manager's state. -/
inductive Request
  | allocate (sizeBytes : BitVec 64) (layerId : BitVec 32) (preferredTier : MemoryTier)
  | deallocate (va : BitVec 64)
  | promoteToL1 (va : BitVec 64)
  | demoteToL3 (va : BitVec 64)
  | invalidatePage (va : BitVec 64)
  | markModified (va : BitVec 64)
  | updateAccessTracking (va : BitVec 64)
  | isHotPage (va : BitVec 64)
  | resetStatistics
  deriving DecidableEq, Repr

/-- One call; `none` when the call never returns. -/
def Request.exec (c : Config) : Request → CXLMemoryManager → Option CXLMemoryManager
  | .allocate n layer tier, m => some (CXLMemoryManager.allocate c m n layer tier).2
  | .deallocate va, m => some (CXLMemoryManager.deallocate m va)
  | .promoteToL1 va, m => (CXLMemoryManager.promoteToL1 c m va).map Prod.snd
  | .demoteToL3 va, m => some (CXLMemoryManager.demoteToL3 c m va).2
  | .invalidatePage va, m => some (CXLMemoryManager.invalidatePage c m va)
  | .markModified va, m => some (CXLMemoryManager.markModified c m va)
  | .updateAccessTracking va, m => some (CXLMemoryManager.updateAccessTracking c m va)
  | .isHotPage va, m => some (CXLMemoryManager.isHotPage c m va).2
  | .resetStatistics, m => some (CXLMemoryManager.resetStatistics m)

/-- The manager after a sequence of calls, if every call returns. -/
def run (c : Config) : List Request → CXLMemoryManager → Option CXLMemoryManager
  | [], m => some m
  | r :: rs, m => (r.exec c m).bind (run c rs)

end CxlSpeckv.Memory
