import Mathlib.Data.List.AList
import Mathlib.Algebra.Group.Nat.Basic

/-!
# The host KV allocator

`SpeckvAllocator` splits each allocation into 4 KiB pages, gives page `i` of handle `h` the
virtual id `(h << 32) | (i << 12)` and the physical id `0x4000000000 + (h << 20) + (i << 12)`,
and records every page twice: in the allocation's own page list and in `page_table_`, keyed
by the virtual id. `access` fetches a page that is in neither L1 nor L2 through the driver
and marks it as in L2.

## Implementation notes

`allocs_` and `page_table_` are association lists; a `KvVirtKey` has one field, its
`virt_page_id`, which is the key here. The driver is not part of the allocator: what it
answers during one `sync_fetch_page` is an argument, `DriverAnswers`. The source ignores both
answers except that `while (poll_complete() == 0)` returns at the first non-zero one; when
every given answer is zero the call has not returned, and the model says `none`.
`prefetch` only forwards a request to the driver; it is modelled with the driver, in `Stack`.
`encode_virt_page` has no caller and is not modelled.
-/

namespace CxlSpeckv.Host

/-- `KvPageHandle`; bit 0 of `flags` is "in L1", bit 1 "in L2", bit 2 "compressed". -/
structure KvPageHandle where
  virtPageId : BitVec 64
  physPageId : BitVec 64
  pageSize : BitVec 32
  flags : BitVec 32
  deriving DecidableEq, Repr

structure Allocation where
  sizeBytes : BitVec 64
  pages : List KvPageHandle
  deriving DecidableEq, Repr

abbrev AllocMap := AList (fun _ : BitVec 64 => Allocation)

/-- `page_table_`, keyed by the `virt_page_id` of its `KvVirtKey`. -/
abbrev KvPageTable := AList (fun _ : BitVec 64 => KvPageHandle)

/-- The answers of the driver during one `sync_fetch_page`: `submit_dma_batch`, then the
successive calls of `poll_complete`. -/
structure DriverAnswers where
  submitDmaBatch : Int
  pollComplete : List Int
  deriving DecidableEq, Repr

structure SpeckvAllocator where
  allocs : AllocMap
  pageTable : KvPageTable
  nextHandle : BitVec 64
  deriving DecidableEq

namespace SpeckvAllocator

/-- The constructor: no allocation, and `next_handle_ = 1`. -/
def init : SpeckvAllocator := ⟨∅, ∅, 1⟩

/-- `(bytes + page_size - 1) / page_size` in `size_t`, with `page_size = 4096`. -/
def numPages (bytes : BitVec 64) : BitVec 64 := (bytes + 4096 - 1) / 4096

/-- Page `i` of the allocation `handle`, as the loop of `alloc` fills it in. -/
def kvPage (handle : BitVec 64) (i : Nat) : KvPageHandle :=
  ⟨(handle <<< 32) ||| (BitVec.ofNat 64 i <<< 12),
    0x4000000000 + (handle <<< 20) + (BitVec.ofNat 64 i <<< 12), 4096, 0⟩

/-- The page-table side of the loop of `alloc`: pages `0, ..., n - 1` in order, a later page
replacing an earlier one under the same key. -/
def insertKvPages (table : KvPageTable) (handle : BitVec 64) : Nat → KvPageTable
  | 0 => table
  | i + 1 => (insertKvPages table handle i).insert (kvPage handle i).virtPageId (kvPage handle i)

def alloc (a : SpeckvAllocator) (bytes : BitVec 64) : BitVec 64 × SpeckvAllocator :=
  let handle := a.nextHandle
  let n := (numPages bytes).toNat
  (handle, { allocs := a.allocs.insert handle ⟨bytes, (List.range n).map (kvPage handle)⟩,
             pageTable := insertKvPages a.pageTable handle n,
             nextHandle := handle + 1 })

/-- The loop of `free`: erase the key of every page of the allocation. -/
def erasePages (table : KvPageTable) (pages : List KvPageHandle) : KvPageTable :=
  pages.foldl (fun t p => t.erase p.virtPageId) table

/-- An unknown handle changes nothing. -/
def free (a : SpeckvAllocator) (handle : BitVec 64) : SpeckvAllocator :=
  match a.allocs.lookup handle with
  | none => a
  | some al => { a with pageTable := erasePages a.pageTable al.pages, allocs := a.allocs.erase handle }

def isInL1OrL2 (a : SpeckvAllocator) (virtPageId : BitVec 64) : Bool :=
  match a.pageTable.lookup virtPageId with
  | none => false
  | some p => p.flags &&& 3 != 0

/-- Submit one read descriptor, wait for `poll_complete` to answer non-zero, and set the L2
bit of the table's entry; `none` when no given answer ends the wait. -/
def syncFetchPage (a : SpeckvAllocator) (virtPageId : BitVec 64) (d : DriverAnswers) :
    Option SpeckvAllocator :=
  match a.pageTable.lookup virtPageId with
  | none => some a
  | some p =>
      if d.pollComplete.any (· != 0) then
        some { a with pageTable := a.pageTable.insert virtPageId { p with flags := p.flags ||| 2 } }
      else none

/-- The pointer `access` returns, `0` for `nullptr`, and the allocator after it. The length
argument is not read. -/
def access (a : SpeckvAllocator) (handle offset _bytes : BitVec 64) (d : DriverAnswers) :
    Option (BitVec 64 × SpeckvAllocator) :=
  match a.allocs.lookup handle with
  | none => some (0, a)
  | some al =>
      let pageIdx := offset / 4096
      let pageOffset := offset % 4096
      if h : pageIdx.toNat < al.pages.length then
        let page := al.pages.get ⟨pageIdx.toNat, h⟩
        let fetched := if isInL1OrL2 a page.virtPageId then some a
          else syncFetchPage a page.virtPageId d
        fetched.map fun a => (page.physPageId + pageOffset, a)
      else some (0, a)

end SpeckvAllocator

/-- The public calls that change an allocator. -/
inductive Request
  | alloc (bytes : BitVec 64)
  | free (handle : BitVec 64)
  | access (handle offset bytes : BitVec 64) (driver : DriverAnswers)
  deriving DecidableEq, Repr

/-- One call; `none` when it does not return. -/
def Request.exec : Request → SpeckvAllocator → Option SpeckvAllocator
  | .alloc bytes, a => some (a.alloc bytes).2
  | .free handle, a => some (a.free handle)
  | .access handle offset bytes d, a => (a.access handle offset bytes d).map Prod.snd

/-- The allocator after a sequence of calls, if every call returns. -/
def run : List Request → SpeckvAllocator → Option SpeckvAllocator
  | [], a => some a
  | r :: rs, a => (r.exec a).bind (run rs)

end CxlSpeckv.Host
