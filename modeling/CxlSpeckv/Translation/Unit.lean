import Mathlib.Data.BitVec

/-!
# The address translation unit

`AddressTranslationUnit` caches page translations in a direct-mapped TLB of `tlb_size_`
entries, indexed by the virtual page number modulo the size. A miss asks `page_walk` and
installs the result; `invalidate` clears the slot of one page and `invalidate_all` every
slot. Addresses and `size_t` values are `BitVec 64`.

## Implementation notes

`tlb_.resize` value-initialises the entries, so every slot starts as `TLBEntry{}` with
`valid` cleared. The counters of `TLBStatistics` are taken to be unbounded, and its
floating-point `hit_rate` is not modelled.
-/

namespace CxlSpeckv.Translation

structure TLBEntry where
  virtualPage : BitVec 64
  physicalPage : BitVec 64
  valid : Bool
  deriving DecidableEq, Repr

/-- `TLBEntry{}`. -/
def TLBEntry.empty : TLBEntry := ⟨0, 0, false⟩

structure TLBStatistics where
  hits : Nat
  misses : Nat
  deriving DecidableEq, Repr

structure AddressTranslationUnit where
  tlb : List TLBEntry
  tlbSize : BitVec 64
  stats : TLBStatistics
  deriving DecidableEq

/-- The mock page walk: a fixed offset onto the low 48 bits of the address. -/
def pageWalk (virtualAddr : BitVec 64) : BitVec 64 :=
  0x4000000000 + (virtualAddr &&& 0xFFFFFFFFFFFF)

namespace AddressTranslationUnit

/-- The constructor. -/
def new (tlbSize : BitVec 64 := 1024) : AddressTranslationUnit :=
  ⟨List.replicate tlbSize.toNat .empty, tlbSize, ⟨0, 0⟩⟩

/-- The 4 KiB page of an address. -/
def virtualPageOf (virtualAddr : BitVec 64) : BitVec 64 := virtualAddr &&& ~~~(0xFFF : BitVec 64)

/-- The slot of a page: its page number modulo `tlb_size_`. -/
def tlbIndex (u : AddressTranslationUnit) (virtualPage : BitVec 64) : Nat :=
  ((virtualPage >>> 12) % u.tlbSize).toNat

/-- The entry in the slot of an address's page. -/
def entryFor (u : AddressTranslationUnit) (virtualAddr : BitVec 64) : TLBEntry :=
  u.tlb.getD (u.tlbIndex (virtualPageOf virtualAddr)) .empty

/-- The hit test of `translate`. -/
def tlbHit (u : AddressTranslationUnit) (virtualAddr : BitVec 64) : Bool :=
  (u.entryFor virtualAddr).valid && (u.entryFor virtualAddr).virtualPage == virtualPageOf virtualAddr

def translate (u : AddressTranslationUnit) (virtualAddr : BitVec 64) :
    BitVec 64 × AddressTranslationUnit :=
  let virtualPage := virtualPageOf virtualAddr
  let pageOffset := virtualAddr &&& 0xFFF
  let index := u.tlbIndex virtualPage
  let entry := u.entryFor virtualAddr
  if entry.valid ∧ entry.virtualPage = virtualPage then
    (entry.physicalPage + pageOffset, { u with stats.hits := u.stats.hits + 1 })
  else
    let physicalPage := pageWalk virtualAddr
    (physicalPage + pageOffset,
      { u with
        tlb := u.tlb.set index ⟨virtualPage, physicalPage &&& ~~~(0xFFF : BitVec 64), true⟩,
        stats.misses := u.stats.misses + 1 })

/-- Clears the slot of the page if it holds that page, valid or not. -/
def invalidate (u : AddressTranslationUnit) (virtualAddr : BitVec 64) : AddressTranslationUnit :=
  let virtualPage := virtualPageOf virtualAddr
  let entry := u.entryFor virtualAddr
  if entry.virtualPage = virtualPage then
    { u with tlb := u.tlb.set (u.tlbIndex virtualPage) { entry with valid := false } }
  else u

def invalidateAll (u : AddressTranslationUnit) : AddressTranslationUnit :=
  { u with tlb := u.tlb.map fun e => { e with valid := false } }

def getStatistics (u : AddressTranslationUnit) : TLBStatistics := u.stats

def resetStatistics (u : AddressTranslationUnit) : AddressTranslationUnit :=
  { u with stats := ⟨0, 0⟩ }

end AddressTranslationUnit

/-- The public operations that change the unit's state. -/
inductive Request
  | translate (virtualAddr : BitVec 64)
  | invalidate (virtualAddr : BitVec 64)
  | invalidateAll
  | resetStatistics
  deriving DecidableEq, Repr

def Request.exec : Request → AddressTranslationUnit → AddressTranslationUnit
  | .translate va, u => (u.translate va).2
  | .invalidate va, u => u.invalidate va
  | .invalidateAll, u => u.invalidateAll
  | .resetStatistics, u => u.resetStatistics

def run : List Request → AddressTranslationUnit → AddressTranslationUnit
  | [], u => u
  | r :: rs, u => run rs (r.exec u)

end CxlSpeckv.Translation
