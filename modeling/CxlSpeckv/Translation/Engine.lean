import CxlSpeckv.Translation.Walk

/-!
# The cache engine's TLB

`FPGACacheEngine::translate_address` has a direct-mapped TLB of its own, 1024 slots indexed
by the page number. A miss computes the mock walk `0x4000000000 + (va & 0xFFFFFFFFFFFF)`,
returns it as it is and caches its page; a hit adds the offset to the cached page. Every
valid slot holds the walk of its own page in every state the calls reach, so both paths
return the walk, for every address.

## Implementation notes

Only `translate_address` reads or writes `tlb_`, so a run of the engine's TLB is a list of
addresses. The constructor's other arguments and the compression ratios are not read here.
-/

namespace CxlSpeckv.Translation

/-- The engine's `TLBEntry`. -/
structure EngineTLBEntry where
  virtualAddr : BitVec 64
  physicalAddr : BitVec 64
  valid : Bool
  deriving DecidableEq, Repr

/-- A value-initialised `TLBEntry`. -/
def EngineTLBEntry.empty : EngineTLBEntry := ⟨0, 0, false⟩

structure FPGACacheEngine where
  tlb : List EngineTLBEntry
  tlbSize : BitVec 64
  deriving DecidableEq

namespace FPGACacheEngine

/-- The constructor: `tlb_size_ = 1024`, every slot invalid. -/
def new : FPGACacheEngine := ⟨List.replicate 1024 .empty, 1024⟩

def translateAddress (e : FPGACacheEngine) (virtualAddr : BitVec 64) :
    BitVec 64 × FPGACacheEngine :=
  let tlbIndex := ((virtualAddr >>> 12) % e.tlbSize).toNat
  let entry := e.tlb.getD tlbIndex .empty
  if entry.valid ∧ entry.virtualAddr = virtualAddr &&& ~~~(0xFFF : BitVec 64) then
    (entry.physicalAddr + (virtualAddr &&& 0xFFF), e)
  else
    let physicalAddr := 0x4000000000 + (virtualAddr &&& 0xFFFFFFFFFFFF)
    let entry : EngineTLBEntry :=
      ⟨virtualAddr &&& ~~~(0xFFF : BitVec 64), physicalAddr &&& ~~~(0xFFF : BitVec 64), true⟩
    (physicalAddr, { e with tlb := e.tlb.set tlbIndex entry })

/-- The engine after a sequence of `translate_address` calls. -/
def translateAll : List (BitVec 64) → FPGACacheEngine → FPGACacheEngine
  | [], e => e
  | va :: vas, e => translateAll vas (e.translateAddress va).2

/-- Every valid slot holds the walk of its page. -/
def Cached (e : FPGACacheEngine) : Prop :=
  ∀ t ∈ e.tlb, t.valid = true → t.physicalAddr = pageWalk t.virtualAddr

variable {e : FPGACacheEngine} {va : BitVec 64}

/-- The slot an index reads is one of the table's entries, or the empty entry past its end. -/
theorem getD_mem_or_empty (l : List EngineTLBEntry) (i : Nat) :
    l.getD i .empty ∈ l ∨ l.getD i .empty = .empty := by
  rw [List.getD_eq_getElem?_getD]
  cases h : l[i]? with
  | none => exact .inr rfl
  | some t => exact .inl (List.getElem?_mem h)

theorem cached_new : Cached new := by
  intro t ht hv
  rw [new, List.mem_replicate] at ht
  rw [ht.2] at hv
  cases hv

theorem cached_translateAddress (h : Cached e) : Cached (e.translateAddress va).2 := by
  unfold translateAddress
  dsimp only
  split_ifs
  · exact h
  · intro t ht hv
    rcases List.mem_or_eq_of_mem_set ht with ht | rfl
    · exact h t ht hv
    · exact pageWalk_and_not_0xFFF va

theorem Cached.translateAll (h : Cached e) (vas : List (BitVec 64)) : Cached (translateAll vas e) := by
  induction vas generalizing e with
  | nil => exact h
  | cons va vas ih => exact ih (cached_translateAddress h)

/-- In a state whose valid slots hold their walks, a hit and a miss both return the walk. -/
theorem translateAddress_fst (h : Cached e) : (e.translateAddress va).1 = pageWalk va := by
  unfold translateAddress
  dsimp only
  split_ifs with hit
  · have hmem := (getD_mem_or_empty e.tlb _).resolve_right fun he => by
      rw [he] at hit
      cases hit.1
    rw [h _ hmem hit.1, hit.2]
    exact pageWalk_page_add_offset va
  · rfl

/-- For every sequence of `translate_address` calls from the constructor and every address
`va`, `translate_address(va)` returns `0x4000000000 + (va & 0xFFFFFFFFFFFF)`. -/
theorem translate_address_is_page_walk (vas : List (BitVec 64)) (va : BitVec 64) :
    ((translateAll vas new).translateAddress va).1 = 0x4000000000 + (va &&& 0xFFFFFFFFFFFF) :=
  translateAddress_fst (cached_new.translateAll vas)

end FPGACacheEngine

end CxlSpeckv.Translation
