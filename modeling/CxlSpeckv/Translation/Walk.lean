import CxlSpeckv.Translation.Unit

/-!
# What `translate` returns

Every valid slot of the TLB holds the page walk of its page, in every state reachable
from the constructor, so a hit returns `page_walk(va & ~0xFFF) + (va & 0xFFF)`, which is
`page_walk(va)`. A miss returns `page_walk(va) + (va & 0xFFF)`: `page_walk` already keeps
the offset, and the miss path adds it again.
-/

namespace CxlSpeckv.Translation

open AddressTranslationUnit

section Masks

theorem and_not_0xFFF (x : BitVec 64) : x &&& ~~~(0xFFF : BitVec 64) = x >>> 12 <<< 12 := by
  ext i
  have h : (0xFFF : BitVec 64) = BitVec.ofNat 64 (2 ^ 12 - 1) := rfl
  simp only [BitVec.getLsbD_and, BitVec.getLsbD_not, BitVec.getLsbD_shiftLeft,
    BitVec.getLsbD_ushiftRight, h, BitVec.getLsbD_ofNat, Nat.testBit_two_pow_sub_one]
  by_cases hi : (i : Nat) < 12
  · simp [hi]
  · simp [hi, show 12 + ((i : Nat) - 12) = i by omega]

theorem toNat_virtualPageOf (x : BitVec 64) :
    (virtualPageOf x).toNat = x.toNat / 4096 * 4096 := by
  rw [virtualPageOf, and_not_0xFFF, BitVec.toNat_shiftLeft, BitVec.toNat_ushiftRight,
    Nat.shiftLeft_eq, Nat.shiftRight_eq_div_pow]
  have := x.isLt
  have := Nat.div_mul_le_self x.toNat 4096
  exact Nat.mod_eq_of_lt (by omega)

theorem toNat_and_low_mask (x : BitVec 64) (n : Nat) (h : n ≤ 64) :
    (x &&& BitVec.ofNat 64 (2 ^ n - 1)).toNat = x.toNat % 2 ^ n := by
  have := Nat.pow_le_pow_right (by decide : 0 < 2) h
  rw [BitVec.toNat_and, BitVec.toNat_ofNat, Nat.mod_eq_of_lt (by omega),
    Nat.and_pow_two_sub_one_eq_mod]

theorem toNat_pageOffset (x : BitVec 64) : (x &&& 0xFFF).toNat = x.toNat % 4096 :=
  toNat_and_low_mask x 12 (by decide)

theorem toNat_pageWalk (x : BitVec 64) : (pageWalk x).toNat = 0x4000000000 + x.toNat % 2 ^ 48 := by
  have h := toNat_and_low_mask x 48 (by decide)
  rw [pageWalk, BitVec.toNat_add, show (0xFFFFFFFFFFFF : BitVec 64) = .ofNat 64 (2 ^ 48 - 1) from rfl,
    h, show (0x4000000000 : BitVec 64).toNat = 0x4000000000 from rfl]
  exact Nat.mod_eq_of_lt (by omega)

/-- A miss installs the walk of the page. -/
theorem pageWalk_and_not_0xFFF (x : BitVec 64) :
    pageWalk x &&& ~~~(0xFFF : BitVec 64) = pageWalk (virtualPageOf x) := by
  apply BitVec.eq_of_toNat_eq
  rw [← virtualPageOf, toNat_virtualPageOf, toNat_pageWalk, toNat_pageWalk, toNat_virtualPageOf]
  omega

/-- The walk of an address is the walk of its page plus the offset. -/
theorem pageWalk_page_add_offset (x : BitVec 64) :
    pageWalk (virtualPageOf x) + (x &&& 0xFFF) = pageWalk x := by
  apply BitVec.eq_of_toNat_eq
  rw [BitVec.toNat_add, toNat_pageWalk, toNat_pageWalk, toNat_virtualPageOf, toNat_pageOffset]
  omega

end Masks

/-- Every valid slot holds the page walk of its page. -/
def Cached (u : AddressTranslationUnit) : Prop :=
  ∀ e ∈ u.tlb, e.valid = true → e.physicalPage = pageWalk e.virtualPage

variable {u : AddressTranslationUnit} {va : BitVec 64}

theorem cached_new (tlbSize : BitVec 64) : Cached (new tlbSize) := by
  intro e he hv
  rw [new, List.mem_replicate] at he
  rw [he.2] at hv
  cases hv

theorem Cached.set (h : Cached u) {i : Nat} {e : TLBEntry}
    (he : e.valid = true → e.physicalPage = pageWalk e.virtualPage) :
    ∀ e' ∈ u.tlb.set i e, e'.valid = true → e'.physicalPage = pageWalk e'.virtualPage := by
  intro e' h' hv
  rcases List.mem_or_eq_of_mem_set h' with h' | rfl
  exacts [h e' h' hv, he hv]

/-- The slot an address reads is one of the table's entries, or the empty entry when the
index is past the table. -/
theorem entryFor_mem (u : AddressTranslationUnit) (va : BitVec 64) :
    u.entryFor va ∈ u.tlb ∨ u.entryFor va = .empty := by
  unfold entryFor
  rw [List.getD_eq_getElem?_getD]
  cases h : u.tlb[u.tlbIndex (virtualPageOf va)]? with
  | none => exact .inr rfl
  | some e => exact .inl (List.getElem?_mem h)

theorem cached_translate (h : Cached u) : Cached (u.translate va).2 := by
  unfold AddressTranslationUnit.translate
  dsimp only
  split_ifs
  · exact h
  · exact h.set fun _ => pageWalk_and_not_0xFFF va

theorem cached_invalidate (h : Cached u) : Cached (u.invalidate va) := by
  unfold invalidate
  dsimp only
  split_ifs
  · exact h.set fun hv => by cases hv
  · exact h

theorem cached_invalidateAll (u : AddressTranslationUnit) : Cached u.invalidateAll := by
  intro e he hv
  obtain ⟨e', -, rfl⟩ := List.mem_map.1 he
  cases hv

theorem Cached.run (h : Cached u) (rs : List Request) : Cached (run rs u) := by
  induction rs generalizing u with
  | nil => exact h
  | cons r rs ih =>
      apply ih
      cases r with
      | translate va => exact cached_translate h
      | invalidate va => exact cached_invalidate h
      | invalidateAll => exact cached_invalidateAll u
      | resetStatistics => exact h

/-- `translate` returns the page walk, plus the offset a second time on a miss. -/
theorem translate_fst (h : Cached u) :
    (u.translate va).1 = pageWalk va + (if u.tlbHit va then 0 else va &&& 0xFFF) := by
  unfold AddressTranslationUnit.translate tlbHit
  dsimp only
  by_cases hit : (u.entryFor va).valid = true ∧ (u.entryFor va).virtualPage = virtualPageOf va
  · have hmem := (entryFor_mem u va).resolve_right fun he => by simp [he, TLBEntry.empty] at hit
    rw [if_pos hit, h _ hmem hit.1, hit.2, pageWalk_page_add_offset]
    simp [hit]
  · rw [if_neg hit]
    simp only [Bool.and_eq_true, beq_iff_eq] at hit ⊢
    rw [if_neg hit]

/-- The table has one slot per entry of `tlb_size_`. -/
def Sized (u : AddressTranslationUnit) : Prop := u.tlb.length = u.tlbSize.toNat

theorem Sized.exec (h : Sized u) (r : Request) : Sized (r.exec u) := by
  cases r with
  | translate va =>
      unfold Sized Request.exec AddressTranslationUnit.translate
      dsimp only
      split_ifs
      · exact h
      · exact (List.length_set ..).trans h
  | invalidate va =>
      unfold Sized Request.exec invalidate
      dsimp only
      split_ifs
      · exact (List.length_set ..).trans h
      · exact h
  | invalidateAll => exact (List.length_map ..).trans h
  | resetStatistics => exact h

theorem Sized.run (h : Sized u) (rs : List Request) : Sized (run rs u) := by
  induction rs generalizing u with
  | nil => exact h
  | cons r rs ih => exact ih (h.exec r)

theorem tlbIndex_lt (h : Sized u) (hpos : 0 < u.tlbSize.toNat) (p : BitVec 64) :
    u.tlbIndex p < u.tlb.length := by
  rw [h, tlbIndex, BitVec.toNat_umod]
  exact Nat.mod_lt _ hpos

/-- Right after `translate`, the address's page hits. -/
theorem tlbHit_translate (h : Sized u) (hpos : 0 < u.tlbSize.toNat) :
    (u.translate va).2.tlbHit va = true := by
  have hi : ((virtualPageOf va >>> 12) % u.tlbSize).toNat < u.tlb.length :=
    tlbIndex_lt h hpos _
  unfold AddressTranslationUnit.translate
  dsimp only
  split_ifs with hit
  · simpa [tlbHit] using hit
  · simp only [tlbHit, entryFor, tlbIndex]
    rw [List.getD_eq_getElem?_getD, List.getElem?_set_self hi]
    simp

theorem tlbSize_run (rs : List Request) : (run rs u).tlbSize = u.tlbSize := by
  induction rs generalizing u with
  | nil => rfl
  | cons r rs ih =>
      refine (ih).trans ?_
      cases r <;> simp only [Request.exec, AddressTranslationUnit.translate, invalidate, invalidateAll,
        resetStatistics]
      all_goals split_ifs <;> rfl

/-- After any run, `translate` returns the page walk of `va` on a hit and that plus the page
offset on a miss; a second call right after it hits. -/
theorem translate_adds_offset_on_miss (tlbSize : BitVec 64) (rs : List Request)
    (va : BitVec 64) :
    let u := run rs (new tlbSize)
    (u.translate va).1 =
        pageWalk (virtualPageOf va) + (va &&& 0xFFF) +
          (if u.tlbHit va then 0 else va &&& 0xFFF) ∧
      (0 < tlbSize.toNat →
        ((u.translate va).2.translate va).1 = pageWalk (virtualPageOf va) + (va &&& 0xFFF)) := by
  intro u
  have hc : Cached u := (cached_new tlbSize).run rs
  have hs : Sized u := Sized.run (u := new tlbSize) (List.length_replicate ..) rs
  refine ⟨by rw [translate_fst hc, pageWalk_page_add_offset], fun hpos => ?_⟩
  rw [translate_fst (cached_translate hc), tlbHit_translate hs (by rwa [tlbSize_run]), if_pos rfl,
    pageWalk_page_add_offset]
  simp

theorem translate_one_twice :
    0 < (1024 : BitVec 64).toNat ∧
      ((new.translate 1).2.translate 1).1 = pageWalk (virtualPageOf 1) + (1 &&& 0xFFF) ∧
      (new.translate 1).1 = 0x4000000002 ∧ pageWalk (virtualPageOf 1) + (1 &&& 0xFFF) = 0x4000000001 :=
  ⟨by decide, (translate_adds_offset_on_miss 1024 [] 1).2 (by decide), by decide, by decide⟩

/-- From the constructor, after any run, every valid TLB slot holds the page walk of its
page. -/
theorem tlb_entries_cache_page_walk (tlbSize : BitVec 64) (rs : List Request) :
    Cached (run rs (new tlbSize)) :=
  (cached_new tlbSize).run rs

/-- Translating `0x1234` on a four-slot TLB fills slot 1 with the walk of page `0x1000`. -/
theorem tlb_slot_after_translate :
    (⟨0x1000, 0x4000001000, true⟩ : TLBEntry) ∈ (run [.translate 0x1234] (new 4)).tlb ∧
      (0x4000001000 : BitVec 64) = pageWalk 0x1000 :=
  ⟨by decide, tlb_entries_cache_page_walk 4 [.translate 0x1234] ⟨0x1000, 0x4000001000, true⟩
    (by decide) rfl⟩

end CxlSpeckv.Translation
