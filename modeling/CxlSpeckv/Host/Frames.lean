import CxlSpeckv.Host.PageTable

/-!
# Physical frames of the host allocator

Handle `h` owns the physical stride `[0x4000000000 + h·2^20, 0x4000000000 + (h+1)·2^20)`,
room for 256 pages. While every allocation fits its stride and handles stay below `2^43`,
distinct live pages have disjoint frames, so `access` to two different pages never returns
addresses in one physical page. An allocation of 257 pages reaches the first frame of the
next handle.
-/

namespace CxlSpeckv.Host

open SpeckvAllocator

/-- Distinct live pages occupy disjoint physical ranges `[phys_page_id, phys_page_id + 4096)`. -/
def PhysDisjoint (a : SpeckvAllocator) : Prop :=
  ∀ h₁ i₁ p₁ h₂ i₂ p₂, LivePage a h₁ i₁ p₁ → LivePage a h₂ i₂ p₂ → (h₁, i₁) ≠ (h₂, i₂) →
    p₁.physPageId.toNat + 4096 ≤ p₂.physPageId.toNat ∨
      p₂.physPageId.toNat + 4096 ≤ p₁.physPageId.toNat

section Frames

variable {h h₁ h₂ : BitVec 64} {i i₁ i₂ : Nat}

theorem toNat_physPageId (hh : h.toNat < 2 ^ 43) (hi : i < 2 ^ 20) :
    (kvPage h i).physPageId.toNat = 0x4000000000 + h.toNat * 2 ^ 20 + i * 2 ^ 12 := by
  simp (disch := omega) only [kvPage, BitVec.toNat_add, BitVec.toNat_shiftLeft,
    BitVec.natCast_eq_ofNat, BitVec.toNat_ofNat, Nat.shiftLeft_eq, Nat.mod_eq_of_lt]

/-- The frame number of the address `access` returns for page `i` of handle `h`. -/
theorem toNat_access_div (hh : h.toNat < 2 ^ 43) (hi : i < 256) (offset : BitVec 64) :
    ((kvPage h i).physPageId + offset % 4096).toNat / 4096 = 0x4000000 + h.toNat * 256 + i := by
  have hp := toNat_physPageId hh (by omega : i < 2 ^ 20)
  have ho : (offset % 4096).toNat < 4096 := by
    rw [BitVec.toNat_umod]
    exact Nat.mod_lt _ (by decide)
  rw [BitVec.toNat_add, hp, Nat.mod_eq_of_lt (by omega)]
  omega

theorem toNat_ne_or_ne (hne : (h₁, i₁) ≠ (h₂, i₂)) : h₁.toNat ≠ h₂.toNat ∨ i₁ ≠ i₂ := by
  rw [Ne, Prod.mk.injEq, not_and_or] at hne
  exact hne.imp (fun hh e => hh (BitVec.eq_of_toNat_eq e)) id

/-- Within the 256-page stride and below `2^43` handles, distinct pages get frames at least
4 KiB apart. -/
theorem kvPage_phys_disjoint (hh₁ : h₁.toNat < 2 ^ 43) (hh₂ : h₂.toNat < 2 ^ 43) (hi₁ : i₁ < 256)
    (hi₂ : i₂ < 256) (hne : (h₁, i₁) ≠ (h₂, i₂)) :
    (kvPage h₁ i₁).physPageId.toNat + 4096 ≤ (kvPage h₂ i₂).physPageId.toNat ∨
      (kvPage h₂ i₂).physPageId.toNat + 4096 ≤ (kvPage h₁ i₁).physPageId.toNat := by
  have := toNat_ne_or_ne hne
  rw [toNat_physPageId hh₁ (by omega), toNat_physPageId hh₂ (by omega)]
  omega

end Frames

variable {a : SpeckvAllocator}

theorem Shaped.physDisjoint (hs : Shaped 256 a) (hn : a.nextHandle.toNat ≤ 2 ^ 43) :
    PhysDisjoint a := by
  intro h₁ i₁ p₁ h₂ i₂ p₂ hp₁ hp₂ hne
  obtain ⟨rfl, hi₁, hh₁⟩ := hs.livePage hp₁
  obtain ⟨rfl, hi₂, hh₂⟩ := hs.livePage hp₂
  exact kvPage_phys_disjoint (by omega) (by omega) hi₁ hi₂ hne

/-- Over runs with at most 256 pages per allocation and fewer than `2^43` calls, distinct live
pages have disjoint frames, so `access` to two of them returns different physical pages. -/
theorem phys_pages_disjoint_within_stride {rs : List Request} {a : SpeckvAllocator}
    (hs : ∀ r ∈ rs, r.pagesAtMost 256 = true) (hl : rs.length < 2 ^ 43)
    (hr : run rs init = some a) :
    PhysDisjoint a ∧
      ∀ h₁ o₁ b₁ d₁ x₁ a₁ h₂ o₂ b₂ d₂ x₂ a₂ p₁ p₂, LivePage a h₁ (o₁ / 4096).toNat p₁ →
        LivePage a h₂ (o₂ / 4096).toNat p₂ → (h₁, (o₁ / 4096).toNat) ≠ (h₂, (o₂ / 4096).toNat) →
        a.access h₁ o₁ b₁ d₁ = some (x₁, a₁) → a.access h₂ o₂ b₂ d₂ = some (x₂, a₂) →
        x₁.toNat / 4096 ≠ x₂.toNat / 4096 := by
  have h1 : init.nextHandle.toNat = 1 := rfl
  obtain ⟨hsh, hn⟩ := (shaped_init 256).run hs (by omega) hr
  refine ⟨hsh.physDisjoint (by omega), fun h₁ o₁ b₁ d₁ x₁ a₁ h₂ o₂ b₂ d₂ x₂ a₂ p₁ p₂ hp₁ hp₂ hne
    he₁ he₂ => ?_⟩
  rw [(access_spec he₁).2 p₁ hp₁, (access_spec he₂).2 p₂ hp₂]
  obtain ⟨rfl, hi₁, hh₁⟩ := hsh.livePage hp₁
  obtain ⟨rfl, hi₂, hh₂⟩ := hsh.livePage hp₂
  have := toNat_ne_or_ne hne
  rw [toNat_access_div (by omega) hi₁, toNat_access_div (by omega) hi₂]
  omega

theorem phys_pages_disjoint_two_allocs :
    ∃ a, run [.alloc 0x100000, .alloc 4096] init = some a ∧ PhysDisjoint a :=
  ⟨_, rfl, (@phys_pages_disjoint_within_stride [.alloc 0x100000, .alloc 4096] _ (by decide)
    (by decide) rfl).1⟩

/-- 257 pages of handle 1 reach the first frame of handle 2: page 256 of handle 1 and page 0
of handle 2 are both at `0x4000200000`, and `access` returns that address for both. -/
theorem large_allocation_overlaps_next_handle :
    ∃ a, run [.alloc 0x101000, .alloc 4096] init = some a ∧
      LivePage a 1 256 (kvPage 1 256) ∧ LivePage a 2 0 (kvPage 2 0) ∧ ¬ PhysDisjoint a ∧
      (∃ a₁, a.access 1 0x100000 0 ⟨0, [1]⟩ = some (0x4000200000, a₁)) ∧
      ∃ a₂, a.access 2 0 0 ⟨0, [1]⟩ = some (0x4000200000, a₂) := by
  have hp₁ : LivePage ((init.alloc 0x101000).2.alloc 4096).2 1 256 (kvPage 1 256) :=
    livePage_alloc.2 (.inr ⟨by decide, livePage_alloc.2 (.inl ⟨rfl, by decide, rfl⟩)⟩)
  have hp₂ : LivePage ((init.alloc 0x101000).2.alloc 4096).2 2 0 (kvPage 2 0) :=
    livePage_alloc.2 (.inl ⟨rfl, by decide, rfl⟩)
  have hx₁ : (kvPage 1 256).physPageId + 0x100000 % 4096 = 0x4000200000 := by decide
  have hx₂ : (kvPage 2 0).physPageId + 0 % 4096 = 0x4000200000 := by decide
  obtain ⟨a₁, he₁⟩ := access_of_livePage (d := ⟨0, [1]⟩)
    (show LivePage _ 1 ((0x100000 : BitVec 64) / 4096).toNat _ from hp₁) rfl 0
  obtain ⟨a₂, he₂⟩ := access_of_livePage (d := ⟨0, [1]⟩)
    (show LivePage _ 2 ((0 : BitVec 64) / 4096).toNat _ from hp₂) rfl 0
  rw [hx₁] at he₁
  rw [hx₂] at he₂
  exact ⟨_, rfl, hp₁, hp₂, fun hd => absurd (hd _ _ _ _ _ _ hp₁ hp₂ (by decide)) (by decide),
    ⟨a₁, he₁⟩, a₂, he₂⟩

end CxlSpeckv.Host
