import CxlSpeckv.Host.Allocator

/-!
# The page table mirrors the live pages

Handle `h` gives its page `i` the virtual id `h·2^32 + i·2^12`, so below `2^32` handles and
`2^20` pages per allocation no two pages share a key. Within those bounds `page_table_`
holds exactly the live pages, one entry each under its own id, and `free` erases exactly the
freed allocation's entries. An allocation of `2^20` pages or more gives two pages one key,
so a later `free` can erase the entry of another live allocation.

## Implementation notes

The flags of a page are kept in `page_table_` only; the copy in the allocation's page list
keeps the flags `alloc` gave it. So "the same page" compares the ids and the size, not the
flags. Every statement about a run starts from `Shaped`, which says what `alloc` built for
each live handle, and `exec_cases`, which says what one call can do.
-/
namespace CxlSpeckv.Host

open SpeckvAllocator

/-- Page `i` of the live allocation `h` is `p`. -/
def LivePage (a : SpeckvAllocator) (h : BitVec 64) (i : Nat) (p : KvPageHandle) : Prop :=
  ∃ al, a.allocs.lookup h = some al ∧ al.pages[i]? = some p

/-- What identifies a page: its ids and its size, not its flags. -/
def KvPageHandle.frame (p : KvPageHandle) : BitVec 64 × BitVec 64 × BitVec 32 :=
  (p.virtPageId, p.physPageId, p.pageSize)

/-- `page_table_` holds one entry for each live page, under the page's `virt_page_id` and
describing that page, and no other entry. -/
structure TableExact (a : SpeckvAllocator) : Prop where
  live_mem : ∀ h i p, LivePage a h i p →
    ∃ q, a.pageTable.lookup p.virtPageId = some q ∧ q.frame = p.frame
  mem_live : ∀ k q, a.pageTable.lookup k = some q →
    ∃ h i p, LivePage a h i p ∧ p.virtPageId = k ∧ q.frame = p.frame

/-- Whether an `alloc` of the call creates at most `maxPages` pages. -/
def Request.pagesAtMost (maxPages : Nat) : Request → Bool
  | .alloc bytes => decide ((numPages bytes).toNat ≤ maxPages)
  | _ => true

section Keys

/-- The two halves of a virtual id occupy disjoint bits. -/
theorem virt_and_eq_zero (h : BitVec 64) {i : Nat} (hi : i < 2 ^ 20) :
    (h <<< 32) &&& (BitVec.ofNat 64 i <<< 12) = 0 := by
  ext j
  simp only [BitVec.getLsbD_and, BitVec.getLsbD_shiftLeft, BitVec.getLsbD_ofNat]
  by_cases hj : (j : Nat) < 32
  · simp [hj]
  · have : i.testBit (j - 12) = false :=
      Nat.testBit_lt_two_pow (lt_of_lt_of_le hi (Nat.pow_le_pow_right (by decide) (by omega)))
    simp [this]

theorem toNat_virtPageId {h : BitVec 64} {i : Nat} (hh : h.toNat < 2 ^ 32) (hi : i < 2 ^ 20) :
    (kvPage h i).virtPageId.toNat = h.toNat * 2 ^ 32 + i * 2 ^ 12 := by
  have hz := virt_and_eq_zero h hi
  simp only [kvPage]
  rw [← BitVec.add_eq_or_of_and_eq_zero _ _ hz, BitVec.toNat_add_of_and_eq_zero hz]
  simp (disch := omega) only [BitVec.toNat_shiftLeft, BitVec.toNat_ofNat, Nat.shiftLeft_eq,
    Nat.mod_eq_of_lt]

/-- Below `2^32` handles and `2^20` pages, a virtual id names one page. -/
theorem kvPage_virtPageId_inj {h₁ h₂ : BitVec 64} {i₁ i₂ : Nat} (hh₁ : h₁.toNat < 2 ^ 32)
    (hh₂ : h₂.toNat < 2 ^ 32) (hi₁ : i₁ < 2 ^ 20) (hi₂ : i₂ < 2 ^ 20)
    (heq : (kvPage h₁ i₁).virtPageId = (kvPage h₂ i₂).virtPageId) : h₁ = h₂ ∧ i₁ = i₂ := by
  have := congrArg BitVec.toNat heq
  rw [toNat_virtPageId hh₁ hi₁, toNat_virtPageId hh₂ hi₂] at this
  exact ⟨BitVec.eq_of_toNat_eq (by omega), by omega⟩

end Keys

section Table

variable {t : KvPageTable} {handle k : BitVec 64} {n : Nat} {q : KvPageHandle}

/-- Every entry after the loop of `alloc` is one of its pages, under its own id, or an old
entry. -/
theorem lookup_insertKvPages (hq : (insertKvPages t handle n).lookup k = some q) :
    (∃ i < n, q = kvPage handle i ∧ k = (kvPage handle i).virtPageId) ∨ t.lookup k = some q := by
  induction n with
  | zero => exact .inr hq
  | succ n ih =>
      rw [insertKvPages] at hq
      by_cases hk : k = (kvPage handle n).virtPageId
      · subst hk
        rw [AList.lookup_insert] at hq
        exact .inl ⟨n, Nat.lt_succ_self n, (Option.some.inj hq).symm, rfl⟩
      · rw [AList.lookup_insert_ne hk] at hq
        obtain ⟨i, hi, hp⟩ | hq := ih hq
        · exact .inl ⟨i, Nat.lt_succ_of_lt hi, hp⟩
        · exact .inr hq

theorem lookup_insertKvPages_of_forall_ne (hk : ∀ i < n, k ≠ (kvPage handle i).virtPageId) :
    (insertKvPages t handle n).lookup k = t.lookup k := by
  induction n with
  | zero => rfl
  | succ n ih =>
      rw [insertKvPages, AList.lookup_insert_ne (hk n (Nat.lt_succ_self n)),
        ih fun i hi => hk i (Nat.lt_succ_of_lt hi)]

/-- A page whose id no other page of the loop shares is found under that id. -/
theorem lookup_insertKvPages_self {i : Nat} (hi : i < n)
    (hinj : ∀ j < n, (kvPage handle j).virtPageId = (kvPage handle i).virtPageId → j = i) :
    (insertKvPages t handle n).lookup (kvPage handle i).virtPageId = some (kvPage handle i) := by
  induction n with
  | zero => cases hi
  | succ n ih =>
      rw [insertKvPages]
      by_cases hin : i = n
      · subst hin
        exact AList.lookup_insert _
      · have hne : (kvPage handle i).virtPageId ≠ (kvPage handle n).virtPageId :=
          fun heq => hin (hinj n (Nat.lt_succ_self n) heq.symm).symm
        rw [AList.lookup_insert_ne hne]
        exact ih (by omega) fun j hj => hinj j (Nat.lt_succ_of_lt hj)

theorem lookup_erasePages (ps : List KvPageHandle) :
    (erasePages t ps).lookup k = if k ∈ ps.map (·.virtPageId) then none else t.lookup k := by
  induction ps generalizing t with
  | nil => simp [erasePages]
  | cons p ps ih =>
      simp only [erasePages, List.foldl_cons] at ih ⊢
      rw [ih]
      by_cases hk : k = p.virtPageId
      · subst hk
        simp [AList.lookup_erase]
      · simp [hk, AList.lookup_erase_ne hk]

end Table

variable {a a' : SpeckvAllocator} {M : Nat}

/-- Every live allocation holds the pages `alloc` built for its handle, at most `maxPages` of
them, and its handle lies below `next_handle_`. -/
structure Shaped (maxPages : Nat) (a : SpeckvAllocator) : Prop where
  pages_eq : ∀ h al, a.allocs.lookup h = some al →
    al.pages = (List.range al.pages.length).map (kvPage h)
  length_le : ∀ h al, a.allocs.lookup h = some al → al.pages.length ≤ maxPages
  handle_lt : ∀ h al, a.allocs.lookup h = some al → h.toNat < a.nextHandle.toNat

theorem shaped_init (maxPages : Nat) : Shaped maxPages init where
  pages_eq h al hl := by simp [init, AList.lookup_empty] at hl
  length_le h al hl := by simp [init, AList.lookup_empty] at hl
  handle_lt h al hl := by simp [init, AList.lookup_empty] at hl

theorem tableExact_init : TableExact init where
  live_mem h i p := fun ⟨al, hl, _⟩ => by simp [init, AList.lookup_empty] at hl
  mem_live k q hq := by simp [init, AList.lookup_empty] at hq

/-- A live page is the page `alloc` built at its index. -/
theorem Shaped.livePage (hs : Shaped M a) {h : BitVec 64} {i : Nat} {p : KvPageHandle}
    (hp : LivePage a h i p) : p = kvPage h i ∧ i < M ∧ h.toNat < a.nextHandle.toNat := by
  obtain ⟨al, hl, hi⟩ := hp
  have hlen := (List.getElem?_eq_some_iff.1 hi).1
  rw [hs.pages_eq h al hl, List.getElem?_map, List.getElem?_range (by simpa using hlen)] at hi
  exact ⟨(Option.some.inj hi).symm, lt_of_lt_of_le hlen (hs.length_le h al hl),
    hs.handle_lt h al hl⟩

theorem livePage_iff {h : BitVec 64} {i : Nat} {p : KvPageHandle} {al : Allocation}
    (hl : a.allocs.lookup h = some al) : LivePage a h i p ↔ al.pages[i]? = some p := by
  refine ⟨fun ⟨al', hl', hp⟩ => ?_, fun hp => ⟨al, hl, hp⟩⟩
  rw [hl] at hl'
  exact Option.some.inj hl' ▸ hp

section Steps

variable {bytes : BitVec 64}

@[simp] theorem alloc_allocs :
    (a.alloc bytes).2.allocs =
      a.allocs.insert a.nextHandle ⟨bytes, (List.range (numPages bytes).toNat).map (kvPage a.nextHandle)⟩ :=
  rfl

@[simp] theorem alloc_pageTable :
    (a.alloc bytes).2.pageTable = insertKvPages a.pageTable a.nextHandle (numPages bytes).toNat :=
  rfl

@[simp] theorem alloc_nextHandle : (a.alloc bytes).2.nextHandle = a.nextHandle + 1 := rfl

/-- The live pages after `alloc`: the new handle's pages and the old live pages. -/
theorem livePage_alloc {h : BitVec 64} {i : Nat} {p : KvPageHandle} :
    LivePage (a.alloc bytes).2 h i p ↔
      (h = a.nextHandle ∧ i < (numPages bytes).toNat ∧ p = kvPage h i) ∨
        (h ≠ a.nextHandle ∧ LivePage a h i p) := by
  by_cases hh : h = a.nextHandle
  · subst hh
    rw [livePage_iff (by rw [alloc_allocs, AList.lookup_insert])]
    simp only [List.getElem?_map, true_and, ne_eq, not_true_eq_false, false_and, or_false]
    constructor
    · intro hp
      obtain ⟨j, hj, rfl⟩ := Option.map_eq_some'.1 hp
      obtain ⟨hi, hj⟩ := List.getElem?_eq_some_iff.1 hj
      rw [List.getElem_range] at hj
      exact ⟨by simpa using hi, by rw [hj]⟩
    · rintro ⟨hi, rfl⟩
      rw [List.getElem?_range hi]
      rfl
  · simp only [hh, false_and, ne_eq, not_false_eq_true, true_and, false_or]
    exact ⟨fun ⟨al, hl, hp⟩ => ⟨al, by rwa [alloc_allocs, AList.lookup_insert_ne hh] at hl, hp⟩,
      fun ⟨al, hl, hp⟩ => ⟨al, by rwa [alloc_allocs, AList.lookup_insert_ne hh], hp⟩⟩

/-- The live pages after `free h₀`: the live pages of the other handles. -/
theorem livePage_free {h₀ h : BitVec 64} {i : Nat} {p : KvPageHandle} :
    LivePage (a.free h₀) h i p ↔ (a.allocs.lookup h₀ = none ∨ h ≠ h₀) ∧ LivePage a h i p := by
  unfold free
  cases h0 : a.allocs.lookup h₀ with
  | none => simp
  | some al =>
      simp only [reduceCtorEq, false_or]
      by_cases hh : h = h₀
      · subst hh
        simp only [ne_eq, not_true_eq_false, false_and, iff_false]
        rintro ⟨al', hl', -⟩
        simp [AList.lookup_erase] at hl'
      · simp only [ne_eq, hh, not_false_eq_true, true_and, LivePage]
        rw [AList.lookup_erase_ne hh]

theorem Shaped.alloc (hs : Shaped M a) (hn : (numPages bytes).toNat ≤ M)
    (hnext : a.nextHandle.toNat + 1 < 2 ^ 64) : Shaped M (a.alloc bytes).2 := by
  have hsucc : (a.nextHandle + 1).toNat = a.nextHandle.toNat + 1 := by
    rw [BitVec.toNat_add, show (1 : BitVec 64).toNat = 1 from rfl, Nat.mod_eq_of_lt hnext]
  refine ⟨fun h al hl => ?_, fun h al hl => ?_, fun h al hl => ?_⟩ <;>
    rw [alloc_allocs] at hl <;> by_cases hh : h = a.nextHandle
  · subst hh
    rw [AList.lookup_insert] at hl
    cases hl
    simp
  · rw [AList.lookup_insert_ne hh] at hl
    exact hs.pages_eq h al hl
  · subst hh
    rw [AList.lookup_insert] at hl
    cases hl
    simpa using hn
  · rw [AList.lookup_insert_ne hh] at hl
    exact hs.length_le h al hl
  · subst hh
    rw [alloc_nextHandle, hsucc]
    omega
  · rw [AList.lookup_insert_ne hh] at hl
    rw [alloc_nextHandle, hsucc]
    exact Nat.lt_succ_of_lt (hs.handle_lt h al hl)

theorem Shaped.free (hs : Shaped M a) (h₀ : BitVec 64) : Shaped M (a.free h₀) := by
  unfold SpeckvAllocator.free
  split
  · exact hs
  · have hl' : ∀ h al, (a.allocs.erase h₀).lookup h = some al → a.allocs.lookup h = some al :=
      fun h al hl => by
        by_cases hh : h = h₀
        · subst hh; simp [AList.lookup_erase] at hl
        · rwa [AList.lookup_erase_ne hh] at hl
    exact ⟨fun h al hl => hs.pages_eq h al (hl' h al hl),
      fun h al hl => hs.length_le h al (hl' h al hl),
      fun h al hl => hs.handle_lt h al (hl' h al hl)⟩

@[simp] theorem free_nextHandle {h₀ : BitVec 64} : (a.free h₀).nextHandle = a.nextHandle := by
  unfold SpeckvAllocator.free; split <;> rfl

theorem free_of_lookup_none {h₀ : BitVec 64} (hl : a.allocs.lookup h₀ = none) : a.free h₀ = a := by
  simp only [SpeckvAllocator.free, hl]

/-- `free h₀` erases the key of every page of `h₀`. -/
theorem lookup_free_of_livePage {h₀ : BitVec 64} {i : Nat} {p : KvPageHandle}
    (hp : LivePage a h₀ i p) : (a.free h₀).pageTable.lookup p.virtPageId = none := by
  obtain ⟨al, hl, hi⟩ := hp
  simp only [SpeckvAllocator.free, hl]
  rw [lookup_erasePages, if_pos (List.mem_map_of_mem _ (List.mem_iff_getElem?.2 ⟨i, hi⟩))]

/-- `free h₀` keeps the entry under every key that no page of `h₀` has. -/
theorem lookup_free_of_forall_ne {h₀ k : BitVec 64}
    (hk : ∀ i p, LivePage a h₀ i p → p.virtPageId ≠ k) :
    (a.free h₀).pageTable.lookup k = a.pageTable.lookup k := by
  cases hl : a.allocs.lookup h₀ with
  | none => rw [free_of_lookup_none hl]
  | some al =>
      simp only [SpeckvAllocator.free, hl]
      rw [lookup_erasePages, if_neg]
      intro hm
      obtain ⟨p, hp, rfl⟩ := List.mem_map.1 hm
      obtain ⟨i, hi⟩ := List.mem_iff_getElem?.1 hp
      exact hk i p ⟨al, hl, hi⟩ rfl

end Steps

/-- Both tables describe the same pages under the same keys; only flags may differ. -/
def FlagsOnly (a a' : SpeckvAllocator) : Prop :=
  a'.allocs = a.allocs ∧ a'.nextHandle = a.nextHandle ∧
    ∀ k, (a'.pageTable.lookup k).map KvPageHandle.frame = (a.pageTable.lookup k).map KvPageHandle.frame

theorem FlagsOnly.refl (a : SpeckvAllocator) : FlagsOnly a a := ⟨rfl, rfl, fun _ => rfl⟩

theorem syncFetchPage_flagsOnly {k : BitVec 64} {d : DriverAnswers}
    (h : syncFetchPage a k d = some a') : FlagsOnly a a' := by
  unfold syncFetchPage at h
  split at h
  · cases h; exact .refl a
  · next p hp =>
      split_ifs at h
      cases h
      refine ⟨rfl, rfl, fun k' => ?_⟩
      by_cases hk : k' = k
      · subst hk
        rw [AList.lookup_insert, hp]
        rfl
      · rw [AList.lookup_insert_ne hk]

/-- `access` returns the address in its page's physical frame, and changes at most flags. -/
theorem access_spec {h offset bytes x : BitVec 64} {d : DriverAnswers}
    (he : a.access h offset bytes d = some (x, a')) :
    FlagsOnly a a' ∧ ∀ p, LivePage a h (offset / 4096).toNat p → x = p.physPageId + offset % 4096 := by
  unfold access at he
  split at he
  · next hl =>
      cases he
      exact ⟨.refl a, fun p ⟨al, hl', _⟩ => by rw [hl] at hl'; cases hl'⟩
  · next al hl =>
      dsimp only at he
      split at he
      · next hi =>
          obtain ⟨a'', hf, he⟩ := Option.map_eq_some'.1 he
          cases he
          refine ⟨?_, fun p hp => ?_⟩
          · split at hf
            · cases hf; exact .refl a
            · exact syncFetchPage_flagsOnly hf
          · rw [livePage_iff hl, List.getElem?_eq_getElem hi] at hp
            rw [← Option.some.inj hp]
            rfl
      · next hi =>
          cases he
          refine ⟨.refl a, fun p hp => ?_⟩
          rw [livePage_iff hl] at hp
          exact absurd (List.getElem?_eq_some_iff.1 hp).1 hi

theorem syncFetchPage_isSome {k : BitVec 64} {d : DriverAnswers}
    (hd : d.pollComplete.any (· != 0) = true) : (syncFetchPage a k d).isSome := by
  unfold syncFetchPage
  split
  · rfl
  · rw [if_pos hd]; rfl

/-- When the driver completes, `access` returns, whatever the flags of the page. -/
theorem access_isSome {h offset bytes : BitVec 64} {d : DriverAnswers}
    (hd : d.pollComplete.any (· != 0) = true) : (a.access h offset bytes d).isSome := by
  unfold access
  split
  · rfl
  · dsimp only
    split
    · rw [Option.isSome_map']
      split
      · rfl
      · exact syncFetchPage_isSome hd
    · rfl

/-- When the driver completes, `access` to a live page returns its frame plus the offset. -/
theorem access_of_livePage {h offset : BitVec 64} {d : DriverAnswers} {p : KvPageHandle}
    (hp : LivePage a h (offset / 4096).toNat p) (hd : d.pollComplete.any (· != 0) = true)
    (bytes : BitVec 64) :
    ∃ a', a.access h offset bytes d = some (p.physPageId + offset % 4096, a') := by
  obtain ⟨⟨x, a'⟩, he⟩ : ∃ v, a.access h offset bytes d = some v :=
    Option.isSome_iff_exists.1 (access_isSome hd)
  exact ⟨a', by rw [he, (access_spec he).2 p hp]⟩

/-- What one call that returns can do: `alloc`, `free`, or a change of flags only. -/
theorem exec_cases {r : Request} (he : r.exec a = some a') :
    (∃ bytes, r = .alloc bytes ∧ a' = (a.alloc bytes).2) ∨
      (∃ h, r = .free h ∧ a' = a.free h) ∨ FlagsOnly a a' := by
  cases r with
  | alloc bytes => cases he; exact .inl ⟨bytes, rfl, rfl⟩
  | free h => cases he; exact .inr (.inl ⟨h, rfl, rfl⟩)
  | access h offset bytes d =>
      obtain ⟨⟨x, a''⟩, hx, rfl⟩ := Option.map_eq_some'.1 he
      exact .inr (.inr (access_spec hx).1)

theorem Shaped.flagsOnly (hs : Shaped M a) (hf : FlagsOnly a a') : Shaped M a' := by
  obtain ⟨ha, hn, -⟩ := hf
  refine ⟨fun h al hl => ?_, fun h al hl => ?_, fun h al hl => ?_⟩ <;> rw [ha] at hl
  · exact hs.pages_eq h al hl
  · exact hs.length_le h al hl
  · rw [hn]; exact hs.handle_lt h al hl

/-- One call keeps the shape and moves `next_handle_` up by at most one. -/
theorem Shaped.exec {r : Request} (hs : Shaped M a) (hr : r.pagesAtMost M = true)
    (hnext : a.nextHandle.toNat + 1 < 2 ^ 64) (he : r.exec a = some a') :
    Shaped M a' ∧ a'.nextHandle.toNat ≤ a.nextHandle.toNat + 1 := by
  rcases exec_cases he with ⟨bytes, rfl, rfl⟩ | ⟨h, rfl, rfl⟩ | hf
  · refine ⟨hs.alloc (of_decide_eq_true hr) hnext, ?_⟩
    rw [alloc_nextHandle, BitVec.toNat_add]
    exact Nat.mod_le _ _
  · exact ⟨hs.free h, by rw [free_nextHandle]; exact Nat.le_succ _⟩
  · exact ⟨hs.flagsOnly hf, hf.2.1 ▸ Nat.le_succ _⟩

theorem Shaped.run {rs : List Request} (hs : Shaped M a)
    (hrs : ∀ r ∈ rs, r.pagesAtMost M = true) (hnext : a.nextHandle.toNat + rs.length < 2 ^ 64)
    (hr : run rs a = some a') :
    Shaped M a' ∧ a'.nextHandle.toNat ≤ a.nextHandle.toNat + rs.length := by
  induction rs generalizing a with
  | nil => cases hr; exact ⟨hs, Nat.le_add_right _ _⟩
  | cons r rs ih =>
      obtain ⟨a₁, h₁, hr⟩ := Option.bind_eq_some.1 hr
      simp only [List.length_cons] at hnext ⊢
      obtain ⟨hs₁, hn₁⟩ := hs.exec (hrs r (List.mem_cons_self _ _)) (by omega) h₁
      obtain ⟨hs', hn'⟩ := ih hs₁ (fun r' h' => hrs r' (List.mem_cons_of_mem _ h')) (by omega) hr
      exact ⟨hs', by omega⟩

section Exact

/-- Distinct live pages have distinct keys. -/
def KeysDistinct (a : SpeckvAllocator) : Prop :=
  ∀ h₁ i₁ p₁ h₂ i₂ p₂, LivePage a h₁ i₁ p₁ → LivePage a h₂ i₂ p₂ →
    p₁.virtPageId = p₂.virtPageId → h₁ = h₂ ∧ i₁ = i₂

theorem Shaped.keysDistinct (hs : Shaped (2 ^ 20) a) (hn : a.nextHandle.toNat ≤ 2 ^ 32) :
    KeysDistinct a := by
  intro h₁ i₁ p₁ h₂ i₂ p₂ hp₁ hp₂ heq
  obtain ⟨rfl, hi₁, hh₁⟩ := hs.livePage hp₁
  obtain ⟨rfl, hi₂, hh₂⟩ := hs.livePage hp₂
  exact kvPage_virtPageId_inj (by omega) (by omega) hi₁ hi₂ heq

variable {bytes : BitVec 64}

/-- A fresh handle below `2^32` with fewer than `2^20` pages adds one entry per new page and
shadows no old one. -/
theorem TableExact.alloc (ht : TableExact a) (hs : Shaped (2 ^ 20) a)
    (hn : a.nextHandle.toNat < 2 ^ 32) (hb : (numPages bytes).toNat ≤ 2 ^ 20) :
    TableExact (a.alloc bytes).2 := by
  have hnew : ∀ i < (numPages bytes).toNat, ∀ j < (numPages bytes).toNat,
      (kvPage a.nextHandle j).virtPageId = (kvPage a.nextHandle i).virtPageId → j = i :=
    fun i hi j hj heq => (kvPage_virtPageId_inj hn hn (by omega) (by omega) heq).2
  have hold : ∀ h i p, LivePage a h i p →
      ∀ j < (numPages bytes).toNat, p.virtPageId ≠ (kvPage a.nextHandle j).virtPageId := by
    intro h i p hp j hj heq
    obtain ⟨rfl, hi, hh⟩ := hs.livePage hp
    obtain ⟨rfl, -⟩ := kvPage_virtPageId_inj (by omega) hn hi (by omega) heq
    exact lt_irrefl _ hh
  constructor
  · intro h i p hp
    rcases livePage_alloc.1 hp with ⟨rfl, hi, rfl⟩ | ⟨-, hp⟩
    · exact ⟨_, lookup_insertKvPages_self hi (hnew i hi), rfl⟩
    · rw [alloc_pageTable, lookup_insertKvPages_of_forall_ne (hold h i p hp)]
      exact ht.live_mem h i p hp
  · intro k q hq
    rw [alloc_pageTable] at hq
    rcases lookup_insertKvPages hq with ⟨i, hi, rfl, rfl⟩ | hq
    · exact ⟨a.nextHandle, i, _, livePage_alloc.2 (.inl ⟨rfl, hi, rfl⟩), rfl, rfl⟩
    · obtain ⟨h, i, p, hp, hk, hf⟩ := ht.mem_live k q hq
      have hne : h ≠ a.nextHandle := fun he => lt_irrefl _ (he ▸ (hs.livePage hp).2.2)
      exact ⟨h, i, p, livePage_alloc.2 (.inr ⟨hne, hp⟩), hk, hf⟩

theorem TableExact.free (ht : TableExact a) (hk : KeysDistinct a) (h₀ : BitVec 64) :
    TableExact (a.free h₀) where
  live_mem h i p hp := by
    obtain ⟨hne, hp⟩ := livePage_free.1 hp
    rw [lookup_free_of_forall_ne fun j p' hp' heq => ?_]
    · exact ht.live_mem h i p hp
    · rcases hne with hn | hne
      · obtain ⟨al, hl, -⟩ := hp'
        rw [hn] at hl
        cases hl
      · exact hne (hk _ _ _ _ _ _ hp hp' heq.symm).1
  mem_live k q hq := by
    have hk' : ∀ i p, LivePage a h₀ i p → p.virtPageId ≠ k := fun i p hp heq => by
      rw [← heq, lookup_free_of_livePage hp] at hq
      cases hq
    rw [lookup_free_of_forall_ne hk'] at hq
    obtain ⟨h, i, p, hp, rfl, hf⟩ := ht.mem_live k q hq
    exact ⟨h, i, p, livePage_free.2 ⟨.inr fun he => hk' i p (he ▸ hp) rfl, hp⟩, rfl, hf⟩

theorem TableExact.flagsOnly (ht : TableExact a) (hf : FlagsOnly a a') : TableExact a' := by
  obtain ⟨ha, -, hk⟩ := hf
  have hlive : ∀ {h i p}, LivePage a' h i p ↔ LivePage a h i p := by
    intro h i p
    unfold LivePage
    rw [ha]
  constructor
  · intro h i p hp
    obtain ⟨q, hq, hqf⟩ := ht.live_mem h i p (hlive.1 hp)
    exact Option.map_eq_some'.1 (by rw [hk, hq, ← hqf]; rfl)
  · intro k q hq
    obtain ⟨q₀, hq₀, hf₀⟩ := Option.map_eq_some'.1 (by rw [← hk, hq]; rfl :
      (a.pageTable.lookup k).map KvPageHandle.frame = some q.frame)
    obtain ⟨h, i, p, hp, hk', hf⟩ := ht.mem_live k q₀ hq₀
    exact ⟨h, i, p, hlive.2 hp, hk', hf₀ ▸ hf⟩

theorem TableExact.exec {r : Request} (ht : TableExact a) (hs : Shaped (2 ^ 20) a)
    (hn : a.nextHandle.toNat < 2 ^ 32) (hr : r.pagesAtMost (2 ^ 20) = true)
    (he : r.exec a = some a') : TableExact a' := by
  rcases exec_cases he with ⟨bytes, rfl, rfl⟩ | ⟨h, rfl, rfl⟩ | hf
  · exact ht.alloc hs hn (of_decide_eq_true hr)
  · exact ht.free (hs.keysDistinct hn.le) h
  · exact ht.flagsOnly hf

theorem TableExact.run {rs : List Request} (ht : TableExact a) (hs : Shaped (2 ^ 20) a)
    (hrs : ∀ r ∈ rs, r.pagesAtMost (2 ^ 20) = true)
    (hn : a.nextHandle.toNat + rs.length ≤ 2 ^ 32) (hr : run rs a = some a') : TableExact a' := by
  induction rs generalizing a with
  | nil => cases hr; exact ht
  | cons r rs ih =>
      obtain ⟨a₁, h₁, hr⟩ := Option.bind_eq_some.1 hr
      simp only [List.length_cons] at hn
      have hr₁ := hrs r (List.mem_cons_self _ _)
      obtain ⟨hs₁, hn₁⟩ := hs.exec hr₁ (by omega) h₁
      exact ih (ht.exec hs (by omega) hr₁ h₁) hs₁ (fun r' h' => hrs r' (List.mem_cons_of_mem _ h'))
        (by omega) hr

end Exact

/-- Over runs with at most `2^20` pages per allocation and fewer than `2^32` calls,
`page_table_` holds exactly the live pages under their ids, and `free` erases only its own. -/
theorem page_table_tracks_live_pages {rs : List Request} {a : SpeckvAllocator}
    (hs : ∀ r ∈ rs, r.pagesAtMost (2 ^ 20) = true) (hl : rs.length < 2 ^ 32)
    (hr : run rs init = some a) :
    TableExact a ∧ KeysDistinct a ∧
      ∀ h₀, (a.allocs.lookup h₀ = none → a.free h₀ = a) ∧
        (∀ i p, LivePage a h₀ i p → (a.free h₀).pageTable.lookup p.virtPageId = none) ∧
        (∀ h i p, h ≠ h₀ → LivePage a h i p →
          (a.free h₀).pageTable.lookup p.virtPageId = a.pageTable.lookup p.virtPageId) := by
  have h1 : init.nextHandle.toNat = 1 := rfl
  obtain ⟨hsh, hn⟩ := (shaped_init (2 ^ 20)).run hs (by omega) hr
  have hk := hsh.keysDistinct (by omega)
  refine ⟨tableExact_init.run (shaped_init _) hs (by omega) hr, hk, fun h₀ =>
    ⟨free_of_lookup_none, fun _ _ => lookup_free_of_livePage, fun h i p hne hp => ?_⟩⟩
  exact lookup_free_of_forall_ne fun j p' hp' heq => hne (hk _ _ _ _ _ _ hp hp' heq.symm).1

theorem page_table_tracks_two_allocs :
    ∃ a, run [.alloc 8192, .alloc 4096, .free 1] init = some a ∧ TableExact a ∧ KeysDistinct a :=
  ⟨_, rfl, (@page_table_tracks_live_pages [.alloc 8192, .alloc 4096, .free 1] _ (by decide)
    (by decide) rfl).1, (@page_table_tracks_live_pages [.alloc 8192, .alloc 4096, .free 1] _
    (by decide) (by decide) rfl).2.1⟩

/-- An allocation of `2^21 + 1` pages gives its page `2^21` the key `3·2^32` of handle 3's
first page; `free 3` then erases the entry of that live page of handle 1. -/
theorem free_erases_entry_of_other_allocation :
    ∃ a, run [.alloc 0x200001000, .alloc 0, .alloc 4096, .free 3] init = some a ∧
      LivePage a 1 0x200000 (kvPage 1 0x200000) ∧
      a.pageTable.lookup (kvPage 1 0x200000).virtPageId = none ∧ ¬ TableExact a := by
  have hp₁ : LivePage (((init.alloc 0x200001000).2.alloc 0).2.alloc 4096).2 1 0x200000
      (kvPage 1 0x200000) :=
    livePage_alloc.2 (.inr ⟨by decide, livePage_alloc.2 (.inr ⟨by decide,
      livePage_alloc.2 (.inl ⟨rfl, by decide, rfl⟩)⟩)⟩)
  have hp₃ : LivePage (((init.alloc 0x200001000).2.alloc 0).2.alloc 4096).2 3 0 (kvPage 3 0) :=
    livePage_alloc.2 (.inl ⟨rfl, by decide, rfl⟩)
  have hkey : (kvPage 1 0x200000).virtPageId = (kvPage 3 0).virtPageId := by decide
  have hlive := livePage_free.2 ⟨.inr (by decide : (1 : BitVec 64) ≠ 3), hp₁⟩
  have hnone := lookup_free_of_livePage hp₃
  rw [← hkey] at hnone
  refine ⟨_, rfl, hlive, hnone, fun ht => ?_⟩
  obtain ⟨q, hq, -⟩ := ht.live_mem _ _ _ hlive
  rw [hnone] at hq
  cases hq

end CxlSpeckv.Host
