import CxlSpeckv.Host.Fetch
import CxlSpeckv.Host.Stack
import CxlSpeckv.Driver.Registers

/-!
# The fetch through the driver

`sync_fetch_page` submits one descriptor with `submit_dma_batch` and spins on `poll_complete`.
While the region is mapped the module answers a poll with the completion count it read, so the
spin ends at the first non-zero count, and of the polls it makes only that last one changes
the module. The allocator therefore sees what the model of `Allocator` lets it see, the
driver's answers: `access` through the driver is `access` under the completion counts, and it
returns exactly when one of them is non-zero.

The descriptor's GPU address keeps the low 48 bits of the page's virtual id, where the handle
sits from bit 32 on: two live pages whose handles agree modulo `2^16` and whose indexes agree
are fetched to the same GPU address.
-/

namespace CxlSpeckv.Host

open CxlSpeckv.Driver

section Kernel

theorem writeRing_mmioMapped (ds : List SpeckvIoctlDmaDesc) (s : SpeckvDevice) :
    (writeRing ds s).mmioMapped = s.mmioMapped := by
  induction ds generalizing s with
  | nil => rfl
  | cons d ds ih =>
      rw [writeRing]
      split_ifs
      · rfl
      · exact ih _

/-- No command maps or unmaps the region. -/
theorem speckvIoctl_mmioMapped (m : SpeckvModule) (c : Ioctl) :
    (speckvIoctl m c).2.device.mmioMapped = m.device.mmioMapped := by
  cases c with
  | dmaBatch arg kmallocOk =>
      rcases handleDmaBatch_snd_cases m.device arg kmallocOk with he | ⟨ds, he⟩
      · exact congrArg SpeckvDevice.mmioMapped he
      · exact (congrArg SpeckvDevice.mmioMapped he).trans (writeRing_mmioMapped ds _)
  | pollDone done copyOk =>
      show (handlePollDone m.device done copyOk).2.mmioMapped = _
      unfold handlePollDone
      split_ifs <;> rfl
  | prefetch | setParam | unknown => rfl

/-- A poll that reads no completion changes nothing. -/
theorem speckvIoctl_pollDone_zero (m : SpeckvModule) : (speckvIoctl m (.pollDone 0 true)).2 = m := by
  cases hm : m.device.mmioMapped <;>
    simp [speckvIoctl, handlePollDone, pollDoneWrites, hm]

end Kernel

namespace SpeckvDriver

variable (d : SpeckvDriver) (m : SpeckvModule)

/-- The constructor threw otherwise, so `ok()` holds of every driver. -/
@[simp] theorem ok_eq_true : d.ok = true := decide_eq_true d.fd_nonneg

theorem submitDmaBatch_singleton (desc : SpeckvDmaDesc) (kmallocOk : Bool) :
    (d.submitDmaBatch m [desc] kmallocOk).2 =
      (speckvIoctl m (.dmaBatch ⟨some 1, [desc.toIoctl]⟩ kmallocOk)).2 := by
  simp only [submitDmaBatch, ok_eq_true, Bool.not_true, Bool.false_eq_true, ↓reduceIte,
    List.isEmpty_cons]
  rfl

theorem pollComplete_of_mapped (hm : m.device.mmioMapped = true) (done : BitVec 32) :
    d.pollComplete m done = (done.toInt, (speckvIoctl m (.pollDone done true)).2) := by
  simp [pollComplete, ioctl, speckvIoctl, handlePollDone, hm]

theorem toInt_eq_zero_iff (c : BitVec 32) : c.toInt = 0 ↔ c = 0 :=
  (Iff.trans (by rfl) BitVec.toInt_inj : c.toInt = (0 : BitVec 32).toInt ↔ c = 0)

/-- The spin of `sync_fetch_page` followed by its test of the answers: it ends at the first
non-zero completion count, and the module is left as that one poll leaves it. -/
theorem pollLoop_bind_of_mapped {α : Type} (hm : m.device.mmioMapped = true) (x : α)
    (cs : List (BitVec 32)) :
    (d.pollLoop m cs).bind (fun q => if q.1.any (· != 0) then some (x, q.2) else none) =
      (cs.find? (· != 0)).map fun c => (x, (speckvIoctl m (.pollDone c true)).2) := by
  induction cs with
  | nil => rfl
  | cons c cs ih =>
      rw [pollLoop, pollComplete_of_mapped d m hm]
      dsimp only
      by_cases hc : c = 0
      · subst hc
        rw [if_pos ((toInt_eq_zero_iff 0).2 rfl), speckvIoctl_pollDone_zero, Option.bind_map]
        simpa only [Function.comp_def, List.any_cons, bne_self_eq_false, Bool.false_or,
          List.find?_cons] using ih
      · have hc' : (c != 0) = true := bne_iff_ne.2 hc
        have hci : (c.toInt != 0) = true := bne_iff_ne.2 (mt (toInt_eq_zero_iff c).1 hc)
        rw [if_neg (mt (toInt_eq_zero_iff c).1 hc)]
        simp only [List.find?_cons, hc', Option.some_bind, List.any_cons, List.any_nil,
          Bool.or_false, hci, ↓reduceIte, Option.map_some']

end SpeckvDriver

namespace SpeckvAllocator

variable (a : SpeckvAllocator) (drv : SpeckvDriver) (m : SpeckvModule)

/-- `sync_fetch_page` through the driver: one `DMA_BATCH` of the page's descriptor, then the
poll that reads the first non-zero completion count, and the L2 bit set. -/
theorem syncFetchPageVia_eq (hm : m.device.mmioMapped = true) (k : BitVec 64)
    (env : FetchAnswers) :
    a.syncFetchPageVia drv m k env = match a.pageTable.lookup k with
      | none => some (a, m)
      | some p => (env.completions.find? (· != 0)).map fun c =>
          ({ a with pageTable := a.pageTable.insert k { p with flags := p.flags ||| 2 } },
            SpeckvModule.run [.dmaBatch ⟨some 1, [(fetchDesc p k).toIoctl]⟩ env.kmallocOk,
              .pollDone c true] m) := by
  unfold syncFetchPageVia
  cases hl : a.pageTable.lookup k with
  | none => rfl
  | some p =>
      have hm₁ := (speckvIoctl_mmioMapped m
        (.dmaBatch ⟨some 1, [(fetchDesc p k).toIoctl]⟩ env.kmallocOk)).trans hm
      simp only [syncFetchPage, hl, Option.map_if, drv.submitDmaBatch_singleton]
      exact drv.pollLoop_bind_of_mapped _ hm₁ _ _

theorem any_map_toInt (cs : List (BitVec 32)) :
    (cs.map BitVec.toInt).any (· != 0) = cs.any (· != 0) := by
  induction cs with
  | nil => rfl
  | cons c cs ih =>
      rw [List.map_cons, List.any_cons, List.any_cons, ih]
      by_cases hc : c = 0
      · subst hc; rfl
      · rw [bne_iff_ne.2 (mt (SpeckvDriver.toInt_eq_zero_iff c).1 hc), bne_iff_ne.2 hc]

/-- The allocator side of the fetch is the allocator model's, under the completion counts. -/
theorem syncFetchPageVia_fst (hm : m.device.mmioMapped = true) (k : BitVec 64)
    (env : FetchAnswers) :
    (a.syncFetchPageVia drv m k env).map Prod.fst =
      a.syncFetchPage k ⟨0, env.completions.map BitVec.toInt⟩ := by
  rw [syncFetchPageVia_eq a drv m hm, syncFetchPage, any_map_toInt]
  cases hl : a.pageTable.lookup k with
  | none => rfl
  | some p =>
      cases hf : env.completions.find? (· != 0) with
      | none =>
          have : env.completions.any (· != 0) = false := by
            simpa [List.find?_eq_none] using hf
          simp only [hf, this, Option.map_none', Bool.false_eq_true, ↓reduceIte]
      | some c =>
          have hc := List.find?_some hf
          have : env.completions.any (· != 0) = true :=
            List.any_eq_true.2 ⟨c, List.mem_of_find?_eq_some hf, hc⟩
          simp only [hf, this, Option.map_some', ↓reduceIte]

/-- With the region mapped, `access` through the driver returns what the model's `access`
returns when `poll_complete` answers the completion counts, and polls on when it does not. -/
theorem accessVia_map_fst (hm : m.device.mmioMapped = true)
    (handle offset bytes : BitVec 64) (env : FetchAnswers) :
    (a.accessVia drv m handle offset bytes env).map (fun r => (r.1, r.2.1)) =
      a.access handle offset bytes ⟨0, env.completions.map BitVec.toInt⟩ := by
  unfold accessVia access
  cases a.allocs.lookup handle with
  | none => rfl
  | some al =>
      dsimp only
      split
      · split
        · rfl
        · rw [Option.map_map, ← syncFetchPageVia_fst a drv m hm, Option.map_map]
          rfl
      · rfl

end SpeckvAllocator

section GpuAddress

open SpeckvAllocator

/-- The GPU address of a page's fetch: bits 32 to 47 of the virtual id are the handle's low
16 bits, the rest is the page's offset within its allocation. -/
theorem toNat_fetchDesc_gpuAddr (p : KvPageHandle) {h : BitVec 64} {i : Nat}
    (hh : h.toNat < 2 ^ 32) (hi : i < 2 ^ 20) :
    (fetchDesc p (kvPage h i).virtPageId).gpuAddr.toNat =
      0x8000000000 + h.toNat % 2 ^ 16 * 2 ^ 32 + i * 2 ^ 12 := by
  have hmask : (0xFFFFFFFFFFFF : BitVec 64).toNat = 2 ^ 48 - 1 := rfl
  have hv := toNat_virtPageId hh hi
  simp only [fetchDesc, BitVec.toNat_add, BitVec.toNat_and, hmask, Nat.and_pow_two_sub_one_eq_mod,
    hv, show (0x8000000000 : BitVec 64).toNat = 0x8000000000 from rfl]
  omega

/-- Two pages go to the same GPU address exactly when their handles agree modulo `2^16` and
their indexes agree: the pages of handles `h` and `h + 2^16` share GPU buffers. -/
theorem fetch_gpu_addr_eq_iff (p p' : KvPageHandle) {h h' : BitVec 64} {i i' : Nat}
    (hh : h.toNat < 2 ^ 32) (hh' : h'.toNat < 2 ^ 32) (hi : i < 2 ^ 20) (hi' : i' < 2 ^ 20) :
    (fetchDesc p (kvPage h i).virtPageId).gpuAddr =
        (fetchDesc p' (kvPage h' i').virtPageId).gpuAddr ↔
      h.toNat % 2 ^ 16 = h'.toNat % 2 ^ 16 ∧ i = i' := by
  rw [BitVec.toNat_eq, toNat_fetchDesc_gpuAddr p hh hi, toNat_fetchDesc_gpuAddr p' hh' hi']
  omega

theorem fetch_gpu_addr_handles_one_and_65537 :
    (1 : BitVec 64).toNat < 2 ^ 32 ∧ (65537 : BitVec 64).toNat < 2 ^ 32 ∧ 0 < 2 ^ 20 ∧
      ((fetchDesc (kvPage 1 0) (kvPage 1 0).virtPageId).gpuAddr =
          (fetchDesc (kvPage 65537 0) (kvPage 65537 0).virtPageId).gpuAddr ↔
        (1 : BitVec 64).toNat % 2 ^ 16 = (65537 : BitVec 64).toNat % 2 ^ 16 ∧ 0 = 0) :=
  ⟨by decide, by decide, by decide,
    fetch_gpu_addr_eq_iff _ _ (by decide) (by decide) (by decide) (by decide)⟩

end GpuAddress

end CxlSpeckv.Host
