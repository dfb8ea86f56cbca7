import CxlSpeckv.Driver.KernelModule

/-!
# What `handle_dma_batch` writes

With both pointers inside the ring, the loop of `handle_dma_batch` writes the first
`min(count, free)` descriptors into consecutive slots, where `free` is the number of slots
before the one behind the read pointer, advances the write pointer and the pending count by
that many, and drops the rest; the call returns 0 either way. Nothing in the module moves the
read pointer, so from the start the ring takes 1023 descriptors in all, and every batch after
that writes nothing and still returns 0.
-/

namespace CxlSpeckv.Driver

/-- The free slots of the ring: a full ring keeps the slot behind the read pointer empty. -/
def ringSpace (s : SpeckvDevice) : Nat :=
  (s.dmaRingRdPtr.toNat + 1023 - s.dmaRingWrPtr.toNat) % 1024

/-- Descriptors written into consecutive slots from `wr` on, wrapping at the ring's end. -/
def ringSlots (wr : Nat) : List SpeckvIoctlDmaDesc → List (BitVec 32 × SpeckvIoctlDmaDesc)
  | [] => []
  | d :: ds => (BitVec.ofNat 32 wr, d) :: ringSlots ((wr + 1) % 1024) ds

/-- The state after writing `ds` into consecutive slots from the write pointer: the pointer
moves past them and they are counted as pending. -/
def SpeckvDevice.pushSlots (s : SpeckvDevice) (ds : List SpeckvIoctlDmaDesc) : SpeckvDevice :=
  { s with
    ringWrites := s.ringWrites ++ ringSlots s.dmaRingWrPtr.toNat ds,
    dmaRingWrPtr := BitVec.ofNat 32 ((s.dmaRingWrPtr.toNat + ds.length) % 1024),
    dmaPending := s.dmaPending + BitVec.ofNat 32 ds.length }

@[simp] theorem length_ringSlots (wr : Nat) (ds : List SpeckvIoctlDmaDesc) :
    (ringSlots wr ds).length = ds.length := by
  induction ds generalizing wr with
  | nil => rfl
  | cons d ds ih => simp only [ringSlots, List.length_cons, ih]

@[simp] theorem toNat_pushSlots_wrPtr (s : SpeckvDevice) (ds : List SpeckvIoctlDmaDesc) :
    (s.pushSlots ds).dmaRingWrPtr.toNat = (s.dmaRingWrPtr.toNat + ds.length) % 1024 := by
  rw [SpeckvDevice.pushSlots, BitVec.toNat_ofNat]
  exact Nat.mod_eq_of_lt ((Nat.mod_lt _ (by decide)).trans (by decide))

section Step

variable {s : SpeckvDevice}

/-- The write pointer moves to the next slot; `1024` divides `2^32`, so the 32-bit sum wraps
onto the same slot. -/
theorem toNat_nextWr :
    ((s.dmaRingWrPtr + 1) % dmaRingSize).toNat = (s.dmaRingWrPtr.toNat + 1) % 1024 := by
  rw [BitVec.toNat_umod, BitVec.toNat_add, show (1 : BitVec 32).toNat = 1 from rfl,
    show dmaRingSize.toNat = 1024 from rfl]
  exact Nat.mod_mod_of_dvd _ (by decide)

variable (hwr : s.dmaRingWrPtr.toNat < 1024)
include hwr

theorem pushSlots_nil : s.pushSlots [] = s := by
  rw [SpeckvDevice.pushSlots, List.length_nil, Nat.add_zero, Nat.mod_eq_of_lt hwr,
    BitVec.ofNat_toNat, BitVec.setWidth_eq, ringSlots, List.append_nil, BitVec.add_zero]

omit hwr in
/-- Writing a first descriptor and then the rest is writing them all. -/
theorem pushSlots_cons (d : SpeckvIoctlDmaDesc) (ds : List SpeckvIoctlDmaDesc) :
    s.pushSlots (d :: ds) = (writeSlot s d).pushSlots ds := by
  simp only [SpeckvDevice.pushSlots, writeSlot, toNat_nextWr, ringSlots, BitVec.ofNat_toNat,
    BitVec.setWidth_eq, List.append_assoc, List.singleton_append, List.length_cons,
    SpeckvDevice.mk.injEq, true_and, and_true]
  refine ⟨by rw [Nat.mod_add_mod, Nat.add_right_comm, Nat.add_assoc], ?_⟩
  rw [BitVec.add_assoc, BitVec.ofNat_add, BitVec.add_comm (BitVec.ofNat 32 _)]
  rfl

variable (hrd : s.dmaRingRdPtr.toNat < 1024)
include hrd

/-- The ring is full exactly when the slot after the write pointer is the read pointer. -/
theorem nextWr_eq_rdPtr_iff :
    (s.dmaRingWrPtr + 1) % dmaRingSize = s.dmaRingRdPtr ↔ ringSpace s = 0 := by
  rw [BitVec.toNat_eq, toNat_nextWr, ringSpace]
  omega

theorem ringSpace_writeSlot (d : SpeckvIoctlDmaDesc) (h : ringSpace s ≠ 0) :
    ringSpace (writeSlot s d) = ringSpace s - 1 := by
  simp only [ringSpace, writeSlot, toNat_nextWr] at h ⊢
  omega

/-- The loop writes the first `min(length, free)` descriptors and drops the rest. -/
theorem writeRing_eq (ds : List SpeckvIoctlDmaDesc) :
    writeRing ds s = s.pushSlots (ds.take (min ds.length (ringSpace s))) := by
  induction ds generalizing s with
  | nil => rw [writeRing, List.take_nil, pushSlots_nil hwr]
  | cons d rest ih =>
      rw [writeRing]
      by_cases hsp : ringSpace s = 0
      · rw [if_pos ((nextWr_eq_rdPtr_iff hwr hrd).2 hsp), hsp, Nat.min_zero, List.take_zero,
          pushSlots_nil hwr]
      · have hw₁ : (writeSlot s d).dmaRingWrPtr.toNat < 1024 := by
          rw [writeSlot, toNat_nextWr]; exact Nat.mod_lt _ (by decide)
        rw [if_neg (mt (nextWr_eq_rdPtr_iff hwr hrd).1 hsp), ih hw₁ hrd,
          ringSpace_writeSlot hwr hrd d hsp, List.length_cons,
          show min (rest.length + 1) (ringSpace s) = min rest.length (ringSpace s - 1) + 1 by omega,
          List.take_succ_cons, pushSlots_cons]

end Step

/-- A batch either leaves the state as it is or runs the ring loop over some descriptors. -/
theorem handleDmaBatch_snd_cases (s : SpeckvDevice) (arg : DmaBatchArg) (kmallocOk : Bool) :
    (handleDmaBatch s arg kmallocOk).2 = s ∨
      ∃ ds, (handleDmaBatch s arg kmallocOk).2 = writeRing ds s := by
  rcases arg with ⟨_ | count, descs⟩
  · exact .inl rfl
  dsimp only [handleDmaBatch]
  by_cases h₁ : count > 4096
  · exact .inl (by rw [if_pos h₁])
  by_cases h₂ : (!kmallocOk) = true
  · exact .inl (by rw [if_neg h₁, if_pos h₂])
  by_cases h₃ : descs.length < count.toNat
  · exact .inl (by rw [if_neg h₁, if_neg h₂, if_pos h₃])
  by_cases h₄ : (!s.mmioMapped) = true
  · exact .inl (by rw [if_neg h₁, if_neg h₂, if_neg h₃, if_pos h₄])
  · exact .inr ⟨_, by rw [if_neg h₁, if_neg h₂, if_neg h₃, if_neg h₄]⟩

/-- With the pointers in the ring and the region mapped, a batch of at most 4096 readable
descriptors returns 0 having written the first `min(count, free)`; the rest are dropped. -/
theorem dma_batch_writes_only_free_slots (s : SpeckvDevice) (hwr : s.dmaRingWrPtr.toNat < 1024)
    (hrd : s.dmaRingRdPtr.toNat < 1024) (hm : s.mmioMapped = true) (count : BitVec 32)
    (hc : count.toNat ≤ 4096) (descs : List SpeckvIoctlDmaDesc) (hd : count.toNat ≤ descs.length) :
    handleDmaBatch s ⟨some count, descs⟩ true =
      (0, s.pushSlots (descs.take (min count.toNat (ringSpace s)))) := by
  have hgt : ¬ count > 4096 := by rw [gt_iff_lt, BitVec.lt_def]; simpa using hc
  unfold handleDmaBatch
  simp only [if_neg hgt, Bool.not_true, Bool.false_eq_true, ite_false, if_neg (Nat.not_lt.2 hd), hm]
  rw [writeRing_eq hwr hrd, List.length_take_of_le hd, List.take_take]
  congr 3
  omega

/-- From the start, a batch of 1024 descriptors returns 0 with 1023 of them written and
counted: the last one is dropped. -/
theorem batch_of_1024_drops_last :
    (handleDmaBatch .init ⟨some 1024, List.replicate 1024 ⟨0x4000000000, 0x8000000000, 4096, 0⟩⟩
        true).1 = 0 ∧
      (handleDmaBatch .init ⟨some 1024, List.replicate 1024 ⟨0x4000000000, 0x8000000000, 4096, 0⟩⟩
        true).2.ringWrites.length = 1023 ∧
      (handleDmaBatch .init ⟨some 1024, List.replicate 1024 ⟨0x4000000000, 0x8000000000, 4096, 0⟩⟩
        true).2.dmaPending = 1023 := by
  have hsp : min (1024 : BitVec 32).toNat (ringSpace .init) = 1023 := rfl
  rw [dma_batch_writes_only_free_slots .init (by decide) (by decide) rfl 1024 (by decide) _
    (by rw [List.length_replicate]; decide), hsp]
  refine ⟨rfl, ?_, ?_⟩ <;>
    simp only [SpeckvDevice.pushSlots, SpeckvDevice.init, List.nil_append, length_ringSlots,
      List.length_take, List.length_replicate] <;> rfl

/-- What the ring looks like after any ioctls from the start: the region is mapped, the read
pointer is still 0, and the write pointer counts the descriptors written, at most 1023. -/
structure RingFromStart (s : SpeckvDevice) : Prop where
  mapped : s.mmioMapped = true
  rd_zero : s.dmaRingRdPtr = 0
  wr_eq : s.dmaRingWrPtr.toNat = s.ringWrites.length
  len_le : s.ringWrites.length ≤ 1023

namespace RingFromStart

variable {s : SpeckvDevice}

theorem init : RingFromStart .init := ⟨rfl, rfl, rfl, by decide⟩

theorem ringSpace_eq (h : RingFromStart s) : ringSpace s = 1023 - s.ringWrites.length := by
  rw [ringSpace, h.rd_zero, h.wr_eq, show (0 : BitVec 32).toNat = 0 from rfl, Nat.zero_add]
  exact Nat.mod_eq_of_lt (by omega)

theorem writeRing (h : RingFromStart s) (ds : List SpeckvIoctlDmaDesc) :
    RingFromStart (CxlSpeckv.Driver.writeRing ds s) := by
  have hl := h.len_le
  have hwr : s.dmaRingWrPtr.toNat < 1024 := by rw [h.wr_eq]; omega
  have hrd : s.dmaRingRdPtr.toNat < 1024 := by rw [h.rd_zero]; decide
  have hn : (ds.take (min ds.length (ringSpace s))).length ≤ 1023 - s.ringWrites.length := by
    rw [List.length_take, h.ringSpace_eq]; omega
  have hlen : (s.pushSlots (ds.take (min ds.length (ringSpace s)))).ringWrites.length =
      s.ringWrites.length + (ds.take (min ds.length (ringSpace s))).length := by
    rw [SpeckvDevice.pushSlots, List.length_append, length_ringSlots]
  rw [writeRing_eq hwr hrd]
  refine ⟨h.mapped, h.rd_zero, ?_, by omega⟩
  rw [toNat_pushSlots_wrPtr, hlen, h.wr_eq]
  exact Nat.mod_eq_of_lt (by omega)

/-- Every ioctl keeps the shape. -/
theorem exec (h : RingFromStart s) (r : Request) : RingFromStart (r.exec s).2 := by
  cases r with
  | dmaBatch arg kmallocOk =>
      rw [Request.exec]
      rcases handleDmaBatch_snd_cases s arg kmallocOk with he | ⟨ds, he⟩
      · rw [he]; exact h
      · rw [he]; exact h.writeRing ds
  | pollDone done copyOk =>
      simp only [Request.exec, handlePollDone]
      split_ifs
      all_goals exact ⟨h.mapped, h.rd_zero, h.wr_eq, h.len_le⟩

theorem run (h : RingFromStart s) (rs : List Request) : RingFromStart (CxlSpeckv.Driver.run rs s) := by
  induction rs generalizing s with
  | nil => exact h
  | cons r rs ih => exact ih (h.exec r)

end RingFromStart

/-- From the start the read pointer stays 0 and the ring takes at most 1023 descriptors; once it
has, every `handle_dma_batch` keeps the state and still answers 0 to a valid batch. -/
theorem ring_fills_for_good (rs : List Request) :
    (run rs .init).dmaRingRdPtr = 0 ∧ (run rs .init).ringWrites.length ≤ 1023 ∧
      ((run rs .init).ringWrites.length = 1023 →
        ∀ arg kmallocOk, (handleDmaBatch (run rs .init) arg kmallocOk).2 = run rs .init) := by
  have h := RingFromStart.init.run rs
  refine ⟨h.rd_zero, h.len_le, fun hfull arg kmallocOk => ?_⟩
  have hwr : (run rs .init).dmaRingWrPtr.toNat < 1024 := by rw [h.wr_eq, hfull]; decide
  have hrd : (run rs .init).dmaRingRdPtr.toNat < 1024 := by rw [h.rd_zero]; decide
  have hsp : ringSpace (run rs .init) = 0 := by rw [h.ringSpace_eq, hfull]
  rcases handleDmaBatch_snd_cases (run rs .init) arg kmallocOk with he | ⟨ds, he⟩
  · exact he
  · rw [he, writeRing_eq hwr hrd, hsp, Nat.min_zero, List.take_zero, pushSlots_nil hwr]

end CxlSpeckv.Driver
