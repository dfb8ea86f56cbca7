import CxlSpeckv.Driver.DmaRing
import CxlSpeckv.Driver.Ioctl

/-!
# What the module writes to the device

`speckv_ioctl` moves the ring only through `DMA_BATCH` and `POLL_DONE`, so the ring model of
`KernelModule` describes the module under any sequence of commands. From load, the ring's
entries sit in slots 0, 1, 2, … in the order they were accepted, and each entry's field writes
are in the log at `24 * slot`. The ring starts at offset 0 of the region, so its first three
slots cover the seven control registers between `0x08` and `0x38`. A command that fails leaves
the module as it was, except a `POLL_DONE` whose copy to user space faults: it has taken the
completions already.
-/

namespace CxlSpeckv.Driver

open scoped List

section Refinement

/-- The ring model's request of a command; the other commands have none. -/
def Ioctl.toRequest : Ioctl → Option Request
  | .dmaBatch arg kmallocOk => some (.dmaBatch arg kmallocOk)
  | .pollDone done copyOk => some (.pollDone done copyOk)
  | .prefetch .. | .setParam _ | .unknown => none

theorem run_append (rs rs' : List Request) (s : SpeckvDevice) :
    run (rs ++ rs') s = run rs' (run rs s) := by
  induction rs generalizing s with
  | nil => rfl
  | cons r rs ih => exact ih _

theorem speckvIoctl_device (m : SpeckvModule) (c : Ioctl) :
    (speckvIoctl m c).2.device = run c.toRequest.toList m.device := by
  cases c <;> rfl

theorem SpeckvModule.run_device (cs : List Ioctl) (m : SpeckvModule) :
    (SpeckvModule.run cs m).device =
      CxlSpeckv.Driver.run (cs.filterMap Ioctl.toRequest) m.device := by
  induction cs generalizing m with
  | nil => rfl
  | cons c cs ih =>
      rw [SpeckvModule.run, ih, speckvIoctl_device, ← run_append]
      cases c <;> rfl

end Refinement

section Log

/-- The field writes of ring entries, entry after entry. -/
def ringLog (ws : List (BitVec 32 × SpeckvIoctlDmaDesc)) : List MmioWrite :=
  ws.flatMap fun w => slotWrites w.1 w.2

@[simp] theorem ringLog_append (ws ws' : List (BitVec 32 × SpeckvIoctlDmaDesc)) :
    ringLog (ws ++ ws') = ringLog ws ++ ringLog ws' :=
  List.flatMap_append _ _ _

@[simp] theorem map_snd_ringSlots (wr : Nat) (ds : List SpeckvIoctlDmaDesc) :
    (ringSlots wr ds).map Prod.snd = ds := by
  induction ds generalizing wr with
  | nil => rfl
  | cons d ds ih => exact congrArg (d :: ·) (ih _)

/-- Slots continue across the two parts of a list of descriptors. -/
theorem ringSlots_append {wr : Nat} (hwr : wr < 1024) (ds ds' : List SpeckvIoctlDmaDesc) :
    ringSlots wr (ds ++ ds') = ringSlots wr ds ++ ringSlots ((wr + ds.length) % 1024) ds' := by
  induction ds generalizing wr with
  | nil => rw [List.nil_append, List.length_nil, Nat.add_zero, Nat.mod_eq_of_lt hwr]; rfl
  | cons d ds ih =>
      rw [List.cons_append, ringSlots, ringSlots, ih (Nat.mod_lt _ (by decide)), Nat.mod_add_mod,
        List.length_cons, Nat.add_right_comm, Nat.add_assoc]
      rfl

theorem ringLog_ringSlots_nil (wr : Nat) : ringLog (ringSlots wr []) = [] := rfl

theorem handlePollDone_ringWrites (s : SpeckvDevice) (done : BitVec 32) (copyOk : Bool) :
    (handlePollDone s done copyOk).2.ringWrites = s.ringWrites := by
  unfold handlePollDone
  split_ifs <;> rfl

namespace RingFromStart

variable {s : SpeckvDevice}

theorem wrPtr_lt (h : RingFromStart s) : s.dmaRingWrPtr.toNat < 1024 := by
  have := h.len_le
  rw [h.wr_eq]
  omega

theorem rdPtr_lt (h : RingFromStart s) : s.dmaRingRdPtr.toNat < 1024 := by
  rw [h.rd_zero]
  decide

/-- A batch adds its accepted descriptors in the slots after the last entry. -/
theorem handleDmaBatch_ringWrites (h : RingFromStart s) (arg : DmaBatchArg) (kmallocOk : Bool) :
    ∃ ds, (handleDmaBatch s arg kmallocOk).2.ringWrites =
      s.ringWrites ++ ringSlots s.ringWrites.length ds := by
  rcases handleDmaBatch_snd_cases s arg kmallocOk with he | ⟨ds, he⟩
  · exact ⟨[], by rw [he]; exact (List.append_nil _).symm⟩
  · refine ⟨ds.take (min ds.length (ringSpace s)), ?_⟩
    rw [he, writeRing_eq h.wrPtr_lt h.rdPtr_lt, ← h.wr_eq]
    rfl

/-- One read descriptor, then a poll, on a module running from load: the descriptor goes into
the next slot while the ring has room and is dropped once it holds 1023. -/
theorem fetch_ringWrites (h : RingFromStart s) (desc : SpeckvIoctlDmaDesc) (c : BitVec 32) :
    (CxlSpeckv.Driver.run [.dmaBatch ⟨some 1, [desc]⟩ true, .pollDone c true] s).ringWrites =
      s.ringWrites ++ if s.ringWrites.length < 1023 then
        [(BitVec.ofNat 32 s.ringWrites.length, desc)] else [] := by
  have hb : handleDmaBatch s ⟨some 1, [desc]⟩ true = (0, CxlSpeckv.Driver.writeRing [desc] s) := by
    simp [handleDmaBatch, h.mapped]
  show (handlePollDone (handleDmaBatch s ⟨some 1, [desc]⟩ true).2 c true).2.ringWrites = _
  rw [handlePollDone_ringWrites, hb, writeRing_eq h.wrPtr_lt h.rdPtr_lt, h.ringSpace_eq]
  have hl := h.len_le
  split_ifs with hlt
  · rw [show min [desc].length (1023 - s.ringWrites.length) = 1 by simp; omega]
    simp [SpeckvDevice.pushSlots, ringSlots, h.wr_eq]
  · rw [show min [desc].length (1023 - s.ringWrites.length) = 0 by simp; omega, List.take_zero,
      pushSlots_nil h.wrPtr_lt, List.append_nil]

end RingFromStart

/-- One command adds ring entries in the slots after the last one, and appends to the log
their field writes, then possibly other writes. -/
theorem speckvIoctl_ringWrites {m : SpeckvModule} (h : RingFromStart m.device) (c : Ioctl) :
    ∃ ds, (speckvIoctl m c).2.device.ringWrites =
        m.device.ringWrites ++ ringSlots m.device.ringWrites.length ds ∧
      ∃ rest, (speckvIoctl m c).2.mmio =
        m.mmio ++ ringLog (ringSlots m.device.ringWrites.length ds) ++ rest := by
  cases c with
  | dmaBatch arg kmallocOk =>
      obtain ⟨ds, hds⟩ := h.handleDmaBatch_ringWrites arg kmallocOk
      refine ⟨ds, hds, [], ?_⟩
      show m.mmio ++ ringLog
        ((handleDmaBatch m.device arg kmallocOk).2.ringWrites.drop m.device.ringWrites.length) = _
      rw [hds, List.drop_left, List.append_nil]
  | pollDone done copyOk =>
      refine ⟨[], (handlePollDone_ringWrites _ _ _).trans (List.append_nil _).symm,
        pollDoneWrites m.device done, ?_⟩
      rw [ringLog_ringSlots_nil, List.append_nil]
      rfl
  | prefetch req kmallocOk userTokens fifoStatus =>
      refine ⟨[], (List.append_nil _).symm,
        (handlePrefetch m.device req kmallocOk userTokens fifoStatus).2, ?_⟩
      rw [ringLog_ringSlots_nil, List.append_nil]
      rfl
  | setParam p =>
      refine ⟨[], (List.append_nil _).symm, (handleSetParam m.device p).2, ?_⟩
      rw [ringLog_ringSlots_nil, List.append_nil]
      rfl
  | unknown =>
      refine ⟨[], (List.append_nil _).symm, [], ?_⟩
      rw [ringLog_ringSlots_nil, List.append_nil, List.append_nil]
      rfl

/-- What the module has written from load: the ring from the start, its entries in slots 0,
1, 2, … in the order accepted, and their field writes in the log in that order. -/
structure LogFromStart (m : SpeckvModule) : Prop where
  ring : RingFromStart m.device
  slots : m.device.ringWrites = ringSlots 0 (m.device.ringWrites.map Prod.snd)
  log : ringLog m.device.ringWrites <+ m.mmio

namespace LogFromStart

variable {m : SpeckvModule}

theorem init : LogFromStart .init := ⟨RingFromStart.init, rfl, List.nil_sublist _⟩

theorem exec (h : LogFromStart m) (c : Ioctl) : LogFromStart (speckvIoctl m c).2 := by
  obtain ⟨ds, hw, rest, hm⟩ := speckvIoctl_ringWrites h.ring c
  have hn : m.device.ringWrites.length < 1024 := by have := h.ring.len_le; omega
  refine ⟨by rw [speckvIoctl_device]; exact h.ring.run _, ?_, ?_⟩
  · rw [hw, List.map_append, map_snd_ringSlots, ringSlots_append (by decide), ← h.slots,
      List.length_map, Nat.zero_add, Nat.mod_eq_of_lt hn]
  · rw [hw, hm, ringLog_append]
    exact (h.log.append (List.Sublist.refl _)).trans (List.sublist_append_left _ _)

theorem run (h : LogFromStart m) (cs : List Ioctl) : LogFromStart (SpeckvModule.run cs m) := by
  induction cs generalizing m with
  | nil => exact h
  | cons c cs ih => exact ih (h.exec c)

end LogFromStart

/-- From load, the accepted descriptors sit in slots 0, 1, 2, … in order, and the log holds each
one's four field writes at `24 * slot`, then the new write pointer. -/
theorem ring_entries_logged_from_slot_zero (cs : List Ioctl) :
    (SpeckvModule.run cs .init).device.ringWrites =
        ringSlots 0 ((SpeckvModule.run cs .init).device.ringWrites.map Prod.snd) ∧
      ringLog (SpeckvModule.run cs .init).device.ringWrites <+ (SpeckvModule.run cs .init).mmio :=
  ⟨(LogFromStart.init.run cs).slots, (LogFromStart.init.run cs).log⟩

/-- The ring base is 0, so from load, once the ring holds three descriptors, their fields are
written over all seven control registers from `DMA_RING_WR` to `PARAM_COMP_SCHEME`. -/
theorem ring_overwrites_control_registers (cs : List Ioctl) (d₀ d₁ d₂ : SpeckvIoctlDmaDesc)
    (rest : List SpeckvIoctlDmaDesc)
    (h : (SpeckvModule.run cs .init).device.ringWrites.map Prod.snd = d₀ :: d₁ :: d₂ :: rest) :
    [⟨regDmaRingWr, 8, d₀.gpuAddr⟩, ⟨regDmaRingRd, 4, d₀.bytes.setWidth 64⟩,
        ⟨regDmaComplete, 8, d₁.fpgaAddr⟩, ⟨regPrefetchFifo, 8, d₁.gpuAddr⟩,
        ⟨regPrefetchStatus, 4, d₁.bytes.setWidth 64⟩, ⟨regParamPrefetchK, 8, d₂.fpgaAddr⟩,
        ⟨regParamCompScheme, 8, d₂.gpuAddr⟩] <+ (SpeckvModule.run cs .init).mmio := by
  have hl := (LogFromStart.init.run cs).log
  rw [(LogFromStart.init.run cs).slots, h] at hl
  refine List.Sublist.trans ?_ hl
  exact .cons _ <| .cons₂ _ <| .cons₂ _ <| .cons _ <| .cons _ <| .cons₂ _ <| .cons₂ _ <|
    .cons₂ _ <| .cons _ <| .cons _ <| .cons₂ _ <| .cons₂ _ <| List.nil_sublist _

theorem ring_overwrites_control_registers_three_descs :
    (SpeckvModule.run [.dmaBatch ⟨some 3, [⟨1, 2, 3, 4⟩, ⟨5, 6, 7, 8⟩, ⟨9, 10, 11, 12⟩]⟩ true]
        .init).device.ringWrites.map Prod.snd =
        ⟨1, 2, 3, 4⟩ :: ⟨5, 6, 7, 8⟩ :: ⟨9, 10, 11, 12⟩ :: [] ∧
      [⟨regDmaRingWr, 8, 2⟩, ⟨regDmaRingRd, 4, 3⟩, ⟨regDmaComplete, 8, 5⟩,
          ⟨regPrefetchFifo, 8, 6⟩, ⟨regPrefetchStatus, 4, 7⟩, ⟨regParamPrefetchK, 8, 9⟩,
          ⟨regParamCompScheme, 8, 10⟩] <+
        (SpeckvModule.run [.dmaBatch ⟨some 3, [⟨1, 2, 3, 4⟩, ⟨5, 6, 7, 8⟩, ⟨9, 10, 11, 12⟩]⟩ true]
          .init).mmio :=
  ⟨by decide, ring_overwrites_control_registers _ ⟨1, 2, 3, 4⟩ ⟨5, 6, 7, 8⟩ ⟨9, 10, 11, 12⟩ []
    (by decide)⟩

end Log

section Prefetch

/-- The error codes the handlers return are negative. -/
@[simp] theorem neg_EFAULT_lt : -EFAULT < 0 := by decide

@[simp] theorem neg_EINVAL_lt : -EINVAL < 0 := by decide

@[simp] theorem neg_ENOMEM_lt : -ENOMEM < 0 := by decide

@[simp] theorem neg_ENODEV_lt : -ENODEV < 0 := by decide

@[simp] theorem neg_EBUSY_lt : -EBUSY < 0 := by decide

@[simp] theorem neg_ENOTTY_lt : -ENOTTY < 0 := by decide

@[simp] theorem length_tokenWrites (i : Nat) (ts : List (BitVec 32)) :
    (tokenWrites i ts).length = ts.length := by
  induction ts generalizing i with
  | nil => rfl
  | cons t ts ih => exact congrArg (· + 1) (ih _)

variable {s : SpeckvDevice} {req : SpeckvIoctlPrefetchReq} {kmallocOk : Bool}
  {userTokens : List (BitVec 32)} {fifoStatus : BitVec 32}

/-- A request that passes every check is written out whole. -/
theorem handlePrefetch_of_accepted (hn : req.historyLen.toNat ≤ userTokens.length)
    (hm : s.mmioMapped = true) (hf : fifoStatus &&& 0x80000000 = 0) :
    handlePrefetch s (some req) true userTokens fifoStatus =
      (0, prefetchWrites req (userTokens.take req.historyLen.toNat)) := by
  simp only [handlePrefetch, hm, hf, Bool.not_true, Bool.false_eq_true, ↓reduceIte,
    if_neg (Nat.not_lt.2 hn), bne_self_eq_false]

/-- A request that fails a check gets a negative error and nothing is written. -/
theorem handlePrefetch_of_rejected
    (h : ¬ (kmallocOk = true ∧ req.historyLen.toNat ≤ userTokens.length ∧ s.mmioMapped = true ∧
      fifoStatus &&& 0x80000000 = 0)) :
    (handlePrefetch s (some req) kmallocOk userTokens fifoStatus).1 < 0 ∧
      (handlePrefetch s (some req) kmallocOk userTokens fifoStatus).2 = [] := by
  dsimp only [handlePrefetch]
  by_cases h₁ : (!kmallocOk) = true
  · rw [if_pos h₁]; exact ⟨neg_ENOMEM_lt, rfl⟩
  by_cases h₂ : userTokens.length < req.historyLen.toNat
  · rw [if_neg h₁, if_pos h₂]; exact ⟨neg_EFAULT_lt, rfl⟩
  by_cases h₃ : (!s.mmioMapped) = true
  · rw [if_neg h₁, if_neg h₂, if_pos h₃]; exact ⟨neg_ENODEV_lt, rfl⟩
  by_cases h₄ : (fifoStatus &&& 0x80000000 != 0) = true
  · rw [if_neg h₁, if_neg h₂, if_neg h₃, if_pos h₄]; exact ⟨neg_EBUSY_lt, rfl⟩
  · simp only [Bool.not_eq_true', Bool.not_eq_false, bne_iff_ne, ne_eq, not_not,
      Nat.not_lt] at h₁ h₂ h₃ h₄
    exact absurd ⟨h₁, h₂, h₃, h₄⟩ h

theorem handlePrefetch_refused (req : Option SpeckvIoctlPrefetchReq)
    (h : (handlePrefetch s req kmallocOk userTokens fifoStatus).1 ≠ 0) :
    (handlePrefetch s req kmallocOk userTokens fifoStatus).1 < 0 ∧
      (handlePrefetch s req kmallocOk userTokens fifoStatus).2 = [] := by
  rcases req with _ | req
  · exact ⟨neg_EFAULT_lt, rfl⟩
  by_cases hacc : kmallocOk = true ∧ req.historyLen.toNat ≤ userTokens.length ∧
      s.mmioMapped = true ∧ fifoStatus &&& 0x80000000 = 0
  · obtain ⟨rfl, hn, hm, hf⟩ := hacc
    rw [handlePrefetch_of_accepted hn hm hf] at h
    exact absurd rfl h
  · exact handlePrefetch_of_rejected hacc

end Prefetch

section Failure

/-- `handle_dma_batch` returns 0 or an error, and on an error the globals are as they were. -/
theorem handleDmaBatch_fst (s : SpeckvDevice) (arg : DmaBatchArg) (kmallocOk : Bool) :
    (handleDmaBatch s arg kmallocOk).1 ≤ 0 ∧
      ((handleDmaBatch s arg kmallocOk).1 < 0 → (handleDmaBatch s arg kmallocOk).2 = s) := by
  rcases arg with ⟨_ | count, descs⟩
  · exact ⟨neg_EFAULT_lt.le, fun _ => rfl⟩
  dsimp only [handleDmaBatch]
  by_cases h₁ : count > 4096
  · rw [if_pos h₁]; exact ⟨neg_EINVAL_lt.le, fun _ => rfl⟩
  by_cases h₂ : (!kmallocOk) = true
  · rw [if_neg h₁, if_pos h₂]; exact ⟨neg_ENOMEM_lt.le, fun _ => rfl⟩
  by_cases h₃ : descs.length < count.toNat
  · rw [if_neg h₁, if_neg h₂, if_pos h₃]; exact ⟨neg_EFAULT_lt.le, fun _ => rfl⟩
  by_cases h₄ : (!s.mmioMapped) = true
  · rw [if_neg h₁, if_neg h₂, if_neg h₃, if_pos h₄]; exact ⟨neg_ENODEV_lt.le, fun _ => rfl⟩
  · rw [if_neg h₁, if_neg h₂, if_neg h₃, if_neg h₄]; exact ⟨le_rfl, fun h => absurd h (lt_irrefl 0)⟩

theorem handleSetParam_fst (s : SpeckvDevice) (p : Option SpeckvIoctlParam) :
    (handleSetParam s p).1 ≤ 0 ∧ ((handleSetParam s p).1 < 0 → (handleSetParam s p).2 = []) := by
  unfold handleSetParam
  split
  · exact ⟨neg_EFAULT_lt.le, fun _ => rfl⟩
  · split_ifs
    · exact ⟨neg_ENODEV_lt.le, fun _ => rfl⟩
    · exact ⟨le_rfl, fun h => absurd h (lt_irrefl 0)⟩
    · exact ⟨le_rfl, fun h => absurd h (lt_irrefl 0)⟩
    · exact ⟨neg_EINVAL_lt.le, fun _ => rfl⟩

/-- Every command returns 0 or a negative error, and a failed one leaves the module as it was,
except a `POLL_DONE` whose copy to user space faults: it acts as if the copy succeeded. -/
theorem failed_ioctl_leaves_module (m : SpeckvModule) (c : Ioctl) :
    (speckvIoctl m c).1 ≤ 0 ∧
      ((speckvIoctl m c).1 < 0 → (speckvIoctl m c).2 = m ∨
        ∃ done, c = .pollDone done false ∧
          (speckvIoctl m c).2 = (speckvIoctl m (.pollDone done true)).2) := by
  cases c with
  | dmaBatch arg kmallocOk =>
      obtain ⟨hle, hlt⟩ := handleDmaBatch_fst m.device arg kmallocOk
      refine ⟨hle, fun h => .inl ?_⟩
      show (⟨(handleDmaBatch m.device arg kmallocOk).2, m.mmio ++ ringLog
        ((handleDmaBatch m.device arg kmallocOk).2.ringWrites.drop m.device.ringWrites.length)⟩ :
          SpeckvModule) = m
      rw [hlt h, List.drop_length]
      exact congrArg (SpeckvModule.mk m.device) (List.append_nil _)
  | prefetch req kmallocOk userTokens fifoStatus =>
      refine ⟨?_, fun h => .inl ?_⟩
      · by_cases h0 : (handlePrefetch m.device req kmallocOk userTokens fifoStatus).1 = 0
        · exact h0.le
        · exact (handlePrefetch_refused req h0).1.le
      · show { m with mmio := m.mmio ++ (handlePrefetch m.device req kmallocOk userTokens
          fifoStatus).2 } = m
        rw [(handlePrefetch_refused req h.ne).2, List.append_nil]
  | setParam p =>
      obtain ⟨hle, hlt⟩ := handleSetParam_fst m.device p
      refine ⟨hle, fun h => .inl ?_⟩
      show { m with mmio := m.mmio ++ (handleSetParam m.device p).2 } = m
      rw [hlt h, List.append_nil]
  | pollDone done copyOk =>
      simp only [speckvIoctl, handlePollDone, pollDoneWrites]
      cases hm : m.device.mmioMapped <;> cases copyOk <;> simp [EFAULT, ENODEV]
  | unknown => exact ⟨neg_ENOTTY_lt.le, fun _ => .inl rfl⟩

end Failure

end CxlSpeckv.Driver
