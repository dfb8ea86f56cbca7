import CxlSpeckv.Coherence.Directory

/-!
# What the statistics count

`send_coherence_op_to_fpga` ends with `update_statistics(op, true)`, so with a driver every
operation it sends is counted once more, as a directory hit, after the caller has already
counted it. A read that misses counts two reads, a write two writes, and `promote_to_l1`
counts a read of its own. `batch_writeback` adds the number of addresses it was given to
`writebacks_performed`, whatever their lines' states.
-/

namespace CxlSpeckv.Coherence

open CoherenceManager

variable {c : Config} {t : Transport} {m : CoherenceManager} {a : BitVec 64}

@[simp] theorem getOrCreateEntry_stats : (m.getOrCreateEntry a).2.stats = m.stats := by
  unfold getOrCreateEntry; split <;> rfl

@[simp] theorem updateStatistics_writebacksPerformed (s : Statistics) (op : CoherenceOp)
    (hit : Bool) : (updateStatistics s op hit).writebacksPerformed = s.writebacksPerformed := by
  cases op <;> cases hit <;> rfl

theorem writebacksPerformed_send (op : CoherenceOp) (l : BitVec 64) :
    (sendCoherenceOpToFpga c t op l m).2.stats.writebacksPerformed =
      m.stats.writebacksPerformed := by
  rw [sendCoherenceOpToFpga_eq]
  split <;> simp

theorem requestReadMiss_totalReads (hc : c.hasDriver = true) :
    (requestReadMiss c t a m).2.stats.totalReads = m.stats.totalReads + 2 := by
  simp only [requestReadMiss, sendCoherenceOpToFpga_eq, hc, if_true]
  split <;> simp [updateStatistics]

/-- A read of a valid line counts one read; any other read counts two. -/
theorem requestRead_totalReads (hc : c.hasDriver = true) :
    (requestRead c t a m).2.stats.totalReads =
      m.stats.totalReads + if isValid c m a then 1 else 2 := by
  unfold requestRead isValid getState
  cases he : m.directory.lookup (alignToCacheLine c.cacheLineSize a) with
  | none => simp [he, requestReadMiss_totalReads hc]
  | some e => cases hs : e.state <;> simp [he, hs, requestReadMiss_totalReads hc, updateStatistics]

theorem requestWrite_totalWrites (hc : c.hasDriver = true) :
    (requestWrite c t a m).2.stats.totalWrites = m.stats.totalWrites + 2 := by
  simp only [requestWrite, sendCoherenceOpToFpga_eq, hc, if_true]
  split <;> split <;> simp [updateStatistics] <;> split <;> simp

/-- `promote_to_l1` of a line outside L1 sends a read, which counts as one. -/
theorem promoteToL1_totalReads (hc : c.hasDriver = true) :
    (promoteToL1 c t a m).2.stats.totalReads =
      m.stats.totalReads + if getTier c m a = .l1Gpu then 0 else 1 := by
  unfold promoteToL1 getTier getOrCreateEntry
  cases he : m.directory.lookup (alignToCacheLine c.cacheLineSize a) with
  | none =>
      simp only [getEntry_eq, he, DirectoryEntry.fresh, sendCoherenceOpToFpga_eq, hc, if_true,
        Bool.true_and, reduceCtorEq, if_false]
      split <;> rfl
  | some e =>
      by_cases ht : e.tier = .l1Gpu
      · simp [he, ht]
      · simp only [getEntry_eq, he, ht, sendCoherenceOpToFpga_eq, hc, if_true, if_false,
          Bool.true_and]
        split <;> rfl

theorem batchWritebackLoop_writebacksPerformed (addrs : List (BitVec 64)) (b : Bool)
    (m : CoherenceManager) :
    (batchWritebackLoop c t addrs (b, m)).2.stats.writebacksPerformed =
      m.stats.writebacksPerformed := by
  induction addrs generalizing b m with
  | nil => rfl
  | cons addr rest ih =>
      simp only [batchWritebackLoop]
      split
      · split_ifs
        · rw [ih, setEntry_stats, writebacksPerformed_send]
        · exact ih _ _
      · exact ih _ _

/-- With a driver, a read counts two reads unless its line is valid, a write two writes, a
promotion from outside L1 a read, and `batch_writeback` a writeback per address. -/
theorem counters_count_each_send_again (c : Config) (hc : c.hasDriver = true) (t : Transport)
    (m : CoherenceManager) (a : BitVec 64) (addrs : List (BitVec 64)) :
    (requestRead c t a m).2.stats.totalReads =
        m.stats.totalReads + (if isValid c m a then 1 else 2) ∧
      (requestWrite c t a m).2.stats.totalWrites = m.stats.totalWrites + 2 ∧
      (promoteToL1 c t a m).2.stats.totalReads =
        m.stats.totalReads + (if getTier c m a = .l1Gpu then 0 else 1) ∧
      (batchWriteback c t addrs m).2.stats.writebacksPerformed =
        m.stats.writebacksPerformed + addrs.length :=
  ⟨requestRead_totalReads hc, requestWrite_totalWrites hc, promoteToL1_totalReads hc,
    congrArg (· + addrs.length) (batchWritebackLoop_writebacksPerformed addrs true m)⟩

/-- The scenario of `test_read_operations`: two reads of `0x10000` with a 64-byte line count
three reads, not two. -/
theorem two_reads_count_three :
    (requestRead ⟨true, 64⟩ waitForFpgaCompletion 0x10000
      (requestRead ⟨true, 64⟩ waitForFpgaCompletion 0x10000 init).2).2.stats.totalReads = 3 := by
  rw [(counters_count_each_send_again ⟨true, 64⟩ rfl waitForFpgaCompletion _ 0x10000 []).1,
    (counters_count_each_send_again ⟨true, 64⟩ rfl waitForFpgaCompletion init 0x10000 []).1]
  decide

end CxlSpeckv.Coherence
