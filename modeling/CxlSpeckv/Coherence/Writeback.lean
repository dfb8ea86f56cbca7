import CxlSpeckv.Coherence.Safety

/-!
# Dirty lines are written back

Every operation except `invalidate` and `batch_invalidate` keeps the writeback law of §4.E
over whole runs, whatever the transport answers: a line that leaves MODIFIED has had a
WRITEBACK sent for it since it was modified. `writeback`, `demote_to_l3`, `flush_all` and
`batch_writeback` send one before they mark the line clean; the other operations never take
a line out of MODIFIED.
-/

namespace CxlSpeckv.Coherence

open CoherenceManager

/-- Some transport call made after the first `n` is a writeback of `line`. -/
def SentWriteback (calls : List TransportCall) (n : Nat) (line : BitVec 64) : Prop :=
  ∃ k ∈ calls.drop n, k.op = .writeback ∧ k.addr = line

section SentWriteback

variable {calls calls' : List TransportCall} {n n' : Nat} {line : BitVec 64}

theorem sentWriteback_append_self (ok : Bool) :
    SentWriteback (calls ++ [⟨.writeback, line, ok⟩]) calls.length line :=
  ⟨⟨.writeback, line, ok⟩, by simp, rfl, rfl⟩

theorem SentWriteback.mono (h : SentWriteback calls n line) (hp : calls <+: calls') :
    SentWriteback calls' n line := by
  obtain ⟨k, hk, hop⟩ := h
  obtain ⟨r, rfl⟩ := hp
  exact ⟨k, by rw [List.drop_append_eq_append_drop]; exact List.mem_append_left _ hk, hop⟩

theorem SentWriteback.of_le (h : SentWriteback calls n' line) (hn : n ≤ n') :
    SentWriteback calls n line := by
  obtain ⟨k, hk, hop⟩ := h
  refine ⟨k, ?_, hop⟩
  rw [show n' = n + (n' - n) by omega, ← List.drop_drop] at hk
  exact List.mem_of_mem_drop hk

end SentWriteback

variable {c : Config} {t : Transport} {m : CoherenceManager}

/-- The requests that mark lines INVALID without a writeback. -/
def Request.invalidates : Request → Bool
  | .invalidate _ | .batchInvalidate _ => true
  | _ => false

/-- The writeback law of one step, line by line: a line that leaves MODIFIED has had a
writeback sent in the step. -/
def KeepsDirtyLines (m m' : CoherenceManager) : Prop :=
  ∀ line, (lineView m.directory line).state = .modified →
    (lineView m'.directory line).state ≠ .modified → SentWriteback m'.calls m.calls.length line

/-- A step that writes only the line `l`, and keeps it MODIFIED or writes it back, keeps the
law. -/
theorem keepsDirtyLines_of_line {m' : CoherenceManager} {l : BitVec 64}
    (hne : ∀ line, line ≠ l → lineView m'.directory line = lineView m.directory line)
    (hl : (lineView m.directory l).state = .modified →
      (lineView m'.directory l).state = .modified ∨ SentWriteback m'.calls m.calls.length l) :
    KeepsDirtyLines m m' := by
  intro line h₁ h₂
  by_cases hline : line = l
  · subst hline
    exact (hl h₁).resolve_left h₂
  · exact absurd (hne line hline ▸ h₁) h₂

theorem send_calls (op : CoherenceOp) (a : BitVec 64) :
    (sendCoherenceOpToFpga c t op a m).2.calls = m.calls ++ [⟨op, a, c.hasDriver && t m.calls.length⟩] := by
  rw [sendCoherenceOpToFpga_eq]

theorem flushEntries_calls_extend (L : List (Σ _ : BitVec 64, DirectoryEntry))
    (m : CoherenceManager) (n : Nat) : m.calls <+: (flushEntries c t L (m, n)).1.calls := by
  induction L generalizing m n with
  | nil => exact List.prefix_refl _
  | cons s rest ih =>
      obtain ⟨a, e⟩ := s
      simp only [flushEntries]
      split_ifs
      · refine List.IsPrefix.trans ?_ (ih _ _)
        simp [send_calls]
      · exact ih _ _

/-- `flush_all` sends a writeback for every modified entry it visits. -/
theorem flushEntries_sentWriteback (L : List (Σ _ : BitVec 64, DirectoryEntry))
    (m : CoherenceManager) (n : Nat) :
    ∀ s ∈ L, s.2.state = .modified →
      SentWriteback (flushEntries c t L (m, n)).1.calls m.calls.length s.1 := by
  induction L generalizing m n with
  | nil => intro s hs; cases hs
  | cons s rest ih =>
      obtain ⟨a, e⟩ := s
      intro s' hs' hmod
      simp only [flushEntries]
      split_ifs with he
      · rcases List.mem_cons.1 hs' with rfl | hs'
        · refine (sentWriteback_append_self (c.hasDriver && t m.calls.length)).mono
            (List.IsPrefix.trans ?_ (flushEntries_calls_extend _ _ _))
          simp [send_calls]
        · refine (ih _ _ s' hs' hmod).of_le ?_
          simp [send_calls]
      · rcases List.mem_cons.1 hs' with rfl | hs'
        · exact absurd hmod he
        · exact ih _ _ s' hs' hmod

theorem batchWritebackLoop_calls_extend (as : List (BitVec 64)) (b : Bool)
    (m : CoherenceManager) : m.calls <+: (batchWritebackLoop c t as (b, m)).2.calls := by
  induction as generalizing b m with
  | nil => exact List.prefix_refl _
  | cons addr rest ih =>
      simp only [batchWritebackLoop, getEntry_eq, sendCoherenceOpToFpga_eq]
      split
      · next e _ =>
          by_cases hs : e.state = .modified
          · rw [if_pos hs]
            refine List.IsPrefix.trans ?_ (ih _ _)
            simp
          · rw [if_neg hs]
            exact ih _ _
      · exact ih _ _

/-- `batch_writeback` keeps a modified line modified or sends a writeback of it. -/
theorem batchWritebackLoop_keepsDirty (as : List (BitVec 64)) (b : Bool) (m : CoherenceManager)
    (line : BitVec 64) (hmod : (lineView m.directory line).state = .modified) :
    (lineView (batchWritebackLoop c t as (b, m)).2.directory line).state = .modified ∨
      SentWriteback (batchWritebackLoop c t as (b, m)).2.calls m.calls.length line := by
  induction as generalizing b m with
  | nil => exact .inl hmod
  | cons addr rest ih =>
      simp only [batchWritebackLoop, getEntry_eq, sendCoherenceOpToFpga_eq]
      split
      · next e _ =>
          by_cases hs : e.state = .modified
          · rw [if_pos hs]
            by_cases hl : alignToCacheLine c.cacheLineSize addr = line
            · subst hl
              refine .inr ((sentWriteback_append_self (c.hasDriver && t m.calls.length)).mono
                (List.IsPrefix.trans ?_ (batchWritebackLoop_calls_extend _ _ _)))
              simp
            · refine (ih _ _ (by simpa [Ne.symm hl] using hmod)).imp_right fun h => h.of_le ?_
              simp
          · rw [if_neg hs]
            exact ih _ _ hmod
      · exact ih _ _ hmod

theorem batchInvalidateLoop_calls_extend (as : List (BitVec 64)) (b : Bool)
    (m : CoherenceManager) : m.calls <+: (batchInvalidateLoop c t as (b, m)).2.calls := by
  induction as generalizing b m with
  | nil => exact List.prefix_refl _
  | cons addr rest ih =>
      simp only [batchInvalidateLoop, getEntry_eq, sendCoherenceOpToFpga_eq]
      split
      · exact ih _ _
      · refine List.IsPrefix.trans ?_ (ih _ _)
        simp

/-- Every call only appends to the log of transport calls. -/
theorem exec_calls_extend (r : Request) (m : CoherenceManager) :
    m.calls <+: (r.exec c t m).2.calls := by
  cases r with
  | flushAll => exact flushEntries_calls_extend _ _ _
  | batchInvalidate as => exact batchInvalidateLoop_calls_extend _ _ _
  | batchWriteback as => exact batchWritebackLoop_calls_extend _ _ _
  | resetStatistics => exact List.prefix_refl _
  | updateTier a tier => simp [Request.exec, updateTier]
  | requestWrite a =>
      simp only [Request.exec, requestWrite, sendCoherenceOpToFpga_eq]
      cases c.hasDriver && t m.calls.length <;> simp
  | promoteToL1 a =>
      simp only [Request.exec, promoteToL1, sendCoherenceOpToFpga_eq, getOrCreateEntry_calls]
      by_cases ht : (m.getOrCreateEntry (alignToCacheLine c.cacheLineSize a)).1.tier = .l1Gpu
      · simp [ht]
      · cases hok : c.hasDriver && t m.calls.length <;> simp [ht, hok]
  | invalidate a =>
      simp only [Request.exec, invalidate, getEntry_eq, sendCoherenceOpToFpga_eq]
      cases m.directory.lookup (alignToCacheLine c.cacheLineSize a) <;> simp
  | requestRead a =>
      simp only [Request.exec, requestRead, requestReadMiss, getEntry_eq, sendCoherenceOpToFpga_eq]
      cases m.directory.lookup (alignToCacheLine c.cacheLineSize a) with
      | none => cases hok : c.hasDriver && t m.calls.length <;> simp [hok]
      | some e =>
          by_cases hs : e.state = .shared ∨ e.state = .exclusive ∨ e.state = .modified
          · simp [hs]
          · cases hok : c.hasDriver && t m.calls.length <;> simp [hs, hok]
  | writeback a =>
      simp only [Request.exec, writeback, getEntry_eq, sendCoherenceOpToFpga_eq]
      cases m.directory.lookup (alignToCacheLine c.cacheLineSize a) with
      | none => simp
      | some e =>
          by_cases hs : e.state = .modified
          · cases hok : c.hasDriver && t m.calls.length <;> simp [hs, hok]
          · simp [hs]
  | demoteToL3 a =>
      simp only [Request.exec, demoteToL3, getEntry_eq, sendCoherenceOpToFpga_eq]
      cases m.directory.lookup (alignToCacheLine c.cacheLineSize a) with
      | none => simp
      | some e =>
          by_cases ht : e.tier = .l3Cxl
          · simp [ht]
          · by_cases hs : e.state = .modified <;> simp [ht, hs]

theorem run_calls_extend (rs : List Request) (m : CoherenceManager) :
    m.calls <+: (run c t rs m).calls := by
  induction rs generalizing m with
  | nil => exact List.prefix_refl _
  | cons r rs ih => exact (exec_calls_extend r m).trans (ih _)

section Steps

variable {a : BitVec 64}

theorem requestRead_keepsDirty :
    (lineView m.directory (alignToCacheLine c.cacheLineSize a)).state = .modified →
      (lineView (requestRead c t a m).2.directory (alignToCacheLine c.cacheLineSize a)).state =
        .modified := by
  simp only [requestRead, getEntry_eq]
  cases h : m.directory.lookup (alignToCacheLine c.cacheLineSize a) with
  | none => simp [lineView_of_lookup_none h]
  | some e => intro hs; simp_all [lineView_of_lookup h]

theorem requestWrite_keepsDirty :
    (lineView m.directory (alignToCacheLine c.cacheLineSize a)).state = .modified →
      (lineView (requestWrite c t a m).2.directory (alignToCacheLine c.cacheLineSize a)).state =
        .modified := by
  simp only [requestWrite, getEntry_eq, sendCoherenceOpToFpga_eq]
  cases c.hasDriver && t m.calls.length <;> simp

theorem promoteToL1_keepsDirty :
    (lineView m.directory (alignToCacheLine c.cacheLineSize a)).state = .modified →
      (lineView (promoteToL1 c t a m).2.directory (alignToCacheLine c.cacheLineSize a)).state =
        .modified := by
  simp only [promoteToL1, getEntry_eq, sendCoherenceOpToFpga_eq]
  cases h : m.directory.lookup (alignToCacheLine c.cacheLineSize a) with
  | none => simp [lineView_of_lookup_none h]
  | some e =>
      simp only [getOrCreateEntry_of_lookup_some h, lineView_of_lookup h]
      intro (hs : e.state = .modified)
      cases c.hasDriver && t m.calls.length <;> by_cases ht : e.tier = .l1Gpu <;>
        simp [hs, ht, lineView_of_lookup h]

theorem updateTier_keepsDirty (tier : MemoryTier) :
    (lineView m.directory (alignToCacheLine c.cacheLineSize a)).state = .modified →
      (lineView (updateTier c a tier m).directory (alignToCacheLine c.cacheLineSize a)).state =
        .modified := by
  rw [updateTier_lineView_self]; exact id

theorem writeback_keepsDirty :
    (lineView m.directory (alignToCacheLine c.cacheLineSize a)).state = .modified →
      (lineView (writeback c t a m).2.directory (alignToCacheLine c.cacheLineSize a)).state =
          .modified ∨
        SentWriteback (writeback c t a m).2.calls m.calls.length (alignToCacheLine c.cacheLineSize a) := by
  simp only [writeback, getEntry_eq, sendCoherenceOpToFpga_eq]
  cases h : m.directory.lookup (alignToCacheLine c.cacheLineSize a) with
  | none => simp [lineView_of_lookup_none h]
  | some e =>
      rw [lineView_of_lookup h]
      intro (hs : e.state = .modified)
      cases c.hasDriver && t m.calls.length <;> simp [hs, lineView_of_lookup h, SentWriteback]

theorem demoteToL3_keepsDirty :
    (lineView m.directory (alignToCacheLine c.cacheLineSize a)).state = .modified →
      (lineView (demoteToL3 c t a m).2.directory (alignToCacheLine c.cacheLineSize a)).state =
          .modified ∨
        SentWriteback (demoteToL3 c t a m).2.calls m.calls.length (alignToCacheLine c.cacheLineSize a) := by
  simp only [demoteToL3, getEntry_eq, sendCoherenceOpToFpga_eq]
  cases h : m.directory.lookup (alignToCacheLine c.cacheLineSize a) with
  | none => simp [lineView_of_lookup_none h]
  | some e =>
      rw [lineView_of_lookup h]
      intro (hs : e.state = .modified)
      by_cases ht : e.tier = .l3Cxl <;> simp [hs, ht, lineView_of_lookup h, SentWriteback]

end Steps

theorem flushAll_keepsDirtyLines : KeepsDirtyLines m (flushAll c t m).2 := by
  intro line h₁ _
  cases he : m.directory.lookup line with
  | none => simp [lineView_of_lookup_none he] at h₁
  | some e =>
      rw [lineView_of_lookup he] at h₁
      exact flushEntries_sentWriteback _ m 0 ⟨line, e⟩ (AList.mem_lookup_iff.1 he) h₁

theorem batchWriteback_keepsDirtyLines (as : List (BitVec 64)) :
    KeepsDirtyLines m (batchWriteback c t as m).2 := fun line h₁ h₂ =>
  (batchWritebackLoop_keepsDirty as true m line h₁).resolve_left h₂

/-- One request that does not invalidate keeps the writeback law on every line. -/
theorem exec_keepsDirtyLines {r : Request} (hr : r.invalidates = false) :
    KeepsDirtyLines m (r.exec c t m).2 := by
  cases r with
  | requestRead a =>
      exact keepsDirtyLines_of_line (fun _ h => requestRead_lineView_ne h)
        fun h => .inl (requestRead_keepsDirty h)
  | requestWrite a =>
      exact keepsDirtyLines_of_line (fun _ h => requestWrite_lineView_ne h)
        fun h => .inl (requestWrite_keepsDirty h)
  | writeback a =>
      exact keepsDirtyLines_of_line (fun _ h => writeback_lineView_ne h) writeback_keepsDirty
  | flushAll => exact flushAll_keepsDirtyLines
  | promoteToL1 a =>
      exact keepsDirtyLines_of_line (fun _ h => promoteToL1_lineView_ne h)
        fun h => .inl (promoteToL1_keepsDirty h)
  | demoteToL3 a =>
      exact keepsDirtyLines_of_line (fun _ h => demoteToL3_lineView_ne h) demoteToL3_keepsDirty
  | updateTier a tier =>
      exact keepsDirtyLines_of_line (fun _ h => updateTier_lineView_ne h tier)
        fun h => .inl (updateTier_keepsDirty tier h)
  | batchWriteback as => exact batchWriteback_keepsDirtyLines as
  | resetStatistics => exact fun _ h₁ h₂ => absurd h₁ h₂
  | invalidate a => cases hr
  | batchInvalidate as => cases hr

/-- Over any run without `invalidate` or `batch_invalidate`, a line that leaves MODIFIED has
had a WRITEBACK of that line sent during the run. -/
theorem dirty_lines_written_back (c : Config) (t : Transport) (rs : List Request)
    (m : CoherenceManager) (hrs : ∀ r ∈ rs, r.invalidates = false) (a : BitVec 64)
    (h₁ : getState c m a = .modified) (h₂ : getState c (run c t rs m) a ≠ .modified) :
    ∃ k ∈ (run c t rs m).calls.drop m.calls.length,
      k.op = .writeback ∧ k.addr = alignToCacheLine c.cacheLineSize a := by
  rw [getState_eq_lineView] at h₁ h₂
  induction rs generalizing m with
  | nil => exact absurd h₁ h₂
  | cons r rs ih =>
      have hr := hrs r (List.mem_cons_self _ _)
      have hp := exec_calls_extend (c := c) (t := t) r m
      by_cases hmid : (lineView (r.exec c t m).2.directory
          (alignToCacheLine c.cacheLineSize a)).state = .modified
      · exact SentWriteback.of_le (ih _ (fun r' h => hrs r' (List.mem_cons_of_mem _ h)) hmid h₂)
          hp.length_le
      · exact (exec_keepsDirtyLines hr _ h₁ hmid).mono (run_calls_extend rs _)

/-- Demoting a line just written writes it back. -/
theorem demote_writes_back_dirty_line :
    let c : Config := ⟨true, 64⟩
    let m := ((Request.requestWrite 0).exec c waitForFpgaCompletion init).2
    ∃ k ∈ (run c waitForFpgaCompletion [.demoteToL3 0] m).calls.drop m.calls.length,
      k.op = .writeback ∧ k.addr = alignToCacheLine c.cacheLineSize 0 :=
  dirty_lines_written_back _ _ [.demoteToL3 0] _ (by decide) 0 (by decide) (by decide)

end CxlSpeckv.Coherence
