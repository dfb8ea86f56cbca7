import CxlSpeckv.Coherence.LineMachine

/-!
# Writebacks and transport failures

Two laws of §3 and §4.E, each stated for one request: a modified line is written back
before it leaves MODIFIED, and a failed transport call leaves the directory as it was.
`request_read`, `request_write`, `writeback` and `promote_to_l1` keep the failure law.
`flush_all` is best-effort: it ignores the answers of its writebacks. `invalidate` marks
the entry invalid before it asks the transport, and sends no writeback for a modified line.
-/

namespace CxlSpeckv.Coherence

open CoherenceManager

/-- The failure law for one request: when a transport call it makes fails, the request
returns `false` and every address reports the state and tier it reported before. -/
def FailSafe (c : Config) (t : Transport) (m : CoherenceManager) (r : Request) : Prop :=
  (∃ k ∈ (r.exec c t m).2.calls.drop m.calls.length, k.ok = false) →
    (r.exec c t m).1 = false ∧
      ∀ a, getState c (r.exec c t m).2 a = getState c m a ∧
        getTier c (r.exec c t m).2 a = getTier c m a

/-- The writeback law for one request and one address: if the request takes the line out
of MODIFIED, one of the transport calls it makes is a writeback of that line. -/
def WritesBackBeforeDrop (c : Config) (t : Transport) (m : CoherenceManager) (r : Request)
    (a : BitVec 64) : Prop :=
  getState c m a = .modified → getState c (r.exec c t m).2 a ≠ .modified →
    ∃ k ∈ (r.exec c t m).2.calls.drop m.calls.length,
      k.op = .writeback ∧ k.addr = alignToCacheLine c.cacheLineSize a

variable {c : Config} {t : Transport} {a : BitVec 64} {m : CoherenceManager}

theorem failSafe_of_lineView {r : Request}
    (h : (∃ k ∈ (r.exec c t m).2.calls.drop m.calls.length, k.ok = false) →
      (r.exec c t m).1 = false ∧
        ∀ line, lineView (r.exec c t m).2.directory line = lineView m.directory line) :
    FailSafe c t m r := fun hk =>
  ⟨(h hk).1, fun a => by simp [getState_eq_lineView, getTier_eq_lineView, (h hk).2]⟩

theorem requestRead_failSafe : FailSafe c t m (.requestRead a) := by
  apply failSafe_of_lineView
  simp only [Request.exec, requestRead, requestReadMiss, getEntry_eq, sendCoherenceOpToFpga_eq]
  cases h : m.directory.lookup (alignToCacheLine c.cacheLineSize a) with
  | none => cases hok : c.hasDriver && t m.calls.length <;> simp [hok]
  | some e =>
      by_cases hs : e.state = .shared ∨ e.state = .exclusive ∨ e.state = .modified
      · simp [hs]
      · cases hok : c.hasDriver && t m.calls.length <;> simp [hs, hok]

theorem requestWrite_failSafe : FailSafe c t m (.requestWrite a) := by
  apply failSafe_of_lineView
  simp only [Request.exec, requestWrite, getEntry_eq, sendCoherenceOpToFpga_eq]
  cases c.hasDriver && t m.calls.length <;> simp

theorem writeback_failSafe : FailSafe c t m (.writeback a) := by
  apply failSafe_of_lineView
  simp only [Request.exec, writeback, getEntry_eq, sendCoherenceOpToFpga_eq]
  cases h : m.directory.lookup (alignToCacheLine c.cacheLineSize a) with
  | none => simp
  | some e =>
      by_cases hs : e.state = .modified
      · cases hok : c.hasDriver && t m.calls.length <;> simp [hs, hok]
      · simp [hs]

/-- A line created by `get_or_create_entry` before a failed read reports what a missing
entry reports. -/
theorem promoteToL1_failSafe : FailSafe c t m (.promoteToL1 a) := by
  apply failSafe_of_lineView
  simp only [Request.exec, promoteToL1, getEntry_eq, sendCoherenceOpToFpga_eq]
  cases h : m.directory.lookup (alignToCacheLine c.cacheLineSize a) with
  | none =>
      simp only [getOrCreateEntry_of_lookup_none h, setEntry_calls]
      cases hok : c.hasDriver && t m.calls.length <;>
        simp [hok, DirectoryEntry.fresh, lineView_of_lookup_none h]
  | some e =>
      simp only [getOrCreateEntry_of_lookup_some h]
      by_cases ht : e.tier = .l1Gpu
      · simp [ht]
      · cases hok : c.hasDriver && t m.calls.length <;> simp [ht, hok]

/-- The requests that check their transport call keep the failure law for every transport and
directory; `flush_all` answers `true` whatever happens and moves lines by the flush step. -/
theorem transport_failure_semantics (c : Config) (t : Transport) (m : CoherenceManager)
    (a : BitVec 64) :
    FailSafe c t m (.requestRead a) ∧ FailSafe c t m (.requestWrite a) ∧
      FailSafe c t m (.writeback a) ∧ FailSafe c t m (.promoteToL1 a) ∧
      (Request.flushAll.exec c t m).1 = true ∧
      ∀ b, (⟨getState c (Request.flushAll.exec c t m).2 b,
          getTier c (Request.flushAll.exec c t m).2 b⟩ : LineView) =
        lineStep ⟨getState c m b, getTier c m b⟩ .flush := by
  refine ⟨requestRead_failSafe, requestWrite_failSafe, writeback_failSafe, promoteToL1_failSafe,
    rfl, fun b => ?_⟩
  simp only [getState_eq_lineView, getTier_eq_lineView, Request.exec, flushAll_lineView]

/-- A modified line whose writeback fails during `flush_all` is still reported clean, and
`flush_all` reports success. -/
theorem flushAll_reports_success_after_failed_writeback :
    let c : Config := ⟨true, 64⟩
    let t : Transport := fun n => decide (n = 0)
    ¬ FailSafe c t ((Request.requestWrite 0).exec c t init).2 .flushAll := by
  intro c t h
  obtain ⟨hok, -⟩ := h ⟨⟨.writeback, 0, false⟩, by decide, rfl⟩
  exact absurd hok (by decide)

/-- `invalidate` takes a modified line to INVALID with one transport call, an invalidation. -/
theorem invalidate_drops_modified_line_without_writeback :
    let c : Config := ⟨true, 64⟩
    ¬ WritesBackBeforeDrop c waitForFpgaCompletion
      ((Request.requestWrite 0).exec c waitForFpgaCompletion init).2 (.invalidate 0) 0 := by
  unfold WritesBackBeforeDrop
  decide

end CxlSpeckv.Coherence
