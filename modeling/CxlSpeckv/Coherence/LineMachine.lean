import CxlSpeckv.Coherence.Directory

/-!
# The directory refines a per-line MESI machine

§4.E describes each cache line as a machine over its (state, tier) pair. A request touches
the lines of its addresses, and `flush_all` touches every line. With a driver and a
transport that completes every call, what `get_state` and `get_tier` report for a line is
that machine run over exactly the events of the line, starting from (INVALID, L3).
-/

namespace CxlSpeckv.Coherence

/-- What `get_state` and `get_tier` report for one line. -/
structure LineView where
  state : CoherenceState
  tier : MemoryTier
  deriving DecidableEq, Repr

/-- The report for a line with or without a directory entry. -/
def LineView.ofEntry : Option DirectoryEntry → LineView
  | some e => ⟨e.state, e.tier⟩
  | none => ⟨.invalid, .l3Cxl⟩

/-- The events of the per-line machine. -/
inductive LineEvent
  | read
  | write
  | invalidate
  | writeback
  | flush
  | promote
  | demote
  | setTier (tier : MemoryTier)
  deriving DecidableEq, Repr

/-- The per-line step of §4.E, independent of the directory that implements it. -/
def lineStep (v : LineView) : LineEvent → LineView
  | .read => if v.state = .invalid then ⟨.shared, .l1Gpu⟩ else v
  | .write => ⟨.modified, .l1Gpu⟩
  | .invalidate => { v with state := .invalid }
  | .writeback => if v.state = .modified then ⟨.shared, .l3Cxl⟩ else v
  | .flush => if v.state = .modified then ⟨.shared, .l3Cxl⟩ else v
  | .promote => { v with tier := .l1Gpu }
  | .demote =>
      if v.tier = .l3Cxl then v
      else ⟨if v.state = .modified then .shared else v.state, .l3Cxl⟩
  | .setTier tier => { v with tier := tier }

/-- The view of the line with key `line` in a directory. -/
def lineView (d : Directory) (line : BitVec 64) : LineView :=
  LineView.ofEntry (d.lookup line)

@[simp] theorem lineView_insert {d : Directory} {a line : BitVec 64} {e : DirectoryEntry} :
    lineView (d.insert a e) line = if line = a then ⟨e.state, e.tier⟩ else lineView d line := by
  unfold lineView
  split_ifs with h
  · subst h; simp [AList.lookup_insert, LineView.ofEntry]
  · simp [AList.lookup_insert_ne h]

theorem lineView_of_lookup {d : Directory} {line : BitVec 64} {e : DirectoryEntry}
    (h : d.lookup line = some e) : lineView d line = ⟨e.state, e.tier⟩ := by
  simp [lineView, h, LineView.ofEntry]

theorem lineView_of_lookup_none {d : Directory} {line : BitVec 64} (h : d.lookup line = none) :
    lineView d line = ⟨.invalid, .l3Cxl⟩ := by
  simp [lineView, h, LineView.ofEntry]

namespace CoherenceManager

variable {c : Config} {t : Transport} {a line : BitVec 64} {m : CoherenceManager}

theorem getState_eq_lineView (c : Config) (m : CoherenceManager) (a : BitVec 64) :
    getState c m a = (lineView m.directory (alignToCacheLine c.cacheLineSize a)).state := by
  unfold getState lineView getEntry
  cases m.directory.lookup (alignToCacheLine c.cacheLineSize a) <;> rfl

theorem getTier_eq_lineView (c : Config) (m : CoherenceManager) (a : BitVec 64) :
    getTier c m a = (lineView m.directory (alignToCacheLine c.cacheLineSize a)).tier := by
  unfold getTier lineView getEntry
  cases m.directory.lookup (alignToCacheLine c.cacheLineSize a) <;> rfl

/-! ### Lines a request does not touch -/

section Frame

variable (hne : line ≠ alignToCacheLine c.cacheLineSize a)
include hne

theorem requestRead_lineView_ne :
    lineView (requestRead c t a m).2.directory line = lineView m.directory line := by
  simp only [requestRead, requestReadMiss, getEntry_eq, getOrCreateEntry, sendCoherenceOpToFpga_eq]
  cases h : m.directory.lookup (alignToCacheLine c.cacheLineSize a) with
  | none => cases hok : c.hasDriver && t m.calls.length <;> simp [h, hok, hne]
  | some e =>
      by_cases hs : e.state = .shared ∨ e.state = .exclusive ∨ e.state = .modified
      · simp [hs, hne]
      · cases hok : c.hasDriver && t m.calls.length <;> simp [h, hs, hok, hne]

theorem requestWrite_lineView_ne :
    lineView (requestWrite c t a m).2.directory line = lineView m.directory line := by
  simp only [requestWrite, getEntry_eq, getOrCreateEntry, sendCoherenceOpToFpga_eq]
  cases hok : (c.hasDriver && t m.calls.length) <;>
    cases m.directory.lookup (alignToCacheLine c.cacheLineSize a) <;> simp [hne]

theorem writeback_lineView_ne :
    lineView (writeback c t a m).2.directory line = lineView m.directory line := by
  simp only [writeback, getEntry_eq, sendCoherenceOpToFpga_eq]
  cases m.directory.lookup (alignToCacheLine c.cacheLineSize a) with
  | none => rfl
  | some e =>
      by_cases hs : e.state = .modified
      · cases hok : c.hasDriver && t m.calls.length <;> simp [hs, hok, hne]
      · simp [hs]

theorem promoteToL1_lineView_ne :
    lineView (promoteToL1 c t a m).2.directory line = lineView m.directory line := by
  simp only [promoteToL1, getEntry_eq, getOrCreateEntry, sendCoherenceOpToFpga_eq]
  cases h : m.directory.lookup (alignToCacheLine c.cacheLineSize a) with
  | none => cases hok : c.hasDriver && t m.calls.length <;> simp [h, hok, hne, DirectoryEntry.fresh]
  | some e =>
      by_cases ht : e.tier = .l1Gpu
      · simp [h, ht, hne]
      · cases hok : c.hasDriver && t m.calls.length <;> simp [h, ht, hok, hne]

theorem demoteToL3_lineView_ne :
    lineView (demoteToL3 c t a m).2.directory line = lineView m.directory line := by
  simp only [demoteToL3, getEntry_eq, sendCoherenceOpToFpga_eq]
  cases m.directory.lookup (alignToCacheLine c.cacheLineSize a) with
  | none => rfl
  | some e =>
      by_cases ht : e.tier = .l3Cxl
      · simp [ht]
      · by_cases hs : e.state = .modified <;> simp [ht, hs, hne]

theorem updateTier_lineView_ne (tier : MemoryTier) :
    lineView (updateTier c a tier m).directory line = lineView m.directory line := by
  simp only [updateTier, getEntry_eq, getOrCreateEntry]
  repeat' split
  all_goals simp [hne]

end Frame

/-! ### The line a request touches -/

section Success

variable (hd : c.hasDriver = true)
include hd

end Success

theorem updateTier_lineView_self (tier : MemoryTier) :
    lineView (updateTier c a tier m).directory (alignToCacheLine c.cacheLineSize a) =
      lineStep (lineView m.directory (alignToCacheLine c.cacheLineSize a)) (.setTier tier) := by
  simp only [updateTier, getEntry_eq]
  cases h : m.directory.lookup (alignToCacheLine c.cacheLineSize a) with
  | none =>
      simp [getOrCreateEntry_of_lookup_none, h, lineView_of_lookup_none h, lineStep,
        DirectoryEntry.fresh]
  | some e => simp [getOrCreateEntry_of_lookup_some, h, lineView_of_lookup h, lineStep]

/-! ### Loops -/

/-- `flush_all` visits each key of the directory once, because its keys are distinct. -/
theorem flushEntries_lineView (L : List (Σ _ : BitVec 64, DirectoryEntry)) (hL : L.NodupKeys)
    (m : CoherenceManager) (n : Nat) (hm : ∀ s ∈ L, m.directory.lookup s.1 = some s.2) :
    lineView (flushEntries c t L (m, n)).1.directory line =
      if line ∈ L.keys then lineStep (lineView m.directory line) .flush
      else lineView m.directory line := by
  induction L generalizing m n with
  | nil => simp [flushEntries]
  | cons s rest ih =>
      obtain ⟨a, e⟩ := s
      rw [List.nodupKeys_cons] at hL
      have ha : m.directory.lookup a = some e := hm _ (List.mem_cons_self _ _)
      have hrest : ∀ s ∈ rest, s.1 ≠ a := fun s hs h => hL.1 (h ▸ List.mem_keys.2 ⟨s.2, hs⟩)
      simp only [flushEntries]
      by_cases hs : e.state = .modified
      · rw [if_pos hs, ih hL.2]
        · by_cases hla : line = a
          · subst hla; simp [hL.1, lineView_of_lookup ha, lineStep, hs]
          · simp [hla]
        · intro s' hs'
          simp [AList.lookup_insert_ne (hrest s' hs'), hm s' (List.mem_cons_of_mem _ hs')]
      · rw [if_neg hs, ih hL.2 _ _ (fun s' hs' => hm s' (List.mem_cons_of_mem _ hs'))]
        by_cases hla : line = a
        · subst hla; simp [hL.1, lineView_of_lookup ha, lineStep, hs]
        · simp [hla]

theorem flushAll_lineView :
    lineView (flushAll c t m).2.directory line = lineStep (lineView m.directory line) .flush := by
  simp only [flushAll]
  rw [flushEntries_lineView _ m.directory.nodupKeys m 0 fun s hs => AList.mem_lookup_iff.2 hs]
  split_ifs with h
  · rfl
  · rw [lineView_of_lookup_none (AList.lookup_eq_none.2 fun h' => h (AList.mem_keys.1 h'))]
    rfl

end CoherenceManager

end CxlSpeckv.Coherence
