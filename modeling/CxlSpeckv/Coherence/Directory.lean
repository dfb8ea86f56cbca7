import Mathlib.Data.List.AList
import Mathlib.Algebra.Group.Nat.Basic

/-!
# The host-side shadow coherence directory

`CoherenceManager` keeps one directory entry per cache-line-aligned address and drives
every coherence action through `send_coherence_op_to_fpga`. The map `directory_` is an
association list here; `flush_all` walks its entries in list order, which is one of the
orders an `unordered_map` may use.

## Implementation notes

The constructor's arguments (whether a driver is attached, the line size) are never
reassigned, so they are a `Config` passed to every operation. The outcome of each transport
call is a parameter too: `Transport` answers the `n`-th call of `send_coherence_op_to_fpga`
since construction. The source's `wait_for_fpga_completion` always answers `true`. Every
call is recorded in `calls`, so that properties about which transport operations an
operation issued can be stated. Clock readings (`last_access_time`) and the payload
pointers are not modelled.
-/

namespace CxlSpeckv.Coherence

/-- MESI states of a directory entry. -/
inductive CoherenceState
  | invalid
  | shared
  | exclusive
  | modified
  deriving DecidableEq, Repr

/-- Where the line currently lives. -/
inductive MemoryTier
  | l1Gpu
  | l2Prefetch
  | l3Cxl
  deriving DecidableEq, Repr

/-- Operation codes sent to the home agent. -/
inductive CoherenceOp
  | read
  | write
  | invalidate
  | writeback
  | flush
  deriving DecidableEq, Repr

/-- A shadow entry of the FPGA directory; `access_count` is a `uint32_t`. -/
structure DirectoryEntry where
  cacheLineAddr : BitVec 64
  state : CoherenceState
  tier : MemoryTier
  accessCount : BitVec 32
  deriving DecidableEq, Repr

/-- `DirectoryEntry()` as `get_or_create_entry` stores it for a new line. -/
def DirectoryEntry.fresh (addr : BitVec 64) : DirectoryEntry :=
  ⟨addr, .invalid, .l3Cxl, 0⟩

/-- The seven counters of `Statistics`; 64-bit counters are taken to be unbounded. -/
structure Statistics where
  totalReads : Nat
  totalWrites : Nat
  coherenceOps : Nat
  invalidationsSent : Nat
  writebacksPerformed : Nat
  directoryHits : Nat
  directoryMisses : Nat
  deriving DecidableEq, Repr

/-- `memset(&stats_, 0, ...)`. -/
def Statistics.zero : Statistics := ⟨0, 0, 0, 0, 0, 0, 0⟩

/-- One call of `send_coherence_op_to_fpga` and the answer it returned. -/
structure TransportCall where
  op : CoherenceOp
  addr : BitVec 64
  ok : Bool
  deriving DecidableEq, Repr

/-- The answer of the transport to its `n`-th call. -/
abbrev Transport := Nat → Bool

/-- The source's `wait_for_fpga_completion`: every operation completes at once. -/
def waitForFpgaCompletion : Transport := fun _ => true

abbrev Directory := AList (fun _ : BitVec 64 => DirectoryEntry)

/-- The constructor's arguments: `driver_` non-null, and `cache_line_size_`. -/
structure Config where
  hasDriver : Bool
  cacheLineSize : BitVec 64 := 64
  deriving DecidableEq, Repr

/-- The mutable part of a `CoherenceManager`, with the log of its transport calls. -/
structure CoherenceManager where
  directory : Directory
  stats : Statistics
  calls : List TransportCall
  deriving DecidableEq

/-- `align_to_cache_line`. -/
def alignToCacheLine (cacheLineSize addr : BitVec 64) : BitVec 64 :=
  addr &&& ~~~(cacheLineSize - 1)

namespace CoherenceManager

/-- The constructor: an empty directory and zeroed statistics. -/
def init : CoherenceManager := ⟨∅, Statistics.zero, []⟩

def getEntry (m : CoherenceManager) (addr : BitVec 64) : Option DirectoryEntry :=
  m.directory.lookup addr

/-- Writing through the entry pointer of a line. -/
def setEntry (m : CoherenceManager) (addr : BitVec 64) (e : DirectoryEntry) :
    CoherenceManager :=
  { m with directory := m.directory.insert addr e }

def getOrCreateEntry (m : CoherenceManager) (addr : BitVec 64) :
    DirectoryEntry × CoherenceManager :=
  match m.getEntry addr with
  | some e => (e, m)
  | none => (DirectoryEntry.fresh addr, m.setEntry addr (DirectoryEntry.fresh addr))

def updateStatistics (s : Statistics) : CoherenceOp → Bool → Statistics
  | .read, hit =>
      if hit then { s with totalReads := s.totalReads + 1, directoryHits := s.directoryHits + 1 }
      else { s with totalReads := s.totalReads + 1, directoryMisses := s.directoryMisses + 1 }
  | .write, hit =>
      if hit then { s with totalWrites := s.totalWrites + 1, directoryHits := s.directoryHits + 1 }
      else { s with totalWrites := s.totalWrites + 1, directoryMisses := s.directoryMisses + 1 }
  | _, _ => { s with coherenceOps := s.coherenceOps + 1 }

/-- Without a driver the call fails at once; otherwise the transport answers it and the
statistics count it as a hit. -/
def sendCoherenceOpToFpga (c : Config) (t : Transport) (op : CoherenceOp) (addr : BitVec 64)
    (m : CoherenceManager) : Bool × CoherenceManager :=
  if c.hasDriver then
    let ok := t m.calls.length
    (ok, { m with calls := m.calls ++ [⟨op, addr, ok⟩], stats := updateStatistics m.stats op true })
  else (false, { m with calls := m.calls ++ [⟨op, addr, false⟩] })

section Frame

variable {c : Config} {t : Transport} {op : CoherenceOp} {a : BitVec 64} {e : DirectoryEntry}
  {m : CoherenceManager}

@[simp] theorem getEntry_eq : m.getEntry a = m.directory.lookup a := rfl

@[simp] theorem setEntry_directory : (m.setEntry a e).directory = m.directory.insert a e := rfl

@[simp] theorem setEntry_calls : (m.setEntry a e).calls = m.calls := rfl

@[simp] theorem setEntry_stats : (m.setEntry a e).stats = m.stats := rfl

@[simp] theorem getOrCreateEntry_calls : (m.getOrCreateEntry a).2.calls = m.calls := by
  unfold getOrCreateEntry; split <;> rfl

theorem getOrCreateEntry_of_lookup_some (h : m.directory.lookup a = some e) :
    m.getOrCreateEntry a = (e, m) := by
  simp [getOrCreateEntry, h]

theorem getOrCreateEntry_of_lookup_none (h : m.directory.lookup a = none) :
    m.getOrCreateEntry a = (DirectoryEntry.fresh a, m.setEntry a (DirectoryEntry.fresh a)) := by
  simp [getOrCreateEntry, h]

/-- The transport call changes only the call log and the statistics. -/
theorem sendCoherenceOpToFpga_eq :
    sendCoherenceOpToFpga c t op a m =
      (c.hasDriver && t m.calls.length,
        { m with calls := m.calls ++ [⟨op, a, c.hasDriver && t m.calls.length⟩],
                 stats := if c.hasDriver then updateStatistics m.stats op true else m.stats }) := by
  unfold sendCoherenceOpToFpga
  cases c.hasDriver <;> rfl

@[simp] theorem send_directory :
    (sendCoherenceOpToFpga c t op a m).2.directory = m.directory := by
  rw [sendCoherenceOpToFpga_eq]

end Frame

section Operations

variable (c : Config) (t : Transport)

/-- The miss path of `request_read`, after the directory lookup. -/
def requestReadMiss (line : BitVec 64) (m : CoherenceManager) : Bool × CoherenceManager :=
  let m := { m with stats := updateStatistics m.stats .read false }
  let (ok, m) := sendCoherenceOpToFpga c t .read line m
  if ok then
    let (e, m) := m.getOrCreateEntry line
    (true, m.setEntry line { e with state := .shared, tier := .l1Gpu, accessCount := 1 })
  else (false, m)

def requestRead (addr : BitVec 64) (m : CoherenceManager) : Bool × CoherenceManager :=
  let line := alignToCacheLine c.cacheLineSize addr
  match m.getEntry line with
  | some e =>
      if e.state = .shared ∨ e.state = .exclusive ∨ e.state = .modified then
        (true, { m.setEntry line { e with accessCount := e.accessCount + 1 } with
          stats := updateStatistics m.stats .read true })
      else requestReadMiss c t line m
  | none => requestReadMiss c t line m

def requestWrite (addr : BitVec 64) (m : CoherenceManager) : Bool × CoherenceManager :=
  let line := alignToCacheLine c.cacheLineSize addr
  let entry := m.getEntry line
  let stats : Statistics :=
    if (entry.map (·.state)) = some .shared then
      let s := updateStatistics m.stats .invalidate false
      { s with invalidationsSent := s.invalidationsSent + 1 }
    else m.stats
  let m := { m with stats := stats }
  let m := { m with stats := updateStatistics m.stats .write entry.isSome }
  let (ok, m) := sendCoherenceOpToFpga c t .write line m
  if ok then
    let (e, m) := m.getOrCreateEntry line
    (true, m.setEntry line
      { e with state := .modified, tier := .l1Gpu, accessCount := e.accessCount + 1 })
  else (false, m)

/-- The entry is marked invalid before the transport is asked; a modified line is only
counted as written back. -/
def invalidate (addr : BitVec 64) (m : CoherenceManager) : Bool × CoherenceManager :=
  let line := alignToCacheLine c.cacheLineSize addr
  match m.getEntry line with
  | none => (true, m)
  | some e =>
      let stats : Statistics :=
        if e.state = .modified then
          { m.stats with writebacksPerformed := m.stats.writebacksPerformed + 1 }
        else m.stats
      let m := { m with stats := stats }
      let m := m.setEntry line { e with state := .invalid }
      let (ok, m) := sendCoherenceOpToFpga c t .invalidate line m
      (ok, { m with stats := { m.stats with invalidationsSent := m.stats.invalidationsSent + 1 } })

def writeback (addr : BitVec 64) (m : CoherenceManager) : Bool × CoherenceManager :=
  let line := alignToCacheLine c.cacheLineSize addr
  match m.getEntry line with
  | none => (true, m)
  | some e =>
      if e.state ≠ .modified then (true, m)
      else
        let (ok, m) := sendCoherenceOpToFpga c t .writeback line m
        if ok then
          (true, { m.setEntry line { e with state := .shared, tier := .l3Cxl } with
            stats := { m.stats with writebacksPerformed := m.stats.writebacksPerformed + 1 } })
        else (false, m)

/-- The loop of `flush_all` over the directory's entries, counting flushed lines. The
answer of each writeback is ignored. -/
def flushEntries : List (Σ _ : BitVec 64, DirectoryEntry) →
    CoherenceManager × Nat → CoherenceManager × Nat
  | [], acc => acc
  | ⟨a, e⟩ :: rest, (m, flushed) =>
      if e.state = .modified then
        let m := (sendCoherenceOpToFpga c t .writeback a m).2
        flushEntries rest (m.setEntry a { e with state := .shared, tier := .l3Cxl }, flushed + 1)
      else flushEntries rest (m, flushed)

def flushAll (m : CoherenceManager) : Bool × CoherenceManager :=
  let (m, flushed) := flushEntries c t m.directory.entries (m, 0)
  (true, { m with stats := { m.stats with
    writebacksPerformed := m.stats.writebacksPerformed + flushed } })

def getState (m : CoherenceManager) (addr : BitVec 64) : CoherenceState :=
  match m.getEntry (alignToCacheLine c.cacheLineSize addr) with
  | some e => e.state
  | none => .invalid

def getTier (m : CoherenceManager) (addr : BitVec 64) : MemoryTier :=
  match m.getEntry (alignToCacheLine c.cacheLineSize addr) with
  | some e => e.tier
  | none => .l3Cxl

def isValid (m : CoherenceManager) (addr : BitVec 64) : Bool :=
  getState c m addr ≠ .invalid

def isModified (m : CoherenceManager) (addr : BitVec 64) : Bool :=
  getState c m addr = .modified

/-- The entry is created before the read is sent, and stays when the read fails. -/
def promoteToL1 (addr : BitVec 64) (m : CoherenceManager) : Bool × CoherenceManager :=
  let line := alignToCacheLine c.cacheLineSize addr
  let (e, m) := m.getOrCreateEntry line
  if e.tier = .l1Gpu then (true, m)
  else
    let (ok, m) := sendCoherenceOpToFpga c t .read line m
    if ok then (true, m.setEntry line { e with tier := .l1Gpu }) else (false, m)

/-- The answer of the writeback of a modified line is ignored. -/
def demoteToL3 (addr : BitVec 64) (m : CoherenceManager) : Bool × CoherenceManager :=
  let line := alignToCacheLine c.cacheLineSize addr
  match m.getEntry line with
  | none => (true, m)
  | some e =>
      if e.tier = .l3Cxl then (true, m)
      else if e.state = .modified then
        let m := (sendCoherenceOpToFpga c t .writeback line m).2
        let m := { m with stats := { m.stats with
          writebacksPerformed := m.stats.writebacksPerformed + 1 } }
        (true, m.setEntry line { e with state := .shared, tier := .l3Cxl })
      else (true, m.setEntry line { e with tier := .l3Cxl })

def updateTier (addr : BitVec 64) (newTier : MemoryTier) (m : CoherenceManager) :
    CoherenceManager :=
  let line := alignToCacheLine c.cacheLineSize addr
  let (e, m) := m.getOrCreateEntry line
  m.setEntry line { e with tier := newTier }

/-- The loop of `batch_invalidate`: `all_success &= ...` evaluates every call. -/
def batchInvalidateLoop : List (BitVec 64) → Bool × CoherenceManager → Bool × CoherenceManager
  | [], acc => acc
  | addr :: rest, (allSuccess, m) =>
      let line := alignToCacheLine c.cacheLineSize addr
      match m.getEntry line with
      | none => batchInvalidateLoop rest (allSuccess, m)
      | some e =>
          let m := m.setEntry line { e with state := .invalid }
          let (ok, m) := sendCoherenceOpToFpga c t .invalidate line m
          batchInvalidateLoop rest (allSuccess && ok, m)

def batchInvalidate (addrs : List (BitVec 64)) (m : CoherenceManager) :
    Bool × CoherenceManager :=
  let (allSuccess, m) := batchInvalidateLoop c t addrs (true, m)
  (allSuccess, { m with stats := { m.stats with
    invalidationsSent := m.stats.invalidationsSent + addrs.length } })

/-- The loop of `batch_writeback`; the payload pointers carry no state. -/
def batchWritebackLoop : List (BitVec 64) → Bool × CoherenceManager → Bool × CoherenceManager
  | [], acc => acc
  | addr :: rest, (allSuccess, m) =>
      let line := alignToCacheLine c.cacheLineSize addr
      match m.getEntry line with
      | some e =>
          if e.state = .modified then
            let (ok, m) := sendCoherenceOpToFpga c t .writeback line m
            batchWritebackLoop rest
              (allSuccess && ok, m.setEntry line { e with state := .shared, tier := .l3Cxl })
          else batchWritebackLoop rest (allSuccess, m)
      | none => batchWritebackLoop rest (allSuccess, m)

def batchWriteback (addrs : List (BitVec 64)) (m : CoherenceManager) :
    Bool × CoherenceManager :=
  let (allSuccess, m) := batchWritebackLoop c t addrs (true, m)
  (allSuccess, { m with stats := { m.stats with
    writebacksPerformed := m.stats.writebacksPerformed + addrs.length } })

def getStatistics (m : CoherenceManager) : Statistics := m.stats

def resetStatistics (m : CoherenceManager) : CoherenceManager :=
  { m with stats := Statistics.zero }

end Operations

end CoherenceManager

/-- The public operations of `CoherenceManager` that change its state. -/
inductive Request
  | requestRead (addr : BitVec 64)
  | requestWrite (addr : BitVec 64)
  | invalidate (addr : BitVec 64)
  | writeback (addr : BitVec 64)
  | flushAll
  | promoteToL1 (addr : BitVec 64)
  | demoteToL3 (addr : BitVec 64)
  | updateTier (addr : BitVec 64) (tier : MemoryTier)
  | batchInvalidate (addrs : List (BitVec 64))
  | batchWriteback (addrs : List (BitVec 64))
  | resetStatistics
  deriving DecidableEq, Repr

/-- One call; the two `void` operations answer `true`. -/
def Request.exec (c : Config) (t : Transport) :
    Request → CoherenceManager → Bool × CoherenceManager
  | .requestRead a, m => CoherenceManager.requestRead c t a m
  | .requestWrite a, m => CoherenceManager.requestWrite c t a m
  | .invalidate a, m => CoherenceManager.invalidate c t a m
  | .writeback a, m => CoherenceManager.writeback c t a m
  | .flushAll, m => CoherenceManager.flushAll c t m
  | .promoteToL1 a, m => CoherenceManager.promoteToL1 c t a m
  | .demoteToL3 a, m => CoherenceManager.demoteToL3 c t a m
  | .updateTier a tier, m => (true, CoherenceManager.updateTier c a tier m)
  | .batchInvalidate as, m => CoherenceManager.batchInvalidate c t as m
  | .batchWriteback as, m => CoherenceManager.batchWriteback c t as m
  | .resetStatistics, m => (true, CoherenceManager.resetStatistics m)

/-- The manager after a sequence of calls. -/
def run (c : Config) (t : Transport) : List Request → CoherenceManager → CoherenceManager
  | [], m => m
  | r :: rs, m => run c t rs (r.exec c t m).2

end CxlSpeckv.Coherence
