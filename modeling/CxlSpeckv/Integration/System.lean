import CxlSpeckv.Integration.Allocator
import CxlSpeckv.Prefetch.Prefetcher

/-!
# The system orchestrator

`CXLSpecKVSystem::initialize` builds a fresh `CXLMemoryAllocator`, whose own `initialize` makes
a memory manager of the configured tier sizes and a `SpeculativePrefetcher` over that manager,
with depth 4 and a history of 16 tokens. `process_tokens` then runs, for each batch, a loop
over the layers: a prefetch hint of the batch's last 16 tokens when it has more than 16, one
`cxl_malloc` of the batch's K and V bytes, and one `cxl_access` of the pointer it returns. It
returns `false` at the first `cxl_malloc` that fails. `generate_next_token` makes the same
hint when the history has at least 16 tokens, and returns the last token plus one.

## Implementation notes

The layer loop's index is a `uint32_t` compared with the `size_t` `num_layers`; it is a
`BitVec 32` here, widened for the comparison and wrapping at `2^32`. The loop is given `fuel`
iterations per batch and is `none` when the fuel runs out, as it is when a `cxl_access` never
returns. The predictor's network is an argument of `initialize`. Before `initialize` the
allocator is a fresh one, which no call reads, since every call checks `initialized_` first.
The floating-point `prefetch_hit_rate` is not modelled. Neither are the requests that
`prefetch_hint` drops, nor `kv_cache_outputs`, which `process_tokens` never writes.
`get_statistics` reports constant zeros and is not modelled. The fields of `SystemConfig` that
no modelled call reads are left out: `prefetch_depth` and `history_length`, since the
allocator's prefetcher uses 4 and 16 whatever they are, the engine's parameters, and
`num_heads`.
-/

namespace CxlSpeckv.Integration

open CxlSpeckv.Memory CxlSpeckv.Prefetch

/-- The fields of `SystemConfig` that `initialize` and `process_tokens` read. -/
structure SystemConfig where
  l1SizeGb : BitVec 64 := 12
  l2SizeGb : BitVec 64 := 3
  l3SizeGb : BitVec 64 := 128
  numLayers : BitVec 64 := 80
  hiddenDim : BitVec 64 := 8192
  deriving DecidableEq, Repr

/-- `CXLMemoryAllocator` with its `prefetcher_`, null until `initialize`. -/
structure PrefetchingAllocator (α : Type) where
  allocator : CXLMemoryAllocator
  prefetcher : Option (SpeculativePrefetcher α)

namespace PrefetchingAllocator

variable {α : Type}

def init : PrefetchingAllocator α := ⟨.init, none⟩

/-- `CXLMemoryAllocator::initialize`: the tiers, then a prefetcher over the new manager. -/
def initializeComponents (network : List (BitVec 32) → Nat → α) (a : PrefetchingAllocator α)
    (l1SizeGb l2SizeGb l3SizeGb : BitVec 64) : Bool × PrefetchingAllocator α :=
  let r := a.allocator.initializeTiers l1SizeGb l2SizeGb l3SizeGb
  (r.1, ⟨r.2, some (SpeculativePrefetcher.new network 4 16)⟩)

variable [LinearOrder α] (sort : ConfidenceSort α)

/-- `prefetch_hint`: the prefetcher's `prefetch` at its own depth over the allocator's manager.
The requests it returns are dropped. -/
def prefetchHint (a : PrefetchingAllocator α) (tokenHistory : List (BitVec 32))
    (layerId : BitVec 32) : PrefetchingAllocator α :=
  if !a.allocator.initialized then a
  else
    match a.prefetcher with
    | none => a
    | some p => { a with prefetcher := some (p.prefetch sort a.allocator.config
        a.allocator.memoryManager tokenHistory layerId 0).2 }

@[simp] theorem prefetchHint_allocator (a : PrefetchingAllocator α) (h : List (BitVec 32))
    (l : BitVec 32) : (prefetchHint sort a h l).allocator = a.allocator := by
  unfold prefetchHint
  split_ifs
  · rfl
  · split <;> rfl

end PrefetchingAllocator

/-- The system: its configuration, `allocator_`, and `initialized_`. -/
structure CXLSpecKVSystem (α : Type) where
  config : SystemConfig
  allocator : PrefetchingAllocator α
  initialized : Bool

namespace CXLSpecKVSystem

variable {α : Type}

/-- The constructor. -/
def new : CXLSpecKVSystem α := ⟨{}, .init, false⟩

/-- `initialize`: a fresh allocator, initialized with the configured tier sizes. -/
def initializeSystem (network : List (BitVec 32) → Nat → α) (s : CXLSpecKVSystem α)
    (config : SystemConfig) : Bool × CXLSpecKVSystem α :=
  let r := PrefetchingAllocator.init.initializeComponents network config.l1SizeGb config.l2SizeGb
    config.l3SizeGb
  if !r.1 then (false, { s with config := config, allocator := r.2 })
  else (true, ⟨config, r.2, true⟩)

/-- `tokens.size() * hidden_dim * sizeof(float) * 2` in `size_t`: the K and V bytes of a
batch at one layer. -/
def kvSize (config : SystemConfig) (tokens : List (BitVec 32)) : BitVec 64 :=
  BitVec.ofNat 64 tokens.length * config.hiddenDim * 4 * 2

/-- The last 16 tokens, which the hints pass. -/
def lastSixteen (tokens : List (BitVec 32)) : List (BitVec 32) :=
  tokens.drop (tokens.length - 16)

variable [LinearOrder α] (sort : ConfidenceSort α)

/-- `if (tokens.size() > 16) allocator_->prefetch_hint(history, layer_id)`, the first step of
an iteration of the layer loop. -/
def hinted (tokens : List (BitVec 32)) (layerId : BitVec 32) (a : PrefetchingAllocator α) :
    PrefetchingAllocator α :=
  if 16 < tokens.length then a.prefetchHint sort (lastSixteen tokens) layerId else a

/-- The layer loop of `process_tokens` for one batch, from `layerId` on, with at most `fuel`
iterations: `false` when a `cxl_malloc` fails, `true` once `layer_id` reaches `num_layers`. -/
def layerLoop (config : SystemConfig) (tokens : List (BitVec 32)) :
    Nat → BitVec 32 → PrefetchingAllocator α → Option (Bool × PrefetchingAllocator α)
  | 0, _, _ => none
  | fuel + 1, layerId, a =>
      if layerId.setWidth 64 < config.numLayers then
        let a := hinted sort tokens layerId a
        let r := a.allocator.cxlMalloc (kvSize config tokens) layerId
        if r.1 = 0 then some (false, { a with allocator := r.2 })
        else (r.2.cxlAccess r.1 0 (kvSize config tokens)).bind fun q =>
          layerLoop config tokens fuel (layerId + 1) { a with allocator := q.2 }
      else some (true, a)

/-- The batch loop of `process_tokens`, each batch's layer loop with `fuel` iterations. -/
def batchLoop (config : SystemConfig) (fuel : Nat) :
    List (List (BitVec 32)) → PrefetchingAllocator α → Option (Bool × PrefetchingAllocator α)
  | [], a => some (true, a)
  | tokens :: rest, a => (layerLoop sort config tokens fuel 0 a).bind fun r =>
      if r.1 then batchLoop config fuel rest r.2 else some (false, r.2)

/-- `process_tokens`, with `fuel` iterations for each batch's layer loop. -/
def processTokens (s : CXLSpecKVSystem α) (tokenBatches : List (List (BitVec 32)))
    (fuel : Nat) : Option (Bool × CXLSpecKVSystem α) :=
  if !s.initialized then some (false, s)
  else (batchLoop sort s.config fuel tokenBatches s.allocator).map fun r =>
    (r.1, { s with allocator := r.2 })

/-- `generate_next_token`. -/
def generateNextToken (s : CXLSpecKVSystem α) (tokenHistory : List (BitVec 32))
    (layerId : BitVec 32) : BitVec 32 × CXLSpecKVSystem α :=
  if !s.initialized || tokenHistory.isEmpty then (0, s)
  else
    let s := if 16 ≤ tokenHistory.length then
        { s with allocator := s.allocator.prefetchHint sort (lastSixteen tokenHistory) layerId }
      else s
    (tokenHistory.getLastD 0 + 1, s)

section Equations

variable {config : SystemConfig} {tokens : List (BitVec 32)} {fuel : Nat} {l : BitVec 32}
  {a : PrefetchingAllocator α}

@[simp] theorem hinted_allocator : (hinted sort tokens l a).allocator = a.allocator := by
  unfold hinted
  split_ifs
  · exact PrefetchingAllocator.prefetchHint_allocator sort a _ l
  · rfl

theorem layerLoop_succ_of_lt (h : l.setWidth 64 < config.numLayers) :
    layerLoop sort config tokens (fuel + 1) l a =
      let r := a.allocator.cxlMalloc (kvSize config tokens) l
      if r.1 = 0 then some (false, { hinted sort tokens l a with allocator := r.2 })
      else (r.2.cxlAccess r.1 0 (kvSize config tokens)).bind fun q =>
        layerLoop sort config tokens fuel (l + 1) { hinted sort tokens l a with allocator := q.2 } := by
  simp only [layerLoop, if_pos h, hinted_allocator]

theorem layerLoop_succ_of_le (h : ¬ l.setWidth 64 < config.numLayers) :
    layerLoop sort config tokens (fuel + 1) l a = some (true, a) := by
  rw [layerLoop, if_neg h]

end Equations

end CXLSpecKVSystem

end CxlSpeckv.Integration
