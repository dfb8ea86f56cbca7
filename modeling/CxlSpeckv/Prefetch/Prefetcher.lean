import CxlSpeckv.Prefetch.Predictor
import CxlSpeckv.Memory.Manager
import Mathlib.Data.Rat.Floor
import Mathlib.Tactic.Linarith
import Mathlib.Tactic.NormNum

/-!
# The speculative prefetcher

`SpeculativePrefetcher::prefetch` asks the predictor for `depth` tokens (the adaptive depth
when `depth` is 0), skips every predicted position already in L1 or L2 of the memory
manager, and issues a request for each other one into `outstanding_prefetches_`, a queue
that drops its oldest request past 16. `update_prediction_accuracy` keeps the last 100
observations and moves the adaptive depth by one, within `[2, 8]`, when the last ten are
all correct or at most eight of them are.

## Implementation notes

The memory manager belongs to the caller; each `prefetch` reads the manager as it is at that
call, which is an argument. The predictor's network is fixed at construction, so it is part
of the state. `accuracy_history_` holds `1.0` for a correct observation and `0.0` otherwise;
the model keeps the Booleans, and `recent_accuracy` is their count over the last ten, divided
by ten in `ℚ`: a sum of at most ten ones and its quotient by ten compare with `0.95` and
`0.85` in `double` exactly as they do in `ℚ`. Clock readings (`timestamp`, the latency
average) and the rates computed by `get_statistics` are not modelled. A depth of `2^58` or
more makes `predict_top_k` or `prefetch_requests.reserve` throw `std::length_error`; `prefetch`
is the call that returns, with `predictTopK`.
-/

namespace CxlSpeckv.Prefetch

open CxlSpeckv.Memory

structure PrefetchRequest (α : Type) where
  virtualAddr : BitVec 64
  layerId : BitVec 32
  predictedTokenId : BitVec 32
  confidence : α
  deriving DecidableEq, Repr

/-- The `size_t` counters of `PrefetchStatistics`, taken to be unbounded. -/
structure PrefetchStatistics where
  totalPrefetches : Nat
  successfulPrefetches : Nat
  mispredictions : Nat
  deriving DecidableEq, Repr

/-- `PrefetchStatistics{}`. -/
def PrefetchStatistics.zero : PrefetchStatistics := ⟨0, 0, 0⟩

structure SpeculativePrefetcher (α : Type) where
  predictor : LSTMPredictor α
  prefetchDepth : BitVec 64
  historyLength : BitVec 64
  adaptiveDepth : BitVec 64
  accuracyHistory : List Bool
  accuracyWindowSize : Nat
  outstandingPrefetches : List (PrefetchRequest α)
  stats : PrefetchStatistics

/-- `compute_kv_address`: `[req_id:32][layer_id:16][position:16]`, each field widened to 64
bits and or-ed in. -/
def computeKvAddress (reqId layerId position : BitVec 32) : BitVec 64 :=
  (reqId.setWidth 64 <<< 32) ||| (layerId.setWidth 64 <<< 16) ||| position.setWidth 64

/-- `issue_dma_prefetch`: push the request and pop the oldest past 16. -/
def issueDmaPrefetch {α : Type} (queue : List (PrefetchRequest α)) (req : PrefetchRequest α) :
    List (PrefetchRequest α) :=
  let queue := queue ++ [req]
  if queue.length > 16 then queue.tail else queue

section Loop

variable {α : Type} (c : Config) (mm : CXLMemoryManager) (layerId : BitVec 32)

/-- The loop of `prefetch` from prediction `i` on, carrying the requests it returns and the
outstanding queue. -/
def prefetchLoop : Nat → List (BitVec 32 × α) →
    List (PrefetchRequest α) × List (PrefetchRequest α) →
    List (PrefetchRequest α) × List (PrefetchRequest α)
  | _, [], acc => acc
  | i, (predictedToken, confidence) :: rest, (requests, queue) =>
      let virtualAddr := computeKvAddress 0 layerId (BitVec.ofNat 32 (i + 1))
      if CXLMemoryManager.isInCache c mm virtualAddr .l1GpuLocal ||
          CXLMemoryManager.isInCache c mm virtualAddr .l2Prefetch then
        prefetchLoop (i + 1) rest (requests, queue)
      else
        let req : PrefetchRequest α := ⟨virtualAddr, layerId, predictedToken, confidence⟩
        prefetchLoop (i + 1) rest (requests ++ [req], issueDmaPrefetch queue req)

end Loop

namespace SpeculativePrefetcher

variable {α : Type}

/-- The constructor: a predictor of 32000 tokens over `history_length` tokens, the adaptive
depth at `prefetch_depth`, a window of 100 observations. -/
def new (network : List (BitVec 32) → Nat → α) (prefetchDepth : BitVec 64 := 4)
    (historyLength : BitVec 64 := 16) : SpeculativePrefetcher α :=
  ⟨⟨32000, historyLength.toNat, network⟩, prefetchDepth, historyLength, prefetchDepth, [], 100, [],
    .zero⟩

def prefetch [LinearOrder α] (s : SpeculativePrefetcher α) (sort : ConfidenceSort α) (c : Config)
    (mm : CXLMemoryManager) (tokenHistory : List (BitVec 32)) (layerId : BitVec 32)
    (depth : BitVec 64) : List (PrefetchRequest α) × SpeculativePrefetcher α :=
  let actualDepth := if 0 < depth then depth else s.adaptiveDepth
  let predictions := s.predictor.predictTopK sort tokenHistory actualDepth.toNat
  let (requests, queue) := prefetchLoop c mm layerId 0 predictions ([], s.outstandingPrefetches)
  (requests, { s with
    outstandingPrefetches := queue,
    stats := { s.stats with totalPrefetches := s.stats.totalPrefetches + requests.length } })

def handleMisprediction (s : SpeculativePrefetcher α) (actualToken : BitVec 32)
    (predictedTokens : List (BitVec 32)) : SpeculativePrefetcher α :=
  if actualToken ∈ predictedTokens then s
  else { s with stats := { s.stats with mispredictions := s.stats.mispredictions + 1 } }

/-- The mean of the last ten observations. -/
def recentAccuracy (history : List Bool) : ℚ :=
  ((history.drop (history.length - 10)).count true : ℚ) / 10

/-- The request id is not read. -/
def updatePredictionAccuracy (s : SpeculativePrefetcher α) (_requestId : BitVec 32)
    (wasCorrect : Bool) : SpeculativePrefetcher α :=
  let history := s.accuracyHistory ++ [wasCorrect]
  let history := if history.length > s.accuracyWindowSize then history.tail else history
  let s := { s with accuracyHistory := history }
  if history.length ≥ 10 then
    if recentAccuracy history > 0.95 ∧ s.adaptiveDepth < 8 then
      { s with adaptiveDepth := s.adaptiveDepth + 1 }
    else if recentAccuracy history < 0.85 ∧ s.adaptiveDepth > 2 then
      { s with adaptiveDepth := s.adaptiveDepth - 1 }
    else s
  else s

def setPrefetchDepth (s : SpeculativePrefetcher α) (depth : BitVec 64) : SpeculativePrefetcher α :=
  { s with prefetchDepth := depth, adaptiveDepth := depth }

def resetStatistics (s : SpeculativePrefetcher α) : SpeculativePrefetcher α :=
  { s with stats := .zero }

/-- `is_already_prefetched`: a scan of a copy of the queue, oldest first. -/
def isAlreadyPrefetched (s : SpeculativePrefetcher α) (virtualAddr : BitVec 64) : Bool :=
  s.outstandingPrefetches.any fun q => q.virtualAddr == virtualAddr

end SpeculativePrefetcher

/-- The public calls that change a prefetcher; `prefetch` carries the manager as it is at
that call. -/
inductive Request
  | prefetch (c : Config) (mm : CXLMemoryManager) (tokenHistory : List (BitVec 32))
      (layerId : BitVec 32) (depth : BitVec 64)
  | handleMisprediction (actualToken : BitVec 32) (predictedTokens : List (BitVec 32))
  | updatePredictionAccuracy (requestId : BitVec 32) (wasCorrect : Bool)
  | setPrefetchDepth (depth : BitVec 64)
  | resetStatistics

variable {α : Type} [LinearOrder α] (sort : ConfidenceSort α)

/-- One call: the requests it returns (none but for `prefetch`) and the prefetcher after it. -/
def Request.exec : Request → SpeculativePrefetcher α →
    List (PrefetchRequest α) × SpeculativePrefetcher α
  | .prefetch c mm tokenHistory layerId depth, s => s.prefetch sort c mm tokenHistory layerId depth
  | .handleMisprediction actualToken predictedTokens, s =>
      ([], s.handleMisprediction actualToken predictedTokens)
  | .updatePredictionAccuracy requestId wasCorrect, s =>
      ([], s.updatePredictionAccuracy requestId wasCorrect)
  | .setPrefetchDepth depth, s => ([], s.setPrefetchDepth depth)
  | .resetStatistics, s => ([], s.resetStatistics)

/-- A sequence of calls: every request returned, with the call that returned it, in order,
and the prefetcher after the last call. -/
def run : List Request → SpeculativePrefetcher α →
    List (Request × PrefetchRequest α) × SpeculativePrefetcher α
  | [], s => ([], s)
  | r :: rs, s =>
      let (out, s₁) := r.exec sort s
      let (log, s₂) := run rs s₁
      (out.map (r, ·) ++ log, s₂)

@[simp] theorem exec_updatePredictionAccuracy (requestId : BitVec 32) (wasCorrect : Bool)
    (s : SpeculativePrefetcher α) :
    (Request.exec sort (.updatePredictionAccuracy requestId wasCorrect) s).2 =
      s.updatePredictionAccuracy requestId wasCorrect :=
  rfl

@[simp] theorem run_cons_snd (r : Request) (rs : List Request) (s : SpeculativePrefetcher α) :
    (run sort (r :: rs) s).2 = (run sort rs (r.exec sort s).2).2 :=
  rfl

end CxlSpeckv.Prefetch
