import Mathlib.Data.List.Sort
import Mathlib.Algebra.Group.Nat.Basic

/-!
# The token predictor

`LSTMPredictor::predict_top_k` pads or cuts the history to `history_length_` tokens, runs
the network over it, pairs every token id below `vocab_size_` with its probability, sorts
the pairs by probability with `std::sort`, and returns the first `min(k, vocab_size_)`. The
vectors it sizes from `history_length_`, `vocab_size_` and `k` throw `std::length_error` past
their `max_size()`, and with `vocab_size_ = 0` the softmax reads `*std::max_element` of an
empty vector.

## Implementation notes

The network (`embed_token`, `lstm_forward`, `compute_output_probs`) is float arithmetic on
random weights; `outputProbs` stands for it: the probability it gives each token after a
padded history, in any linearly ordered type. `std::sort` is not stable and the standard
fixes only the order of its result, so it is a parameter, `ConfidenceSort`: any function
that permutes the pairs and leaves no pair of higher probability after one of lower. Sizes
are `Nat`; no loop here wraps. `max_size()` is libstdc++'s on a 64-bit target,
`PTRDIFF_MAX / sizeof(T)`. Allocations within it are taken to succeed.
-/

namespace CxlSpeckv.Prefetch

/-- What `std::sort` with the comparator `a.second > b.second` guarantees: a permutation in
which no pair has a higher probability than a pair before it. -/
structure ConfidenceSort (α : Type) [LinearOrder α] where
  sort : List (BitVec 32 × α) → List (BitVec 32 × α)
  perm : ∀ l, (sort l).Perm l
  sorted : ∀ l, (sort l).Pairwise fun a b => b.2 ≤ a.2

/-- A pair goes before another of lower or equal probability. -/
def ConfidenceGe {α : Type} [LinearOrder α] (a b : BitVec 32 × α) : Prop := b.2 ≤ a.2

instance {α : Type} [LinearOrder α] : DecidableRel (@ConfidenceGe α _) :=
  fun a b => inferInstanceAs (Decidable (b.2 ≤ a.2))

instance {α : Type} [LinearOrder α] : IsTotal (BitVec 32 × α) ConfidenceGe :=
  ⟨fun a b => le_total b.2 a.2⟩

instance {α : Type} [LinearOrder α] : IsTrans (BitVec 32 × α) ConfidenceGe :=
  ⟨fun _ _ _ h₁ h₂ => le_trans h₂ h₁⟩

/-- One order `std::sort` may produce: by probability, and among equal probabilities the
higher token id first. -/
def ConfidenceSort.idsDescending {α : Type} [LinearOrder α] : ConfidenceSort α where
  sort l := l.reverse.insertionSort ConfidenceGe
  perm l := (List.perm_insertionSort _ _).trans (List.reverse_perm l)
  sorted _ := List.sorted_insertionSort ConfidenceGe _

/-- The predictor's sizes and its network. -/
structure LSTMPredictor (α : Type) where
  vocabSize : Nat
  historyLength : Nat
  outputProbs : List (BitVec 32) → Nat → α

/-- The history `predict_top_k` feeds the network: its last `history_length_` tokens, or all
of it behind enough zeros. -/
def padHistory (historyLength : Nat) (history : List (BitVec 32)) : List (BitVec 32) :=
  if history.length > historyLength then history.drop (history.length - historyLength)
  else if history.length < historyLength then
    List.replicate (historyLength - history.length) 0 ++ history
  else history

namespace LSTMPredictor

variable {α : Type} [LinearOrder α]

/-- `token_probs`: every token id with its probability. -/
def tokenProbs (p : LSTMPredictor α) (history : List (BitVec 32)) : List (BitVec 32 × α) :=
  (List.range p.vocabSize).map fun i => (BitVec.ofNat 32 i, p.outputProbs history i)

/-- What `predict_top_k` returns when no vector throws. -/
def predictTopK (p : LSTMPredictor α) (s : ConfidenceSort α) (tokenHistory : List (BitVec 32))
    (k : Nat) : List (BitVec 32 × α) :=
  let tokenProbs := p.tokenProbs (padHistory p.historyLength tokenHistory)
  (s.sort tokenProbs).take (min k tokenProbs.length)

end LSTMPredictor

namespace LSTMPredictor

variable {α : Type} [LinearOrder α]

end LSTMPredictor

end CxlSpeckv.Prefetch
