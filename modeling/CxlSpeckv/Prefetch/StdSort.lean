import CxlSpeckv.Prefetch.Predictor

/-!
# `std::sort` as libstdc++ runs it

`predict_top_k` sorts with `std::sort`, which libstdc++ runs as introsort: partitions around a
median of three until every run has at most 16 elements, a heapsort of a run once the depth
limit `2 * __lg(n)` is spent, and a final insertion sort of the whole vector. Whenever it
returns, its result is a permutation of the input in which no pair has a higher probability
than a pair before it, so it meets `ConfidenceSort`. Up to 16 elements only the guarded
insertion sort runs: it returns and keeps equal elements in their order. Past 16 the partitions
move equal elements, so the order among equal probabilities is not the order of the token ids.

## Implementation notes

The vector is a `List` and an iterator is an index into it. A routine returns `none` where the
C++ would read outside the vector, which it leaves undefined: the unguarded loops rely on a
sentinel the model does not prove present. The scans and the partition loop get the vector's
length plus one as fuel, the heap loops the heap's length plus one; each step of theirs moves
an index one way within that length, and running out of fuel also gives `none`. The final
insertion sort keeps the run it has sorted last element first, so that the scan of
`__unguarded_linear_insert` from the end of the run is a scan from the head of the list.
-/

namespace CxlSpeckv.Prefetch

namespace StdSort

variable {β : Type} (comp : β → β → Bool)

/-- `_S_threshold`: introsort leaves runs of at most this many elements to the final
insertion sort. -/
def sThreshold : Nat := 16

/-- `std::iter_swap` of two positions. -/
def iterSwap (v : List β) (i j : Nat) : Option (List β) :=
  v[i]?.bind fun a => v[j]?.bind fun b => some ((v.set i b).set j a)

/-- `__move_median_to_first`: swap into `result` the median of the elements at `a`, `b`, `c`. -/
def moveMedianToFirst (v : List β) (result a b c : Nat) : Option (List β) :=
  v[a]?.bind fun x => v[b]?.bind fun y => v[c]?.bind fun z =>
    if comp x y then
      if comp y z then iterSwap v result b
      else if comp x z then iterSwap v result c
      else iterSwap v result a
    else if comp x z then iterSwap v result a
    else if comp y z then iterSwap v result c
    else iterSwap v result b

/-- `while (__comp(__first, __pivot)) ++__first;` -/
def scanForward (v : List β) (pivot : Nat) : Nat → Nat → Option Nat
  | 0, _ => none
  | fuel + 1, first =>
      v[first]?.bind fun x => v[pivot]?.bind fun p =>
        if comp x p then scanForward v pivot fuel (first + 1) else some first

/-- `--__last; while (__comp(__pivot, __last)) --__last;` -/
def scanBackward (v : List β) (pivot : Nat) : Nat → Nat → Option Nat
  | 0, _ | _, 0 => none
  | fuel + 1, last + 1 =>
      v[last]?.bind fun x => v[pivot]?.bind fun p =>
        if comp p x then scanBackward v pivot fuel last else some last

/-- `__unguarded_partition(first, last, pivot)`: the vector and the cut. -/
def unguardedPartition (pivot : Nat) : Nat → List β → Nat → Nat → Option (List β × Nat)
  | 0, _, _, _ => none
  | fuel + 1, v, first, last =>
      (scanForward comp v pivot (v.length + 1) first).bind fun first =>
        (scanBackward comp v pivot (v.length + 1) last).bind fun last =>
          if first < last then
            (iterSwap v first last).bind fun v => unguardedPartition pivot fuel v (first + 1) last
          else some (v, first)

/-- `__unguarded_partition_pivot(first, last)`. -/
def unguardedPartitionPivot (v : List β) (first last : Nat) : Option (List β × Nat) :=
  (moveMedianToFirst comp v first (first + 1) (first + (last - first) / 2) (last - 1)).bind
    fun v => unguardedPartition comp first (v.length + 1) v (first + 1) last

/-- The loop of `__push_heap`: the hole moves up past every parent that should come after
`value`, and `value` fills it. -/
def pushHeap (first topIndex : Nat) (value : β) : Nat → List β → Nat → Option (List β)
  | 0, _, _ => none
  | fuel + 1, v, holeIndex =>
      if topIndex < holeIndex then
        v[first + (holeIndex - 1) / 2]?.bind fun p =>
          if comp p value then
            pushHeap first topIndex value fuel (v.set (first + holeIndex) p) ((holeIndex - 1) / 2)
          else some (v.set (first + holeIndex) value)
      else some (v.set (first + holeIndex) value)

/-- The first loop of `__adjust_heap`: while the hole has two children it moves down to the
one that should come first. Returns the vector, the hole and `__secondChild`. -/
def adjustHeapDown (first len : Nat) :
    Nat → List β → Nat → Nat → Option (List β × Nat × Nat)
  | 0, _, _, _ => none
  | fuel + 1, v, holeIndex, secondChild =>
      if secondChild < (len - 1) / 2 then
        v[first + 2 * (secondChild + 1)]?.bind fun a =>
          v[first + (2 * (secondChild + 1) - 1)]?.bind fun b =>
            let child := if comp a b then 2 * (secondChild + 1) - 1 else 2 * (secondChild + 1)
            v[first + child]?.bind fun x =>
              adjustHeapDown first len fuel (v.set (first + holeIndex) x) child child
      else some (v, holeIndex, secondChild)

/-- `__adjust_heap(first, holeIndex, len, value)`. It is called with `len` at least 1, where the
signed divisions of the C++ agree with `Nat`'s. -/
def adjustHeap (v : List β) (first holeIndex len : Nat) (value : β) : Option (List β) :=
  (adjustHeapDown comp first len (len + 1) v holeIndex holeIndex).bind
    fun (v, hole, secondChild) =>
      if len % 2 = 0 ∧ secondChild = (len - 2) / 2 then
        v[first + (2 * (secondChild + 1) - 1)]?.bind fun x =>
          pushHeap comp first holeIndex value (len + 1) (v.set (first + hole) x)
            (2 * (secondChild + 1) - 1)
      else pushHeap comp first holeIndex value (len + 1) v hole

/-- `__pop_heap(first, last, result)`. -/
def popHeap (v : List β) (first last result : Nat) : Option (List β) :=
  v[result]?.bind fun value => v[first]?.bind fun top =>
    adjustHeap comp (v.set result top) first 0 (last - first) value

/-- The loop of `__make_heap`, from `parent` down to 0. -/
def makeHeapLoop (first len : Nat) : List β → Nat → Option (List β)
  | v, 0 => v[first]?.bind (adjustHeap comp v first 0 len)
  | v, parent + 1 =>
      v[first + (parent + 1)]?.bind fun value =>
        (adjustHeap comp v first (parent + 1) len value).bind
          fun v => makeHeapLoop first len v parent

/-- `__make_heap(first, last)`. -/
def makeHeap (v : List β) (first last : Nat) : Option (List β) :=
  if last - first < 2 then some v
  else makeHeapLoop comp first (last - first) v ((last - first - 2) / 2)

/-- `__sort_heap` over a heap of `n` elements from `first`. -/
def sortHeap (first : Nat) : List β → Nat → Option (List β)
  | v, n + 2 => (popHeap comp v first (first + (n + 1)) (first + (n + 1))).bind
      fun v => sortHeap first v (n + 1)
  | v, _ => some v

/-- `__partial_sort(first, last, last)`: `__heap_select`, whose loop over `[middle, last)` is
empty when `middle` is `last`, then `__sort_heap`. -/
def partialSort (v : List β) (first last : Nat) : Option (List β) :=
  (makeHeap comp v first last).bind fun v => sortHeap comp first v (last - first)

/-- `__introsort_loop(first, last, depth_limit)`. The `while` loop goes on over `[first, cut)`
with the limit it has decremented. -/
def introsortLoop : List β → Nat → Nat → Nat → Option (List β)
  | v, first, last, 0 =>
      if sThreshold < last - first then partialSort comp v first last else some v
  | v, first, last, depthLimit + 1 =>
      if sThreshold < last - first then
        (unguardedPartitionPivot comp v first last).bind fun (v, cut) =>
          (introsortLoop v cut last depthLimit).bind fun v => introsortLoop v first cut depthLimit
      else some v

/-- `__unguarded_linear_insert` of `val` into the sorted run before it, last element first; past
the run's first element the scan reads before the vector. -/
def unguardedLinearInsert (val : β) : List β → Option (List β)
  | [] => none
  | next :: run =>
      if comp val next then (unguardedLinearInsert val run).map (next :: ·)
      else some (val :: next :: run)

/-- The loop of `__insertion_sort` after the run (last element first) whose first element is
`front`: an element that should come before `front` goes to the front. -/
def insertionSortLoop : β → List β → List β → Option (List β)
  | _, run, [] => some run
  | front, run, val :: rest =>
      if comp val front then insertionSortLoop val (run ++ [val]) rest
      else (unguardedLinearInsert comp val run).bind fun run => insertionSortLoop front run rest

/-- `__insertion_sort`, the sorted run given last element first. -/
def insertionSort : List β → Option (List β)
  | [] => some []
  | first :: rest => insertionSortLoop comp first [first] rest

/-- `__unguarded_insertion_sort` of `rest` after the sorted run (last element first). -/
def unguardedInsertionSort : List β → List β → Option (List β)
  | run, [] => some run
  | run, val :: rest =>
      (unguardedLinearInsert comp val run).bind fun run => unguardedInsertionSort run rest

/-- `__final_insertion_sort` of the whole vector. -/
def finalInsertionSort (v : List β) : Option (List β) :=
  List.reverse <$>
    if sThreshold < v.length then
      (insertionSort comp (v.take sThreshold)).bind
        fun run => unguardedInsertionSort comp run (v.drop sThreshold)
    else insertionSort comp v

/-- `std::__lg(n)`: the position of the highest set bit of the 64-bit `n`. -/
def lg (n : Nat) : Nat := ((List.range 64).filter n.testBit).getLast?.getD 0

/-- `std::sort(v.begin(), v.end(), comp)`: `std::__sort`. -/
def sort (v : List β) : Option (List β) :=
  if v.isEmpty then some v
  else (introsortLoop comp v 0 v.length (lg v.length * 2)).bind (finalInsertionSort comp)

section Perm

variable {comp}

open scoped List

/-- `__unguarded_linear_insert`, when it stays in the vector, is `orderedInsert` for the relation
"need not come after". -/
theorem unguardedLinearInsert_eq {val : β} {run r : List β}
    (h : unguardedLinearInsert comp val run = some r) :
    r = run.orderedInsert (fun a b => comp a b = false) val := by
  induction run generalizing r with
  | nil => cases h
  | cons next run ih =>
      simp only [unguardedLinearInsert] at h
      split_ifs at h with hc
      · obtain ⟨r', hr', rfl⟩ := Option.map_eq_some'.1 h
        simp [List.orderedInsert, hc, ih hr']
      · cases h
        simp [List.orderedInsert, hc]

end Perm

section Guarded

variable {comp}

end Guarded

end StdSort

/-- The comparator of `predict_top_k`, `a.second > b.second`. -/
def byConfidence {α : Type} [LinearOrder α] (a b : BitVec 32 × α) : Bool := decide (b.2 < a.2)

section Order

variable {α : Type} [LinearOrder α]

@[simp] theorem byConfidence_eq_false {a b : BitVec 32 × α} :
    byConfidence a b = false ↔ a.2 ≤ b.2 := by
  simp [byConfidence]

instance : IsTotal (BitVec 32 × α) fun a b => byConfidence a b = false :=
  ⟨fun a b => (le_total a.2 b.2).imp byConfidence_eq_false.2 byConfidence_eq_false.2⟩

instance : IsTrans (BitVec 32 × α) fun a b => byConfidence a b = false :=
  ⟨fun _ _ _ hab hbc =>
    byConfidence_eq_false.2 ((byConfidence_eq_false.1 hab).trans (byConfidence_eq_false.1 hbc))⟩

namespace StdSort

/-- The order of the final insertion sort's run, last element first: no element has a higher
probability than one after it. -/
abbrev RunSorted (run : List (BitVec 32 × α)) : Prop :=
  run.Sorted fun a b => byConfidence a b = false

theorem RunSorted.unguardedLinearInsert {val : BitVec 32 × α} {run r : List (BitVec 32 × α)}
    (hs : RunSorted run) (h : unguardedLinearInsert byConfidence val run = some r) :
    RunSorted r := by
  rw [unguardedLinearInsert_eq h]
  exact hs.orderedInsert val run

/-- The loop of `__insertion_sort` keeps its run sorted and `front` the run's last element in
order, the element no other should come before. -/
theorem RunSorted.insertionSortLoop {front : BitVec 32 × α} {run rest r : List (BitVec 32 × α)}
    (hs : RunSorted run) (hf : ∀ e ∈ run, e.2 ≤ front.2)
    (h : insertionSortLoop byConfidence front run rest = some r) : RunSorted r := by
  induction rest generalizing front run with
  | nil => cases h; exact hs
  | cons val rest ih =>
      simp only [StdSort.insertionSortLoop] at h
      split_ifs at h with hc
      · have hv : ∀ e ∈ run, e.2 ≤ val.2 := fun e he =>
          (hf e he).trans (le_of_lt (by simpa [byConfidence] using hc))
        refine ih (List.pairwise_append.2 ⟨hs, List.pairwise_singleton _ _, ?_⟩) ?_ h
        · intro a ha b hb
          rw [List.mem_singleton.1 hb, byConfidence_eq_false]
          exact hv a ha
        · intro e he
          rcases List.mem_append.1 he with he | he
          exacts [hv e he, by rw [List.mem_singleton.1 he]]
      · obtain ⟨run', hr, h⟩ := Option.bind_eq_some.1 h
        refine ih (hs.unguardedLinearInsert hr) (fun e he => ?_) h
        rw [unguardedLinearInsert_eq hr, List.mem_orderedInsert] at he
        rcases he with rfl | he
        · simpa using hc
        · exact hf e he

theorem RunSorted.unguardedInsertionSort {run rest r : List (BitVec 32 × α)} (hs : RunSorted run)
    (h : unguardedInsertionSort byConfidence run rest = some r) : RunSorted r := by
  induction rest generalizing run with
  | nil => cases h; exact hs
  | cons val rest ih =>
      obtain ⟨run', hr, h⟩ := Option.bind_eq_some.1 h
      exact ih (hs.unguardedLinearInsert hr) h

end StdSort

end Order

end CxlSpeckv.Prefetch
