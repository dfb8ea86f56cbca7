import CxlSpeckv.Prefetch.Prefetcher

/-!
# The outstanding queue holds the last sixteen requests

Every request `prefetch` returns is pushed into `outstanding_prefetches_` in the order it is
returned, and each push past 16 pops the oldest; nothing else touches the queue. So over any
run from an empty queue it holds the last `min(16, N)` of the `N` requests returned so far,
and each of them was in neither L1 nor L2 of the manager that its call read.
-/

namespace CxlSpeckv.Prefetch

open CxlSpeckv.Memory

/-- The last `n` elements of a list, or all of them when there are fewer. -/
def lastN {β : Type} (n : Nat) (l : List β) : List β := l.drop (l.length - n)

variable {α : Type}

theorem length_lastN_le {β : Type} (n : Nat) (l : List β) : (lastN n l).length ≤ n := by
  rw [lastN, List.length_drop]
  omega

/-- A push onto the last sixteen requests gives the last sixteen of the longer list. -/
theorem issueDmaPrefetch_lastN (R : List (PrefetchRequest α)) (req : PrefetchRequest α) :
    issueDmaPrefetch (lastN 16 R) req = lastN 16 (R ++ [req]) := by
  unfold issueDmaPrefetch lastN
  simp only [List.length_append, List.length_drop, List.length_singleton]
  split_ifs with h
  · have hne : R.drop (R.length - 16) ≠ [] := by
      rw [Ne, ← List.length_eq_zero, List.length_drop]
      omega
    rw [List.tail_append_of_ne_nil hne, List.tail_drop, List.drop_append_of_le_length (by omega),
      show R.length - 16 + 1 = R.length + 1 - 16 by omega]
  · rw [show R.length - 16 = 0 by omega, show R.length + 1 - 16 = 0 by omega, List.drop_zero,
      List.drop_zero]

/-- The requests of the call's manager that are in neither L1 nor L2. -/
def Uncached (c : Config) (mm : CXLMemoryManager) (q : PrefetchRequest α) : Prop :=
  CXLMemoryManager.isInCache c mm q.virtualAddr .l1GpuLocal = false ∧
    CXLMemoryManager.isInCache c mm q.virtualAddr .l2Prefetch = false

/-- The loop of `prefetch` returns new requests of uncached addresses and pushes exactly
those onto the queue. -/
theorem prefetchLoop_spec (c : Config) (mm : CXLMemoryManager) (layerId : BitVec 32)
    (i : Nat) (preds : List (BitVec 32 × α)) (reqs R : List (PrefetchRequest α)) :
    ∃ new, prefetchLoop c mm layerId i preds (reqs, lastN 16 R) = (reqs ++ new, lastN 16 (R ++ new)) ∧
      ∀ q ∈ new, Uncached c mm q := by
  induction preds generalizing i reqs R with
  | nil => exact ⟨[], by simp [prefetchLoop], by simp⟩
  | cons pred rest ih =>
      obtain ⟨token, confidence⟩ := pred
      simp only [prefetchLoop]
      split_ifs with hc
      · exact ih (i + 1) reqs R
      · rw [issueDmaPrefetch_lastN]
        obtain ⟨new, he, hnew⟩ := ih (i + 1) (reqs ++ [_]) (R ++ [_])
        refine ⟨_ :: new, by simpa using he, ?_⟩
        intro q hq
        rcases List.mem_cons.1 hq with rfl | hq
        · simpa only [Bool.or_eq_true, not_or, Bool.not_eq_true] using hc
        · exact hnew q hq

variable [LinearOrder α] (sort : ConfidenceSort α)

/-- One call pushes exactly the requests it returns, each issued by a `prefetch` whose
manager had its address in neither L1 nor L2. -/
theorem exec_queue (r : Request) (s : SpeculativePrefetcher α) (R : List (PrefetchRequest α))
    (hq : s.outstandingPrefetches = lastN 16 R) :
    (r.exec sort s).2.outstandingPrefetches = lastN 16 (R ++ (r.exec sort s).1) ∧
      ∀ q ∈ (r.exec sort s).1, ∃ c mm tokenHistory layerId depth,
        r = .prefetch c mm tokenHistory layerId depth ∧ Uncached c mm q := by
  cases r with
  | prefetch c mm tokenHistory layerId depth =>
      obtain ⟨new, he, hnew⟩ := prefetchLoop_spec c mm layerId 0
        (s.predictor.predictTopK sort tokenHistory
          (if 0 < depth then depth else s.adaptiveDepth).toNat) [] R
      simp only [Request.exec, SpeculativePrefetcher.prefetch, hq, he, List.nil_append, true_and]
      exact fun q hq => ⟨c, mm, tokenHistory, layerId, depth, rfl, hnew q hq⟩
  | handleMisprediction =>
      refine ⟨?_, fun _ h => (List.not_mem_nil _ h).elim⟩
      simpa [Request.exec, SpeculativePrefetcher.handleMisprediction, apply_ite] using hq
  | updatePredictionAccuracy requestId wasCorrect =>
      refine ⟨?_, fun _ h => (List.not_mem_nil _ h).elim⟩
      simp only [Request.exec, SpeculativePrefetcher.updatePredictionAccuracy, List.append_nil,
        apply_ite SpeculativePrefetcher.outstandingPrefetches, ite_self]
      exact hq
  | setPrefetchDepth | resetStatistics =>
      exact ⟨(List.append_nil R).symm ▸ hq, fun _ h => (List.not_mem_nil _ h).elim⟩

theorem run_queue (rs : List Request) (s : SpeculativePrefetcher α) (R : List (PrefetchRequest α))
    (hq : s.outstandingPrefetches = lastN 16 R) :
    (run sort rs s).2.outstandingPrefetches = lastN 16 (R ++ (run sort rs s).1.map Prod.snd) ∧
      ∀ e ∈ (run sort rs s).1, ∃ c mm tokenHistory layerId depth,
        e.1 = .prefetch c mm tokenHistory layerId depth ∧ Uncached c mm e.2 := by
  induction rs generalizing s R with
  | nil => exact ⟨by simpa only [run, List.map_nil, List.append_nil] using hq,
      fun _ h => (List.not_mem_nil _ h).elim⟩
  | cons r rs ih =>
      obtain ⟨hq₁, hout⟩ := exec_queue sort r s R hq
      obtain ⟨hq', hlog⟩ := ih (r.exec sort s).2 _ hq₁
      refine ⟨by simpa [run] using hq', ?_⟩
      simp only [run, List.mem_append, List.mem_map]
      rintro e (⟨q, hq, rfl⟩ | he)
      · exact hout q hq
      · exact hlog e he

/-- Over every run from an empty queue, the queue is the last `min(16, N)` of the `N` requests
returned so far, in order, and no returned request was in L1 or L2 of the manager it read. -/
theorem outstanding_is_last_sixteen (rs : List Request) (s : SpeculativePrefetcher α)
    (hs : s.outstandingPrefetches = []) :
    (run sort rs s).2.outstandingPrefetches = lastN 16 ((run sort rs s).1.map Prod.snd) ∧
      (run sort rs s).2.outstandingPrefetches.length ≤ 16 ∧
      ∀ e ∈ (run sort rs s).1, ∃ c mm tokenHistory layerId depth,
        e.1 = .prefetch c mm tokenHistory layerId depth ∧
        CXLMemoryManager.isInCache c mm e.2.virtualAddr .l1GpuLocal = false ∧
        CXLMemoryManager.isInCache c mm e.2.virtualAddr .l2Prefetch = false := by
  obtain ⟨hq, hlog⟩ := run_queue sort rs s [] hs
  rw [List.nil_append] at hq
  exact ⟨hq, hq ▸ length_lastN_le _ _, hlog⟩

theorem outstanding_after_two_prefetches :
    let s := SpeculativePrefetcher.new (α := ℕ) fun _ i => i
    let rs := [Request.prefetch {} .init [] 0 0, .prefetch {} .init [] 1 20]
    (run .idsDescending rs s).2.outstandingPrefetches =
        lastN 16 ((run .idsDescending rs s).1.map Prod.snd) ∧
      (run .idsDescending rs s).2.outstandingPrefetches.length ≤ 16 ∧
      ∀ e ∈ (run .idsDescending rs s).1, ∃ c mm tokenHistory layerId depth,
        e.1 = .prefetch c mm tokenHistory layerId depth ∧
        CXLMemoryManager.isInCache c mm e.2.virtualAddr .l1GpuLocal = false ∧
        CXLMemoryManager.isInCache c mm e.2.virtualAddr .l2Prefetch = false :=
  outstanding_is_last_sixteen .idsDescending _ _ rfl

/-- Over every run from an empty queue, `is_already_prefetched` finds exactly the addresses of
the last 16 requests returned. -/
theorem is_already_prefetched_iff_recent (rs : List Request) (s : SpeculativePrefetcher α)
    (hs : s.outstandingPrefetches = []) (va : BitVec 64) :
    (run sort rs s).2.isAlreadyPrefetched va = true ↔
      va ∈ (lastN 16 ((run sort rs s).1.map Prod.snd)).map PrefetchRequest.virtualAddr := by
  obtain ⟨hq, -⟩ := run_queue sort rs s [] hs
  rw [SpeculativePrefetcher.isAlreadyPrefetched, hq, List.nil_append, List.any_eq_true,
    List.mem_map]
  simp only [beq_iff_eq]

theorem is_already_prefetched_after_two_prefetches :
    (SpeculativePrefetcher.new (α := ℕ) fun _ i => i).outstandingPrefetches = [] ∧
      ((run .idsDescending [Request.prefetch {} .init [] 0 0, .prefetch {} .init [] 1 20]
          (SpeculativePrefetcher.new (α := ℕ) fun _ i => i)).2.isAlreadyPrefetched 0x10001 = true ↔
        (0x10001 : BitVec 64) ∈ (lastN 16 ((run .idsDescending [Request.prefetch {} .init [] 0 0,
          .prefetch {} .init [] 1 20] (SpeculativePrefetcher.new (α := ℕ) fun _ i => i)).1.map
            Prod.snd)).map PrefetchRequest.virtualAddr) :=
  ⟨rfl, is_already_prefetched_iff_recent .idsDescending _ _ rfl _⟩

end CxlSpeckv.Prefetch
