import CxlSpeckv.Prefetch.Prefetcher

/-!
# The adaptive depth

`update_prediction_accuracy` moves the adaptive depth by one, up while it is below 8 and
down while it is above 2, so from a depth in `[2, 8]` it stays there. The window it reads is
the last ten observations after each push, so it slides by one observation per call: once
ten correct observations are recorded, every further correct one raises the depth again,
until it reaches 8.
-/

namespace CxlSpeckv.Prefetch

namespace SpeculativePrefetcher

variable {α : Type} {s : SpeculativePrefetcher α}

theorem recentAccuracy_replicate_true {n : Nat} (hn : 10 ≤ n) :
    recentAccuracy (List.replicate n true) = 1 := by
  rw [recentAccuracy, List.length_replicate, List.drop_replicate, List.count_replicate_self,
    show n - (n - 10) = 10 by omega]
  norm_num

/-- What one observation can do to the depth: keep it, raise it from below 8, or lower it
from above 2. -/
theorem adaptiveDepth_update_cases (s : SpeculativePrefetcher α) (requestId : BitVec 32)
    (wasCorrect : Bool) :
    (s.updatePredictionAccuracy requestId wasCorrect).adaptiveDepth = s.adaptiveDepth ∨
      (s.adaptiveDepth < 8 ∧
        (s.updatePredictionAccuracy requestId wasCorrect).adaptiveDepth = s.adaptiveDepth + 1) ∨
      (2 < s.adaptiveDepth ∧
        (s.updatePredictionAccuracy requestId wasCorrect).adaptiveDepth = s.adaptiveDepth - 1) := by
  unfold updatePredictionAccuracy
  dsimp only
  generalize (if (s.accuracyHistory ++ [wasCorrect]).length > s.accuracyWindowSize then
    (s.accuracyHistory ++ [wasCorrect]).tail else s.accuracyHistory ++ [wasCorrect]) = history
  split_ifs with _ h₁ h₂
  · exact .inr (.inl ⟨h₁.2, rfl⟩)
  · exact .inr (.inr ⟨h₂.2, rfl⟩)
  · exact .inl rfl
  · exact .inl rfl

/-- Each observation moves the depth by at most one. -/
theorem toNat_adaptiveDepth_update (s : SpeculativePrefetcher α) (requestId : BitVec 32)
    (wasCorrect : Bool) :
    (s.updatePredictionAccuracy requestId wasCorrect).adaptiveDepth.toNat ≤
        s.adaptiveDepth.toNat + 1 ∧
      s.adaptiveDepth.toNat ≤ (s.updatePredictionAccuracy requestId wasCorrect).adaptiveDepth.toNat + 1 ∧
      (2 ≤ s.adaptiveDepth.toNat → 2 ≤ (s.updatePredictionAccuracy requestId wasCorrect).adaptiveDepth.toNat) ∧
      (s.adaptiveDepth.toNat ≤ 8 → (s.updatePredictionAccuracy requestId wasCorrect).adaptiveDepth.toNat ≤ 8) := by
  rcases adaptiveDepth_update_cases s requestId wasCorrect with h | ⟨hlt, h⟩ | ⟨hgt, h⟩ <;> rw [h]
  · omega
  · rw [BitVec.lt_def, show (8 : BitVec 64).toNat = 8 from rfl] at hlt
    rw [BitVec.toNat_add, show (1 : BitVec 64).toNat = 1 from rfl, Nat.mod_eq_of_lt (by omega)]
    omega
  · rw [BitVec.lt_def, show (2 : BitVec 64).toNat = 2 from rfl] at hgt
    have h1 : (1 : BitVec 64).toNat = 1 := rfl
    rw [BitVec.toNat_sub_of_le (by rw [BitVec.le_def, h1]; omega), h1]
    omega

@[simp] theorem adaptiveDepth_prefetch [LinearOrder α] (sort : ConfidenceSort α) (c : Memory.Config)
    (mm : Memory.CXLMemoryManager) (tokenHistory : List (BitVec 32)) (layerId : BitVec 32)
    (depth : BitVec 64) : (s.prefetch sort c mm tokenHistory layerId depth).2.adaptiveDepth = s.adaptiveDepth := by
  unfold prefetch
  dsimp only

/-- A correct observation on a window of `m` correct ones: the window grows to at most 100,
and the depth rises by one once the window holds ten, up to 8. -/
theorem updatePredictionAccuracy_true_of_replicate (s : SpeculativePrefetcher α)
    (requestId : BitVec 32) {m : Nat} (hw : s.accuracyWindowSize = 100) (hm : m ≤ 100)
    (hh : s.accuracyHistory = List.replicate m true) :
    (s.updatePredictionAccuracy requestId true).accuracyWindowSize = 100 ∧
      (s.updatePredictionAccuracy requestId true).accuracyHistory =
        List.replicate (min (m + 1) 100) true ∧
      (s.updatePredictionAccuracy requestId true).adaptiveDepth.toNat =
        if 9 ≤ m ∧ s.adaptiveDepth.toNat < 8 then s.adaptiveDepth.toNat + 1
        else s.adaptiveDepth.toNat := by
  have hpush : s.accuracyHistory ++ [true] = List.replicate (m + 1) true := by
    rw [hh, show [true] = List.replicate 1 true from rfl, List.append_replicate_replicate]
  have hwin : (if (List.replicate (m + 1) true).length > 100 then (List.replicate (m + 1) true).tail
      else List.replicate (m + 1) true) = List.replicate (min (m + 1) 100) true := by
    rw [List.length_replicate]
    split_ifs
    · rw [List.tail_replicate, show min (m + 1) 100 = m + 1 - 1 by omega]
    · rw [show min (m + 1) 100 = m + 1 by omega]
  have h8 : (8 : BitVec 64).toNat = 8 := rfl
  unfold updatePredictionAccuracy
  dsimp only
  rw [hw, hpush, hwin]
  have hlen : (List.replicate (min (m + 1) 100) true).length = min (m + 1) 100 :=
    List.length_replicate _ _
  by_cases hm9 : 9 ≤ m
  · rw [if_pos (by omega), recentAccuracy_replicate_true (by omega)]
    by_cases hd : s.adaptiveDepth.toNat < 8
    · rw [if_pos ⟨by norm_num, by rw [BitVec.lt_def, h8]; exact hd⟩]
      refine ⟨rfl, rfl, ?_⟩
      rw [if_pos ⟨hm9, hd⟩, BitVec.toNat_add, show (1 : BitVec 64).toNat = 1 from rfl,
        Nat.mod_eq_of_lt (by omega)]
    · rw [if_neg fun h => hd (by rw [BitVec.lt_def, h8] at h; exact h.2), if_neg (by norm_num)]
      exact ⟨rfl, rfl, (if_neg fun h => hd h.2).symm⟩
  · rw [if_neg (by omega)]
    exact ⟨rfl, rfl, (if_neg fun h => hm9 h.1).symm⟩

end SpeculativePrefetcher

open SpeculativePrefetcher

/-- Whether a call sets the depth inside `[2, 8]`, or sets none. -/
def Request.setsDepthWithin : Request → Bool
  | .setPrefetchDepth depth => decide (2 ≤ depth.toNat ∧ depth.toNat ≤ 8)
  | _ => true

variable {α : Type} [LinearOrder α] (sort : ConfidenceSort α)

/-- The adaptive depth lies in `[2, 8]`. -/
def DepthInRange (s : SpeculativePrefetcher α) : Prop :=
  2 ≤ s.adaptiveDepth.toNat ∧ s.adaptiveDepth.toNat ≤ 8

theorem DepthInRange.exec {s : SpeculativePrefetcher α} {r : Request} (h : DepthInRange s)
    (hr : r.setsDepthWithin = true) : DepthInRange (r.exec sort s).2 := by
  cases r with
  | prefetch c mm tokenHistory layerId depth =>
      simpa only [DepthInRange, Request.exec, adaptiveDepth_prefetch] using h
  | handleMisprediction actualToken predictedTokens =>
      show DepthInRange (s.handleMisprediction actualToken predictedTokens)
      unfold handleMisprediction
      split_ifs <;> exact h
  | updatePredictionAccuracy requestId wasCorrect =>
      have := toNat_adaptiveDepth_update s requestId wasCorrect
      exact ⟨this.2.2.1 h.1, this.2.2.2 h.2⟩
  | setPrefetchDepth depth => simpa [Request.setsDepthWithin] using hr
  | resetStatistics => exact h

theorem DepthInRange.run {s : SpeculativePrefetcher α} {rs : List Request} (h : DepthInRange s)
    (hrs : ∀ r ∈ rs, r.setsDepthWithin = true) : DepthInRange (run sort rs s).2 := by
  induction rs generalizing s with
  | nil => exact h
  | cons r rs ih =>
      exact ih (h.exec sort (hrs r (List.mem_cons_self _ _)))
        fun r' h' => hrs r' (List.mem_cons_of_mem _ h')

/-- From a depth in `[2, 8]`, with `set_prefetch_depth` given depths in `[2, 8]`, the adaptive
depth stays in `[2, 8]`, and each observation moves it by at most one. -/
theorem adaptive_depth_within_bounds (network : List (BitVec 32) → Nat → α)
    (prefetchDepth historyLength : BitVec 64)
    (hd : 2 ≤ prefetchDepth.toNat ∧ prefetchDepth.toNat ≤ 8) (rs : List Request)
    (hrs : ∀ r ∈ rs, r.setsDepthWithin = true) :
    2 ≤ (run sort rs (new network prefetchDepth historyLength)).2.adaptiveDepth.toNat ∧
      (run sort rs (new network prefetchDepth historyLength)).2.adaptiveDepth.toNat ≤ 8 ∧
      ∀ (t : SpeculativePrefetcher α) requestId wasCorrect,
        (t.updatePredictionAccuracy requestId wasCorrect).adaptiveDepth.toNat ≤
            t.adaptiveDepth.toNat + 1 ∧
          t.adaptiveDepth.toNat ≤ (t.updatePredictionAccuracy requestId wasCorrect).adaptiveDepth.toNat + 1 :=
  have h := DepthInRange.run sort (s := new network prefetchDepth historyLength) hd hrs
  ⟨h.1, h.2, fun t requestId wasCorrect =>
    ⟨(toNat_adaptiveDepth_update t requestId wasCorrect).1,
      (toNat_adaptiveDepth_update t requestId wasCorrect).2.1⟩⟩

theorem adaptive_depth_within_bounds_three_calls :
    let rs := [Request.updatePredictionAccuracy 0 true, .setPrefetchDepth 8, .prefetch {} .init [] 0 0]
    let s := new (α := ℕ) (fun _ _ => 0) 4 16
    2 ≤ (run .idsDescending rs s).2.adaptiveDepth.toNat ∧
      (run .idsDescending rs s).2.adaptiveDepth.toNat ≤ 8 ∧
      ∀ (t : SpeculativePrefetcher ℕ) requestId wasCorrect,
        (t.updatePredictionAccuracy requestId wasCorrect).adaptiveDepth.toNat ≤
            t.adaptiveDepth.toNat + 1 ∧
          t.adaptiveDepth.toNat ≤ (t.updatePredictionAccuracy requestId wasCorrect).adaptiveDepth.toNat + 1 :=
  adaptive_depth_within_bounds .idsDescending _ 4 16 (by decide) _ (by decide)

/-- The count of the run lemma, one observation on. -/
theorem min_depth_step {d m n : Nat} (hd : d ≤ 8) (hm : m ≤ 100) :
    min 8 ((if 9 ≤ m ∧ d < 8 then d + 1 else d) + (n - (9 - min (m + 1) 100))) =
      min 8 (d + (n + 1 - (9 - m))) := by
  rw [show 9 - min (m + 1) 100 = 8 - m by omega]
  by_cases h9 : 9 ≤ m
  · rw [show 8 - m = 0 by omega, show 9 - m = 0 by omega, Nat.sub_zero, Nat.sub_zero]
    split_ifs <;> omega
  · rw [if_neg fun h => h9 h.1, show n + 1 - (9 - m) = n - (8 - m) by omega]

theorem run_correct_observations (s : SpeculativePrefetcher α) {m : Nat}
    (hw : s.accuracyWindowSize = 100) (hm : m ≤ 100) (hh : s.accuracyHistory = List.replicate m true)
    (hd : s.adaptiveDepth.toNat ≤ 8) (requestIds : List (BitVec 32)) :
    (run sort (requestIds.map (Request.updatePredictionAccuracy · true)) s).2.adaptiveDepth.toNat =
      min 8 (s.adaptiveDepth.toNat + (requestIds.length - (9 - m))) := by
  induction requestIds generalizing s m with
  | nil =>
      show _ = min 8 (_ + (0 - _))
      rw [Nat.zero_sub, Nat.add_zero, Nat.min_eq_right hd]
      rfl
  | cons requestId requestIds ih =>
      obtain ⟨hw₁, hh₁, hd₁⟩ := updatePredictionAccuracy_true_of_replicate s requestId hw hm hh
      have hd₁' : (s.updatePredictionAccuracy requestId true).adaptiveDepth.toNat ≤ 8 := by
        rw [hd₁]
        split_ifs <;> omega
      rw [List.map_cons, run_cons_snd, exec_updatePredictionAccuracy,
        ih _ hw₁ (Nat.min_le_right _ _) hh₁ hd₁', hd₁, List.length_cons]
      exact min_depth_step hd hm

/-- After `n` correct observations from a constructor depth of at most 8, the depth is
`min(8, depth + (n - 9))`: it rises at every observation from the tenth on. -/
theorem correct_observations_raise_depth_each_time (network : List (BitVec 32) → Nat → α)
    (prefetchDepth historyLength : BitVec 64) (hd : prefetchDepth.toNat ≤ 8)
    (requestIds : List (BitVec 32)) :
    (run sort (requestIds.map (Request.updatePredictionAccuracy · true))
        (new network prefetchDepth historyLength)).2.adaptiveDepth.toNat =
      min 8 (prefetchDepth.toNat + (requestIds.length - 9)) := by
  rw [run_correct_observations sort _ rfl (Nat.zero_le _) rfl hd]
  rfl

theorem correct_observations_from_depth_two :
    (2 : BitVec 64).toNat ≤ 8 ∧
      (run .idsDescending ((List.replicate 12 (0 : BitVec 32)).map
          (Request.updatePredictionAccuracy · true))
        (new (α := ℕ) (fun _ _ => 0) 2 16)).2.adaptiveDepth.toNat =
      min 8 ((2 : BitVec 64).toNat + ((List.replicate 12 (0 : BitVec 32)).length - 9)) :=
  ⟨by decide, correct_observations_raise_depth_each_time .idsDescending _ 2 16 (by decide) _⟩

/-- Scenario 5 of the spec's section 8: from depth 4, twenty correct observations leave the
depth at 8, not 5. -/
theorem twenty_correct_observations_reach_eight :
    (run .idsDescending ((List.replicate 20 (0 : BitVec 32)).map
        (Request.updatePredictionAccuracy · true))
      (new (α := ℕ) (fun _ _ => 0) 4 16)).2.adaptiveDepth.toNat = 8 := by
  rw [run_correct_observations .idsDescending _ rfl (Nat.zero_le _) rfl (by decide)]
  rfl

end CxlSpeckv.Prefetch
