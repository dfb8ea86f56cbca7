import CxlSpeckv.Compression.Codec

/-!
# How close decompression comes

`compute_scale_factor` sets `s = max |x| / 127`, and `quantize_to_int8` then rounds
`(x / s) * 127`, which for a largest element is `±16129`: far outside `int8_t`. Whatever
8-bit code that element is stored as, `dequantize_from_int8` gives back at most
`127 / 127 * s = max |x| / 127`, so the element comes back off by more than `max |x| / 127`.
-/

namespace CxlSpeckv.Compression

section MaxAbs

/-- The loop of `compute_scale_factor` is a running maximum. -/
theorem maxAbs_eq_foldl_max (data : List ℚ) :
    maxAbs data = data.foldl (fun m v => max m |v|) 0 := by
  unfold maxAbs
  congr
  funext m v
  split_ifs with h
  · exact (max_eq_right h.le).symm
  · exact (max_eq_left (not_lt.1 h)).symm

variable (init : ℚ) (l : List ℚ)

theorem le_foldl_max :
    init ≤ l.foldl (fun m v => max m |v|) init ∧ ∀ v ∈ l, |v| ≤ l.foldl (fun m v => max m |v|) init := by
  induction l generalizing init with
  | nil => simp
  | cons x xs ih =>
      obtain ⟨h₁, h₂⟩ := ih (max init |x|)
      simp only [List.foldl_cons, List.mem_cons, forall_eq_or_imp]
      exact ⟨(le_max_left _ _).trans h₁, (le_max_right _ _).trans h₁, h₂⟩

theorem foldl_max_mem :
    l.foldl (fun m v => max m |v|) init = init ∨ ∃ v ∈ l, l.foldl (fun m v => max m |v|) init = |v| := by
  induction l generalizing init with
  | nil => exact .inl rfl
  | cons x xs ih =>
      simp only [List.foldl_cons, List.mem_cons, exists_eq_or_imp]
      rcases ih (max init |x|) with h | ⟨v, hv, h⟩
      · rw [h]
        exact (max_choice init |x|).imp_right .inl
      · exact .inr (.inr ⟨v, hv, h⟩)

end MaxAbs

/-- An element of largest absolute value is the maximum the loop finds. -/
theorem maxAbs_eq {data : List ℚ} {v : ℚ} (hv : v ∈ data) (hmax : ∀ w ∈ data, |w| ≤ |v|) :
    maxAbs data = |v| := by
  rw [maxAbs_eq_foldl_max]
  refine le_antisymm ?_ ((le_foldl_max 0 data).2 v hv)
  rcases foldl_max_mem 0 data with h | ⟨w, hw, h⟩
  · rw [h]; exact abs_nonneg v
  · rw [h]; exact hmax w hw

theorem toInt_bounds (q : BitVec 8) : -128 ≤ q.toInt ∧ q.toInt ≤ 127 := by
  have := q.isLt
  rw [BitVec.toInt_eq_toNat_cond]
  split <;> omega

theorem roundHalfAwayFromZero_intCast (n : Int) : roundHalfAwayFromZero n = n := by
  have hhalf : ⌊(1 / 2 : ℚ)⌋ = 0 := Int.floor_eq_zero_iff.2 ⟨by norm_num, by norm_num⟩
  unfold roundHalfAwayFromZero
  split
  · rw [Int.floor_int_add, hhalf, add_zero]
  · rw [← Int.cast_neg, Int.floor_int_add, hhalf, add_zero, neg_neg]

theorem computeScaleFactor_eq {data : List ℚ} {v : ℚ} (hv : v ∈ data)
    (hmax : ∀ w ∈ data, |w| ≤ |v|) (hpos : 0 < |v|) : computeScaleFactor data = |v| / 127 := by
  rw [computeScaleFactor, maxAbs_eq hv hmax, if_pos hpos]

/-- Whatever 8-bit code the quantizer stores for an element of largest absolute value, the
dequantized value misses it by more than `max |x| / 127`: scaling divides by 127 twice. -/
theorem largest_element_misses_bound (data : List ℚ) (v : ℚ) (hv : v ∈ data)
    (hmax : ∀ w ∈ data, |w| ≤ |v|) (hpos : 0 < |v|) (q : BitVec 8) :
    |v| / 127 < |v - dequantizeValue (computeScaleFactor data) q| := by
  rw [dequantizeValue, computeScaleFactor_eq hv hmax hpos, lt_abs]
  obtain ⟨hlo, hhi⟩ := toInt_bounds q
  have hlo' : (-128 : ℚ) ≤ q.toInt := by exact_mod_cast hlo
  have hhi' : (q.toInt : ℚ) ≤ 127 := by exact_mod_cast hhi
  have hs : 0 < |v| / 127 := div_pos hpos (by norm_num)
  rcases le_or_lt 0 v with h | h
  · rw [abs_of_nonneg h] at hs ⊢
    have : (q.toInt : ℚ) / 127 * (v / 127) ≤ v / 127 :=
      mul_le_of_le_one_left hs.le ((div_le_one (by norm_num)).2 hhi')
    left; linarith only [this, hs]
  · rw [abs_of_neg h] at hs ⊢
    have : -128 / 127 * (-v / 127) ≤ (q.toInt : ℚ) / 127 * (-v / 127) :=
      mul_le_mul_of_nonneg_right (div_le_div_of_nonneg_right hlo' (by norm_num)) hs.le
    right; linarith only [this, hs]

/-- The single element `1.0` comes back as `1 / 16129`. -/
theorem codec_returns_one_over_16129 :
    decompress (compress [1] 1 1 0) 1 1 = [1 / 16129] ∧
      (1 : ℚ) / 127 < |1 - dequantizeValue (computeScaleFactor [1]) 1| := by
  have h₁ : ∀ w ∈ ([1] : List ℚ), |w| ≤ |1| := by simp
  have h₂ : (0 : ℚ) < |1| := by norm_num
  refine ⟨?_, by simpa only [abs_one] using
    largest_element_misses_bound [1] 1 (List.mem_singleton_self 1) h₁ h₂ 1⟩
  have hs : computeScaleFactor [1] = 1 / 127 := by
    rw [computeScaleFactor_eq (List.mem_singleton_self 1) h₁ h₂, abs_one]
  have hq : quantizeValue (1 / 127) 1 = 1 := by
    rw [quantizeValue, show (1 : ℚ) / (1 / 127) * 127 = ((16129 : Int) : ℚ) by norm_num,
      roundHalfAwayFromZero_intCast]
    decide
  simp only [decompress, compress, hs, quantizeToInt8, List.map_cons, List.map_nil, hq]
  simp only [deltaEncode, deltaEncodeFrom, runLengthEncode, runLengthEncodeFrom]
  norm_num [runLengthDecode, deltaDecode, deltaDecodeFrom, dequantizeFromInt8, dequantizeValue,
    show (1 : BitVec 8).toInt = 1 from rfl]

end CxlSpeckv.Compression
