import CxlSpeckv.Compression.Codec
import Mathlib.Data.List.Chain

/-!
# The integer stages are lossless

Behind quantization the pipeline only moves bits: `delta_decode` undoes `delta_encode` in
8-bit arithmetic, and `run_length_decode` undoes `run_length_encode` because a run is cut
at 255 before its count byte could wrap. So `decompress (compress x)` is exactly the
dequantized `quantize_to_int8 x s`, and the encoded stream is a sequence of
`[value, count]` pairs, at most two bytes per element.

## Implementation notes

`int8_t` and `uint8_t` are both `BitVec 8`, so the casts of `rle_data` between `compress`
and `decompress` keep every byte, as the two's-complement conversion does.
-/

namespace CxlSpeckv.Compression

section Delta

theorem deltaDecodeFrom_deltaEncodeFrom (prev : BitVec 8) (xs : List (BitVec 8)) :
    deltaDecodeFrom prev (deltaEncodeFrom prev xs) = xs := by
  induction xs generalizing prev with
  | nil => rfl
  | cons x xs ih =>
      have hx : prev + (x - prev) = x := by rw [BitVec.add_comm, BitVec.sub_add_cancel]
      simp only [deltaEncodeFrom, deltaDecodeFrom, hx, ih]

theorem deltaDecode_deltaEncode (xs : List (BitVec 8)) : deltaDecode (deltaEncode xs) = xs := by
  cases xs with
  | nil => rfl
  | cons x xs => simp only [deltaEncode, deltaDecode, deltaDecodeFrom_deltaEncodeFrom]

theorem deltaEncodeFrom_deltaDecodeFrom (prev : BitVec 8) (ds : List (BitVec 8)) :
    deltaEncodeFrom prev (deltaDecodeFrom prev ds) = ds := by
  induction ds generalizing prev with
  | nil => rfl
  | cons d ds ih =>
      have hd : prev + d - prev = d := by rw [BitVec.add_comm, BitVec.add_sub_cancel]
      simp only [deltaDecodeFrom, deltaEncodeFrom, hd, ih]

theorem deltaEncode_deltaDecode (ds : List (BitVec 8)) : deltaEncode (deltaDecode ds) = ds := by
  cases ds with
  | nil => rfl
  | cons d ds => simp only [deltaDecode, deltaEncode, deltaEncodeFrom_deltaDecodeFrom]

theorem length_deltaEncodeFrom (prev : BitVec 8) (xs : List (BitVec 8)) :
    (deltaEncodeFrom prev xs).length = xs.length := by
  induction xs generalizing prev with
  | nil => rfl
  | cons x xs ih => simp only [deltaEncodeFrom, List.length_cons, ih]

theorem length_deltaEncode (xs : List (BitVec 8)) : (deltaEncode xs).length = xs.length := by
  cases xs with
  | nil => rfl
  | cons x xs => simp only [deltaEncode, List.length_cons, length_deltaEncodeFrom]

end Delta

section RunLength

/-- A count below 256 survives the cast to its `uint8_t` byte. -/
theorem toNat_count {count : Nat} (hc : count ≤ 255) : (BitVec.ofNat 8 count).toNat = count := by
  rw [BitVec.toNat_ofNat]
  exact Nat.mod_eq_of_lt (by omega)

/-- The pending run of `count` copies of `v`, then the rest of the input, decode back. -/
theorem runLengthDecode_runLengthEncodeFrom (v : BitVec 8) {count : Nat} (hc : count ≤ 255)
    (xs : List (BitVec 8)) :
    runLengthDecode (runLengthEncodeFrom v count xs) = List.replicate count v ++ xs := by
  induction xs generalizing v count with
  | nil => simp [runLengthEncodeFrom, runLengthDecode, toNat_count hc]
  | cons x xs ih =>
      unfold runLengthEncodeFrom
      split_ifs with h
      · rw [ih v (by omega), h.1, ← List.append_replicate_replicate, List.append_assoc]
        rfl
      · rw [runLengthDecode, toNat_count hc, ih x (by decide)]
        rfl

theorem runLengthDecode_runLengthEncode (xs : List (BitVec 8)) :
    runLengthDecode (runLengthEncode xs) = xs := by
  cases xs with
  | nil => rfl
  | cons x xs => exact runLengthDecode_runLengthEncodeFrom x (by decide) xs

/-- Every flushed run is two bytes, and there is at most one run per element. -/
theorem length_runLengthEncodeFrom (v : BitVec 8) (count : Nat) (xs : List (BitVec 8)) :
    Even (runLengthEncodeFrom v count xs).length ∧
      (runLengthEncodeFrom v count xs).length ≤ 2 * (xs.length + 1) := by
  induction xs generalizing v count with
  | nil => exact ⟨⟨1, rfl⟩, le_refl 2⟩
  | cons x xs ih =>
      unfold runLengthEncodeFrom
      split_ifs
      · obtain ⟨he, hle⟩ := ih v (count + 1)
        exact ⟨he, by simp only [List.length_cons] at hle ⊢; omega⟩
      · obtain ⟨⟨r, hr⟩, hle⟩ := ih x 1
        simp only [List.length_cons] at hle ⊢
        exact ⟨⟨r + 1, by omega⟩, by omega⟩

theorem length_runLengthEncode (xs : List (BitVec 8)) :
    Even (runLengthEncode xs).length ∧ (runLengthEncode xs).length ≤ 2 * xs.length := by
  cases xs with
  | nil => exact ⟨⟨0, rfl⟩, le_refl 0⟩
  | cons x xs => simpa only [List.length_cons] using length_runLengthEncodeFrom x 1 xs

/-- The `[value, count]` pairs of a byte stream, in order; a trailing unpaired byte belongs to
no pair. -/
def rlePairs : List (BitVec 8) → List (BitVec 8 × BitVec 8)
  | v :: c :: rest => (v, c) :: rlePairs rest
  | _ => []

/-- Copies of the value of the run in progress extend it while its count stays within 255. -/
theorem runLengthEncodeFrom_replicate_append (v : BitVec 8) {k m : Nat} (h : k + m ≤ 255)
    (xs : List (BitVec 8)) :
    runLengthEncodeFrom v k (List.replicate m v ++ xs) = runLengthEncodeFrom v (k + m) xs := by
  induction m generalizing k with
  | zero => rfl
  | succ m ih =>
      rw [List.replicate_succ, List.cons_append, runLengthEncodeFrom, if_pos ⟨rfl, by omega⟩,
        ih (by omega), Nat.add_right_comm]
      rfl

/-- A run of `c` copies, `1 ≤ c ≤ 255`, at the start of the input is one run of the encoder. -/
theorem runLengthEncode_replicate_append (v : BitVec 8) {c : Nat} (h₁ : 1 ≤ c) (h₂ : c ≤ 255)
    (xs : List (BitVec 8)) :
    runLengthEncode (List.replicate c v ++ xs) = runLengthEncodeFrom v c xs := by
  obtain ⟨n, rfl⟩ : ∃ n, c = n + 1 := ⟨c - 1, by omega⟩
  rw [List.replicate_succ, List.cons_append, runLengthEncode,
    runLengthEncodeFrom_replicate_append v (by omega), Nat.add_comm]

/-- The run in progress is flushed when the next value differs from it or its count is 255. -/
theorem runLengthEncodeFrom_flush (v : BitVec 8) {k : Nat} (xs : List (BitVec 8))
    (h : ∀ x ∈ xs.head?, x = v → k = 255) :
    runLengthEncodeFrom v k xs = v :: BitVec.ofNat 8 k :: runLengthEncode xs := by
  cases xs with
  | nil => rfl
  | cons x xs =>
      rw [runLengthEncodeFrom, if_neg fun hx => lt_irrefl 255 (h x rfl hx.1 ▸ hx.2)]
      rfl

/-- With no empty run, the decoded stream starts with the value of the first pair. -/
theorem head?_runLengthDecode (b : List (BitVec 8)) (hc : ∀ p ∈ rlePairs b, 1 ≤ p.2.toNat) :
    (runLengthDecode b).head? = (rlePairs b).head?.map Prod.fst := by
  match b, hc with
  | [], _ => rfl
  | [_], _ => rfl
  | v :: c :: rest, hc =>
      have h₁ : 1 ≤ c.toNat := hc (v, c) (.head _)
      obtain ⟨n, hn⟩ : ∃ n, c.toNat = n + 1 := ⟨c.toNat - 1, by omega⟩
      rw [runLengthDecode, hn, List.replicate_succ, List.cons_append]
      rfl

/-- An even stream of non-empty runs, in which a run is followed by one of the same value only
when it is full, is exactly what the encoder gives for its decoding. -/
theorem runLengthEncode_runLengthDecode (b : List (BitVec 8)) (he : Even b.length)
    (hc : ∀ p ∈ rlePairs b, 1 ≤ p.2.toNat)
    (hv : (rlePairs b).Chain' fun p q => p.1 = q.1 → p.2 = 255) :
    runLengthEncode (runLengthDecode b) = b := by
  induction b using rlePairs.induct with
  | case1 v c rest ih =>
      simp only [rlePairs, List.mem_cons, forall_eq_or_imp, List.chain'_cons'] at hc hv
      have hrest : Even rest.length := by
        obtain ⟨r, hr⟩ := he
        exact ⟨r - 1, by simp only [List.length_cons] at hr; omega⟩
      have hflush : ∀ x ∈ (runLengthDecode rest).head?, x = v → c.toNat = 255 := by
        rw [head?_runLengthDecode rest hc.2]
        intro x hx hxv
        obtain ⟨p, hp, rfl⟩ := Option.mem_map.1 hx
        rw [hv.1 p hp hxv.symm]
        rfl
      rw [runLengthDecode, runLengthEncode_replicate_append v hc.1 (by omega),
        runLengthEncodeFrom_flush v _ hflush, ih hrest hc.2 hv.2, BitVec.ofNat_toNat,
        BitVec.setWidth_eq]
  | case2 b hb =>
      match b, hb with
      | [], _ => rfl
      | [_], _ => simp at he
      | v :: c :: rest, hb => exact absurd rfl (hb v c rest)

end RunLength

/-- Decompressing the compressed data gives back exactly the dequantized quantization; the stored
size is the run-length stream's, even and at most twice the input length. -/
theorem integer_stages_lossless (x : List ℚ) (numTokens hiddenDim numTokens' hiddenDim' : BitVec 64)
    (layerId : BitVec 32) :
    decompress (compress x numTokens hiddenDim layerId) numTokens' hiddenDim' =
        dequantizeFromInt8 (quantizeToInt8 x (computeScaleFactor x)) (computeScaleFactor x) ∧
      (decompress (compress x numTokens hiddenDim layerId) numTokens' hiddenDim').length =
        x.length ∧
      (compress x numTokens hiddenDim layerId).compressedSize =
        BitVec.ofNat 64 (runLengthEncode (deltaEncode (quantizeToInt8 x (computeScaleFactor x)))).length ∧
      Even (runLengthEncode (deltaEncode (quantizeToInt8 x (computeScaleFactor x)))).length ∧
      (runLengthEncode (deltaEncode (quantizeToInt8 x (computeScaleFactor x)))).length ≤
        2 * x.length := by
  have hdec : decompress (compress x numTokens hiddenDim layerId) numTokens' hiddenDim' =
      dequantizeFromInt8 (quantizeToInt8 x (computeScaleFactor x)) (computeScaleFactor x) := by
    simp only [decompress, compress, runLengthDecode_runLengthEncode, deltaDecode_deltaEncode]
  have hq : (quantizeToInt8 x (computeScaleFactor x)).length = x.length := List.length_map _ _
  have hlen := length_runLengthEncode (deltaEncode (quantizeToInt8 x (computeScaleFactor x)))
  rw [length_deltaEncode, hq] at hlen
  refine ⟨hdec, ?_, rfl, hlen⟩
  rw [hdec, dequantizeFromInt8, List.length_map, hq]

/-- `run_length_decode` inverts `run_length_encode`, and the encoder inverts the decoder on even
streams of non-zero counts that repeat a value only after a count of 255. -/
theorem run_length_round_trips (s b : List (BitVec 8)) (he : Even b.length)
    (hc : ∀ p ∈ rlePairs b, 1 ≤ p.2.toNat)
    (hv : (rlePairs b).Chain' fun p q => p.1 = q.1 → p.2 = 255) :
    runLengthDecode (runLengthEncode s) = s ∧ runLengthEncode (runLengthDecode b) = b :=
  ⟨runLengthDecode_runLengthEncode s, runLengthEncode_runLengthDecode b he hc hv⟩

/-- A full run of 255 fives followed by three more fives, then one seven. -/
theorem run_length_round_trips_split_run :
    Even [5, 255, 5, 3, 7, 1].length ∧
      (∀ p ∈ rlePairs [5, 255, 5, 3, 7, 1], 1 ≤ p.2.toNat) ∧
      (rlePairs [5, 255, 5, 3, 7, 1]).Chain' (fun p q => p.1 = q.1 → p.2 = 255) ∧
      runLengthDecode (runLengthEncode [1, 1, 2]) = [1, 1, 2] ∧
      runLengthEncode (runLengthDecode [5, 255, 5, 3, 7, 1]) = [5, 255, 5, 3, 7, 1] :=
  have he : Even [(5 : BitVec 8), 255, 5, 3, 7, 1].length := by decide
  have hc : ∀ p ∈ rlePairs [5, 255, 5, 3, 7, 1], 1 ≤ p.2.toNat := by decide
  have hv : (rlePairs [5, 255, 5, 3, 7, 1]).Chain' (fun p q => p.1 = q.1 → p.2 = 255) := by
    simp [rlePairs]
  ⟨he, hc, hv, run_length_round_trips [1, 1, 2] _ he hc hv⟩

/-- `delta_decode` and `delta_encode` are inverse to each other in 8-bit arithmetic, so
`delta_encode` permutes the int8 sequences of each length. -/
theorem delta_stages_inverse :
    (∀ s, deltaDecode (deltaEncode s) = s) ∧ (∀ s, deltaEncode (deltaDecode s) = s) ∧
      ∀ n, Set.BijOn deltaEncode {s | s.length = n} {s | s.length = n} := by
  refine ⟨deltaDecode_deltaEncode, deltaEncode_deltaDecode, fun n => ?_⟩
  refine Set.InvOn.bijOn ⟨fun s _ => deltaDecode_deltaEncode s, fun s _ => deltaEncode_deltaDecode s⟩
    (fun s (hs : s.length = n) => ?_) (fun s (hs : s.length = n) => ?_)
  · exact (length_deltaEncode s).trans hs
  · show (deltaDecode s).length = n
    rw [← length_deltaEncode, deltaEncode_deltaDecode, hs]

end CxlSpeckv.Compression
