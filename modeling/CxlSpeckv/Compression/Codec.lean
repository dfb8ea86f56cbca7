import Mathlib.Data.Rat.Floor
import Mathlib.Tactic.Linarith
import Mathlib.Tactic.NormNum

/-!
# The compression pipeline

`FPGACacheEngine::compress` scales, quantizes to `int8_t`, delta-encodes and run-length
encodes a vector of floats; `decompress` runs the inverse stages. Floats are exact
rationals, `std::round` rounds halves away from zero, and `int8_t` and `uint8_t` are both
`BitVec 8`: the signed reading is `toInt`, the unsigned one `toNat`, and the casts between
them keep the bits.

## Implementation notes

`compute_scale_factor` divides by 127 and `quantize_to_int8` multiplies by 127 again, so a
largest element is scaled to `±16129` before the cast to `int8_t`. That cast is undefined
in C++ for values out of range; the model keeps the low eight bits, as the x86 conversion
does, and the results about it hold for every 8-bit value the cast could give. The timing
and the compression-ratio statistics are not modelled.
-/

namespace CxlSpeckv.Compression

/-- `std::round`: halves go away from zero. -/
def roundHalfAwayFromZero (x : ℚ) : Int :=
  if 0 ≤ x then ⌊x + 1 / 2⌋ else -⌊-x + 1 / 2⌋

/-- `static_cast<int8_t>` of an integral value: its low eight bits. -/
def toInt8 (n : Int) : BitVec 8 := BitVec.ofInt 8 n

/-- The loop of `compute_scale_factor`: the largest absolute value, or `0`. -/
def maxAbs (data : List ℚ) : ℚ :=
  data.foldl (fun maxVal v => if maxVal < |v| then |v| else maxVal) 0

def computeScaleFactor (data : List ℚ) : ℚ :=
  if 0 < maxAbs data then maxAbs data / 127 else 1

/-- One element of `quantize_to_int8`: scale, round, cast, then clamp the cast value. -/
def quantizeValue (scale x : ℚ) : BitVec 8 :=
  let scaled := x / scale
  let quantizedVal := toInt8 (roundHalfAwayFromZero (scaled * 127))
  toInt8 (max (-128) (min 127 quantizedVal.toInt))

def quantizeToInt8 (data : List ℚ) (scale : ℚ) : List (BitVec 8) :=
  data.map (quantizeValue scale)

/-- The loop of `delta_encode` after the first element: each element minus the one
before it, in 8-bit arithmetic. -/
def deltaEncodeFrom (prev : BitVec 8) : List (BitVec 8) → List (BitVec 8)
  | [] => []
  | x :: xs => (x - prev) :: deltaEncodeFrom x xs

def deltaEncode : List (BitVec 8) → List (BitVec 8)
  | [] => []
  | x :: xs => x :: deltaEncodeFrom x xs

/-- The loop of `run_length_encode` over a run of `count` copies of `currentVal`, flushed as
`[value, count]` when the value changes or the count reaches 255. -/
def runLengthEncodeFrom (currentVal : BitVec 8) (count : Nat) :
    List (BitVec 8) → List (BitVec 8)
  | [] => [currentVal, BitVec.ofNat 8 count]
  | x :: xs =>
      if x = currentVal ∧ count < 255 then runLengthEncodeFrom currentVal (count + 1) xs
      else currentVal :: BitVec.ofNat 8 count :: runLengthEncodeFrom x 1 xs

def runLengthEncode : List (BitVec 8) → List (BitVec 8)
  | [] => []
  | x :: xs => runLengthEncodeFrom x 1 xs

/-- Each `[value, count]` pair becomes `count` copies of `value`; a trailing unpaired byte
is dropped. -/
def runLengthDecode : List (BitVec 8) → List (BitVec 8)
  | value :: count :: rest => List.replicate count.toNat value ++ runLengthDecode rest
  | _ => []

/-- The loop of `delta_decode` after the first element: a running 8-bit sum. -/
def deltaDecodeFrom (prev : BitVec 8) : List (BitVec 8) → List (BitVec 8)
  | [] => []
  | d :: ds => (prev + d) :: deltaDecodeFrom (prev + d) ds

def deltaDecode : List (BitVec 8) → List (BitVec 8)
  | [] => []
  | d :: ds => d :: deltaDecodeFrom d ds

/-- One element of `dequantize_from_int8`. -/
def dequantizeValue (scale : ℚ) (q : BitVec 8) : ℚ :=
  (q.toInt : ℚ) / 127 * scale

def dequantizeFromInt8 (data : List (BitVec 8)) (scale : ℚ) : List ℚ :=
  data.map (dequantizeValue scale)

structure CompressedData where
  scaleFactor : ℚ
  rleData : List (BitVec 8)
  originalSize : BitVec 64
  compressedSize : BitVec 64
  deriving DecidableEq

/-- `num_tokens`, `hidden_dim` and `layer_id` are not read. -/
def compress (kvData : List ℚ) (_numTokens _hiddenDim : BitVec 64) (_layerId : BitVec 32) :
    CompressedData :=
  let scale := computeScaleFactor kvData
  let quantized := quantizeToInt8 kvData scale
  let rleData := runLengthEncode (deltaEncode quantized)
  ⟨scale, rleData, BitVec.ofNat 64 (kvData.length * 4), BitVec.ofNat 64 rleData.length⟩

/-- `num_tokens` and `hidden_dim` are not read. -/
def decompress (compressed : CompressedData) (_numTokens _hiddenDim : BitVec 64) : List ℚ :=
  dequantizeFromInt8 (deltaDecode (runLengthDecode compressed.rleData)) compressed.scaleFactor

end CxlSpeckv.Compression
