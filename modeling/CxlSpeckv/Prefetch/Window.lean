import CxlSpeckv.Prefetch.Queue

/-!
# The predictor reads only its window

`predict_top_k` cuts the history to its last `history_length_` tokens or pads it on the left
with zeros; the network, the token list and the sort see nothing else. So two histories with
the same window, the last `history_length_` tokens of the history left-padded with zeros, get
the same prediction: tokens older than the window and explicit leading zeros never matter.
-/

namespace CxlSpeckv.Prefetch

/-- The window the spec describes: the history left-padded with zeros to `historyLength`
tokens, and then its last `historyLength` tokens. -/
def historyWindow (historyLength : Nat) (history : List (BitVec 32)) : List (BitVec 32) :=
  lastN historyLength (List.replicate (historyLength - history.length) 0 ++ history)

section Window

variable (L : Nat) (h : List (BitVec 32))

/-- Enough leading zeros, and the last `L` tokens are the missing zeros, then the newest
tokens. -/
theorem lastN_replicate_append {a : Nat} (ha : L - h.length ≤ a) :
    lastN L (List.replicate a 0 ++ h) =
      List.replicate (L - h.length) 0 ++ h.drop (h.length - L) := by
  rw [lastN, List.drop_append_eq_append_drop, List.drop_replicate, List.length_append,
    List.length_replicate]
  congr 2 <;> omega

theorem historyWindow_eq :
    historyWindow L h = List.replicate (L - h.length) 0 ++ h.drop (h.length - L) :=
  lastN_replicate_append L h le_rfl

/-- The three branches of the padding of `predict_top_k` all give the spec's window. -/
theorem padHistory_eq_historyWindow : padHistory L h = historyWindow L h := by
  rw [historyWindow_eq, padHistory]
  split_ifs with h₁ h₂
  · rw [show L - h.length = 0 by omega, List.replicate_zero, List.nil_append]
  · rw [show h.length - L = 0 by omega, List.drop_zero]
  · rw [show L - h.length = 0 by omega, show h.length - L = 0 by omega, List.replicate_zero,
      List.nil_append, List.drop_zero]

/-- Explicit leading zeros do not change the window. -/
theorem historyWindow_replicate_append (n : Nat) :
    historyWindow L (List.replicate n 0 ++ h) = historyWindow L h := by
  rw [historyWindow, ← List.append_assoc, List.append_replicate_replicate,
    lastN_replicate_append L h (by simp only [List.length_append, List.length_replicate]; omega),
    historyWindow_eq]

/-- Tokens before the last `L` do not change the window. -/
theorem historyWindow_append_of_le (older : List (BitVec 32)) (hL : L ≤ h.length) :
    historyWindow L (older ++ h) = historyWindow L h := by
  rw [historyWindow_eq, historyWindow_eq, List.length_append,
    show L - (older.length + h.length) = 0 by omega, show L - h.length = 0 by omega,
    show older.length + h.length - L = older.length + (h.length - L) by omega, List.drop_append]

end Window

namespace LSTMPredictor

variable {α : Type} [LinearOrder α]

/-- Two histories whose windows agree get the same top-k list: tokens older than the window and
explicit leading zeros never change a prediction. -/
theorem same_window_same_prediction (p : LSTMPredictor α) (s : ConfidenceSort α)
    (h₁ h₂ : List (BitVec 32)) (k : Nat)
    (hw : historyWindow p.historyLength h₁ = historyWindow p.historyLength h₂) :
    p.predictTopK s h₁ k = p.predictTopK s h₂ k ∧
      (∀ older, p.historyLength ≤ h₁.length →
        p.predictTopK s (older ++ h₁) k = p.predictTopK s h₁ k) ∧
      ∀ n, p.predictTopK s (List.replicate n 0 ++ h₁) k = p.predictTopK s h₁ k := by
  have hread : ∀ h h', historyWindow p.historyLength h = historyWindow p.historyLength h' →
      p.predictTopK s h k = p.predictTopK s h' k := fun h h' hw => by
    simp only [predictTopK, padHistory_eq_historyWindow, hw]
  exact ⟨hread _ _ hw, fun older hL => hread _ _ (historyWindow_append_of_le _ _ older hL),
    fun n => hread _ _ (historyWindow_replicate_append _ _ n)⟩

/-- With a window of two tokens, `[9, 4, 7]` and `[0, 4, 7]` both read `[4, 7]`. -/
theorem same_window_same_prediction_two_tokens :
    historyWindow 2 [9, 4, 7] = historyWindow 2 [0, 4, 7] ∧
      (⟨4, 2, fun w i => (w.map BitVec.toNat).foldl (· + ·) i⟩ : LSTMPredictor ℕ).predictTopK
          .idsDescending [9, 4, 7] 3 =
        (⟨4, 2, fun w i => (w.map BitVec.toNat).foldl (· + ·) i⟩ : LSTMPredictor ℕ).predictTopK
          .idsDescending [0, 4, 7] 3 :=
  have hw : historyWindow 2 [9, 4, 7] = historyWindow 2 [0, 4, 7] := by decide
  ⟨hw, (same_window_same_prediction (⟨4, 2, fun w i => (w.map BitVec.toNat).foldl (· + ·) i⟩ :
    LSTMPredictor ℕ) .idsDescending [9, 4, 7] [0, 4, 7] 3 hw).1⟩

end LSTMPredictor

end CxlSpeckv.Prefetch
